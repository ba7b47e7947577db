/-
# The catalog of SQL Server

The queries that ask the catalog for what a schema holds, for policies and for
counters, and the statements that turn the capture of changes on and off and read
what it captured.

Key definitions: `tables`, `columns`, `primaryKeys`, `foreignKeys`, `indexes`,
`routines`, `parameters`, `views`, `viewColumns`, `policies`,
`tablePolicyNames`, `enableCapture`, `disableCapture`, `capturedChanges`,
`stats`.
-/
import TableGate.Sql.Template

namespace TableGate
namespace Catalog.SqlServer

/-- The names of the tables of a schema. -/
def tables : String := "
    SELECT TABLE_NAME AS table_name
    FROM INFORMATION_SCHEMA.TABLES
    WHERE TABLE_SCHEMA = @param0 AND TABLE_TYPE = 'BASE TABLE'
    ORDER BY TABLE_NAME
"

def columns : String := "
    SELECT
        c.COLUMN_NAME AS column_name,
        c.DATA_TYPE AS data_type,
        c.IS_NULLABLE AS is_nullable,
        c.COLUMN_DEFAULT AS column_default,
        COLUMNPROPERTY(
            OBJECT_ID(QUOTENAME(c.TABLE_SCHEMA) + '.' + QUOTENAME(c.TABLE_NAME)),
            c.COLUMN_NAME,
            'IsIdentity'
        ) AS is_identity,
        c.CHARACTER_MAXIMUM_LENGTH AS character_maximum_length,
        c.NUMERIC_PRECISION AS numeric_precision,
        c.NUMERIC_SCALE AS numeric_scale
    FROM INFORMATION_SCHEMA.COLUMNS c
    WHERE c.TABLE_SCHEMA = @param0 AND c.TABLE_NAME = @param1
    ORDER BY c.ORDINAL_POSITION
"

/-- The columns of the primary key of a table. -/
def primaryKeys : String := "
    SELECT kcu.COLUMN_NAME AS column_name, kcu.ORDINAL_POSITION AS ordinal_position
    FROM INFORMATION_SCHEMA.TABLE_CONSTRAINTS tc
    JOIN INFORMATION_SCHEMA.KEY_COLUMN_USAGE kcu
        ON kcu.CONSTRAINT_NAME = tc.CONSTRAINT_NAME
        AND kcu.CONSTRAINT_SCHEMA = tc.CONSTRAINT_SCHEMA
    WHERE tc.CONSTRAINT_TYPE = 'PRIMARY KEY'
        AND tc.TABLE_SCHEMA = @param0
        AND tc.TABLE_NAME = @param1
    ORDER BY kcu.ORDINAL_POSITION
"

/-- The columns of the foreign keys of a table. -/
def foreignKeys : String := "
    SELECT
        fk.name AS constraint_name,
        pc.name AS column_name,
        SCHEMA_NAME(rt.schema_id) AS foreign_table_schema,
        rt.name AS foreign_table_name,
        rc.name AS foreign_column_name,
        fkc.constraint_column_id AS ordinal_position,
        fk.delete_referential_action_desc AS delete_rule,
        fk.update_referential_action_desc AS update_rule
    FROM sys.foreign_keys fk
    JOIN sys.foreign_key_columns fkc ON fkc.constraint_object_id = fk.object_id
    JOIN sys.tables pt ON pt.object_id = fk.parent_object_id
    JOIN sys.columns pc
        ON pc.object_id = fkc.parent_object_id AND pc.column_id = fkc.parent_column_id
    JOIN sys.tables rt ON rt.object_id = fk.referenced_object_id
    JOIN sys.columns rc
        ON rc.object_id = fkc.referenced_object_id AND rc.column_id = fkc.referenced_column_id
    WHERE SCHEMA_NAME(pt.schema_id) = @param0 AND pt.name = @param1
    ORDER BY fk.name, fkc.constraint_column_id
"

/-- The columns of the indexes of a table. -/
def indexes : String := "
    SELECT
        i.name AS index_name,
        c.name AS column_name,
        i.is_unique,
        i.is_primary_key AS is_primary,
        ic.key_ordinal AS ordinal_position
    FROM sys.indexes i
    JOIN sys.index_columns ic ON ic.object_id = i.object_id AND ic.index_id = i.index_id
    JOIN sys.columns c ON c.object_id = ic.object_id AND c.column_id = ic.column_id
    JOIN sys.tables t ON t.object_id = i.object_id
    WHERE SCHEMA_NAME(t.schema_id) = @param0
        AND t.name = @param1
        AND i.name IS NOT NULL
        AND i.is_hypothetical = 0
        AND ic.is_included_column = 0
    ORDER BY i.name, ic.key_ordinal
"

/-- The functions of a schema. -/
def routines : String := "
    SELECT
        r.SPECIFIC_NAME AS specific_name,
        r.ROUTINE_SCHEMA AS schema_name,
        r.ROUTINE_NAME AS function_name,
        r.DATA_TYPE AS return_type,
        'SQL' AS language,
        OBJECT_DEFINITION(
            OBJECT_ID(QUOTENAME(r.ROUTINE_SCHEMA) + '.' + QUOTENAME(r.ROUTINE_NAME))
        ) AS definition
    FROM INFORMATION_SCHEMA.ROUTINES r
    WHERE r.ROUTINE_SCHEMA = @param0 AND r.ROUTINE_TYPE = 'FUNCTION'
    ORDER BY r.ROUTINE_NAME
"

/-- The parameters of the functions of a schema. -/
def parameters : String := "
    SELECT
        p.SPECIFIC_NAME AS specific_name,
        p.PARAMETER_NAME AS parameter_name,
        p.DATA_TYPE AS data_type,
        p.PARAMETER_MODE AS parameter_mode,
        p.ORDINAL_POSITION AS ordinal_position
    FROM INFORMATION_SCHEMA.PARAMETERS p
    WHERE p.SPECIFIC_SCHEMA = @param0 AND p.ORDINAL_POSITION > 0
    ORDER BY p.SPECIFIC_NAME, p.ORDINAL_POSITION
"

def views : String := "
    SELECT
        v.TABLE_SCHEMA AS table_schema,
        v.TABLE_NAME AS table_name,
        OBJECT_DEFINITION(
            OBJECT_ID(QUOTENAME(v.TABLE_SCHEMA) + '.' + QUOTENAME(v.TABLE_NAME))
        ) AS view_definition
    FROM INFORMATION_SCHEMA.VIEWS v
    WHERE v.TABLE_SCHEMA = @param0
    ORDER BY v.TABLE_NAME
"

/-- The columns of the views of a schema. -/
def viewColumns : String := "
    SELECT c.TABLE_NAME AS table_name, c.COLUMN_NAME AS column_name
    FROM INFORMATION_SCHEMA.COLUMNS c
    JOIN INFORMATION_SCHEMA.VIEWS v
        ON v.TABLE_SCHEMA = c.TABLE_SCHEMA AND v.TABLE_NAME = c.TABLE_NAME
    WHERE c.TABLE_SCHEMA = @param0
    ORDER BY c.TABLE_NAME, c.ORDINAL_POSITION
"

/-- The row-level policies of a schema, of one table or of all. -/
def policies : String := "
    SELECT
        sp.name AS name,
        OBJECT_NAME(pr.target_object_id) AS table_name,
        OBJECT_SCHEMA_NAME(pr.target_object_id) AS schema_name,
        pr.predicate_type_desc AS predicate_type,
        pr.predicate_definition AS predicate_definition,
        sp.is_enabled
    FROM sys.security_policies sp
    JOIN sys.security_predicates pr ON pr.object_id = sp.object_id
    WHERE OBJECT_SCHEMA_NAME(pr.target_object_id) = @param0
        AND (@param1 IS NULL OR OBJECT_NAME(pr.target_object_id) = @param1)
    ORDER BY OBJECT_NAME(pr.target_object_id), sp.name
"

def tablePolicyNames : String := "
    SELECT DISTINCT SCHEMA_NAME(sp.schema_id) AS policy_schema, sp.name AS name
    FROM sys.security_policies sp
    JOIN sys.security_predicates pr ON pr.object_id = sp.object_id
    WHERE OBJECT_SCHEMA_NAME(pr.target_object_id) = @param0
        AND OBJECT_NAME(pr.target_object_id) = @param1
"

/-- Turns the capture of changes of a table on. -/
def enableCapture : String := "
    EXEC sys.sp_cdc_enable_table
        @source_schema = @param0,
        @source_name = @param1,
        @role_name = NULL
"

/-- Turns the capture of changes of a table off. -/
def disableCapture : String := "
    EXEC sys.sp_cdc_disable_table
        @source_schema = @param0,
        @source_name = @param1,
        @capture_instance = 'all'
"

/-- The captured changes after a position, oldest first. -/
def capturedChanges : Template :=
  [.text "
    SELECT *
    FROM ",
   .hole "change_table",
   .text "
    WHERE (
        __$start_lsn > CAST(@param0 AS binary(10))
        OR (__$start_lsn = CAST(@param0 AS binary(10)) AND __$seqval > CAST(@param1 AS binary(10)))
    )
        AND __$operation IN (1, 2, 4)
    ORDER BY __$start_lsn, __$seqval
"]

def stats : String := "
    SELECT
        (SELECT COUNT(*) FROM sys.dm_exec_connections) AS connections,
        (SELECT COUNT(*) FROM sys.dm_exec_requests WHERE status = 'running') AS active_queries,
        (SELECT SUM(CAST(size AS bigint)) * 8 * 1024 FROM sys.database_files) AS database_size,
        (
            SELECT COUNT(*)
            FROM INFORMATION_SCHEMA.TABLES
            WHERE TABLE_TYPE = 'BASE TABLE'
        ) AS table_count
"

end Catalog.SqlServer
end TableGate
