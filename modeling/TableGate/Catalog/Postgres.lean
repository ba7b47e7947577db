/-
# The catalog of PostgreSQL

The queries that ask the catalog for what a schema holds, for policies and for
counters, and the statements that record changes in a table of their own.

Key definitions: `tables`, `columns`, `primaryKeys`, `foreignKeys`, `indexes`,
`routines`, `parameters`, `views`, `viewColumns`, `policies`, `policyExists`,
`stats`, `changeLogTable`, `changeFunction`, `changeTrigger`, `recordedChanges`.
-/
import TableGate.Sql.Template

namespace TableGate
namespace Catalog.Postgres

/-- The names of the tables of a schema. -/
def tables : String := "
    SELECT table_name
    FROM information_schema.tables
    WHERE table_schema = $1 AND table_type = 'BASE TABLE'
    ORDER BY table_name
"

def columns : String := "
    SELECT
        column_name,
        CASE
            WHEN data_type = 'ARRAY' THEN substring(udt_name FROM 2) || '[]'
            WHEN data_type = 'USER-DEFINED' THEN udt_name
            ELSE data_type
        END AS data_type,
        is_nullable,
        column_default,
        CASE
            WHEN is_identity = 'YES' OR column_default LIKE 'nextval(%' THEN 'YES'
            ELSE 'NO'
        END AS is_identity,
        character_maximum_length,
        numeric_precision,
        numeric_scale
    FROM information_schema.columns
    WHERE table_schema = $1 AND table_name = $2
    ORDER BY ordinal_position
"

/-- The columns of the primary key of a table. -/
def primaryKeys : String := "
    SELECT a.attname AS column_name, k.ord AS ordinal_position
    FROM pg_index i
    JOIN pg_class c ON c.oid = i.indrelid
    JOIN pg_namespace n ON n.oid = c.relnamespace
    CROSS JOIN LATERAL unnest(i.indkey) WITH ORDINALITY AS k(attnum, ord)
    JOIN pg_attribute a ON a.attrelid = c.oid AND a.attnum = k.attnum
    WHERE i.indisprimary AND n.nspname = $1 AND c.relname = $2
    ORDER BY k.ord
"

/-- The columns of the foreign keys of a table. -/
def foreignKeys : String := "
    SELECT
        con.conname AS constraint_name,
        a.attname AS column_name,
        fn.nspname AS foreign_table_schema,
        fc.relname AS foreign_table_name,
        fa.attname AS foreign_column_name,
        k.ord AS ordinal_position,
        CASE con.confdeltype
            WHEN 'c' THEN 'CASCADE' WHEN 'n' THEN 'SET NULL'
            WHEN 'd' THEN 'SET DEFAULT' WHEN 'r' THEN 'RESTRICT'
            ELSE 'NO ACTION'
        END AS delete_rule,
        CASE con.confupdtype
            WHEN 'c' THEN 'CASCADE' WHEN 'n' THEN 'SET NULL'
            WHEN 'd' THEN 'SET DEFAULT' WHEN 'r' THEN 'RESTRICT'
            ELSE 'NO ACTION'
        END AS update_rule
    FROM pg_constraint con
    JOIN pg_class c ON c.oid = con.conrelid
    JOIN pg_namespace n ON n.oid = c.relnamespace
    JOIN pg_class fc ON fc.oid = con.confrelid
    JOIN pg_namespace fn ON fn.oid = fc.relnamespace
    CROSS JOIN LATERAL unnest(con.conkey, con.confkey) WITH ORDINALITY AS k(attnum, fattnum, ord)
    JOIN pg_attribute a ON a.attrelid = con.conrelid AND a.attnum = k.attnum
    JOIN pg_attribute fa ON fa.attrelid = con.confrelid AND fa.attnum = k.fattnum
    WHERE con.contype = 'f'
        AND n.nspname = $1
        AND c.relname = $2
    ORDER BY con.conname, k.ord
"

/-- The columns of the indexes of a table. -/
def indexes : String := "
    SELECT
        ic.relname AS index_name,
        a.attname AS column_name,
        i.indisunique AS is_unique,
        i.indisprimary AS is_primary,
        k.ord AS ordinal_position
    FROM pg_index i
    JOIN pg_class c ON c.oid = i.indrelid
    JOIN pg_class ic ON ic.oid = i.indexrelid
    JOIN pg_namespace n ON n.oid = c.relnamespace
    CROSS JOIN LATERAL unnest(i.indkey) WITH ORDINALITY AS k(attnum, ord)
    JOIN pg_attribute a ON a.attrelid = c.oid AND a.attnum = k.attnum
    WHERE n.nspname = $1 AND c.relname = $2
    ORDER BY ic.relname, k.ord
"

/-- The functions of a schema. -/
def routines : String := "
    SELECT
        p.proname || '_' || p.oid AS specific_name,
        n.nspname AS schema_name,
        p.proname AS function_name,
        pg_get_function_result(p.oid) AS return_type,
        l.lanname AS language,
        pg_get_functiondef(p.oid) AS definition
    FROM pg_proc p
    JOIN pg_namespace n ON n.oid = p.pronamespace
    JOIN pg_language l ON l.oid = p.prolang
    WHERE n.nspname = $1 AND p.prokind IN ('f', 'p')
    ORDER BY p.proname
"

/-- The parameters of the functions of a schema. -/
def parameters : String := "
    SELECT
        specific_name,
        parameter_name,
        data_type,
        parameter_mode,
        parameter_default,
        ordinal_position
    FROM information_schema.parameters
    WHERE specific_schema = $1
    ORDER BY specific_name, ordinal_position
"

def views : String := "
    SELECT table_schema, table_name, view_definition
    FROM information_schema.views
    WHERE table_schema = $1
    ORDER BY table_name
"

/-- The columns of the views of a schema. -/
def viewColumns : String := "
    SELECT c.table_name, c.column_name
    FROM information_schema.columns c
    JOIN information_schema.views v
        ON v.table_schema = c.table_schema AND v.table_name = c.table_name
    WHERE c.table_schema = $1
    ORDER BY c.table_name, c.ordinal_position
"

/-- The row-level policies of a schema, of one table or of all. -/
def policies : String := "
    SELECT
        pol.polname AS name,
        c.relname AS table_name,
        n.nspname AS schema_name,
        CASE pol.polcmd
            WHEN 'r' THEN 'SELECT'
            WHEN 'a' THEN 'INSERT'
            WHEN 'w' THEN 'UPDATE'
            WHEN 'd' THEN 'DELETE'
            ELSE 'ALL'
        END AS operation,
        pg_get_expr(pol.polqual, pol.polrelid) AS using_expression,
        pg_get_expr(pol.polwithcheck, pol.polrelid) AS check_expression,
        (
            SELECT string_agg(r.rolname, ', ' ORDER BY r.rolname)
            FROM pg_roles r
            WHERE r.oid = ANY(pol.polroles)
        ) AS role_name
    FROM pg_policy pol
    JOIN pg_class c ON c.oid = pol.polrelid
    JOIN pg_namespace n ON n.oid = c.relnamespace
    WHERE n.nspname = $1 AND ($2::text IS NULL OR c.relname = $2)
    ORDER BY c.relname, pol.polname
"

/-- A row if a table has a policy with a name. -/
def policyExists : String := "
    SELECT 1
    FROM pg_policy pol
    JOIN pg_class c ON c.oid = pol.polrelid
    JOIN pg_namespace n ON n.oid = c.relnamespace
    WHERE n.nspname = $1 AND c.relname = $2 AND pol.polname = $3
"

/-- The counters of the server. -/
def stats : String := "
    SELECT
        (SELECT count(*) FROM pg_stat_activity) AS connections,
        (SELECT count(*) FROM pg_stat_activity WHERE state = 'active') AS active_queries,
        pg_database_size(current_database()) AS database_size,
        (
            SELECT count(*)
            FROM information_schema.tables
            WHERE table_schema = $1 AND table_type = 'BASE TABLE'
        ) AS table_count
"

/-- Creates the table that changes are recorded in. -/
def changeLogTable : Template :=
  [.text "
    CREATE TABLE IF NOT EXISTS ",
   .hole "log_table",
   .text " (
        id BIGSERIAL PRIMARY KEY,
        table_name TEXT NOT NULL,
        operation TEXT NOT NULL,
        old_data JSONB,
        new_data JSONB,
        changed_at TIMESTAMPTZ NOT NULL DEFAULT now()
    )
"]

/-- Creates the function that records a change. -/
def changeFunction : Template :=
  [.text "
    CREATE OR REPLACE FUNCTION ",
   .hole "function",
   .text "() RETURNS trigger AS $body$
    BEGIN
        IF TG_OP = 'DELETE' THEN
            INSERT INTO ",
   .hole "log_table",
   .text " (table_name, operation, old_data)
            VALUES (TG_TABLE_NAME, TG_OP, to_jsonb(OLD));
            RETURN OLD;
        ELSIF TG_OP = 'UPDATE' THEN
            INSERT INTO ",
   .hole "log_table",
   .text " (table_name, operation, old_data, new_data)
            VALUES (TG_TABLE_NAME, TG_OP, to_jsonb(OLD), to_jsonb(NEW));
            RETURN NEW;
        ELSE
            INSERT INTO ",
   .hole "log_table",
   .text " (table_name, operation, new_data)
            VALUES (TG_TABLE_NAME, TG_OP, to_jsonb(NEW));
            RETURN NEW;
        END IF;
    END;
    $body$ LANGUAGE plpgsql
"]

/-- Has every change of a table recorded. -/
def changeTrigger : Template :=
  [.text "
    CREATE TRIGGER ",
   .hole "trigger",
   .text "
    AFTER INSERT OR UPDATE OR DELETE ON ",
   .hole "table",
   .text "
    FOR EACH ROW EXECUTE FUNCTION ",
   .hole "function",
   .text "()
"]

/-- The recorded changes of a table after a number, oldest first. -/
def recordedChanges : Template :=
  [.text "
    SELECT id, operation, old_data, new_data, changed_at
    FROM ",
   .hole "log_table",
   .text "
    WHERE table_name = $1 AND id > $2
    ORDER BY id
    LIMIT 100
"]

end Catalog.Postgres
end TableGate
