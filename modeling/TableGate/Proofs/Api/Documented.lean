/-
# Filters that are documented

The description of the interface lists, for the routes that change and remove the
rows of a table, a parameter of the query string for each of its columns
(`OpenApi.listed_document`).

Such a parameter is honoured unless its name is a reserved key: the request is
refused, or its one statement stands under the test of that pair, at the place of
the pair among the others (`Mutation.action_append_of_notMem`). A pair under a
reserved key is passed over, so a column with such a name is documented as a filter
and is none: the others decide alone (`Mutation.action_append_of_mem`).

Key definitions: `OpenApi.listed`, `Mutation.method`, `Mutation.Honours`.
Key theorems: `OpenApi.listed_document`,
`Mutation.action_append_of_mem`, `Mutation.action_append_of_notMem`,
`Mutation.documented_filter`.
-/
import TableGate.Proofs.Api.Mutations
import TableGate.Proofs.Mapping

namespace TableGate

/-! ### What is documented -/

namespace OpenApi

def queryName? (parameter : Value) : Option String :=
  match parameter.at? "in", parameter.at? "name" with
  | some (.text place), some (.text name) => if place = "query" then some name else none
  | _, _ => none

/-- The parameters of the query string that a document lists for a route and a
method, by their names. -/
def listed (document : Value) (route method : String) : List String :=
  let operation := ((document.at? "paths").bind (·.at? route)).bind (·.at? method)
  match operation.bind (·.at? "parameters") with
  | some (.list parameters) => parameters.filterMap queryName?
  | _ => []

theorem listed_filterParameters (t : Table) :
    (filterParameters t).filterMap queryName? = t.columns.map Column.name := by
  rw [filterParameters, List.filterMap_map, ← List.filterMap_eq_map]
  rfl

variable {tables : List Table} {t : Table} {base : String}

/-- No other table takes the route of the rows of this one. -/
def HasRoute (tables : List Table) (t : Table) (base : String) : Prop :=
  t ∈ tables ∧ ∀ u ∈ tables, ∀ entry ∈ tablePaths u base,
    entry.1 = base ++ "/" ++ t.name → entry.2 = collectionItem t

/-- The operations on the rows of a table are found under their route. -/
theorem at?_document (h : HasRoute tables t base) (provider : String) :
    ((document tables provider base).at? "paths").bind (·.at? (base ++ "/" ++ t.name)) =
      some (collectionItem t) := by
  have hmem : (base ++ "/" ++ t.name, collectionItem t) ∈
      tables.flatMap fun u => tablePaths u base :=
    List.mem_flatMap.mpr ⟨t, h.1, List.mem_cons_self⟩
  change Value.lookup? (Value.mergeKeys _) _ = _
  rw [Value.lookup?_mergeKeys]
  refine Value.lookup?_eq_some (List.mem_reverse.mpr hmem) fun entry hentry hroute => ?_
  obtain ⟨u, hu, hentry⟩ := List.mem_flatMap.mp (List.mem_reverse.mp hentry)
  exact h.2 u hu entry hentry hroute

/-- **A parameter is documented for each column**, where rows are changed and where
they are removed. -/
theorem listed_document (h : HasRoute tables t base) (provider : String) {method : String}
    (hmethod : method = "patch" ∨ method = "delete") :
    listed (document tables provider base) (base ++ "/" ++ t.name) method =
      t.columns.map Column.name := by
  have hparameters : ((collectionItem t).at? method).bind (·.at? "parameters") =
      some (.list (filterParameters t)) := by
    rcases hmethod with rfl | rfl <;> rfl
  rw [listed, at?_document h]
  simp only [Option.bind_some, hparameters]
  exact listed_filterParameters t

end OpenApi

/-! ### What is honoured -/

namespace Service
namespace Mutation

open OpenApi

variable {σ : Type} {front back : List (String × Value)} {pair : String × Value}

def method : Mutation → String
  | .update _ => "patch"
  | .delete => "delete"

/-- A pair between others is honoured: nothing is sent, or one statement that stands
under the test of the pair, between those of the others. -/
def Honours (m : Mutation) (s : Service σ) (table : String) (front : List (String × Value))
    (pair : String × Value) (back : List (String × Value)) : Prop :=
  (∃ e, m.action s table (front ++ pair :: back) = throw e) ∨
    ∃ head frontTests test backTests, m.head s table = .ok head ∧
      TestsOf s.adapter.dialect (conditionPairs front) frontTests ∧
      TestsOf s.adapter.dialect [pair] [test] ∧
      TestsOf s.adapter.dialect (conditionPairs back) backTests ∧
      m.action s table (front ++ pair :: back) = issue s
        (head ++ .text " WHERE " :: joinPieces " AND " (frontTests ++ test :: backTests))

/-- **A pair under a reserved key is passed over.** -/
theorem action_append_of_mem (m : Mutation) (s : Service σ) (table : String)
    (h : pair.1 ∈ Query.reservedKeys) :
    m.action s table (front ++ pair :: back) = m.action s table (front ++ back) := by
  have hpairs : conditionPairs (front ++ pair :: back) = conditionPairs (front ++ back) := by
    simp [conditionPairs, h]
  cases m with
  | update body => rw [action, action, Service.update, Service.update, hpairs]
  | delete => rw [action, action, Service.delete, Service.delete, hpairs]

theorem conditionPairs_append (h : pair.1 ∉ Query.reservedKeys) :
    conditionPairs (front ++ pair :: back) =
      conditionPairs front ++ pair :: conditionPairs back := by
  simp [conditionPairs, h]

/-- **Every other pair is honoured.** -/
theorem action_append_of_notMem (m : Mutation) (s : Service σ) (table : String)
    (h : pair.1 ∉ Query.reservedKeys) : m.Honours s table front pair back := by
  rcases m.action_cases s table (front ++ pair :: back) with he |
    ⟨head, tests, hhead, -, htests, hissue⟩
  · exact .inl he
  · rw [conditionPairs_append h] at htests
    obtain ⟨frontTests, rest, rfl, hfront, hrest⟩ := Results.append_of_forall₂ htests
    obtain ⟨test, backTests, htest, hback, rfl⟩ := List.forall₂_cons_left_iff.mp hrest
    exact .inr ⟨head, frontTests, test, backTests, hhead, hfront, .cons htest .nil, hback, hissue⟩

/-- **A documented filter is honoured unless its name is a reserved key**, and then
it is passed over. The routes that change and remove the rows of a table list a
filter for each column. A pair under the name of one of them is honoured, whatever
stands before and after it, if the name is not reserved; if it is, the rest of the
pairs are all that is asked for. -/
theorem documented_filter (m : Mutation) (s : Service σ) {tables : List Table} {t : Table}
    (h : HasRoute tables t s.basePath) (provider : String) :
    listed (document tables provider s.basePath) (s.basePath ++ "/" ++ t.name) m.method =
        t.columns.map Column.name ∧
      ∀ front pair back, pair.1 ∈ t.columns.map Column.name →
        (pair.1 ∉ Query.reservedKeys → m.Honours s t.name front pair back) ∧
        (pair.1 ∈ Query.reservedKeys →
          m.action s t.name (front ++ pair :: back) = m.action s t.name (front ++ back)) := by
  have hmethod : m.method = "patch" ∨ m.method = "delete" := by
    cases m with
    | update body => exact .inl rfl
    | delete => exact .inr rfl
  exact ⟨listed_document h provider hmethod, fun front pair back _ =>
    ⟨action_append_of_notMem m s t.name, action_append_of_mem m s t.name⟩⟩

section Quotas

theorem defaultMaxRows_pos : 0 < defaultMaxRows := by decide

/-- A table with a column that has the name of a reserved key. -/
def quotas : Table where
  schema := "public"
  name := "quotas"
  columns := [{ name := "limit", dataType := "integer" }, { name := "owner", dataType := "integer" }]
  primaryKeys := []
  foreignKeys := []
  indexes := []
  keyed := by simp

/-- A service of its schema. -/
def quotaService : Service Script :=
  ⟨⟨.postgres, Script.driver, .ok false⟩, "public", 1000, defaultMaxRows_pos, ""⟩

/-- What a request sends in a session with it. -/
def sentBy (act : Action Script Value) : List String :=
  (act.runIn { backend := {}, pool := some 0 }).2.sent

theorem hasRoute_quotas : HasRoute [quotas] quotas quotaService.basePath := by
  refine ⟨List.mem_singleton.mpr rfl, fun u hu entry hentry _ => ?_⟩
  obtain rfl := List.mem_singleton.mp hu
  rw [List.mem_singleton.mp hentry]

/-- Of two documented filters the one under a reserved key is passed over. -/
theorem documented_filter_quotas :
    listed (document [quotas] "postgresql" "") "/quotas" "delete" = ["limit", "owner"] ∧
      Mutation.delete.Honours quotaService "quotas" [("limit", .text "eq.5")]
        ("owner", .text "eq.1") [] ∧
      Mutation.delete.action quotaService "quotas"
          [("limit", .text "eq.5"), ("owner", .text "eq.1")] =
        Mutation.delete.action quotaService "quotas" [("owner", .text "eq.1")] := by
  obtain ⟨hlisted, hpairs⟩ := documented_filter .delete quotaService hasRoute_quotas "postgresql"
  exact ⟨hlisted, (hpairs [("limit", .text "eq.5")] ("owner", .text "eq.1") [] (by decide)).1
      (by decide),
    (hpairs [] ("limit", .text "eq.5") [("owner", .text "eq.1")] (by decide)).2 (by decide)⟩

/-- Not every documented filter is honoured. -/
theorem not_honours_documented :
    ¬∀ (m : Mutation) (s : Service Script) tables t provider, HasRoute tables t s.basePath →
      ∀ front pair back,
        pair.1 ∈ listed (document tables provider s.basePath) (s.basePath ++ "/" ++ t.name)
          m.method →
        m.Honours s t.name front pair back := by
  intro hall
  have hlisted : listed (document [quotas] "postgresql" quotaService.basePath)
      (quotaService.basePath ++ "/" ++ quotas.name) Mutation.delete.method = ["limit", "owner"] :=
    listed_document hasRoute_quotas "postgresql" (.inr rfl)
  have hsent : sentBy (Mutation.delete.action quotaService "quotas"
      [("limit", .text "eq.5"), ("owner", .text "eq.1")]) =
        ["DELETE FROM \"public\".\"quotas\" WHERE \"owner\" = $1"] := rfl
  rcases hall .delete quotaService [quotas] quotas "postgresql" hasRoute_quotas []
    ("limit", .text "eq.5") [("owner", .text "eq.1")] (by rw [hlisted]; decide) with ⟨e, he⟩ |
    ⟨head, frontTests, test, backTests, hhead, hfront, htest, hback, hhonoured⟩
  · have hnone : sentBy (throw e) = [] := rfl
    have hrefused := congrArg sentBy he
    rw [hnone] at hrefused
    exact absurd (hsent.symm.trans hrefused) (by decide)
  · obtain rfl := Results.pure_eq_ok_iff.mp hhead
    obtain rfl := List.forall₂_nil_left_iff.mp hfront
    obtain ⟨_, _, ⟨c, hc, htest⟩, -, hcons⟩ := List.forall₂_cons_left_iff.mp htest
    obtain rfl := (List.cons.inj hcons).1
    obtain ⟨_, _, ⟨d, hd, hother⟩, hnil, rfl⟩ := List.forall₂_cons_left_iff.mp hback
    obtain rfl := List.forall₂_nil_left_iff.mp hnil
    obtain rfl := Except.ok.inj hc
    obtain rfl := Except.ok.inj hd
    obtain rfl := Except.ok.inj htest
    obtain rfl := Except.ok.inj hother
    have hboth := congrArg sentBy hhonoured
    exact absurd (hsent.symm.trans hboth) (by decide)

end Quotas

end Mutation
end Service
end TableGate
