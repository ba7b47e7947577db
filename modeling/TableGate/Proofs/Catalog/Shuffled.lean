/-
# Keys are folded back from rows that come in any order

A foreign key or an index is told of by one row for each of its columns, with the place
of the column from one on and with everything else of the key in each of the rows
(`Catalog.IsForeignKeyRows`, `Catalog.IsIndexRows`). The actions and the flags may be
spelled in several ways (`Catalog.Spelled`, `Catalog.SaysFlag`).

The rows of several keys may come mixed in any way. The name gathers the rows of one
key, which are all the rows there are with that name; their places are different, so they
have one order; and the names have one order too. So the keys come back as they were,
each once, in the order of their names (`Catalog.folds_shuffled`).

Key definitions: `Catalog.Spelled`, `Catalog.IsForeignKeyRows`, `Catalog.IsIndexRows`,
`Catalog.Shuffled`.
Key theorems: `Catalog.action_spelled`, `Catalog.groupRows_eq`,
`Catalog.foldGroups_shuffled`, `Catalog.folds_shuffled`.
-/
import TableGate.Proofs.Catalog.Folding
import TableGate.Proofs.Text.Cut

namespace TableGate
namespace Catalog

/-! ### Spellings -/

/-- Words spelled with their letters in either case, and with blanks or underscores
between them, one or more. -/
inductive Spelled : List Char → List Char → Prop
  | nil : Spelled [] []
  | letter {c u : Char} {cs us : List Char} :
      u.isUpper = true → c.toUpper = u → Spelled cs us → Spelled (c :: cs) (u :: us)
  | gap {gaps cs us : List Char} : gaps ≠ [] → (∀ c ∈ gaps, c = ' ' ∨ c = '_') →
      Spelled cs us → Spelled (gaps ++ cs) (' ' :: us)

theorem Spelled.word : ∀ cs : List Char, (∀ c ∈ cs, c.toUpper.isUpper = true) →
    Spelled cs (cs.map Char.toUpper)
  | [], _ => .nil
  | c :: cs, h => by
    obtain ⟨hc, hcs⟩ := List.forall_mem_cons.mp h
    exact .letter hc rfl (Spelled.word cs hcs)

theorem Spelled.append {cs us ds vs : List Char} (h : Spelled cs us) (h' : Spelled ds vs) :
    Spelled (cs ++ ds) (us ++ vs) := by
  induction h with
  | nil => exact h'
  | letter hu hc _ ih => exact .letter hu hc ih
  | gap hne hgaps _ ih =>
    rw [List.append_assoc]
    exact .gap hne hgaps ih

/-- A flag as a catalog gives it: a boolean, a bit or a word. -/
inductive SaysFlag : Value → Bool → Prop
  | bool (b : Bool) : SaysFlag (.bool b) b
  | bit (b : Bool) : SaysFlag (.int (if b then 1 else 0)) b
  | word {s : String} (b : Bool) :
      Spelled s.toList (if b then "YES" else "NO").toList → SaysFlag (.text s) b

/-- A character that is one of the letters from A to Z in upper case is one of them. -/
theorem letter_of_toUpper {c u : Char} (hu : u.isUpper = true) (hc : c.toUpper = u) :
    (65 ≤ c.toNat ∧ c.toNat ≤ 90) ∨ (97 ≤ c.toNat ∧ c.toNat ≤ 122) := by
  unfold Char.toUpper at hc
  split at hc
  · next hlower =>
    simp only [UInt32.le_iff_toNat_le] at hlower
    exact .inr hlower
  · subst hc
    exact .inl (of_decide_eq_true hu)

theorem upperChar_of_letter {c u : Char} (hu : u.isUpper = true) (hc : c.toUpper = u) :
    Text.upperChar c = [u] := by
  have hletter := letter_of_toUpper hu hc
  rw [Text.upperChar, if_pos (by omega), hc]

/-- A letter of either case is no blank, in upper case neither. -/
theorem isBlank_of_spelled {c u : Char} (hu : u.isUpper = true) (hc : c.toUpper = u) :
    Text.isBlank c = false ∧ Text.isBlank u = false := by
  have hletter := letter_of_toUpper hu hc
  have hupper : 65 ≤ u.toNat ∧ u.toNat ≤ 90 := of_decide_eq_true hu
  exact ⟨Text.isBlank_of_isVisible (by omega), Text.isBlank_of_isVisible (by omega)⟩

theorem wordsFrom_of_not_blank {c : Char} (h : Text.isBlank c = false) (word cs : List Char) :
    Text.wordsFrom word (c :: cs) = Text.wordsFrom (c :: word) cs := by
  rw [Text.wordsFrom, h]
  rfl

theorem wordsFrom_blank (word cs : List Char) :
    Text.wordsFrom word (' ' :: cs) =
      if word.isEmpty then Text.wordsFrom [] cs else word.reverse :: Text.wordsFrom [] cs :=
  rfl

/-- The underscore as a blank. -/
def spaced (c : Char) : Char := if c = '_' then ' ' else c

theorem spaced_gap {c : Char} (h : c = ' ' ∨ c = '_') : spaced c = ' ' := by
  rcases h with rfl | rfl <;> rfl

theorem spaced_letter {c u : Char} (hu : u.isUpper = true) (hc : c.toUpper = u) : spaced c = c := by
  refine if_neg ?_
  rintro rfl
  exact absurd (letter_of_toUpper hu hc) (by decide)

/-- The text of a spelling as the words are looked for in it. -/
def leveled (cs : List Char) : List Char := (cs.map spaced).flatMap Text.upperChar

theorem leveled_letter {c u : Char} (hu : u.isUpper = true) (hc : c.toUpper = u) (cs : List Char) :
    leveled (c :: cs) = u :: leveled cs := by
  rw [leveled, List.map_cons, List.flatMap_cons, spaced_letter hu hc, upperChar_of_letter hu hc]
  rfl

theorem leveled_gap {c : Char} (h : c = ' ' ∨ c = '_') (cs : List Char) :
    leveled (c :: cs) = ' ' :: leveled cs := by
  rw [leveled, List.map_cons, List.flatMap_cons, spaced_gap h]
  rfl

theorem wordsFrom_gaps {gaps : List Char} (h : ∀ c ∈ gaps, c = ' ' ∨ c = '_') (cs : List Char) :
    Text.wordsFrom [] (leveled (gaps ++ cs)) = Text.wordsFrom [] (leveled cs) := by
  induction gaps with
  | nil => rfl
  | cons c gaps ih =>
    obtain ⟨hc, hgaps⟩ := List.forall_mem_cons.mp h
    rw [List.cons_append, leveled_gap hc, wordsFrom_blank]
    exact ih hgaps

/-- **The words of a spelling are those that it spells.** -/
theorem wordsFrom_spelled {cs us : List Char} (h : Spelled cs us) : ∀ word : List Char,
    Text.wordsFrom word (leveled cs) = Text.wordsFrom word us := by
  induction h with
  | nil => exact fun _ => rfl
  | letter hu hc _ ih =>
    intro word
    have hblank := (isBlank_of_spelled hu hc).2
    rw [leveled_letter hu hc, wordsFrom_of_not_blank hblank, wordsFrom_of_not_blank hblank, ih]
  | gap hne hgaps _ ih =>
    intro word
    obtain ⟨c, gaps, rfl⟩ := List.exists_cons_of_ne_nil hne
    obtain ⟨hc, hgaps⟩ := List.forall_mem_cons.mp hgaps
    rw [List.cons_append, leveled_gap hc, wordsFrom_blank, wordsFrom_blank, wordsFrom_gaps hgaps,
      ih]

theorem Spelled.ne_nil {cs us : List Char} (h : Spelled cs us) (hus : us ≠ []) : cs ≠ [] := by
  cases h with
  | nil => exact hus
  | letter => exact List.cons_ne_nil _ _
  | gap hne => exact List.append_ne_nil_of_left_ne_nil hne _

/-- **An action is read from each of its spellings.** -/
theorem action_spelled {s : String} {a : ReferentialAction} (h : Spelled s.toList a.text.toList) :
    action (.text s) = a := by
  have hwords : Text.words (Text.upper (String.ofList (s.toList.map spaced))) =
      (Text.wordsFrom [] a.text.toList).map String.ofList := by
    rw [Text.words, Text.upper, String.toList_ofList, String.toList_ofList]
    exact congrArg (List.map String.ofList) (wordsFrom_spelled h [])
  have htext : Text.join " " ((Text.wordsFrom [] a.text.toList).map String.ofList) = a.text := by
    cases a <;> decide
  have htruthy : (Value.text s).isTruthy = true := by
    have hne : s.toList ≠ [] := h.ne_nil (by cases a <;> decide)
    have hempty : s.isEmpty = false := by
      rw [Bool.eq_false_iff]
      exact fun hs => hne (by simp [String.isEmpty_iff.mp hs])
    simp [Value.isTruthy, hempty]
  rw [action, if_pos htruthy]
  change (ReferentialAction.ofText? (Text.join " "
    (Text.words (Text.upper (String.ofList (s.toList.map spaced)))))).getD .noAction = a
  rw [hwords, htext, ReferentialAction.ofText?_text]
  rfl

theorem upper_spelled {cs us : List Char} (h : Spelled cs us) (hword : ' ' ∉ us) :
    cs.flatMap Text.upperChar = us ∧ ∀ c ∈ cs, Text.isBlank c = false := by
  induction h with
  | nil => exact ⟨rfl, List.forall_mem_nil _⟩
  | letter hu hc _ ih =>
    obtain ⟨hupper, hblank⟩ := ih (List.not_mem_of_not_mem_cons hword)
    refine ⟨?_, List.forall_mem_cons.mpr ⟨(isBlank_of_spelled hu hc).1, hblank⟩⟩
    rw [List.flatMap_cons, upperChar_of_letter hu hc, hupper]
    rfl
  | gap => exact absurd List.mem_cons_self hword

/-- **A flag is read from each of its forms.** -/
theorem flag_says {v : Value} {b : Bool} (h : SaysFlag v b) : flag v = b := by
  cases h with
  | bool => rfl
  | bit => cases b <;> rfl
  | @word s b hspelled =>
    have hword : ' ' ∉ (if b then "YES" else "NO").toList := by
      cases b <;> decide
    obtain ⟨hupper, hblank⟩ := upper_spelled hspelled hword
    rw [flag, Text.trim_of_all hblank, Text.upper, hupper]
    cases b <;> decide

/-! ### Groups -/

variable {key : String} {rows : List Row}

/-- The rows that have the text under the key. -/
def named (key : String) (rows : List Row) (s : String) : List Row :=
  rows.filter fun row => textAt key row = s

theorem named_append_singleton (rows : List Row) (row : Row) (s : String) :
    named key (rows ++ [row]) s =
      if s = textAt key row then named key rows s ++ [row] else named key rows s := by
  rw [named, List.filter_append]
  by_cases hs : s = textAt key row
  · rw [if_pos hs, List.filter_cons_of_pos (by simpa using hs.symm)]
    rfl
  · rw [if_neg hs, List.filter_cons_of_neg (by simpa using Ne.symm hs), List.filter_nil,
      List.append_nil]
    rfl

theorem isSameKey_text (s t : String) : (Value.text s).isSameKey (.text t) = decide (s = t) := by
  have hcompare : compare s t = .eq ↔ s = t := compare_eq_iff_eq
  rw [Bool.eq_iff_iff, decide_eq_true_iff, ← hcompare]
  simp [Value.isSameKey, Value.compare?]

/-- A row goes to the group with its name, or to a new one at the end. -/
theorem addToGroup_map (s : String) (row : Row) (f : String → List Row) : ∀ {names : List String},
    names.Nodup → addToGroup (.text s) row (names.map fun t => (.text t, f t)) =
      if s ∈ names then names.map fun t => (.text t, if t = s then f t ++ [row] else f t)
      else names.map (fun t => (.text t, f t)) ++ [(.text s, [row])]
  | [], _ => rfl
  | t :: names, h => by
    obtain ⟨ht, hnames⟩ := List.nodup_cons.mp h
    rw [List.map_cons, addToGroup, isSameKey_text]
    by_cases hs : t = s
    · subst hs
      have hothers : (names.map fun u => (Value.text u, if u = t then f u ++ [row] else f u)) =
          names.map fun u => (Value.text u, f u) := by
        refine List.map_congr_left fun u hu => ?_
        have hut : u ≠ t := ne_of_mem_of_not_mem hu ht
        rw [if_neg hut]
      rw [if_pos (decide_eq_true rfl), if_pos List.mem_cons_self, List.map_cons, if_pos rfl,
        hothers]
    · rw [if_neg (by simpa using hs), addToGroup_map s row f hnames]
      have hmem : s ∈ t :: names ↔ s ∈ names := by
        rw [List.mem_cons]
        exact or_iff_right (Ne.symm hs)
      by_cases hsn : s ∈ names
      · rw [if_pos hsn, if_pos (hmem.mpr hsn), List.map_cons, if_neg hs]
      · rw [if_neg hsn, if_neg (mt hmem.mp hsn)]
        rfl

/-- **The groups are the rows with one name each**, for every name that a row has. -/
theorem groupRows_eq (h : ∀ row ∈ rows, HasText row key) :
    ∃ names : List String, names.Nodup ∧ (∀ s, s ∈ names ↔ s ∈ rows.map (textAt key)) ∧
      groupRows key rows = .ok (names.map fun s => (.text s, named key rows s)) := by
  induction rows using List.reverseRecOn with
  | nil => exact ⟨[], List.nodup_nil, fun _ => Iff.rfl, rfl⟩
  | append_singleton rows row ih =>
    obtain ⟨hrows, hrow⟩ := List.forall_mem_append.mp h
    obtain ⟨names, hnodup, hmem, hgroups⟩ := ih hrows
    have hstep : groupRows key (rows ++ [row]) =
        .ok (addToGroup (.text (textAt key row)) row
          (names.map fun s => (.text s, named key rows s))) := by
      have hcell := cell_typed (hrow row (List.mem_singleton_self row))
      unfold groupRows at hgroups ⊢
      rw [List.foldlM_append, hgroups]
      simp only [List.foldlM_cons, hcell]
      rfl
    have hnone : textAt key row ∉ names → named key rows (textAt key row) = [] := by
      intro hnew
      refine List.filter_eq_nil_iff.mpr fun r hr hname => hnew ((hmem _).mpr ?_)
      exact List.mem_map.mpr ⟨r, hr, of_decide_eq_true hname⟩
    rw [hstep, addToGroup_map _ _ _ hnodup]
    by_cases hold : textAt key row ∈ names
    · refine ⟨names, hnodup, fun s => ?_, ?_⟩
      · rw [List.map_append, List.mem_append, ← hmem, List.map_singleton, List.mem_singleton]
        exact ⟨.inl, fun hs => hs.elim id fun hs => hs ▸ hold⟩
      · rw [if_pos hold]
        simp only [named_append_singleton]
    · refine ⟨names ++ [textAt key row], ?_, fun s => ?_, ?_⟩
      · exact hnodup.append (List.nodup_singleton _) (by simpa using hold)
      · rw [List.map_append, List.mem_append, List.mem_append, ← hmem, List.map_singleton]
      · have hothers : (names.map fun s => (Value.text s, named key (rows ++ [row]) s)) =
            names.map fun s => (Value.text s, named key rows s) := by
          refine List.map_congr_left fun s hs => ?_
          have hsr : s ≠ textAt key row := ne_of_mem_of_not_mem hs hold
          rw [named_append_singleton, if_neg hsr]
        rw [if_neg hold, List.map_append, hothers, List.map_singleton, named_append_singleton,
          if_pos rfl, hnone hold]
        rfl

/-! ### Rows that come in any order -/

variable {α : Type} {name : α → String} {make : Value → List Row → Except Fault α}

/-- Rows that an item is made of: each has the name of the item, and they are in the
order of their places. -/
structure Makes (key : String) (name : α → String) (make : Value → List Row → Except Fault α)
    (a : α) (rows : List Row) : Prop where
  nonempty : rows ≠ []
  hasName : ∀ row ∈ rows, HasText row key
  name_eq : ∀ row ∈ rows, textAt key row = name a
  typed : ∀ row ∈ rows, IsKeyRow row
  ordered : (rows.map ordinalAt).Pairwise (· < ·)
  made : make (.text (name a)) rows = .ok a

variable {items : List α} {groups : List (List Row)}

theorem exists_makes_of_mem (h : List.Forall₂ (Makes key name make) items groups) {row : Row}
    (hrow : row ∈ groups.flatten) : ∃ a ∈ items, ∃ g, Makes key name make a g ∧ row ∈ g := by
  induction h with
  | nil => cases hrow
  | cons hmakes _ ih =>
    rcases List.mem_append.mp hrow with hrow | hrow
    · exact ⟨_, List.mem_cons_self, _, hmakes, hrow⟩
    · obtain ⟨a, ha, found⟩ := ih hrow
      exact ⟨a, List.mem_cons_of_mem _ ha, found⟩

theorem named_eq_nil {s : String} (h : ∀ row ∈ rows, textAt key row ≠ s) : named key rows s = [] :=
  List.filter_eq_nil_iff.mpr fun row hrow hname => h row hrow (of_decide_eq_true hname)

/-- **The rows with the name of an item are the ones that it is made of.** -/
theorem named_flatten (h : List.Forall₂ (Makes key name make) items groups)
    (hdistinct : (items.map name).Nodup) :
    ∀ a ∈ items, Makes key name make a (named key groups.flatten (name a)) := by
  induction h with
  | nil => exact List.forall_mem_nil _
  | @cons b g items groups hmakes hrest ih =>
    obtain ⟨hb, hdistinct⟩ := List.nodup_cons.mp hdistinct
    have hsplit : ∀ s, named key (g :: groups).flatten s =
        named key g s ++ named key groups.flatten s := by
      intro s
      rw [List.flatten_cons, named, List.filter_append]
      rfl
    refine List.forall_mem_cons.mpr ⟨?_, fun a ha => ?_⟩
    · have hown : named key g (name b) = g :=
        List.filter_eq_self.mpr fun row hrow => decide_eq_true (hmakes.name_eq row hrow)
      have hothers : named key groups.flatten (name b) = [] := by
        refine named_eq_nil fun row hrow hname => hb ?_
        obtain ⟨a, ha, g', hg', hrow⟩ := exists_makes_of_mem hrest hrow
        rw [← hname, hg'.name_eq row hrow]
        exact List.mem_map_of_mem ha
      rwa [hsplit, hown, hothers, List.append_nil]
    · have hown : named key g (name a) = [] := by
        refine named_eq_nil fun row hrow hname => hb ?_
        rw [← hmakes.name_eq row hrow, hname]
        exact List.mem_map_of_mem ha
      rw [hsplit, hown, List.nil_append]
      exact ih hdistinct a ha

theorem mergeSort_texts_of_perm {ss ts : List String} (h : ss.Perm ts) :
    ss.mergeSort (fun s t => decide (s ≤ t)) = ts.mergeSort fun s t => decide (s ≤ t) :=
  List.Perm.eq_of_pairwise' (List.pairwise_mergeSort' (· ≤ ·) ss)
    (List.pairwise_mergeSort' (· ≤ ·) ts)
    (((List.mergeSort_perm ss _).trans h).trans (List.mergeSort_perm ts _).symm)

theorem names_perm {names : List String} (hnodup : names.Nodup)
    (hmem : ∀ s, s ∈ names ↔ s ∈ rows.map (textAt key)) (hdistinct : (items.map name).Nodup)
    (h : List.Forall₂ (Makes key name make) items groups) (hperm : rows.Perm groups.flatten) :
    names.Perm (items.map name) := by
  refine (List.perm_ext_iff_of_nodup hnodup hdistinct).mpr fun s => ?_
  rw [hmem]
  constructor
  · intro hs
    obtain ⟨row, hrow, rfl⟩ := List.mem_map.mp hs
    obtain ⟨a, ha, g, hg, hrow⟩ := exists_makes_of_mem h (hperm.subset hrow)
    rw [hg.name_eq row hrow]
    exact List.mem_map_of_mem ha
  · intro hs
    obtain ⟨a, ha, rfl⟩ := List.mem_map.mp hs
    have hown := named_flatten h hdistinct a ha
    obtain ⟨row, hrow⟩ := List.exists_mem_of_ne_nil _ hown.nonempty
    refine List.mem_map.mpr ⟨row, hperm.symm.subset (List.mem_filter.mp hrow).1, ?_⟩
    exact hown.name_eq row hrow

/-- Groups are put in the order of the items whose names they have. -/
theorem sortBy?_groups {names : List String} (hnames : names.Perm (items.map name))
    (f : String → List Row) :
    Value.sortBy? Prod.fst (names.map fun s => (Value.text s, f s)) =
      .ok ((items.mergeSort fun a b => decide (name a ≤ name b)).map fun a =>
        (Value.text (name a), f (name a))) := by
  have htexts : ∀ g ∈ names.map fun s => (Value.text s, f s), ∃ s, g.1 = .text s :=
    List.forall_mem_map.mpr fun s _ => ⟨s, rfl⟩
  have hpairs : (names.mergeSort fun s t => decide (s ≤ t)).map (fun s => (Value.text s, f s)) =
      (names.map fun s => (Value.text s, f s)).mergeSort
        fun a b => decide (a.1.asText ≤ b.1.asText) :=
    List.map_mergeSort fun _ _ _ _ => rfl
  have hitems : (items.mergeSort fun a b => decide (name a ≤ name b)).map name =
      (items.map name).mergeSort fun s t => decide (s ≤ t) :=
    List.map_mergeSort fun _ _ _ _ => rfl
  rw [Value.sortBy?_texts htexts, ← hpairs, mergeSort_texts_of_perm hnames, ← hitems,
    List.map_map]
  rfl

/-- **Items are made back from their rows, whatever the order in which these come**, and
are in the order of their names. -/
theorem foldGroups_shuffled (hdistinct : (items.map name).Nodup)
    (h : List.Forall₂ (Makes key name make) items groups) (hperm : rows.Perm groups.flatten) :
    foldGroups key make rows = .ok (items.mergeSort fun a b => decide (name a ≤ name b)) := by
  have hkey : ∀ row ∈ rows, HasText row key := by
    intro row hrow
    obtain ⟨a, -, g, hg, hrow⟩ := exists_makes_of_mem h (hperm.subset hrow)
    exact hg.hasName row hrow
  obtain ⟨names, hnodup, hmem, hgroups⟩ := groupRows_eq hkey
  have hsorted := sortBy?_groups (names_perm hnodup hmem hdistinct h hperm) (named key rows)
  have hmade : ∀ a ∈ items,
      (do make (.text (name a)) (← inOrdinalOrder (named key rows (name a)))) = .ok a := by
    intro a ha
    have hown := named_flatten h hdistinct a ha
    have hsame : (named key rows (name a)).Perm (named key groups.flatten (name a)) :=
      hperm.filter _
    have htyped : ∀ row ∈ named key rows (name a), IsKeyRow row :=
      fun row hrow => hown.typed row (hsame.subset hrow)
    rw [inOrdinalOrder_typed htyped, inOrder_of_perm hsame hown.ordered]
    exact hown.made
  rw [foldGroups, hgroups]
  change (Value.sortBy? Prod.fst _ >>= _) = _
  rw [hsorted]
  change List.mapM _ (List.map _ _) = _
  refine (Results.mapM_eq_ok_iff _ _ _).mpr (List.forall₂_map_left_iff.mpr ?_)
  exact List.forall₂_same.mpr fun a ha => hmade a (List.mem_mergeSort.mp ha)

/-! ### Foreign keys and indexes -/

/-- A row that tells of one pair of columns of a foreign key, and of all the rest of
the key. -/
structure IsPairRow (k : ForeignKey) (column referenced : String) (place : Nat) (row : Row) :
    Prop where
  name : Value.lookup? row "constraint_name" = some (.text k.name)
  column : Value.lookup? row "column_name" = some (.text column)
  place : Value.lookup? row "ordinal_position" = some (.int place)
  schema : Value.lookup row "foreign_table_schema" = optionValue .text k.referencedSchema
  table : Value.lookup? row "foreign_table_name" = some (.text k.referencedTable)
  referenced : Value.lookup? row "foreign_column_name" = some (.text referenced)
  onDelete : ∃ s, Value.lookup row "delete_rule" = .text s ∧
    Spelled s.toList k.onDelete.text.toList
  onUpdate : ∃ s, Value.lookup row "update_rule" = .text s ∧
    Spelled s.toList k.onUpdate.text.toList

/-- The rows of a foreign key, one for each pair of its columns, which are counted from
one on. -/
def IsForeignKeyRows (k : ForeignKey) (rows : List Row) : Prop :=
  List.Forall₂ (fun p row => IsPairRow k p.1.1 p.1.2 p.2 row)
    ((k.columns.zip k.referencedColumns).zipIdx 1) rows

/-- A row that tells of one column of an index, and of all the rest of the index. -/
structure IsEntryRow (i : Index) (column : String) (place : Nat) (row : Row) : Prop where
  name : Value.lookup? row "index_name" = some (.text i.name)
  column : Value.lookup? row "column_name" = some (.text column)
  place : Value.lookup? row "ordinal_position" = some (.int place)
  isUnique : SaysFlag (Value.lookup row "is_unique") i.isUnique
  isPrimary : SaysFlag (Value.lookup row "is_primary") i.isPrimary

/-- The rows of an index, one for each of its columns, which are counted from one on. -/
def IsIndexRows (i : Index) (rows : List Row) : Prop :=
  List.Forall₂ (fun p row => IsEntryRow i p.1 p.2 row) (i.columns.zipIdx 1) rows

theorem textAt_of_lookup? {row : Row} {s : String} (h : Value.lookup? row key = some (.text s)) :
    HasText row key ∧ textAt key row = s := by
  refine ⟨⟨s, h⟩, ?_⟩
  rw [textAt, Value.lookup, h]
  rfl

theorem ordinalAt_of_lookup? {row : Row} {place : Nat}
    (h : Value.lookup? row "ordinal_position" = some (.int place)) :
    MayHave .int row "ordinal_position" ∧ ordinalAt row = place := by
  have hlookup : Value.lookup row "ordinal_position" = .int place := by
    rw [Value.lookup, h]
    rfl
  refine ⟨.inr ⟨place, hlookup⟩, ?_⟩
  rw [ordinalAt, hlookup]

theorem map_eq_of_forall₂ {β γ : Type} {R : β → Row → Prop} {f : Row → γ} {g : β → γ}
    (hsame : ∀ b row, R b row → f row = g b) {bs : List β} (h : List.Forall₂ R bs rows) :
    rows.map f = bs.map g := by
  induction h with
  | nil => rfl
  | cons hrow _ ih => rw [List.map_cons, List.map_cons, hsame _ _ hrow, ih]

theorem forall_of_forall₂ {β : Type} {R : β → Row → Prop} {P : Row → Prop}
    (himp : ∀ b row, R b row → P row) {bs : List β} (h : List.Forall₂ R bs rows) :
    ∀ row ∈ rows, P row := by
  induction h with
  | nil => exact List.forall_mem_nil _
  | cons hrow _ ih => exact List.forall_mem_cons.mpr ⟨himp _ _ hrow, ih⟩

theorem ordered_of_forall₂ {β : Type} {R : β × Nat → Row → Prop}
    (hplace : ∀ p row, R p row → ordinalAt row = (p.2 : Int)) {bs : List β}
    (h : List.Forall₂ R (bs.zipIdx 1) rows) : (rows.map ordinalAt).Pairwise (· < ·) := by
  have hplaces : rows.map ordinalAt = (List.range' 1 bs.length).map Int.ofNat := by
    rw [map_eq_of_forall₂ hplace h, ← List.zipIdx_map_snd, List.map_map]
    rfl
  rw [hplaces, List.pairwise_map]
  exact (List.pairwise_lt_range' 1).imp Int.ofNat_lt.mpr

theorem IsPairRow.typed {k : ForeignKey} {column referenced : String} {place : Nat} {row : Row}
    (h : IsPairRow k column referenced place row) : IsForeignKeyRow row where
  name := ⟨column, h.column⟩
  ordinal := (ordinalAt_of_lookup? h.place).1
  constraint := ⟨k.name, h.name⟩
  table := ⟨k.referencedTable, h.table⟩
  schema := by
    rw [MayHave, h.schema]
    cases k.referencedSchema with
    | none => exact .inl rfl
    | some schema => exact .inr ⟨schema, rfl⟩
  referenced := ⟨referenced, h.referenced⟩

/-- **A foreign key is made of its rows.** -/
theorem makes_foreignKey {k : ForeignKey} (hne : k.columns ≠ []) (h : IsForeignKeyRows k rows) :
    Makes "constraint_name" ForeignKey.name foreignKey k rows := by
  have hrow : ∀ row ∈ rows, ∃ column referenced place, IsPairRow k column referenced place row :=
    forall_of_forall₂ (fun p row hp => ⟨p.1.1, p.1.2, p.2, hp⟩) h
  have htyped : ∀ row ∈ rows, IsForeignKeyRow row := by
    intro row hmem
    obtain ⟨column, referenced, place, hpair⟩ := hrow row hmem
    exact hpair.typed
  have hcolumns : rows.map (textAt "column_name") = k.columns := by
    rw [map_eq_of_forall₂ (fun p row hp => (textAt_of_lookup? hp.column).2) h]
    calc ((k.columns.zip k.referencedColumns).zipIdx 1).map (fun p => p.1.1)
        = (((k.columns.zip k.referencedColumns).zipIdx 1).map Prod.fst).map Prod.fst := by
          rw [List.map_map]
          rfl
      _ = k.columns := by rw [List.zipIdx_map_fst, List.map_fst_zip (Nat.le_of_eq k.paired)]
  have hreferenced : rows.map (textAt "foreign_column_name") = k.referencedColumns := by
    rw [map_eq_of_forall₂ (fun p row hp => (textAt_of_lookup? hp.referenced).2) h]
    calc ((k.columns.zip k.referencedColumns).zipIdx 1).map (fun p => p.1.2)
        = (((k.columns.zip k.referencedColumns).zipIdx 1).map Prod.fst).map Prod.snd := by
          rw [List.map_map]
          rfl
      _ = k.referencedColumns := by
          rw [List.zipIdx_map_fst, List.map_snd_zip (Nat.le_of_eq k.paired.symm)]
  have hrows : rows ≠ [] := by
    rintro rfl
    exact hne hcolumns.symm
  obtain ⟨head, rest, rfl⟩ := List.exists_cons_of_ne_nil hrows
  obtain ⟨column, referenced, place, hhead⟩ := hrow head List.mem_cons_self
  obtain ⟨delete, hdelete, hdeletes⟩ := hhead.onDelete
  obtain ⟨update, hupdate, hupdates⟩ := hhead.onUpdate
  have hschema : Reader.orNull Reader.text (Value.lookup head "foreign_table_schema") =
      .fits k.referencedSchema := by
    rw [hhead.schema]
    cases k.referencedSchema <;> rfl
  refine ⟨List.cons_ne_nil _ _, fun row hmem => (htyped row hmem).constraint, fun row hmem => ?_,
    fun row hmem => (htyped row hmem).toIsKeyRow,
    ordered_of_forall₂ (fun p row hp => (ordinalAt_of_lookup? hp.place).2) h, ?_⟩
  · obtain ⟨_, _, _, hpair⟩ := hrow row hmem
    exact (textAt_of_lookup? hpair.name).2
  · rw [foreignKey_eq k.name htyped hschema]
    simp only [hcolumns, hreferenced, hdelete, hupdate, action_spelled hdeletes,
      action_spelled hupdates, (textAt_of_lookup? hhead.table).2]

/-- **An index is made of its rows.** -/
theorem makes_index {i : Index} (hne : i.columns ≠ []) (h : IsIndexRows i rows) :
    Makes "index_name" Index.name index i rows := by
  have hrow : ∀ row ∈ rows, ∃ column place, IsEntryRow i column place row :=
    forall_of_forall₂ (fun p row hp => ⟨p.1, p.2, hp⟩) h
  have htyped : ∀ row ∈ rows, IsIndexRow row := by
    intro row hmem
    obtain ⟨column, place, hentry⟩ := hrow row hmem
    exact ⟨⟨⟨column, hentry.column⟩, (ordinalAt_of_lookup? hentry.place).1⟩, ⟨i.name, hentry.name⟩⟩
  have hcolumns : rows.map (textAt "column_name") = i.columns := by
    rw [map_eq_of_forall₂ (fun p row hp => (textAt_of_lookup? hp.column).2) h,
      List.zipIdx_map_fst]
  have hrows : rows ≠ [] := by
    rintro rfl
    exact hne hcolumns.symm
  obtain ⟨head, rest, rfl⟩ := List.exists_cons_of_ne_nil hrows
  obtain ⟨column, place, hhead⟩ := hrow head List.mem_cons_self
  refine ⟨List.cons_ne_nil _ _, fun row hmem => (htyped row hmem).index, fun row hmem => ?_,
    fun row hmem => (htyped row hmem).toIsKeyRow,
    ordered_of_forall₂ (fun p row hp => (ordinalAt_of_lookup? hp.place).2) h, ?_⟩
  · obtain ⟨_, _, hentry⟩ := hrow row hmem
    exact (textAt_of_lookup? hentry.name).2
  · rw [index_eq i.name htyped, hcolumns, List.headD_cons, flag_says hhead.isUnique,
      flag_says hhead.isPrimary]

/-- The rows of several items with names of their own, each of at least one column, mixed
in any way. -/
structure Shuffled {α : Type} (name : α → String) (columns : α → List String)
    (IsRows : α → List Row → Prop) (items : List α) (rows : List Row) : Prop where
  distinct : (items.map name).Nodup
  nonempty : ∀ a ∈ items, columns a ≠ []
  mixed : ∃ groups, List.Forall₂ IsRows items groups ∧ rows.Perm groups.flatten

theorem mergeSort_names (hdistinct : (items.map name).Nodup) :
    let sorted := items.mergeSort fun a b => decide (name a ≤ name b)
    sorted.Perm items ∧ sorted.Pairwise fun a b => name a < name b := by
  intro sorted
  have hperm : sorted.Perm items := List.mergeSort_perm _ _
  have hsorted : sorted.Pairwise fun a b => name a ≤ name b :=
    List.pairwise_mergeSort' (Order.Preimage name (· ≤ ·)) items
  have hnodup : (sorted.map name).Nodup := (hperm.map name).nodup_iff.mpr hdistinct
  exact ⟨hperm, (hsorted.and (List.pairwise_map.mp hnodup)).imp fun h => lt_of_le_of_ne h.1 h.2⟩

/-- What is folded from mixed rows is what they tell of, in the order of the names. -/
theorem foldGroups_of_shuffled {columns : α → List String} {IsRows : α → List Row → Prop}
    (hmakes : ∀ a g, columns a ≠ [] → IsRows a g → Makes key name make a g)
    (h : Shuffled name columns IsRows items rows) :
    ∃ sorted, foldGroups key make rows = .ok sorted ∧ sorted.Perm items ∧
      sorted.Pairwise fun a b => name a < name b := by
  obtain ⟨groups, hgroups, hperm⟩ := h.mixed
  have hmade : List.Forall₂ (Makes key name make) items groups :=
    ((List.forall₂_and_left _ _).mpr ⟨h.nonempty, hgroups⟩).imp fun a g hg => hmakes a g hg.1 hg.2
  exact ⟨_, foldGroups_shuffled h.distinct hmade hperm, mergeSort_names h.distinct⟩

/-- **However the rows of foreign keys and of indexes are mixed, these are folded back from
them**, each as it was, and in the order of their names. -/
theorem folds_shuffled (keys : List ForeignKey) (is : List Index) (keyRows indexRows : List Row) :
    (Shuffled ForeignKey.name ForeignKey.columns IsForeignKeyRows keys keyRows →
      ∃ sorted, foreignKeys keyRows = .ok sorted ∧ sorted.Perm keys ∧
        sorted.Pairwise fun k l => k.name < l.name) ∧
    (Shuffled Index.name Index.columns IsIndexRows is indexRows →
      ∃ sorted, indexes indexRows = .ok sorted ∧ sorted.Perm is ∧
        sorted.Pairwise fun i j => i.name < j.name) :=
  ⟨foldGroups_of_shuffled fun _ _ => makes_foreignKey,
    foldGroups_of_shuffled fun _ _ => makes_index⟩

/-- A row of a foreign key as a catalog gives it. -/
def pairRow (k : ForeignKey) (column referenced : String) (place : Nat)
    (onDelete onUpdate : String) : Row :=
  [("constraint_name", .text k.name), ("column_name", .text column),
    ("foreign_table_schema", optionValue .text k.referencedSchema),
    ("foreign_table_name", .text k.referencedTable), ("foreign_column_name", .text referenced),
    ("ordinal_position", .int place), ("delete_rule", .text onDelete),
    ("update_rule", .text onUpdate)]

theorem isPairRow_pairRow {k : ForeignKey} {onDelete onUpdate : String} (column referenced : String)
    (place : Nat) (hdelete : Spelled onDelete.toList k.onDelete.text.toList)
    (hupdate : Spelled onUpdate.toList k.onUpdate.text.toList) :
    IsPairRow k column referenced place (pairRow k column referenced place onDelete onUpdate) :=
  ⟨rfl, rfl, rfl, rfl, rfl, rfl, ⟨onDelete, rfl, hdelete⟩, ⟨onUpdate, rfl, hupdate⟩⟩

/-- The rows of a key of two columns, the second first and the row of another key between
them, and the rows of an index in reverse. -/
theorem folds_shuffled_composite :
    let buyer : ForeignKey := ⟨"fk_buyer", ["tenant", "buyer"], some "dbo", "people",
      ["tenant", "id"], .cascade, .setNull, rfl⟩
    let area : ForeignKey := ⟨"fk_area", ["area"], none, "areas", ["id"], .cascade, .cascade, rfl⟩
    let keyRows := [pairRow buyer "buyer" "id" 2 "Cascade" "set_null",
      pairRow area "area" "id" 1 "CASCADE" "cascade",
      pairRow buyer "tenant" "tenant" 1 "cascade" "SET  Null"]
    let lookup : Index := ⟨"ix_lookup", ["tenant", "name"], true, false⟩
    let indexRows : List Row := [
      [("index_name", .text "ix_lookup"), ("column_name", .text "name"),
        ("ordinal_position", .int 2), ("is_unique", .text "yes"), ("is_primary", .bool false)],
      [("index_name", .text "ix_lookup"), ("column_name", .text "tenant"),
        ("ordinal_position", .int 1), ("is_unique", .int 1), ("is_primary", .text "No")]]
    (∃ sorted, foreignKeys keyRows = .ok sorted ∧ sorted.Perm [buyer, area] ∧
      sorted.Pairwise fun k l => k.name < l.name) ∧
    ∃ sorted, indexes indexRows = .ok sorted ∧ sorted.Perm [lookup] ∧
      sorted.Pairwise fun i j => i.name < j.name := by
  intro buyer area keyRows lookup indexRows
  have hcascade : Spelled "cascade".toList "CASCADE".toList := .word _ (by decide)
  have hmixed : Spelled "Cascade".toList "CASCADE".toList := .word _ (by decide)
  have hupper : Spelled "CASCADE".toList "CASCADE".toList := .word _ (by decide)
  have hset : Spelled "set_null".toList "SET NULL".toList :=
    (Spelled.word ['s', 'e', 't'] (by decide)).append
      (@Spelled.gap ['_'] _ _ (by decide) (by decide) (.word ['n', 'u', 'l', 'l'] (by decide)))
  have hwide : Spelled "SET  Null".toList "SET NULL".toList :=
    (Spelled.word ['S', 'E', 'T'] (by decide)).append
      (@Spelled.gap [' ', ' '] _ _ (by decide) (by decide) (.word ['N', 'u', 'l', 'l'] (by decide)))
  have hkeys :
      Shuffled ForeignKey.name ForeignKey.columns IsForeignKeyRows [buyer, area] keyRows := by
    refine ⟨by decide, by decide, _, .cons (.cons ?_ (.cons ?_ .nil)) (.cons (.cons ?_ .nil) .nil),
      @List.perm_append_comm _ (keyRows.take 2) (keyRows.drop 2)⟩
    · exact isPairRow_pairRow _ _ _ hcascade hwide
    · exact isPairRow_pairRow _ _ _ hmixed hset
    · exact isPairRow_pairRow _ _ _ hupper hcascade
  have hindexes : Shuffled Index.name Index.columns IsIndexRows [lookup] indexRows := by
    refine ⟨by decide, by decide, _, .cons (.cons ?_ (.cons ?_ .nil)) .nil, .swap _ _ _⟩
    · exact ⟨rfl, rfl, rfl, .bit true, .word false (.word _ (by decide))⟩
    · exact ⟨rfl, rfl, rfl, .word true (.word _ (by decide)), .bool false⟩
  exact ⟨(folds_shuffled [buyer, area] [lookup] keyRows indexRows).1 hkeys,
    (folds_shuffled [buyer, area] [lookup] keyRows indexRows).2 hindexes⟩

end Catalog
end TableGate
