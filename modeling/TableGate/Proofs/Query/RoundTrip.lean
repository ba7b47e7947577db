/-
# Filters are read back from their query strings

A filter is written as one pair for each condition, whose operand stands behind its
operator and whose lists stand in parentheses, and one pair for each other part
that it has. Whatever the order of the pairs, as long as the conditions keep
theirs, the filter is what is read (`read_of_writes`).

This holds for filters that can be told from other ones when they are written
(`Filter.IsExpressible`): a name in a list has no comma, a text is not the spelling
of another value. A limit or an offset that has too many digits is written like any
other number but not read: it is a fault, and not one of the request.

Key definitions: `Query.spelling`, `Query.writeCondition`, `Query.pagePairs`,
`Query.Writes`, `Filter.IsExpressible`.
Key theorems: `Query.readCondition_write`, `Query.readSelect_join`,
`Query.readOrder_join`, `Query.readPageBound_toString`, `Query.read_of_writes`.
-/
import TableGate.Proofs.Query.Numeral
import TableGate.Proofs.Query.Pairs
import TableGate.Proofs.Text.Cut

namespace TableGate
namespace Query

open Number

/-! ### Written down -/

/-- The text of an operand that is no list. -/
def spelling : Value → String
  | .null => "null"
  | .bool true => "true"
  | .bool false => "false"
  | .int n => toString n
  | .text s => s
  | v => v.shown

/-- The text of an operand; lists stand in parentheses. -/
def writeOperand : Value → String
  | .list items => "(" ++ Text.join "," (items.map spelling) ++ ")"
  | v => spelling v

def writeCondition (c : Condition) : String × Value :=
  (c.column, .text (c.operator ++ "." ++ writeOperand c.value))

/-- A column to sort by and the direction. -/
def writeOrderTerm (t : OrderTerm) : String :=
  t.column ++ "." ++ if t.descending then "desc" else "asc"

/-- The text that a reserved key stands with, if the filter has that part. -/
def pageText? (f : Filter) (key : String) : Option String :=
  if key = "select" then f.select.map (Text.join ",")
  else if key = "order" then
    if f.order = [] then none else some (Text.join "," (f.order.map writeOrderTerm))
  else if key = "limit" then f.limit.map toString
  else f.offset.map toString

/-- The pairs of the parts of a filter that are no conditions. -/
def pagePairs (f : Filter) : List (String × Value) :=
  reservedKeys.flatMap fun key => (pageText? f key).toList.map fun s => (key, .text s)

/-- The pairs write the filter down: its conditions in their order, and the rest
anywhere between them. -/
structure Writes (f : Filter) (pairs : List (String × Value)) : Prop where
  conditions : pairs.filter isCondition = f.conditions.map writeCondition
  page : (pairs.filter fun pair => !isCondition pair).Perm (pagePairs f)

/-! ### What can be written -/

/-- A value that is read back from its spelling. -/
inductive IsOperand : Value → Prop where
  | null : IsOperand .null
  | bool (b : Bool) : IsOperand (.bool b)
  | int {n : Int} (short : n.natAbs < 10 ^ maxDigits) : IsOperand (.int n)
  | text {s : String} (plain : readOperand s = .ok (.text s)) : IsOperand (.text s)

/-- A value that is read back from a list. -/
structure IsItem (v : Value) : Prop where
  operand : IsOperand v
  trimmed : ∀ s, v = .text s → Text.trim s = s
  noComma : ∀ s, v = .text s → ',' ∉ s.toList

/-- An operator with an operand that it takes. -/
inductive IsTest : String → Value → Prop where
  | comparison {o : Operator} {v : Value} (single : o ≠ .isIn ∧ o ≠ .is) (operand : IsOperand v) :
    IsTest o.word v
  | isIn {items : List Value} (operands : ∀ v ∈ items, IsItem v) (told : items ≠ [.text ""]) :
    IsTest "in" (.list items)
  | isNull : IsTest "is" .null
  | isBool (b : Bool) : IsTest "is" (.bool b)
  | isNotNull : IsTest "is" (.text notNullWord)

end Query

open Query in
/-- The filter can be told from every other one by its query string. -/
structure Filter.IsExpressible (f : Filter) : Prop where
  conditions : ∀ c ∈ f.conditions, c.column ∉ reservedKeys ∧ IsTest c.operator c.value
  select : ∀ names, f.select = some names → names ≠ [] ∧ names ≠ ["*"]
  names : ∀ names, f.select = some names → ∀ name ∈ names,
    name ≠ "" ∧ Text.trim name = name ∧ ',' ∉ name.toList
  order : ∀ t ∈ f.order, ',' ∉ t.column.toList ∧
    ∀ c ∈ t.column.toList.head?, Text.isBlank c = false
  limit : ∀ n, f.limit = some n → 0 ≤ n
  offset : ∀ n, f.offset = some n → 0 ≤ n

namespace Query

open Number

/-! ### Operands -/

theorem isNumberText_toString (n : Int) : isNumberText (toString n).toList = true :=
  isNumberText_of_isIntegerText (isIntegerText_toString n)

theorem toString_ne {n : Int} {s : String} (h : isNumberText s.toList = false) :
    toString n ≠ s := by
  rintro rfl
  rw [isNumberText_toString] at h
  cases h

theorem readOperand_toString {n : Int} (h : n.natAbs < 10 ^ maxDigits) :
    readOperand (toString n) = .ok (.int n) := by
  obtain ⟨hinteger, hread⟩ := readInt?_toString h
  rw [readOperand, if_neg (toString_ne (by decide)), if_neg (toString_ne (by decide)),
    if_neg (toString_ne (by decide)), if_pos (isNumberText_toString n), if_pos hinteger, hread]

theorem readOperand_spelling {v : Value} (h : IsOperand v) : readOperand (spelling v) = .ok v := by
  cases h with
  | null => rfl
  | bool b => cases b <;> rfl
  | int short => exact readOperand_toString short
  | text plain => exact plain

/-- The characters of an integer are digits, behind a sign or not. -/
theorem forall_mem_toString {p : Char → Prop} (hminus : p '-')
    (hdigit : ∀ c, Text.isDigit c = true → p c) (n : Int) : ∀ c ∈ (toString n).toList, p c := by
  have hdigits : ∀ c ∈ Nat.toDigits 10 n.natAbs, p c :=
    fun c hc => hdigit c (isDigit_of_mem_toDigits hc)
  rcases toList_toString n with ⟨-, hchars⟩ | ⟨-, hchars⟩
  · rw [hchars]
    exact hdigits
  · rw [hchars]
    exact List.forall_mem_cons.mpr ⟨hminus, hdigits⟩

theorem trim_toString (n : Int) : Text.trim (toString n) = toString n :=
  Text.trim_of_all (forall_mem_toString (by decide) (fun _ => isBlank_of_isDigit) n)

theorem comma_notMem_toString (n : Int) : ',' ∉ (toString n).toList := by
  have hne : ∀ c ∈ (toString n).toList, c ≠ ',' := by
    refine forall_mem_toString (by decide) (fun c hc => ?_) n
    rintro rfl
    exact absurd hc (by decide)
  exact fun hmem => hne ',' hmem rfl

namespace IsItem

variable {v : Value}

theorem trim_spelling (h : IsItem v) : Text.trim (spelling v) = spelling v := by
  cases h.operand with
  | null => decide
  | bool b => cases b <;> decide
  | int short => exact trim_toString _
  | text plain => exact h.trimmed _ rfl

theorem comma_notMem (h : IsItem v) : ',' ∉ (spelling v).toList := by
  cases h.operand with
  | null => decide
  | bool b => cases b <;> decide
  | int short => exact comma_notMem_toString _
  | text plain => exact h.noComma _ rfl

/-- Nothing but the empty text is spelled with no character. -/
theorem eq_empty (h : IsItem v) (hempty : spelling v = "") : v = .text "" := by
  cases h.operand with
  | null => exact absurd hempty (by decide)
  | bool b => cases b <;> exact absurd hempty (by decide)
  | int short => exact absurd hempty (toString_ne (by decide))
  | text plain => exact congrArg Value.text hempty

end IsItem

/-! ### Lists -/

theorem dropParentheses_append (s : String) : dropParentheses ("(" ++ s ++ ")") = s := by
  have hchars : ("(" ++ s ++ ")").toList = '(' :: (s.toList ++ [')']) := by
    rw [String.toList_append, String.toList_append]
    rfl
  simp only [dropParentheses, hchars, List.getLast?_append, List.getLast?_singleton,
    Option.some_or, List.dropLast_concat, String.ofList_toList]

theorem trim_parentheses (s : String) : Text.trim ("(" ++ s ++ ")") = "(" ++ s ++ ")" := by
  have hchars : ("(" ++ s ++ ")").toList = '(' :: (s.toList ++ [')']) := by
    rw [String.toList_append, String.toList_append]
    rfl
  refine Text.trim_eq_self ?_ ?_
  · intro c hc
    obtain rfl : '(' = c := by simpa [hchars] using hc
    decide
  · intro c hc
    rw [hchars, ← List.cons_append, List.getLast?_concat] at hc
    obtain rfl : ')' = c := Option.some.inj hc
    decide

/-- Of a list that is not just the empty text something is written. -/
theorem not_isEmpty_trim_join {items : List Value} (hitems : ∀ v ∈ items, IsItem v)
    (hne : items ≠ []) (htold : items ≠ [.text ""]) :
    (Text.trim (Text.join "," (items.map spelling))).isEmpty = false := by
  match items with
  | [] => exact absurd rfl hne
  | [v] =>
    have hv : IsItem v := hitems v (by simp)
    have htrim : Text.trim (Text.join "," ([v].map spelling)) = spelling v := hv.trim_spelling
    rw [htrim, ← Bool.not_eq_true, String.isEmpty_iff]
    exact fun hempty => htold (by rw [hv.eq_empty hempty])
  | v :: w :: rest =>
    have hcomma : ',' ∈ (Text.join "," ((v :: w :: rest).map spelling)).toList := by
      simp [Text.join]
    rw [← Bool.not_eq_true, Text.isEmpty_trim_iff]
    exact fun hblank => absurd (hblank ',' hcomma) (by decide)

/-- **A list is read back** from its items between commas. -/
theorem readList_join {items : List Value} (hitems : ∀ v ∈ items, IsItem v)
    (htold : items ≠ [.text ""]) :
    readList ("(" ++ Text.join "," (items.map spelling) ++ ")") = .ok items := by
  rw [readList, trim_parentheses, dropParentheses_append]
  by_cases hne : items = []
  · rw [hne]
    rfl
  · have hcommas : ∀ s ∈ items.map spelling, ',' ∉ s.toList :=
      List.forall_mem_map.mpr fun v hv => (hitems v hv).comma_notMem
    have hread : List.Forall₂ (fun s v => readOperand (Text.trim s) = .ok v)
        (items.map spelling) items := by
      refine List.forall₂_map_left_iff.mpr (List.forall₂_same.mpr fun v hv => ?_)
      rw [(hitems v hv).trim_spelling]
      exact readOperand_spelling (hitems v hv).operand
    rw [not_isEmpty_trim_join hitems hne htold, Text.splitAt_join rfl (by simpa using hne) hcommas]
    exact (Results.mapM_eq_ok_iff _ _ _).mpr hread

/-! ### Conditions -/

theorem isOperatorText_word (o : Operator) : isOperatorText o.word = true := by
  cases o <;> decide

theorem point_notMem_word (o : Operator) : '.' ∉ o.word.toList := by
  cases o <;> decide

theorem readConditionText_word (column : String) (o : Operator) (operand : String) :
    readConditionText column (o.word ++ "." ++ operand) =
      (match o with
      | .isIn => (do pure ⟨column, "in", .list (← readList operand)⟩)
      | .is =>
        if operand = notNullWord then .ok ⟨column, "is", .text notNullWord⟩
        else (do pure ⟨column, "is", ← readOperand operand⟩)
      | o => (do pure ⟨column, o.word, ← readOperand operand⟩)) := by
  rw [readConditionText, Text.cutFirst?_append rfl (point_notMem_word o)]
  simp only [isOperatorText_word, Operator.ofWord?_word, Bool.not_true, Bool.false_eq_true,
    if_false]
  cases o <;> rfl

/-- **A condition is read back from its pair.** -/
theorem readCondition_write {c : Condition} (h : IsTest c.operator c.value) :
    readCondition c.column (writeCondition c).2 = .ok c := by
  obtain ⟨column, operator, value⟩ := c
  change IsTest operator value at h
  change readConditionText column (operator ++ "." ++ writeOperand value) = _
  cases h with
  | @comparison o v single operand =>
    have hsingle : writeOperand value = spelling value := by
      cases operand <;> rfl
    rw [readConditionText_word, hsingle, readOperand_spelling operand]
    cases o with
    | isIn => exact absurd rfl single.1
    | is => exact absurd rfl single.2
    | _ => rfl
  | isIn operands told =>
    rw [show "in" = Operator.isIn.word from rfl, readConditionText_word]
    dsimp only
    rw [writeOperand, readList_join operands told]
    rfl
  | isNull => rfl
  | isBool b => cases b <;> rfl
  | isNotNull => rfl

/-! ### The other parts -/

/-- **The columns to pick are read back.** -/
theorem readSelect_join {names : List String} (hne : names ≠ []) (hstar : names ≠ ["*"])
    (hnames : ∀ name ∈ names, name ≠ "" ∧ Text.trim name = name ∧ ',' ∉ name.toList) :
    readSelect (Text.join "," names) = some names := by
  have htrim : names.map Text.trim = names :=
    (List.map_congr_left fun name hname => (hnames name hname).2.1).trans (List.map_id' names)
  have hkept : (names.filter fun c => !c.isEmpty) = names := by
    refine List.filter_eq_self.mpr fun name hname => ?_
    simpa using (hnames name hname).1
  rw [readSelect, Text.splitAt_join rfl hne fun name hname => (hnames name hname).2.2, htrim, hkept]
  simp [hne, hstar]

theorem readOrderTerm_write (order : String) {t : OrderTerm} :
    readOrderTerm order (writeOrderTerm t) = .ok (some t) := by
  obtain ⟨column, descending⟩ := t
  have hsome : (writeOrderTerm ⟨column, descending⟩).isEmpty = false := by
    rw [← Bool.not_eq_true, String.isEmpty_iff]
    intro hempty
    have hchars := congrArg String.toList hempty
    simp [writeOrderTerm] at hchars
  have hpoint : '.' ∉ (if descending then "desc" else "asc").toList := by
    cases descending <;> decide
  rw [readOrderTerm, hsome, writeOrderTerm, Text.cutLast?_append rfl column hpoint]
  cases descending <;> rfl

theorem trim_writeOrderTerm {t : OrderTerm}
    (h : ∀ c ∈ t.column.toList.head?, Text.isBlank c = false) :
    Text.trim (writeOrderTerm t) = writeOrderTerm t := by
  have hpoint : (writeOrderTerm t).toList =
      t.column.toList ++ '.' :: (if t.descending then "desc" else "asc").toList :=
    Text.toList_append_between rfl _ _
  refine Text.trim_eq_self ?_ ?_
  · intro c hc
    rw [hpoint, List.head?_append] at hc
    cases hcolumn : t.column.toList.head? with
    | none =>
      obtain rfl : '.' = c := by simpa [hcolumn] using hc
      decide
    | some d =>
      obtain rfl : d = c := by simpa [hcolumn] using hc
      exact h d hcolumn
  · intro c hc
    obtain rfl : 'c' = c := by
      rw [hpoint, List.getLast?_append] at hc
      cases hdirection : t.descending <;> simpa [hdirection] using hc
    decide

theorem comma_notMem_writeOrderTerm {t : OrderTerm} (h : ',' ∉ t.column.toList) :
    ',' ∉ (writeOrderTerm t).toList := by
  rw [writeOrderTerm, Text.toList_append_between rfl, List.mem_append, not_or]
  refine ⟨h, ?_⟩
  cases t.descending <;> decide

/-- **The columns to sort by are read back.** -/
theorem readOrder_join {terms : List OrderTerm}
    (hterms : ∀ t ∈ terms, ',' ∉ t.column.toList ∧
      ∀ c ∈ t.column.toList.head?, Text.isBlank c = false) (hne : terms ≠ []) :
    readOrder (Text.join "," (terms.map writeOrderTerm)) = .ok terms := by
  have hread : ∀ order, List.Forall₂
      (fun item t => readOrderTerm order (Text.trim item) = .ok t)
      (terms.map writeOrderTerm) (terms.map some) := by
    intro order
    refine List.forall₂_map_left_iff.mpr (List.forall₂_map_right_iff.mpr
      (List.forall₂_same.mpr fun t ht => ?_))
    rw [trim_writeOrderTerm (hterms t ht).2]
    exact readOrderTerm_write order
  rw [readOrder, Text.splitAt_join rfl (by simpa using hne)
    (List.forall_mem_map.mpr fun t ht => comma_notMem_writeOrderTerm (hterms t ht).1)]
  refine Results.bind_eq_ok_iff.mpr ⟨_, (Results.mapM_eq_ok_iff _ _ _).mpr (hread _), ?_⟩
  simp [pure, Except.pure, List.filterMap_map]

/-- **A limit or an offset is read back** unless it has too many digits. -/
theorem readPageBound_toString (name : String) {n : Int} (h : 0 ≤ n) :
    readPageBound name (.text (toString n)) =
      if n.natAbs < 10 ^ maxDigits then .ok n else .error (.refused .unreadable) := by
  have htext : Text.trim (Value.text (toString n)).shown = toString n := trim_toString n
  simp only [readPageBound, htext, isIntegerText_toString, Bool.not_true, Bool.false_eq_true,
    if_false, readInt?_toString_eq]
  by_cases hshort : n.natAbs < 10 ^ maxDigits
  · simp only [if_pos hshort, if_neg (Int.not_lt.mpr h)]
  · simp only [if_neg hshort]

/-! ### Whole query strings -/

namespace Writes

variable {f : Filter} {pairs : List (String × Value)}

/-- Under a reserved key stand the values that the filter is written with. -/
theorem valuesOf_perm (h : Writes f pairs) {key : String} (hkey : key ∈ reservedKeys) :
    (valuesOf key pairs).Perm (valuesOf key (pagePairs f)) := by
  have hreserved : pairs.filter (fun pair => pair.1 == key) =
      (pairs.filter fun pair => !isCondition pair).filter fun pair => pair.1 == key := by
    rw [List.filter_filter]
    refine List.filter_congr fun pair _ => ?_
    by_cases hpair : pair.1 = key
    · simp [hpair, isCondition, hkey]
    · simp [hpair]
  rw [valuesOf, hreserved]
  exact (h.page.filter _).map _

/-- Each part is written under its own key, and once. -/
theorem valuesOf_pagePairs (f : Filter) {key : String} (hkey : key ∈ reservedKeys) :
    valuesOf key (pagePairs f) = (pageText? f key).toList.map .text := by
  have hpart : ∀ name, valuesOf key ((pageText? f name).toList.map fun s => (name, .text s)) =
      if name = key then (pageText? f name).toList.map .text else [] := by
    intro name
    cases pageText? f name with
    | none => by_cases hname : name = key <;> simp [valuesOf, hname]
    | some s => by_cases hname : name = key <;> simp [valuesOf, hname]
  have hparts : valuesOf key (pagePairs f) = reservedKeys.flatMap fun name =>
      if name = key then (pageText? f name).toList.map .text else [] := by
    simp only [pagePairs, reservedKeys, List.flatMap_cons, List.flatMap_nil, valuesOf_append, hpart]
    rfl
  rw [hparts]
  simp only [reservedKeys, List.mem_cons, List.not_mem_nil, or_false] at hkey
  rcases hkey with rfl | rfl | rfl | rfl <;> simp [reservedKeys]

theorem valuesOf_eq (h : Writes f pairs) {key : String} (hkey : key ∈ reservedKeys) :
    valuesOf key pairs = (pageText? f key).toList.map .text := by
  have hperm := h.valuesOf_perm hkey
  rw [valuesOf_pagePairs f hkey] at hperm
  cases htext : pageText? f key with
  | none =>
    rw [htext] at hperm
    exact List.perm_nil.mp hperm
  | some s =>
    rw [htext] at hperm
    exact List.perm_singleton.mp hperm

/-- What is read under a reserved key is read from the text that is written there. -/
theorem readLast_eq (h : Writes f pairs) {key : String} (hkey : key ∈ reservedKeys) {α : Type}
    (readValue : Value → Except Fault α) (default : α) :
    readLast readValue default (valuesOf key pairs) =
      match pageText? f key with
      | none => .ok default
      | some s => readValue (.text s) := by
  rw [h.valuesOf_eq hkey]
  cases pageText? f key with
  | none => rfl
  | some s => exact readLast_singleton readValue default (.text s)

theorem conditions_read (hf : f.IsExpressible) (h : Writes f pairs) :
    (pairs.filter isCondition).mapM (fun pair => readCondition pair.1 pair.2) =
      .ok f.conditions := by
  rw [h.conditions]
  refine (Results.mapM_eq_ok_iff _ _ _).mpr (List.forall₂_map_left_iff.mpr
    (List.forall₂_same.mpr fun c hc => ?_))
  exact readCondition_write (hf.conditions c hc).2

theorem select_read (hf : f.IsExpressible) (h : Writes f pairs) :
    readLast (fun v => .ok (readSelect v.shown)) none (valuesOf "select" pairs) =
      (.ok f.select : Except Fault _) := by
  rw [h.readLast_eq (by decide)]
  cases hselect : f.select with
  | none => simp [pageText?, hselect]
  | some names =>
    have hread : readSelect (Text.join "," names) = some names :=
      readSelect_join (hf.select names hselect).1 (hf.select names hselect).2
        (hf.names names hselect)
    simp [pageText?, hselect, Value.shown, hread]

theorem order_read (hf : f.IsExpressible) (h : Writes f pairs) :
    readLast (fun v => readOrder v.shown) [] (valuesOf "order" pairs) = .ok f.order := by
  rw [h.readLast_eq (by decide)]
  by_cases hne : f.order = []
  · simp [pageText?, hne]
  · have hread := readOrder_join hf.order hne
    simp [pageText?, hne, Value.shown, hread]

/-- A limit or an offset is read back unless it has too many digits. -/
theorem bound_read (h : Writes f pairs) {key : String} (hkey : key ∈ reservedKeys)
    {bound : Option Int} (htext : pageText? f key = bound.map toString)
    (hpositive : ∀ n, bound = some n → 0 ≤ n) :
    readLast (fun v => some <$> readPageBound key v) none (valuesOf key pairs) =
      if ∀ n ∈ bound, n.natAbs < 10 ^ maxDigits then .ok bound
      else .error (.refused .unreadable) := by
  rw [h.readLast_eq hkey, htext]
  cases bound with
  | none => simp
  | some n =>
    change some <$> readPageBound key (.text (toString n)) = _
    rw [readPageBound_toString key (hpositive n rfl)]
    by_cases hshort : n.natAbs < 10 ^ maxDigits
    · rw [if_pos hshort, if_pos (by simpa using hshort)]
      rfl
    · rw [if_neg hshort, if_neg (by simpa using hshort)]
      rfl

theorem limit_read (hf : f.IsExpressible) (h : Writes f pairs) :
    readLast (fun v => some <$> readPageBound "limit" v) none (valuesOf "limit" pairs) =
      if ∀ n ∈ f.limit, n.natAbs < 10 ^ maxDigits then .ok f.limit
      else .error (.refused .unreadable) :=
  h.bound_read (by decide) rfl hf.limit

theorem offset_read (hf : f.IsExpressible) (h : Writes f pairs) :
    readLast (fun v => some <$> readPageBound "offset" v) none (valuesOf "offset" pairs) =
      if ∀ n ∈ f.offset, n.natAbs < 10 ^ maxDigits then .ok f.offset
      else .error (.refused .unreadable) :=
  h.bound_read (by decide) rfl hf.offset

/-- Where a limit or an offset is not read, it has too many digits. -/
theorem fault_of_bound (name : String) {bound : Option Int} {s : String}
    (hpositive : ∀ n, bound = some n → 0 ≤ n) (htext : bound.map toString = some s) {e : Fault}
    (he : readPageBound name (.text s) = .error e) : e = .refused .unreadable := by
  obtain ⟨n, hn, rfl⟩ := Option.map_eq_some_iff.mp htext
  rw [readPageBound_toString name (hpositive n hn)] at he
  split at he
  · cases he
  · exact (Except.error.inj he).symm

/-- Where a pair is not read, it is a limit or an offset that has too many digits. -/
theorem fault_of_pair (hf : f.IsExpressible) (h : Writes f pairs) {pair : String × Value}
    (hpair : pair ∈ pairs) {g : Filter} {e : Fault} (he : readPair g pair = .error e) :
    e = .refused .unreadable := by
  by_cases hcondition : isCondition pair
  · have hmem : pair ∈ f.conditions.map writeCondition := by
      rw [← h.conditions]
      exact List.mem_filter.mpr ⟨hpair, hcondition⟩
    obtain ⟨c, hc, rfl⟩ := List.mem_map.mp hmem
    obtain ⟨hkey, htest⟩ := hf.conditions c hc
    rw [readPair_condition g hkey] at he
    have herror := Results.eq_error_of_bind_pure he
    rw [show (writeCondition c).1 = c.column from rfl, readCondition_write htest] at herror
    cases herror
  · have hmem : pair ∈ pagePairs f :=
      h.page.mem_iff.mp (List.mem_filter.mpr ⟨hpair, by simpa using hcondition⟩)
    obtain ⟨key, hkey, hmem⟩ := List.mem_flatMap.mp hmem
    obtain ⟨s, hs, rfl⟩ := List.mem_map.mp hmem
    have htext : pageText? f key = some s := by simpa using hs
    simp only [reservedKeys, List.mem_cons, List.not_mem_nil, or_false] at hkey
    rcases hkey with rfl | rfl | rfl | rfl
    · cases he
    · have herror : readOrder s = .error e := Results.eq_error_of_bind_pure he
      by_cases hne : f.order = []
      · simp [pageText?, hne] at htext
      · obtain rfl : Text.join "," (f.order.map writeOrderTerm) = s := by
          simpa [pageText?, hne] using htext
        rw [readOrder_join hf.order hne] at herror
        cases herror
    · exact fault_of_bound "limit" hf.limit htext (Results.eq_error_of_bind_pure he)
    · exact fault_of_bound "offset" hf.offset htext (Results.eq_error_of_bind_pure he)

end Writes

/-- **A filter is what is read of its pairs**, in whatever order they stand, if its
limit and its offset are not too long. If one of them is, there is a fault, and it
is not one of the request. -/
theorem read_of_writes {f : Filter} {pairs : List (String × Value)} (hf : f.IsExpressible)
    (h : Writes f pairs) :
    read pairs = if ∀ n ∈ f.limit.toList ++ f.offset.toList, n.natAbs < 10 ^ maxDigits then .ok f
      else .error (.refused .unreadable) := by
  have hbounds : (∀ n ∈ f.limit.toList ++ f.offset.toList, n.natAbs < 10 ^ maxDigits) ↔
      (∀ n ∈ f.limit, n.natAbs < 10 ^ maxDigits) ∧ ∀ n ∈ f.offset, n.natAbs < 10 ^ maxDigits := by
    simp only [List.mem_append, Option.mem_toList]
    exact ⟨fun hall => ⟨fun n hn => hall n (.inl hn), fun n hn => hall n (.inr hn)⟩,
      fun hall n hn => hn.elim (hall.1 n) (hall.2 n)⟩
  split
  · next hshort =>
    obtain ⟨hlimit, hoffset⟩ := hbounds.mp hshort
    refine read_eq_ok_iff.mpr ⟨h.conditions_read hf, h.select_read hf, h.order_read hf, ?_, ?_⟩
    · rw [h.limit_read hf, if_pos hlimit]
    · rw [h.offset_read hf, if_pos hoffset]
  · next hlong =>
    cases hread : read pairs with
    | error e =>
      obtain ⟨pair, hpair, g, he⟩ := fault_of_read hread
      rw [h.fault_of_pair hf hpair he]
    | ok g =>
      obtain ⟨-, -, -, hlimit, hoffset⟩ := read_eq_ok_iff.mp hread
      refine absurd (hbounds.mpr ⟨?_, ?_⟩) hlong
      · by_contra hnot
        rw [h.limit_read hf, if_neg hnot] at hlimit
        cases hlimit
      · by_contra hnot
        rw [h.offset_read hf, if_neg hnot] at hoffset
        cases hoffset

/-- A page, with two conditions on one column and names that have points. -/
theorem read_of_writes_page :
    read [("limit", .text "10"), ("t.list", .text "in.(a.b,null)"), ("select", .text "id,name"),
        ("age", .text "gte.18"), ("order", .text "t.created.desc"), ("age", .text "is.not.null")] =
      .ok { select := some ["id", "name"],
            conditions := [⟨"t.list", "in", .list [.text "a.b", .null]⟩, ⟨"age", "gte", .int 18⟩,
              ⟨"age", "is", .text notNullWord⟩],
            order := [⟨"t.created", true⟩],
            limit := some 10 } := by
  have hshort : ∀ n : Nat, n < 10 ^ 2 → n < 10 ^ maxDigits := fun n hn =>
    Nat.lt_of_lt_of_le hn (Nat.pow_le_pow_right (by decide) (by decide))
  refine (read_of_writes ⟨?_, ?_, ?_, ?_, ?_, ?_⟩ ⟨rfl, ?_⟩).trans (if_pos ?_)
  · have hitems : ∀ v ∈ [Value.text "a.b", .null], IsItem v := by
      simp only [List.forall_mem_cons, List.not_mem_nil, false_implies, implies_true, and_true]
      refine ⟨⟨.text rfl, ?_, ?_⟩, ⟨.null, ?_, ?_⟩⟩
      · rintro s ⟨⟩
        decide
      · rintro s ⟨⟩
        decide
      · rintro s ⟨⟩
      · rintro s ⟨⟩
    simp only [List.forall_mem_cons, List.not_mem_nil, false_implies, implies_true, and_true]
    exact ⟨⟨by decide, .isIn hitems (by simp)⟩,
      ⟨by decide, .comparison (o := .gte) (by decide) (.int (hshort 18 (by decide)))⟩,
      ⟨by decide, .isNotNull⟩⟩
  · rintro names ⟨⟩
    decide
  · rintro names ⟨⟩
    decide
  · refine List.forall_mem_singleton.mpr ⟨by decide, ?_⟩
    rintro c ⟨⟩
    decide
  · rintro n ⟨⟩
    decide
  · rintro n ⟨⟩
  · exact (List.perm_append_singleton ("limit", Value.text "10") [_, _]).symm
  · simpa using hshort 10 (by decide)

section Limit

variable (n : Int)

theorem isExpressible_limit (h : 0 ≤ n) : ({ limit := some n } : Filter).IsExpressible where
  conditions := by simp
  select := by simp
  names := by simp
  order := by simp
  limit := by simpa using h
  offset := by simp

theorem writes_limit : Writes { limit := some n } [("limit", .text (toString n))] where
  conditions := rfl
  page := .refl _

end Limit

/-- Not every filter is read back: a limit with too many digits is not. -/
theorem not_read_of_long_limit :
    ¬∀ (f : Filter) pairs, f.IsExpressible → Writes f pairs → read pairs = .ok f := by
  intro hall
  have hpower : ∀ k : Nat, ∃ n : Int, 0 ≤ n ∧ ¬n.natAbs < 10 ^ k := by
    intro k
    refine ⟨10 ^ k, Int.pow_nonneg (by decide), ?_⟩
    rw [Int.natAbs_pow]
    exact Nat.lt_irrefl _
  obtain ⟨n, hpositive, hlong⟩ := hpower maxDigits
  have hread := hall _ _ (isExpressible_limit n hpositive) (writes_limit n)
  obtain ⟨-, -, -, hlimit, -⟩ := read_eq_ok_iff.mp hread
  rw [(writes_limit n).limit_read (isExpressible_limit n hpositive),
    if_neg (by simpa using hlong)] at hlimit
  cases hlimit

end Query
end TableGate
