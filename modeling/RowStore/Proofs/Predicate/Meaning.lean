import RowStore.Clause.Holds
import RowStore.Proofs.Predicate.Fault

/-!
# What predicates mean

A row satisfies a predicate if it satisfies every entry of it. This is said of the predicate as it is written; the
compiled clause then holds of exactly the rows that satisfy the predicate, and the order of entries, operators and
alternatives does not matter.
-/

namespace RowStore

set_option autoImplicit false

/-- Equality with an operand; with null, it is the test for null. -/
def Value.Equals (cell operand : Value) : Prop :=
  if operand = .null then cell = .null else cell ≠ .null ∧ cell.same operand = true

def Value.Present (cell operand : Value) : Prop :=
  cell ≠ .null ∧ operand ≠ .null

namespace Operator

/-- Whether a cell satisfies an operator on an operand. -/
def Accepts (cell operand : Value) : Operator → Prop
  | notEqual => cell ≠ .null ∧ (operand ≠ .null → cell.same operand = false)
  | oneOf => ∃ items, operand = .array items ∧ cell ≠ .null ∧ ∃ item ∈ items, cell.same item = true
  | noneOf => ∃ items, operand = .array items ∧
      (items ≠ [] → cell ≠ .null ∧ ∀ item ∈ items, cell.same item = false)
  | less => cell.Present operand ∧ cell.order operand = .lt
  | atMost => cell.Present operand ∧ cell.order operand ≠ .gt
  | greater => cell.Present operand ∧ cell.order operand = .gt
  | atLeast => cell.Present operand ∧ cell.order operand ≠ .lt
  | like => cell.Present operand ∧ Text.Pattern.fits cell.text operand.text = true

end Operator

namespace Predicate

mutual

/-- A row satisfies every entry. -/
def Satisfied (row : Record) : List (String × Value) → Prop
  | [] => True
  | (name, value) :: rest => EntrySatisfied row name value ∧ Satisfied row rest

/-- An empty list of alternatives asks nothing; of any other, one has to be satisfied. The cell under a plain name
equals the value, or satisfies each of the operators on its own operand. -/
def EntrySatisfied (row : Record) (name : String) (value : Value) : Prop :=
  if name = orKey then
    match value with
    | .array items => items = [] ∨ SomeSatisfied row items
    | _ => False
  else
    match value with
    | .object operators =>
      ∀ entry ∈ operators, ∃ op, Operator.ofKey? entry.1 = some op ∧ op.Accepts (row.cell name) entry.2
    | operand => (row.cell name).Equals operand

def SomeSatisfied (row : Record) : List Value → Prop
  | [] => False
  | item :: rest => BranchSatisfied row item ∨ SomeSatisfied row rest

def BranchSatisfied (row : Record) (item : Value) : Prop :=
  match item with
  | .object fields => Satisfied row fields
  | _ => False

end

theorem satisfied_iff (row : Record) (p : List (String × Value)) :
    Satisfied row p ↔ ∀ entry ∈ p, EntrySatisfied row entry.1 entry.2 := by
  induction p with
  | nil => simp [Satisfied]
  | cons entry rest ih =>
    obtain ⟨name, value⟩ := entry
    simp [Satisfied, ih]

theorem someSatisfied_iff (row : Record) (items : List Value) :
    SomeSatisfied row items ↔ ∃ fields, .object fields ∈ items ∧ Satisfied row fields := by
  induction items with
  | nil => simp [SomeSatisfied]
  | cons item rest ih =>
    rw [SomeSatisfied, ih]
    cases item <;> simp [BranchSatisfied, or_and_right, exists_or]

theorem entrySatisfied_or (row : Record) (value : Value) :
    EntrySatisfied row orKey value
      ↔ ∃ items, value = .array items ∧ (items = [] ∨ SomeSatisfied row items) := by
  rw [EntrySatisfied.eq_def, if_pos rfl]
  cases value <;> simp

end Predicate

theorem Comparison.holds_equal_iff (cell operand : Value) :
    Comparison.equal.holds cell operand = true ↔ cell.Equals operand := by
  unfold Comparison.holds Value.Equals
  by_cases ho : operand = .null
  · simp [ho]
  · by_cases hc : cell = .null <;> simp [Comparison.relates, hc, ho]

/-- The condition that an operator makes holds of the rows whose cell the operator accepts. -/
theorem Operator.holds_condition_iff {op : Operator} {column : String} {operand : Value} {c : Condition}
    (h : op.condition column operand = .ok c) (row : Record) :
    c.holds row = true ↔ op.Accepts (row.cell column) operand := by
  have hcompare : ∀ cmp : Comparison, cmp ≠ .equal → (cmp.holds (row.cell column) operand = true ↔
      (row.cell column).Present operand ∧ cmp.holds (row.cell column) operand = true) := by
    intro cmp hne
    unfold Comparison.holds Value.Present
    by_cases hc : row.cell column = .null <;> by_cases ho : operand = .null <;> simp [hc, ho, hne]
  cases op with
  | notEqual =>
    cases h
    unfold Condition.holds Accepts
    by_cases ho : operand = .null <;> simp [ho]
  | oneOf =>
    cases operand <;> cases h
    simp [Condition.holds, Accepts]
  | noneOf =>
    cases operand <;> cases h
    rename_i items
    unfold Condition.holds Accepts
    cases items <;> simp
  | like =>
    cases operand <;> cases h
    rename_i s
    rw [Condition.holds, hcompare _ (by decide), Accepts]
    apply and_congr_right
    intro hp
    simp [Comparison.holds, Comparison.relates, hp.1]
  | less | atMost | greater | atLeast =>
    cases h
    rw [Condition.holds, hcompare _ (by decide), Accepts]
    apply and_congr_right
    intro hp
    simp [Comparison.holds, Comparison.relates, hp.1, hp.2]

namespace Clause

theorem holdsAny_iff (row : Record) (cs : List Clause) :
    holdsAny row cs = true ↔ ∃ c ∈ cs, c.holds row = true := by
  induction cs with
  | nil => simp [holdsAny]
  | cons c rest ih => simp [holdsAny, ih]

theorem holdsAll_append (row : Record) (xs ys : List Clause) :
    holdsAll row (xs ++ ys) = (holdsAll row xs && holdsAll row ys) := by
  induction xs with
  | nil => simp [holdsAll]
  | cons x rest ih => simp [holdsAll, ih, Bool.and_assoc]

end Clause

namespace Predicate

open Clause

variable {row : Record}

theorem holdsAll_operators_iff {column : String} {operators : List (String × Value)}
    (h : ∀ entry ∈ operators, ∃ op, Operator.ofKey? entry.1 = some op ∧ op.Takes entry.2) :
    holdsAll row ((operators.filterMap fun entry => (Condition.ofEntry column entry).toOption).map .condition) = true
      ↔ ∀ entry ∈ operators, ∃ op, Operator.ofKey? entry.1 = some op ∧ op.Accepts (row.cell column) entry.2 := by
  induction operators with
  | nil => simp [holdsAll]
  | cons entry rest ih =>
    obtain ⟨⟨op, hk, ht⟩, hrest⟩ := List.forall_mem_cons.mp h
    obtain ⟨c, hc⟩ := ofEntry_of_takes column hk ht
    have hop : op.condition column entry.2 = .ok c := by
      rw [Condition.ofEntry, hk] at hc
      exact hc
    have hc' : Condition.ofEntry column entry = .ok c := hc
    rw [List.filterMap_cons, hc', List.forall_mem_cons, ← ih hrest]
    simp only [Except.toOption, List.map_cons, holdsAll, holds, Bool.and_eq_true,
      Operator.holds_condition_iff hop, hk, Option.some.injEq, exists_eq_left']

theorem holdsAny_branchClauses_iff {depth : Nat} {items : List Value} (h : BranchesWellFormed depth items)
    (ih : ∀ fields, .object fields ∈ items → WellFormed depth fields →
      (holdsAll row (clauses fields) = true ↔ Satisfied row fields)) :
    holdsAny row (branchClauses items) = true ↔ SomeSatisfied row items := by
  rw [holdsAny_iff, someSatisfied_iff, branchClauses_eq_map]
  have hw := (branchesWellFormed_iff _ _).mp h
  constructor
  · rintro ⟨c, hc, hholds⟩
    obtain ⟨item, hm, rfl⟩ := List.mem_map.mp hc
    obtain ⟨fields, rfl, _, hf⟩ := hw item hm
    rw [branchClause_object, holds] at hholds
    exact ⟨fields, hm, (ih fields hm hf).mp hholds⟩
  · rintro ⟨fields, hm, hs⟩
    obtain ⟨fields', he, _, hf⟩ := hw _ hm
    cases he
    refine ⟨_, List.mem_map_of_mem hm, ?_⟩
    rw [branchClause_object, holds]
    exact (ih fields hm hf).mpr hs

theorem holdsAll_entryClauses_iff {depth : Nat} {name : String} {value : Value}
    (h : EntryWellFormed depth name value)
    (ih : ∀ items fields, value = .array items → .object fields ∈ items → ∀ {depth}, WellFormed depth fields →
      (holdsAll row (clauses fields) = true ↔ Satisfied row fields)) :
    holdsAll row (entryClauses name value) = true ↔ EntrySatisfied row name value := by
  by_cases hn : name = orKey
  · subst hn
    obtain ⟨items, rfl, hw⟩ := (entryWellFormed_or _ _).mp h
    have hb := holdsAny_branchClauses_iff hw fun fields hm hf => ih items fields rfl hm hf
    rw [entryClauses.eq_def, EntrySatisfied.eq_def, if_pos rfl, if_pos rfl]
    cases items with
    | nil => simp [holdsAll]
    | cons item rest => simp only [holdsAll, holds, Bool.and_true, hb, reduceCtorEq, false_or]
  · rw [EntryWellFormed.eq_def, if_neg hn] at h
    rw [entryClauses.eq_def, EntrySatisfied.eq_def, if_neg hn, if_neg hn]
    cases value with
    | object operators => exact holdsAll_operators_iff h.2
    | _ => simp only [holdsAll, holds, Bool.and_true, Condition.holds, Comparison.holds_equal_iff]

/-- The clauses of a well-formed predicate hold together exactly of the rows that satisfy it. -/
theorem holdsAll_clauses_iff (p : List (String × Value)) :
    ∀ {depth : Nat}, WellFormed depth p → (holdsAll row (clauses p) = true ↔ Satisfied row p) := by
  induction p using Predicate.inductionOn with
  | nil =>
    intro depth _
    simp [clauses, holdsAll, Satisfied]
  | cons name value rest ihBranch ihRest =>
    intro depth h
    obtain ⟨hEntry, hRest⟩ := h
    rw [clauses, holdsAll_append, Bool.and_eq_true, holdsAll_entryClauses_iff hEntry ihBranch, ihRest hRest,
      Satisfied]

/-- The same entries, operators and alternatives in another order, at any depth. -/
inductive Reordered : List (String × Value) → List (String × Value) → Prop where
  | trans {p q r : List (String × Value)} : Reordered p q → Reordered q r → Reordered p r
  | entries {p q : List (String × Value)} : p.Perm q → Reordered p q
  | operators (before after : List (String × Value)) (name : String) {ops ops' : List (String × Value)} :
      ops.Perm ops' → Reordered (before ++ (name, .object ops) :: after) (before ++ (name, .object ops') :: after)
  | alternatives (before after : List (String × Value)) {items items' : List Value} :
      items.Perm items' → Reordered (before ++ (orKey, .array items) :: after) (before ++ (orKey, .array items') :: after)
  | branch (before after : List (String × Value)) (left right : List Value) {fields fields' : List (String × Value)} :
      Reordered fields fields' →
      Reordered (before ++ (orKey, .array (left ++ .object fields :: right)) :: after)
        (before ++ (orKey, .array (left ++ .object fields' :: right)) :: after)

theorem forall_entries_congr {E : String → Value → Prop} {before after : List (String × Value)} {name : String}
    {value value' : Value} (h : E name value ↔ E name value') :
    (∀ entry ∈ before ++ (name, value) :: after, E entry.1 entry.2)
      ↔ ∀ entry ∈ before ++ (name, value') :: after, E entry.1 entry.2 := by
  simp only [List.forall_mem_append, List.forall_mem_cons, h]

theorem exists_middle_congr {E : List (String × Value) → Prop} {left right : List Value}
    {fields fields' : List (String × Value)} (h : E fields ↔ E fields') :
    (∃ fs, .object fs ∈ left ++ .object fields :: right ∧ E fs)
      ↔ ∃ fs, .object fs ∈ left ++ .object fields' :: right ∧ E fs := by
  simp only [List.mem_append, List.mem_cons, Value.object.injEq, or_and_right, exists_or, exists_eq_left, h]

theorem wellFormed_reordered {p q : List (String × Value)} (h : Reordered p q) :
    ∀ depth, WellFormed depth p ↔ WellFormed depth q := by
  induction h with
  | trans _ _ ihpq ihqr => exact fun depth => (ihpq depth).trans (ihqr depth)
  | entries hperm =>
    intro depth
    rw [wellFormed_iff, wellFormed_iff]
    exact forall_congr' fun entry => by rw [hperm.mem_iff]
  | operators before after name hperm =>
    intro depth
    rw [wellFormed_iff, wellFormed_iff]
    apply forall_entries_congr
    rw [EntryWellFormed.eq_def, EntryWellFormed.eq_def]
    simp only [hperm.mem_iff]
  | alternatives before after hperm =>
    intro depth
    rw [wellFormed_iff, wellFormed_iff]
    apply forall_entries_congr
    simp only [entryWellFormed_or, Value.array.injEq, exists_eq_left', branchesWellFormed_iff, hperm.mem_iff]
  | branch before after left right _ ih =>
    intro depth
    rw [wellFormed_iff, wellFormed_iff]
    apply forall_entries_congr
    simp only [entryWellFormed_or, Value.array.injEq, exists_eq_left', branchesWellFormed_iff,
      List.forall_mem_append, List.forall_mem_cons, Value.object.injEq, ih]

theorem satisfied_reordered {p q : List (String × Value)} (h : Reordered p q) :
    Satisfied row p ↔ Satisfied row q := by
  induction h with
  | trans _ _ ihpq ihqr => exact ihpq.trans ihqr
  | entries hperm =>
    rw [satisfied_iff, satisfied_iff]
    exact forall_congr' fun entry => by rw [hperm.mem_iff]
  | operators before after name hperm =>
    rw [satisfied_iff, satisfied_iff]
    apply forall_entries_congr
    rw [EntrySatisfied.eq_def, EntrySatisfied.eq_def]
    simp only [hperm.mem_iff]
  | alternatives before after hperm =>
    rw [satisfied_iff, satisfied_iff]
    apply forall_entries_congr
    simp only [entrySatisfied_or, Value.array.injEq, exists_eq_left', someSatisfied_iff, hperm.mem_iff]
    rw [← List.length_eq_zero_iff, hperm.length_eq, List.length_eq_zero_iff]
  | branch before after left right _ ih =>
    rw [satisfied_iff, satisfied_iff]
    apply forall_entries_congr
    simp only [entrySatisfied_or, Value.array.injEq, exists_eq_left', someSatisfied_iff, exists_middle_congr ih]
    simp

/-- The clause of a predicate holds of exactly the rows that satisfy the predicate; a predicate with the same parts
in another order has a clause as well, and it holds of the same rows. -/
theorem holds_compile_iff_satisfied {p : Predicate} {clause : Clause} (hp : Clause.compile p = .ok clause)
    (row : Record) :
    (clause.holds row = true ↔ Satisfied row p) ∧
      ∀ q, Reordered p q → ∃ clause', Clause.compile q = .ok clause' ∧ clause'.holds row = clause.holds row := by
  obtain ⟨hw, rfl⟩ := Clause.compile_eq_ok_iff.mp hp
  have hmeaning : (Clause.all (clauses p)).holds row = true ↔ Satisfied row p := by
    rw [holds]
    exact holdsAll_clauses_iff p hw
  refine ⟨hmeaning, ?_⟩
  intro q hq
  have hwq := (wellFormed_reordered hq 0).mp hw
  refine ⟨_, Clause.compile_eq_ok_iff.mpr ⟨hwq, rfl⟩, ?_⟩
  rw [Bool.eq_iff_iff, hmeaning, holds, holdsAll_clauses_iff q hwq]
  exact (satisfied_reordered hq).symm

/-- A range of ages, and one of two alternatives. -/
def rangeAndAlternatives : Predicate :=
  [("age", .object [("$gte", .ofInt 18), ("$lt", .ofInt 65)]),
   ("$or", .array [.object [("name", .string "Ada")], .object [("id", .null)]])]

theorem holds_compile_iff_satisfied_rangeAndAlternatives :
    ∃ clause, Clause.compile rangeAndAlternatives = .ok clause ∧
      Satisfied [("age", .string "30"), ("name", .string "Ada")] rangeAndAlternatives ∧
      ∃ clause', Clause.compile rangeAndAlternatives.reverse = .ok clause' ∧
        clause'.holds [("age", .string "30"), ("name", .string "Ada")] = true := by
  have hp : ∃ clause, Clause.compile rangeAndAlternatives = .ok clause ∧
      clause.holds [("age", .string "30"), ("name", .string "Ada")] = true :=
    ⟨_, rfl, by decide +kernel⟩
  obtain ⟨clause, hp, hrow⟩ := hp
  obtain ⟨hmeaning, hreorder⟩ := holds_compile_iff_satisfied hp [("age", .string "30"), ("name", .string "Ada")]
  obtain ⟨clause', hq, hsame⟩ := hreorder _ (.entries (List.reverse_perm _).symm)
  exact ⟨clause, hp, hmeaning.mp hrow, clause', hq, hsame.trans hrow⟩

end Predicate

end RowStore
