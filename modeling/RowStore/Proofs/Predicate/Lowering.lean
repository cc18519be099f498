import RowStore.Clause

/-!
# Predicates as lists of clauses

What a predicate asks is a list of clauses, whether or not all of its entries make sense. For the predicates whose
entries do, giving them to a builder is the same as replaying this list, on every builder.
-/

namespace RowStore

set_option autoImplicit false

variable {σ : Type}

/-- Whether an operand is of the kind that an operator asks for. -/
def Operator.Takes (operand : Value) : Operator → Prop
  | oneOf | noneOf => ∃ items, operand = .array items
  | like => ∃ s, operand = .string s
  | notEqual | less | atMost | greater | atLeast => True

namespace Predicate

/-- Predicates are lists of entries; those of the branches of an entry are smaller. -/
theorem inductionOn {motive : List (String × Value) → Prop} (nil : motive [])
    (cons : ∀ name value rest,
      (∀ items fields, value = .array items → .object fields ∈ items → motive fields) →
      motive rest → motive ((name, value) :: rest)) :
    ∀ p, motive p
  | [] => nil
  | (name, value) :: rest =>
    cons name value rest
      (fun items fields _ _ => inductionOn nil cons fields)
      (inductionOn nil cons rest)
termination_by p => sizeOf p
decreasing_by
  · rename_i hv hm
    have h := List.sizeOf_lt_of_mem hm
    subst hv
    simp only [Value.object.sizeOf_spec, Value.array.sizeOf_spec, List.cons.sizeOf_spec,
      Prod.mk.sizeOf_spec] at *
    omega
  · simp only [List.cons.sizeOf_spec]
    omega

mutual

/-- Every entry makes sense, at a depth of alternatives that is given. -/
def WellFormed (depth : Nat) : List (String × Value) → Prop
  | [] => True
  | (name, value) :: rest => EntryWellFormed depth name value ∧ WellFormed depth rest

/-- Alternatives are objects one level deeper; any other name is not reserved, and an object under it has
operators only. -/
def EntryWellFormed (depth : Nat) (name : String) (value : Value) : Prop :=
  if name = orKey then
    match value with
    | .array items => BranchesWellFormed (depth + 1) items
    | _ => False
  else isReserved name = false ∧
    match value with
    | .object operators => ∀ entry ∈ operators, ∃ op, Operator.ofKey? entry.1 = some op ∧ op.Takes entry.2
    | _ => True

def BranchesWellFormed (depth : Nat) : List Value → Prop
  | [] => True
  | item :: rest => BranchWellFormed depth item ∧ BranchesWellFormed depth rest

def BranchWellFormed (depth : Nat) (item : Value) : Prop :=
  match item with
  | .object fields => depth ≤ maxDepth ∧ WellFormed depth fields
  | _ => False

end

mutual

/-- What the entries ask, one after the other. -/
def clauses : List (String × Value) → List Clause
  | [] => []
  | (name, value) :: rest => entryClauses name value ++ clauses rest

/-- What one entry asks; an entry that makes no sense asks nothing. -/
def entryClauses (name : String) (value : Value) : List Clause :=
  if name = orKey then
    match value with
    | .array [] => []
    | .array items => [.any (branchClauses items)]
    | _ => []
  else
    match value with
    | .object operators =>
      (operators.filterMap fun entry => (Condition.ofEntry name entry).toOption).map .condition
    | scalar => [.condition (.compare name .equal scalar)]

def branchClauses : List Value → List Clause
  | [] => []
  | item :: rest => .all (branchClause item) :: branchClauses rest

def branchClause (item : Value) : List Clause :=
  match item with
  | .object fields => clauses fields
  | _ => []

end

theorem wellFormed_iff (depth : Nat) (p : List (String × Value)) :
    WellFormed depth p ↔ ∀ entry ∈ p, EntryWellFormed depth entry.1 entry.2 := by
  induction p with
  | nil => simp [WellFormed]
  | cons entry rest ih =>
    obtain ⟨name, value⟩ := entry
    simp [WellFormed, ih]

theorem branchesWellFormed_iff (depth : Nat) (items : List Value) :
    BranchesWellFormed depth items
      ↔ ∀ item ∈ items, ∃ fields, item = .object fields ∧ depth ≤ maxDepth ∧ WellFormed depth fields := by
  induction items with
  | nil => simp [BranchesWellFormed]
  | cons item rest ih =>
    simp only [BranchesWellFormed, ih, List.forall_mem_cons]
    apply and_congr_left
    intro _
    cases item <;> simp [BranchWellFormed]

theorem entryWellFormed_or (depth : Nat) (value : Value) :
    EntryWellFormed depth orKey value
      ↔ ∃ items, value = .array items ∧ BranchesWellFormed (depth + 1) items := by
  cases value <;> simp [EntryWellFormed]

theorem branchClauses_eq_map (items : List Value) :
    branchClauses items = items.map fun item => .all (branchClause item) := by
  induction items with
  | nil => rfl
  | cons item rest ih => simp [branchClauses, ih]

theorem branchClause_object (fields : List (String × Value)) :
    branchClause (.object fields) = clauses fields := by
  simp [branchClause]

theorem condition_of_takes (column : String) {op : Operator} {operand : Value} (ht : op.Takes operand) :
    ∃ c, op.condition column operand = .ok c := by
  cases op with
  | oneOf | noneOf =>
    obtain ⟨items, rfl⟩ := ht
    exact ⟨_, rfl⟩
  | like =>
    obtain ⟨s, rfl⟩ := ht
    exact ⟨_, rfl⟩
  | notEqual | less | atMost | greater | atLeast => exact ⟨_, rfl⟩

theorem ofEntry_of_takes (column : String) {key : String} {op : Operator} {operand : Value}
    (hk : Operator.ofKey? key = some op) (ht : op.Takes operand) :
    ∃ c, Condition.ofEntry column (key, operand) = .ok c := by
  obtain ⟨c, hc⟩ := condition_of_takes column ht
  refine ⟨c, ?_⟩
  rw [Condition.ofEntry, hk]
  exact hc

end Predicate

namespace Builder

open Predicate

variable (b : Builder σ)

theorem compileOperators_eq {column : String} {operators : List (String × Value)}
    (h : ∀ entry ∈ operators, ∃ op, Operator.ofKey? entry.1 = some op ∧ op.Takes entry.2) :
    b.compileOperators column operators = Clause.replayAll b
      ((operators.filterMap fun entry => (Condition.ofEntry column entry).toOption).map .condition) := by
  induction operators with
  | nil => rfl
  | cons entry rest ih =>
    obtain ⟨⟨op, hk, ht⟩, hrest⟩ := List.forall_mem_cons.mp h
    obtain ⟨c, hc⟩ := ofEntry_of_takes column hk ht
    have hc' : Condition.ofEntry column entry = .ok c := hc
    simp only [compileOperators, hc', put, ih hrest, List.filterMap_cons, Except.toOption, List.map_cons,
      Clause.replayAll, Clause.replay]

theorem isBranch_of_wellFormed {depth : Nat} {items : List Value} (h : BranchesWellFormed depth items) :
    items.all isBranch = true := by
  rw [List.all_eq_true]
  intro item hm
  obtain ⟨fields, rfl, _, _⟩ := (branchesWellFormed_iff _ _).mp h item hm
  rfl

theorem replayAll_append (xs ys : List Clause) :
    Clause.replayAll b (xs ++ ys) = (Clause.replayAll b xs).andThen (Clause.replayAll b ys) := by
  induction xs with
  | nil => rfl
  | cons x rest ih =>
    rw [List.cons_append, Clause.replayAll, Clause.replayAll, ih, Step.andThen_assoc]

theorem compileBranches_eq {depth : Nat} {items : List Value} (h : BranchesWellFormed depth items)
    (ih : ∀ fields, .object fields ∈ items → WellFormed depth fields →
      b.compileEntries depth fields = Clause.replayAll b (clauses fields)) :
    b.compileBranches depth items = Clause.replayEach b (branchClauses items) := by
  induction items with
  | nil => rfl
  | cons item rest ihRest =>
    obtain ⟨hItem, hRest⟩ := h
    have hr := ihRest hRest fun fields hm => ih fields (List.mem_cons_of_mem _ hm)
    cases item with
    | object fields =>
      obtain ⟨hd, hf⟩ := hItem
      have hlt : ¬ maxDepth < depth := by omega
      rw [compileBranches, branchClauses, Clause.replayEach, compileBranch, Clause.replay,
        branchClause_object, if_neg hlt, ih fields List.mem_cons_self hf, hr]
    | _ => exact hItem.elim

theorem compileEntry_eq {depth : Nat} {name : String} {value : Value} (h : EntryWellFormed depth name value)
    (ih : ∀ items fields, value = .array items → .object fields ∈ items → ∀ {depth}, WellFormed depth fields →
      b.compileEntries depth fields = Clause.replayAll b (clauses fields)) :
    b.compileEntry depth name value = Clause.replayAll b (entryClauses name value) := by
  by_cases hn : name = orKey
  · subst hn
    obtain ⟨items, rfl, hw⟩ := (entryWellFormed_or _ _).mp h
    have hb := compileBranches_eq b hw fun fields hm hf => ih items fields rfl hm hf
    rw [compileEntry.eq_def, entryClauses.eq_def, if_pos rfl, if_pos rfl]
    cases items with
    | nil => rfl
    | cons item rest =>
      simp only [isBranch_of_wellFormed hw, if_true, hb, Clause.replayAll, Clause.replay, Step.andThen_skip]
  · rw [EntryWellFormed.eq_def, if_neg hn] at h
    obtain ⟨hr, hv⟩ := h
    have hr' : ¬ isReserved name = true := by simp [hr]
    rw [compileEntry.eq_def, entryClauses.eq_def, if_neg hn, if_neg hn, if_neg hr']
    cases value with
    | object operators => exact compileOperators_eq b hv
    | _ => simp only [Clause.replayAll, Clause.replay, Step.andThen_skip]

/-- A well-formed predicate makes the calls of its clauses, in their order, on every builder. -/
theorem compileEntries_eq (p : List (String × Value)) :
    ∀ {depth : Nat}, WellFormed depth p → b.compileEntries depth p = Clause.replayAll b (clauses p) := by
  induction p using Predicate.inductionOn with
  | nil =>
    intro depth _
    rfl
  | cons name value rest ihBranch ihRest =>
    intro depth h
    obtain ⟨hEntry, hRest⟩ := h
    rw [compileEntries, clauses, replayAll_append, compileEntry_eq b hEntry ihBranch, ihRest hRest]

end Builder

namespace Clause

mutual

/-- What a clause puts on a builder of trees: no conjunction stands directly inside another. -/
def flat : Clause → List Clause
  | .condition c => [.condition c]
  | .all clauses => flatAll clauses
  | .any branches => [.any (flatEach branches)]

def flatAll : List Clause → List Clause
  | [] => []
  | clause :: rest => flat clause ++ flatAll rest

def flatEach : List Clause → List Clause
  | [] => []
  | clause :: rest => .all (flat clause) :: flatEach rest

end

theorem builder_alternative (steps : List (Step (List Clause))) (made : List Clause) :
    builder.alternative steps made =
      match buildBranches steps with
      | .ok branches => (.ok (), made ++ [any branches])
      | .error e => (.error e, made) := rfl

mutual

theorem replay_builder : ∀ (clause : Clause) (made : List Clause),
    clause.replay builder made = (.ok (), made ++ flat clause)
  | .condition c, made => rfl
  | .all clauses, made => by
    rw [replay, flat]
    exact replayAll_builder clauses made
  | .any branches, made => by
    rw [replay, flat, builder_alternative, buildBranches_replayEach branches]

theorem replayAll_builder : ∀ (clauses : List Clause) (made : List Clause),
    replayAll builder clauses made = (.ok (), made ++ flatAll clauses)
  | [], made => by simp [replayAll, flatAll, Step.skip]
  | clause :: rest, made => by
    rw [replayAll, flatAll, Step.andThen, replay_builder clause made]
    simp only [replayAll_builder rest, List.append_assoc]

theorem buildBranches_replayEach : ∀ branches : List Clause,
    buildBranches (replayEach builder branches) = .ok (flatEach branches)
  | [] => rfl
  | clause :: rest => by
    rw [replayEach, buildBranches, replay_builder clause [], buildBranches_replayEach rest]
    rfl

end

theorem flatAll_append (xs ys : List Clause) : flatAll (xs ++ ys) = flatAll xs ++ flatAll ys := by
  induction xs with
  | nil => rfl
  | cons x rest ih => rw [List.cons_append, flatAll, flatAll, ih, List.append_assoc]

theorem flatAll_conditions (conditions : List Condition) :
    flatAll (conditions.map .condition) = conditions.map .condition := by
  induction conditions with
  | nil => rfl
  | cons c rest ih => rw [List.map_cons, flatAll, flat, ih, List.singleton_append]

end Clause

namespace Predicate

open Clause

theorem flatEach_branchClauses {items : List Value}
    (ih : ∀ fields, .object fields ∈ items → flatAll (clauses fields) = clauses fields) :
    flatEach (branchClauses items) = branchClauses items := by
  induction items with
  | nil => rfl
  | cons item rest ihRest =>
    have hr := ihRest fun fields hm => ih fields (List.mem_cons_of_mem _ hm)
    rw [branchClauses, flatEach, flat, hr]
    cases item with
    | object fields => rw [branchClause_object, ih fields List.mem_cons_self]
    | _ => rfl

theorem flatAll_clauses (p : List (String × Value)) : flatAll (clauses p) = clauses p := by
  induction p using Predicate.inductionOn with
  | nil => rfl
  | cons name value rest ihBranch ihRest =>
    rw [clauses, flatAll_append, ihRest, entryClauses.eq_def]
    congr 1
    split
    · cases value with
      | array items =>
        cases items with
        | nil => rfl
        | cons item more =>
          have hb := flatEach_branchClauses (ihBranch _ · rfl)
          simp only [flatAll, flat, hb, List.append_nil]
      | _ => rfl
    · cases value with
      | object operators => exact flatAll_conditions _
      | _ => rfl

end Predicate

end RowStore
