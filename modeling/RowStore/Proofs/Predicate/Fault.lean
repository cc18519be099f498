import RowStore.Proofs.Clause.Sequential
import RowStore.Proofs.Predicate.Lowering

/-!
# Faults of predicates

The faults of a predicate are listed entry by entry, those of alternatives branch by branch; a list of alternatives in
which something is no object is one fault, and so is a branch that is too deep, whatever is inside. A predicate without
faults is a well-formed one. Every sequential builder reports the first of them, after the same calls.
-/

namespace RowStore

set_option autoImplicit false

variable {σ τ σ' : Type}

def Operator.fault? (column : String) (operand : Value) (op : Operator) : Option QueryError :=
  match op, operand with
  | oneOf, .array _ | noneOf, .array _ | like, .string _ => none
  | oneOf, _ | noneOf, _ => some (.expectedArray column op)
  | like, _ => some (.expectedString column op)
  | notEqual, _ | less, _ | atMost, _ | greater, _ | atLeast, _ => none

namespace Predicate

/-- What is wrong with an entry in the object of operators of a column. -/
def operatorFault? (column : String) (entry : String × Value) : Option QueryError :=
  match Operator.ofKey? entry.1 with
  | some op => op.fault? column entry.2
  | none => some (if isReserved entry.1 then .unknownOperator entry.1 else .unexpectedField column entry.1)

mutual

/-- The faults of the entries, in the order in which they are met. -/
def faults (depth : Nat) : List (String × Value) → List QueryError
  | [] => []
  | (name, value) :: rest => entryFaults depth name value ++ faults depth rest

/-- Alternatives are looked at as a list before any of them is entered. -/
def entryFaults (depth : Nat) (name : String) (value : Value) : List QueryError :=
  if name = orKey then
    match value with
    | .array items => if items.all Builder.isBranch then (branchFaults (depth + 1) items).flatten else [.invalidOr]
    | _ => [.invalidOr]
  else if isReserved name then [.unknownOperator name]
  else match value with
    | .object operators => operators.filterMap (operatorFault? name)
    | _ => []

def branchFaults (depth : Nat) : List Value → List (List QueryError)
  | [] => []
  | item :: rest => itemFaults depth item :: branchFaults depth rest

def itemFaults (depth : Nat) (item : Value) : List QueryError :=
  match item with
  | .object fields => if maxDepth < depth then [.tooDeep maxDepth] else faults depth fields
  | _ => [.invalidOr]

end

end Predicate

open Predicate

/-! ## Well-formed predicates -/

theorem Operator.fault?_eq_none_iff {column : String} {operand : Value} {op : Operator} :
    op.fault? column operand = none ↔ op.Takes operand := by
  cases op <;> cases operand <;> simp [fault?, Takes]

namespace Predicate

theorem operatorFault?_eq_none_iff {column : String} {entry : String × Value} :
    operatorFault? column entry = none ↔ ∃ op, Operator.ofKey? entry.1 = some op ∧ op.Takes entry.2 := by
  rw [operatorFault?]
  cases Operator.ofKey? entry.1 with
  | none => simp
  | some op => simp [Operator.fault?_eq_none_iff]

theorem itemFaults_eq_nil_iff {depth : Nat} {item : Value}
    (ih : ∀ fields, item = .object fields → (faults depth fields = [] ↔ WellFormed depth fields)) :
    itemFaults depth item = [] ↔ BranchWellFormed depth item := by
  cases item with
  | object fields =>
    rw [itemFaults, BranchWellFormed, ← ih fields rfl]
    split
    · exact iff_of_false (List.cons_ne_nil _ _) (by omega)
    · exact (and_iff_right (by omega)).symm
  | _ => simp [itemFaults, BranchWellFormed]

theorem branchFaults_eq_nil_iff {depth : Nat} {items : List Value}
    (ih : ∀ fields, .object fields ∈ items → (faults depth fields = [] ↔ WellFormed depth fields)) :
    (branchFaults depth items).flatten = [] ↔ BranchesWellFormed depth items := by
  induction items with
  | nil => exact iff_of_true rfl trivial
  | cons item rest ihRest =>
    have hitem := @itemFaults_eq_nil_iff depth item fun fields hf => ih fields (hf ▸ List.mem_cons_self)
    have hrest := ihRest fun fields hm => ih fields (List.mem_cons_of_mem _ hm)
    rw [branchFaults, List.flatten_cons, List.append_eq_nil_iff, BranchesWellFormed, hitem, hrest]

theorem entryFaults_eq_nil_iff {depth : Nat} {name : String} {value : Value}
    (ih : ∀ items fields, value = .array items → .object fields ∈ items → ∀ {depth : Nat},
      (faults depth fields = [] ↔ WellFormed depth fields)) :
    entryFaults depth name value = [] ↔ EntryWellFormed depth name value := by
  rw [entryFaults.eq_def, EntryWellFormed.eq_def]
  split
  · cases value with
    | array items =>
      have hbranches := @branchFaults_eq_nil_iff (depth + 1) items fun fields hm => ih items fields rfl hm
      dsimp only
      split
      · exact hbranches
      · rename_i hall
        -- One item that is no object spoils the list, whatever is in the others.
        exact iff_of_false (List.cons_ne_nil _ _) fun hw => hall (Builder.isBranch_of_wellFormed hw)
    | _ => simp
  · split
    · simp_all
    · rename_i hr
      rw [Bool.not_eq_true] at hr
      refine Iff.trans ?_ (and_iff_right hr).symm
      cases value with
      | object operators => simp [List.filterMap_eq_nil_iff, operatorFault?_eq_none_iff]
      | _ => simp

/-- The predicates without faults are the well-formed ones. -/
theorem faults_eq_nil_iff (p : List (String × Value)) :
    ∀ {depth : Nat}, faults depth p = [] ↔ WellFormed depth p := by
  induction p using Predicate.inductionOn with
  | nil => exact iff_of_true rfl trivial
  | cons name value rest ihBranch ihRest =>
    intro depth
    rw [faults, List.append_eq_nil_iff, WellFormed, entryFaults_eq_nil_iff ihBranch, ihRest]

end Predicate

namespace Builder

/-! ## Maps of states -/

section

variable {f : σ → σ'} {b : Builder σ} {b' : Builder σ'}

theorem Maps.put (h : b.Maps f b') (outcome : Except QueryError Condition) :
    Step.Maps f (b.put outcome) (b'.put outcome) := by
  cases outcome with
  | ok c => exact Step.maps_change (h.condition c)
  | error e => exact Step.maps_fail e

theorem Maps.compileOperators (h : b.Maps f b') (column : String) (operators : List (String × Value)) :
    Step.Maps f (b.compileOperators column operators) (b'.compileOperators column operators) := by
  induction operators with
  | nil => exact Step.maps_skip
  | cons entry rest ih => exact (h.put (Condition.ofEntry column entry)).andThen ih

theorem Maps.compileBranches {depth : Nat} {items : List Value}
    (ih : ∀ fields, .object fields ∈ items →
      Step.Maps f (b.compileEntries depth fields) (b'.compileEntries depth fields)) :
    List.Forall₂ (Step.Maps f) (b.compileBranches depth items) (b'.compileBranches depth items) := by
  induction items with
  | nil => exact .nil
  | cons item rest ihRest =>
    refine .cons ?_ (ihRest fun fields hm => ih fields (List.mem_cons_of_mem _ hm))
    cases item with
    | object fields =>
      rw [compileBranch, compileBranch]
      split
      · exact Step.maps_fail _
      · exact ih fields List.mem_cons_self
    | _ => exact Step.maps_fail .invalidOr

theorem Maps.compileEntry (h : b.Maps f b') {depth : Nat} {name : String} {value : Value}
    (ih : ∀ items fields, value = .array items → .object fields ∈ items → ∀ depth : Nat,
      Step.Maps f (b.compileEntries depth fields) (b'.compileEntries depth fields)) :
    Step.Maps f (b.compileEntry depth name value) (b'.compileEntry depth name value) := by
  rw [compileEntry.eq_def, compileEntry.eq_def]
  split
  · cases value with
    | array items =>
      cases items with
      | nil => exact Step.maps_skip
      | cons item rest =>
        simp only
        split
        · exact h.alternative (Maps.compileBranches fun fields hm => ih _ fields rfl hm _)
        · exact Step.maps_fail .invalidOr
    | _ => exact Step.maps_fail .invalidOr
  · split
    · exact Step.maps_fail (.unknownOperator name)
    · cases value with
      | object operators => exact h.compileOperators name operators
      | _ => exact Step.maps_change (h.condition _)

/-- What a predicate does to a builder, it does to the images of its states. -/
theorem Maps.compileEntries (h : b.Maps f b') (p : List (String × Value)) :
    ∀ depth : Nat, Step.Maps f (b.compileEntries depth p) (b'.compileEntries depth p) := by
  induction p using Predicate.inductionOn with
  | nil => exact fun _ => Step.maps_skip
  | cons name value rest ihBranch ihRest =>
    intro depth
    rw [Builder.compileEntries, Builder.compileEntries]
    exact (h.compileEntry ihBranch).andThen (ihRest depth)

end

end Builder

/-- A builder that writes its calls down does what it would do otherwise, and writes what the builder of traces does. -/
theorem Sequential.compile_recorded (b : Sequential σ τ) (p : Predicate) (s : σ) (calls : List Call) :
    b.recorded.builder.compile p (s, calls)
      = ((b.builder.compile p s).1, (b.builder.compile p s).2, (Trace.builder.compile p calls).2) := by
  have hfst := b.maps_fst.builder.compileEntries p 0 (s, calls)
  have hsnd := b.maps_snd.builder.compileEntries p 0 (s, calls)
  rw [builder_tracing] at hsnd
  -- Both halves of the recorded state are images of it.
  change b.builder.compile p s = _ at hfst
  change Trace.builder.compile p calls = _ at hsnd
  rw [hfst, hsnd]
  rfl

namespace Builder

/-! ## The first fault -/

theorem meets_put (b : Builder σ) (column : String) (entry : String × Value) :
    (b.put (Condition.ofEntry column entry)).Meets (operatorFault? column entry).toList := by
  obtain ⟨key, operand⟩ := entry
  rw [Condition.ofEntry, operatorFault?]
  cases Operator.ofKey? key with
  | none =>
    dsimp only
    split
    · exact Step.meets_fail (.unknownOperator key)
    · exact Step.meets_fail (.unexpectedField column key)
  | some op =>
    cases op with
    | notEqual | less | atMost | greater | atLeast => exact Step.meets_change _
    | oneOf | noneOf =>
      cases operand with
      | array items => exact Step.meets_change _
      | _ => exact Step.meets_fail (.expectedArray column _)
    | like =>
      cases operand with
      | string s => exact Step.meets_change _
      | _ => exact Step.meets_fail (.expectedString column .like)

theorem meets_compileOperators (b : Builder σ) (column : String) (operators : List (String × Value)) :
    (b.compileOperators column operators).Meets (operators.filterMap (operatorFault? column)) := by
  induction operators with
  | nil => exact Step.meets_skip
  | cons entry rest ih =>
    have hfaults : (entry :: rest).filterMap (operatorFault? column)
        = (operatorFault? column entry).toList ++ rest.filterMap (operatorFault? column) := by
      rw [List.filterMap_cons]
      cases operatorFault? column entry <;> rfl
    rw [hfaults]
    exact (meets_put b column entry).andThen ih

theorem meets_compileBranches {b : Builder σ} {depth : Nat} {items : List Value}
    (ih : ∀ fields, .object fields ∈ items → (b.compileEntries depth fields).Meets (faults depth fields)) :
    List.Forall₂ Step.Meets (b.compileBranches depth items) (branchFaults depth items) := by
  induction items with
  | nil => exact .nil
  | cons item rest ihRest =>
    refine .cons ?_ (ihRest fun fields hm => ih fields (List.mem_cons_of_mem _ hm))
    cases item with
    | object fields =>
      rw [compileBranch, itemFaults]
      split
      · exact Step.meets_fail _
      · exact ih fields List.mem_cons_self
    | _ => exact Step.meets_fail .invalidOr

theorem meets_compileEntry (b : Sequential σ τ) {depth : Nat} {name : String} {value : Value}
    (ih : ∀ items fields, value = .array items → .object fields ∈ items → ∀ depth : Nat,
      (b.builder.compileEntries depth fields).Meets (faults depth fields)) :
    (b.builder.compileEntry depth name value).Meets (entryFaults depth name value) := by
  rw [compileEntry.eq_def, entryFaults.eq_def]
  split
  · cases value with
    | array items =>
      cases items with
      | nil => exact Step.meets_skip
      | cons item rest =>
        dsimp only
        split
        · exact b.meets_alternative (meets_compileBranches fun fields hm => ih _ fields rfl hm _)
        · exact Step.meets_fail .invalidOr
    | _ => exact Step.meets_fail .invalidOr
  · split
    · exact Step.meets_fail (.unknownOperator name)
    · cases value with
      | object operators => exact meets_compileOperators b.builder name operators
      | _ => exact Step.meets_change _

/-- A sequential builder reports the first fault of a predicate, if there is one. -/
theorem meets_compileEntries (b : Sequential σ τ) (p : List (String × Value)) :
    ∀ depth : Nat, (b.builder.compileEntries depth p).Meets (faults depth p) := by
  induction p using Predicate.inductionOn with
  | nil => exact fun _ => Step.meets_skip
  | cons name value rest ihBranch ihRest =>
    intro depth
    rw [compileEntries, faults]
    exact (meets_compileEntry b ihBranch).andThen (ihRest depth)

end Builder

namespace Clause

/-- As far as the outcome goes, making a clause is like any other building. -/
theorem map_compile (p : Predicate) : (compile p).map (fun _ => ()) = QueryError.outcome (faults 0 p) := by
  have h := Builder.meets_compileEntries Sequential.growing p 0 []
  rw [Sequential.builder_growing] at h
  rw [compile, build, Builder.compile, ← h]
  cases builder.compileEntries 0 p [] with
  | mk outcome clauses => cases outcome <;> rfl

theorem compile_eq_error_iff {p : Predicate} {e : QueryError} :
    compile p = .error e ↔ (faults 0 p).head? = some e := by
  rw [← QueryError.outcome_eq_error_iff, ← map_compile]
  cases compile p <;> simp [Except.map]

/-- A predicate has a clause exactly when it is well-formed, and the clause is the list of what its entries ask. -/
theorem compile_eq_ok_iff {p : Predicate} {clause : Clause} :
    compile p = .ok clause ↔ WellFormed 0 p ∧ clause = .all (clauses p) := by
  by_cases h : WellFormed 0 p
  · rw [compile, build, Builder.compile, Builder.compileEntries_eq builder p h, replayAll_builder, flatAll_clauses]
    simp [h, eq_comm]
  -- Where an entry makes no sense there is a first fault, and no clause.
  · have hne : faults 0 p ≠ [] := fun hnil => h ((faults_eq_nil_iff p).mp hnil)
    rw [compile_eq_error_iff.mpr (List.head?_eq_some_head hne)]
    simp [h]

end Clause

end RowStore
