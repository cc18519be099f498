import Mathlib.Tactic.TFAE
import RowStore.Proofs.Clause.Normal
import RowStore.Proofs.Predicate.Replay
import RowStore.Proofs.Sql.Parts

/-!
# Empty clauses

An empty clause makes no call, on any builder. Any other makes one, which leaves a mark on the builders of traces, of
trees and of SQL, so that each of them tells the empty clauses from the others. The clause of a predicate is empty when
none of the entries asks anything.
-/

namespace RowStore

set_option autoImplicit false

variable {σ τ : Type}

/-! ## Calls that leave a mark -/

namespace Sequential

/-- Every condition leaves a mark on the state of a builder, and so does every alternative that is closed. -/
structure Marks (b : Sequential σ τ) (marked : σ → Prop) : Prop where
  condition : ∀ c s, marked (b.condition c s)
  closed : ∀ draft, marked (b.closed draft)

theorem marks_tracing : tracing.Marks (· ≠ []) :=
  ⟨fun _ _ => List.concat_ne_nil _ _, fun _ => List.concat_ne_nil _ _⟩

theorem marks_growing : growing.Marks (· ≠ []) :=
  ⟨fun _ _ => List.concat_ne_nil _ _, fun _ => List.concat_ne_nil _ _⟩

theorem marks_writing : writing.Marks (·.exprs ≠ []) where
  condition c w := by
    change (w.addCondition c).exprs ≠ []
    rw [Sql.Where.addCondition_eq]
    exact List.concat_ne_nil _ _
  closed _ := List.concat_ne_nil _ _

variable {b : Sequential σ τ} {marked : σ → Prop}

/-- An alternative that succeeds has been closed. -/
theorem Marks.fill (h : b.Marks marked) (index : Nat) (draft : τ) (steps : List (Step σ))
    (hok : (b.fill index draft steps).1 = .ok ()) : marked (b.fill index draft steps).2 := by
  induction steps generalizing index draft with
  | nil => exact h.closed draft
  | cons step rest ih =>
    rw [Sequential.fill] at hok ⊢
    cases hmade : step (b.begun index draft) with
    | mk outcome made =>
      rw [hmade] at hok
      cases outcome with
      | error e => cases hok
      | ok _ => exact ih (index + 1) (b.taken draft made) hok

end Sequential

namespace Clause

section

variable {b : Sequential σ τ} {marked : σ → Prop}

mutual

/-- A state is marked after a clause if it was marked before or the clause is not empty. -/
theorem marked_replay (h : b.Marks marked) : ∀ (clause : Clause) (s : σ),
    (clause.isEmpty = true → marked s) → marked (clause.replay b.builder s).2
  | .condition c, s, _ => h.condition c s
  | .all clauses, s, hs => by
    rw [isEmpty] at hs
    rw [replay]
    exact marked_replayAll h clauses s hs
  -- A clause does not fail on a sequential builder, so the alternative is closed.
  | .any branches, s, _ => h.fill 0 _ _ (meets_replay b.unfailing (.any branches) s)

theorem marked_replayAll (h : b.Marks marked) : ∀ (clauses : List Clause) (s : σ),
    (allEmpty clauses = true → marked s) → marked (replayAll b.builder clauses s).2
  | [], _, hs => hs rfl
  | clause :: rest, s, hs => by
    have hok := meets_replay b.unfailing clause s
    have hmarked := marked_replay h clause s
    rcases hmade : clause.replay b.builder s with ⟨outcome, made⟩
    rw [hmade] at hok hmarked
    -- Nor does it keep the others from being replayed, from the state that it leaves.
    obtain rfl : outcome = .ok () := hok
    rw [replayAll, Step.andThen_of_ok hmade]
    refine marked_replayAll h rest made fun hrest => hmarked fun hclause => hs ?_
    rw [allEmpty, hclause, hrest, Bool.and_self]

end

end

mutual

/-- An empty clause makes no call. -/
theorem replay_of_isEmpty (b : Builder σ) : ∀ clause : Clause, clause.isEmpty = true → clause.replay b = .skip
  | .all clauses, h => by
    rw [isEmpty] at h
    rw [replay]
    exact replayAll_of_allEmpty b clauses h

theorem replayAll_of_allEmpty (b : Builder σ) : ∀ clauses : List Clause, allEmpty clauses = true →
    replayAll b clauses = .skip
  | [], _ => rfl
  | clause :: rest, h => by
    obtain ⟨hclause, hrest⟩ := Bool.and_eq_true_iff.mp h
    rw [replayAll, replay_of_isEmpty b clause hclause, replayAll_of_allEmpty b rest hrest, Step.skip_andThen]

end

/-- The builders that calls leave a mark on tell the empty clauses from the others. -/
theorem not_marked_replay_iff {b : Sequential σ τ} {marked : σ → Prop} (h : b.Marks marked) {s : σ} (hs : ¬ marked s)
    (clause : Clause) : ¬ marked (clause.replay b.builder s).2 ↔ clause.isEmpty = true := by
  constructor
  · intro hunmarked
    by_contra hne
    exact hunmarked (marked_replay h clause s fun hempty => absurd hempty hne)
  · intro hempty
    rwa [replay_of_isEmpty b.builder clause hempty]

theorem calls_eq_nil_iff (clause : Clause) : clause.calls = [] ↔ clause.isEmpty = true := by
  rw [← not_marked_replay_iff Sequential.marks_tracing (not_not_intro rfl) clause, Sequential.builder_tracing, calls,
    not_ne_iff]

theorem exprs_eq_nil_iff (clause : Clause) : (Sql.ofClause clause).exprs = [] ↔ clause.isEmpty = true := by
  rw [← not_marked_replay_iff Sequential.marks_writing (s := .empty) (not_not_intro rfl) clause,
    Sequential.builder_writing, Sql.ofClause, not_ne_iff]

theorem normalized_eq_trivial_iff (clause : Clause) : clause.normalized = trivial ↔ clause.isEmpty = true := by
  rw [← not_marked_replay_iff Sequential.marks_growing (not_not_intro rfl) clause, Sequential.builder_growing,
    replay_builder, List.nil_append, not_ne_iff, normalized, trivial, all.injEq]

theorem text?_eq_none_iff (clause : Clause) : (Sql.ofClause clause).text? = none ↔ clause.isEmpty = true := by
  rw [← exprs_eq_nil_iff, Sql.Where.text?]
  cases (Sql.ofClause clause).exprs <;> simp

theorem ofClause_of_isEmpty {clause : Clause} (h : clause.isEmpty = true) : Sql.ofClause clause = .empty := by
  rw [Sql.ofClause, replay_of_isEmpty _ clause h, Step.skip]

theorem holds_of_isEmpty {clause : Clause} (h : clause.isEmpty = true) (row : Record) : clause.holds row = true := by
  rw [← holds_normalized, (normalized_eq_trivial_iff clause).mpr h, trivial, holds, holdsAll]

end Clause

/-! ## Predicates that ask nothing -/

namespace Predicate

open Clause

/-- There is nothing to choose from, or there is a column and nothing is said about it. -/
def AsksNothing (entry : String × Value) : Prop :=
  entry = (orKey, .array []) ∨ ∃ name, isReserved name = false ∧ entry = (name, .object [])

/-- Each operator on a column puts a condition on it. -/
theorem operators_eq_nil_iff {column : String} {operators : List (String × Value)}
    (h : ∀ entry ∈ operators, ∃ op, Operator.ofKey? entry.1 = some op ∧ op.Takes entry.2) :
    (operators.filterMap fun entry => (Condition.ofEntry column entry).toOption) = [] ↔ operators = [] := by
  cases operators with
  | nil => simp
  | cons entry rest =>
    obtain ⟨op, hk, ht⟩ := h entry List.mem_cons_self
    obtain ⟨c, hc⟩ := ofEntry_of_takes column hk ht
    have hc' : Condition.ofEntry column entry = .ok c := hc
    rw [List.filterMap_cons, hc']
    simp [Except.toOption]

theorem entryClauses_eq_nil_iff {depth : Nat} {name : String} {value : Value} (h : EntryWellFormed depth name value) :
    entryClauses name value = [] ↔ AsksNothing (name, value) := by
  by_cases hn : name = orKey
  · subst hn
    obtain ⟨items, rfl, _⟩ := (entryWellFormed_or _ _).mp h
    rw [entryClauses.eq_def, if_pos rfl]
    cases items <;> simp [AsksNothing]
  · rw [EntryWellFormed.eq_def, if_neg hn] at h
    obtain ⟨hr, hv⟩ := h
    rw [entryClauses.eq_def, if_neg hn]
    cases value with
    | object operators => simp [AsksNothing, hn, hr, operators_eq_nil_iff hv]
    | _ => simp [AsksNothing, hn]

theorem clauses_eq_nil_iff {depth : Nat} {p : List (String × Value)} (h : WellFormed depth p) :
    clauses p = [] ↔ ∀ entry ∈ p, AsksNothing entry := by
  induction p with
  | nil => simp [clauses]
  | cons entry rest ih =>
    obtain ⟨hEntry, hRest⟩ := h
    rw [clauses, List.append_eq_nil_iff, entryClauses_eq_nil_iff hEntry, ih hRest, List.forall_mem_cons]

theorem isEmpty_iff_of_compile {p : Predicate} {clause : Clause} (hp : Clause.compile p = .ok clause) :
    clause.isEmpty = true ↔ ∀ entry ∈ p, AsksNothing entry := by
  obtain ⟨hw, rfl⟩ := compile_eq_ok_iff.mp hp
  rw [← normalized_eq_trivial_iff, normalized, flat, flatAll_clauses, Clause.trivial, all.injEq, clauses_eq_nil_iff hw]

/-- Alternatives of which there are none, and a column without operators. -/
def askingNothing : Predicate := [("$or", .array []), ("age", .object [])]

/-- Every row satisfies this, and yet something is asked: that a cell is none of no values. -/
def askingLittle : Predicate := [("$or", .array []), ("age", .object [("$nin", .array [])])]

end Predicate

namespace Clause

open Predicate

/-- A clause is empty just when it makes no call, as its trace and every builder show; just when its condition in SQL
has no text; and just when the clause of every row is what is built of it. The statements for its plans then have no
condition and no values, where those of any other clause have a condition, and every row satisfies it. The clause of a
predicate is empty just when none of the entries asks anything. -/
theorem isEmpty_iff_no_call (clause : Clause) :
    List.TFAE [
      clause.isEmpty = true,
      clause.calls = [],
      ∀ (σ : Type) (b : Builder σ), clause.replay b = .skip,
      ∃ w, clause.replay Sql.Where.builder .empty = (.ok (), w) ∧ w.text? = none,
      build (clause.replay builder) = .ok trivial] ∧
    (∀ (table : String) (plan : Plan), plan.clause = clause →
      ((Sql.select table plan).Unconditional ↔ clause.isEmpty = true) ∧
      ((Sql.count table plan).Unconditional ↔ clause.isEmpty = true) ∧
      (clause.isEmpty = true → (Sql.select table plan).params = [] ∧ (Sql.count table plan).params = [])) ∧
    (clause.isEmpty = true → ∀ row : Record, clause.holds row = true) ∧
    ∀ p : Predicate, compile p = .ok clause → (clause.isEmpty = true ↔ ∀ entry ∈ p, AsksNothing entry) := by
  refine ⟨?_, ?_, holds_of_isEmpty, fun p hp => isEmpty_iff_of_compile hp⟩
  · tfae_have 1 → 3 := fun h _ b => replay_of_isEmpty b clause h
    tfae_have 3 → 2 := fun h => by rw [calls, h, Step.skip]
    tfae_have 2 → 1 := (calls_eq_nil_iff clause).mp
    tfae_have 3 → 4 := fun h => ⟨.empty, congrFun (h _ _) _, rfl⟩
    tfae_have 4 → 1 := by
      rintro ⟨w, hw, htext⟩
      rw [← text?_eq_none_iff, Sql.ofClause, hw]
      exact htext
    tfae_have 5 ↔ 1 := by
      rw [build_replay, Except.ok.injEq, normalized_eq_trivial_iff]
    tfae_finish
  · rintro table plan rfl
    rw [Sql.unconditional_select_iff, Sql.unconditional_count_iff, exprs_eq_nil_iff]
    refine ⟨Iff.rfl, Iff.rfl, fun h => ?_⟩
    have hparams : (Sql.ofClause plan.clause).params = [] := by rw [ofClause_of_isEmpty h, Sql.Where.empty]
    exact ⟨hparams, hparams⟩

theorem isEmpty_iff_no_call_askingNothing :
    (∃ clause, compile askingNothing = .ok clause ∧ clause.isEmpty = true ∧ clause.calls = [] ∧
      (Sql.count "people" { Plan.everything with clause }).Unconditional ∧ clause.holds [] = true) ∧
    ∃ clause, compile askingLittle = .ok clause ∧ clause.isEmpty = false ∧ clause.calls ≠ [] ∧
      ¬ (Sql.count "people" { Plan.everything with clause }).Unconditional ∧ clause.holds [] = true := by
  constructor
  · obtain ⟨clause, hp⟩ : ∃ clause, compile askingNothing = .ok clause := ⟨_, rfl⟩
    obtain ⟨hcalls, hplans, hholds, hpredicate⟩ := isEmpty_iff_no_call clause
    have hempty : clause.isEmpty = true := by
      rw [hpredicate askingNothing hp, askingNothing, List.forall_mem_cons, List.forall_mem_singleton]
      exact ⟨.inl rfl, .inr ⟨"age", by decide, rfl⟩⟩
    obtain ⟨_, hcount, _⟩ := hplans "people" { Plan.everything with clause } rfl
    exact ⟨clause, hp, hempty, (hcalls.out 0 1).mp hempty, hcount.mpr hempty, hholds hempty []⟩
  · obtain ⟨clause, hp, hholds⟩ : ∃ clause, compile askingLittle = .ok clause ∧ clause.holds [] = true := ⟨_, rfl, rfl⟩
    obtain ⟨hcalls, hplans, _, hpredicate⟩ := isEmpty_iff_no_call clause
    have hne : ¬ clause.isEmpty = true := by
      rw [hpredicate askingLittle hp, askingLittle, List.forall_mem_cons, List.forall_mem_singleton]
      rintro ⟨_, hage⟩
      simp [AsksNothing] at hage
    obtain ⟨_, hcount, _⟩ := hplans "people" { Plan.everything with clause } rfl
    refine ⟨clause, hp, Bool.eq_false_iff.mpr hne, ?_, ?_, hholds⟩
    · exact fun h => hne ((hcalls.out 0 1).mpr h)
    · exact fun h => hne (hcount.mp h)

end Clause

end RowStore
