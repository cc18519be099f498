import RowStore.Proofs.Predicate.Fault

/-!
# Replaying a compiled predicate

The clause of a predicate makes the calls that the predicate makes, on any builder: it makes no difference whether the
clause was kept in between.
-/

namespace RowStore

set_option autoImplicit false

variable {σ τ : Type}

/-- A builder that fails only where a branch fails. -/
def Builder.Unfailing (b : Builder σ) : Prop :=
  ∀ steps, (∀ step ∈ steps, Step.Meets step []) → (b.alternative steps).Meets []

theorem Sequential.unfailing (b : Sequential σ τ) : b.builder.Unfailing := by
  intro steps h
  have hfaults : List.Forall₂ Step.Meets steps (steps.map fun _ => []) := by
    rw [List.forall₂_map_right_iff, List.forall₂_same]
    exact h
  have hall := b.meets_alternative hfaults
  rwa [List.map_const', List.flatten_replicate_nil] at hall

namespace Clause

variable {b : Builder σ}

mutual

theorem meets_replay (h : b.Unfailing) : ∀ clause : Clause, (clause.replay b).Meets []
  | .condition _ => Step.meets_change _
  | .all clauses => meets_replayAll h clauses
  | .any branches => h _ (meets_replayEach h branches)

theorem meets_replayAll (h : b.Unfailing) : ∀ clauses : List Clause, (replayAll b clauses).Meets []
  | [] => Step.meets_skip
  | clause :: rest => (meets_replay h clause).andThen (meets_replayAll h rest)

theorem meets_replayEach (h : b.Unfailing) :
    ∀ branches : List Clause, ∀ step ∈ replayEach b branches, Step.Meets step []
  | [] => fun _ hm => absurd hm List.not_mem_nil
  | branch :: rest => List.forall_mem_cons.mpr ⟨meets_replay h branch, meets_replayEach h rest⟩

end

end Clause

namespace Predicate

open Clause

/-- Replaying the clause of a predicate is building the predicate, on every builder, and fails only where the builder
does on its own account. A builder that writes its calls down has then received the calls of the clause. The text and
the values in SQL are those of the predicate, and the builder of trees gives the clause itself. -/
theorem replay_compile {p : Predicate} {clause : Clause} (hp : Clause.compile p = .ok clause) :
    (∀ {σ : Type} (b : Builder σ), clause.replay b = b.compile p ∧ (b.Unfailing → (clause.replay b).Meets [])) ∧
    (∀ {σ τ : Type} (b : Sequential σ τ) (s : σ),
      b.builder.Unfailing ∧
      clause.replay b.recorded.builder (s, []) = (.ok (), (b.builder.compile p s).2, clause.calls) ∧
      b.recorded.builder.compile p (s, []) = (.ok (), (b.builder.compile p s).2, clause.calls)) ∧
    Sql.ofClause clause = (Sql.Where.builder.compile p .empty).2 ∧
    Clause.build (clause.replay Clause.builder) = .ok clause := by
  obtain ⟨hw, hclause⟩ := compile_eq_ok_iff.mp hp
  -- The clause lists what the entries ask, and a well-formed predicate calls for nothing else.
  have hreplay : ∀ {σ : Type} (b : Builder σ), clause.replay b = b.compile p := by
    intro σ b
    rw [hclause, replay, Builder.compile, Builder.compileEntries_eq b p hw]
  refine ⟨fun b => ⟨hreplay b, fun h => meets_replay h clause⟩, ?_, ?_, ?_⟩
  · intro σ τ b s
    have hok := meets_replay b.recorded.unfailing clause (s, [])
    have hrecorded : b.recorded.builder.compile p (s, []) = (.ok (), (b.builder.compile p s).2, clause.calls) := by
      rw [hreplay, b.compile_recorded] at hok
      rw [b.compile_recorded, calls, hreplay]
      exact Prod.ext hok rfl
    exact ⟨b.unfailing, (congrFun (hreplay _) _).trans hrecorded, hrecorded⟩
  · rw [Sql.ofClause, hreplay]
  · rw [hreplay]
    exact hp

/-- Operators on one column, and an alternative with a branch that asks nothing. -/
def listsAndAlternatives : Predicate :=
  [("age", .object [("$in", .array [.ofInt 1, .ofInt 2]), ("$ne", .ofInt 5)]),
   ("$or", .array [.object [("name", .object [("$nin", .array [.string "x"])])], .object []])]

theorem replay_compile_listsAndAlternatives :
    ∃ clause, Clause.compile listsAndAlternatives = .ok clause ∧
      (clause.replay Sequential.writing.recorded.builder (.empty, [])).2.2
        = [.condition (.oneOf "age" [.ofInt 1, .ofInt 2]), .condition (.notEqual "age" (.ofInt 5)), .alternative 2,
           .branch 0, .condition (.noneOf "name" [.string "x"]), .branch 1, .close] ∧
      (Sql.Where.builder.compile listsAndAlternatives .empty).2.params
        = [.ofInt 1, .ofInt 2, .ofInt 5, .string "x"] ∧
      Clause.build (clause.replay Clause.builder) = .ok clause := by
  obtain ⟨clause, hp, hcalls, hparams⟩ : ∃ clause, Clause.compile listsAndAlternatives = .ok clause ∧
      clause.calls
        = [.condition (.oneOf "age" [.ofInt 1, .ofInt 2]), .condition (.notEqual "age" (.ofInt 5)), .alternative 2,
           .branch 0, .condition (.noneOf "name" [.string "x"]), .branch 1, .close] ∧
      (Sql.ofClause clause).params = [.ofInt 1, .ofInt 2, .ofInt 5, .string "x"] :=
    ⟨_, rfl, by decide +kernel, by decide +kernel⟩
  obtain ⟨_, hsequential, hsql, hbuild⟩ := replay_compile hp
  obtain ⟨_, hrecorded, _⟩ := hsequential Sequential.writing .empty
  rw [hsql] at hparams
  exact ⟨clause, hp, by rw [hrecorded]; exact hcalls, hparams, hbuild⟩

end Predicate

end RowStore
