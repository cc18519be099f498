import RowStore.Clause.Trace
import RowStore.Proofs.Predicate.Meaning
import RowStore.Sql.Expr

/-!
# Normal clauses

A clause is normal when it is a conjunction and no conjunction stands directly inside another one. The builder of trees
makes a normal clause out of every one that is replayed into it. The normal clause makes the calls that the first one
makes, on any builder, and is satisfied by the same rows.
-/

namespace RowStore.Clause

set_option autoImplicit false

variable {σ : Type}

mutual

inductive Normal : Clause → Prop where
  | all {clauses : List Clause} : (∀ clause ∈ clauses, Part clause) → Normal (.all clauses)

/-- What a normal clause is a conjunction of: conditions, and alternatives whose branches are normal again. -/
inductive Part : Clause → Prop where
  | condition (c : Condition) : Part (.condition c)
  | any {branches : List Clause} : (∀ branch ∈ branches, Normal branch) → Part (.any branches)

end

/-- The tree that the builder of trees makes of a clause. -/
def normalized (clause : Clause) : Clause := .all (flat clause)

theorem build_replay (clause : Clause) : build (clause.replay builder) = .ok clause.normalized := by
  rw [build, replay_builder clause [], List.nil_append, normalized]

mutual

theorem part_of_mem_flat : ∀ clause : Clause, ∀ part ∈ flat clause, Part part
  | .condition c => by
    rw [flat, List.forall_mem_singleton]
    exact .condition c
  | .all clauses => by
    rw [flat]
    exact part_of_mem_flatAll clauses
  | .any branches => by
    rw [flat, List.forall_mem_singleton]
    exact .any (normal_of_mem_flatEach branches)

theorem part_of_mem_flatAll : ∀ clauses : List Clause, ∀ part ∈ flatAll clauses, Part part
  | [] => by
    rw [flatAll]
    exact fun part hm => absurd hm List.not_mem_nil
  | clause :: rest => by
    rw [flatAll, List.forall_mem_append]
    exact ⟨part_of_mem_flat clause, part_of_mem_flatAll rest⟩

theorem normal_of_mem_flatEach : ∀ branches : List Clause, ∀ branch ∈ flatEach branches, Normal branch
  | [] => by
    rw [flatEach]
    exact fun branch hm => absurd hm List.not_mem_nil
  | clause :: rest => by
    rw [flatEach, List.forall_mem_cons]
    exact ⟨.all (part_of_mem_flat clause), normal_of_mem_flatEach rest⟩

end

theorem normal_normalized (clause : Clause) : clause.normalized.Normal := .all (part_of_mem_flat clause)

/-! ## Normal clauses stay as they are -/

mutual

theorem flat_of_part : ∀ clause : Clause, Part clause → flat clause = [clause]
  | .condition _, _ => by rw [flat]
  | .any branches, .any h => by rw [flat, flatEach_of_normal branches h]

theorem flatAll_of_parts : ∀ clauses : List Clause, (∀ clause ∈ clauses, Part clause) → flatAll clauses = clauses
  | [], _ => by rw [flatAll]
  | clause :: rest, h => by
    obtain ⟨hclause, hrest⟩ := List.forall_mem_cons.mp h
    rw [flatAll, flat_of_part clause hclause, flatAll_of_parts rest hrest, List.singleton_append]

theorem normalized_of_normal : ∀ clause : Clause, clause.Normal → clause.normalized = clause
  | .all clauses, .all h => by rw [normalized, flat, flatAll_of_parts clauses h]

theorem flatEach_of_normal : ∀ branches : List Clause, (∀ branch ∈ branches, Normal branch) →
    flatEach branches = branches
  | [], _ => by rw [flatEach]
  | branch :: rest, h => by
    obtain ⟨hbranch, hrest⟩ := List.forall_mem_cons.mp h
    have hsame := normalized_of_normal branch hbranch
    rw [normalized] at hsame
    rw [flatEach, hsame, flatEach_of_normal rest hrest]

end

theorem normalized_eq_self_iff (clause : Clause) : clause.normalized = clause ↔ clause.Normal := by
  constructor
  · intro h
    rw [← h]
    exact normal_normalized clause
  · exact normalized_of_normal clause

/-! ## What is the same of a clause and its normal clause -/

section

variable (b : Builder σ)

mutual

theorem replayAll_flat : ∀ clause : Clause, replayAll b (flat clause) = replay b clause
  | .condition c => by rw [flat, replayAll, replayAll, Step.andThen_skip]
  | .all clauses => by rw [flat, replay, replayAll_flatAll clauses]
  | .any branches => by
    -- An alternative is one call, so that only its branches have to be compared.
    rw [flat, replayAll, replayAll, Step.andThen_skip, replay, replay, replayEach_flatEach branches]

theorem replayAll_flatAll : ∀ clauses : List Clause, replayAll b (flatAll clauses) = replayAll b clauses
  | [] => by rw [flatAll]
  | clause :: rest => by
    rw [flatAll, Builder.replayAll_append, replayAll_flat clause, replayAll_flatAll rest, replayAll]

theorem replayEach_flatEach : ∀ branches : List Clause, replayEach b (flatEach branches) = replayEach b branches
  | [] => by rw [flatEach]
  | branch :: rest => by
    rw [flatEach, replayEach, replay, replayAll_flat branch, replayEach_flatEach rest, replayEach]

end

theorem replay_normalized (clause : Clause) : clause.normalized.replay b = clause.replay b := by
  rw [normalized, replay, replayAll_flat]

end

section

variable (row : Record)

mutual

theorem holdsAll_flat : ∀ clause : Clause, holdsAll row (flat clause) = holds row clause
  | .condition c => by rw [flat, holdsAll, holdsAll, Bool.and_true]
  | .all clauses => by rw [flat, holds, holdsAll_flatAll clauses]
  | .any branches => by rw [flat, holdsAll, holdsAll, Bool.and_true, holds, holds, holdsAny_flatEach branches]

theorem holdsAll_flatAll : ∀ clauses : List Clause, holdsAll row (flatAll clauses) = holdsAll row clauses
  | [] => by rw [flatAll]
  | clause :: rest => by
    rw [flatAll, holdsAll_append, holdsAll_flat clause, holdsAll_flatAll rest, holdsAll]

theorem holdsAny_flatEach : ∀ branches : List Clause, holdsAny row (flatEach branches) = holdsAny row branches
  | [] => by rw [flatEach]
  | branch :: rest => by
    rw [flatEach, holdsAny, holds, holdsAll_flat branch, holdsAny_flatEach rest, holdsAny]

end

theorem holds_normalized (clause : Clause) : clause.normalized.holds row = clause.holds row := by
  rw [normalized, holds, holdsAll_flat]

end

/-- To replay a clause of any shape into the builder of trees succeeds and gives a normal clause, which is satisfied by
the same rows, comes back when it is replayed, and makes the same calls on every builder: those that are traced, and
those that write the text and bind the values in SQL. The clauses that come back as they are, are the normal ones. -/
theorem replay_normalizes (clause : Clause) :
    (∃ tree, build (clause.replay builder) = .ok tree ∧ tree.Normal ∧
      (∀ row : Record, tree.holds row = clause.holds row) ∧
      build (tree.replay builder) = .ok tree ∧
      (∀ {σ : Type} (b : Builder σ), tree.replay b = clause.replay b) ∧
      tree.calls = clause.calls ∧
      (Sql.ofClause tree).text? = (Sql.ofClause clause).text? ∧
      (Sql.ofClause tree).params = (Sql.ofClause clause).params) ∧
    (build (clause.replay builder) = .ok clause ↔ clause.Normal) := by
  have hsql : Sql.ofClause clause.normalized = Sql.ofClause clause := by
    rw [Sql.ofClause, replay_normalized, Sql.ofClause]
  refine ⟨⟨clause.normalized, build_replay clause, normal_normalized clause, ?_, ?_, ?_, ?_, ?_, ?_⟩, ?_⟩
  · exact fun row => holds_normalized row clause
  · rw [build_replay, normalized_of_normal _ (normal_normalized clause)]
  · exact fun b => replay_normalized b clause
  · rw [calls, replay_normalized, calls]
  · rw [hsql]
  · rw [hsql]
  · rw [build_replay, Except.ok.injEq]
    exact normalized_eq_self_iff clause

/-- Conjunctions in conjunctions, a branch that is one condition, and an alternative of nothing. -/
example : (all [all [any [condition (.oneOf "a" []), all [all []]]], any []]).normalized
    = all [any [all [condition (.oneOf "a" [])], all []], any []] := by
  rfl

end RowStore.Clause
