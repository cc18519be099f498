import RowStore.Proofs.Predicate.Meaning

/-!
# The grammar of predicates

A predicate has a clause just when it is well-formed, and else its first fault is reported, by any sequential builder and
after the same calls. The clause is a conjunction of conditions and alternatives, layer by layer.
-/

namespace RowStore

set_option autoImplicit false

namespace Clause

mutual

/-- A conjunction of conditions and alternatives, with at most so many levels of alternatives inside one another. -/
inductive Layered : Nat → Clause → Prop where
  | all {levels : Nat} {clauses : List Clause} :
      (∀ clause ∈ clauses, Layer levels clause) → Layered levels (.all clauses)

/-- A part of such a conjunction. An alternative has branches, and these are such conjunctions again. -/
inductive Layer : Nat → Clause → Prop where
  | condition {levels : Nat} (c : Condition) : Layer levels (.condition c)
  | any {levels : Nat} {branches : List Clause} :
      branches ≠ [] → (∀ branch ∈ branches, Layered levels branch) → Layer (levels + 1) (.any branches)

end

end Clause

namespace Predicate

open Clause

theorem layer_entryClauses {depth levels : Nat} {name : String} {value : Value} (h : EntryWellFormed depth name value)
    (hlevels : depth + levels = maxDepth)
    (ih : ∀ items fields, value = .array items → .object fields ∈ items → ∀ {depth levels : Nat},
      WellFormed depth fields → depth + levels = maxDepth → ∀ clause ∈ clauses fields, Layer levels clause) :
    ∀ clause ∈ entryClauses name value, Layer levels clause := by
  intro clause hm
  rw [entryClauses.eq_def] at hm
  by_cases hn : name = orKey
  · subst hn
    obtain ⟨items, rfl, hw⟩ := (entryWellFormed_or _ _).mp h
    rw [if_pos rfl] at hm
    cases items with
    | nil => cases hm
    | cons item rest =>
      obtain rfl := List.mem_singleton.mp hm
      have hbranches := (branchesWellFormed_iff _ _).mp hw
      -- There is a branch, so a level is left for it.
      obtain ⟨_, _, hdepth, _⟩ := hbranches item List.mem_cons_self
      obtain ⟨lower, rfl⟩ : ∃ lower, levels = lower + 1 := ⟨levels - 1, by omega⟩
      rw [branchClauses_eq_map]
      refine .any (List.cons_ne_nil _ _) ?_
      intro branch hbranch
      obtain ⟨item', hitem, rfl⟩ := List.mem_map.mp hbranch
      obtain ⟨fields, rfl, _, hfields⟩ := hbranches item' hitem
      rw [branchClause_object]
      exact .all (ih _ fields rfl hitem hfields (by omega))
  · rw [if_neg hn] at hm
    cases value with
    | object operators =>
      obtain ⟨c, _, rfl⟩ := List.mem_map.mp hm
      exact .condition c
    | _ =>
      obtain rfl := List.mem_singleton.mp hm
      exact .condition _

theorem layer_clauses (p : List (String × Value)) :
    ∀ {depth levels : Nat}, WellFormed depth p → depth + levels = maxDepth →
      ∀ clause ∈ clauses p, Layer levels clause := by
  induction p using Predicate.inductionOn with
  | nil => exact fun _ _ _ hm => absurd hm List.not_mem_nil
  | cons name value rest ihBranch ihRest =>
    intro depth levels h hlevels
    obtain ⟨hEntry, hRest⟩ := h
    rw [clauses, List.forall_mem_append]
    exact ⟨layer_entryClauses hEntry hlevels ihBranch, ihRest hRest hlevels⟩

/-- A predicate has a clause just when it is well-formed, and else the first of its faults is reported. Every sequential
builder has the same outcome, and receives the calls that the builder of traces writes down; the builders of traces, of
SQL and of trees are sequential. The clause consists of layers, and there are at most as many as alternatives may be
nested. -/
theorem compile_accepts_grammar (p : Predicate) :
    ((∃ clause, Clause.compile p = .ok clause) ↔ WellFormed 0 p) ∧
    (∀ e, Clause.compile p = .error e ↔ (faults 0 p).head? = some e) ∧
    (∀ {σ τ : Type} (b : Sequential σ τ) (s : σ) (calls : List Call),
      (b.builder.compile p s).1 = (Clause.compile p).map (fun _ => ()) ∧
      b.recorded.builder.compile p (s, calls)
        = ((b.builder.compile p s).1, (b.builder.compile p s).2, (Trace.builder.compile p calls).2)) ∧
    (Sequential.tracing.builder = Trace.builder ∧ Sequential.writing.builder = Sql.Where.builder ∧
      Sequential.growing.builder = Clause.builder) ∧
    ∀ clause, Clause.compile p = .ok clause → clause.Layered maxDepth := by
  refine ⟨?_, ?_, ?_, ⟨Sequential.builder_tracing, Sequential.builder_writing, Sequential.builder_growing⟩, ?_⟩
  · constructor
    · rintro ⟨clause, hc⟩
      exact (compile_eq_ok_iff.mp hc).1
    · intro hw
      exact ⟨_, compile_eq_ok_iff.mpr ⟨hw, rfl⟩⟩
  · exact fun e => compile_eq_error_iff
  · intro σ τ b s calls
    exact ⟨(Builder.meets_compileEntries b p 0 s).trans (map_compile p).symm, b.compile_recorded p s calls⟩
  · intro clause hc
    obtain ⟨hw, rfl⟩ := compile_eq_ok_iff.mp hc
    exact .all (layer_clauses p hw (Nat.zero_add maxDepth))

/-- The second branch has an operand that is no pattern, and a name after the alternative is reserved. -/
def faultyBranch : Predicate :=
  [("age", .object [("$gte", .ofInt 18)]),
   ("$or", .array [.object [("name", .string "Ada")], .object [("name", .object [("$like", .ofInt 5)])]]),
   ("$and", .null)]

theorem compile_accepts_grammar_faultyBranch :
    ¬ WellFormed 0 faultyBranch ∧ Clause.compile faultyBranch = .error (.expectedString "name" .like) ∧
    (Sequential.writing.recorded.builder.compile faultyBranch (.empty, [])).1 = .error (.expectedString "name" .like) ∧
    (Sequential.writing.recorded.builder.compile faultyBranch (.empty, [])).2.2
      = [.condition (.compare "age" .atLeast (.ofInt 18)), .alternative 2, .branch 0,
         .condition (.compare "name" .equal (.string "Ada")), .branch 1] ∧
    ∃ clause, Clause.compile rangeAndAlternatives = .ok clause ∧ clause.Layered maxDepth := by
  obtain ⟨hok, herror, hbuilders, _, _⟩ := compile_accepts_grammar faultyBranch
  obtain ⟨hoks, _, _, _, hlayered⟩ := compile_accepts_grammar rangeAndAlternatives
  have hfirst : Clause.compile faultyBranch = .error (.expectedString "name" .like) :=
    (herror _).mpr (by decide +kernel)
  obtain ⟨houtcome, hcalls⟩ := hbuilders Sequential.writing .empty []
  rw [hfirst] at houtcome
  have hranges : WellFormed 0 rangeAndAlternatives := (faults_eq_nil_iff _).mp (by decide +kernel)
  obtain ⟨clause, hc⟩ := hoks.mpr hranges
  refine ⟨fun hw => ?_, hfirst, by rw [hcalls, houtcome]; rfl, ?_, clause, hc, hlayered clause hc⟩
  · obtain ⟨clause, hc⟩ := hok.mpr hw
    cases hfirst.symm.trans hc
  · rw [hcalls]
    decide +kernel

end Predicate

end RowStore
