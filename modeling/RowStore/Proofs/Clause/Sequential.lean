import Mathlib.Data.List.Forall2
import RowStore.Clause.Trace
import RowStore.Sql.Expr

/-!
# Sequential builders

A sequential builder fills the branches of an alternative in their order, each from a state that it makes for it, and
fails where a branch fails. The builders of traces, of trees and of SQL are of this kind. Any of them can be made to write
down the calls it receives, which changes nothing else; what it then writes is what the builder of traces writes.
-/

namespace RowStore

set_option autoImplicit false

variable {σ τ σ' τ' : Type}

/-- What a sequential builder is made of. It opens an alternative of some number of branches, begins the branch at each
place, takes it in when it is filled, and closes the alternative; it drops the alternative after a branch that fails. -/
structure Sequential (σ τ : Type) where
  condition : Condition → σ → σ
  opened : Nat → σ → τ
  begun : Nat → τ → σ
  taken : τ → σ → τ
  dropped : τ → σ → σ
  closed : τ → σ

namespace Sequential

/-- Fills branches from a place on, up to the first that fails. -/
def fill (b : Sequential σ τ) (index : Nat) (draft : τ) : List (Step σ) → Except QueryError Unit × σ
  | [] => (.ok (), b.closed draft)
  | step :: rest =>
    match step (b.begun index draft) with
    | (.ok (), s) => b.fill (index + 1) (b.taken draft s) rest
    | (.error e, s) => (.error e, b.dropped draft s)

def builder (b : Sequential σ τ) : Builder σ where
  condition := b.condition
  alternative steps s := b.fill 0 (b.opened steps.length s) steps

/-- The same builder with a record of the calls that it and the builders of its branches receive. -/
def recorded (b : Sequential σ τ) : Sequential (σ × List Call) (τ × List Call) where
  condition c s := (b.condition c s.1, s.2 ++ [.condition c])
  opened branches s := (b.opened branches s.1, s.2 ++ [.alternative branches])
  begun index draft := (b.begun index draft.1, draft.2 ++ [.branch index])
  taken draft s := (b.taken draft.1 s.1, s.2)
  dropped draft s := (b.dropped draft.1 s.1, s.2)
  closed draft := (b.closed draft.1, draft.2 ++ [.close])

/-- Traces. A branch goes on with the record as it is. -/
def tracing : Sequential (List Call) (List Call) where
  condition c calls := calls ++ [.condition c]
  opened branches calls := calls ++ [.alternative branches]
  begun index calls := calls ++ [.branch index]
  taken _ calls := calls
  dropped _ calls := calls
  closed calls := calls ++ [.close]

/-- Trees. An alternative is put on when all its branches are there. -/
def growing : Sequential (List Clause) (List Clause × List Clause) where
  condition c clauses := clauses ++ [.condition c]
  opened _ clauses := (clauses, [])
  begun _ _ := []
  taken draft clauses := (draft.1, draft.2 ++ [.all clauses])
  dropped draft _ := draft.1
  closed draft := draft.1 ++ [.any draft.2]

/-- SQL. The values of a branch are bound after those of the branches before it, also if a later one fails. -/
def writing : Sequential Sql.Where (Sql.Where × List (List Sql.Expr)) where
  condition c w := w.addCondition c
  opened _ w := (w, [])
  begun _ _ := .empty
  taken draft branch := (⟨draft.1.exprs, draft.1.params ++ branch.params⟩, draft.2 ++ [branch.exprs])
  dropped draft _ := draft.1
  closed draft := draft.1.add (.any draft.2) []

theorem fill_tracing (index : Nat) (calls : List Call) (steps : List (Step (List Call))) :
    tracing.fill index calls steps
      = ((Trace.branches index steps).andThen (Step.change (· ++ [Call.close]))) calls := by
  induction steps generalizing index calls with
  | nil => rfl
  | cons step rest ih =>
    rw [fill, Trace.branches, Step.andThen_assoc, Step.andThen_assoc]
    unfold Step.andThen at ih ⊢
    simp only [Step.change, tracing] at ih ⊢
    cases step (calls ++ [.branch index]) with
    | mk outcome made => cases outcome with
      | error e => rfl
      | ok _ => exact ih (index + 1) made

theorem builder_tracing : tracing.builder = Trace.builder := by
  -- Conditions are put on alike, so the builders differ at most in what they do with branches.
  refine congrArg (Builder.mk _) ?_
  funext steps calls
  exact fill_tracing 0 _ steps

theorem fill_growing (index : Nat) (made branches : List Clause) (steps : List (Step (List Clause))) :
    growing.fill index (made, branches) steps = match Clause.buildBranches steps with
      | .ok more => (.ok (), made ++ [.any (branches ++ more)])
      | .error e => (.error e, made) := by
  induction steps generalizing index branches with
  | nil => simp [fill, growing, Clause.buildBranches]
  | cons step rest ih =>
    rw [fill, Clause.buildBranches]
    simp only [growing] at ih ⊢
    cases step [] with
    | mk outcome clauses => cases outcome with
      | error e => rfl
      | ok _ =>
        simp only [ih]
        cases Clause.buildBranches rest with
        | error e => rfl
        | ok more => simp [Except.map]

theorem builder_growing : growing.builder = Clause.builder := by
  refine congrArg (Builder.mk _) ?_
  funext steps made
  exact fill_growing 0 made [] steps

theorem fill_writing (index : Nat) (w : Sql.Where) (branches : List (List Sql.Expr)) (steps : List (Step Sql.Where)) :
    writing.fill index (w, branches) steps = w.addBranches branches steps := by
  induction steps generalizing index w branches with
  | nil => rfl
  | cons step rest ih =>
    rw [fill, Sql.Where.addBranches]
    simp only [writing] at ih ⊢
    cases step .empty with
    | mk outcome branch => cases outcome with
      | error e => rfl
      | ok _ => exact ih (index + 1) _ _

theorem builder_writing : writing.builder = Sql.Where.builder := by
  refine congrArg (Builder.mk _) ?_
  funext steps w
  exact fill_writing 0 w [] steps

end Sequential

/-! ## Maps of states -/

/-- A step that does to the images of states what another one does to the states. -/
def Step.Maps (f : σ → σ') (step : Step σ) (step' : Step σ') : Prop :=
  ∀ s, step' (f s) = ((step s).1, f (step s).2)

namespace Step

variable {f : σ → σ'} {first second : Step σ} {first' second' : Step σ'}

theorem maps_skip : Maps f skip skip := fun _ => rfl

theorem maps_fail (e : QueryError) : Maps f (fail e) (fail e) := fun _ => rfl

theorem maps_change {change : σ → σ} {change' : σ' → σ'} (h : ∀ s, change' (f s) = f (change s)) :
    Maps f (Step.change change) (Step.change change') :=
  fun s => congrArg (Except.ok (), ·) (h s)

theorem Maps.andThen (h : Maps f first first') (h' : Maps f second second') :
    Maps f (first.andThen second) (first'.andThen second') := by
  intro s
  unfold Step.andThen
  rw [h s]
  cases first s with
  | mk outcome made => cases outcome with
    | error e => rfl
    | ok _ => exact h' made

end Step

/-- A builder that does to the images of states what another one does to the states. -/
structure Builder.Maps (f : σ → σ') (b : Builder σ) (b' : Builder σ') : Prop where
  condition : ∀ c s, b'.condition c (f s) = f (b.condition c s)
  alternative : ∀ {steps steps'}, List.Forall₂ (Step.Maps f) steps steps' →
    Step.Maps f (b.alternative steps) (b'.alternative steps')

/-- The same of sequential builders, part by part. -/
structure Sequential.Maps (f : σ → σ') (g : τ → τ') (b : Sequential σ τ) (b' : Sequential σ' τ') : Prop where
  condition : ∀ c s, b'.condition c (f s) = f (b.condition c s)
  opened : ∀ branches s, b'.opened branches (f s) = g (b.opened branches s)
  begun : ∀ index draft, b'.begun index (g draft) = f (b.begun index draft)
  taken : ∀ draft s, b'.taken (g draft) (f s) = g (b.taken draft s)
  dropped : ∀ draft s, b'.dropped (g draft) (f s) = f (b.dropped draft s)
  closed : ∀ draft, b'.closed (g draft) = f (b.closed draft)

namespace Sequential

variable {f : σ → σ'} {g : τ → τ'} {b : Sequential σ τ} {b' : Sequential σ' τ'}

theorem Maps.fill (h : Maps f g b b') {steps : List (Step σ)} {steps' : List (Step σ')}
    (hsteps : List.Forall₂ (Step.Maps f) steps steps') (index : Nat) (draft : τ) :
    b'.fill index (g draft) steps' = ((b.fill index draft steps).1, f (b.fill index draft steps).2) := by
  induction hsteps generalizing index draft with
  | nil => exact congrArg (Except.ok (), ·) (h.closed draft)
  | @cons step _ _ _ hstep _ ih =>
    rw [Sequential.fill, Sequential.fill, h.begun, hstep]
    cases step (b.begun index draft) with
    | mk outcome made => cases outcome with
      | error e => exact congrArg (Except.error e, ·) (h.dropped draft made)
      | ok _ =>
        simp only [h.taken]
        exact ih (index + 1) (b.taken draft made)

theorem Maps.builder (h : Maps f g b b') : Builder.Maps f b.builder b'.builder where
  condition := h.condition
  alternative hsteps s := by
    change b'.fill 0 (b'.opened _ (f s)) _ = _
    rw [← hsteps.length_eq, h.opened]
    exact h.fill hsteps 0 _

theorem maps_fst (b : Sequential σ τ) : Maps Prod.fst Prod.fst b.recorded b :=
  ⟨fun _ _ => rfl, fun _ _ => rfl, fun _ _ => rfl, fun _ _ => rfl, fun _ _ => rfl, fun _ => rfl⟩

theorem maps_snd (b : Sequential σ τ) : Maps Prod.snd Prod.snd b.recorded tracing :=
  ⟨fun _ _ => rfl, fun _ _ => rfl, fun _ _ => rfl, fun _ _ => rfl, fun _ _ => rfl, fun _ => rfl⟩

end Sequential

/-! ## Outcomes -/

/-- The outcome of meeting faults in their order: the first one is reported. -/
def QueryError.outcome : List QueryError → Except QueryError Unit
  | [] => .ok ()
  | e :: _ => .error e

theorem QueryError.outcome_eq_error_iff {faults : List QueryError} {e : QueryError} :
    outcome faults = .error e ↔ faults.head? = some e := by
  cases faults <;> simp [outcome]

/-- A step that meets some faults, whatever state it starts from. -/
def Step.Meets (step : Step σ) (faults : List QueryError) : Prop :=
  ∀ s, (step s).1 = QueryError.outcome faults

namespace Step

variable {first second : Step σ} {faults more : List QueryError}

theorem meets_skip : Meets (skip (σ := σ)) [] := fun _ => rfl

theorem meets_change (change : σ → σ) : Meets (Step.change change) [] := fun _ => rfl

theorem meets_fail (e : QueryError) : Meets (fail (σ := σ) e) [e] := fun _ => rfl

theorem Meets.andThen (h : Meets first faults) (h' : Meets second more) :
    Meets (first.andThen second) (faults ++ more) := by
  intro s
  have hs := h s
  unfold Step.andThen
  -- The second step runs only if there are no faults in the first.
  cases faults with
  | nil =>
    rcases hfirst : first s with ⟨outcome, made⟩
    rw [hfirst] at hs
    subst hs
    exact h' made
  | cons e rest =>
    rcases hfirst : first s with ⟨outcome, made⟩
    rw [hfirst] at hs
    subst hs
    rfl

end Step

/-- A sequential builder meets the faults of the branches one after the other. -/
theorem Sequential.meets_alternative (b : Sequential σ τ) {steps : List (Step σ)} {faults : List (List QueryError)}
    (h : List.Forall₂ Step.Meets steps faults) : (b.builder.alternative steps).Meets faults.flatten := by
  -- A branch that succeeds moves the place and the draft on, so both are arbitrary in the induction.
  have hfill : ∀ index draft, (b.fill index draft steps).1 = QueryError.outcome faults.flatten := by
    induction h with
    | nil => exact fun _ _ => rfl
    | @cons step first rest _ hstep _ ih =>
      intro index draft
      have hs := hstep (b.begun index draft)
      rw [fill, List.flatten_cons]
      rcases hmade : step (b.begun index draft) with ⟨outcome, made⟩
      rw [hmade] at hs
      subst hs
      cases first with
      | nil => exact ih (index + 1) (b.taken draft made)
      | cons e more => rfl
  exact fun s => hfill 0 _

end RowStore
