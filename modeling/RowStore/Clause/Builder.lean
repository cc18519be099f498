import RowStore.Clause.Condition
import RowStore.Query.Error

/-!
# Builders

A builder takes a description of rows call by call. Conditions that follow one another all have to hold; an
alternative is one call, with a step for each of its branches. What a builder does with the steps is its own
affair: it may run them on a state of their own, and stop when one fails.
-/

namespace RowStore

set_option autoImplicit false

/-- A change of a builder's state that may fail; the state it leaves is known in either case. -/
abbrev Step (σ : Type) := σ → Except QueryError Unit × σ

namespace Step

variable {σ : Type}

def skip : Step σ := fun s => (.ok (), s)

def change (f : σ → σ) : Step σ := fun s => (.ok (), f s)

def fail (e : QueryError) : Step σ := fun s => (.error e, s)

/-- Runs the second step where the first one leaves off, unless that failed. -/
def andThen (first second : Step σ) : Step σ := fun s =>
  match first s with
  | (.ok (), s') => second s'
  | (.error e, s') => (.error e, s')

@[simp] theorem skip_andThen (step : Step σ) : skip.andThen step = step := rfl

@[simp] theorem andThen_skip (step : Step σ) : step.andThen skip = step := by
  funext s
  unfold andThen
  split <;> simp_all [skip]

theorem andThen_of_ok {first second : Step σ} {s t : σ} (h : first s = (.ok (), t)) :
    first.andThen second s = second t := by
  rw [andThen, h]

theorem andThen_assoc (a b c : Step σ) : (a.andThen b).andThen c = a.andThen (b.andThen c) := by
  funext s
  unfold andThen
  split <;> split <;> simp_all

end Step

structure Builder (σ : Type) where
  condition : Condition → σ → σ
  alternative : List (Step σ) → Step σ

/-- Puts one condition, if there is no fault in it. -/
def Builder.put {σ : Type} (b : Builder σ) : Except QueryError Condition → Step σ
  | .ok c => .change (b.condition c)
  | .error e => .fail e

end RowStore
