/-!
# Page-size policies

A policy says how many rows a page has when the caller does not say, and how many it may have at most. Without
a positive default size it is off, and its maximum means nothing.
-/

namespace RowStore

set_option autoImplicit false

structure Policy where
  defaultSize : Option Nat
  maxSize : Option Nat
deriving DecidableEq, Repr, Inhabited

namespace Policy

/-- The policy that makes no pages. -/
def off : Policy := ⟨none, none⟩

def enabled (policy : Policy) : Bool :=
  match policy.defaultSize with
  | some size => 0 < size
  | none => false

/-- The largest size at most `size` that the policy allows. -/
def cap (policy : Policy) (size : Nat) : Nat :=
  match policy.maxSize with
  | some most => min size most
  | none => size

/-- The page size of a request. -/
def resolve (policy : Policy) (requested : Option Nat) : Option Nat :=
  match policy.defaultSize with
  | some size => if 0 < size then some (policy.cap (requested.getD size)) else requested
  | none => requested

theorem resolve_of_enabled {policy : Policy} (h : policy.enabled = true) (requested : Option Nat) :
    ∃ size, policy.defaultSize = some size ∧ policy.resolve requested = some (policy.cap (requested.getD size)) := by
  unfold enabled at h
  split at h
  · rename_i size hs
    exact ⟨size, hs, by simp_all [resolve]⟩
  · cases h

theorem resolve_of_not_enabled {policy : Policy} (h : policy.enabled = false) (requested : Option Nat) :
    policy.resolve requested = requested := by
  unfold enabled at h
  unfold resolve
  cases hsize : policy.defaultSize with
  | none => rfl
  | some size =>
    rw [hsize] at h
    exact if_neg (of_decide_eq_false h)

theorem cap_le {policy : Policy} {most : Nat} (h : policy.maxSize = some most) (size : Nat) : policy.cap size ≤ most := by
  rw [cap, h]
  exact Nat.min_le_right size most

theorem cap_cap (policy : Policy) (size : Nat) : policy.cap (policy.cap size) = policy.cap size := by
  unfold cap
  cases policy.maxSize with
  | none => rfl
  | some most => simp

theorem resolve_resolve (policy : Policy) (requested : Option Nat) :
    policy.resolve (policy.resolve requested) = policy.resolve requested := by
  cases h : policy.enabled with
  | false => rw [resolve_of_not_enabled h]
  | true =>
    obtain ⟨size, _, hfirst⟩ := resolve_of_enabled h requested
    obtain ⟨_, _, hagain⟩ := resolve_of_enabled h (policy.resolve requested)
    rw [hagain, hfirst, Option.getD_some, cap_cap]

end Policy

end RowStore
