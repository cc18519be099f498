/-!
# Steps of reading

A reader takes something from the start of a text and leaves a shorter one. That it is shorter is checked with
every step, so that readers that go on from there come to an end.
-/

namespace RowStore.Text

set_option autoImplicit false

/-- A step of reading: what was found, and what follows it, which is shorter. -/
abbrev Step (α : Type) (text : List Char) := Option { step : α × List Char // step.2.length < text.length }

/-- What was found, if it took something from the text. -/
def step? {α : Type} (text : List Char) (found : Option (α × List Char)) : Step α text :=
  match found with
  | none => none
  | some step => if h : step.2.length < text.length then some ⟨step, h⟩ else none

variable {α : Type} {text : List Char}

theorem step?_some {step : α × List Char} (h : step.2.length < text.length) :
    step? text (some step) = some ⟨step, h⟩ :=
  dif_pos h

theorem of_step? {found : Option (α × List Char)} {step : { step : α × List Char // step.2.length < text.length }}
    (h : step? text found = some step) : found = some step.1 := by
  unfold step? at h
  split at h
  · cases h
  · split at h
    · cases h
      rfl
    · cases h

end RowStore.Text
