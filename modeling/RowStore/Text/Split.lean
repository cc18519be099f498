/-!
# Pieces of a text

A text is cut at every occurrence of a character, and pieces are put together with a character between them.
-/

namespace RowStore.Text

set_option autoImplicit false

def splitOn (mark : Char) : List Char → List (List Char)
  | [] => [[]]
  | c :: rest =>
    if c = mark then [] :: splitOn mark rest
    else match splitOn mark rest with
      | piece :: more => (c :: piece) :: more
      | [] => [[c]]

/-- A text without the character is its own only piece. -/
theorem splitOn_of_not_mem {mark : Char} {text : List Char} (h : mark ∉ text) : splitOn mark text = [text] := by
  induction text with
  | nil => rfl
  | cons c rest ih =>
    rw [List.mem_cons, not_or] at h
    simp [splitOn, ih h.2, Ne.symm h.1]

def join (mark : Char) : List (List Char) → List Char
  | [] => []
  | [piece] => piece
  | piece :: next :: more => piece ++ mark :: join mark (next :: more)

end RowStore.Text
