import RowStore.Text.Normal.Data

/-!
# Canonical forms of text

A character with marks may be written as one character or as several. The composed form is found in three steps:
every character is taken apart as far as it goes, marks between two characters that are no marks are brought into
the order of their classes, and what can be put together again is put together, each mark with the last
character that is none. Syllables of Hangul are taken apart and put together by arithmetic.
-/

namespace RowStore.Text.Normal

set_option autoImplicit false

def decompositions : Runs := .ofLines decompositionLines

def classes : Runs := .ofLines classLines

def exclusions : Runs := .ofLines exclusionLines

/-! Hangul -/

def hangulBase : Nat := 0xAC00

def leadBase : Nat := 0x1100

def vowelBase : Nat := 0x1161

/-- One less than the first trailing consonant. -/
def trailBase : Nat := 0x11A7

def vowelCount : Nat := 21

def trailCount : Nat := 28

def isSyllable (code : Nat) : Bool :=
  hangulBase ≤ code && code < hangulBase + 19 * vowelCount * trailCount

def letters (code : Nat) : List Nat :=
  let index := code - hangulBase
  let trail := index % trailCount
  [leadBase + index / trailCount / vowelCount, vowelBase + index / trailCount % vowelCount]
    ++ if trail = 0 then [] else [trailBase + trail]

/-- The syllable of two letters, or of a syllable without a trailing consonant and such a consonant. -/
def syllable? (a b : Nat) : Option Nat :=
  if leadBase ≤ a ∧ a < leadBase + 19 ∧ vowelBase ≤ b ∧ b < vowelBase + vowelCount then
    some (hangulBase + ((a - leadBase) * vowelCount + (b - vowelBase)) * trailCount)
  else if isSyllable a ∧ (a - hangulBase) % trailCount = 0 ∧ trailBase < b ∧ b < trailBase + trailCount then
    some (a + (b - trailBase))
  else none

/-! Steps -/

/-- What a character is made of, if it can be taken apart. -/
def parts? (c : Char) : Option (List Nat) :=
  if c.toNat < 0xC0 then none
  else if isSyllable c.toNat then some (letters c.toNat)
  else (decompositions.run? c).map Run.values

/-- Takes a character apart; no character takes more than a few steps. -/
def takeApart : Nat → Char → List Char
  | 0, c => [c]
  | fuel + 1, c =>
    match parts? c with
    | some parts => parts.flatMap fun part => takeApart fuel (Char.ofNat part)
    | none => [c]

def depth : Nat := 6

/-- The class of a mark, or zero for a character that is none. -/
def markClass (c : Char) : Nat :=
  if c.toNat < 0x300 then 0
  else ((classes.run? c).bind fun run => run.values.head?).getD 0

/-- Puts a mark in front of the marks of greater class. -/
def insertMark (mark : Nat × Char) : List (Nat × Char) → List (Nat × Char)
  | [] => [mark]
  | next :: rest =>
    if next.1 = 0 ∨ mark.1 ≤ next.1 then mark :: next :: rest else next :: insertMark mark rest

/-- Brings marks into the order of their classes. -/
def order : List (Nat × Char) → List (Nat × Char)
  | [] => []
  | c :: rest => if c.1 = 0 then c :: order rest else insertMark c (order rest)

def pair? (a b : Char) : Option Char :=
  match syllable? a.toNat b.toNat with
  | some code => some (Char.ofNat code)
  | none =>
    if b.toNat < 0x300 then none
    else
      (decompositions.find? fun run =>
          run.values = [a.toNat, b.toNat] && markClass (Char.ofNat run.first) = 0
            && markClass a = 0 && !exclusions.holds (Char.ofNat run.first)).map
        fun run => Char.ofNat run.first

/-- A text that is being put together: what is finished, the last character that is no mark with the marks after
it in reverse, and the class of the last one of them. -/
structure Composition where
  done : List Char
  starter : Option Char
  marks : List Char
  last : Nat

namespace Composition

def empty : Composition := ⟨[], none, [], 0⟩

def toList (composition : Composition) : List Char :=
  composition.done ++ composition.starter.toList ++ composition.marks.reverse

/-- Whether a character reaches the last one that is no mark: nothing of its class or above stands between. -/
def reaches (composition : Composition) (markClass : Nat) : Bool :=
  composition.marks.isEmpty || (composition.last < markClass && composition.last != 0)

def add (composition : Composition) (c : Nat × Char) : Composition :=
  let joined := if composition.reaches c.1 then composition.starter >>= (pair? · c.2) else none
  match joined with
  | some whole => { composition with starter := some whole }
  | none =>
    if c.1 = 0 then ⟨composition.toList, some c.2, [], 0⟩
    else { composition with marks := c.2 :: composition.marks, last := c.1 }

end Composition

def isAscii (text : List Char) : Bool :=
  text.all fun c => c.toNat < 0x80

def normal (text : List Char) : List Char :=
  if isAscii text then text
  else
    let apart := text.flatMap (takeApart depth)
    ((order (apart.map fun c => (markClass c, c))).foldl Composition.add .empty).toList

end RowStore.Text.Normal
