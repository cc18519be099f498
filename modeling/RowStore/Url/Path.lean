import RowStore.Text.Split
import RowStore.Url.Percent

/-!
# Paths of addresses

A path is a row of parts with slashes between them. Octets that may not stand for themselves are escaped, and
steps to the same and to the upper folder are taken, also where their dots are escaped. A folder that looks like
a drive, a letter with a colon or a bar, is never left.
-/

namespace RowStore.Url.Path

set_option autoImplicit false

/-- Visible ASCII octets but for some marks. -/
def isPlainBut (marks : List Char) (octet : Nat) : Bool :=
  0x20 < octet && octet < 0x7F && !marks.contains (Char.ofNat octet)

def isPlain : Nat → Bool :=
  isPlainBut ['"', '#', '<', '>', '?', '\x60', '\x7b', '\x7d']

/-- A part with its dots written plainly, as far as there are only dots. -/
def plainDots : List Char → List Char
  | '%' :: '2' :: c :: rest => if c = 'e' ∨ c = 'E' then '.' :: plainDots rest else '%' :: '2' :: c :: rest
  | '.' :: rest => '.' :: plainDots rest
  | rest => rest

/-- Whether a part is a letter with a colon or a bar. -/
def isDrive : List Char → Bool
  | [letter, mark] => letter.isAlpha && (mark = ':' || mark = '|')
  | _ => false

def startsWithDrive (part : List Char) : Bool :=
  isDrive (part.take 2) && (part.drop 2).head?.all (· = '\\')

/-- The folders after a step up. -/
def leave (folders : List (List Char)) : List (List Char) :=
  if folders.getLast?.any startsWithDrive then folders else folders.dropLast

/-- Takes the steps of a path after the folders that it is in: one dot stays, two go up, and a step at the end
of the path leads into the folder itself. -/
def walk (folders : List (List Char)) : List (List Char) → List (List Char)
  | [] => folders
  | part :: rest =>
    let dots := plainDots part
    let last : List (List Char) := if rest.isEmpty then [[]] else []
    if dots = ['.', '.'] then walk (leave folders ++ last) rest
    else if dots = ['.'] then walk (folders ++ last) rest
    else walk (folders ++ [part]) rest

def parts (text : List Char) : List (List Char) :=
  (Text.splitOn '/' text).map (escapeUnless isPlain)

def ofParts (parts : List (List Char)) : List Char :=
  '/' :: Text.join '/' (walk [] parts)

def afterSlash : List Char → List Char
  | '/' :: rest => rest
  | rest => rest

def normal (text : List Char) : List Char :=
  ofParts (parts (afterSlash text))

/-- The parts of a path with a drive at their start written with a colon. -/
def withDrive : List (List Char) → List (List Char)
  | part :: rest => (if isDrive part then part.take 1 ++ [':'] else part) :: rest
  | [] => []

/-- The path of a file, which has one slash at its start. -/
def ofFileParts (parts : List (List Char)) : List Char :=
  '/' :: (ofParts (withDrive parts)).dropWhile (· = '/')

end RowStore.Url.Path
