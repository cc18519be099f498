/-!
# Verbs

What a request wants done. Verbs are written in capital letters.
-/

namespace RowStore

set_option autoImplicit false

inductive Verb where
  | get | head | post | put | patch | delete
deriving DecidableEq, Repr

namespace Verb

def name : Verb → String
  | get => "GET"
  | head => "HEAD"
  | post => "POST"
  | put => "PUT"
  | patch => "PATCH"
  | delete => "DELETE"

def all : List Verb := [get, head, post, put, patch, delete]

def ofName? (name : String) : Option Verb :=
  all.find? fun verb => verb.name = name

@[simp] theorem ofName?_name (verb : Verb) : ofName? verb.name = some verb := by
  cases verb <;> rfl

/-- Whether nothing is asked to change. -/
def isSafe : Verb → Bool
  | get | head => true
  | post | put | patch | delete => false

end Verb

end RowStore
