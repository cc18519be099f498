import RowStore.Text.Split
import RowStore.Verb

/-!
# Routes

The path of a target is the health check, a collection, or an item of one. Names and keys may be written with
escapes, but they are told apart by their raw form: only the plain word leads to the health check.

A target is a path with a query, or a whole address, of which the scheme and the authority are passed over.
-/

namespace RowStore.Hub

set_option autoImplicit false

/-- A path, its parts still as written. -/
inductive Route where
  | health
  | collection (resource : List Char)
  | item (resource id : List Char)
deriving DecidableEq, Repr

namespace Route

/-- The route of a path. Its last part is not empty. -/
def ofPath? (path : List Char) : Option Route :=
  match Text.splitOn '/' path with
  | [[], name] =>
    if name = [] then none
    else if name = "health".toList then some health
    else some (collection name)
  | [[], name, id] => if id = [] then none else some (item name id)
  | _ => none

def allows : Route → Verb → Bool
  | health, verb => verb.isSafe
  | collection _, _ => true
  | item _ _, verb => verb != .post

end Route

def isSchemeChar (c : Char) : Bool :=
  c.isAlphanum || c = '+' || c = '-' || c = '.'

/-- What follows the authority of a whole address; a path that is left out is the root. -/
def afterAuthority? (text : List Char) : Option (List Char) :=
  match text.span isSchemeChar with
  | (_ :: _, ':' :: '/' :: '/' :: rest) =>
    let (authority, rest) := rest.span fun c => c != '/' && c != '?'
    if authority = [] then none
    else some (match rest with
      | '/' :: _ => rest
      | _ => '/' :: rest)
  | _ => none

/-- The target of a request, cut into its path and its query; what follows a number sign is no part of it. -/
def splitTarget (target : String) : List Char × List Char :=
  let text := target.toList.takeWhile (· != '#')
  let text := (afterAuthority? text).getD text
  (text.takeWhile (· != '?'), (text.dropWhile (· != '?')).drop 1)

end RowStore.Hub
