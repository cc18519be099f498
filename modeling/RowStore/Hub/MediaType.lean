/-!
# Media types

A media type is two names and parameters. The second name may end in a suffix after a plus sign. Only the names
are looked at here, but a text with faulty parameters is no media type at all, and neither is one with a
character that is not visible ASCII, a space or a tab.
-/

namespace RowStore.Hub

set_option autoImplicit false

structure MediaType where
  major : List Char
  minor : List Char
  suffix : Option (List Char)
deriving DecidableEq, Repr

namespace MediaType

def isTokenChar (c : Char) : Bool :=
  c.isAlphanum || "!#$%&'*+-.^_|~".toList.contains c || c = '\x60'

def isQuotedChar (c : Char) : Bool :=
  0x1F < c.toNat && c.toNat != 0x7F

/-- After the closing quote of a value: blanks, then the next parameter or the end. -/
def afterQuote? : List Char → Option (List Char)
  | [] => some []
  | ' ' :: rest => afterQuote? rest
  | ';' :: rest => some rest
  | _ => none

/-- What follows a quoted value, whose first character may be a quote. -/
def quotedValue? (first : Bool) : List Char → Option (List Char)
  | [] => none
  | c :: rest =>
    if c = '"' ∧ first = false then afterQuote? rest
    else if isQuotedChar c then quotedValue? false rest
    else none

def plainValue? (first : Bool) : List Char → Option (List Char)
  | [] => some []
  | c :: rest =>
    if c = ';' ∧ first = false then some rest
    else if isTokenChar c then plainValue? false rest
    else none

def value? : List Char → Option (List Char)
  | '"' :: rest => quotedValue? true rest
  | rest => plainValue? true rest

/-- What follows one parameter: a name, an equals sign and a value. -/
def parameter? (text : List Char) : Option (List Char) :=
  let name := text.takeWhile isTokenChar
  match text.dropWhile isTokenChar with
  | '=' :: rest => if name = [] then none else value? rest
  | _ => none

/-- Whether a text is a row of parameters, at most `fuel` of them. -/
def parametersWithin (fuel : Nat) (text : List Char) : Bool :=
  match text.dropWhile (· = ' ') with
  | [] => true
  | rest => match fuel, parameter? rest with
    | fuel + 1, some after => parametersWithin fuel after
    | _, _ => false

/-- Splits a name at its last plus sign, if it has one behind its start. -/
def splitSuffix (name : List Char) : List Char × Option (List Char) :=
  let suffix := (name.reverse.takeWhile (· != '+')).reverse
  let before := name.take (name.length - suffix.length - 1)
  if suffix.length < name.length ∧ before ≠ [] then (before, some suffix) else (name, none)

def isFieldChar (c : Char) : Bool :=
  c = '\t' || (0x20 ≤ c.toNat && c.toNat < 0x7F)

/-- Reads a media type; letters count as lower case. -/
def parse? (text : List Char) : Option MediaType :=
  if !text.all isFieldChar then none else
  let text := text.map Char.toLower
  let major := text.takeWhile isTokenChar
  match text.dropWhile isTokenChar with
  | '/' :: rest =>
    let minor := rest.takeWhile isTokenChar
    let parameters : Bool := match rest.dropWhile isTokenChar with
      | [] => true
      | ';' :: more => !minor.isEmpty && parametersWithin more.length more
      | _ => false
    if !major.isEmpty && parameters then
      let (name, suffix) := splitSuffix minor
      some ⟨major, name, suffix⟩
    else none
  | _ => none

def isJson (type : MediaType) : Bool :=
  type.major = "application".toList && (type.minor = "json".toList || type.suffix = some "json".toList)

end MediaType

end RowStore.Hub
