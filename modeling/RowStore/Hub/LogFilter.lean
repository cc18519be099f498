import RowStore.Number.Numeral
import RowStore.Text.Blank
import RowStore.Text.Split

/-!
# Log filters

A filter is a list of rules, each with a threshold for the messages of some sources, and perhaps with names of
fields that these messages have to carry. The threshold of a message is that of the rule which says most about
it: the rule with the longest name of a source, then the one with the most fields, then the last one. A filter
that says nothing shows errors only.

A rule is written as a threshold, as the name of a source, or as a name, an equals sign and a threshold, which
may be left out. Between brackets the name of a span may follow the source. A piece that is no rule is set aside
with its fault.
-/

namespace RowStore.Hub

set_option autoImplicit false

inductive Level where
  | error | warn | info | debug | trace
deriving DecidableEq, Repr

namespace Level

/-- The least threshold that lets a level through; a threshold of zero lets nothing through. -/
def rank : Level → Nat
  | error => 1
  | warn => 2
  | info => 3
  | debug => 4
  | trace => 5

def name : Level → String
  | error => "ERROR"
  | warn => "WARN"
  | info => "INFO"
  | debug => "DEBUG"
  | trace => "TRACE"

def all : List Level := [error, warn, info, debug, trace]

end Level

/-- A threshold for the messages whose source starts with a name and that carry some fields. -/
structure LogRule where
  source : List Char
  fields : List (List Char)
  threshold : Nat
deriving DecidableEq, Repr

inductive LogFault where
  | malformed
  | badThreshold
deriving DecidableEq, Repr

def LogFault.message : LogFault → String
  | malformed => "invalid filter directive"
  | badThreshold => "error parsing level filter: expected one of \"off\", \"error\", \"warn\", \"info\", " ++
      "\"debug\", \"trace\", or a number 0-5"

/-- A span as it is written between brackets: its name, and its fields with or without values. -/
structure SpanPattern where
  name : Option (List Char)
  fields : List (List Char)
deriving DecidableEq, Repr

/-- Whether a pattern says nothing but which fields there are. -/
def SpanPattern.isPlain (span : SpanPattern) : Bool :=
  span.name.isNone && span.fields.all fun field => !field.contains '='

structure LogFilter where
  rules : List LogRule
  /-- The pieces that are no rules. -/
  ignored : List (String × LogFault)
deriving DecidableEq, Repr

namespace LogFilter

def threshold? (text : List Char) : Option Nat :=
  let word := String.ofList (text.map Char.toUpper)
  let number := Numeral.natural? (match text with
    | '+' :: digits => digits
    | digits => digits)
  if word = "OFF" then some 0
  else match Level.all.find? fun level => level.name = word with
    | some level => some level.rank
    | none => number.filter (· ≤ 5)

/-- The threshold after an equals sign; without one everything is shown. -/
def thresholdAfter (text : List Char) : Except LogFault Nat :=
  if text = [] then .ok Level.trace.rank
  else match threshold? text with
    | some threshold => .ok threshold
    | none => .error .badThreshold

def startsRule (c : Char) : Bool :=
  c.isAlphanum || c = '-' || c = ':' || c = '_' || 0x80 ≤ c.toNat

/-- The span that a text starts with, after its opening bracket, and what follows its closing one. -/
def span? (text : List Char) : Option (SpanPattern × List Char) :=
  let (name, rest) := text.span fun c => c != ']' && c != '\x7b'
  match rest with
  | ']' :: rest => some (⟨some name, []⟩, rest)
  | '\x7b' :: rest =>
    match rest.span (· != '\x7d') with
    | ([], _) => none
    | (field, '\x7d' :: ']' :: rest) => some (⟨if name = [] then none else some name, [field]⟩, rest)
    | _ => none
  | _ => none

/-- A rule about a span. It speaks of messages only if it names no span and no values. -/
def spanRule (source text : List Char) : Except LogFault (Option LogRule) :=
  match span? text with
  | none => .error .malformed
  | some (span, rest) => do
    let threshold ← match rest with
      | [] => pure Level.trace.rank
      | '=' :: word => thresholdAfter word
      | _ => .error .malformed
    pure (if span.isPlain then some ⟨source, span.fields, threshold⟩ else none)

/-- What a piece of a filter says about messages. Places are counted without the blanks in front of the piece,
but its parts are cut from the whole of it. -/
def rule (text : List Char) : Except LogFault (Option LogRule) :=
  match Text.trim text with
  | [] => .error .malformed
  | '[' :: rest => spanRule [] rest
  | first :: more =>
    if !startsRule first then .error .malformed
    else
      let (name, rest) := (first :: more).span fun c => c != '=' && c != '['
      let source := text.take name.length
      match rest with
      | '=' :: _ => do
        let threshold ← thresholdAfter (text.drop (name.length + 1))
        pure (some ⟨source, [], threshold⟩)
      | '[' :: rest => spanRule source rest
      | _ => .ok (some (match threshold? text with
        | some threshold => ⟨[], [], threshold⟩
        | none => ⟨text, [], Level.trace.rank⟩))

def add (filter : LogFilter) (piece : List Char) : LogFilter :=
  match rule piece with
  | .ok (some rule) => { filter with rules := filter.rules ++ [rule] }
  | .ok none => filter
  | .error fault => { filter with ignored := filter.ignored ++ [(String.ofList piece, fault)] }

/-- The filter of a text, whose pieces are divided by commas. -/
def ofText (text : String) : LogFilter :=
  let pieces := (Text.splitOn ',' text.toList).filter (· ≠ [])
  let filter := pieces.foldl add ⟨[], []⟩
  if filter.ignored.length = pieces.length then
    { filter with rules := [⟨[], [], Level.error.rank⟩] }
  else filter

def fits (source : String) (fields : List String) (rule : LogRule) : Bool :=
  rule.source.isPrefixOf source.toList && rule.fields.all fun field => fields.contains (String.ofList field)

/-- Whether a rule says at least as much as another one. -/
def atLeastAsSpecific (a b : LogRule) : Bool :=
  b.source.length < a.source.length ||
    (a.source.length = b.source.length && b.fields.length ≤ a.fields.length)

def thresholdOf (filter : LogFilter) (source : String) (fields : List String) : Nat :=
  let fitting := filter.rules.filter (fits source fields)
  (fitting.foldl (fun best rule => if atLeastAsSpecific rule best then rule else best) ⟨[], [], 0⟩).threshold

def shows (filter : LogFilter) (source : String) (fields : List String) (level : Level) : Bool :=
  level.rank ≤ filter.thresholdOf source fields

/-- What is said about the pieces that were set aside. -/
def notes (filter : LogFilter) : List String :=
  filter.ignored.map fun (piece, fault) => "ignoring \x60" ++ piece ++ "\x60: " ++ fault.message

end LogFilter

end RowStore.Hub
