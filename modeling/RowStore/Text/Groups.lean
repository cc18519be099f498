import RowStore.Text.Split

/-!
# Hosts in numbers

The octets of a host are written in decimal digits with points between them, and groups of sixteen bits in
hexadecimal digits with colons between them. The longest run of groups that are zero, the first one of several,
is left out if it has more than one group.
-/

namespace RowStore.Text

set_option autoImplicit false

def octetsText (octets : List Nat) : String :=
  ".".intercalate (octets.map toString)

def hexGroups (groups : List Nat) : String :=
  ":".intercalate (groups.map fun group => String.ofList (Nat.toDigits 16 group))

/-- Groups after some others, with the first run of zeros of a length left out. -/
def shortGroups (front : List Nat) (longest : Nat) : List Nat → String
  | [] => hexGroups front
  | group :: rest =>
    if 1 < longest ∧ ((group :: rest).take longest).all (· == 0) ∧ longest ≤ rest.length + 1 then
      hexGroups front ++ "::" ++ hexGroups ((group :: rest).drop longest)
    else shortGroups (front ++ [group]) longest rest

def longestRun (groups : List Nat) : Nat :=
  ((List.range groups.length).map fun start => ((groups.drop start).takeWhile (· == 0)).length).foldl max 0

def groupsText (groups : List Nat) : String :=
  shortGroups [] (longestRun groups) groups

end RowStore.Text
