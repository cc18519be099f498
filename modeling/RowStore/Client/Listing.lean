import RowStore.Json.Writer
import RowStore.Text.Grid

/-!
# Listings

The answer of a hub as a table: a record is one row, a list shows the records in it, and a page shows those of
its data. The first row says which columns there are. What has no row has no table.
-/

namespace RowStore.Client

set_option autoImplicit false

/-- How many rows are shown, of how many, and how many were skipped. -/
structure Footer where
  shown : Nat
  total : Nat
  skipped : Nat
deriving DecidableEq, Repr

structure Listing where
  header : List String
  rows : List (List String)
  footer : Option Footer
deriving DecidableEq, Repr

namespace Listing

/-- The text of a cell; null is empty, like a cell that is missing. -/
def cell : Option Value → String
  | none | some .null => ""
  | some value => value.text

/-- The records that a body shows. -/
def records? : Value → Option (List Record)
  | .object fields =>
    match fields.lookup "data", fields.lookup "total" with
    | some data, some _ => data.items?.map (List.filterMap Value.fields?)
    | _, _ => some [fields]
  | .array items => some (items.filterMap Value.fields?)
  | _ => none

/-- The footer of a body that says its total. -/
def footer? (shown : Nat) : Value → Option Footer
  | .object fields => do
    let total ← fields.lookup "total" >>= Value.count?
    pure ⟨shown, total, (fields.lookup "skip" >>= Value.count?).getD 0⟩
  | _ => none

/-- The listing of a body, if it has a row. -/
def ofBody? (body : Value) : Option Listing := do
  let records ← records? body
  let first ← records.head?
  let header := Entries.names first
  pure {
    header
    rows := records.map fun record => header.map fun name => cell (record.lookup name)
    footer := footer? records.length body }

def footerText (footer : Footer) : String :=
  toString footer.shown ++ " of " ++ toString footer.total ++ " (skip " ++ toString footer.skipped ++ ")"

def text (listing : Listing) : String :=
  (Text.Grid.mk (listing.header :: listing.rows)).text ++ match listing.footer with
    | none => ""
    | some footer => "\n" ++ footerText footer

end Listing

end RowStore.Client
