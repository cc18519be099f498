import Mathlib.Data.List.Forall2
import RowStore.Client.Listing
import RowStore.Proofs.Number.Numeral

/-!
# What a listing shows

A listing has a row of cells for every record that a body shows, with one cell under each name of the first record. Its
text is a box of lines, and a footer may follow on a line of its own, which no line of a box can be taken for. Which records
are shown depends on two fields of the body, but the footer asks for one of them only: it follows any object that has a
number as its total.
-/

namespace RowStore

set_option autoImplicit false

namespace Text

def lastLine (text : List Char) : List Char :=
  (text.reverse.takeWhile (· != '\n')).reverse

theorem lastLine_append (before : List Char) {line : List Char} (h : '\n' ∉ line) :
    lastLine (before ++ '\n' :: line) = line := by
  have hline : ∀ c ∈ line.reverse, (c != '\n') = true := by
    rintro c hc
    rw [bne_iff_ne]
    rintro rfl
    exact h (List.mem_reverse.mp hc)
  have hreverse : (before ++ '\n' :: line).reverse = line.reverse ++ '\n' :: before.reverse := by simp
  rw [lastLine, hreverse, List.takeWhile_append_of_pos hline, List.takeWhile_cons_of_neg (by simp), List.append_nil,
    List.reverse_reverse]

theorem getLast?_lastLine {text : List Char} {c : Char} (h : text.getLast? = some c) (hc : c ≠ '\n') :
    (lastLine text).getLast? = some c := by
  rw [List.getLast?_eq_head?_reverse] at h
  rw [lastLine, List.getLast?_reverse]
  cases hreverse : text.reverse with
  | nil =>
    rw [hreverse] at h
    cases h
  | cons first rest =>
    rw [hreverse] at h
    cases h
    rw [List.takeWhile_cons, if_pos (bne_iff_ne.mpr hc)]
    rfl

theorem join_concat_ne_nil (mark : Char) (init : List (List Char)) {last : List Char} (h : last ≠ []) :
    join mark (init ++ [last]) ≠ [] := by
  match init with
  | [] => exact h
  | [piece] => simp [join]
  | piece :: next :: more => simp [join]

/-- Joined pieces end as the last piece does. -/
theorem getLast?_join_concat (mark : Char) (init : List (List Char)) {last : List Char} (h : last ≠ []) :
    (join mark (init ++ [last])).getLast? = last.getLast? := by
  induction init with
  | nil => rfl
  | cons piece rest ih =>
    obtain ⟨next, more, hrest⟩ : ∃ next more, rest ++ [last] = next :: more :=
      List.exists_cons_of_ne_nil (by simp)
    have hne := join_concat_ne_nil mark rest h
    rw [List.cons_append, hrest, join, ← hrest, List.getLast?_append_of_ne_nil _ (List.cons_ne_nil _ _),
      List.getLast?_cons, ← ih]
    rw [List.getLast?_eq_some_getLast hne]
    rfl

/-- The text of a grid is empty or ends with the lower right corner. -/
theorem Grid.getLast?_text (grid : Grid) : ∀ c ∈ grid.text.toList.getLast?, c = '┘' := by
  rw [Grid.text, String.toList_ofList, Grid.lines]
  dsimp only
  split
  · rintro c ⟨⟩
  · rw [getLast?_join_concat _ _ (by simp [Grid.rule])]
    intro c hc
    rw [Grid.rule, List.getLast?_append_of_ne_nil _ (by simp)] at hc
    cases hc
    rfl

end Text

namespace Client

def IsPage (fields : Fields) : Prop :=
  (fields.lookup "data").isSome = true ∧ (fields.lookup "total").isSome = true

/-- The records that a body shows: a page those in its data, every other object itself, and a list those in it. -/
inductive Shows : Value → List Record → Prop where
  | page {fields : Fields} {items : List Value} (htotal : (fields.lookup "total").isSome = true)
    (hdata : fields.lookup "data" = some (.array items)) : Shows (.object fields) (items.filterMap Value.fields?)
  | row {fields : Fields} (h : ¬ IsPage fields) : Shows (.object fields) [fields]
  | list {items : List Value} : Shows (.array items) (items.filterMap Value.fields?)

/-- The cells of a record under some names: one under each, which is empty where the record has nothing or null. -/
structure Fills (header : List String) (record : Record) (cells : List String) : Prop where
  length_eq : cells.length = header.length
  empty : ∀ (i : Nat) (name : String), header[i]? = some name →
    record.lookup name = none ∨ record.lookup name = some .null → cells[i]? = some ""
  full : ∀ (i : Nat) (name : String) (value : Value), header[i]? = some name →
    record.lookup name = some value → value ≠ .null → cells[i]? = some value.text

/-- A text that ends with a footer on a line of its own. -/
def EndsIn (text : String) (footer : Footer) : Prop :=
  Text.lastLine text.toList = (Listing.footerText footer).toList

namespace Listing

theorem toList_footerText (f : Footer) : (footerText f).toList =
    Nat.toDigits 10 f.shown ++ (" of ".toList ++ (Nat.toDigits 10 f.total ++
      (" (skip ".toList ++ (Nat.toDigits 10 f.skipped ++ [')'])))) := by
  simp [footerText, String.toList_append]

theorem newline_not_mem_footerText (f : Footer) : '\n' ∉ (footerText f).toList := by
  have hdigits : ∀ n, '\n' ∉ Nat.toDigits 10 n := by
    intro n hm
    have hdigit := Numeral.isDigit_toDigits hm
    revert hdigit
    decide
  rw [toList_footerText]
  simp [hdigits]

theorem getLast?_footerText (f : Footer) : (footerText f).toList.getLast? = some ')' := by
  simp only [toList_footerText, ← List.append_assoc]
  exact List.getLast?_concat

/-- A number in front of what is no digit is known from the text. -/
theorem toDigits_append_inj {m n : Nat} {rest other : List Char} (hrest : ∀ c ∈ rest.head?, c.isDigit = false)
    (hother : ∀ c ∈ other.head?, c.isDigit = false)
    (h : Nat.toDigits 10 m ++ rest = Nat.toDigits 10 n ++ other) : m = n ∧ rest = other := by
  have hspan := congrArg (List.span Char.isDigit) h
  rw [Numeral.span_append rest (fun _ => Numeral.isDigit_toDigits) hrest,
    Numeral.span_append other (fun _ => Numeral.isDigit_toDigits) hother, Prod.mk.injEq] at hspan
  have hvalue := congrArg Numeral.ofDigits hspan.1
  rw [Numeral.ofDigits_toDigits, Numeral.ofDigits_toDigits] at hvalue
  exact ⟨hvalue, hspan.2⟩

theorem footerText_injective {f g : Footer} (h : (footerText f).toList = (footerText g).toList) : f = g := by
  rw [toList_footerText, toList_footerText] at h
  obtain ⟨hshown, h⟩ := toDigits_append_inj (by simp) (by simp) h
  obtain ⟨htotal, h⟩ := toDigits_append_inj (by simp) (by simp) (List.append_cancel_left h)
  obtain ⟨hskipped, _⟩ := toDigits_append_inj (by simp) (by simp) (List.append_cancel_left h)
  cases f
  cases g
  simp_all

/-- The footer of a listing can be told from its text. -/
theorem endsIn_text_iff (listing : Listing) (f : Footer) : EndsIn listing.text f ↔ listing.footer = some f := by
  unfold EndsIn text
  cases hfooter : listing.footer with
  | none =>
    -- The last line of a box does not end as a footer does.
    refine iff_of_false ?_ nofun
    intro h
    have hlast := getLast?_footerText f
    rw [← h, String.append_empty] at hlast
    generalize hgrid : Text.Grid.mk (listing.header :: listing.rows) = grid at hlast
    cases htext : grid.text.toList.getLast? with
    | none =>
      rw [List.getLast?_eq_none_iff] at htext
      rw [htext] at hlast
      cases hlast
    | some c =>
      have hcorner := grid.getLast?_text c htext
      rw [hcorner] at htext
      rw [Text.getLast?_lastLine htext (by decide)] at hlast
      cases hlast
  | some other =>
    have htext : ((Text.Grid.mk (listing.header :: listing.rows)).text ++ ("\n" ++ footerText other)).toList =
        (Text.Grid.mk (listing.header :: listing.rows)).text.toList ++ '\n' :: (footerText other).toList := by
      simp [String.toList_append]
    change Text.lastLine (_ ++ ("\n" ++ footerText other)).toList = _ ↔ _
    rw [htext, Text.lastLine_append _ (newline_not_mem_footerText other), Option.some.injEq]
    constructor
    · exact footerText_injective
    · rintro rfl
      rfl

theorem records?_eq_some_iff {body : Value} {records : List Record} :
    records? body = some records ↔ Shows body records := by
  constructor
  · intro h
    unfold records? at h
    split at h
    · rename_i fields
      split at h
      · rename_i data total hdata htotal
        obtain ⟨items, hitems, rfl⟩ := Option.map_eq_some_iff.mp h
        cases data with
        | array items' =>
          cases hitems
          exact .page (by rw [htotal]; rfl) hdata
        | _ => cases hitems
      · rename_i hpage
        cases h
        refine .row ?_
        rintro ⟨hdata, htotal⟩
        obtain ⟨data, hdata⟩ := Option.isSome_iff_exists.mp hdata
        obtain ⟨total, htotal⟩ := Option.isSome_iff_exists.mp htotal
        exact hpage data total hdata htotal
    · cases h
      exact .list
    · cases h
  · intro h
    cases h with
    | page htotal hdata =>
      obtain ⟨total, htotal⟩ := Option.isSome_iff_exists.mp htotal
      rw [records?, hdata, htotal]
      rfl
    | @row fields h =>
      rw [records?]
      split
      · rename_i data total hdata htotal
        exact absurd ⟨by rw [hdata]; rfl, by rw [htotal]; rfl⟩ h
      · rfl
    | list => rfl

theorem fills_cells (header : List String) (record : Record) :
    Fills header record (header.map fun name => cell (record.lookup name)) := by
  constructor
  · rw [List.length_map]
  · intro i name hname hnull
    rw [List.getElem?_map, hname]
    rcases hnull with hnone | hnull
    · rw [Option.map_some, hnone]
      rfl
    · rw [Option.map_some, hnull]
      rfl
  · intro i name value hname hvalue hne
    rw [List.getElem?_map, hname, Option.map_some, hvalue]
    cases value with
    | null => exact absurd rfl hne
    | _ => rfl

/-- The listing of records, of which the first one names the columns. -/
theorem ofBody?_of_shows {body : Value} {first : Record} {rest : List Record} (h : Shows body (first :: rest)) :
    ofBody? body = some ⟨Entries.names first,
      (first :: rest).map fun record => (Entries.names first).map fun name => cell (record.lookup name),
      footer? (first :: rest).length body⟩ := by
  rw [ofBody?, records?_eq_some_iff.mpr h]
  rfl

theorem exists_shows_of_ofBody? {body : Value} {listing : Listing} (h : ofBody? body = some listing) :
    ∃ first rest, Shows body (first :: rest) := by
  obtain ⟨records, hrecords, h⟩ := Option.bind_eq_some_iff.mp h
  obtain ⟨first, hfirst, _⟩ := Option.bind_eq_some_iff.mp h
  cases records with
  | nil => cases hfirst
  | cons first rest => exact ⟨first, rest, records?_eq_some_iff.mp hrecords⟩

theorem footer?_eq_some_iff {shown : Nat} {body : Value} {f : Footer} :
    footer? shown body = some f ↔ ∃ fields total, body = .object fields ∧
      (fields.lookup "total" >>= Value.count?) = some total ∧
        f = ⟨shown, total, (fields.lookup "skip" >>= Value.count?).getD 0⟩ := by
  constructor
  · intro h
    unfold footer? at h
    split at h
    · rename_i fields
      obtain ⟨total, htotal, h⟩ := Option.bind_eq_some_iff.mp h
      cases h
      exact ⟨fields, total, rfl, htotal, rfl⟩
    · cases h
  · rintro ⟨fields, total, rfl, htotal, rfl⟩
    rw [footer?, htotal]
    rfl

end Listing

/-- A row of no page that has a number as its total. -/
def SaysTotal (body : Value) : Prop :=
  ∃ fields total, body = .object fields ∧ fields.lookup "data" = none ∧
    (fields.lookup "total" >>= Value.count?) = some total

/-- A body has a listing just when it shows a record. The first record names the columns, in order, and every record has one
cell under each name, empty where it has nothing or null. The text ends with a footer just when the body is an object that
has a number as its total, and then the footer says how many rows there are. So a footer means a page, unless the body is a
row without data that has such a total: it gets a footer too. -/
theorem listing_shows_body (body : Value) :
    ((∃ listing, Listing.ofBody? body = some listing) ↔ ∃ first rest, Shows body (first :: rest)) ∧
    ∀ listing, Listing.ofBody? body = some listing → ∃ first rest, Shows body (first :: rest) ∧
      listing.header = Entries.names first ∧
      List.Forall₂ (Fills listing.header) (first :: rest) listing.rows ∧
      (∀ f, EndsIn listing.text f ↔ ∃ fields total, body = .object fields ∧
        (fields.lookup "total" >>= Value.count?) = some total ∧
        f = ⟨listing.rows.length, total, (fields.lookup "skip" >>= Value.count?).getD 0⟩) ∧
      ((∀ f, EndsIn listing.text f → ∃ fields, body = .object fields ∧ IsPage fields) ↔ ¬ SaysTotal body) := by
  refine ⟨⟨?_, ?_⟩, ?_⟩
  · rintro ⟨listing, h⟩
    exact Listing.exists_shows_of_ofBody? h
  · rintro ⟨first, rest, hshows⟩
    exact ⟨_, Listing.ofBody?_of_shows hshows⟩
  · intro listing h
    obtain ⟨first, rest, hshows⟩ := Listing.exists_shows_of_ofBody? h
    have hlisting := Listing.ofBody?_of_shows hshows
    rw [h, Option.some.injEq] at hlisting
    have hlength : listing.rows.length = (first :: rest).length := by rw [hlisting, List.length_map]
    have hfooter : ∀ f, EndsIn listing.text f ↔ ∃ fields total, body = .object fields ∧
        (fields.lookup "total" >>= Value.count?) = some total ∧
        f = ⟨listing.rows.length, total, (fields.lookup "skip" >>= Value.count?).getD 0⟩ := by
      intro f
      rw [Listing.endsIn_text_iff, hlength, ← Listing.footer?_eq_some_iff, hlisting]
    refine ⟨first, rest, hshows, by rw [hlisting], ?_, hfooter, ?_⟩
    · rw [hlisting, List.forall₂_map_right_iff, List.forall₂_same]
      exact fun record _ => Listing.fills_cells _ record
    · constructor
      · rintro hpages ⟨fields, total, rfl, hdata, htotal⟩
        obtain ⟨_, ⟨⟩, hpage, _⟩ := hpages _ ((hfooter _).mpr ⟨fields, total, rfl, htotal, rfl⟩)
        rw [hdata] at hpage
        cases hpage
      · rintro hsays f hends
        obtain ⟨fields, total, rfl, htotal, _⟩ := (hfooter f).mp hends
        refine ⟨fields, rfl, ?_, ?_⟩
        · rw [Option.isSome_iff_ne_none]
          exact fun hdata => hsays ⟨fields, total, rfl, hdata, htotal⟩
        · obtain ⟨value, hvalue, _⟩ := Option.bind_eq_some_iff.mp htotal
          rw [hvalue]
          rfl

/-- A page of two rows, the second without a name and with a null, among which stands what is no row. -/
theorem listing_shows_body_page :
    let body : Value := .object [("total", .ofNat 7), ("skip", .ofNat 1), ("data", .array
      [.object [("id", .ofNat 1), ("name", .string "Ada"), ("age", .ofNat 36)], .string "row",
        .object [("id", .ofNat 2), ("age", .null)]])]
    ∃ listing, Listing.ofBody? body = some listing ∧ listing.header = ["id", "name", "age"] ∧
      listing.rows = [["1", "Ada", "36"], ["2", "", ""]] ∧ EndsIn listing.text ⟨2, 7, 1⟩ := by
  intro body
  have h : Listing.ofBody? body = some ⟨["id", "name", "age"], [["1", "Ada", "36"], ["2", "", ""]], some ⟨2, 7, 1⟩⟩ := by
    decide +kernel
  obtain ⟨_, _, _, _, _, hfooter, _⟩ := (listing_shows_body body).2 _ h
  exact ⟨_, h, rfl, rfl, (hfooter _).mpr ⟨_, 7, rfl, rfl, rfl⟩⟩

/-- The row of an order with its total gets a footer, though it is no page. -/
theorem not_forall_footer_isPage :
    ¬ ∀ (body : Value) (listing : Listing) (f : Footer), Listing.ofBody? body = some listing →
      EndsIn listing.text f → ∃ fields, body = .object fields ∧ IsPage fields := by
  intro h
  obtain ⟨fields, hfields, hpage, _⟩ := h (.object [("id", .ofNat 1), ("total", .ofNat 5)])
    ⟨["id", "total"], [["1", "5"]], some ⟨1, 5, 0⟩⟩ ⟨1, 5, 0⟩ (by decide +kernel) ((Listing.endsIn_text_iff _ _).mpr rfl)
  cases hfields
  cases hpage

end Client

end RowStore
