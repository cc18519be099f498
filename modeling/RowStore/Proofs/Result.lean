import RowStore.Proofs.Json.Restored
import RowStore.Result

/-!
# Shapes of written results

The written forms of one record and of several, and of a page and of a list, carry no mark of their kind, and they are read
by trying one kind after the other. No form of one kind can be read as a kind that is tried before it: a list of records
starts with no number, as a page in a list would, and a list is no object. So every result comes back as it was written,
whatever names its fields have.
-/

namespace RowStore

set_option autoImplicit false

/-- The counts of a page are words of 64 bits. -/
structure Page.InWords (page : Page) : Prop where
  total : page.total < Numeral.wordBound
  limit : page.limit < Numeral.wordBound
  skip : page.skip < Numeral.wordBound

def Selection.InWords : Selection → Prop
  | page p => p.InWords
  | rows _ => True

/-! ### Values -/

namespace Value

theorem listOf?_objects (records : List Record) : listOf? fields? (.array (records.map .object)) = some records := by
  change (records.map object).mapM fields? = some records
  induction records with
  | nil => rfl
  | cons record records ih => rw [List.map_cons, List.mapM_cons, ih]; rfl

theorem count?_ofNat {n : Nat} (h : n < Numeral.wordBound) : (ofNat n).count? = some n := by
  have hrange : 0 ≤ (n : Int) ∧ (n : Int) < Numeral.wordBound := by omega
  change (if 0 ≤ (n : Int) ∧ (n : Int) < Numeral.wordBound then some (n : Int).toNat else none) = some n
  rw [if_pos hrange, Int.toNat_natCast]

end Value

theorem OneOrMany.ofValue?_toValue (data : OneOrMany Record) : ofValue? data.toValue = some data := by
  cases data with
  | one record => rfl
  | many records =>
    rw [toValue, ofValue?, Value.listOf?_objects]
    rfl

namespace Page

theorem required_named {α : Type} {fields : Fields} {name : String} {value : Value} (h : fields.lookup name = some value)
    (place : Nat) (read : Value → Option α) : (Parts.named fields).required name place read = read value := by
  rw [Parts.required, Parts.part?, h]
  rfl

theorem ofValue?_toValue {page : Page} (h : page.InWords) : ofValue? page.toValue = some page := by
  let parts := Parts.named [("total", .ofNat page.total), ("limit", .ofNat page.limit), ("skip", .ofNat page.skip),
    ("data", .array (page.data.map .object))]
  have htotal : parts.required "total" 0 Value.count? = some page.total :=
    (required_named rfl 0 _).trans (Value.count?_ofNat h.total)
  have hlimit : parts.required "limit" 1 Value.count? = some page.limit :=
    (required_named rfl 1 _).trans (Value.count?_ofNat h.limit)
  have hskip : parts.required "skip" 2 Value.count? = some page.skip :=
    (required_named rfl 2 _).trans (Value.count?_ofNat h.skip)
  have hdata : parts.required "data" 3 (Value.listOf? Value.fields?) = some page.data :=
    (required_named rfl 3 _).trans (Value.listOf?_objects page.data)
  have hparts : Parts.of? .json 4 page.toValue = some parts := rfl
  rw [ofValue?, hparts, Option.bind_eq_bind, Option.bind_some, htotal, hlimit, hskip, hdata]
  rfl

/-- A list of records is no page: a page in a list would start with a number. -/
theorem ofValue?_objects (records : List Record) : ofValue? (.array (records.map .object)) = none := by
  cases records with
  | nil => rfl
  | cons first records =>
    rw [ofValue?, Parts.of?]
    split
    · rfl
    · rfl

end Page

theorem Selection.ofValue?_toValue {found : Selection} (h : found.InWords) : ofValue? found.toValue = some found := by
  cases found with
  | page page =>
    rw [toValue, ofValue?, Page.ofValue?_toValue h]
    rfl
  | rows records =>
    rw [toValue, ofValue?, Page.ofValue?_objects, Value.listOf?_objects]
    rfl

/-! ### Texts -/

namespace Json

/-- With more room a value is restored all the more. -/
theorem Restored.mono {depth more : Nat} {value : Value} (h : Restored depth value) (hle : depth ≤ more) :
    Restored more value := by
  induction h generalizing more with
  | null => exact .null
  | bool => exact .bool
  | number h => exact .number h
  | string => exact .string
  | array _ ih =>
    cases more with
    | zero => cases hle
    | succ more => exact .array fun item hm => ih item hm (Nat.le_of_succ_le_succ hle)
  | object hdistinct _ ih =>
    cases more with
    | zero => cases hle
    | succ more => exact .object hdistinct fun field hm => ih field hm (Nat.le_of_succ_le_succ hle)

theorem restored_ofNat {depth n : Nat} (h : n < Numeral.wordBound) : Restored depth (.ofNat n) := by
  have hleast : Numeral.leastInt64 ≤ 0 := by decide
  exact .integer (by omega) (by omega)

theorem restored_objects {depth : Nat} {records : List Record} (h : ∀ record ∈ records, Restored depth (.object record)) :
    Restored (depth + 1) (.array (records.map .object)) := by
  refine .array ?_
  intro item hm
  obtain ⟨record, hrecord, rfl⟩ := List.mem_map.mp hm
  exact h record hrecord

end Json

theorem OneOrMany.restored {depth : Nat} (data : OneOrMany Record)
    (h : ∀ record ∈ data.toList, Json.Restored depth (.object record)) : Json.Restored (depth + 1) data.toValue := by
  cases data with
  | one record => exact (h record List.mem_cons_self).mono (Nat.le_succ depth)
  | many records => exact Json.restored_objects h

theorem Page.restored {depth : Nat} {page : Page} (hcounts : page.InWords)
    (h : ∀ record ∈ page.data, Json.Restored depth (.object record)) : Json.Restored (depth + 2) page.toValue := by
  have hnames : ["total", "limit", "skip", "data"].Nodup := by decide
  refine .object hnames ?_
  intro field hm
  simp only [List.mem_cons, List.not_mem_nil, or_false] at hm
  rcases hm with rfl | rfl | rfl | rfl
  · exact Json.restored_ofNat hcounts.total
  · exact Json.restored_ofNat hcounts.limit
  · exact Json.restored_ofNat hcounts.skip
  · exact Json.restored_objects h

theorem Selection.restored {depth : Nat} {found : Selection} (hcounts : found.InWords)
    (h : ∀ record ∈ found.data, Json.Restored depth (.object record)) : Json.Restored (depth + 2) found.toValue := by
  cases found with
  | page page => exact Page.restored hcounts h
  | rows records => exact (Json.restored_objects h).mono (Nat.le_succ (depth + 1))

/-! ### Results -/

/-- Every result comes back from its written form as it was, with its kind, its records, and their fields in order, as long
as the counts of a page are words. So it does from the text of this form, where the records are restored from theirs and
there is room for the containers around them. -/
theorem shapes_read_back (data : OneOrMany Record) {found : Selection} (hcounts : found.InWords) :
    OneOrMany.ofValue? data.toValue = some data ∧
    Selection.ofValue? found.toValue = some found ∧
    (∀ depth, depth + 1 ≤ Json.nestingLimit → (∀ record ∈ data.toList, Json.Restored depth (.object record)) →
      (Json.read? (Json.render data.toValue) >>= OneOrMany.ofValue?) = some data) ∧
    ∀ depth, depth + 2 ≤ Json.nestingLimit → (∀ record ∈ found.data, Json.Restored depth (.object record)) →
      (Json.read? (Json.render found.toValue) >>= Selection.ofValue?) = some found := by
  refine ⟨data.ofValue?_toValue, Selection.ofValue?_toValue hcounts, ?_, ?_⟩
  · intro depth hdepth hrecords
    rw [Json.read?_render ((data.restored hrecords).mono hdepth)]
    exact data.ofValue?_toValue
  · intro depth hdepth hrecords
    rw [Json.read?_render ((Selection.restored hcounts hrecords).mono hdepth)]
    exact Selection.ofValue?_toValue hcounts

/-- A record with the names of a page. -/
def lookalike : Record :=
  [("total", .ofNat 1), ("limit", .ofNat 2), ("skip", .ofNat 3), ("data", .array [.object [("total", .null)]])]

theorem restored_lookalike : Json.Restored 3 (.object lookalike) := by
  have hnames : ["total", "limit", "skip", "data"].Nodup := by decide
  have hdata : Json.Restored 2 (.array [.object [("total", .null)]]) := by
    refine .array ?_
    intro item hm
    rw [List.mem_singleton.mp hm]
    refine .object (List.nodup_singleton "total") ?_
    intro field hm
    rw [List.mem_singleton.mp hm]
    exact .null
  refine .object hnames ?_
  intro field hm
  simp only [lookalike, List.mem_cons, List.not_mem_nil, or_false] at hm
  rcases hm with rfl | rfl | rfl | rfl
  · exact Json.restored_ofNat (by decide)
  · exact Json.restored_ofNat (by decide)
  · exact Json.restored_ofNat (by decide)
  · exact hdata

/-- The record alone is one record, and in a page with the greatest total it is no page of its own. -/
theorem shapes_read_back_lookalike :
    let found : Selection := .page ⟨0xFFFFFFFFFFFFFFFF, 1, 0, [lookalike]⟩
    found.InWords ∧ (Json.read? (Json.render (OneOrMany.one lookalike).toValue) >>= OneOrMany.ofValue?) = some (.one lookalike) ∧
      (Json.read? (Json.render found.toValue) >>= Selection.ofValue?) = some found := by
  intro found
  have hcounts : found.InWords := ⟨by decide, by decide, by decide⟩
  have hrecords : ∀ record ∈ [lookalike], Json.Restored 3 (.object record) := by
    intro record hm
    rw [List.mem_singleton.mp hm]
    exact restored_lookalike
  obtain ⟨_, _, hdata, hfound⟩ := shapes_read_back (.one lookalike) hcounts
  exact ⟨hcounts, hdata 3 (by decide) hrecords, hfound 3 (by decide) hrecords⟩

end RowStore
