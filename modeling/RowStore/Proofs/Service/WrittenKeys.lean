import RowStore.Proofs.Service.Create
import RowStore.Proofs.Value.Spelled

/-!
# Keys written in a path

A row is asked for by the text of its key. The text of a path is read as an integer where it spells one, and so it may
become another value than the key that is stored; but it equals the same keys as before, and finds the same row.
-/

namespace RowStore

set_option autoImplicit false

namespace Table

variable {table : Table} {row : Record} {k : Value}

/-- What equals the same keys finds the same rows. -/
theorem filter_hasKey_congr (table : Table) {a b : Value} (h : ∀ k : Value, k ≠ .null → k.same a = k.same b) :
    table.rows.filter (table.hasKey a) = table.rows.filter (table.hasKey b) := by
  apply List.filter_congr
  intro row _
  cases hk : Record.key? row table.key with
  | none => rw [hasKey_of_none hk, hasKey_of_none hk]
  | some k => rw [hasKey_of_key? hk, hasKey_of_key? hk, h k (key?_ne_null hk)]

/-- Where keys are distinct, the text of a key finds its row alone. -/
theorem DistinctKeys.filter_hasKey_text (hd : DistinctKeys table) (hm : row ∈ table.rows)
    (hk : Record.key? row table.key = some k) (hrange : k.InRange) (hbool : ∀ flag, k ≠ .bool flag) :
    table.rows.filter (table.hasKey (.string k.text)) = [row] := by
  rw [← hd.filter_hasKey hm hk]
  apply List.filter_congr
  intro other hother
  rw [Bool.eq_iff_iff, hasKey_iff, hasKey_iff]
  constructor
  · rintro ⟨l, hl, hsame⟩
    exact ⟨l, hl, Value.same_of_same_text hrange (key?_ne_null hk) hbool hsame⟩
  · intro hhas
    -- The row itself is the only one with this key.
    rw [← hasKey_iff] at hhas
    obtain rfl := hd.eq_of_hasKey hm hk hother hhas
    exact ⟨k, hk, Value.same_text hrange⟩

end Table

namespace Service

variable {service : Service Table} {table : Table} {id : Value} {record : Record}

/-- A get without a query gives the one row of which the key equals the one that is looked for. -/
theorem get_none_iff (hs : service.storage = Table.storage) (hkey : service.id = table.key)
    (hname : Predicate.isReserved service.id = false) (hplain : id.fields? = none) (hnull : id ≠ .null) :
    (service.get id .none).on table = (.ok record, table) ↔ table.rows.filter (table.hasKey id) = [record] := by
  obtain ⟨clause, hc⟩ : ∃ clause, Clause.compile [(service.id, id)] = .ok clause :=
    compile_entry (Predicate.entryWellFormed_plain hname hplain)
  rw [(get_none_on hs hname hc table).1 record]
  rw [hkey] at hname hc
  rw [filter_holds_of_plain hname hnull hplain hc]

/-- A key that is written in a path. -/
theorem get_key_iff (hs : service.storage = Table.storage) (hkey : service.id = table.key)
    (hname : Predicate.isReserved service.id = false) (raw : String) :
    (service.get (Bracket.key raw) .none).on table = (.ok record, table) ↔
      table.rows.filter (table.hasKey (.string raw)) = [record] := by
  rw [← Table.filter_hasKey_congr table fun _ => Value.same_key raw]
  rcases Value.key_cases raw with ⟨n, hint⟩ | htext
  · rw [hint]
    exact get_none_iff hs hkey hname rfl nofun
  · rw [htext]
    exact get_none_iff hs hkey hname rfl nofun

/-- Over a table with distinct keys, the text of the key of a row, written in a path, gets this very row, whatever value it
is read as: for a text the text itself, for an integer any numeral of it, with leading zeros or a sign too, and for every
other key but a boolean its JSON text. To read a text as an integer makes no difference to what is found, and what is found
has a key that equals the text. -/
theorem written_key_gets_row (hs : service.storage = Table.storage) (hkey : service.id = table.key)
    (hname : Predicate.isReserved service.id = false) (hd : table.DistinctKeys) :
    (∀ row ∈ table.rows, ∀ s, Record.key? row table.key = some (.string s) →
      (service.get (Bracket.key s) .none).on table = (.ok row, table)) ∧
    (∀ row ∈ table.rows, ∀ n : Int, Numeral.leastInt64 ≤ n → n ≤ Numeral.greatestInt64 →
      Record.key? row table.key = some (.ofInt n) →
        (service.get (Bracket.key (Value.ofInt n).text) .none).on table = (.ok row, table) ∧
        ∀ raw : String, Numeral.Denotes raw.toList n →
          (service.get (Bracket.key raw) .none).on table = (.ok row, table)) ∧
    (∀ row ∈ table.rows, ∀ k, Record.key? row table.key = some k → k.InRange → (∀ flag, k ≠ .bool flag) →
      (service.get (Bracket.key k.text) .none).on table = (.ok row, table)) ∧
    ∀ raw record,
      ((service.get (Bracket.key raw) .none).on table = (.ok record, table) ↔
        (service.get (.string raw) .none).on table = (.ok record, table)) ∧
      ((service.get (Bracket.key raw) .none).on table = (.ok record, table) →
        record ∈ table.rows ∧ table.hasKey (.string raw) record = true) := by
  have hget : ∀ raw record, (service.get (Bracket.key raw) .none).on table = (.ok record, table) ↔
      table.rows.filter (table.hasKey (.string raw)) = [record] := fun raw _ => get_key_iff hs hkey hname raw
  have hspelled : ∀ row ∈ table.rows, ∀ n : Int, Numeral.leastInt64 ≤ n → n ≤ Numeral.greatestInt64 →
      Record.key? row table.key = some (.ofInt n) → ∀ raw : String, Numeral.Denotes raw.toList n →
      (service.get (Bracket.key raw) .none).on table = (.ok row, table) := by
    intro row hm n hlower hupper hk raw hraw
    -- A numeral of an integer finds what the integer finds.
    have hsame := Table.filter_hasKey_congr table fun _ =>
      Value.same_of_denotes hraw (Numeral.natAbs_lt_of_int64 hlower hupper)
    rw [hget, hsame]
    exact hd.filter_hasKey hm hk
  refine ⟨?_, ?_, ?_, ?_⟩
  · intro row hm s hk
    rw [hget]
    exact hd.filter_hasKey hm hk
  · intro row hm n hlower hupper hk
    have hall := hspelled row hm n hlower hupper hk
    refine ⟨hall _ ?_, hall⟩
    rw [Value.text_ofInt, String.toList_ofList]
    exact Numeral.denotes_integerText n
  · intro row hm k hk hrange hbool
    rw [hget]
    exact hd.filter_hasKey_text hm hk hrange hbool
  · intro raw record
    have htext : (service.get (.string raw) .none).on table = (.ok record, table) ↔
        table.rows.filter (table.hasKey (.string raw)) = [record] := get_none_iff hs hkey hname rfl nofun
    refine ⟨(hget raw record).trans htext.symm, ?_⟩
    intro h
    rw [hget] at h
    have hmem : record ∈ table.rows.filter (table.hasKey (.string raw)) := h ▸ List.mem_cons_self
    exact List.mem_filter.mp hmem

/-- Rows with keys that look alike: a numeral with zeros in front, an integer, a fraction, and a word with its boolean's
number. -/
def lookalikes : Table where
  name := "flags"
  key := "id"
  columns := ["id"]
  defaults := []
  rows := [[("id", .string "007")], [("id", .ofInt (-5))], [("id", .string "7.5")], [("id", .string "true")],
    [("id", .ofInt 1)], [("id", .string "+0")]]
  nextId := 2

/-- The numerals find their rows, in their own spelling and in others, and the word is not taken for the number one. -/
theorem written_key_gets_row_lookalikes :
    (standard.get (Bracket.key "007") .none).on lookalikes = (.ok [("id", .string "007")], lookalikes) ∧
      (standard.get (Bracket.key "-5") .none).on lookalikes = (.ok [("id", .ofInt (-5))], lookalikes) ∧
      (standard.get (Bracket.key "-0005") .none).on lookalikes = (.ok [("id", .ofInt (-5))], lookalikes) ∧
      (standard.get (Bracket.key "true") .none).on lookalikes = (.ok [("id", .string "true")], lookalikes) ∧
      (standard.get (.string "-0") .none).on lookalikes = (.ok [("id", .string "+0")], lookalikes) := by
  have hstorage : standard.storage = Table.storage := rfl
  have hkey : standard.id = lookalikes.key := rfl
  have hdistinct : lookalikes.DistinctKeys := by
    unfold Table.DistinctKeys
    decide +kernel
  obtain ⟨htext, hint, _, hsame⟩ := written_key_gets_row hstorage hkey (by decide) hdistinct
  have hfive : Numeral.Denotes "-0005".toList (-5) := Numeral.integer?_eq_some_iff.mp (by decide +kernel)
  obtain ⟨hwritten, hall⟩ := hint [("id", .ofInt (-5))] (by decide) (-5) (by decide) (by decide) rfl
  refine ⟨htext [("id", .string "007")] (by decide) "007" rfl, hwritten, hall "-0005" hfive,
    htext [("id", .string "true")] (by decide) "true" rfl, ?_⟩
  rw [← (hsame "-0" _).1]
  decide +kernel

end Service

end RowStore
