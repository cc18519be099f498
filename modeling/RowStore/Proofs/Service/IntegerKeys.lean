import RowStore.Proofs.Service.Create
import RowStore.Proofs.Service.Replace
import RowStore.Proofs.Value.Integers

/-!
# Integer keys

A key that is looked for is compared with the keys of the rows as doubles are. Where rounding tells an integer from all the
keys of a table that are not this integer, the rows that a get, an update, a delete or an insert finds are those with this
very key.
-/

namespace RowStore

set_option autoImplicit false

namespace Table

variable {table next : Table} {row attributes changes : Record} {n : Int}

/-- An integer of 64 bits and the keys of a table: they have no numeric reading or are integers, and rounding tells
those that are not `n` from it. -/
structure Discerns (table : Table) (n : Int) : Prop where
  word : n.natAbs < Numeral.wordBound
  apart : ∀ k ∈ table.keys, k.numeric? = none ∨ ∃ m : Int, k = .ofInt m ∧ (m = n ∨ Binary64.Separates m n)

theorem Discerns.hasKey_iff (h : table.Discerns n) (hm : row ∈ table.rows) :
    table.hasKey (.ofInt n) row = true ↔ Record.key? row table.key = some (.ofInt n) := by
  rw [Table.hasKey_iff]
  constructor
  · rintro ⟨k, hk, hsame⟩
    rcases h.apart k (mem_keys.mpr ⟨row, hm, hk⟩) with hnone | ⟨m, rfl, hapart⟩
    · rw [Value.same_ofInt_of_none hnone (key?_ne_null hk) h.word] at hsame
      cases hsame
    · rw [hk, (Value.same_ofInt_iff_of_separates hapart).mp hsame]
  · intro hk
    exact ⟨_, hk, Value.same_self _⟩

theorem Discerns.any_hasKey_iff (h : table.Discerns n) :
    table.rows.any (table.hasKey (.ofInt n)) = true ↔ .ofInt n ∈ table.keys := by
  rw [List.any_eq_true, mem_keys]
  constructor
  · rintro ⟨row, hm, hrow⟩
    exact ⟨row, hm, (h.hasKey_iff hm).mp hrow⟩
  · rintro ⟨row, hm, hrow⟩
    exact ⟨row, hm, (h.hasKey_iff hm).mpr hrow⟩

theorem Discerns.delete_eq (h : table.Discerns n) : table.delete (.ofInt n) =
    if .ofInt n ∈ table.keys then
      .ok { table with rows := table.rows.filter fun row => Record.key? row table.key ≠ some (.ofInt n) }
    else .error (.noRow table.name table.key (.ofInt n)) := by
  have hrows : (table.rows.filter fun row => !table.hasKey (.ofInt n) row)
      = table.rows.filter fun row => Record.key? row table.key ≠ some (.ofInt n) := by
    apply List.filter_congr
    intro row hm
    rw [Bool.eq_iff_iff, Bool.not_eq_true', ← Bool.not_eq_true, h.hasKey_iff hm, decide_eq_true_eq]
  rw [delete, hrows]
  by_cases hkey : .ofInt n ∈ table.keys
  · rw [if_pos (h.any_hasKey_iff.mpr hkey), if_pos hkey]
  · rw [if_neg (fun hany => hkey (h.any_hasKey_iff.mp hany)), if_neg hkey]

theorem Discerns.of_update (h : table.Discerns n) (hu : table.update (.ofInt n) changes = .ok (row, next)) :
    ∃ before old after, table.rows = before ++ old :: after ∧ Record.key? old table.key = some (.ofInt n) ∧
      next.rows = before ++ row :: after := by
  obtain ⟨_, before, old, after, hrows, _, hold, _, rfl⟩ := update_cases hu
  have hm : old ∈ table.rows := hrows ▸ List.mem_append_right before List.mem_cons_self
  exact ⟨before, old, after, hrows, (h.hasKey_iff hm).mp hold, rfl⟩

theorem Discerns.insert_iff (h : table.Discerns n) (hcolumns : table.unknownColumn? attributes = none)
    (hkey : Record.key? attributes table.key = some (.ofInt n)) :
    (∃ result, table.insert attributes = .ok result) ↔ .ofInt n ∉ table.keys := by
  rw [← h.any_hasKey_iff, insert, hcolumns, hkey]
  dsimp only
  split
  case isTrue hany => simp [hany]
  case isFalse hany => simp [hany]

end Table

namespace Service

variable {service : Service Table} {table : Table} {params : Params} {id : Value} {record : Record} {n : Int}

/-- The record of a get is that of a row of which the key equals the one that was looked for. -/
theorem exists_row_of_get (hs : service.storage = Table.storage) (hkey : service.id = table.key)
    (hname : Predicate.isReserved service.id = false) (hid : id.fields? = none) (hnull : id ≠ .null)
    (hd : Entries.Distinct params.query) (h : (service.get id params).on table = (.ok record, table)) :
    ∃ row ∈ table.rows, table.hasKey id row = true ∧ ∃ controls : Controls, record = controls.shown table.key row := by
  rcases getRow_cases hs id params table with ⟨fault, hfault⟩ | ⟨q, clause, hq, hc, hrow⟩
  · rw [get_on_of_getRow_error hfault] at h
    cases h
  · obtain ⟨row, hpage, hrecord⟩ := ((get_on_of_single hrow).1 record).mp h
    have hmem : row ∈ q.controls.page (table.rows.filter fun row => clause.holds row) := hpage ▸ List.mem_cons_self
    obtain ⟨hm, hholds⟩ := List.mem_filter.mp (Controls.mem_of_mem_page hmem)
    rw [Query.predicate_ofFields hq, Query.predicateOf_insert (Query.not_mem_controls hname)] at hc
    have hcell := ((Predicate.satisfied_insert (Query.distinct_predicateOf hd) hname hid).mp
      ((Predicate.holds_iff_satisfied hc row).mp hholds)).1
    rw [hkey] at hcell hrecord
    exact ⟨row, hm, (Table.equals_cell_iff hnull).mp hcell, q.controls, hrecord⟩

/-- Integers are equal just when they stand at one place of the order, and this order never turns that of the integers
round. It is their order, and equality is equality, wherever rounding tells the two apart: if both are doubles, or one has
no more than 53 bits, or they are further apart than doubles of their size. In a table whose keys are no numerals or told
from an integer that way, a delete, an update and a get of this integer find the rows that have it as their key, and an
insert finds it taken just when there is such a row. -/
theorem integers_told_apart (hs : service.storage = Table.storage) (hkey : service.id = table.key)
    (hname : Predicate.isReserved service.id = false) (hkeys : table.Discerns n) :
    (∀ a b : Int,
      ((Value.ofInt a).same (.ofInt b) = true ↔ (Value.ofInt a).order (.ofInt b) = .eq) ∧
      ((Value.ofInt a).order (.ofInt b) = .lt → a < b) ∧ ((Value.ofInt a).order (.ofInt b) = .gt → b < a) ∧
      (a = b ∨ Binary64.Separates a b → ((Value.ofInt a).same (.ofInt b) = true ↔ a = b) ∧
        (Value.ofInt a).order (.ofInt b) = compare a b)) ∧
    (table.delete (.ofInt n) = if .ofInt n ∈ table.keys then
        .ok { table with rows := table.rows.filter fun row => Record.key? row table.key ≠ some (.ofInt n) }
      else .error (.noRow table.name table.key (.ofInt n))) ∧
    (∀ changes row next, table.update (.ofInt n) changes = .ok (row, next) →
      ∃ before old after, table.rows = before ++ old :: after ∧ Record.key? old table.key = some (.ofInt n) ∧
        next.rows = before ++ row :: after) ∧
    (∀ attributes, table.unknownColumn? attributes = none → Record.key? attributes table.key = some (.ofInt n) →
      ((∃ result, table.insert attributes = .ok result) ↔ .ofInt n ∉ table.keys)) ∧
    (∀ params record, Entries.Distinct params.query → (service.get (.ofInt n) params).on table = (.ok record, table) →
      ∃ row ∈ table.rows, Record.key? row table.key = some (.ofInt n) ∧
        ∃ controls : Controls, record = controls.shown table.key row) := by
  refine ⟨?_, hkeys.delete_eq, fun _ _ _ => hkeys.of_update, fun _ => hkeys.insert_iff, ?_⟩
  · intro a b
    refine ⟨Value.same_ofInt_iff_order a b, Value.lt_of_order_ofInt, ?_, ?_⟩
    · intro hgt
      apply Value.lt_of_order_ofInt
      rw [Value.order_swap, hgt]
      rfl
    · intro hapart
      exact ⟨Value.same_ofInt_iff_of_separates hapart, Value.order_ofInt_of_separates hapart⟩
  · intro params record hd hget
    have hplain : (Value.ofInt n).fields? = none := rfl
    have hnull : Value.ofInt n ≠ .null := nofun
    obtain ⟨row, hm, hrow, hshown⟩ := exists_row_of_get hs hkey hname hplain hnull hd hget
    exact ⟨row, hm, (hkeys.hasKey_iff hm).mp hrow, hshown⟩

/-- Two rows, numbered by the first integers of 54 bits that are doubles. -/
def ledger : Table where
  name := "ledger"
  key := "id"
  columns := ["id"]
  defaults := []
  rows := [[("id", .ofInt 9007199254740992)], [("id", .ofInt 9007199254740994)]]
  nextId := 9007199254740995

/-- The second row of the ledger is taken out and the first one stays. -/
theorem integers_told_apart_ledger :
    ledger.delete (.ofInt 9007199254740994) = .ok { ledger with rows := [[("id", .ofInt 9007199254740992)]] } ∧
      (Value.ofInt 9007199254740992).order (.ofInt 9007199254740994) = .lt := by
  have hstorage : standard.storage = Table.storage := rfl
  have hkey : standard.id = ledger.key := rfl
  have hkeys : ledger.Discerns 9007199254740994 := by
    refine ⟨by decide, ?_⟩
    intro k hk
    have hmem : k ∈ [Value.ofInt 9007199254740992, .ofInt 9007199254740994] := hk
    rcases List.mem_cons.mp hmem with rfl | hlast
    · exact .inr ⟨_, rfl, .inr (by decide +kernel)⟩
    · exact .inr ⟨_, List.mem_singleton.mp hlast, .inl rfl⟩
  obtain ⟨hvalues, hdelete, _⟩ := integers_told_apart hstorage hkey (by decide) hkeys
  obtain ⟨_, _, _, happart⟩ := hvalues 9007199254740992 9007199254740994
  constructor
  · rw [hdelete]
    decide +kernel
  · rw [(happart (.inr (by decide +kernel))).2]
    decide

/-- The integer between the two of the ledger is no double. It equals the first one, and a delete takes out that row. -/
theorem not_forall_integers_told_apart :
    ¬ (∀ a b : Int, Numeral.leastInt64 ≤ a → a ≤ Numeral.greatestInt64 → Numeral.leastInt64 ≤ b →
        b ≤ Numeral.greatestInt64 → ((Value.ofInt a).same (.ofInt b) = true ↔ a = b) ∧
          (Value.ofInt a).order (.ofInt b) = compare a b) ∧
      ¬ (∀ (table next : Table) (row : Record) (k n : Int), k ≠ n → row ∈ table.rows →
        Record.key? row table.key = some (.ofInt k) → table.delete (.ofInt n) = .ok next → row ∈ next.rows) := by
  constructor
  · intro h
    have hequal := (h 9007199254740992 9007199254740993 (by decide) (by decide) (by decide) (by decide)).1
    revert hequal
    decide +kernel
  · intro h
    have hdelete : ledger.delete (.ofInt 9007199254740993)
        = .ok { ledger with rows := [[("id", .ofInt 9007199254740994)]] } := by
      decide +kernel
    have hkept := h ledger _ [("id", .ofInt 9007199254740992)] 9007199254740992 9007199254740993 (by decide)
      (List.mem_cons_self ..) rfl hdelete
    revert hkept
    decide

end Service

end RowStore
