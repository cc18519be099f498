import Mathlib.Data.Int.Order.Basic
import Mathlib.Order.Bounds.Defs
import Mathlib.Order.MinMax
import RowStore.Proofs.Table.Keys

/-!
# The sequence of keys

A key from the sequence is compared with no row. What keeps it fresh is where the sequence stands: at the least positive
integer beyond all that were granted since the table was new or last cleared, whether or not their rows are still there.
This holds up to the greatest integer of 64 bits. Once that is granted, the sequence goes round.
-/

namespace RowStore

set_option autoImplicit false

namespace Value

def int64? : Value → Option Int
  | number n => n.int64?
  | null | bool _ | string _ | array _ | object _ => none

theorem int64?_ofInt {n : Int} (hlower : Numeral.leastInt64 ≤ n) (hupper : n ≤ Numeral.greatestInt64) :
    (ofInt n).int64? = some n := if_pos ⟨hlower, hupper⟩

theorem int64?_eq_some_iff {value : Value} {n : Int} :
    value.int64? = some n ↔ value = .ofInt n ∧ Numeral.leastInt64 ≤ n ∧ n ≤ Numeral.greatestInt64 := by
  constructor
  · intro h
    rcases value with _ | _ | ⟨m | x⟩ | _ | _ | _
    case number.integer =>
      rw [int64?, Number.int64?, Option.ite_none_right_eq_some] at h
      obtain ⟨hrange, he⟩ := h
      cases he
      exact ⟨rfl, hrange⟩
    all_goals cases h
  · rintro ⟨rfl, hlower, hupper⟩
    exact int64?_ofInt hlower hupper

theorem lt_greatest_of_not_mem {value : Value} {n : Int} (h : value.int64? = some n)
    (hgreatest : Numeral.greatestInt64 ∉ value.int64?.toList) : n < Numeral.greatestInt64 := by
  apply lt_of_le_of_ne (int64?_eq_some_iff.mp h).2.2
  rintro rfl
  exact hgreatest (Option.mem_toList.mpr h)

end Value

namespace Table

theorem advance_of_int64_none (table : Table) {id : Value} (h : id.int64? = none) : table.advance id = table.nextId := by
  cases id with
  | number n =>
    rw [Value.int64?] at h
    rw [advance, h]
  | null | bool _ | string _ | array _ | object _ => rfl

/-- The answer of an insert, and whether it is from the sequence because no key was given. -/
structure Grant where
  key : Value
  drawn : Bool
deriving DecidableEq

/-- The integers of 64 bits among the keys that were granted. -/
def integers (grants : List Grant) : List Int := grants.filterMap fun grant => grant.key.int64?

/-- The positive integers that are greater than all that were granted. -/
def beyond (grants : List Grant) : Set Int := {n | 0 < n ∧ ∀ m ∈ integers grants, m < n}

/-- A table and what it granted, from the first on, since it was new or last cleared. -/
structure History where
  table : Table
  grants : List Grant

namespace History

def opened (name key : String) (columns : List String) (defaults : List (String × Value)) : History :=
  ⟨Table.opened name key columns defaults, []⟩

/-- The grants after a write. Only an insert that succeeds adds one, and only a clear takes any away. -/
def granted (h : History) : Write → List Grant
  | .insert attributes => match h.table.insert attributes with
    | .ok (id, _) => h.grants ++ [⟨id, (Record.key? attributes h.table.key).isNone⟩]
    | .error _ => h.grants
  | .update _ _ | .delete _ => h.grants
  | .clear => []

def perform (h : History) (w : Write) : History := ⟨h.table.perform w, h.granted w⟩

def run (h : History) (writes : List Write) : History := writes.foldl perform h

theorem run_append (h : History) (writes more : List Write) : h.run (writes ++ more) = (h.run writes).run more :=
  List.foldl_append

theorem table_run (h : History) (writes : List Write) : (h.run writes).table = h.table.run writes := by
  induction writes generalizing h with
  | nil => rfl
  | cons w rest ih => exact ih (h.perform w)

theorem perform_insert_error {h : History} {attributes : Record} {e : TableError}
    (herror : h.table.insert attributes = .error e) : h.perform (.insert attributes) = h := by
  rw [perform, granted, Table.perform, herror]

/-- A run goes as it does without an insert that fails. -/
theorem run_insert_error {h : History} {before : List Write} {attributes : Record} {e : TableError}
    (herror : (h.table.run before).insert attributes = .error e) (after : List Write) :
    h.run (before ++ .insert attributes :: after) = h.run (before ++ after) := by
  rw [← table_run] at herror
  rw [run_append, run_append]
  exact congrArg (run · after) (perform_insert_error herror)

end History

theorem integers_concat (grants : List Grant) (grant : Grant) :
    integers (grants ++ [grant]) = integers grants ++ grant.key.int64?.toList := by
  rw [integers, List.filterMap_append]
  cases h : grant.key.int64? <;> simp [integers, h]

theorem le_greatest_of_mem_integers {grants : List Grant} {n : Int} (h : n ∈ integers grants) :
    n ≤ Numeral.greatestInt64 := by
  obtain ⟨_, _, hn⟩ := List.mem_filterMap.mp h
  exact (Value.int64?_eq_some_iff.mp hn).2.2

theorem greatest_mem_beyond {grants : List Grant} (h : Numeral.greatestInt64 ∉ integers grants) :
    Numeral.greatestInt64 ∈ beyond grants := by
  refine ⟨by decide, ?_⟩
  intro m hm
  apply lt_of_le_of_ne (le_greatest_of_mem_integers hm)
  rintro rfl
  exact h hm

theorem isLeast_beyond_nil : IsLeast (beyond []) firstId :=
  ⟨⟨by decide, fun _ hm => (List.not_mem_nil hm).elim⟩, fun _ hn => hn.1⟩

theorem beyond_concat_of_none {grants : List Grant} {grant : Grant} (h : grant.key.int64? = none) :
    beyond (grants ++ [grant]) = beyond grants := by
  rw [beyond, integers_concat, h, Option.toList_none, List.append_nil, beyond]

theorem isLeast_beyond_concat {grants : List Grant} {grant : Grant} {next n : Int} (hleast : IsLeast (beyond grants) next)
    (h : grant.key.int64? = some n) : IsLeast (beyond (grants ++ [grant])) (max next (n + 1)) := by
  obtain ⟨⟨hpositive, habove⟩, hbelow⟩ := hleast
  rw [beyond, integers_concat, h, Option.toList_some]
  constructor
  · refine ⟨lt_max_of_lt_left hpositive, ?_⟩
    intro m hm
    rcases List.mem_append.mp hm with hm | hm
    · exact lt_max_of_lt_left (habove m hm)
    · rw [List.mem_singleton.mp hm]
      exact lt_max_of_lt_right (Int.lt_succ n)
  · rintro k ⟨hk, hall⟩
    obtain ⟨hgrants, hn⟩ := List.forall_mem_append.mp hall
    exact max_le (hbelow ⟨hk, hgrants⟩) (hn n List.mem_cons_self)

/-- The sequence stands at the least integer beyond the grants, and so it stood for each grant that was drawn from it. -/
structure History.Sequenced (h : History) : Prop where
  next : Numeral.greatestInt64 ∉ integers h.grants → IsLeast (beyond h.grants) h.table.nextId
  drawn : ∀ earlier grant, earlier ++ [grant] <+: h.grants → grant.drawn = true →
    Numeral.greatestInt64 ∉ integers earlier →
    ∃ n : Int, grant.key = .ofInt n ∧ n ≤ Numeral.greatestInt64 ∧ IsLeast (beyond earlier) n

namespace History.Sequenced

variable {h : History}

theorem of_no_grants {table : Table} (hnext : table.nextId = firstId) : (History.mk table []).Sequenced where
  next := by
    rw [hnext]
    exact fun _ => isLeast_beyond_nil
  drawn := by
    intro earlier grant hprefix
    exact absurd (List.prefix_nil.mp hprefix) (List.append_ne_nil_of_right_ne_nil _ (List.cons_ne_nil _ _))

theorem nextId_le (hs : h.Sequenced) (hgreatest : Numeral.greatestInt64 ∉ integers h.grants) :
    h.table.nextId ≤ Numeral.greatestInt64 := (hs.next hgreatest).2 (greatest_mem_beyond hgreatest)

theorem least_le_nextId (hs : h.Sequenced) (hgreatest : Numeral.greatestInt64 ∉ integers h.grants) :
    Numeral.leastInt64 ≤ h.table.nextId := by
  have hpositive := (hs.next hgreatest).1.1
  have hleast : Numeral.leastInt64 ≤ 0 := by decide
  exact hleast.trans hpositive.le

/-- A table that stands where the last one stood, after the same grants. -/
theorem of_nextId_eq {next : Table} (hs : h.Sequenced) (hnext : next.nextId = h.table.nextId) :
    (History.mk next h.grants).Sequenced where
  next := by
    rw [hnext]
    exact hs.next
  drawn := hs.drawn

theorem concat {next : Table} {grant : Grant} (hs : h.Sequenced)
    (hdrawn : grant.drawn = true → grant.key = .ofInt h.table.nextId)
    (hnext : Numeral.greatestInt64 ∉ integers h.grants → Numeral.greatestInt64 ∉ grant.key.int64?.toList →
      IsLeast (beyond (h.grants ++ [grant])) next.nextId) :
    (History.mk next (h.grants ++ [grant])).Sequenced where
  next := by
    rw [integers_concat, List.mem_append, not_or]
    exact fun ⟨hgrants, hgrant⟩ => hnext hgrants hgrant
  drawn := by
    intro earlier last hprefix hlast hgreatest
    -- The new grant was drawn where the sequence stood; of the others this is known.
    rcases List.prefix_concat_iff.mp hprefix with he | hbefore
    · obtain ⟨rfl, hlast'⟩ := List.append_inj' he rfl
      cases hlast'
      exact ⟨h.table.nextId, hdrawn hlast, hs.nextId_le hgreatest, hs.next hgreatest⟩
    · exact hs.drawn earlier last hbefore hlast hgreatest

/-- A given key may move the sequence, and a drawn one moves it by one. -/
theorem insert {attributes : Record} {id : Value} {next : Table} (hs : h.Sequenced)
    (hinsert : h.table.insert attributes = .ok (id, next)) :
    (History.mk next (h.grants ++ [⟨id, (Record.key? attributes h.table.key).isNone⟩])).Sequenced := by
  rcases insert_cases hinsert with ⟨_, hk, _, rfl⟩ | ⟨_, hk, rfl, rfl⟩ <;> rw [hk]
  · apply hs.concat fun h => (Bool.false_ne_true h).elim
    intro hgrants hgrant
    cases hid : id.int64? with
    | none =>
      rw [beyond_concat_of_none hid]
      exact (advance_of_int64_none h.table hid).symm ▸ hs.next hgrants
    | some n =>
      have hupper := Value.lt_greatest_of_not_mem hid hgrant
      obtain ⟨rfl, hlower, _⟩ := Value.int64?_eq_some_iff.mp hid
      have hadvance := advance_ofInt h.table hlower hupper
      exact hadvance.symm ▸ isLeast_beyond_concat (hs.next hgrants) hid
  · apply hs.concat fun _ => rfl
    intro hgrants hgrant
    have hlower := hs.least_le_nextId hgrants
    have hid := Value.int64?_ofInt hlower (hs.nextId_le hgrants)
    have hupper := Value.lt_greatest_of_not_mem hid hgrant
    have hleast : IsLeast (beyond (h.grants ++ [⟨.ofInt h.table.nextId, true⟩]))
        (max h.table.nextId (h.table.nextId + 1)) := isLeast_beyond_concat (hs.next hgrants) hid
    rw [max_eq_right (Int.le_add_one le_rfl), ← successor_eq hlower hupper] at hleast
    exact hleast

theorem perform (hs : h.Sequenced) (w : Write) : (h.perform w).Sequenced := by
  cases w with
  | insert attributes =>
    rw [History.perform, granted, Table.perform]
    cases hinsert : h.table.insert attributes with
    | ok result => exact hs.insert hinsert
    | error e => exact hs
  | update id changes =>
    apply hs.of_nextId_eq
    rw [Table.perform]
    cases hupdate : h.table.update id changes with
    | ok result =>
      obtain ⟨row, next⟩ := result
      obtain ⟨_, _, _, _, _, _, _, _, rfl⟩ := update_cases hupdate
      rfl
    | error e => rfl
  | delete id =>
    apply hs.of_nextId_eq
    rw [Table.perform]
    cases hdelete : h.table.delete id with
    | ok next => rw [(delete_cases hdelete).2]
    | error e => rfl
  | clear => exact of_no_grants rfl

theorem run (hs : h.Sequenced) (writes : List Write) : (h.run writes).Sequenced := by
  induction writes generalizing h with
  | nil => exact hs
  | cons w rest ih => exact ih (hs.perform w)

end History.Sequenced

/-- A key that an insert draws, along any run from a new table, is the least positive integer that is greater than all
that were granted before it, given or drawn, by inserts that succeeded since the table was new or last cleared. It does
not matter which rows were updated or deleted since, nor which inserts failed: the run goes as it does without those.
The greatest integer of 64 bits must not have been granted. -/
theorem drawn_key_isLeast (name key : String) (columns : List String) (defaults : List (String × Value))
    (writes : List Write) :
    let start := History.opened name key columns defaults
    (start.run writes).table = (opened name key columns defaults).run writes ∧
    (∀ earlier grant, earlier ++ [grant] <+: (start.run writes).grants → grant.drawn = true →
      Numeral.greatestInt64 ∉ integers earlier →
      ∃ n : Int, grant.key = .ofInt n ∧ n ≤ Numeral.greatestInt64 ∧ IsLeast (beyond earlier) n) ∧
    (Numeral.greatestInt64 ∉ integers (start.run writes).grants →
      IsLeast (beyond (start.run writes).grants) (start.run writes).table.nextId) ∧
    ∀ before attributes after e, writes = before ++ .insert attributes :: after →
      ((opened name key columns defaults).run before).insert attributes = .error e →
      start.run writes = start.run (before ++ after) := by
  intro start
  have hnext : (opened name key columns defaults).nextId = firstId := by rw [opened_eq, create]
  have hs := (History.Sequenced.of_no_grants hnext).run writes
  refine ⟨History.table_run start writes, hs.drawn, hs.next, ?_⟩
  rintro before attributes after e rfl herror
  exact History.run_insert_error herror after

/-- An insert fails at the key that was drawn first and another at its column; then a key is given, and its row deleted. -/
theorem drawn_key_isLeast_afterDeletion :
    let writes : List Write := [.insert [], .insert [("id", .ofInt 1)], .insert [("age", .null)],
      .insert [("id", .ofInt 7)], .delete (.ofInt 7), .insert [("id", .null)]]
    ((History.opened "people" "id" ["name"] []).run writes).grants
        = [⟨.ofInt 1, true⟩, ⟨.ofInt 7, false⟩, ⟨.ofInt 8, true⟩] ∧
      ((History.opened "people" "id" ["name"] []).run writes).table.keys = [.ofInt 1, .ofInt 8] ∧
      ∃ n : Int, Value.ofInt 8 = .ofInt n ∧ n ≤ Numeral.greatestInt64 ∧
        IsLeast (beyond [⟨.ofInt 1, true⟩, ⟨.ofInt 7, false⟩]) n := by
  intro writes
  have hgrants : ((History.opened "people" "id" ["name"] []).run writes).grants
      = [⟨.ofInt 1, true⟩, ⟨.ofInt 7, false⟩, ⟨.ofInt 8, true⟩] := by decide +kernel
  refine ⟨hgrants, by decide +kernel, ?_⟩
  apply (drawn_key_isLeast "people" "id" ["name"] [] writes).2.1 [⟨.ofInt 1, true⟩, ⟨.ofInt 7, false⟩] ⟨.ofInt 8, true⟩
  · rw [hgrants]
    exact List.prefix_refl _
  · rfl
  · decide

end Table

end RowStore
