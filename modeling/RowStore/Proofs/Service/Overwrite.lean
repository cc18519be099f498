import RowStore.Proofs.Service.Bulk
import RowStore.Proofs.Service.Create
import RowStore.Proofs.Service.Hook

/-!
# Changes of one row that follow each other

A patch and an update look for a row by its key and write into its fields, which stay in their places; they never touch the
key. So the next change finds the same row, and what several of them make of it is known from the values that they write.
-/

namespace RowStore

set_option autoImplicit false

namespace Record

variable {key field : String} {f g : String → Value → Value} {row : Record}

/-- A row with other values in its fields, all but the key, which stay in their order. -/
def overwrite (key : String) (f : String → Value → Value) (row : Record) : Record :=
  row.map fun entry => (entry.1, if entry.1 = key then entry.2 else f entry.1 entry.2)

theorem names_overwrite (key : String) (f : String → Value → Value) (row : Record) :
    Entries.names (row.overwrite key f) = Entries.names row := by
  rw [Entries.names, overwrite, List.map_map]
  rfl

theorem lookup_overwrite : (row.overwrite key f).lookup field
    = (row.lookup field).map fun old => if field = key then old else f field old := by
  induction row with
  | nil => rfl
  | cons entry rest ih =>
    obtain ⟨name, old⟩ := entry
    change List.lookup field ((name, _) :: overwrite key f rest) = _
    rw [Entries.lookup_cons, Entries.lookup_cons, ih]
    by_cases hname : field = name
    · rw [if_pos hname, if_pos hname, hname]
      rfl
    · rw [if_neg hname, if_neg hname]

theorem key?_overwrite : key? (row.overwrite key f) key = key? row key := by
  have hlookup : (row.overwrite key f).lookup key = row.lookup key := by
    rw [lookup_overwrite]
    simp
  rw [key?, key?, hlookup]

theorem overwrite_congr (h : ∀ field old, field ≠ key → f field old = g field old) (row : Record) :
    row.overwrite key f = row.overwrite key g := by
  apply List.map_congr_left
  intro entry _
  by_cases hkey : entry.1 = key
  · rw [if_pos hkey, if_pos hkey]
  · rw [if_neg hkey, if_neg hkey, h entry.1 entry.2 hkey]

theorem overwrite_overwrite (key : String) (f g : String → Value → Value) (row : Record) :
    (row.overwrite key f).overwrite key g = row.overwrite key fun field old => g field (f field old) := by
  rw [overwrite, overwrite, List.map_map]
  apply List.map_congr_left
  intro entry _
  by_cases hkey : entry.1 = key
  · simp only [Function.comp_apply, if_pos hkey]
  · simp only [Function.comp_apply, if_neg hkey]

/-- A row is known from what its fields hold. -/
theorem eq_overwrite {record : Record} (hd : Entries.Distinct row) (hnames : Entries.names record = Entries.names row)
    (hkey : record.lookup key = row.lookup key)
    (hvalue : ∀ field old, row.lookup field = some old → field ≠ key → record.lookup field = some (f field old)) :
    record = row.overwrite key f := by
  have hfields : Entries.names record = Entries.names (row.overwrite key f) := by rw [hnames, names_overwrite]
  have hdistinct : Entries.Distinct (row.overwrite key f) := by rwa [Entries.Distinct, names_overwrite]
  refine Entries.eq_of_lookup hdistinct hfields ?_
  intro field hm
  rw [names_overwrite, Entries.mem_names_iff] at hm
  obtain ⟨old, hold⟩ := Option.ne_none_iff_exists'.mp hm
  rw [lookup_overwrite, hold, Option.map_some]
  by_cases hfield : field = key
  · rw [if_pos hfield, hfield, hkey, ← hfield, hold]
  · rw [if_neg hfield, hvalue field old hold hfield]

end Record

/-- A change of one row: a patch with some data, or a replacement by them. -/
inductive Change where
  | patch (data : Record)
  | update (data : Record)

namespace Change

/-- What a field that is not the key holds after a change. -/
def value (change : Change) (field : String) (old : Value) : Value :=
  match change with
  | patch data => (data.lookup field).getD old
  | update data => data.cell field

def apply (key : String) (change : Change) (row : Record) : Record :=
  row.overwrite key change.value

def applyAll (key : String) (changes : List Change) (row : Record) : Record :=
  changes.foldl (fun row change => change.apply key row) row

/-- A change as an operation on the row with a key. -/
def operation (id : Value) : Change → Service.Operation
  | patch data => .patch (.single id) data .none
  | update data => .update (.single id) data .none

/-- What a change gives when the row has become a record. -/
def answer (record : Record) : Change → Service.Answer
  | patch _ => .records (.one record)
  | update _ => .record record

/-- A patch can be made if its data repeat no name and name columns, apart from the key. A replacement can be made anyway: it
writes into the columns only. -/
def Fits (table : Table) : Change → Prop
  | patch data => Entries.Distinct data ∧ ∀ field ∈ Entries.names data, field ≠ table.key → field ∈ table.columns
  | update _ => True

section

variable {key : String} {row d e : Record}

theorem fits_insertAll {table : Table} (hd : (patch d).Fits table) (he : (patch e).Fits table) :
    (patch (Entries.insertAll d e)).Fits table := by
  refine ⟨Entries.distinct_insertAll e hd.1, ?_⟩
  intro field hm
  obtain ⟨entry, hentry, rfl⟩ := List.mem_map.mp hm
  rcases Entries.mem_of_mem_insertAll hentry with hentry | hentry
  · exact hd.2 entry.1 (List.mem_map_of_mem hentry)
  · exact he.2 entry.1 (List.mem_map_of_mem hentry)

/-- Of two patches, the data of the second override those of the first. -/
theorem patch_patch (he : Entries.Distinct e) (row : Record) :
    (patch e).apply key ((patch d).apply key row) = (patch (Entries.insertAll d e)).apply key row := by
  rw [apply, apply, Record.overwrite_overwrite]
  refine Record.overwrite_congr (fun field old _ => ?_) row
  rw [value, value, value, Entries.lookup_insertAll_of_distinct he, Option.getD_or]

theorem patch_self (row : Record) : (patch d).apply key ((patch d).apply key row) = (patch d).apply key row := by
  rw [apply, apply, Record.overwrite_overwrite]
  refine Record.overwrite_congr (fun field old _ => ?_) row
  rw [value, value]
  cases d.lookup field <;> rfl

theorem patch_comm (h : ∀ field ∈ Entries.names d, field ∈ Entries.names e → field = key) (row : Record) :
    (patch e).apply key ((patch d).apply key row) = (patch d).apply key ((patch e).apply key row) := by
  rw [apply, apply, apply, apply, Record.overwrite_overwrite, Record.overwrite_overwrite]
  refine Record.overwrite_congr (fun field old hkey => ?_) row
  rw [value, value, value, value]
  by_cases hd : field ∈ Entries.names d
  · have he : field ∉ Entries.names e := fun he => hkey (h field hd he)
    rw [Entries.mem_names_iff, not_not] at he
    rw [he, Option.getD_none, Option.getD_none]
  · rw [Entries.mem_names_iff, not_not] at hd
    rw [hd, Option.getD_none, Option.getD_none]

/-- A replacement leaves nothing of what has been written before. -/
theorem update_apply (change : Change) (row : Record) :
    (update d).apply key (change.apply key row) = (update d).apply key row := by
  rw [apply, apply, Record.overwrite_overwrite]
  exact Record.overwrite_congr (fun _ _ _ => rfl) row

theorem update_applyAll (changes : List Change) (row : Record) :
    (update d).apply key (applyAll key changes row) = (update d).apply key row := by
  induction changes generalizing row with
  | nil => rfl
  | cons change rest ih => exact (ih (change.apply key row)).trans (update_apply change row)

end

section

variable {table : Table} {row data : Record}

theorem write_patch (hd : Entries.Distinct row) (hdata : Entries.Distinct data)
    (hcolumns : ∀ field ∈ Entries.names data, field ≠ table.key → field ∈ Entries.names row) :
    table.write (Entries.erase table.key data) row = (patch data).apply table.key row := by
  have hpatched := Service.patched_write hdata hcolumns
  refine Record.eq_overwrite hd hpatched.names_eq (hpatched.kept_eq table.key (.inl rfl)) ?_
  intro field old hold hkey
  rw [value]
  by_cases hm : field ∈ Entries.names data
  · rw [hpatched.written_eq field hm hkey]
    obtain ⟨new, hnew⟩ := Option.ne_none_iff_exists'.mp (Entries.mem_names_iff.mp hm)
    rw [hnew, Option.getD_some]
  · rw [hpatched.kept_eq field (.inr hm), hold]
    rw [Entries.mem_names_iff, not_not] at hm
    rw [hm, Option.getD_none]

theorem write_replacement (hd : Entries.Distinct row) (data : Record) :
    table.write (Service.replacement row data table.key) row = (update data).apply table.key row := by
  have hreplaced := Service.replaced_write Controls.none table data row
  refine Record.eq_overwrite hd hreplaced.names_eq hreplaced.key_eq ?_
  intro field old hold hkey
  have hm : field ∈ Entries.names row := Entries.mem_names_iff.mpr (hold ▸ Option.some_ne_none old)
  exact hreplaced.shown_eq field hm hkey nofun

end

end Change

/-- A table with a record in the place of a row. -/
def Table.put (table : Table) (row record : Record) : Table :=
  { table with rows := table.rows.map fun other => if other = row then record else other }

@[simp] theorem Table.put_key (table : Table) (row record : Record) : (table.put row record).key = table.key := rfl

theorem Table.put_self (table : Table) (row : Record) : table.put row row = table := by
  have hrows : table.rows.map (fun other => if other = row then row else other) = table.rows := by
    refine (List.map_congr_left fun other _ => ?_).trans (List.map_id table.rows)
    split
    · rename_i hother
      exact hother.symm
    · rfl
  rw [put, hrows]

namespace Service

/-- Makes changes of the row with a key, one after the other. -/
def changeAll (service : Service Table) (id : Value) (changes : List Change) : Action Table (List Answer) :=
  each (fun change => service.act (change.operation id)) changes

/-- A row that a service over a table finds by its key. -/
structure Addressed (service : Service Table) (id : Value) (table : Table) (row : Record) : Prop where
  storage_eq : service.storage = Table.storage
  key_eq : service.id = table.key
  unreserved : Predicate.isReserved service.id = false
  plain : id.fields? = none
  columns : table.columns.Nodup
  shaped : table.Shaped
  keyed : table.Keyed
  mem : row ∈ table.rows
  key : Record.key? row table.key = some id

section

variable {service : Service Table} {id : Value} {table : Table} {row record data : Record}

namespace Addressed

theorem of_reached {name : String} {columns : List String} {defaults : List (String × Value)}
    (hs : service.storage = Table.storage) (hname : Predicate.isReserved service.id = false)
    (hr : Table.Reached (Table.opened name service.id columns defaults) table) (hd : table.DistinctKeys)
    (hm : row ∈ table.rows) (hk : Record.key? row service.id = some id)
    (hid : (∃ n, id = .number n) ∨ ∃ s, id = .string s) : Addressed service id table row := by
  obtain ⟨hkey, hshaped⟩ := hr.shaped
  exact ⟨hs, hkey.symm, hname, fields?_eq_none hid, hr.nodup_columns, hshaped, hr.keyed hd, hm, hkey.symm ▸ hk⟩

theorem names_row (h : Addressed service id table row) : Entries.names row = table.columns :=
  (h.shaped row h.mem).1

theorem distinct (h : Addressed service id table row) : Entries.Distinct row := by
  rw [Entries.Distinct, h.names_row]
  exact h.columns

/-- What is written into the row is put in its place. -/
theorem writeRow_on (h : Addressed service id table row) (hcolumns : ∀ name ∈ Entries.names data, name ∈ table.columns) :
    (service.writeRow data row).on table = (.ok (table.write data row), table.put row (table.write data row)) := by
  have hwrite : (service.writeRow data row).on table = (.ok (table.write data row),
      { table with rows := Table.reworked [row] (fun row => some (table.write data row)) table.rows }) :=
    Service.writeRow_on h.storage_eq h.key_eq Controls.none hcolumns h.keyed h.mem
  have hrows : Table.reworked [row] (fun row => some (table.write data row)) table.rows
      = table.rows.map fun other => if other = row then table.write data row else other := by
    rw [Table.reworked_some]
    apply List.map_congr_left
    intro other _
    by_cases hother : other = row
    · rw [if_pos (List.mem_singleton.mpr hother), if_pos hother, hother]
    · rw [if_neg fun hm => hother (List.mem_singleton.mp hm), if_neg hother]
  rw [hwrite, hrows]
  rfl

theorem put (h : Addressed service id table row) (hnames : Entries.names record = Entries.names row)
    (hkey : Record.key? record table.key = some id) : Addressed service id (table.put row record) record := by
  have hkept : ∀ other ∈ table.rows,
      Record.key? (if other = row then record else other) table.key = Record.key? other table.key := by
    intro other _
    split
    · rename_i hother
      rw [hother, hkey, h.key]
    · rfl
  refine ⟨h.storage_eq, h.key_eq, h.unreserved, h.plain, h.columns, ?_, h.keyed.map hkept,
    List.mem_map.mpr ⟨row, h.mem, if_pos rfl⟩, hkey⟩
  intro changed hm
  obtain ⟨other, hother, rfl⟩ := List.mem_map.mp hm
  refine ⟨?_, (hkept other hother).symm ▸ (h.shaped other hother).2⟩
  split
  · exact hnames.trans h.names_row
  · exact (h.shaped other hother).1

/-- Of two records that are put in the place of a row, the second one is there. -/
theorem put_put (h : Addressed service id table row) (hkey : Record.key? record table.key = some id)
    (last : Record) : (table.put row record).put record last = table.put row last := by
  have hrows : (table.put row record).rows.map (fun other => if other = record then last else other)
      = table.rows.map fun other => if other = row then last else other := by
    rw [Table.put, List.map_map]
    apply List.map_congr_left
    intro other hm
    rw [Function.comp_apply]
    by_cases hother : other = row
    · rw [if_pos hother, if_pos rfl, if_pos hother]
    -- Another row is not the record either, which has the key of the row.
    · have hne : other ≠ record := by
        rintro rfl
        exact hother (h.keyed.eq_of_key? h.mem hm (hkey.trans h.key.symm))
      rw [if_neg hother, if_neg hne, if_neg hother]
  rw [Table.put, hrows]
  rfl

/-- A row is got by its key, and as it is stored. -/
theorem getRow_on (h : Addressed service id table row) : (service.getRow id .none).on table = (.ok row, table) := by
  have hname := h.unreserved
  obtain ⟨clause, hc⟩ := compile_entry (Predicate.entryWellFormed_plain hname h.plain)
  have hfound : table.rows.filter (fun row => clause.holds row) = [row] := by
    rw [h.key_eq] at hname hc
    rw [filter_holds_of_plain hname (Table.key?_ne_null h.key) h.plain hc,
      h.keyed.distinct.filter_hasKey h.mem h.key]
  rw [getRow_of_query h.storage_eq (query_none h.unreserved id) hc, hfound, Controls.page_singleton rfl (Option.some_ne_none 0).symm]
  rfl

theorem patch_on (h : Addressed service id table row) (hfits : (Change.patch data).Fits table) :
    (service.patch (.single id) data .none).on table = (.ok (.one ((Change.patch data).apply table.key row)),
      table.put row ((Change.patch data).apply table.key row)) := by
  obtain ⟨hdistinct, hcolumns⟩ := hfits
  have hwritten : ∀ name ∈ Entries.names (Entries.erase table.key data), name ∈ table.columns := by
    intro name hm
    obtain ⟨hm, hne⟩ := (Entries.mem_names_erase hdistinct).mp hm
    exact hcolumns name hm hne
  have hfields : ∀ field ∈ Entries.names data, field ≠ table.key → field ∈ Entries.names row := by
    rwa [h.names_row]
  rw [patch, on_report, Action.on_bind_ok _ h.getRow_on, Action.on_map, h.key_eq, h.writeRow_on hwritten,
    Change.write_patch h.distinct hdistinct hfields]

theorem update_on (h : Addressed service id table row) (data : Record) :
    (service.update (.single id) data .none).on table = (.ok ((Change.update data).apply table.key row),
      table.put row ((Change.update data).apply table.key row)) := by
  have hwritten : ∀ name ∈ Entries.names (replacement row data table.key), name ∈ table.columns := by
    intro name hm
    rw [← h.names_row]
    exact (mem_names_replacement.mp hm).1
  rw [update, on_report, Action.on_bind_ok _ h.getRow_on, h.key_eq, h.writeRow_on hwritten,
    Change.write_replacement h.distinct]

/-- What a change gives, and what it leaves. -/
theorem act_on (h : Addressed service id table row) {change : Change} (hfits : change.Fits table) :
    (service.act (change.operation id)).on table = (.ok (change.answer (change.apply table.key row)),
      table.put row (change.apply table.key row)) := by
  cases change with
  | patch data =>
    rw [Change.operation, act, Action.on_map, h.patch_on hfits]
    rfl
  | update data =>
    rw [Change.operation, act, Action.on_map, h.update_on data]
    rfl

theorem key?_apply (h : Addressed service id table row) (change : Change) :
    Record.key? (change.apply table.key row) table.key = some id :=
  Record.key?_overwrite.trans h.key

/-- The row is found by its key after a change as well. -/
theorem apply (h : Addressed service id table row) (change : Change) :
    Addressed service id (table.put row (change.apply table.key row)) (change.apply table.key row) :=
  h.put (Record.names_overwrite _ _ row) (h.key?_apply change)

/-- Changes that follow each other come to one record in the place of the row, which is found there. -/
theorem changeAll_on (h : Addressed service id table row) {changes : List Change}
    (hfits : ∀ change ∈ changes, change.Fits table) :
    (∃ answers, (service.changeAll id changes).on table
      = (.ok answers, table.put row (Change.applyAll table.key changes row))) ∧
    Record.key? (Change.applyAll table.key changes row) table.key = some id ∧
    Addressed service id (table.put row (Change.applyAll table.key changes row))
      (Change.applyAll table.key changes row) := by
  induction changes generalizing table row with
  | nil =>
    rw [Change.applyAll, List.foldl_nil, table.put_self]
    exact ⟨⟨[], rfl⟩, h.key, h⟩
  | cons change rest ih =>
    obtain ⟨hchange, hrest⟩ := List.forall_mem_cons.mp hfits
    obtain ⟨⟨answers, hanswers⟩, hkey, hlast⟩ := ih (h.apply change) hrest
    rw [h.put_put (h.key?_apply change)] at hanswers hlast
    refine ⟨⟨change.answer (change.apply table.key row) :: answers, ?_⟩, hkey, hlast⟩
    rw [changeAll, each, Action.on_bind_ok _ (h.act_on hchange)]
    exact Action.on_bind_ok _ hanswers

theorem changeAll_act_on (h : Addressed service id table row) {changes : List Change} {last : Change}
    (hfits : ∀ change ∈ changes, change.Fits table) (hlast : last.Fits table) :
    ∃ record, (service.changeAll id changes >>= fun _ => service.act (last.operation id)).on table
        = (.ok (last.answer record), table.put row record) ∧
      Addressed service id (table.put row record) record := by
  obtain ⟨⟨answers, hanswers⟩, hkey, hnext⟩ := h.changeAll_on hfits
  have hfound := hnext.apply last
  rw [h.put_put hkey] at hfound
  refine ⟨_, ?_, hfound⟩
  rw [Action.on_bind_ok _ hanswers, hnext.act_on hlast, h.put_put hkey]

theorem changeAll_update_on (h : Addressed service id table row) {changes : List Change}
    (hfits : ∀ change ∈ changes, change.Fits table) (data : Record) :
    (service.changeAll id changes >>= fun _ => service.update (.single id) data .none).on table
      = (service.update (.single id) data .none).on table := by
  obtain ⟨⟨answers, hanswers⟩, hkey, hnext⟩ := h.changeAll_on hfits
  rw [Action.on_bind_ok _ hanswers, hnext.update_on data, h.update_on data, h.put_put hkey, Table.put_key,
    Change.update_applyAll]

theorem patch_patch_on (h : Addressed service id table row) {d e : Record} (hd : (Change.patch d).Fits table)
    (he : (Change.patch e).Fits table) :
    (service.patch (.single id) d .none >>= fun _ => service.patch (.single id) e .none).on table
      = (.ok (.one ((Change.patch e).apply table.key ((Change.patch d).apply table.key row))),
        table.put row ((Change.patch e).apply table.key ((Change.patch d).apply table.key row))) := by
  rw [Action.on_bind_ok _ (h.patch_on hd), (h.apply (.patch d)).patch_on he, h.put_put (h.key?_apply (.patch d))]
  rfl

end Addressed

/-- Patches and updates of a row by its key overwrite what it holds. Two patches come to one of their data, those of the
second before those of the first, so that a patch made twice is made once, and patches of different fields can change
places. An update leaves nothing of the changes before it. Whatever changes are made, one record comes to stand in the
place of the row, with its fields and its key: the last change gives it, and so does a get afterwards. -/
theorem changes_overwrite (hs : service.storage = Table.storage) (hname : Predicate.isReserved service.id = false)
    {name : String} {columns : List String} {defaults : List (String × Value)}
    (hr : Table.Reached (Table.opened name service.id columns defaults) table) (hd : table.DistinctKeys)
    (hm : row ∈ table.rows) (hk : Record.key? row service.id = some id)
    (hid : (∃ n, id = .number n) ∨ ∃ s, id = .string s) :
    (∀ d e, (Change.patch d).Fits table → (Change.patch e).Fits table →
      (service.patch (.single id) d .none >>= fun _ => service.patch (.single id) e .none).on table
        = (service.patch (.single id) (Entries.insertAll d e) .none).on table ∧
      (service.patch (.single id) d .none >>= fun _ => service.patch (.single id) d .none).on table
        = (service.patch (.single id) d .none).on table ∧
      ((∀ field ∈ Entries.names d, field ∈ Entries.names e → field = service.id) →
        (service.patch (.single id) d .none >>= fun _ => service.patch (.single id) e .none).on table
          = (service.patch (.single id) e .none >>= fun _ => service.patch (.single id) d .none).on table)) ∧
    ∀ changes : List Change, (∀ change ∈ changes, change.Fits table) →
      (∀ data, (service.changeAll id changes >>= fun _ => service.update (.single id) data .none).on table
        = (service.update (.single id) data .none).on table) ∧
      ∀ last : Change, last.Fits table → ∃ record,
        (service.changeAll id changes >>= fun _ => service.act (last.operation id)).on table
          = (.ok (last.answer record), table.put row record) ∧
        Entries.names record = Entries.names row ∧ Record.key? record service.id = some id ∧
        (service.get id .none).on (table.put row record) = (.ok record, table.put row record) := by
  have h : Addressed service id table row := .of_reached hs hname hr hd hm hk hid
  refine ⟨?_, ?_⟩
  · intro d e hd he
    rw [h.patch_patch_on hd he, h.patch_patch_on hd hd, h.patch_patch_on he hd, h.patch_on hd,
      h.patch_on (Change.fits_insertAll hd he), Change.patch_patch he.1, Change.patch_self]
    refine ⟨rfl, rfl, ?_⟩
    intro hdisjoint
    rw [← Change.patch_patch he.1, Change.patch_comm (h.key_eq ▸ hdisjoint)]
  · intro changes hfits
    constructor
    · intro data
      exact h.changeAll_update_on hfits data
    · intro last hlast
      obtain ⟨record, hrun, hfound⟩ := h.changeAll_act_on hfits hlast
      exact ⟨record, hrun, hfound.names_row.trans h.names_row.symm, h.key_eq ▸ hfound.key,
        get_on_of_getRow_ok hfound.getRow_on⟩

end

/-- Ada becomes Flo by two patches as by one with the data of both, and an update that follows takes her name away, but not
her number. -/
theorem changes_overwrite_ada :
    (standard.patch (.single (.ofInt 1)) [("name", .string "Eve")] .none >>= fun _ =>
        standard.patch (.single (.ofInt 1)) [("id", .ofInt 9), ("name", .string "Flo")] .none).on people
      = (standard.patch (.single (.ofInt 1)) [("name", .string "Flo"), ("id", .ofInt 9)] .none).on people ∧
    (standard.changeAll (.ofInt 1) [.patch [("name", .string "Eve")]] >>= fun _ =>
        standard.act (.update (.single (.ofInt 1)) [] .none)).on people
      = (.ok (.record [("id", .ofInt 1), ("name", .null)]), people.put [("id", .ofInt 1), ("name", .string "Ada")]
          [("id", .ofInt 1), ("name", .null)]) ∧
    (standard.get (.ofInt 1) .none).on
        (people.put [("id", .ofInt 1), ("name", .string "Ada")] [("id", .ofInt 1), ("name", .null)])
      = (.ok [("id", .ofInt 1), ("name", .null)],
        people.put [("id", .ofInt 1), ("name", .string "Ada")] [("id", .ofInt 1), ("name", .null)]) := by
  have hstorage : standard.storage = Table.storage := rfl
  obtain ⟨hpatches, hchanges⟩ := changes_overwrite hstorage (by decide) people_reached people_distinct
    (List.mem_cons_self : [("id", .ofInt 1), ("name", .string "Ada")] ∈ people.rows) rfl (.inl ⟨_, rfl⟩)
  have heve : (Change.patch [("name", .string "Eve")]).Fits people := ⟨List.nodup_singleton "name", by decide⟩
  have hflo : (Change.patch [("id", .ofInt 9), ("name", .string "Flo")]).Fits people := by
    refine ⟨?_, by decide⟩
    unfold Entries.Distinct
    decide
  obtain ⟨_, hlast⟩ := hchanges [.patch [("name", .string "Eve")]] (List.forall_mem_singleton.mpr heve)
  obtain ⟨record, hrun, _, _, hget⟩ := hlast (.update []) trivial
  have hdone : ((standard.changeAll (.ofInt 1) [.patch [("name", .string "Eve")]] >>= fun _ =>
      standard.act ((Change.update []).operation (.ofInt 1))).on people).1
        = .ok (.record [("id", .ofInt 1), ("name", .null)]) := by
    decide +kernel
  have hrecord : record = [("id", .ofInt 1), ("name", .null)] :=
    Answer.record.inj (Except.ok.inj ((congrArg Prod.fst hrun).symm.trans hdone))
  subst hrecord
  have hboth : Entries.insertAll [("name", Value.string "Eve")] [("id", .ofInt 9), ("name", .string "Flo")]
      = [("name", .string "Flo"), ("id", .ofInt 9)] := rfl
  obtain ⟨hpatch, _⟩ := hpatches _ _ heve hflo
  rw [hboth] at hpatch
  exact ⟨hpatch, hrun, hget⟩

end Service

end RowStore
