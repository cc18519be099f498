import Mathlib.Data.List.Perm.Subperm
import RowStore.Proofs.Service.Get
import RowStore.Proofs.Table.Rows

/-!
# Replacing one row

A replacement is computed from the row as a get gives it, so that it reaches the fields that the query shows and no
others. What it reaches gets the new value or null; the key, the fields that are not shown and the other rows stay.
-/

namespace RowStore

set_option autoImplicit false

namespace Controls

variable {controls : Controls} {key column : String} {row : Record} {rows : List Record}

def Shows (controls : Controls) (column : String) : Prop :=
  ∀ columns, controls.select = some columns → column ∈ columns

theorem lookup_shown_of_shows (h : column = key ∨ controls.Shows column) (row : Record) :
    (controls.shown key row).lookup column = row.lookup column := by
  rw [shown]
  cases hs : controls.select with
  | none => rfl
  | some columns =>
    have hmem : column ∈ Plan.keyFirst key columns := Plan.mem_keyFirst.mpr (h.imp_right fun hshows => hshows columns hs)
    rw [Option.map_some, Table.lookup_project, if_pos hmem]

theorem lookup_shown_eq_none (hkey : column ≠ key) (h : ¬ controls.Shows column) (row : Record) :
    (controls.shown key row).lookup column = .none := by
  simp only [Shows, not_forall, exists_prop] at h
  obtain ⟨columns, hs, hcolumn⟩ := h
  have hmem : column ∉ Plan.keyFirst key columns := fun hm => (Plan.mem_keyFirst.mp hm).elim hkey hcolumn
  rw [shown, hs, Option.map_some, Table.lookup_project, if_neg hmem]

theorem key?_shown : Record.key? (controls.shown key row) key = Record.key? row key := by
  rw [Record.key?, lookup_shown_of_shows (.inl rfl), Record.key?]

/-- The fields of a row as it is shown. -/
theorem mem_names_shown (hkey : column ≠ key) :
    column ∈ Entries.names (controls.shown key row) ↔ controls.Shows column ∧ column ∈ Entries.names row := by
  rw [Entries.mem_names_iff, Entries.mem_names_iff]
  by_cases h : controls.Shows column
  · rw [lookup_shown_of_shows (.inr h)]
    simp [h]
  · rw [lookup_shown_eq_none hkey h]
    simp [h]

theorem page_subperm (controls : Controls) (rows : List Record) : (controls.page rows).Subperm rows := by
  unfold page
  split
  · exact List.nil_subperm
  · exact (Table.slice_sublist _ _ _).subperm.trans (Table.sortRows_perm controls.sort rows).subperm

theorem mem_of_mem_page (h : row ∈ controls.page rows) : row ∈ rows :=
  (controls.page_subperm rows).subset h

end Controls

namespace Service

section

variable {old new : Record} {key column : String}

theorem mem_replacement {entry : String × Value} (h : entry ∈ replacement old new key) :
    entry.1 ∈ Entries.names old ∧ entry.1 ≠ key ∧ entry.2 = new.cell entry.1 := by
  rw [replacement, List.mem_filterMap] at h
  obtain ⟨name, hm, he⟩ := h
  split at he
  · cases he
  · rename_i hkey
    cases he
    exact ⟨hm, hkey, rfl⟩

/-- A replacement is of the fields of the old row but the key. -/
theorem mem_names_replacement :
    column ∈ Entries.names (replacement old new key) ↔ column ∈ Entries.names old ∧ column ≠ key := by
  constructor
  · intro h
    obtain ⟨entry, hm, rfl⟩ := List.mem_map.mp h
    obtain ⟨hname, hkey, _⟩ := mem_replacement hm
    exact ⟨hname, hkey⟩
  · rintro ⟨hm, hkey⟩
    refine List.mem_map.mpr ⟨(column, new.cell column), List.mem_filterMap.mpr ⟨column, hm, ?_⟩, rfl⟩
    exact if_neg hkey

end

section

variable {service : Service Table} {table next : Table} {row record changes : Record} {k : Value}

theorem key?_shown_id (hkey : service.id = table.key) (controls : Controls) (row : Record) :
    Record.key? (controls.shown table.key row) service.id = Record.key? row table.key := by
  rw [hkey, Controls.key?_shown]

theorem writeRow_of_key (hs : service.storage = Table.storage) (hk : Record.key? row service.id = some k) :
    (service.writeRow changes row).on table = match table.update k changes with
      | .ok (record, next) => (.ok record, next)
      | .error e => (.error (.storage e.message), table) := by
  have hupdate : service.storage.update k changes table = table.replyOf (table.update k changes) := by
    rw [hs]
    rfl
  rw [writeRow, Action.on_bind_ok _ (on_rowKey_some hk table)]
  cases h : table.update k changes with
  | ok result =>
    rw [h] at hupdate
    exact Action.on_ask_ok hupdate
  | error e =>
    rw [h] at hupdate
    exact Action.on_ask_error hupdate

theorem writeRow_of_no_key (hk : Record.key? row service.id = none) :
    (service.writeRow changes row).on table = (.error (.noKey service.id), table) :=
  Action.on_bind_error _ (on_rowKey_none hk table)

end

/-- A row as a replacement leaves it: the fields that are shown have the new values or null, all else is as before. -/
structure Replaced (controls : Controls) (key : String) (data old record : Record) : Prop where
  names_eq : Entries.names record = Entries.names old
  key_eq : record.lookup key = old.lookup key
  shown_eq : ∀ column ∈ Entries.names old, column ≠ key → controls.Shows column →
    record.lookup column = some (data.cell column)
  hidden_eq : ∀ column, column ≠ key → ¬ controls.Shows column → record.lookup column = old.lookup column

theorem replaced_write (controls : Controls) (table : Table) (data old : Record) :
    Replaced controls table.key data old
      (table.write (replacement (controls.shown table.key old) data table.key) old) := by
  have hlookup : ∀ column, (table.write (replacement (controls.shown table.key old) data table.key) old).lookup column
      = if column ∈ Entries.names (replacement (controls.shown table.key old) data table.key)
        then some (data.cell column) else old.lookup column :=
    fun column => Table.lookup_write fun entry hm => (mem_replacement hm).2
  refine ⟨Table.names_write ?_, Table.lookup_key_write, ?_, ?_⟩
  · intro name hm hkey
    rw [mem_names_replacement, Controls.mem_names_shown hkey] at hm
    exact hm.1.2
  · intro column hm hkey hshows
    rw [hlookup, if_pos (mem_names_replacement.mpr ⟨(Controls.mem_names_shown hkey).mpr ⟨hshows, hm⟩, hkey⟩)]
  · intro column hkey hshows
    have hmem : column ∉ Entries.names (replacement (controls.shown table.key old) data table.key) := by
      rw [mem_names_replacement, Controls.mem_names_shown hkey]
      exact fun h => hshows h.1.1
    rw [hlookup, if_neg hmem]

section

variable {service : Service Table} {table : Table}

/-- An update gets a row as it is shown, and then writes the replacement into the stored row with its key. -/
theorem update_on_cases (hs : service.storage = Table.storage) (hkey : service.id = table.key) (id : Value)
    (data : Record) (params : Params) :
    (∃ e, (service.getRow id params).on table = (.error e, table) ∧
      (service.update (.single id) data params).on table = (.error (service.hook e), table)) ∨
    ∃ q clause old, Query.ofFields (Entries.insert service.id id params.query) none = .ok q ∧
      Clause.compile q.predicate = .ok clause ∧ old ∈ table.rows ∧ clause.holds old = true ∧
      (service.getRow id params).on table = (.ok (q.controls.shown table.key old), table) ∧
      ((∃ e, (service.update (.single id) data params).on table = (.error e, table)) ∨
        ∃ record next, (service.update (.single id) data params).on table = (.ok record, next)) ∧
      ∀ record next, (service.update (.single id) data params).on table = (.ok record, next) ↔
        ∃ k, Record.key? old table.key = some k ∧
          table.update k (replacement (q.controls.shown table.key old) data table.key) = .ok (record, next) := by
  have hupdate := on_report service (service.getRow id params >>= fun row =>
    service.writeRow (replacement row data service.id) row) table
  change (service.update (.single id) data params).on table = _ at hupdate
  rcases getRow_cases hs id params table with ⟨fault, hfault⟩ | ⟨q, clause, hq, hc, hrow⟩
  · refine .inl ⟨_, hfault, ?_⟩
    rw [hupdate, Action.on_bind_error _ hfault]
  · by_cases hone : (q.controls.page (table.rows.filter fun row => clause.holds row)).length = 1
    · obtain ⟨old, hpage⟩ := List.length_eq_one_iff.mp hone
      have hm : old ∈ table.rows.filter fun row => clause.holds row :=
        Controls.mem_of_mem_page (hpage ▸ List.mem_singleton_self old)
      rw [hpage, List.map_singleton, single_eq_ok_iff.mpr rfl, hkey] at hrow
      refine .inr ⟨q, clause, old, hq, hc, (List.mem_filter.mp hm).1, (List.mem_filter.mp hm).2, hrow, ?_⟩
      rw [Action.on_bind_ok _ hrow, hkey] at hupdate
      cases hk : Record.key? old table.key with
      | none =>
        rw [writeRow_of_no_key ((key?_shown_id hkey q.controls old).trans hk)] at hupdate
        rw [hupdate]
        exact ⟨.inl ⟨_, rfl⟩, by simp⟩
      | some k =>
        rw [writeRow_of_key hs ((key?_shown_id hkey q.controls old).trans hk)] at hupdate
        cases hwrite : table.update k (replacement (q.controls.shown table.key old) data table.key) with
        | error e =>
          rw [hwrite] at hupdate
          rw [hupdate]
          exact ⟨.inl ⟨_, rfl⟩, by simp [hwrite]⟩
        | ok result =>
          rw [hwrite] at hupdate
          rw [hupdate]
          exact ⟨.inr ⟨_, _, rfl⟩, by simp [hwrite, Prod.ext_iff]⟩
    · rw [single_eq_error (by rwa [List.length_map])] at hrow
      refine .inl ⟨_, hrow, ?_⟩
      rw [hupdate, Action.on_bind_error _ hrow]

/-- What a query with a key put into it asks of the key field, unless the name of the field is reserved. -/
theorem entrySatisfied_of_satisfied {id : Value} {fields : Fields} {q : Query} {row : Record} {name : String}
    (hq : Query.ofFields (Entries.insert name id fields) none = .ok q) (hname : Predicate.isReserved name = false)
    (h : Predicate.Satisfied row q.predicate) : Predicate.EntrySatisfied row name id := by
  rw [Query.predicate_ofFields hq, Query.predicateOf_insert (Query.not_mem_controls hname)] at h
  exact (Predicate.satisfied_iff _ _).mp h _ (Entries.mem_insert_self _ _ _)

/-- An update that succeeds replaces the row that has the key and satisfies the query: of its fields, those that the
query shows. The answer is that row as it is stored. An update that fails leaves the table, and over rows that have
all columns and a key it fails just when there is no row to get. -/
theorem update_on_replaces (hs : service.storage = Table.storage) (hkey : service.id = table.key)
    (hd : table.DistinctKeys) (id : Value) (data : Record) (params : Params) :
    (∀ record next, (service.update (.single id) data params).on table = (.ok record, next) →
      ∃ q before old after, Query.ofFields (Entries.insert service.id id params.query) none = .ok q ∧
        table.rows = before ++ old :: after ∧ next = { table with rows := before ++ record :: after } ∧
        Predicate.Satisfied old q.predicate ∧
        (Predicate.isReserved service.id = false → Predicate.EntrySatisfied old service.id id) ∧
        Replaced q.controls table.key data old record) ∧
    (∀ e next, (service.update (.single id) data params).on table = (.error e, next) → next = table) ∧
    (table.Shaped → ((∃ record next, (service.update (.single id) data params).on table = (.ok record, next)) ↔
      ∃ row, (service.get id params).on table = (.ok row, table))) := by
  rcases update_on_cases hs hkey id data params with
    ⟨e, hrow, hupdate⟩ | ⟨q, clause, old, hq, hc, hm, hholds, hrow, hends, hupdate⟩
  · rw [hupdate, get_on_of_getRow_error hrow]
    exact ⟨by simp, by simp +contextual, by simp⟩
  · refine ⟨?_, ?_, ?_⟩
    · intro record next h
      obtain ⟨k, hk, hwrite⟩ := (hupdate record next).mp h
      obtain ⟨before, after, hrows, rfl, rfl⟩ := Table.update_of_mem hd hm hk hwrite
      have hsatisfied := (Predicate.holds_iff_satisfied hc old).mp hholds
      exact ⟨q, before, old, after, hq, hrows, rfl, hsatisfied,
        fun hname => entrySatisfied_of_satisfied hq hname hsatisfied, replaced_write q.controls table data old⟩
    · intro e next h
      rcases hends with ⟨e', herror⟩ | ⟨record, next', hok⟩
      · rw [herror] at h
        cases h
        rfl
      · rw [hok] at h
        cases h
    · -- The fields of the replacement are columns, and the key that is shown is that of the stored row.
      intro hshaped
      refine iff_of_true ?_ ⟨_, get_on_of_getRow_ok hrow⟩
      obtain ⟨hnames, hsome⟩ := hshaped old hm
      obtain ⟨k, hk⟩ := Option.isSome_iff_exists.mp hsome
      have hcolumns : ∀ name ∈ Entries.names (replacement (q.controls.shown table.key old) data table.key),
          name ∈ table.columns := by
        intro name hname
        obtain ⟨hshown, hne⟩ := mem_names_replacement.mp hname
        rw [← hnames]
        exact ((Controls.mem_names_shown hne).mp hshown).2
      obtain ⟨record, next, hwrite⟩ := Table.update_isOk hm hk hcolumns
      exact ⟨record, next, (hupdate record next).mpr ⟨k, hk, hwrite⟩⟩

end

/-- Ada is replaced by Eve, who has her number. -/
theorem update_on_replaces_ada :
    ∃ controls before old after, people.rows = before ++ old :: after ∧
      (standard.update (.single (.ofInt 1)) [("name", .string "Eve"), ("id", .ofInt 9)] .none).on people
        = (.ok [("id", .ofInt 1), ("name", .string "Eve")],
          { people with rows := before ++ [("id", .ofInt 1), ("name", .string "Eve")] :: after }) ∧
      Predicate.EntrySatisfied old "id" (.ofInt 1) ∧
      Replaced controls "id" [("name", .string "Eve"), ("id", .ofInt 9)] old [("id", .ofInt 1), ("name", .string "Eve")] := by
  have hdistinct : people.DistinctKeys := by
    unfold Table.DistinctKeys
    decide +kernel
  have hstorage : standard.storage = Table.storage := rfl
  obtain ⟨hreplaces, _⟩ := update_on_replaces hstorage rfl hdistinct (.ofInt 1)
    [("name", .string "Eve"), ("id", .ofInt 9)] .none
  have hrun : (standard.update (.single (.ofInt 1)) [("name", .string "Eve"), ("id", .ofInt 9)] .none).on people
      = (.ok [("id", .ofInt 1), ("name", .string "Eve")], { people with
          rows := [[("id", .ofInt 1), ("name", .string "Eve")], [("id", .ofInt 2), ("name", .string "Bo")]] }) := by
    decide +kernel
  obtain ⟨q, before, old, after, _, hrows, hnext, _, hentry, hreplaced⟩ := hreplaces _ _ hrun
  rw [hnext] at hrun
  exact ⟨q.controls, before, old, after, hrows, hrun, hentry (by decide), hreplaced⟩

/-- A query that shows the number only keeps the name from being replaced. -/
theorem not_forall_update_on_replaces :
    ¬ ∀ (id : Value) (data record : Record) (params : Params) (next : Table) (column : String),
      (standard.update (.single id) data params).on people = (.ok record, next) → column ∈ people.columns →
      column ≠ people.key → record.lookup column = some (data.cell column) := by
  intro h
  have hname := h (.ofInt 1) [] [("id", .ofInt 1), ("name", .string "Ada")] ⟨[("$select", .string "id")], none⟩ people
    "name" (by decide +kernel) (by decide) (by decide)
  revert hname
  decide +kernel

end Service

end RowStore
