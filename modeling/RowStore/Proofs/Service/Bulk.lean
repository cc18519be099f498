import RowStore.Proofs.Service.Find
import RowStore.Proofs.Service.Reached
import RowStore.Proofs.Service.Replace
import RowStore.Proofs.Table.Picked

/-!
# Changes of many rows

The rows that match a query are looked for once, and then changed one by one, each by the key that it is shown with. As no
change of one row touches the key of any, all of them are reached, whatever becomes of the query in between.
-/

namespace RowStore

set_option autoImplicit false

namespace Controls

variable {controls : Controls} {rows : List Record}

theorem nodup_page (controls : Controls) (h : rows.Nodup) : (controls.page rows).Nodup := by
  obtain ⟨kept, hperm, hsub⟩ := controls.page_subperm rows
  exact hperm.nodup_iff.mp (h.sublist hsub)

theorem page_nil (controls : Controls) : controls.page [] = [] :=
  List.eq_nil_iff_forall_not_mem.mpr fun _ hm => List.not_mem_nil (mem_of_mem_page hm)

theorem mem_page {row : Record} (hlimit : controls.limit = .none) (hskip : controls.skip = .none) :
    row ∈ controls.page rows ↔ row ∈ rows := by
  rw [page, hlimit, if_neg (Option.some_ne_none 0).symm, hskip]
  exact (Table.sortRows_perm controls.sort rows).mem_iff

end Controls

namespace Table

variable {table : Table} {row : Record} {clause : Clause}

/-- Rows picked from a table, each of them once, and the same rows as a query shows them: these have the keys of those. -/
structure Picks (table : Table) (controls : Controls) (picked shown : List Record) : Prop where
  shown_eq : shown = picked.map (controls.shown table.key)
  nodup : picked.Nodup
  mem_iff : ∀ row, row ∈ picked ↔ row ∈ table.rows ∧
    ∃ record ∈ shown, Record.key? record table.key = Record.key? row table.key

theorem Reached.keyed {name key : String} {columns : List String} {defaults : List (String × Value)}
    (h : Reached (opened name key columns defaults) table) (hd : DistinctKeys table) : Keyed table :=
  ⟨hd, fun row hm => (h.shaped.2 row hm).2⟩

theorem mem_of_mem_page (controls : Controls) (hm : row ∈ controls.page (table.satisfying clause)) :
    row ∈ table.rows :=
  (List.mem_filter.mp (Controls.mem_of_mem_page hm)).1

theorem picks_page (h : Keyed table) (controls : Controls) (clause : Clause) :
    table.Picks controls (controls.page (table.satisfying clause))
      ((controls.page (table.satisfying clause)).map (controls.shown table.key)) := by
  refine ⟨rfl, controls.nodup_page (h.nodup.sublist List.filter_sublist), ?_⟩
  intro row
  constructor
  · intro hm
    exact ⟨table.mem_of_mem_page controls hm, _, List.mem_map_of_mem hm, Controls.key?_shown⟩
  · rintro ⟨hrow, record, hrecord, hkey⟩
    obtain ⟨other, hother, rfl⟩ := List.mem_map.mp hrecord
    rw [Controls.key?_shown] at hkey
    rwa [← h.eq_of_key? hrow (table.mem_of_mem_page controls hother) hkey]

theorem satisfying_rest {controls : Controls} (hlimit : controls.limit = none) (hskip : controls.skip = none) :
    satisfying { table with rows := table.rows.filter fun row => row ∉ controls.page (table.satisfying clause) } clause
      = [] := by
  rw [satisfying, List.filter_eq_nil_iff]
  intro row hm hholds
  obtain ⟨hm, hrest⟩ := List.mem_filter.mp hm
  have hpicked : row ∈ controls.page (table.satisfying clause) :=
    (Controls.mem_page hlimit hskip).mpr (List.mem_filter.mpr ⟨hm, hholds⟩)
  exact of_decide_eq_true hrest hpicked

end Table

namespace Service

section

variable {service : Service Table} {table : Table} {row changes : Record} {query : Fields} {q : Query} {clause : Clause}

/-- One row after the other is changed as all picked ones are at once, if every change keeps the key. -/
theorem on_each_picked (f : Record → Action Table Record) (given result : Record → Record)
    (change : Record → Option Record) {picked rows : List Record}
    (hchange : ∀ row changed, change row = some changed → Record.key? changed table.key = Record.key? row table.key)
    (hf : ∀ rows row, Table.Keyed { table with rows } → row ∈ rows → (f (given row)).on { table with rows }
      = (.ok (result row), { table with rows := Table.reworked [row] change rows }))
    (h : Table.Keyed { table with rows }) (hnodup : picked.Nodup) (hm : ∀ row ∈ picked, row ∈ rows) :
    (each f (picked.map given)).on { table with rows }
      = (.ok (picked.map result), { table with rows := Table.reworked picked change rows }) := by
  induction picked generalizing rows with
  | nil =>
    rw [Table.reworked_nil]
    rfl
  | cons row rest ih =>
    obtain ⟨hnew, hrest⟩ := List.nodup_cons.mp hnodup
    obtain ⟨hrow, hothers⟩ := List.forall_mem_cons.mp hm
    have hkept : ∀ other ∈ rest, other ∈ Table.reworked [row] change rows := by
      intro other hother
      have hne : other ∉ [row] := fun he => hnew (List.mem_singleton.mp he ▸ hother)
      exact Table.mem_reworked (hothers other hother) hne
    -- What comes of the row has its key, so it is none of those that are still to be changed.
    have hchanged : ∀ changed, change row = some changed → changed ∉ rest := by
      intro changed hrowChange hmem
      have hsame := h.eq_of_key? hrow (hothers changed hmem) (hchange row changed hrowChange)
      exact hnew (hsame ▸ hmem)
    rw [List.map_cons, each, Action.on_bind_ok _ (hf rows row h hrow),
      Action.on_bind_ok _ (ih (h.reworked hchange) hrest hkept), Table.reworked_cons hchanged]
    rfl

theorem deleteRow_on (hs : service.storage = Table.storage) (hkey : service.id = table.key) (controls : Controls)
    {rows : List Record} (h : Table.Keyed { table with rows }) (hm : row ∈ rows) :
    (service.deleteRow (controls.shown table.key row)).on { table with rows } = (.ok (controls.shown table.key row),
      { table with rows := Table.reworked [row] (fun _ => none) rows }) := by
  obtain ⟨k, hk⟩ := Option.isSome_iff_exists.mp (h.isSome row hm)
  have hshown : Record.key? (controls.shown table.key row) service.id = some k :=
    (key?_shown_id hkey controls row).trans hk
  have hask : service.storage.delete k { table with rows }
      = (.ok (), { table with rows := Table.reworked [row] (fun _ => none) rows }) := by
    rw [hs]
    simp only [Table.storage, h.delete_eq hm hk, Except.map, Table.replyOf]
  rw [deleteRow, Action.on_bind_ok _ (on_rowKey_some hshown _), Action.on_bind_ok _ (Action.on_ask_ok hask)]
  rfl

theorem writeRow_on (hs : service.storage = Table.storage) (hkey : service.id = table.key) (controls : Controls)
    (hcolumns : ∀ name ∈ Entries.names changes, name ∈ table.columns) {rows : List Record}
    (h : Table.Keyed { table with rows }) (hm : row ∈ rows) :
    (service.writeRow changes (controls.shown table.key row)).on { table with rows } = (.ok (table.write changes row),
      { table with rows := Table.reworked [row] (fun row => some (table.write changes row)) rows }) := by
  obtain ⟨k, hk⟩ := Option.isSome_iff_exists.mp (h.isSome row hm)
  have hshown : Record.key? (controls.shown table.key row) service.id = some k :=
    (key?_shown_id hkey controls row).trans hk
  rw [writeRow_of_key hs hshown, h.update_eq hm hk hcolumns]
  rfl

theorem findRows_of_query (hs : service.storage = Table.storage) (hq : Query.ofFields query none = .ok q)
    (hc : Clause.compile q.predicate = .ok clause) (table : Table) :
    ∃ found, (service.findRows query none).on table = (.ok found, table) ∧
      found.rows = (q.controls.page (table.satisfying clause)).map (q.controls.shown service.id) := by
  obtain ⟨plans, hplans, hrows⟩ := pageRows_ofQuery service.id hc table
  exact ⟨_, findRows_on hs hq hplans table, hrows⟩

theorem find_on_unpaged {params : Params} (hs : service.storage = Table.storage)
    (hq : Query.ofFields params.query none = .ok q) (hc : Clause.compile q.predicate = .ok clause)
    (hpolicy : (service.policyOf params).enabled = false) (table : Table) :
    (service.find params).on table
      = (.ok (.rows ((q.controls.page (table.satisfying clause)).map (q.controls.shown service.id))), table) := by
  have hunder : q.controls.under (service.policyOf params) = q.controls := by
    rw [Controls.under, Policy.resolve_of_not_enabled hpolicy]
  rw [(find_on_of_query hs hq hc table).1, found, hunder, Fetched.selection, if_neg (Bool.eq_false_iff.mp hpolicy)]

/-- A change of all rows that match looks for them first and then goes through them as they are shown. -/
theorem on_report_matching (hs : service.storage = Table.storage) (hq : Query.ofFields query none = .ok q)
    (hc : Clause.compile q.predicate = .ok clause) (f : Record → Action Table Record) (table : Table) :
    (service.report (service.findRows query none >>= fun found => OneOrMany.many <$> each f found.rows)).on table
      = match (each f ((q.controls.page (table.satisfying clause)).map (q.controls.shown service.id))).on table with
        | (.ok records, next) => (.ok (.many records), next)
        | (.error e, next) => (.error (service.hook e), next) := by
  obtain ⟨found, hfound, hrows⟩ := findRows_of_query hs hq hc table
  rw [on_report, Action.on_bind_ok _ hfound, Action.on_map, hrows]
  rcases (each f _).on table with ⟨outcome, next⟩
  cases outcome <;> rfl

theorem on_report_picked (hs : service.storage = Table.storage) (hkey : service.id = table.key) (h : Table.Keyed table)
    (hq : Query.ofFields query none = .ok q) (hc : Clause.compile q.predicate = .ok clause)
    (f : Record → Action Table Record) (result : Record → Record) (change : Record → Option Record)
    (hchange : ∀ row changed, change row = some changed → Record.key? changed table.key = Record.key? row table.key)
    (hf : ∀ rows row, Table.Keyed { table with rows } → row ∈ rows →
      (f (q.controls.shown table.key row)).on { table with rows }
        = (.ok (result row), { table with rows := Table.reworked [row] change rows })) :
    (service.report (service.findRows query none >>= fun found => OneOrMany.many <$> each f found.rows)).on table
      = (.ok (.many ((q.controls.page (table.satisfying clause)).map result)),
        { table with rows := Table.reworked (q.controls.page (table.satisfying clause)) change table.rows }) := by
  have hnodup := (Table.picks_page h q.controls clause).nodup
  have heach : (each f ((q.controls.page (table.satisfying clause)).map (q.controls.shown table.key))).on table
      = (.ok ((q.controls.page (table.satisfying clause)).map result),
        { table with rows := Table.reworked (q.controls.page (table.satisfying clause)) change table.rows }) :=
    on_each_picked f _ result change hchange hf h hnodup fun row hm => table.mem_of_mem_page q.controls hm
  rw [on_report_matching hs hq hc, hkey, heach]

/-- A remove of the rows that match a query gives what a find without pages gives for it, and takes just these rows out; the
others stay as they are, in their order. If the query sets no bounds, a find gives nothing for it afterwards. -/
theorem remove_matching_on (hs : service.storage = Table.storage) {name : String} {columns : List String}
    {defaults : List (String × Value)} (hr : Table.Reached (Table.opened name service.id columns defaults) table)
    (hd : table.DistinctKeys) (hq : Query.ofFields query none = .ok q) (hc : Clause.compile q.predicate = .ok clause) :
    ∃ shown picked, table.Picks q.controls picked shown ∧
      (∀ params : Params, params.query = query → (service.policyOf params).enabled = false →
        (service.find params).on table = (.ok (.rows shown), table)) ∧
      ∀ params : Params, ∃ next, (service.remove (.matching query) params).on table = (.ok (.many shown), next) ∧
        next = { table with rows := table.rows.filter fun row => row ∉ picked } ∧
        (Controls.limitKey ∉ Entries.names query → Controls.skipKey ∉ Entries.names query →
          ∀ later : Params, later.query = query →
            ∃ selection, (service.find later).on next = (.ok selection, next) ∧ selection.data = []) := by
  have hkey : table.key = service.id := hr.shaped.1
  have hkeyed : Table.Keyed table := hr.keyed hd
  refine ⟨_, _, Table.picks_page hkeyed q.controls clause, ?_, ?_⟩
  · rintro params rfl hpolicy
    rw [hkey]
    exact find_on_unpaged hs hq hc hpolicy table
  · intro params
    have hremove := on_report_picked hs hkey.symm hkeyed hq hc service.deleteRow (q.controls.shown table.key)
      (fun _ => none) nofun fun rows row hrows hm => deleteRow_on hs hkey.symm q.controls hrows hm
    rw [Table.reworked_none] at hremove
    refine ⟨_, hremove, rfl, ?_⟩
    rintro hlimit hskip later rfl
    refine ⟨_, (find_on_of_query hs hq hc _).1, ?_⟩
    rw [Table.satisfying_rest (Query.get_eq_none Controls.limiting_keeps.reads hq hlimit)
      (Query.get_eq_none Controls.skipping_keeps.reads hq hskip), found, Controls.page_nil, Fetched.selection]
    split <;> rfl

end

theorem people_reached : Table.Reached (Table.opened "people" "id" ["name"] []) people := by
  have hrun : people = (Table.opened "people" "id" ["name"] []).run
      [.insert [("name", .string "Ada")], .insert [("name", .string "Bo")]] := by
    decide +kernel
  rw [hrun]
  exact Table.Reached.start.run _

theorem people_distinct : people.DistinctKeys := by
  unfold Table.DistinctKeys
  decide +kernel

/-- Bo is removed, of whom the query shows the number only, and is not found any more. -/
theorem remove_matching_on_bo :
    (standard.remove (.matching [("name", .string "Bo"), ("$select", .string "id")]) .none).on people
      = (.ok (.many [[("id", .ofInt 2)]]), { people with rows := [[("id", .ofInt 1), ("name", .string "Ada")]] }) ∧
    ∃ selection, (standard.find ⟨[("name", .string "Bo"), ("$select", .string "id")], none⟩).on
        { people with rows := [[("id", .ofInt 1), ("name", .string "Ada")]] }
      = (.ok selection, { people with rows := [[("id", .ofInt 1), ("name", .string "Ada")]] }) ∧ selection.data = [] := by
  have hstorage : standard.storage = Table.storage := rfl
  obtain ⟨_, _, _, _, hremove⟩ := remove_matching_on hstorage people_reached people_distinct
    (rfl : Query.ofFields [("name", .string "Bo"), ("$select", .string "id")] none = .ok _) rfl
  obtain ⟨next, hrun, _, hlater⟩ := hremove .none
  have hdone : (standard.remove (.matching [("name", .string "Bo"), ("$select", .string "id")]) .none).on people
      = (.ok (.many [[("id", .ofInt 2)]]), { people with rows := [[("id", .ofInt 1), ("name", .string "Ada")]] }) := by
    decide +kernel
  have hnext := congrArg Prod.snd (hrun.symm.trans hdone)
  subst hnext
  exact ⟨hdone, hlater (by decide) (by decide) _ rfl⟩

section

variable {service : Service Table} {table : Table} {row changes : Record} {query : Fields} {q : Query} {clause : Clause}

/-- A patched row has the values of some data under their names, and its key and all other values as before. -/
structure Patched (key : String) (data old record : Record) : Prop where
  names_eq : Entries.names record = Entries.names old
  written_eq : ∀ column ∈ Entries.names data, column ≠ key → record.lookup column = data.lookup column
  kept_eq : ∀ column, column = key ∨ column ∉ Entries.names data → record.lookup column = old.lookup column

theorem patched_write {data : Record} (hd : Entries.Distinct data)
    (hcolumns : ∀ name ∈ Entries.names data, name ≠ table.key → name ∈ Entries.names row) :
    Patched table.key data row (table.write (Entries.erase table.key data) row) := by
  have hentry : ∀ entry ∈ Entries.erase table.key data, entry.1 ≠ table.key ∧ entry.2 = data.cell entry.1 := by
    intro entry hm
    obtain ⟨hm, hne⟩ := (Entries.mem_erase hd).mp hm
    refine ⟨hne, ?_⟩
    rw [Record.cell, Entries.lookup_of_mem hd hm, Option.getD_some]
  refine ⟨Table.names_write ?_, ?_, ?_⟩
  · intro name hm hne
    exact hcolumns name ((Entries.mem_names_erase hd).mp hm).1 hne
  · intro column hm hne
    obtain ⟨entry, hentryMem, rfl⟩ := List.mem_map.mp hm
    rw [Table.lookup_write hentry, if_pos ((Entries.mem_names_erase hd).mpr ⟨hm, hne⟩), Record.cell,
      Entries.lookup_of_mem hd hentryMem, Option.getD_some]
  · intro column hkept
    have hm : column ∉ Entries.names (Entries.erase table.key data) := by
      rw [Entries.mem_names_erase hd]
      rintro ⟨hm, hne⟩
      exact hkept.elim hne fun hnew => hnew hm
    rw [Table.lookup_write hentry, if_neg hm]

theorem writeRow_of_unknown (hs : service.storage = Table.storage) {k : Value} {column : String}
    (hk : Record.key? row service.id = some k) (hcolumn : table.unknownColumn? changes = some column) :
    (service.writeRow changes row).on table
      = (.error (.storage (TableError.noColumn table.name column).message), table) := by
  have hupdate : table.update k changes = .error (.noColumn table.name column) := by
    rw [Table.update, hcolumn]
  rw [writeRow_of_key hs hk, hupdate]

theorem each_of_error {α β : Type} {f : α → Action Table β} {item : α} {rest : List α} {e : ServiceError}
    (h : (f item).on table = (.error e, table)) : (each f (item :: rest)).on table = (.error e, table) := by
  rw [each, Action.on_bind_error _ h]

theorem patch_matching_of_columns (hs : service.storage = Table.storage) (hkey : service.id = table.key)
    (h : Table.Keyed table) (hq : Query.ofFields query none = .ok q) (hc : Clause.compile q.predicate = .ok clause)
    {data : Record} (hcolumns : ∀ field ∈ Entries.names (Entries.erase service.id data), field ∈ table.columns)
    (params : Params) :
    (service.patch (.matching query) data params).on table
      = (.ok (.many ((q.controls.page (table.satisfying clause)).map (table.write (Entries.erase service.id data)))),
        { table with rows := table.rows.map fun row =>
            if row ∈ q.controls.page (table.satisfying clause) then table.write (Entries.erase service.id data) row
            else row }) := by
  have hkept : ∀ row changed, some (table.write (Entries.erase service.id data) row) = some changed →
      Record.key? changed table.key = Record.key? row table.key := by
    intro row changed hchanged
    cases hchanged
    exact Table.key?_write
  have hpatch := on_report_picked hs hkey h hq hc (service.writeRow (Entries.erase service.id data)) _ _ hkept
    fun rows row hrows hm => writeRow_on hs hkey q.controls hcolumns hrows hm
  rw [Table.reworked_some] at hpatch
  exact hpatch

/-- With a name that is no column the first row fails, so that none is written. -/
theorem patch_matching_of_unknown (hs : service.storage = Table.storage) (hkey : service.id = table.key)
    (h : Table.Keyed table) (hq : Query.ofFields query none = .ok q) (hc : Clause.compile q.predicate = .ok clause)
    {data : Record} {column : String} (hcolumn : table.unknownColumn? (Entries.erase service.id data) = some column)
    (hpage : q.controls.page (table.satisfying clause) ≠ []) (params : Params) :
    (service.patch (.matching query) data params).on table
      = (.error (service.hook (.storage (TableError.noColumn table.name column).message)), table) := by
  obtain ⟨row, rest, hfirst⟩ := List.exists_cons_of_ne_nil hpage
  have hm : row ∈ table.rows := table.mem_of_mem_page q.controls (hfirst ▸ List.mem_cons_self)
  obtain ⟨k, hk⟩ := Option.isSome_iff_exists.mp (h.isSome row hm)
  have hrow : Record.key? (q.controls.shown service.id row) service.id = some k := by
    rw [Controls.key?_shown, hkey, hk]
  have hpatch := on_report_matching hs hq hc (service.writeRow (Entries.erase service.id data)) table
  rw [hfirst, List.map_cons, each_of_error (writeRow_of_unknown hs hrow hcolumn)] at hpatch
  exact hpatch

/-- A patch of the rows that match a query puts the data into just the rows that a find without pages gives for it, whatever
becomes of the query in between, and gives them as they are stored, in the order of the find; all keys, all other rows and
the order of the table stay. If the data name a field that is no column, nothing is changed. -/
theorem patch_matching_on (hs : service.storage = Table.storage) {name : String} {columns : List String}
    {defaults : List (String × Value)} (hr : Table.Reached (Table.opened name service.id columns defaults) table)
    (hd : table.DistinctKeys) (hq : Query.ofFields query none = .ok q) (hc : Clause.compile q.predicate = .ok clause)
    {data : Record} (hdata : Entries.Distinct data) :
    ∃ shown picked, table.Picks q.controls picked shown ∧
      (∀ params : Params, params.query = query → (service.policyOf params).enabled = false →
        (service.find params).on table = (.ok (.rows shown), table)) ∧
      ((∀ field ∈ Entries.names data, field ≠ service.id → field ∈ table.columns) →
        ∃ patched : Record → Record, (∀ row ∈ picked, Patched service.id data row (patched row)) ∧
          ∀ params : Params, (service.patch (.matching query) data params).on table = (.ok (.many (picked.map patched)),
            { table with rows := table.rows.map fun row => if row ∈ picked then patched row else row })) ∧
      ((∃ field ∈ Entries.names data, field ≠ service.id ∧ field ∉ table.columns) → shown ≠ [] →
        ∀ params : Params, ∃ report, (service.patch (.matching query) data params).on table
          = (.error (service.hook (.storage report)), table)) := by
  obtain ⟨hkey, hshaped⟩ := hr.shaped
  have hkeyed : Table.Keyed table := hr.keyed hd
  refine ⟨_, _, Table.picks_page hkeyed q.controls clause, ?_, ?_, ?_⟩
  · rintro params rfl hpolicy
    rw [hkey]
    exact find_on_unpaged hs hq hc hpolicy table
  · intro hcolumns
    have hchanges : ∀ field ∈ Entries.names (Entries.erase service.id data), field ∈ table.columns := by
      intro field hm
      obtain ⟨hm, hne⟩ := (Entries.mem_names_erase hdata).mp hm
      exact hcolumns field hm hne
    refine ⟨_, ?_, fun params => patch_matching_of_columns hs hkey.symm hkeyed hq hc hchanges params⟩
    intro row hm
    have hnames := (hshaped row (table.mem_of_mem_page q.controls hm)).1
    rw [← hkey] at hcolumns ⊢
    exact patched_write hdata fun field hfield hne => hnames ▸ hcolumns field hfield hne
  · rintro ⟨field, hfield, hne, hunknown⟩ hshown params
    have hsome : table.unknownColumn? (Entries.erase service.id data) ≠ none := by
      intro hnone
      have hmem := (Entries.mem_names_erase hdata).mpr ⟨hfield, hne⟩
      exact hunknown (Table.unknownColumn?_eq_none_iff.mp hnone field hmem)
    obtain ⟨column, hcolumn⟩ := Option.ne_none_iff_exists'.mp hsome
    have hpage : q.controls.page (table.satisfying clause) ≠ [] := fun hnil => hshown (by rw [hnil, List.map_nil])
    exact ⟨_, patch_matching_of_unknown hs hkey.symm hkeyed hq hc hcolumn hpage params⟩

end

/-- Ada becomes Eve, although the query shows her number only and does not match her any more; the number stays. A patch of
a field that is no column changes nothing. -/
theorem patch_matching_on_ada :
    (∃ old ∈ people.rows, Patched "id" [("id", .ofInt 9), ("name", .string "Eve")] old
        [("id", .ofInt 1), ("name", .string "Eve")] ∧
      (standard.patch (.matching [("name", .string "Ada"), ("$select", .string "id")])
          [("id", .ofInt 9), ("name", .string "Eve")] .none).on people
        = (.ok (.many [[("id", .ofInt 1), ("name", .string "Eve")]]), { people with
            rows := [[("id", .ofInt 1), ("name", .string "Eve")], [("id", .ofInt 2), ("name", .string "Bo")]] })) ∧
    ∃ report, (standard.patch (.matching [("name", .string "Ada"), ("$select", .string "id")])
      [("age", .ofInt 30)] .none).on people = (.error (.storage report), people) := by
  have hstorage : standard.storage = Table.storage := rfl
  have hquery : Query.ofFields [("name", .string "Ada"), ("$select", .string "id")] none
      = .ok ⟨⟨some ["id"], [], none, none⟩, [("name", .string "Ada")]⟩ := rfl
  constructor
  · have hdistinct : Entries.Distinct [("id", Value.ofInt 9), ("name", .string "Eve")] := by
      unfold Entries.Distinct
      decide
    have hdone : (standard.patch (.matching [("name", .string "Ada"), ("$select", .string "id")])
        [("id", .ofInt 9), ("name", .string "Eve")] .none).on people
      = (.ok (.many [[("id", .ofInt 1), ("name", .string "Eve")]]), { people with
          rows := [[("id", .ofInt 1), ("name", .string "Eve")], [("id", .ofInt 2), ("name", .string "Bo")]] }) := by
      decide +kernel
    obtain ⟨shown, picked, hpicks, _, hwritten, _⟩ :=
      patch_matching_on hstorage people_reached people_distinct hquery rfl hdistinct
    obtain ⟨patched, hpatched, hpatch⟩ := hwritten (by decide)
    have hrecords := congrArg Prod.fst ((hpatch .none).symm.trans hdone)
    injection hrecords with hrecords
    injection hrecords with hrecords
    obtain ⟨old, rfl, hold⟩ := List.map_eq_singleton_iff.mp hrecords
    have hm : old ∈ [old] := List.mem_singleton_self old
    refine ⟨old, ((hpicks.mem_iff old).mp hm).1, ?_, hdone⟩
    rw [← hold]
    exact hpatched old hm
  · have hdistinct : Entries.Distinct [("age", Value.ofInt 30)] := List.nodup_singleton "age"
    obtain ⟨shown, picked, _, hfind, _, hfail⟩ :=
      patch_matching_on hstorage people_reached people_distinct hquery rfl hdistinct
    have hshown : (standard.find ⟨[("name", .string "Ada"), ("$select", .string "id")], none⟩).on people
        = (.ok (.rows [[("id", .ofInt 1)]]), people) := by
      decide +kernel
    have hrows := congrArg Prod.fst ((hfind _ rfl rfl).symm.trans hshown)
    injection hrows with hrows
    injection hrows with hrows
    exact hfail ⟨"age", by decide, by decide, by decide⟩ (by rw [hrows]; exact List.cons_ne_nil _ _) .none

end Service

end RowStore
