import RowStore.Proofs.Service.Writes
import RowStore.Proofs.Table.Order

/-!
# Tables that can be reached

A new table becomes another one by writes and by operations of services, one after the other. Each of its rows has all
columns and a key at any time; no operation changes the key of a row or the order of those that stay.
-/

namespace RowStore

set_option autoImplicit false

namespace Service

/-- How an operation changes the rows. -/
def Operation.effect : Operation → Table.Effect
  | find _ | get _ _ => .same
  | create _ _ => .appended
  | patch _ _ _ | update _ _ _ => .rewritten
  | remove _ _ => .thinned

variable {σ : Type} {view : σ → Table} {service : Service σ}

/-- Every operation has its effect, even if it stops on its way. -/
theorem relates_perform (h : service.storage.Over view) (op : Operation) (s : σ) :
    op.effect.Relates (view s) (view (service.perform op s)) := by
  obtain ⟨writes, hwrites, hrun⟩ := exists_writes_perform h op s
  rw [hrun]
  -- All writes of an operation are of one kind, whichever of them are made before it stops.
  have hall : ∀ {effect : Table.Effect}, (∀ w, op.Allows service.id w → w.effect = effect) →
      effect.Relates (view s) ((view s).run writes) :=
    fun heffect => Table.relates_run (fun w hm => heffect w (hwrites w hm)) (view s)
  cases op with
  -- Reading allows no write, so any effect would do.
  | find _ | get _ _ => exact hall fun w hw => hw.elim
  | create _ _ =>
    apply hall
    rintro w ⟨_, _, rfl⟩
    rfl
  | patch _ _ _ =>
    apply hall
    rintro w ⟨_, rfl⟩
    rfl
  | update _ _ _ =>
    apply hall
    rintro w ⟨_, _, rfl⟩
    rfl
  | remove _ _ =>
    apply hall
    rintro w ⟨_, rfl⟩
    rfl

end Service

namespace Table

/-- The tables that another one becomes by writes and by operations of any services over storages that hold it. -/
inductive Reached (start : Table) : Table → Prop where
  | start : Reached start start
  | write {table : Table} (w : Write) : Reached start table → Reached start (table.perform w)
  | operation {σ : Type} {view : σ → Table} {service : Service σ} (h : service.storage.Over view)
      (op : Service.Operation) (s : σ) : Reached start (view s) → Reached start (view (service.perform op s))

theorem Reached.run {start table : Table} (h : Reached start table) (writes : List Write) :
    Reached start (table.run writes) := by
  induction writes generalizing table with
  | nil => exact h
  | cons w rest ih => exact ih (.write w h)

theorem Reached.exists_run {start table : Table} (h : Reached start table) : ∃ writes, table = start.run writes := by
  induction h with
  | start => exact ⟨[], rfl⟩
  | write w _ ih =>
    obtain ⟨writes, rfl⟩ := ih
    exact ⟨writes ++ [w], (run_concat start writes w).symm⟩
  | operation h op s _ ih =>
    obtain ⟨writes, hs⟩ := ih
    obtain ⟨more, _, hmore⟩ := Service.exists_writes_perform h op s
    exact ⟨writes ++ more, by rw [hmore, hs, run_append]⟩

theorem Reached.shaped {name key : String} {columns : List String} {defaults : List (String × Value)} {table : Table}
    (h : Reached (opened name key columns defaults) table) : table.key = key ∧ table.Shaped := by
  obtain ⟨writes, rfl⟩ := h.exists_run
  have hkey := (sameFrame_run (opened name key columns defaults) writes).2.1
  rw [opened_eq] at hkey
  exact ⟨by rw [opened_eq]; exact hkey, shaped_run name key columns defaults writes⟩

theorem Reached.columns_eq {name key : String} {columns : List String} {defaults : List (String × Value)} {table : Table}
    (h : Reached (opened name key columns defaults) table) : table.columns = Plan.keyFirst key columns := by
  obtain ⟨writes, rfl⟩ := h.exists_run
  have hcolumns := (sameFrame_run (opened name key columns defaults) writes).2.2.1
  rw [opened_eq] at hcolumns ⊢
  exact hcolumns

theorem Reached.nodup_columns {name key : String} {columns : List String} {defaults : List (String × Value)}
    {table : Table} (h : Reached (opened name key columns defaults) table) : table.columns.Nodup := by
  rw [h.columns_eq, Plan.keyFirst]
  exact nodup_addColumns (List.nodup_singleton key) columns

theorem exists_lookup_of_isSome {row : Record} {key : String} (h : (Record.key? row key).isSome = true) :
    ∃ id, row.lookup key = some id ∧ id ≠ .null := by
  obtain ⟨id, hid⟩ := Option.isSome_iff_exists.mp h
  exact ⟨id, key?_eq_some_iff.mp hid⟩

/-- The rows of every table that a new one becomes have its columns, in their order, and a key. Writes and operations of
services leave the rows that stay in their order, with the keys that they have: an insert or a create puts rows after
them, an update or a patch rewrites rows in their places, and a delete, a clear or a remove takes rows out. -/
theorem reached_keeps_rows (name key : String) (columns : List String) (defaults : List (String × Value))
    {table : Table} (h : Reached (opened name key columns defaults) table) :
    table.key = key ∧ table.columns = Plan.keyFirst key columns ∧ table.columns.Nodup ∧
    (∀ row ∈ table.rows, Entries.names row = table.columns ∧
      ∃ id, row.lookup table.key = some id ∧ id ≠ .null) ∧
    (∀ w : Write, w.effect.Relates table (table.perform w)) ∧
    ∀ {σ : Type} {view : σ → Table} {service : Service σ}, service.storage.Over view →
      ∀ (op : Service.Operation) (s : σ), view s = table → op.effect.Relates table (view (service.perform op s)) := by
  obtain ⟨hkey, hshaped⟩ := h.shaped
  refine ⟨hkey, h.columns_eq, h.nodup_columns, ?_, ?_, ?_⟩
  · intro row hm
    obtain ⟨hnames, hsome⟩ := hshaped row hm
    exact ⟨hnames, exists_lookup_of_isSome hsome⟩
  · intro w
    exact relates_perform _ w
  · intro σ view service hover op s hs
    rw [← hs]
    exact Service.relates_perform hover op s

/-- Two rows are inserted under columns of which some are repeated. Then a patch of all rows, whose data have a key, fails
at the second one: the first is written, and both have the keys they had. -/
theorem reached_keeps_rows_failingPatch :
    let before := (opened "people" "id" ["name", "id", "name"] [("id", .ofInt 9)]).run
      [.insert [("name", .string "Ada")], .insert [("name", .string "Bo")]]
    let service : Service (Storage.Watched Table) :=
      ⟨Table.storage.watched [⟨.update, 2, "disk full"⟩], "id", "people", .off, [], fun e => e⟩
    let after := (service.perform (.patch .everything [("id", .ofInt 7), ("name", .string "Eve")] .none)
      ⟨[], before⟩).state
    after.rows = [[("id", .ofInt 1), ("name", .string "Eve")], [("id", .ofInt 2), ("name", .string "Bo")]] ∧
      (∀ row ∈ after.rows, Entries.names row = ["id", "name"]) ∧
      List.Forall₂ before.Rewritten before.rows after.rows := by
  intro before service after
  have hover : service.storage.Over fun w => w.state := Storage.over_watched Storage.over_storage _
  have hbefore : Reached (opened "people" "id" ["name", "id", "name"] [("id", .ofInt 9)]) before :=
    Reached.start.run _
  have hafter : Reached (opened "people" "id" ["name", "id", "name"] [("id", .ofInt 9)]) after :=
    .operation hover (.patch .everything [("id", .ofInt 7), ("name", .string "Eve")] .none) ⟨[], before⟩ hbefore
  obtain ⟨_, hcolumns, _, hrows, _⟩ := reached_keeps_rows _ _ _ _ hafter
  obtain ⟨_, _, _, _, _, hkept⟩ := reached_keeps_rows _ _ _ _ hbefore
  have hrelates := hkept hover (.patch .everything [("id", .ofInt 7), ("name", .string "Eve")] .none) ⟨[], before⟩ rfl
  refine ⟨by decide +kernel, ?_, hrelates⟩
  intro row hm
  rw [(hrows row hm).1, hcolumns]
  decide

end Table

end RowStore
