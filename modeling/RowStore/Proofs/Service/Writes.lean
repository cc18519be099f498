import RowStore.Proofs.Service.Action
import RowStore.Proofs.Table.Run

/-!
# What services write

A service reaches a table through its storage only, and a storage may fail without having touched the table. Whatever it
gives in the end, an operation has done nothing to the table but a list of writes, and of which kind these are is known
from the operation.
-/

namespace RowStore

set_option autoImplicit false

/-- A storage that holds a table: what is asked of it is done to the table, or fails before. -/
structure Storage.Over {σ : Type} (view : σ → Table) (storage : Storage σ) : Prop where
  count : ∀ plan s, view (storage.count plan s).2 = view s
  fetch : ∀ plan s, view (storage.fetch plan s).2 = view s
  insert : ∀ attributes s, view (storage.insert attributes s).2 = (view s).perform (.insert attributes) ∨
    view (storage.insert attributes s).2 = view s
  update : ∀ id changes s, view (storage.update id changes s).2 = (view s).perform (.update id changes) ∨
    view (storage.update id changes s).2 = view s
  delete : ∀ id s, view (storage.delete id s).2 = (view s).perform (.delete id) ∨
    view (storage.delete id s).2 = view s

namespace Storage

theorem over_storage : Table.storage.Over id where
  count _ _ := rfl
  fetch _ _ := rfl
  insert attributes table := by
    refine .inl ?_
    change (table.replyOf (table.insert attributes)).2 = table.perform (.insert attributes)
    rw [Table.perform]
    cases table.insert attributes <;> rfl
  update id changes table := by
    refine .inl ?_
    change (table.replyOf (table.update id changes)).2 = table.perform (.update id changes)
    rw [Table.perform]
    cases table.update id changes <;> rfl
  delete id table := by
    refine .inl ?_
    change (table.replyOf ((table.delete id).map fun next => ((), next))).2 = table.perform (.delete id)
    rw [Table.perform]
    cases table.delete id <;> rfl

variable {σ : Type} {view : σ → Table} {storage : Storage σ}

/-- A watched request is passed on, or fails before. -/
theorem watch_cases {α : Type} (failures : List Failure) (request : Request) (pass : σ → Reply σ α) (w : Watched σ) :
    (watch failures request pass w).2.state = (pass w.state).2 ∨
      (watch failures request pass w).2.state = w.state := by
  rw [watch]
  cases due? failures request.method (w.requests ++ [request]) with
  | none => exact .inl rfl
  | some report => exact .inr rfl

/-- Watching a storage, and making it fail where it is told to, leaves it one that holds the table. -/
theorem over_watched (h : storage.Over view) (failures : List Failure) :
    (storage.watched failures).Over fun w => view w.state where
  count plan w := by
    rcases watch_cases failures (.count plan) (storage.count plan) w with hstate | hstate
    · exact (congrArg view hstate).trans (h.count plan w.state)
    · exact congrArg view hstate
  fetch plan w := by
    rcases watch_cases failures (.fetch plan) (storage.fetch plan) w with hstate | hstate
    · exact (congrArg view hstate).trans (h.fetch plan w.state)
    · exact congrArg view hstate
  insert attributes w := by
    rcases watch_cases failures (.insert attributes) (storage.insert attributes) w with hstate | hstate
    · exact (h.insert attributes w.state).imp (congrArg view hstate).trans (congrArg view hstate).trans
    · exact .inr (congrArg view hstate)
  update id changes w := by
    rcases watch_cases failures (.update id changes) (storage.update id changes) w with hstate | hstate
    · exact (h.update id changes w.state).imp (congrArg view hstate).trans (congrArg view hstate).trans
    · exact .inr (congrArg view hstate)
  delete id w := by
    rcases watch_cases failures (.delete id) (storage.delete id) w with hstate | hstate
    · exact (h.delete id w.state).imp (congrArg view hstate).trans (congrArg view hstate).trans
    · exact .inr (congrArg view hstate)

end Storage

namespace Service

namespace Action

variable {σ α β : Type} {view : σ → Table} {allowed : Table.Write → Prop}

/-- States of which the second has come from the first by nothing but writes that are allowed. -/
def Written (view : σ → Table) (allowed : Table.Write → Prop) (s s' : σ) : Prop :=
  ∃ writes, (∀ w ∈ writes, allowed w) ∧ view s' = (view s).run writes

theorem written_of_same {s s' : σ} (h : view s' = view s) : Written view allowed s s' :=
  ⟨[], List.forall_mem_nil _, h⟩

instance : IsPreorder σ (Written view allowed) where
  refl _ := written_of_same rfl
  trans _ _ _ := by
    rintro ⟨writes, hwrites, hrun⟩ ⟨more, hmore, hlast⟩
    refine ⟨writes ++ more, List.forall_mem_append.mpr ⟨hwrites, hmore⟩, ?_⟩
    rw [hlast, hrun, Table.run_append]

/-- An action that does nothing to a table but writes that are allowed, whether or not it fails. -/
def Writes (view : σ → Table) (allowed : Table.Write → Prop) (action : Action σ α) : Prop :=
  ∀ s, ∃ writes, (∀ w ∈ writes, allowed w) ∧ view (action.on s).2 = (view s).run writes

theorem writes_of_moves {action : Action σ α} (h : action.Moves (Written view allowed)) :
    action.Writes view allowed := h

theorem written_of_cases {s s' : σ} {w : Table.Write} (hw : allowed w)
    (h : view s' = (view s).perform w ∨ view s' = view s) : Written view allowed s s' := by
  rcases h with hdone | hsame
  · exact ⟨[w], List.forall_mem_singleton.mpr hw, hdone⟩
  · exact written_of_same hsame

end Action

open Service.Action

/-- An operation with what a caller gives along. -/
inductive Operation where
  | find (params : Params)
  | get (id : Value) (params : Params)
  | create (data : OneOrMany Record) (params : Params)
  | patch (target : Target) (data : Record) (params : Params)
  | update (target : Target) (data : Record) (params : Params)
  | remove (target : Target) (params : Params)

variable {σ α : Type} {view : σ → Table} {service : Service σ} {allowed : Table.Write → Prop}

/-- The state that an operation leaves, whether or not it succeeds. -/
def perform (service : Service σ) (op : Operation) (s : σ) : σ :=
  match op with
  | .find params => ((service.find params).on s).2
  | .get id params => ((service.get id params).on s).2
  | .create data params => ((service.create data params).on s).2
  | .patch target data params => ((service.patch target data params).on s).2
  | .update target data params => ((service.update target data params).on s).2
  | .remove target params => ((service.remove target params).on s).2

/-- The writes that may come of an operation. What is written into rows is what the data say of the fields that are not
the key. -/
def Operation.Allows (key : String) (w : Table.Write) : Operation → Prop
  | find _ | get _ _ => False
  | create data _ => ∃ attributes ∈ data.toList, w = .insert attributes
  | patch _ data _ => ∃ id, w = .update id (Entries.erase key data)
  | update _ data _ => ∃ id row, w = .update id (replacement row data key)
  | remove _ _ => ∃ id, w = .delete id

theorem writes_findRows (h : service.storage.Over view) (query : Fields) (policy : Option Policy) :
    (service.findRows query policy).Moves (Written view allowed) :=
  moves_findRows (fun plan s => written_of_same (h.count plan s)) (fun plan s => written_of_same (h.fetch plan s)) _ _

theorem writes_getRow (h : service.storage.Over view) (id : Value) (params : Params) :
    (service.getRow id params).Moves (Written view allowed) :=
  moves_getRow (fun plan s => written_of_same (h.count plan s)) (fun plan s => written_of_same (h.fetch plan s)) _ _

theorem writes_createRow (h : service.storage.Over view) (params : Params) {attributes : Record}
    (hw : allowed (.insert attributes)) : (service.createRow params attributes).Moves (Written view allowed) :=
  (moves_ask fun s => written_of_cases hw (h.insert attributes s)).bind fun id => writes_getRow h id params

theorem writes_writeRow (h : service.storage.Over view) {changes : Record} (hw : ∀ id, allowed (.update id changes))
    (row : Record) : (service.writeRow changes row).Moves (Written view allowed) :=
  (moves_rowKey row).bind fun id => moves_ask fun s => written_of_cases (hw id) (h.update id changes s)

theorem writes_deleteRow (h : service.storage.Over view) (hw : ∀ id, allowed (.delete id)) (row : Record) :
    (service.deleteRow row).Moves (Written view allowed) := by
  refine (moves_rowKey row).bind fun id => ?_
  exact (moves_ask fun s => written_of_cases (hw id) (h.delete id s)).bind fun _ => moves_pure row

theorem writes_create (h : service.storage.Over view) (data : OneOrMany Record) (params : Params)
    (hw : ∀ attributes ∈ data.toList, allowed (.insert attributes)) :
    (service.create data params).Writes view allowed := by
  refine writes_of_moves (moves_report ?_)
  cases data with
  | one attributes => exact (writes_createRow h params (hw attributes List.mem_cons_self)).map OneOrMany.one
  | many items =>
    exact (moves_each fun attributes hm => writes_createRow h params (hw attributes hm)).map OneOrMany.many

/-- The rows that a change applies to are looked for, and then each of them is written. -/
theorem moves_targeted (h : service.storage.Over view) (target : Target) (params : Params)
    {write : Record → Action σ Record} (hwrite : ∀ row, (write row).Moves (Written view allowed)) :
    (match target with
      | .single id => do
        let row ← service.getRow id params
        OneOrMany.one <$> write row
      | .matching query => do
        let found ← service.findRows query none
        OneOrMany.many <$> each write found.rows).Moves (Written view allowed) := by
  cases target with
  | single id => exact (writes_getRow h id params).bind fun row => (hwrite row).map OneOrMany.one
  | matching query =>
    refine (writes_findRows h query none).bind fun found => ?_
    exact (moves_each fun row _ => hwrite row).map OneOrMany.many

theorem writes_patch (h : service.storage.Over view) (target : Target) (data : Record) (params : Params)
    (hw : ∀ id, allowed (.update id (Entries.erase service.id data))) :
    (service.patch target data params).Writes view allowed :=
  writes_of_moves (moves_report (moves_targeted h target params (writes_writeRow h hw)))

theorem writes_update (h : service.storage.Over view) (target : Target) (data : Record) (params : Params)
    (hw : ∀ id row, allowed (.update id (replacement row data service.id))) :
    (service.update target data params).Writes view allowed := by
  refine writes_of_moves (moves_report ?_)
  cases target with
  | single id => exact (writes_getRow h id params).bind fun row => writes_writeRow h (hw · row) row
  | matching query => exact moves_throw _

theorem writes_remove (h : service.storage.Over view) (target : Target) (params : Params)
    (hw : ∀ id, allowed (.delete id)) : (service.remove target params).Writes view allowed :=
  writes_of_moves (moves_report (moves_targeted h target params (writes_deleteRow h hw)))

/-- An operation comes to a list of writes of its kind. -/
theorem exists_writes_perform (h : service.storage.Over view) (op : Operation) (s : σ) :
    ∃ writes, (∀ w ∈ writes, op.Allows service.id w) ∧ view (service.perform op s) = (view s).run writes := by
  cases op with
  | find params => exact moves_report ((writes_findRows h _ _).bind fun found => by split <;> exact moves_pure _) s
  | get id params => exact moves_report (writes_getRow h id params) s
  | create data params => exact writes_create h data params (fun attributes hm => ⟨attributes, hm, rfl⟩) s
  | patch target data params => exact writes_patch h target data params (fun id => ⟨id, rfl⟩) s
  | update target data params => exact writes_update h target data params (fun id row => ⟨id, row, rfl⟩) s
  | remove target params => exact writes_remove h target params (fun id => ⟨id, rfl⟩) s

end Service

end RowStore
