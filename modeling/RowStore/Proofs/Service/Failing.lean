import RowStore.Proofs.Service.Hook

/-!
# Changes that fail

A change looks for its rows before it writes, and nothing but a storage makes a write fail. So a change that fails for any
other cause has not asked for a write; and as a storage that fails leaves the table, so does a change of one row, which has
one write to make.
-/

namespace RowStore

set_option autoImplicit false

namespace Storage

variable {σ α : Type} {w w' : Watched σ}

/-- Of two states of a watched storage, what has been asked for between them is counts and fetches, and the state behind
is the same. -/
def Watched.Read (w w' : Watched σ) : Prop :=
  w'.state = w.state ∧ ∃ asked, w'.requests = w.requests ++ asked ∧ ∀ r ∈ asked, r.isWrite = false

instance : IsPreorder (Watched σ) Watched.Read where
  refl w := ⟨rfl, [], (List.append_nil _).symm, List.forall_mem_nil _⟩
  trans _ _ _ := by
    rintro ⟨hstate, asked, hasked, hreads⟩ ⟨hlast, more, hmore, hall⟩
    refine ⟨hlast.trans hstate, asked ++ more, ?_, List.forall_mem_append.mpr ⟨hreads, hall⟩⟩
    rw [hmore, hasked, List.append_assoc]

theorem read_watch {failures : List Failure} {request : Request} {pass : σ → Reply σ α}
    (hread : request.isWrite = false) (hpass : ∀ s, (pass s).2 = s) (w : Watched σ) :
    w.Read (watch failures request pass w).2 := by
  rw [watch]
  cases due? failures request.method (w.requests ++ [request]) with
  | some report => exact ⟨rfl, [request], rfl, List.forall_mem_singleton.mpr hread⟩
  | none => exact ⟨hpass w.state, [request], rfl, List.forall_mem_singleton.mpr hread⟩

/-- Where a failed request leaves the state, so does one that is watched. -/
theorem state_of_watch_error {failures : List Failure} {request : Request} {pass : σ → Reply σ α} {report : String}
    (hpass : ∀ s report s', pass s = (.error report, s') → s' = s)
    (h : watch failures request pass w = (.error report, w')) : w'.state = w.state := by
  rw [watch] at h
  cases hdue : due? failures request.method (w.requests ++ [request]) with
  | some due =>
    rw [hdue] at h
    cases h
    rfl
  | none =>
    rw [hdue] at h
    rcases hreply : pass w.state with ⟨answer, s⟩
    simp only [hreply] at h
    cases h
    exact hpass w.state report s hreply

end Storage

theorem Table.replyOf_error {α : Type} {table next : Table} {outcome : Except TableError (α × Table)} {report : String}
    (h : table.replyOf outcome = (.error report, next)) : next = table := by
  cases outcome with
  | ok result => cases h
  | error e =>
    cases h
    rfl

namespace Service

open Storage (Watched Failure)

section

variable {failures : List Failure} {service : Service (Watched Table)} {w w' : Watched Table} {e : ServiceError}
  {α : Type}

theorem read_count (hs : service.storage = Table.storage.watched failures) (plan : Plan) (w : Watched Table) :
    w.Read (service.storage.count plan w).2 := by
  rw [hs]
  exact Storage.read_watch rfl (fun _ => rfl) w

theorem read_fetch (hs : service.storage = Table.storage.watched failures) (plan : Plan) (w : Watched Table) :
    w.Read (service.storage.fetch plan w).2 := by
  rw [hs]
  exact Storage.read_watch rfl (fun _ => rfl) w

theorem of_ask_watch_error {request : Storage.Request} {pass : Table → Reply Table α}
    (hpass : ∀ s report s', pass s = (.error report, s') → s' = s)
    (h : (ask (Storage.watch failures request pass)).on w = (.error e, w')) :
    e.kind = .storage ∧ w'.state = w.state := by
  obtain ⟨report, rfl, hreply⟩ := Action.of_on_ask_error h
  exact ⟨rfl, Storage.state_of_watch_error hpass hreply⟩

theorem of_rowKey_error {row : Record} {next : Value → Action (Watched Table) α}
    (hnext : ∀ {k}, (next k).on w = (.error e, w') → e.kind = .storage ∧ w'.state = w.state)
    (h : (service.rowKey row >>= next).on w = (.error e, w')) : e.kind = .storage ∧ w'.state = w.state := by
  cases hk : Record.key? row service.id with
  | none =>
    rw [Action.on_bind_error _ (on_rowKey_none hk w)] at h
    cases h
    exact ⟨rfl, rfl⟩
  | some k =>
    rw [Action.on_bind_ok _ (on_rowKey_some hk w)] at h
    exact hnext h

/-- Writing a row fails by the storage, and leaves the table then. -/
theorem of_writeRow_error (hs : service.storage = Table.storage.watched failures) {changes row : Record}
    (h : (service.writeRow changes row).on w = (.error e, w')) : e.kind = .storage ∧ w'.state = w.state := by
  refine of_rowKey_error ?_ h
  intro k hask
  rw [hs] at hask
  exact of_ask_watch_error (fun _ _ _ => Table.replyOf_error) hask

theorem of_deleteRow_error (hs : service.storage = Table.storage.watched failures) {row : Record}
    (h : (service.deleteRow row).on w = (.error e, w')) : e.kind = .storage ∧ w'.state = w.state := by
  refine of_rowKey_error ?_ h
  intro k hdelete
  rw [hs] at hdelete
  rcases Action.of_on_bind_error hdelete with hask | ⟨_, t, _, hpure⟩
  · exact of_ask_watch_error (fun _ _ _ => Table.replyOf_error) hask
  · cases hpure

/-- A row is looked for and then written. If this fails, the table is left; and if it is not for the storage, nothing has
been asked for but the row. -/
theorem of_single_error (hs : service.storage = Table.storage.watched failures) {id : Value} {params : Params}
    {write : Record → Action (Watched Table) α}
    (hwrite : ∀ {row w e w'}, (write row).on w = (.error e, w') → e.kind = .storage ∧ w'.state = w.state)
    (h : (service.getRow id params >>= write).on w = (.error e, w')) :
    (e.kind ≠ .storage → w.Read w') ∧ w'.state = w.state := by
  have hread : w.Read ((service.getRow id params).on w).2 := moves_getRow (read_count hs) (read_fetch hs) id params w
  rcases Action.of_on_bind_error h with herror | ⟨row, t, hrow, herror⟩
  · rw [herror] at hread
    exact ⟨fun _ => hread, hread.1⟩
  · rw [hrow] at hread
    obtain ⟨hkind, hstate⟩ := hwrite herror
    exact ⟨fun hother => absurd hkind hother, hstate.trans hread.1⟩

/-- The rows that match are looked for and then written one by one. If this fails, and not for the storage, nothing has
been asked for but the rows. -/
theorem of_matching_error (hs : service.storage = Table.storage.watched failures) {query : Fields}
    {write : Record → Action (Watched Table) α}
    (hwrite : ∀ {row w e w'}, (write row).on w = (.error e, w') → e.kind = .storage ∧ w'.state = w.state)
    (h : (service.findRows query none >>= fun found => OneOrMany.many <$> each write found.rows).on w
      = (.error e, w')) :
    e.kind ≠ .storage → w.Read w' := by
  intro hother
  have hread : w.Read ((service.findRows query none).on w).2 :=
    moves_findRows (read_count hs) (read_fetch hs) query none w
  rcases Action.of_on_bind_error h with herror | ⟨found, t, _, herror⟩
  · rwa [herror] at hread
  · have hkind : e.kind = .storage :=
      (Action.failsBy_each fun row _ w e w' hrow => (hwrite hrow).1) t e w' (Action.of_on_map_error herror)
    exact absurd hkind hother

/-- What an operation that changes rows is aimed at. -/
def Operation.target? : Operation → Option Target
  | .find _ | .get _ _ | .create _ _ => none
  | .patch target _ _ | .update target _ _ | .remove target _ => some target

theorem change_error (hs : service.storage = Table.storage.watched failures) {op : Operation} {target : Target}
    (ht : op.target? = some target) (h : (service.unhooked.act op).on w = (.error e, w')) :
    (e.kind ≠ .storage → w.Read w') ∧ (target.isBulk = false → w'.state = w.state) := by
  have hsu : service.unhooked.storage = Table.storage.watched failures := hs
  cases op with
  | find _ | get _ _ | create _ _ => cases ht
  | patch _ data params =>
    cases ht
    have hrun := of_unhooked_report_error (Action.of_on_map_error h)
    cases target with
    | single id =>
      obtain ⟨hread, hstate⟩ := of_single_error hsu (fun hone => of_writeRow_error hsu (Action.of_on_map_error hone)) hrun
      exact ⟨hread, fun _ => hstate⟩
    | matching query => exact ⟨of_matching_error hsu (of_writeRow_error hsu) hrun, nofun⟩
  | update _ data params =>
    cases ht
    have hrun := of_unhooked_report_error (Action.of_on_map_error h)
    cases target with
    | single id =>
      obtain ⟨hread, hstate⟩ := of_single_error hsu (of_writeRow_error hsu) hrun
      exact ⟨hread, fun _ => hstate⟩
    | matching query =>
      cases hrun
      exact ⟨fun _ => Std.Refl.refl w, fun _ => rfl⟩
  | remove _ params =>
    cases ht
    have hrun := of_unhooked_report_error (Action.of_on_map_error h)
    cases target with
    | single id =>
      obtain ⟨hread, hstate⟩ := of_single_error hsu (fun hone => of_deleteRow_error hsu (Action.of_on_map_error hone)) hrun
      exact ⟨hread, fun _ => hstate⟩
    | matching query => exact ⟨of_matching_error hsu (of_deleteRow_error hsu) hrun, nofun⟩

/-- A patch, an update or a remove that fails over a table, whatever the storage has been told to fail at. The hook has been
given some error. If that is not of the storage, but says that a row is missing or that the request is faulty, the storage
has been asked to count and to fetch at most. If the change is of a single row, the table is what it was, for any error. A
replacement of several rows is refused with nothing asked. -/
theorem failed_change_on (hs : service.storage = Table.storage.watched failures) {op : Operation} {target : Target}
    (ht : op.target? = some target) (w : Watched Table) :
    (∀ failure w', (service.act op).on w = (.error failure, w') → ∃ e, failure = service.hook e ∧
      (service.unhooked.act op).on w = (.error e, w') ∧
      (e.kind ≠ .storage → w'.state = w.state ∧
        ∃ asked, w'.requests = w.requests ++ asked ∧ ∀ r ∈ asked, r.isWrite = false) ∧
      (target.isBulk = false → w'.state = w.state)) ∧
    ∀ query data params, op = .update (.matching query) data params →
      (service.act op).on w = (.error (service.hook .bulkReplacement), w) := by
  constructor
  · intro failure w' h
    rcases act_cases service op w with ⟨answer, t, _, hok⟩ | ⟨e, t, hplain, herror⟩
    · rw [hok] at h
      cases h
    · rw [herror] at h
      cases h
      exact ⟨e, rfl, hplain, change_error hs ht hplain⟩
  · rintro query data params rfl
    rfl

end

/-- A service whose storage fails at the first update. -/
def failing : Service (Watched Table) :=
  ⟨Table.storage.watched [⟨.update, 1, "disk full"⟩], standardId, standardName, .off, [], fun e => e⟩

/-- A patch of Ada fails at the update and leaves her as she is; and a remove of a row that is not there asks for no
write. -/
theorem failed_change_on_diskFull :
    (∃ w', (failing.act (.patch (.single (.ofInt 1)) [("name", .string "Eve")] .none)).on ⟨[], people⟩
      = (.error (.storage "disk full"), w') ∧ w'.state = people) ∧
    ∃ w', (failing.act (.remove (.single (.ofInt 9)) .none)).on ⟨[], people⟩
      = (.error (.noRecord (.ofInt 9)), w') ∧ w'.state = people ∧ ∀ r ∈ w'.requests, r.isWrite = false := by
  have hs : failing.storage = Table.storage.watched [⟨.update, 1, "disk full"⟩] := rfl
  constructor
  · rcases hrun : (failing.act (.patch (.single (.ofInt 1)) [("name", .string "Eve")] .none)).on ⟨[], people⟩
      with ⟨outcome, w'⟩
    have houtcome : outcome = .error (.storage "disk full") :=
      (congrArg Prod.fst hrun).symm.trans (by decide +kernel)
    subst houtcome
    obtain ⟨_, _, _, _, hsingle⟩ := (failed_change_on hs rfl ⟨[], people⟩).1 _ _ hrun
    exact ⟨w', rfl, hsingle rfl⟩
  · rcases hrun : (failing.act (.remove (.single (.ofInt 9)) .none)).on ⟨[], people⟩ with ⟨outcome, w'⟩
    have houtcome : outcome = .error (.noRecord (.ofInt 9)) := (congrArg Prod.fst hrun).symm.trans (by decide +kernel)
    subst houtcome
    obtain ⟨e, he, _, hother, _⟩ := (failed_change_on hs rfl ⟨[], people⟩).1 _ _ hrun
    have hkind : e.kind = .notFound := congrArg ServiceError.kind he.symm
    obtain ⟨hstate, asked, hasked, hreads⟩ := hother (by rw [hkind]; decide)
    rw [List.nil_append] at hasked
    exact ⟨w', rfl, hstate, hasked ▸ hreads⟩

end Service

end RowStore
