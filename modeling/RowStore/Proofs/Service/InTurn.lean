import RowStore.Proofs.Service.Failing

/-!
# Rows in turn

A change of several rows goes through them in their order, each row from where the one before it has left off, and ends
with the first that fails. So the writes that are asked for are those of the rows up to there, and the table has been
changed by the rows before it; a record that is inserted and then not found stays as well.
-/

namespace RowStore

set_option autoImplicit false

namespace Storage

/-- The change of a table that a request asks for. -/
def Request.write? : Request → Option Table.Write
  | count _ | fetch _ => none
  | insert attributes => some (.insert attributes)
  | update id changes => some (.update id changes)
  | delete id => some (.delete id)

end Storage

theorem Table.of_replyOf_ok {α : Type} {table next : Table} {outcome : Except TableError (α × Table)} {a : α}
    (h : table.replyOf outcome = (.ok a, next)) : outcome = .ok (a, next) := by
  cases outcome with
  | ok result =>
    cases h
    rfl
  | error e => cases h

namespace Service

open Storage (Watched Failure Request)

namespace Action

variable {σ α β : Type} {f : α → Action σ β} {items : List α} {results : List β} {s s' : σ}
  {e : ServiceError}

/-- Items in turn, each from where the one before it has left off, with what they give. -/
inductive Ran (f : α → Action σ β) : List α → σ → List β → σ → Prop where
  | nil (s : σ) : Ran f [] s [] s
  | cons {item : α} {rest : List α} {result : β} {results : List β} {s t u : σ} :
      (f item).on s = (.ok result, t) → Ran f rest t results u → Ran f (item :: rest) s (result :: results) u

theorem Ran.length_eq (h : Ran f items s results s') : results.length = items.length := by
  induction h with
  | nil s => rfl
  | cons _ _ ih => simp [ih]

theorem on_each_ok_iff : (each f items).on s = (.ok results, s') ↔ Ran f items s results s' := by
  constructor
  · intro h
    induction items generalizing s results with
    | nil =>
      cases h
      exact .nil _
    | cons item rest ih =>
      obtain ⟨result, t, hitem, hrest⟩ := of_on_bind_ok h
      obtain ⟨more, u, hmore, hpure⟩ := of_on_bind_ok hrest
      cases hpure
      exact .cons hitem (ih hmore)
  · intro h
    induction h with
    | nil s => rfl
    | cons hitem _ ih =>
      rw [each, on_bind_ok _ hitem, on_bind_ok _ ih]
      rfl

/-- Of the items that are gone through in turn, one fails, from where all items before it have led. -/
theorem on_each_error_iff : (each f items).on s = (.error e, s') ↔
    ∃ before item after, ∃ (done : List β) (t : σ), items = before ++ item :: after ∧ Ran f before s done t ∧
      (f item).on t = (.error e, s') := by
  constructor
  · intro h
    induction items generalizing s with
    | nil => cases h
    | cons item rest ih =>
      rcases of_on_bind_error h with hitem | ⟨result, t, hitem, hrest⟩
      · exact ⟨[], item, rest, [], s, rfl, .nil s, hitem⟩
      · rcases of_on_bind_error hrest with hmore | ⟨_, _, _, hpure⟩
        · obtain ⟨before, failing, after, done, u, rfl, hran, hfails⟩ := ih hmore
          exact ⟨item :: before, failing, after, result :: done, u, rfl, .cons hitem hran, hfails⟩
        · cases hpure
  · rintro ⟨before, item, after, done, t, rfl, hran, hfails⟩
    induction hran with
    | nil s => rw [List.nil_append, each, on_bind_error _ hfails]
    | cons hfirst _ ih => rw [List.cons_append, each, on_bind_ok _ hfirst, on_bind_error _ (ih hfails)]

end Action

open Service.Action (Ran)

/-- A change of several rows: of those that are given, or of those that match a query. -/
inductive Bulk where
  | create (items : List Record) (params : Params)
  | patch (query : Fields) (data : Record) (params : Params)
  | remove (query : Fields) (params : Params)

namespace Bulk

variable {σ : Type}

def operation : Bulk → Operation
  | create items params => .create (.many items) params
  | patch query data params => .patch (.matching query) data params
  | remove query params => .remove (.matching query) params

/-- The rows that are to be changed, in their order. -/
def targets (service : Service σ) : Bulk → Action σ (List Record)
  | create items _ => pure items
  | patch query _ _ | remove query _ => Fetched.rows <$> service.findRows query none

def step (service : Service σ) : Bulk → Record → Action σ Record
  | create _ params => service.createRow params
  | patch _ data _ => service.writeRow (Entries.erase service.id data)
  | remove _ _ => service.deleteRow

/-- The request that changes a row. A row without a key cannot be changed. -/
def request? (key : String) (row : Record) : Bulk → Option Request
  | create _ _ => some (.insert row)
  | patch _ data _ => (Record.key? row key).map fun id => .update id (Entries.erase key data)
  | remove _ _ => (Record.key? row key).map .delete

/-- Whether a row is read again after it has been changed. -/
def readsBack : Bulk → Bool
  | create _ _ => true
  | patch _ _ _ | remove _ _ => false

/-- What is asked of a storage while some rows are changed: their requests, in their order, and nothing else but what
is read back. -/
def Asked (bulk : Bulk) (key : String) (rows : List Record) (w w' : Watched Table) : Prop :=
  ∃ asked, w'.requests = w.requests ++ asked ∧ asked.filter Request.isWrite = rows.filterMap (bulk.request? key) ∧
    (bulk.readsBack = false → ∀ r ∈ asked, r.isWrite = true)

/-- All rows have been changed, and there is a result for each. -/
structure Completes (bulk : Bulk) (service : Service (Watched Table)) (rows : List Record) (w : Watched Table)
    (records : List Record) (w' : Watched Table) : Prop where
  ran : Ran (bulk.step service) rows w records w'
  length_eq : records.length = rows.length
  state_eq : w'.state = w.state.run ((rows.filterMap (bulk.request? service.id)).filterMap Request.write?)
  asked : bulk.Asked service.id rows w w'

/-- The rows before one have been changed, and this one fails: it leaves the table, unless it is a record that has been
inserted and is not found again. -/
structure Stops (bulk : Bulk) (service : Service (Watched Table)) (before : List Record) (row : Record)
    (w : Watched Table) (e : ServiceError) (w' : Watched Table) : Prop where
  failed : ∃ done t, bulk.Completes service before w done t ∧ (bulk.step service row).on t = (.error e, w') ∧
    (w'.state = t.state ∨ ∃ items params id, bulk = .create items params ∧ t.state.insert row = .ok (id, w'.state) ∧
      (service.getRow id params).on ⟨t.requests ++ [.insert row], w'.state⟩ = (.error e, w'))
  asked : bulk.Asked service.id (before ++ [row]) w w'

variable {bulk : Bulk} {key : String} {rows more : List Record} {w t u : Watched Table}

theorem Asked.nil (bulk : Bulk) (key : String) (w : Watched Table) : bulk.Asked key [] w w :=
  ⟨[], (List.append_nil _).symm, rfl, fun _ => List.forall_mem_nil _⟩

theorem Asked.append (h : bulk.Asked key rows w t) (h' : bulk.Asked key more t u) :
    bulk.Asked key (rows ++ more) w u := by
  obtain ⟨asked, hasked, hwrites, honly⟩ := h
  obtain ⟨later, hlater, hmore, hlast⟩ := h'
  refine ⟨asked ++ later, ?_, ?_, ?_⟩
  · rw [hlater, hasked, List.append_assoc]
  · rw [List.filter_append, List.filterMap_append, hwrites, hmore]
  · exact fun hnever => List.forall_mem_append.mpr ⟨honly hnever, hlast hnever⟩

end Bulk

section

variable {failures : List Failure} {service : Service (Watched Table)} {w t w' : Watched Table} {row record : Record}
  {e : ServiceError} {bulk : Bulk} {rows records : List Record}

/-- A watched request is written down, whether it is answered or fails; then it leaves the table. -/
theorem ask_watch_cases {α : Type} (failures : List Failure) (request : Request) {pass : Table → Reply Table α}
    (hpass : ∀ s report s', pass s = (.error report, s') → s' = s) (w : Watched Table) :
    (∃ a s, pass w.state = (.ok a, s) ∧
      (ask (Storage.watch failures request pass)).on w = (.ok a, ⟨w.requests ++ [request], s⟩)) ∨
    ∃ e, (ask (Storage.watch failures request pass)).on w = (.error e, ⟨w.requests ++ [request], w.state⟩) := by
  cases hdue : Storage.due? failures request.method (w.requests ++ [request]) with
  | some report =>
    refine .inr ⟨.storage report, Action.on_ask_error ?_⟩
    rw [Storage.watch, hdue]
  | none =>
    rcases hreply : pass w.state with ⟨answer, s⟩
    have hwatch : Storage.watch failures request pass w = (answer, ⟨w.requests ++ [request], s⟩) := by
      simp only [Storage.watch, hdue, hreply]
    cases answer with
    | ok a => exact .inl ⟨a, s, rfl, Action.on_ask_ok hwatch⟩
    | error report =>
      obtain rfl := hpass _ _ _ hreply
      exact .inr ⟨.storage report, Action.on_ask_error hwatch⟩

/-- A record is inserted and looked for, or it is not inserted. -/
theorem createRow_cases (hs : service.storage = Table.storage.watched failures) (params : Params) (row : Record)
    (w : Watched Table) :
    (∃ id next, w.state.insert row = .ok (id, next) ∧
      (service.createRow params row).on w = (service.getRow id params).on ⟨w.requests ++ [.insert row], next⟩) ∨
    ∃ e, (service.createRow params row).on w = (.error e, ⟨w.requests ++ [.insert row], w.state⟩) := by
  have hinsert : service.storage.insert row = Storage.watch failures (.insert row) (Table.storage.insert row) := by
    rw [hs]
    rfl
  rw [createRow, hinsert]
  rcases ask_watch_cases failures (.insert row) (fun _ _ _ => Table.replyOf_error) w with ⟨id, s, hpass, hon⟩ | ⟨e, hon⟩
  · exact .inl ⟨id, s, Table.of_replyOf_ok hpass, Action.on_bind_ok _ hon⟩
  · exact .inr ⟨e, Action.on_bind_error _ hon⟩

/-- A row is changed by one request with its key, which fails with the table as it was; without a key nothing is
asked. -/
theorem writeRow_cases (hs : service.storage = Table.storage.watched failures) (changes row : Record)
    (w : Watched Table) :
    (∃ id record next, Record.key? row service.id = some id ∧ w.state.update id changes = .ok (record, next) ∧
      (service.writeRow changes row).on w = (.ok record, ⟨w.requests ++ [.update id changes], next⟩)) ∨
    ∃ e, (service.writeRow changes row).on w
      = (.error e, ⟨w.requests ++ ((Record.key? row service.id).map (.update · changes)).toList, w.state⟩) := by
  cases hk : Record.key? row service.id with
  | none =>
    refine .inr ⟨.noKey service.id, ?_⟩
    rw [writeRow, Action.on_bind_error _ (on_rowKey_none hk w)]
    simp
  | some id =>
    have hupdate : service.storage.update id changes
        = Storage.watch failures (.update id changes) (Table.storage.update id changes) := by
      rw [hs]
      rfl
    rw [writeRow, Action.on_bind_ok _ (on_rowKey_some hk w), hupdate]
    rcases ask_watch_cases failures (.update id changes) (fun _ _ _ => Table.replyOf_error) w with
      ⟨record, s, hpass, hon⟩ | ⟨e, hon⟩
    · exact .inl ⟨id, record, s, rfl, Table.of_replyOf_ok hpass, hon⟩
    · exact .inr ⟨e, hon⟩

theorem deleteRow_cases (hs : service.storage = Table.storage.watched failures) (row : Record) (w : Watched Table) :
    (∃ id next, Record.key? row service.id = some id ∧ w.state.delete id = .ok next ∧
      (service.deleteRow row).on w = (.ok row, ⟨w.requests ++ [.delete id], next⟩)) ∨
    ∃ e, (service.deleteRow row).on w
      = (.error e, ⟨w.requests ++ ((Record.key? row service.id).map .delete).toList, w.state⟩) := by
  cases hk : Record.key? row service.id with
  | none =>
    refine .inr ⟨.noKey service.id, ?_⟩
    rw [deleteRow, Action.on_bind_error _ (on_rowKey_none hk w)]
    simp
  | some id =>
    have hdelete : service.storage.delete id = Storage.watch failures (.delete id) (Table.storage.delete id) := by
      rw [hs]
      rfl
    rw [deleteRow, Action.on_bind_ok _ (on_rowKey_some hk w), hdelete]
    rcases ask_watch_cases failures (.delete id) (fun _ _ _ => Table.replyOf_error) w with
      ⟨_, s, hpass, hon⟩ | ⟨e, hon⟩
    · refine .inl ⟨id, s, rfl, ?_, Action.on_bind_ok _ hon⟩
      have hmap := Table.of_replyOf_ok hpass
      cases hdone : w.state.delete id with
      | error e =>
        rw [hdone] at hmap
        cases hmap
      | ok next =>
        rw [hdone] at hmap
        cases hmap
        rfl
    · exact .inr ⟨e, Action.on_bind_error _ hon⟩

/-- The change of one row: it is done and gives a record, or it fails. -/
theorem step_cases (hs : service.storage = Table.storage.watched failures) (bulk : Bulk) (row : Record)
    (t : Watched Table) :
    (∃ record t', (bulk.step service row).on t = (.ok record, t') ∧ bulk.Asked service.id [row] t t' ∧
      t'.state = t.state.run (([row].filterMap (bulk.request? service.id)).filterMap Request.write?)) ∨
    ∃ e t', (bulk.step service row).on t = (.error e, t') ∧ bulk.Asked service.id [row] t t' ∧
      (t'.state = t.state ∨ ∃ items params id, bulk = .create items params ∧ t.state.insert row = .ok (id, t'.state) ∧
        (service.getRow id params).on ⟨t.requests ++ [.insert row], t'.state⟩ = (.error e, t')) := by
  cases bulk with
  | create items params =>
    rcases createRow_cases hs params row t with ⟨id, next, hinsert, hon⟩ | ⟨e, hon⟩
    · -- What is asked after the insert is reads, so that the table stays as the insert has left it.
      obtain ⟨hstate, asked, hasked, hreads⟩ :=
        moves_getRow (read_count hs) (read_fetch hs) id params ⟨t.requests ++ [.insert row], next⟩
      have hall : Bulk.Asked (.create items params) service.id [row] t
          ((service.getRow id params).on ⟨t.requests ++ [.insert row], next⟩).2 := by
        refine ⟨.insert row :: asked, by simpa using hasked, ?_, fun hnever => by cases hnever⟩
        have hnone : asked.filter Request.isWrite = [] :=
          List.filter_eq_nil_iff.mpr fun r hr => Bool.eq_false_iff.mp (hreads r hr)
        rw [List.filter_cons_of_pos rfl, hnone]
        rfl
      rcases hget : (service.getRow id params).on ⟨t.requests ++ [.insert row], next⟩ with ⟨outcome, t'⟩
      rw [hget] at hstate hall hon
      obtain rfl : t'.state = next := hstate
      cases outcome with
      | ok record =>
        refine .inl ⟨record, t', hon, hall, ?_⟩
        change _ = t.state.perform (.insert row)
        rw [Table.perform, hinsert]
      | error e => exact .inr ⟨e, t', hon, hall, .inr ⟨items, params, id, rfl, hinsert, hget⟩⟩
    · exact .inr ⟨e, _, hon, ⟨[.insert row], rfl, rfl, fun hnever => by cases hnever⟩, .inl rfl⟩
  | patch query data params =>
    rcases writeRow_cases hs (Entries.erase service.id data) row t with ⟨id, record, next, hk, hupdate, hon⟩ | ⟨e, hon⟩
    · refine .inl ⟨record, _, hon, ⟨[.update id (Entries.erase service.id data)], rfl, ?_, ?_⟩, ?_⟩
      · simp [Bulk.request?, hk, Request.isWrite]
      · simp [Request.isWrite]
      · simp [Bulk.request?, hk, Request.write?, Table.run, Table.perform, hupdate]
    · refine .inr ⟨e, _, hon, ⟨_, rfl, ?_, ?_⟩, .inl rfl⟩
      · cases hk : Record.key? row service.id <;> simp [Bulk.request?, hk, Request.isWrite]
      · cases Record.key? row service.id <;> simp [Request.isWrite]
  | remove query params =>
    rcases deleteRow_cases hs row t with ⟨id, next, hk, hdelete, hon⟩ | ⟨e, hon⟩
    · refine .inl ⟨row, _, hon, ⟨[.delete id], rfl, ?_, ?_⟩, ?_⟩
      · simp [Bulk.request?, hk, Request.isWrite]
      · simp [Request.isWrite]
      · simp [Bulk.request?, hk, Request.write?, Table.run, Table.perform, hdelete]
    · refine .inr ⟨e, _, hon, ⟨_, rfl, ?_, ?_⟩, .inl rfl⟩
      · cases hk : Record.key? row service.id <;> simp [Bulk.request?, hk, Request.isWrite]
      · cases Record.key? row service.id <;> simp [Request.isWrite]

/-- What the rows that are changed one after the other come to, by what each of them does. -/
theorem completes_of_ran (hs : service.storage = Table.storage.watched failures)
    (h : Ran (bulk.step service) rows w records w') : bulk.Completes service rows w records w' := by
  have hmoved : w'.state = w.state.run ((rows.filterMap (bulk.request? service.id)).filterMap Request.write?) ∧
      bulk.Asked service.id rows w w' := by
    induction h with
    | nil s => exact ⟨rfl, .nil bulk service.id s⟩
    | @cons row rest record records s t u hrow _ ih =>
      rcases step_cases hs bulk row s with ⟨_, _, hon, hasked, hstate⟩ | ⟨_, _, hon, _⟩
      · rw [hrow] at hon
        cases hon
        refine ⟨?_, hasked.append ih.2⟩
        rw [ih.1, hstate, ← Table.run_append, ← List.filterMap_append, ← List.filterMap_append, List.singleton_append]
      · rw [hrow] at hon
        cases hon
  exact ⟨h, h.length_eq, hmoved.1, hmoved.2⟩

theorem stops_iff (hs : service.storage = Table.storage.watched failures) {before : List Record} :
    bulk.Stops service before row w e w' ↔
      ∃ done t, Ran (bulk.step service) before w done t ∧ (bulk.step service row).on t = (.error e, w') := by
  constructor
  · rintro ⟨⟨done, t, hdone, hfails, _⟩, _⟩
    exact ⟨done, t, hdone.ran, hfails⟩
  · rintro ⟨done, t, hran, hfails⟩
    have hdone := completes_of_ran hs hran
    rcases step_cases hs bulk row t with ⟨_, _, hon, _⟩ | ⟨_, _, hon, hasked, hstate⟩
    · rw [hfails] at hon
      cases hon
    · rw [hfails] at hon
      cases hon
      exact ⟨⟨done, t, hdone, hfails, hstate⟩, hdone.asked.append hasked⟩

/-- When its rows are known, a change of several rows goes through them in turn. -/
theorem act_bulk_on (bulk : Bulk) (hrows : (bulk.targets service).on w = (.ok rows, t)) :
    (service.act bulk.operation).on w = match (each (bulk.step service) rows).on t with
      | (.ok records, u) => (.ok (.records (.many records)), u)
      | (.error e, u) => (.error (service.hook e), u) := by
  -- Rows that are looked for come from a search that has succeeded, and the change goes on from there.
  have hfound : ∀ {query : Fields} {f : Record → Action (Watched Table) Record},
      (Fetched.rows <$> service.findRows query none).on w = (.ok rows, t) →
      (service.findRows query none >>= fun found => OneOrMany.many <$> each f found.rows).on w
        = (OneOrMany.many <$> each f rows).on t := by
    intro query f h
    rw [Action.on_map] at h
    rcases hfind : (service.findRows query none).on w with ⟨outcome, u⟩
    rw [hfind] at h
    cases outcome with
    | error e => cases h
    | ok found =>
      cases h
      exact Action.on_bind_ok _ hfind
  have hreport : ∀ {action : Action (Watched Table) (OneOrMany Record)},
      action.on w = (OneOrMany.many <$> each (bulk.step service) rows).on t →
      (Answer.records <$> service.report action).on w = match (each (bulk.step service) rows).on t with
        | (.ok records, u) => (.ok (.records (.many records)), u)
        | (.error e, u) => (.error (service.hook e), u) := by
    intro action h
    rw [Action.on_map, on_report, h, Action.on_map]
    rcases (each (bulk.step service) rows).on t with ⟨outcome, u⟩
    cases outcome <;> rfl
  cases bulk with
  | create items params =>
    cases hrows
    exact hreport rfl
  | patch query data params => exact hreport (hfound hrows)
  | remove query params => exact hreport (hfound hrows)

end

section

variable {σ : Type} {service : Service σ}

/-- Records created one by one, each by a create of its own, up to the first that fails. -/
def createInTurn (service : Service σ) (params : Params) : List Record → σ → Except ServiceError (List Record) × σ
  | [], s => (.ok [], s)
  | item :: rest, s =>
    match (service.create (.one item) params).on s with
    | (.error e, t) => (.error e, t)
    | (.ok data, t) =>
      match service.createInTurn params rest t with
      | (.ok records, u) => (.ok (data.toList ++ records), u)
      | (.error e, u) => (.error e, u)

theorem createInTurn_eq (params : Params) (items : List Record) (s : σ) :
    service.createInTurn params items s = match (each (service.createRow params) items).on s with
      | (.ok records, t) => (.ok records, t)
      | (.error e, t) => (.error (service.hook e), t) := by
  induction items generalizing s with
  | nil => rfl
  | cons item rest ih =>
    rw [createInTurn, create, on_report, Action.on_map, each, Action.on_bind]
    rcases (service.createRow params item).on s with ⟨outcome, t⟩
    cases outcome with
    | error e => rfl
    | ok record =>
      simp only [ih, Action.on_bind]
      rcases (each (service.createRow params) rest).on t with ⟨outcome, u⟩
      cases outcome <;> rfl

/-- A create of several records does what a create of each of them does in turn. -/
theorem create_many_on (params : Params) (items : List Record) (s : σ) :
    (service.create (.many items) params).on s
      = (service.createInTurn params items s).map (Except.map OneOrMany.many) fun s => s := by
  rw [createInTurn_eq, create, on_report, Action.on_map]
  rcases (each (service.createRow params) items).on s with ⟨outcome, t⟩
  cases outcome <;> rfl

end

/-- A change of several rows over a table, whatever the storage has been told to fail at, when its rows are known: those
that are given, or those that have been found. Either it changes all of them and gives a result for each, in their order.
Or it stops at one: the rows before have been changed, each from where the one before it has left off; this one fails, and
its failure alone, through the hook, is that of the whole change; nothing is asked for later rows, and the failing row
leaves the table, unless it is a record that has been inserted and is not found again. A create of several records comes
to creates of one record each, up to the first that fails. -/
theorem bulk_on_iff {failures : List Failure} {service : Service (Watched Table)}
    (hs : service.storage = Table.storage.watched failures) (bulk : Bulk) {w start : Watched Table} {rows : List Record}
    (hrows : (bulk.targets service).on w = (.ok rows, start)) :
    (∀ outcome w', (service.act bulk.operation).on w = (outcome, w') ↔
      (∃ records, outcome = .ok (.records (.many records)) ∧ bulk.Completes service rows start records w') ∨
      ∃ before row after e, rows = before ++ row :: after ∧ outcome = .error (service.hook e) ∧
        bulk.Stops service before row start e w') ∧
    ∀ (params : Params) (items : List Record) (w : Watched Table),
      (service.create (.many items) params).on w
        = (service.createInTurn params items w).map (Except.map OneOrMany.many) fun s => s := by
  refine ⟨?_, create_many_on⟩
  intro outcome w'
  rw [act_bulk_on bulk hrows]
  rcases heach : (each (bulk.step service) rows).on start with ⟨result, u⟩
  cases result with
  | ok records =>
    have hran := Action.on_each_ok_iff.mp heach
    constructor
    · intro h
      cases h
      exact .inl ⟨records, rfl, completes_of_ran hs hran⟩
    · rintro (⟨others, rfl, hothers⟩ | ⟨before, row, after, e, hsplit, rfl, hstops⟩)
      · have h := Action.on_each_ok_iff.mpr hothers.ran
        rw [heach] at h
        cases h
        rfl
      · obtain ⟨done, t, hdone, hfails⟩ := (stops_iff hs).mp hstops
        have h := Action.on_each_error_iff.mpr ⟨before, row, after, done, t, hsplit, hdone, hfails⟩
        rw [heach] at h
        cases h
  | error e =>
    obtain ⟨before, row, after, done, t, hsplit, hdone, hfails⟩ := Action.on_each_error_iff.mp heach
    constructor
    · intro h
      cases h
      exact .inr ⟨before, row, after, e, hsplit, rfl, (stops_iff hs).mpr ⟨done, t, hdone, hfails⟩⟩
    · rintro (⟨records, rfl, hall⟩ | ⟨before, row, after, e, hsplit, rfl, hstops⟩)
      · have h := Action.on_each_ok_iff.mpr hall.ran
        rw [heach] at h
        cases h
      · obtain ⟨done, t, hdone, hfails⟩ := (stops_iff hs).mp hstops
        have h := Action.on_each_error_iff.mpr ⟨before, row, after, done, t, hsplit, hdone, hfails⟩
        rw [heach] at h
        cases h
        rfl

/-- Of three rows that are patched, the second fails: the first is written, and the third is not asked for. -/
theorem bulk_on_iff_diskFull :
    let service : Service (Watched Table) :=
      ⟨Table.storage.watched [⟨.update, 2, "disk full"⟩], standardId, standardName, .off, [], fun e => e⟩
    let table := people.perform (.insert [("name", .string "Cy")])
    let bulk : Bulk := .patch [] [("name", .string "Eve")] .none
    ∃ start w', (bulk.targets service).on ⟨[], table⟩ = (.ok table.rows, start) ∧
      (service.act bulk.operation).on ⟨[], table⟩ = (.error (.storage "disk full"), w') ∧
      (∃ before row after, table.rows = before ++ row :: after ∧
        bulk.Stops service before row start (.storage "disk full") w') ∧
      w'.state.rows = [[("id", .ofInt 1), ("name", .string "Eve")], [("id", .ofInt 2), ("name", .string "Bo")],
        [("id", .ofInt 3), ("name", .string "Cy")]] ∧
      (w'.requests.filter Request.isWrite).length = 2 := by
  intro service table bulk
  have hs : service.storage = Table.storage.watched [⟨.update, 2, "disk full"⟩] := rfl
  rcases hstart : (bulk.targets service).on ⟨[], table⟩ with ⟨found, start⟩
  have hfound : found = .ok table.rows := (congrArg Prod.fst hstart).symm.trans (by decide +kernel)
  rcases hrun : (service.act bulk.operation).on ⟨[], table⟩ with ⟨outcome, w'⟩
  have houtcome : outcome = .error (.storage "disk full") := (congrArg Prod.fst hrun).symm.trans (by decide +kernel)
  have hrows : w'.state.rows = [[("id", .ofInt 1), ("name", .string "Eve")], [("id", .ofInt 2), ("name", .string "Bo")],
      [("id", .ofInt 3), ("name", .string "Cy")]] :=
    (congrArg (fun r => r.2.state.rows) hrun).symm.trans (by decide +kernel)
  have hasked : (w'.requests.filter Request.isWrite).length = 2 :=
    (congrArg (fun r => (r.2.requests.filter Request.isWrite).length) hrun).symm.trans (by decide +kernel)
  subst hfound houtcome
  rcases ((bulk_on_iff hs bulk hstart).1 _ w').mp hrun with ⟨_, hok, _⟩ | ⟨before, row, after, e, hsplit, he, hstops⟩
  · cases hok
  · cases he
    exact ⟨start, w', rfl, rfl, ⟨before, row, after, hsplit, hstops⟩, hrows, hasked⟩

end Service

end RowStore
