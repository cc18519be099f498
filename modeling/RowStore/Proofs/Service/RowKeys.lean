import RowStore.Proofs.Query.Plans
import RowStore.Proofs.Service.Bulk
import RowStore.Proofs.Service.Failing

/-!
# The keys of fetched rows

A row is written or taken out by the key that it is shown with. Every plan shows the key, and every row of a table has one,
so that no change fails for want of it: what it fails of, the storage has said.
-/

namespace RowStore

set_option autoImplicit false

namespace Storage

variable {σ : Type} {view : σ → Table} {storage : Storage σ} {report : String}

/-- A storage that gives the rows of the table that it holds, if it gives any. -/
def Shows (view : σ → Table) (storage : Storage σ) : Prop :=
  ∀ plan s rows s', storage.fetch plan s = (.ok rows, s') → rows = (view s).fetch plan

theorem shows_storage : Table.storage.Shows id := by
  intro plan s rows s' h
  cases h
  rfl

theorem shows_watched (h : storage.Shows view) (failures : List Failure) :
    (storage.watched failures).Shows fun w => view w.state := by
  intro plan w rows w' hfetch
  change watch failures (.fetch plan) (storage.fetch plan) w = (.ok rows, w') at hfetch
  rw [watch] at hfetch
  split at hfetch
  · cases hfetch
  · rcases hreply : storage.fetch plan w.state with ⟨answer, s⟩
    simp only [hreply] at hfetch
    cases hfetch
    exact h plan w.state rows s hreply

/-- The reports with which the requests of a storage fail. -/
inductive Reports (storage : Storage σ) (report : String) : Prop where
  | count {plan : Plan} {s s' : σ} (h : storage.count plan s = (.error report, s'))
  | fetch {plan : Plan} {s s' : σ} (h : storage.fetch plan s = (.error report, s'))
  | insert {attributes : Record} {s s' : σ} (h : storage.insert attributes s = (.error report, s'))
  | update {id : Value} {changes : Record} {s s' : σ} (h : storage.update id changes s = (.error report, s'))
  | delete {id : Value} {s s' : σ} (h : storage.delete id s = (.error report, s'))

theorem exists_of_reports (h : Table.storage.Reports report) : ∃ e : TableError, report = e.message := by
  have hreply : ∀ {α : Type} {table next : Table} {outcome : Except TableError (α × Table)},
      table.replyOf outcome = (.error report, next) → ∃ e : TableError, report = e.message := by
    intro α table next outcome hreply
    cases outcome with
    | ok result => cases hreply
    | error e =>
      cases hreply
      exact ⟨e, rfl⟩
  cases h with
  | count h => cases h
  | fetch h => cases h
  | insert h => exact hreply h
  | update h => exact hreply h
  | delete h => exact hreply h

theorem head?_toList_append {a b : String} {c : Char} (h : a.toList.head? = some c) : (a ++ b).toList.head? = some c := by
  rw [String.toList_append, List.head?_append, h, Option.some_or]

theorem head?_message (e : TableError) : e.message.toList.head? = some 't' ∨ e.message.toList.head? = some 'U' ∨
    e.message.toList.head? = some 'n' := by
  cases e with
  | noColumn table column => exact .inl (head?_toList_append (head?_toList_append (head?_toList_append (by simp))))
  | keyTaken table key => exact .inr (.inl (head?_toList_append (head?_toList_append (head?_toList_append (by simp)))))
  | noRow table key id =>
    exact .inr (.inr (head?_toList_append (head?_toList_append (head?_toList_append (head?_toList_append
      (head?_toList_append (by simp)))))))

/-- A table does not speak of rows without a key. -/
theorem not_reports_noKey (key : String) (h : Table.storage.Reports report) : .storage report ≠ ServiceError.noKey key := by
  obtain ⟨e, rfl⟩ := exists_of_reports h
  have htext : ("row has no value for primary key '" ++ key ++ "'").toList.head? = some 'r' :=
    head?_toList_append (head?_toList_append (by simp))
  intro he
  rw [← ServiceError.storage.inj he] at htext
  rcases head?_message e with hfirst | hfirst | hfirst
  all_goals
    rw [hfirst] at htext
    revert htext
    decide

end Storage

namespace Service

variable {σ : Type} {view : σ → Table} {service : Service σ} {s s' : σ}

/-- A failure of the kind of the storage is a report of the storage. -/
def Told (service : Service σ) (e : ServiceError) : Prop :=
  ∀ report, e = .storage report → service.storage.Reports report

theorem told_query (fault : QueryError) : service.Told (.query fault) := nofun
theorem told_noRecord (id : Value) : service.Told (.noRecord id) := nofun
theorem told_bulkReplacement : service.Told .bulkReplacement := nofun

theorem told_storage {report : String} (h : service.storage.Reports report) : service.Told (.storage report) := by
  intro _ he
  cases he
  exact h

open Service.Action

theorem fails_findRows (query : Fields) (policy : Option Policy) : (service.findRows query policy).FailsBy service.Told := by
  refine (failsBy_checked told_query _).bind fun q => (failsBy_checked told_query _).bind fun plans => ?_
  refine (failsBy_ask fun _ _ _ h => told_storage (.count h)).bind fun total => ?_
  cases plans.paginated with
  | none => exact (failsBy_pure []).bind fun rows => failsBy_pure _
  | some plan => exact (failsBy_ask fun _ _ _ h => told_storage (.fetch h)).bind fun rows => failsBy_pure _

theorem fails_getRow (id : Value) (params : Params) : (service.getRow id params).FailsBy service.Told := by
  refine (fails_findRows _ _).bind fun found => ?_
  split
  · exact failsBy_pure _
  · exact failsBy_throw (told_noRecord id)

theorem fails_createRow (params : Params) (attributes : Record) :
    (service.createRow params attributes).FailsBy service.Told :=
  (failsBy_ask fun _ _ _ h => told_storage (.insert h)).bind fun id => fails_getRow id params

theorem fails_rowKey {row : Record} (h : (Record.key? row service.id).isSome = true) :
    (service.rowKey row).FailsBy service.Told := by
  obtain ⟨k, hk⟩ := Option.isSome_iff_exists.mp h
  rw [rowKey, hk]
  exact failsBy_pure k

theorem fails_writeRow (changes : Record) {row : Record} (h : (Record.key? row service.id).isSome = true) :
    (service.writeRow changes row).FailsBy service.Told :=
  (fails_rowKey h).bind fun _ => failsBy_ask fun _ _ _ h => told_storage (.update h)

theorem fails_deleteRow {row : Record} (h : (Record.key? row service.id).isSome = true) :
    (service.deleteRow row).FailsBy service.Told :=
  (fails_rowKey h).bind fun _ => (failsBy_ask fun _ _ _ h => told_storage (.delete h)).bind fun _ => failsBy_pure row

section

variable (hover : service.storage.Over view) (hshows : service.storage.Shows view) (hshaped : (view s).Shaped)
  (hkey : service.id = (view s).key)
include hover hshows hshaped hkey

/-- The rows that are found have keys. -/
theorem isSome_of_findRows {query : Fields} {policy : Option Policy} {found : Fetched}
    (h : (service.findRows query policy).on s = (.ok found, s')) :
    ∀ row ∈ found.rows, (Record.key? row service.id).isSome = true := by
  unfold findRows at h
  obtain ⟨q, _, hq, hrest⟩ := of_on_bind_ok h
  obtain ⟨_, rfl⟩ := of_on_checked_ok hq
  obtain ⟨plans, _, hplans, hasked⟩ := of_on_bind_ok hrest
  obtain ⟨hp, rfl⟩ := of_on_checked_ok hplans
  obtain ⟨total, counted, hcount, hgiven⟩ := of_on_bind_ok hasked
  have hview : view counted = view s := by
    have hsame := hover.count plans.unbounded s
    rwa [of_on_ask_ok hcount] at hsame
  have hrows : found.rows = pageRows (view s) plans := by
    rw [pageRows]
    cases hpaginated : plans.paginated with
    | none =>
      rw [hpaginated] at hgiven
      cases hgiven
      rfl
    | some plan =>
      rw [hpaginated] at hgiven
      obtain ⟨rows, _, hfetch, hpure⟩ := of_on_bind_ok hgiven
      cases hpure
      rw [← hview]
      exact hshows plan counted rows _ (of_on_ask_ok hfetch)
  obtain ⟨clause, hc⟩ := Plan.exists_clause hp
  obtain ⟨plans', hp', hpage⟩ := pageRows_ofQuery service.id hc (view s)
  obtain rfl : plans = plans' := Except.ok.inj (hp.symm.trans hp')
  intro row hm
  rw [hrows, hpage] at hm
  obtain ⟨stored, hstored, rfl⟩ := List.mem_map.mp hm
  rw [Controls.key?_shown, hkey]
  exact (hshaped stored (List.mem_filter.mp (Controls.mem_of_mem_page hstored)).1).2

theorem isSome_of_getRow {id : Value} {params : Params} {row : Record}
    (h : (service.getRow id params).on s = (.ok row, s')) : (Record.key? row service.id).isSome = true := by
  obtain ⟨found, t, hfound, h⟩ := of_on_bind_ok h
  have hkeys := isSome_of_findRows hover hshows hshaped hkey hfound
  split at h
  case h_1 only hrows =>
    cases h
    exact hkeys row (hrows ▸ List.mem_singleton_self row)
  case h_2 => cases h

/-- A change of one row fails as the storage does, once the row is found. -/
theorem told_of_single {α : Type} {id : Value} {params : Params} {write : Record → Action σ α} {e : ServiceError}
    (hwrite : ∀ row, (Record.key? row service.id).isSome = true → (write row).FailsBy service.Told)
    (h : (service.getRow id params >>= write).on s = (.error e, s')) : service.Told e := by
  rcases of_on_bind_error h with herror | ⟨row, t, hrow, herror⟩
  · exact fails_getRow id params s e s' herror
  · exact hwrite row (isSome_of_getRow hover hshows hshaped hkey hrow) t e s' herror

theorem told_of_matching {α : Type} {query : Fields} {write : Record → Action σ α} {e : ServiceError}
    (hwrite : ∀ row, (Record.key? row service.id).isSome = true → (write row).FailsBy service.Told)
    (h : (service.findRows query none >>= fun found => OneOrMany.many <$> each write found.rows).on s = (.error e, s')) :
    service.Told e := by
  rcases of_on_bind_error h with herror | ⟨found, t, hfound, herror⟩
  · exact fails_findRows query none s e s' herror
  · have hkeys := isSome_of_findRows hover hshows hshaped hkey hfound
    exact (failsBy_each fun row hm => hwrite row (hkeys row hm)).map OneOrMany.many t e s' herror

/-- Whatever an operation fails of, it is the storage that has said so, or the fault is of the request. -/
theorem told_of_report {op : Operation} {e : ServiceError} (h : (service.unhooked.act op).on s = (.error e, s')) :
    service.Told e := by
  cases op with
  | find params =>
    have hfind : (service.unhooked.findSelection params).FailsBy service.unhooked.Told :=
      (fails_findRows _ _).bind fun found => by split <;> exact failsBy_pure _
    exact hfind s e s' (of_unhooked_report_error (of_on_map_error h))
  | get id params => exact fails_getRow id params s e s' (of_unhooked_report_error (of_on_map_error h))
  | create data params =>
    have hcreate := of_unhooked_report_error (of_on_map_error h)
    cases data with
    | one attributes => exact (fails_createRow params attributes).map OneOrMany.one s e s' hcreate
    | many items =>
      exact (failsBy_each fun attributes _ => fails_createRow params attributes).map OneOrMany.many s e s' hcreate
  | patch target data params =>
    have hpatch := of_unhooked_report_error (of_on_map_error h)
    cases target with
    | single id =>
      exact told_of_single hover hshows hshaped hkey
        (fun row hrow => (fails_writeRow _ hrow).map OneOrMany.one) hpatch
    | matching query => exact told_of_matching hover hshows hshaped hkey (fun row => fails_writeRow _) hpatch
  | update target data params =>
    have hupdate := of_unhooked_report_error (of_on_map_error h)
    cases target with
    | single id => exact told_of_single hover hshows hshaped hkey (fun row => fails_writeRow _) hupdate
    | matching query =>
      cases hupdate
      exact told_bulkReplacement
  | remove target params =>
    have hremove := of_unhooked_report_error (of_on_map_error h)
    cases target with
    | single id =>
      exact told_of_single hover hshows hshaped hkey (fun row hrow => (fails_deleteRow hrow).map OneOrMany.one) hremove
    | matching query => exact told_of_matching hover hshows hshaped hkey (fun row => fails_deleteRow) hremove

end

/-- A row that a service can write and take out: it shows its key. -/
def Identifies (service : Service σ) (row : Record) : Prop :=
  ∃ id, id ≠ .null ∧ row.lookup service.id = some id ∧ ∀ s, (service.rowKey row).on s = (.ok id, s)

theorem identifies_of_isSome {row : Record} (h : (Record.key? row service.id).isSome = true) : service.Identifies row := by
  obtain ⟨id, hid⟩ := Option.isSome_iff_exists.mp h
  exact ⟨id, Table.key?_ne_null hid, (Option.filter_eq_some_iff.mp hid).1, on_rowKey_some hid⟩

/-- A query has plans as soon as its predicate has a clause: they show the key and what is asked for, and the one for a page
differs from that for all rows in its bounds at most, so that both are written with the same condition. Therefore all rows
that a service finds over a table with its key field show their keys, however the storage may fail; and no operation fails
for want of a key, for whatever it fails of on the part of the storage, the storage has said. -/
theorem plans_show_keys (key : String) :
    (∀ (q : Query) (clause : Clause), Clause.compile q.predicate = .ok clause →
      ∃ plans, Plan.ofQuery key q = .ok plans ∧ plans.Assembled key q clause ∧
        ∀ plan, plans.paginated = some plan → ∀ table,
          Sql.Conditioned clause table (Sql.select table plan) (Sql.count table plans.unbounded)) ∧
    (∀ {σ : Type} {view : σ → Table} {service : Service σ}, service.storage.Over view → service.storage.Shows view →
      service.id = key → ∀ (name : String) (columns : List String) (defaults : Fields) (s : σ),
      Table.Reached (Table.opened name key columns defaults) (view s) →
        (∀ query policy found s', (service.findRows query policy).on s = (.ok found, s') →
          ∀ row ∈ found.rows, service.Identifies row) ∧
        (∀ id params row s', (service.getRow id params).on s = (.ok row, s') → service.Identifies row) ∧
        ∀ op e s', (service.unhooked.act op).on s = (.error e, s') → service.Told e) ∧
    ∀ {service : Service Table}, service.storage = Table.storage → service.id = key →
      ∀ (name : String) (columns : List String) (defaults : Fields) (table : Table),
      Table.Reached (Table.opened name key columns defaults) table →
        ∀ op e next, (service.unhooked.act op).on table = (.error e, next) → e ≠ .noKey key := by
  refine ⟨?_, ?_, ?_⟩
  · intro q clause hc
    obtain ⟨plans, hplans, hassembled⟩ := Plan.exists_assembled key hc
    exact ⟨plans, hplans, hassembled, fun plan hplan table => Sql.conditioned_of_assembled hassembled hplan table⟩
  · intro σ view service hover hshows hid name columns defaults s hreached
    obtain ⟨htable, hshaped⟩ := hreached.shaped
    have hkey : service.id = (view s).key := hid.trans htable.symm
    refine ⟨?_, ?_, ?_⟩
    · intro query policy found s' h row hm
      exact identifies_of_isSome (isSome_of_findRows hover hshows hshaped hkey h row hm)
    · intro id params row s' h
      exact identifies_of_isSome (isSome_of_getRow hover hshows hshaped hkey h)
    · intro op e s' h
      exact told_of_report hover hshows hshaped hkey h
  · intro service hs hid name columns defaults table hreached op e next h
    obtain ⟨htable, hshaped⟩ := hreached.shaped
    have hover := Storage.over_storage
    have hshows := Storage.shows_storage
    rw [← hs] at hover hshows
    have htold := told_of_report hover hshows hshaped (hid.trans htable.symm) h
    rintro rfl
    have hreports := htold _ rfl
    rw [hs] at hreports
    exact Storage.not_reports_noKey key hreports rfl

/-- Columns that are asked for with the key and a repetition among them; a patch that fails as the storage was told to; and
a search for rows of people. -/
theorem plans_show_keys_people :
    let q : Query := ⟨⟨some ["name", "id", "age", "name"], [], some 2, some 0⟩, [("name", .string "Ada")]⟩
    (∃ plans, Plan.ofQuery "id" q = .ok plans ∧ plans.unbounded.select = some ["id", "name", "age"] ∧
      plans.paginated = some { plans.unbounded with limit := some 2 }) ∧
    (∃ w', (failing.unhooked.act (.patch .everything [("name", .string "Eve")] .none)).on ⟨[], people⟩
      = (.error (.storage "disk full"), w') ∧ failing.storage.Reports "disk full") ∧
    (∃ found, (standard.findRows [("$select", .string "name")] none).on people = (.ok found, people) ∧
      found.rows.length = 2 ∧ ∀ row ∈ found.rows, standard.Identifies row) ∧
    ∀ op e next, (standard.unhooked.act op).on people = (.error e, next) → e ≠ .noKey "id" := by
  intro q
  obtain ⟨hplans, hkeys, hnever⟩ := plans_show_keys "id"
  refine ⟨?_, ?_, ?_, hnever rfl rfl _ _ _ people people_reached⟩
  · obtain ⟨plans, hp, _⟩ := hplans q _ rfl
    cases hp
    exact ⟨_, rfl, rfl, rfl⟩
  · have hover := Storage.over_watched Storage.over_storage [⟨.update, 1, "disk full"⟩]
    have hshows := Storage.shows_watched Storage.shows_storage [⟨.update, 1, "disk full"⟩]
    obtain ⟨_, _, htold⟩ := @hkeys _ _ failing hover hshows rfl _ _ _ ⟨[], people⟩ people_reached
    rcases hrun : (failing.unhooked.act (.patch .everything [("name", .string "Eve")] .none)).on ⟨[], people⟩
      with ⟨outcome, w'⟩
    have houtcome : outcome = .error (.storage "disk full") := (congrArg Prod.fst hrun).symm.trans (by decide +kernel)
    subst houtcome
    exact ⟨w', rfl, htold _ _ _ hrun _ rfl⟩
  · obtain ⟨hfound, _⟩ := @hkeys _ _ standard Storage.over_storage Storage.shows_storage rfl _ _ _ people
      people_reached
    have hrun : ∃ found, (standard.findRows [("$select", .string "name")] none).on people = (.ok found, people) ∧
      found.rows.length = 2 := ⟨_, rfl, by decide +kernel⟩
    obtain ⟨found, hrows, hlength⟩ := hrun
    exact ⟨found, hrows, hlength, hfound _ _ _ _ hrows⟩

end Service

end RowStore
