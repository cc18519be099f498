import RowStore.Hub
import RowStore.Proofs.Service.Writes
import RowStore.Proofs.Table.Rows

/-!
# Resources apart

A request names one resource at most, and what it asks for is known before any table is looked at. It changes the table
of this resource only, and its response says nothing about another one. So the requests for other resources may come,
stay away or change places, and no response and no row of a resource tells.
-/

namespace RowStore

set_option autoImplicit false

namespace Hub

variable {state s t : State} {request : Request} {call : Call} {name : String}

/-! ### What a request names -/

def Route.resource? : Route → Option String
  | health => some "health"
  | collection name | item name _ => Url.segmentText? name

/-- The resource that a request names: the first part of its path, if this is a text. -/
def Request.resource? (request : Request) : Option String :=
  match Text.splitOn '/' (splitTarget request.target).1 with
  | [] :: name :: _ => Url.segmentText? name
  | _ => none

def Request.isFor (name : String) (request : Request) : Bool :=
  request.resource? = some name

theorem Request.isFor_iff : request.isFor name = true ↔ request.resource? = some name :=
  decide_eq_true_iff

theorem Request.resource?_of_route {route : Route} (h : Route.ofPath? (splitTarget request.target).1 = some route) :
    request.resource? = route.resource? := by
  rw [Request.resource?]
  unfold Route.ofPath? at h
  split at h
  · rename_i name hparts
    rw [hparts]
    split at h
    · cases h
    · split at h
      · rename_i hname
        cases h
        rw [hname]
        decide +kernel
      · cases h
        rfl
  · rename_i name id hparts
    rw [hparts]
    split at h
    · cases h
    · cases h
      rfl
  · cases h

def Operation.isRead : Operation → Bool
  | find _ | get _ _ => true
  | create _ | patch _ _ _ | update _ _ _ | remove _ _ => false

/-- A call for a resource, which asks for a change only if its verb may. -/
structure Call.Fits (call : Call) (name : String) (verb : Verb) : Prop where
  resource : call.resource = name
  isRead : verb.isSafe = true → ∀ operation, call.operation = .ok operation → operation.isRead = true

theorem isRead_of_map {query : List Char} {f : Fields → Operation} {operation : Operation}
    (hf : ∀ query, (f query).isRead = true) (h : (decodeQuery query).map f = .ok operation) :
    operation.isRead = true := by
  cases hquery : decodeQuery query with
  | error refusal =>
    rw [hquery] at h
    cases h
  | ok fields =>
    rw [hquery] at h
    cases h
    exact hf fields

theorem exists_body {next : Value → Except Response Call} (h : (bodyValue request >>= next) = .ok call) :
    ∃ body, next body = .ok call := by
  cases hbody : bodyValue request with
  | error refusal =>
    rw [hbody] at h
    cases h
  | ok body =>
    rw [hbody] at h
    exact ⟨body, h⟩

theorem fits_of_collectionCall {verb : Verb} {query : List Char}
    (h : collectionCall verb name query request = .ok call) : call.Fits name verb := by
  cases verb with
  | get | head =>
    cases h
    exact ⟨rfl, fun _ _ => isRead_of_map fun _ => rfl⟩
  | delete =>
    cases h
    exact ⟨rfl, fun hsafe => nomatch hsafe⟩
  | post =>
    obtain ⟨body, h⟩ := exists_body h
    split at h
    · cases h
      exact ⟨rfl, fun hsafe => nomatch hsafe⟩
    · cases h
  | patch | put =>
    obtain ⟨body, h⟩ := exists_body h
    cases h
    exact ⟨rfl, fun hsafe => nomatch hsafe⟩

theorem fits_of_itemCall {verb : Verb} {id : String} {query : List Char}
    (h : itemCall verb name id query request = .ok call) : call.Fits name verb := by
  cases verb with
  | get | head =>
    cases h
    exact ⟨rfl, fun _ _ => isRead_of_map fun _ => rfl⟩
  | delete =>
    cases h
    exact ⟨rfl, fun hsafe => nomatch hsafe⟩
  | post => cases h
  | patch | put =>
    obtain ⟨body, h⟩ := exists_body h
    cases h
    exact ⟨rfl, fun hsafe => nomatch hsafe⟩

/-- A call is for the resource that its route leads to. -/
theorem fits_of_callOf {route : Route} {verb : Verb} {query : List Char}
    (h : callOf route verb query request = .ok call) :
    route.resource? = some call.resource ∧ call.Fits call.resource verb := by
  cases route with
  | health => cases h
  | collection raw =>
    rw [callOf] at h
    cases hname : Url.segmentText? raw with
    | none =>
      rw [hname] at h
      cases h
    | some name =>
      rw [hname] at h
      have hfits := fits_of_collectionCall h
      rw [Route.resource?, hname, hfits.resource]
      exact ⟨rfl, hfits⟩
  | item raw id =>
    rw [callOf] at h
    split at h
    · rename_i name id hname _
      have hfits := fits_of_itemCall h
      rw [Route.resource?, hname, hfits.resource]
      exact ⟨rfl, hfits⟩
    · cases h

/-- What becomes of a request; the state of the hub has no say in it. -/
inductive Course (request : Request) : Prop where
  | refused (response : Response) (h : ∀ state, answer state request = (response, state))
  | health (shown : Response → Response) (hname : request.resource? = some "health")
      (h : ∀ state, answer state request = (shown (.json 200 (healthValue state)), state))
  | performed (call : Call) (shown : Response → Response) (hname : request.resource? = some call.resource)
      (hreads : request.method = "GET" → ∀ operation, call.operation = .ok operation → operation.isRead = true)
      (h : ∀ state, answer state request = (shown (perform state call).1, (perform state call).2))

/-- The response to a request of a verb: one to a request for the head loses its value. -/
def shown (verb : Verb) (response : Response) : Response :=
  if verb = .head then response.withoutValue else response

theorem course_of_route {route : Route} {verb : Verb} (query : List Char) (hname : request.resource? = route.resource?)
    (hverb : Verb.ofName? request.method = some verb)
    (h : ∀ state, answer state request
      = (shown verb (answerRoute state route verb query request).1, (answerRoute state route verb query request).2)) :
    Course request := by
  by_cases hhealth : route = .health
  · refine .health (shown verb) (by rw [hname, hhealth]; rfl) ?_
    intro state
    rw [h, answerRoute, if_pos hhealth]
  · cases hcall : callOf route verb query request with
    | error refusal =>
      refine .refused (shown verb refusal) ?_
      intro state
      simp only [h, answerRoute, if_neg hhealth, hcall]
    | ok call =>
      obtain ⟨hroute, hfits⟩ := fits_of_callOf hcall
      refine .performed call (shown verb) (hname.trans hroute) ?_ ?_
      · intro hget
        rw [hget] at hverb
        injection hverb with hverb
        exact hfits.isRead (by rw [← hverb]; rfl)
      · intro state
        simp only [h, answerRoute, if_neg hhealth, hcall]

theorem course (request : Request) : Course request := by
  by_cases hmethod : request.method = "OPTIONS"
  · exact .refused (.bare 200) fun state => by rw [answer, if_pos hmethod]
  rcases htarget : splitTarget request.target with ⟨path, query⟩
  cases hroute : Route.ofPath? path with
  | none => exact .refused (.bare 404) fun state => by simp only [answer, if_neg hmethod, htarget, hroute]
  | some route =>
    cases hverb : Verb.ofName? request.method with
    | none => exact .refused (.bare 405) fun state => by simp only [answer, if_neg hmethod, htarget, hroute, hverb]
    | some verb =>
      by_cases hallows : route.allows verb = true
      · have hname : request.resource? = route.resource? := by
          apply Request.resource?_of_route
          rw [htarget, hroute]
        refine course_of_route query hname hverb ?_
        intro state
        simp only [answer, if_neg hmethod, htarget, hroute, hverb, if_pos hallows, shown]
      · refine .refused (.bare 405) ?_
        intro state
        simp only [answer, if_neg hmethod, htarget, hroute, hverb, if_neg hallows]

/-! ### What a call changes -/

/-- A call leaves the hub, or it changes the table of its resource by its operation. -/
theorem perform_cases (state : State) (call : Call) :
    (perform state call).2 = state ∨ ∃ resource operation, state.resources.lookup call.resource = some resource ∧
      call.operation = .ok operation ∧ (perform state call).2 = ⟨Entries.insert call.resource
        { resource with table := (operation.run resource.service resource.table).2 } state.resources⟩ := by
  rw [perform]
  cases hlookup : state.resources.lookup call.resource with
  | none => exact .inl rfl
  | some resource =>
    cases hoperation : call.operation with
    | error refusal => exact .inl rfl
    | ok operation => exact .inr ⟨resource, operation, rfl, rfl, rfl⟩

theorem names_perform (state : State) (call : Call) :
    Entries.names (perform state call).2.resources = Entries.names state.resources := by
  rcases perform_cases state call with h | ⟨resource, operation, hlookup, _, h⟩
  · rw [h]
  · have hknown : call.resource ∈ Entries.names state.resources := by
      rw [Entries.mem_names_iff, hlookup]
      exact Option.some_ne_none resource
    rw [h, Entries.names_insert, if_pos hknown]

theorem lookup_perform_of_ne (hne : name ≠ call.resource) (state : State) :
    (perform state call).2.resources.lookup name = state.resources.lookup name := by
  rcases perform_cases state call with h | ⟨resource, operation, _, _, h⟩
  · rw [h]
  · rw [h, Entries.lookup_insert, if_neg hne]

/-- What a call does to its resource, and what it answers, is the same wherever this resource is the same. -/
theorem perform_congr (h : s.resources.lookup call.resource = t.resources.lookup call.resource) :
    (perform s call).1 = (perform t call).1 ∧
      (perform s call).2.resources.lookup call.resource = (perform t call).2.resources.lookup call.resource := by
  rw [perform, perform, ← h]
  cases hlookup : s.resources.lookup call.resource with
  | none => exact ⟨rfl, h⟩
  | some resource =>
    cases call.operation with
    | error refusal => exact ⟨rfl, h⟩
    | ok operation =>
      refine ⟨rfl, ?_⟩
      change (Entries.insert call.resource _ s.resources).lookup _
        = (Entries.insert call.resource _ t.resources).lookup _
      rw [Entries.lookup_insert, Entries.lookup_insert, if_pos rfl, if_pos rfl]

/-- An operation that asks for no change leaves the table. -/
theorem run_read {service : Service Table} (hs : service.storage = Table.storage) {operation : Operation}
    (h : operation.isRead = true) (table : Table) : (operation.run service table).2 = table := by
  have hover : service.storage.Over fun table => table := hs ▸ Storage.over_storage
  -- Neither of the two allows a write.
  have hsame : ∀ op : Service.Operation, (∀ w, ¬ op.Allows service.id w) → service.perform op table = table := by
    intro op hnone
    obtain ⟨writes, hwrites, hrun⟩ := Service.exists_writes_perform hover op table
    have hempty : writes = [] := List.eq_nil_iff_forall_not_mem.mpr fun w hm => hnone w (hwrites w hm)
    rw [hempty] at hrun
    exact hrun
  have hmap : ∀ {α β : Type} (f : α → β) (action : Service.Action Table α),
      ((f <$> action).on table).2 = (action.on table).2 := by
    intro α β f action
    rw [Service.Action.on_map]
    rcases action.on table with ⟨outcome, next⟩
    cases outcome <;> rfl
  cases operation with
  | find query =>
    rw [Operation.run, hmap]
    exact hsame (.find (.ofQuery query)) fun w hw => hw
  | get id query =>
    rw [Operation.run, hmap]
    exact hsame (.get id (.ofQuery query)) fun w hw => hw
  | create _ | patch _ _ _ | update _ _ _ | remove _ _ => cases h

/-- A hub whose services keep their rows in tables. -/
def State.OverTables (state : State) : Prop :=
  ∀ entry ∈ state.resources, entry.2.service.storage = Table.storage

theorem overTables_start (config : Config) : (start config).OverTables := by
  intro entry hm
  rcases Entries.mem_of_mem_insertAll hm with hm | hm
  · cases hm
  · obtain ⟨resource, _, rfl⟩ := List.mem_map.mp hm
    rfl

theorem overTables_perform (hs : state.OverTables) (call : Call) : (perform state call).2.OverTables := by
  rcases perform_cases state call with h | ⟨resource, operation, hlookup, _, h⟩
  · rwa [h]
  · rw [h]
    intro entry hm
    rcases Entries.mem_of_mem_insert hm with rfl | hm
    · exact hs (call.resource, resource) (Entries.mem_of_lookup hlookup)
    · exact hs entry hm

theorem perform_read (hs : state.OverTables)
    (hreads : ∀ operation, call.operation = .ok operation → operation.isRead = true) :
    (perform state call).2 = state := by
  rcases perform_cases state call with h | ⟨resource, operation, hlookup, hoperation, h⟩
  · exact h
  · have hstorage : resource.service.storage = Table.storage := hs _ (Entries.mem_of_lookup hlookup)
    rw [h, run_read hstorage (hreads operation hoperation), Entries.insert_of_lookup hlookup]

/-! ### What a request changes -/

/-- Two states that a resource cannot tell apart. -/
structure State.Alike (name : String) (s t : State) : Prop where
  names : Entries.names s.resources = Entries.names t.resources
  lookup : s.resources.lookup name = t.resources.lookup name

theorem State.Alike.refl (name : String) (state : State) : state.Alike name state :=
  ⟨rfl, rfl⟩

theorem names_answer (state : State) (request : Request) :
    Entries.names (answer state request).2.resources = Entries.names state.resources := by
  cases course request with
  | refused response h => rw [h]
  | health shown hname h => rw [h]
  | performed call shown hname hreads h => rw [h, names_perform]

theorem overTables_answer (hs : state.OverTables) (request : Request) : (answer state request).2.OverTables := by
  cases course request with
  | refused response h => rwa [h]
  | health shown hname h => rwa [h]
  | performed call shown hname hreads h =>
    rw [h]
    exact overTables_perform hs call

/-- A request for another resource is not seen by a resource. -/
theorem lookup_answer_of_ne (hne : request.resource? ≠ some name) (state : State) :
    (answer state request).2.resources.lookup name = state.resources.lookup name := by
  cases course request with
  | refused response h => rw [h]
  | health shown hname h => rw [h]
  | performed call shown hname hreads h =>
    have hcall : name ≠ call.resource := by
      rintro rfl
      exact hne hname
    rw [h, lookup_perform_of_ne hcall]

/-- A request for a resource sees nothing but this resource. -/
theorem answer_congr (hname : request.resource? = some name) (halike : s.Alike name t) :
    (answer s request).1 = (answer t request).1 ∧ (answer s request).2.Alike name (answer t request).2 := by
  have hnames : Entries.names (answer s request).2.resources = Entries.names (answer t request).2.resources := by
    rw [names_answer, names_answer, halike.names]
  cases course request with
  | refused response h =>
    rw [h, h] at hnames ⊢
    exact ⟨rfl, halike⟩
  | health shown hhealth h =>
    have hvalue : healthValue s = healthValue t := by rw [healthValue, healthValue, halike.names]
    rw [h, h, hvalue]
    exact ⟨rfl, halike⟩
  | performed call shown hcall hreads h =>
    have heq : name = call.resource := Option.some.inj (hname.symm.trans hcall)
    subst heq
    obtain ⟨hresponse, hlookup⟩ := perform_congr halike.lookup
    rw [h, h] at hnames ⊢
    exact ⟨congrArg shown hresponse, hnames, hlookup⟩

theorem answer_of_get (hs : state.OverTables) (hget : request.method = "GET") : (answer state request).2 = state := by
  cases course request with
  | refused response h => rw [h]
  | health shown hname h => rw [h]
  | performed call shown hname hreads h => rw [h, perform_read hs (hreads hget)]

theorem answer_of_unknown (h : ∀ name ∈ Entries.names state.resources, request.resource? ≠ some name) :
    (answer state request).2 = state := by
  cases course request with
  | refused response h => rw [h]
  | health shown hname h => rw [h]
  | performed call shown hname hreads hanswer =>
    have hlookup : state.resources.lookup call.resource = none := by
      by_contra hknown
      exact h call.resource (Entries.mem_names_iff.mpr hknown) hname
    rw [hanswer, perform, hlookup]

/-! ### What requests change in turn -/

namespace State

/-- Requests with their responses, one after the other. -/
def exchanges (state : State) : List Request → List (Request × Response)
  | [] => []
  | request :: rest => (request, (answer state request).1) :: exchanges (answer state request).2 rest

def after (state : State) : List Request → State
  | [] => state
  | request :: rest => after (answer state request).2 rest

def table? (state : State) (name : String) : Option Table :=
  (state.resources.lookup name).map Resource.table

theorem names_after (state : State) (requests : List Request) :
    Entries.names (state.after requests).resources = Entries.names state.resources := by
  induction requests generalizing state with
  | nil => rfl
  | cons request rest ih => rw [after, ih, names_answer]

theorem overTables_after (h : state.OverTables) (requests : List Request) : (state.after requests).OverTables := by
  induction requests generalizing state with
  | nil => exact h
  | cons request rest ih => exact ih (overTables_answer h request)

/-- What comes of the requests for a resource comes of them alone. -/
theorem exchanges_filter (halike : s.Alike name t) (requests : List Request) :
    (s.exchanges requests).filter (fun exchange => exchange.1.isFor name)
        = t.exchanges (requests.filter (Request.isFor name)) ∧
      (s.after requests).Alike name (t.after (requests.filter (Request.isFor name))) := by
  induction requests generalizing s t with
  | nil => exact ⟨rfl, halike⟩
  | cons request rest ih =>
    rw [exchanges, after]
    by_cases hfor : request.isFor name = true
    · obtain ⟨hresponse, hnext⟩ := answer_congr (Request.isFor_iff.mp hfor) halike
      obtain ⟨hrest, hafter⟩ := ih hnext
      rw [List.filter_cons, if_pos hfor, List.filter_cons, if_pos hfor, exchanges, after, hresponse, hrest]
      exact ⟨rfl, hafter⟩
    · have hne : request.resource? ≠ some name := fun hname => hfor (Request.isFor_iff.mpr hname)
      have hnext : (answer s request).2.Alike name t :=
        ⟨(names_answer s request).trans halike.names, (lookup_answer_of_ne hne s).trans halike.lookup⟩
      rw [List.filter_cons, if_neg hfor, List.filter_cons, if_neg hfor]
      exact ih hnext

end State

theorem mem_names_start {config : Config} :
    name ∈ Entries.names (start config).resources ↔ name ∈ config.resources.map ResourceConfig.name := by
  rw [start, Entries.ofList, Entries.names_insertAll, Table.mem_addColumns, Entries.names, Entries.names, List.map_map]
  simp [Function.comp_def]

/-- Two lists of requests with the same ones for a resource, in the same order, get the same responses to these, and
leave the same table of the resource. At no time is anything changed by a request to get something, or by one that names
no resource of the hub. -/
theorem exchanges_apart {config : Config} (hname : name ∈ config.resources.map ResourceConfig.name)
    {requests others : List Request}
    (h : requests.filter (Request.isFor name) = others.filter (Request.isFor name)) :
    ((start config).exchanges requests).filter (fun exchange => exchange.1.isFor name)
        = ((start config).exchanges others).filter (fun exchange => exchange.1.isFor name) ∧
      (∃ table, ((start config).after requests).table? name = some table ∧
        ((start config).after others).table? name = some table) ∧
      (∀ request, request.method = "GET" →
        (answer ((start config).after requests) request).2 = (start config).after requests) ∧
      ∀ request, (∀ name ∈ config.resources.map ResourceConfig.name, request.resource? ≠ some name) →
        (answer ((start config).after requests) request).2 = (start config).after requests := by
  obtain ⟨hexchanges, halike⟩ := State.exchanges_filter (State.Alike.refl name (start config)) requests
  obtain ⟨hothers, halikeOthers⟩ := State.exchanges_filter (State.Alike.refl name (start config)) others
  rw [h] at hexchanges halike
  have hknown : name ∈ Entries.names ((start config).after requests).resources := by
    rw [State.names_after]
    exact mem_names_start.mpr hname
  obtain ⟨resource, hresource⟩ := Option.ne_none_iff_exists'.mp (Entries.mem_names_iff.mp hknown)
  refine ⟨hexchanges.trans hothers.symm, ⟨resource.table, ?_, ?_⟩, ?_, ?_⟩
  · rw [State.table?, hresource, Option.map_some]
  · rw [State.table?, halikeOthers.lookup, ← halike.lookup, hresource, Option.map_some]
  · intro request hget
    exact answer_of_get (State.overTables_after (overTables_start config) requests) hget
  · intro request hunknown
    apply answer_of_unknown
    intro other hother
    rw [State.names_after, mem_names_start] at hother
    exact hunknown other hother

/-- Rows of two resources are created in turns, with an escape in one name, and then one of them is asked for. Without
the other resource, and with a request that is refused in its place, nothing is different. -/
theorem exchanges_apart_twoResources :
    let config : Config := ⟨Config.standardBind,
      [⟨"notes", "id", ["text"], [], none, []⟩, ⟨"people", "id", ["name"], [], none, []⟩]⟩
    let note : Request := ⟨"POST", "/n%6Ftes", some "application/json", "\x7b\"text\":\"a\"\x7d"⟩
    let ask : Request := ⟨"GET", "/notes?text=a", none, ""⟩
    let person : Request := ⟨"POST", "/people", some "application/json", "\x7b\"name\":\"Bo\"\x7d"⟩
    let requests : List Request := [person, note, person, ⟨"DELETE", "/people", none, ""⟩, ask]
    let others : List Request := [note, ⟨"PUT", "/other", none, ""⟩, ask]
    requests.filter (Request.isFor "notes") = [note, ask] ∧
      ((start config).exchanges requests).map (fun exchange => exchange.2.status) = [201, 201, 201, 200, 200] ∧
      ((start config).exchanges requests).filter (fun exchange => exchange.1.isFor "notes")
        = ((start config).exchanges others).filter (fun exchange => exchange.1.isFor "notes") ∧
      ∃ table, ((start config).after requests).table? "notes" = some table ∧
        ((start config).after others).table? "notes" = some table := by
  intro config note ask person requests others
  have hrequests : requests.filter (Request.isFor "notes") = [note, ask] := by decide +kernel
  have hothers : others.filter (Request.isFor "notes") = [note, ask] := by decide +kernel
  have hname : "notes" ∈ config.resources.map ResourceConfig.name := by decide +kernel
  obtain ⟨hexchanges, htable, _⟩ := exchanges_apart hname (hrequests.trans hothers.symm)
  exact ⟨hrequests, by decide +kernel, hexchanges, htable⟩

end Hub

end RowStore
