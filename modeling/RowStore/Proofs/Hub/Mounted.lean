import RowStore.Proofs.Hub.Apart
import RowStore.Proofs.Url.Spelling
import RowStore.Url

/-!
# Resources under their names

A resource is reached by every spelling of its name but one: the plain word of the health check is not taken for a name.
What is asked of a collection or of an item is carried out by the service of the resource, on its own table, whatever has
been asked before.
-/

namespace RowStore

set_option autoImplicit false

/-! ### Paths of targets -/

namespace Text

theorem splitOn_append {mark : Char} {front : List Char} (h : mark ∉ front) (rest : List Char) :
    splitOn mark (front ++ mark :: rest) = front :: splitOn mark rest := by
  induction front with
  | nil => rw [List.nil_append, splitOn, if_pos rfl]
  | cons c front ih =>
    rw [List.mem_cons, not_or] at h
    rw [List.cons_append, splitOn, if_neg (Ne.symm h.1), ih h.2]

end Text

namespace Hub

variable {config : Config} {r : ResourceConfig} {state : State} {resource : Resource} {name : String} {verb : Verb}
  {path : List Char} {query : Option (List Char)} {request : Request}

/-- A request of a verb for a path, with a query behind its mark or without one. -/
structure Request.To (request : Request) (verb : Verb) (path : List Char) (query : Option (List Char)) : Prop where
  method : request.method = verb.name
  target : request.target = String.ofList (path ++ Url.marked '?' query)
  noFragment : '#' ∉ query.getD []

/-- A path and a query are told apart by the first question mark. -/
theorem Request.To.splitTarget (h : request.To verb ('/' :: path) query) (hmark : '?' ∉ path) (hfragment : '#' ∉ path) :
    splitTarget request.target = ('/' :: path, query.getD []) := by
  have hwhole : ∀ c ∈ '/' :: path ++ Url.marked '?' query, (c != '#') = true := by
    intro c hc
    rw [bne_iff_ne]
    rintro rfl
    rcases List.mem_append.mp hc with hc | hc
    · exact hfragment (List.mem_of_ne_of_mem (by decide) hc)
    · cases query with
      | none => cases hc
      | some query => exact h.noFragment (List.mem_of_ne_of_mem (by decide) hc)
  have hpath : ∀ c ∈ '/' :: path, (c != '?') = true := by
    intro c hc
    rw [bne_iff_ne]
    rintro rfl
    exact hmark (List.mem_of_ne_of_mem (by decide) hc)
  rw [h.target, Hub.splitTarget, String.toList_ofList, List.takeWhile_eq_self_iff.mpr hwhole]
  -- A path has no scheme in front of it.
  change (List.takeWhile (· != '?') ('/' :: path ++ Url.marked '?' query),
    (List.dropWhile (· != '?') ('/' :: path ++ Url.marked '?' query)).drop 1) = _
  rw [List.takeWhile_append_of_pos hpath, List.dropWhile_append_of_pos hpath]
  cases query with
  | none => rw [Url.marked, List.takeWhile_nil, List.append_nil]; rfl
  | some query => rw [Url.marked, List.takeWhile_cons_of_neg (by decide), List.append_nil]; rfl

theorem answer_of_route {route : Route} (h : request.To verb ('/' :: path) query) (hmark : '?' ∉ path)
    (hfragment : '#' ∉ path) (hroute : Route.ofPath? ('/' :: path) = some route) (state : State) :
    answer state request =
      if route.allows verb then
        (shown verb (answerRoute state route verb (query.getD []) request).1,
          (answerRoute state route verb (query.getD []) request).2)
      else (.bare 405, state) := by
  have hname : ¬ verb.name = "OPTIONS" := by cases verb <;> decide
  have hverb : Verb.ofName? verb.name = some verb := Verb.ofName?_name verb
  rw [answer, h.splitTarget hmark hfragment, h.method, if_neg hname]
  simp only [hroute, hverb, shown]

/-! ### Places of a resource -/

/-- The whole collection of a resource, or one item of it. -/
inductive Place where
  | collection
  | item (id : String)

namespace Place

/-- An item is not created at its own path. -/
def allows : Place → Verb → Bool
  | collection, _ => true
  | item _, verb => verb != .post

def read : Place → Fields → Operation
  | collection, query => .find query
  | item id, query => .get (Bracket.key id) query

/-- What is changed at a place, and what is asked of it besides. -/
def target : Place → Fields → Target × Fields
  | collection, query => (.matching query, [])
  | item id, query => (.single (Bracket.key id), query)

/-- What a verb asks for when it comes without a body. -/
def plain? (place : Place) : Verb → Option (Fields → Operation)
  | .get | .head => some place.read
  | .delete => some fun fields => .remove (place.target fields).1 (place.target fields).2
  | .patch | .put | .post => none

/-- What a verb asks for when it comes with a record. -/
def change? (place : Place) : Verb → Option (Fields → Record → Operation)
  | .patch => some fun fields record => .patch (place.target fields).1 record (place.target fields).2
  | .put => some fun fields record => .update (place.target fields).1 record (place.target fields).2
  | .get | .head | .delete | .post => none

def call (place : Place) (verb : Verb) (name : String) (query : List Char) (request : Request) : Except Response Call :=
  match place with
  | collection => collectionCall verb name query request
  | item id => itemCall verb name id query request

end Place

/-- The paths of a place: the name of the resource and the key of an item may have escapes, but what is written for the
name of a collection is not the word of the health check. -/
inductive LeadsTo (name : String) : List Char → Place → Prop where
  | collection {raw : List Char} (h : Url.Spells raw name) (hhealth : raw ≠ "health".toList) :
      LeadsTo name ('/' :: raw) .collection
  | item {raw rawId : List Char} {id : String} (h : Url.Spells raw name) (hid : Url.Spells rawId id)
      (hne : rawId ≠ []) : LeadsTo name ('/' :: raw ++ '/' :: rawId) (.item id)

/-- What a verb asks at a place: to read, to remove, to patch or to replace with a record, and to create in a
collection. -/
inductive Asks (place : Place) (query : List Char) (request : Request) : Verb → Operation → Prop where
  | read {verb : Verb} {fields : Fields} (hverb : verb.isSafe = true) (hquery : decodeQuery query = .ok fields) :
      Asks place query request verb (place.read fields)
  | remove {fields : Fields} (hquery : decodeQuery query = .ok fields) :
      Asks place query request .delete (.remove (place.target fields).1 (place.target fields).2)
  | patch {record : Record} {fields : Fields} (hbody : bodyValue request = .ok (.object record))
      (hquery : decodeQuery query = .ok fields) :
      Asks place query request .patch (.patch (place.target fields).1 record (place.target fields).2)
  | update {record : Record} {fields : Fields} (hbody : bodyValue request = .ok (.object record))
      (hquery : decodeQuery query = .ok fields) :
      Asks place query request .put (.update (place.target fields).1 record (place.target fields).2)
  | create {body : Value} {data : OneOrMany Record} (hplace : place.allows .post = true)
      (hbody : bodyValue request = .ok body) (hdata : OneOrMany.ofValue? body = some data) :
      Asks place query request .post (.create data)

/-- The statuses of requests that cannot be read. -/
def malformedStatuses : List Nat := [400, 413, 415, 422]

theorem decodeQuery_cases (query : List Char) :
    (∃ fields, decodeQuery query = .ok fields) ∨
      ∃ refusal, decodeQuery query = .error refusal ∧ refusal.status ∈ malformedStatuses := by
  rw [decodeQuery]
  cases Bracket.decode (Url.Form.decode query) with
  | ok fields => exact .inl ⟨fields, rfl⟩
  | error fault => exact .inr ⟨_, rfl, List.mem_cons_self⟩

theorem bodyValue_cases (request : Request) :
    (∃ body, bodyValue request = .ok body) ∨
      ∃ refusal, bodyValue request = .error refusal ∧ refusal.status ∈ malformedStatuses := by
  unfold bodyValue
  split
  · split
    · split
      · exact .inr ⟨_, rfl, by decide⟩
      · split
        · exact .inl ⟨_, rfl⟩
        · exact .inr ⟨_, rfl, by decide⟩
    · exact .inr ⟨_, rfl, by decide⟩
  · exact .inr ⟨_, rfl, by decide⟩

theorem readRecord_object {query : List Char} {fields : Fields} (h : decodeQuery query = .ok fields) (record : Record) :
    readRecord query (.object record) = .ok (fields, record) := by
  rw [readRecord, h]
  rfl

theorem readRecord_cases (query : List Char) (body : Value) :
    (∃ fields record, decodeQuery query = .ok fields ∧ body = .object record) ∨
      ∃ refusal, readRecord query body = .error refusal ∧ refusal.status ∈ malformedStatuses := by
  rcases decodeQuery_cases query with ⟨fields, hquery⟩ | ⟨refusal, hquery, hstatus⟩
  · cases body with
    | object record => exact .inl ⟨fields, record, hquery, rfl⟩
    | null | bool _ | number _ | string _ | array _ =>
      exact .inr ⟨_, by rw [readRecord, hquery]; rfl, List.mem_cons_self⟩
  · exact .inr ⟨refusal, by rw [readRecord, hquery]; rfl, hstatus⟩

/-- A call asks its resource for an operation, or it is refused as malformed. -/
structure Settles (outcome : Except Response Call) (name : String) (asks : Operation → Prop) : Prop where
  asked : ∀ operation, asks operation → outcome = .ok ⟨name, .ok operation⟩
  refused : (∀ operation, ¬ asks operation) → ∃ refusal : Response, refusal.status ∈ malformedStatuses ∧
    (outcome = .error refusal ∨ outcome = .ok ⟨name, .error refusal⟩)

section

variable {asks : Operation → Prop} {query : List Char}

theorem bind_body {body : Value} (h : bodyValue request = .ok body) (next : Value → Except Response Call) :
    (bodyValue request >>= next) = next body := by
  rw [h]
  rfl

theorem settles_query {operation : Fields → Operation}
    (h : ∀ other, asks other ↔ ∃ fields, decodeQuery query = .ok fields ∧ other = operation fields) :
    Settles (.ok ⟨name, (decodeQuery query).map operation⟩) name asks := by
  refine ⟨?_, ?_⟩
  · intro other hasks
    obtain ⟨fields, hquery, rfl⟩ := (h other).mp hasks
    rw [hquery]
    rfl
  · intro hnone
    rcases decodeQuery_cases query with ⟨fields, hquery⟩ | ⟨refusal, hquery, hstatus⟩
    · exact absurd ((h _).mpr ⟨fields, hquery, rfl⟩) (hnone _)
    · exact ⟨refusal, hstatus, .inr (by rw [hquery]; rfl)⟩

theorem settles_record {operation : Fields × Record → Operation}
    (h : ∀ other, asks other ↔ ∃ fields record, bodyValue request = .ok (.object record) ∧
      decodeQuery query = .ok fields ∧ other = operation (fields, record)) :
    Settles (bodyValue request >>= fun body => pure ⟨name, (readRecord query body).map operation⟩) name asks := by
  refine ⟨?_, ?_⟩
  · intro other hasks
    obtain ⟨fields, record, hbody, hquery, rfl⟩ := (h other).mp hasks
    rw [bind_body hbody, readRecord_object hquery]
    rfl
  · intro hnone
    rcases bodyValue_cases request with ⟨body, hbody⟩ | ⟨refusal, hbody, hstatus⟩
    · rcases readRecord_cases query body with ⟨fields, record, hquery, rfl⟩ | ⟨refusal, hread, hstatus⟩
      · exact absurd ((h _).mpr ⟨fields, record, hbody, hquery, rfl⟩) (hnone _)
      · refine ⟨refusal, hstatus, .inr ?_⟩
        rw [bind_body hbody, hread]
        rfl
    · exact ⟨refusal, hstatus, .inl (by rw [hbody]; rfl)⟩

/-- A body is created in a collection if it holds a record or several. -/
theorem settles_create (name : String) (query : List Char) (request : Request) :
    Settles (collectionCall .post name query request) name (Asks .collection query request .post) := by
  refine ⟨?_, ?_⟩
  · intro operation hasks
    cases hasks with
    | read hverb => cases hverb
    | create _ hbody hdata =>
      rw [collectionCall, bind_body hbody, hdata]
      rfl
  · intro hnone
    rcases bodyValue_cases request with ⟨body, hbody⟩ | ⟨refusal, hbody, hstatus⟩
    · cases hdata : OneOrMany.ofValue? body with
      | some data => exact absurd (.create rfl hbody hdata) (hnone _)
      | none =>
        refine ⟨.bare 422, by decide, .inl ?_⟩
        rw [collectionCall, bind_body hbody, hdata]
    · exact ⟨refusal, hstatus, .inl (by rw [collectionCall, hbody]; rfl)⟩

theorem asks_plain_iff {place : Place} {ask : Fields → Operation} (h : place.plain? verb = some ask)
    (operation : Operation) :
    Asks place query request verb operation ↔ ∃ fields, decodeQuery query = .ok fields ∧ operation = ask fields := by
  constructor
  · intro hasks
    cases hasks with
    | read hverb hquery =>
      cases verb with
      | get | head =>
        cases h
        exact ⟨_, hquery, rfl⟩
      | delete | patch | put | post => cases hverb
    | remove hquery =>
      cases h
      exact ⟨_, hquery, rfl⟩
    | patch | update | create => cases h
  · rintro ⟨fields, hquery, rfl⟩
    cases verb with
    | get | head =>
      cases h
      exact .read rfl hquery
    | delete =>
      cases h
      exact .remove hquery
    | patch | put | post => cases h

theorem asks_change_iff {place : Place} {change : Fields → Record → Operation} (h : place.change? verb = some change)
    (operation : Operation) :
    Asks place query request verb operation ↔ ∃ fields record, bodyValue request = .ok (.object record) ∧
      decodeQuery query = .ok fields ∧ operation = change fields record := by
  constructor
  · intro hasks
    cases hasks with
    | read hverb =>
      cases verb with
      | get | head => cases h
      | delete | patch | put | post => cases hverb
    | patch hbody hquery | update hbody hquery =>
      cases h
      exact ⟨_, _, hbody, hquery, rfl⟩
    | remove | create => cases h
  · rintro ⟨fields, record, hbody, hquery, rfl⟩
    cases verb with
    | patch =>
      cases h
      exact .patch hbody hquery
    | put =>
      cases h
      exact .update hbody hquery
    | get | head | delete | post => cases h

theorem settles_call {place : Place} (hallows : place.allows verb = true) (name : String) (query : List Char)
    (request : Request) : Settles (place.call verb name query request) name (Asks place query request verb) := by
  cases verb with
  | get | head | delete => cases place <;> exact settles_query (asks_plain_iff rfl)
  | patch | put => cases place <;> exact settles_record (asks_change_iff rfl)
  | post =>
    cases place with
    | collection => exact settles_create name query request
    | item => cases hallows

end

/-! ### Routes of places -/

theorem ofPath?_collection {raw : List Char} (hne : raw ≠ []) (hhealth : raw ≠ "health".toList) (hslash : '/' ∉ raw) :
    Route.ofPath? ('/' :: raw) = some (.collection raw) := by
  have hparts : Text.splitOn '/' ('/' :: raw) = [[], raw] := by
    rw [Text.splitOn, if_pos rfl, Text.splitOn_of_not_mem hslash]
  rw [Route.ofPath?, hparts]
  simp only [if_neg hne, if_neg hhealth]

theorem ofPath?_item {raw rawId : List Char} (hne : rawId ≠ []) (hslash : '/' ∉ raw) (hslashId : '/' ∉ rawId) :
    Route.ofPath? ('/' :: raw ++ '/' :: rawId) = some (.item raw rawId) := by
  have hparts : Text.splitOn '/' ('/' :: raw ++ '/' :: rawId) = [[], raw, rawId] := by
    rw [List.cons_append, Text.splitOn, if_pos rfl, Text.splitOn_append hslash, Text.splitOn_of_not_mem hslashId]
  rw [Route.ofPath?, hparts]
  simp only [if_neg hne]

def settle (state : State) : Except Response Call → Response × State
  | .ok call => perform state call
  | .error refusal => (refusal, state)

theorem answerRoute_eq_settle {route : Route} (h : route ≠ .health) (state : State) (verb : Verb) (query : List Char)
    (request : Request) : answerRoute state route verb query request = settle state (callOf route verb query request) := by
  rw [answerRoute, if_neg h]
  cases callOf route verb query request <;> rfl

/-- A path of a place leads to a route on which the same is asked. -/
theorem LeadsTo.exists_route {place : Place} (h : LeadsTo name path place) (hname : name ≠ "") :
    ∃ rest route, path = '/' :: rest ∧ '?' ∉ rest ∧ '#' ∉ rest ∧ Route.ofPath? path = some route ∧
      route ≠ .health ∧ (∀ verb, route.allows verb = place.allows verb) ∧
      ∀ verb query request, callOf route verb query request = place.call verb name query request := by
  cases h with
  | @collection raw hraw hhealth =>
    have hne : raw ≠ [] := by
      rintro rfl
      exact hname (Option.some.inj hraw.reads).symm
    refine ⟨raw, .collection raw, rfl, hraw.noQuery, hraw.noFragment, ofPath?_collection hne hhealth hraw.noSlash,
      Route.noConfusion, fun _ => rfl, ?_⟩
    intro verb query request
    rw [callOf, hraw.reads]
    rfl
  | @item raw rawId id hraw hid hne =>
    have hmark : '?' ∉ raw ++ '/' :: rawId := by simp [hraw.noQuery, hid.noQuery]
    have hfragment : '#' ∉ raw ++ '/' :: rawId := by simp [hraw.noFragment, hid.noFragment]
    refine ⟨raw ++ '/' :: rawId, .item raw rawId, rfl, hmark, hfragment, ofPath?_item hne hraw.noSlash hid.noSlash,
      Route.noConfusion, fun _ => rfl, ?_⟩
    intro verb query request
    rw [callOf, hraw.reads, hid.reads]
    rfl

theorem answer_place {place : Place} (hname : name ≠ "") (hpath : LeadsTo name path place)
    (hallows : place.allows verb = true) (h : request.To verb path query) (state : State) :
    answer state request = (shown verb (settle state (place.call verb name (query.getD []) request)).1,
      (settle state (place.call verb name (query.getD []) request)).2) := by
  obtain ⟨rest, route, rfl, hmark, hfragment, hroute, hhealth, hverbs, hcall⟩ := hpath.exists_route hname
  rw [answer_of_route h hmark hfragment hroute, if_pos ((hverbs verb).trans hallows), answerRoute_eq_settle hhealth, hcall]

/-! ### What a resource makes of it -/

/-- What a resource answers to an operation, and the resource that the operation leaves. -/
def Resource.respond (resource : Resource) (operation : Operation) : Response × Resource :=
  let (answer, table) := operation.run resource.service resource.table
  (match answer with
    | .ok value => .json operation.status value
    | .error e => .ofError e, { resource with table })

theorem perform_operation (h : state.resources.lookup name = some resource) (operation : Operation) :
    perform state ⟨name, .ok operation⟩ = ((resource.respond operation).1,
      ⟨Entries.insert name (resource.respond operation).2 state.resources⟩) := by
  unfold perform
  dsimp only
  rw [h]
  rfl

/-- A resource serves a request: it carries out what is asked, and the other resources stay as they are; a request that
asks for nothing that can be read is refused, and the hub stays as it is. -/
structure State.Serves (state : State) (name : String) (resource : Resource) (verb : Verb) (request : Request)
    (asks : Operation → Prop) : Prop where
  performs : ∀ operation, asks operation → answer state request = (shown verb (resource.respond operation).1,
    ⟨Entries.insert name (resource.respond operation).2 state.resources⟩)
  refuses : (∀ operation, ¬ asks operation) → ∃ refusal : Response, refusal.status ∈ malformedStatuses ∧
    answer state request = (shown verb refusal, state)

theorem serves_place {place : Place} (hname : name ≠ "") (hpath : LeadsTo name path place)
    (hallows : place.allows verb = true) (h : request.To verb path query)
    (hlookup : state.resources.lookup name = some resource) :
    state.Serves name resource verb request (Asks place (query.getD []) request verb) := by
  have hanswer := answer_place hname hpath hallows h state
  have hsettles := settles_call hallows name (query.getD []) request
  refine ⟨?_, ?_⟩
  · intro operation hasks
    rw [hanswer, hsettles.asked operation hasks, settle, perform_operation hlookup]
  · intro hnone
    obtain ⟨refusal, hstatus, hcall | hcall⟩ := hsettles.refused hnone
    · exact ⟨refusal, hstatus, by rw [hanswer, hcall, settle]⟩
    · refine ⟨refusal, hstatus, ?_⟩
      rw [hanswer, hcall, settle, perform]
      simp only [hlookup]

/-! ### Resources of a configuration -/

theorem lookup_start (hdistinct : (config.resources.map ResourceConfig.name).Nodup) (hr : r ∈ config.resources) :
    (start config).resources.lookup r.name = some ⟨r.service, r.table⟩ := by
  have hentries : Entries.Distinct (config.resources.map fun r => (r.name, Resource.mk r.service r.table)) := by
    rw [Entries.Distinct, Entries.names, List.map_map]
    exact hdistinct
  have hlookup := Entries.lookup_of_mem hentries (List.mem_map_of_mem hr)
  rw [start, Entries.ofList, Entries.lookup_insertAll_of_distinct hentries, hlookup, Option.some_or]

/-- A request leaves the service of every resource. -/
theorem service_answer (state : State) (request : Request) (name : String) :
    ((answer state request).2.resources.lookup name).map Resource.service
      = (state.resources.lookup name).map Resource.service := by
  cases course request with
  | refused response h => rw [h]
  | health shown hname h => rw [h]
  | performed call shown hname hreads h =>
    rw [h]
    rcases perform_cases state call with hsame | ⟨resource, operation, hlookup, _, hnext⟩
    · rw [hsame]
    · -- What is written is the resource of the call, with another table.
      rw [hnext, Entries.lookup_insert]
      split
      · rename_i heq
        rw [heq, hlookup]
        rfl
      · rfl

theorem service_after (state : State) (requests : List Request) (name : String) :
    ((state.after requests).resources.lookup name).map Resource.service
      = (state.resources.lookup name).map Resource.service := by
  induction requests generalizing state with
  | nil => rfl
  | cons request rest ih => rw [State.after, ih, service_answer]

/-- The word of the health check, not escaped, is answered by the health check, whatever the resources are. -/
theorem answer_health (h : request.To verb "/health".toList query) (state : State) :
    answer state request
      = (if verb.isSafe then shown verb (.json 200 (healthValue state)) else .bare 405, state) := by
  have hroute : Route.ofPath? ('/' :: "health".toList) = some .health := by decide +kernel
  rw [answer_of_route h (by decide +kernel) (by decide +kernel) hroute, Route.allows, answerRoute, if_pos rfl]
  split <;> rfl

theorem spells_health : Url.Spells "health".toList "health" := by
  decide +kernel

/-- What is written for a name that is not the word of the health check is not this word. -/
theorem leadsTo_of_ne {raw : List Char} (hname : name ≠ "health") (h : Url.Spells raw name) :
    LeadsTo name ('/' :: raw) .collection := by
  refine .collection h ?_
  rintro rfl
  exact hname (Option.some.inj (h.reads.symm.trans spells_health.reads))

theorem exists_leadsTo (name : String) : ∃ path, LeadsTo name path .collection := by
  by_cases hname : name = "health"
  · subst hname
    have hspells : Url.Spells "%68ealth".toList "health" := by decide +kernel
    exact ⟨_, .collection hspells (by decide)⟩
  · have hkeeps : Url.KeepsParts fun _ => false := nofun
    exact ⟨_, leadsTo_of_ne hname (Url.spells_escapeUnless hkeeps name)⟩

/-- After any requests, every resource of a configuration is served by its own service: on every path of its collection
and of its items, for each verb of the place, what is asked is carried out on its table. These are all the spellings of its
name, however it is escaped, unless it is the word of the health check. A resource of this name is reached by its items,
and by its collection where an escape is written; the plain word is answered by the health check. -/
theorem resource_served (hdistinct : (config.resources.map ResourceConfig.name).Nodup) (hr : r ∈ config.resources)
    (hname : r.name ≠ "") (requests : List Request) :
    ∃ table, ((start config).after requests).resources.lookup r.name = some ⟨r.service, table⟩ ∧
      (∀ path place, LeadsTo r.name path place → ∀ verb, place.allows verb = true →
        ∀ request query, request.To verb path query → ((start config).after requests).Serves r.name ⟨r.service, table⟩ verb
          request (Asks place (query.getD []) request verb)) ∧
      (∀ plain, Url.KeepsParts plain → Url.Spells (Url.escapeUnless plain r.name.toList) r.name) ∧
      (r.name ≠ "health" → ∀ raw, Url.Spells raw r.name → LeadsTo r.name ('/' :: raw) .collection) ∧
      (∃ path, LeadsTo r.name path .collection) ∧
      ∀ request verb query, request.To verb "/health".toList query →
        answer ((start config).after requests) request
          = (if verb.isSafe then shown verb (.json 200 (healthValue ((start config).after requests))) else .bare 405,
            (start config).after requests) := by
  have hservice := service_after (start config) requests r.name
  rw [lookup_start hdistinct hr, Option.map_some, Option.map_eq_some_iff] at hservice
  obtain ⟨⟨service, table⟩, hlookup, rfl⟩ := hservice
  refine ⟨table, hlookup, ?_, ?_, ?_, exists_leadsTo r.name, ?_⟩
  · intro path place hpath verb hallows request query h
    exact serves_place hname hpath hallows h hlookup
  · intro plain hplain
    exact Url.spells_escapeUnless hplain r.name
  · intro hother raw hraw
    exact leadsTo_of_ne hother hraw
  · intro request verb query h
    exact answer_health h _

def shadowed : ResourceConfig := ⟨"health", "id", ["text"], [], none, []⟩

def shadowing : Config := ⟨Config.standardBind, [shadowed, ⟨"a/b", "id", ["text"], [], none, []⟩]⟩

theorem nodup_shadowing : (shadowing.resources.map ResourceConfig.name).Nodup := by
  decide

/-- A row is created with an escape in the path, and it is read as an item. The plain word is answered by the health
check. -/
theorem resource_served_shadowing :
    let create : Request := ⟨"POST", "/%68ealth", some "application/json", "\x7b\"text\":\"a\"\x7d"⟩
    let get : Request := ⟨"GET", "/health/1", none, ""⟩
    let state := (start shadowing).after [create]
    (∃ table, state.resources.lookup "health" = some ⟨shadowed.service, table⟩ ∧
        (answer state get).1 = (Resource.respond ⟨shadowed.service, table⟩ (.get (.ofInt 1) [])).1) ∧
      (answer state get).1 = .json 200 (.object [("id", .ofInt 1), ("text", .string "a")]) ∧
      (answer state ⟨"GET", "/health", none, ""⟩).1 = .json 200 (healthValue state) := by
  intro create get state
  have hr : shadowed ∈ shadowing.resources := List.mem_cons_self
  have hpath : LeadsTo "health" ('/' :: "health".toList ++ '/' :: "1".toList) (.item "1") :=
    .item spells_health (by decide +kernel) (by decide)
  have hget : get.To .get ('/' :: "health".toList ++ '/' :: "1".toList) none := ⟨rfl, by decide +kernel, by decide⟩
  have hask : Request.To ⟨"GET", "/health", none, ""⟩ .get "/health".toList none := ⟨rfl, by decide +kernel, by decide⟩
  have hasks : Asks (.item "1") [] get .get (.get (.ofInt 1) []) := .read rfl rfl
  obtain ⟨table, hlookup, hserves, _, _, _, hhealth⟩ := resource_served nodup_shadowing hr (by decide) [create]
  refine ⟨⟨table, hlookup, ?_⟩, by decide +kernel, ?_⟩
  · rw [(hserves _ _ hpath .get rfl get none hget).performs _ hasks]
    rfl
  · rw [hhealth _ _ _ hask]
    rfl

/-- On the plain word nothing is created. -/
theorem not_forall_name_served :
    ¬ ∀ config : Config, (config.resources.map ResourceConfig.name).Nodup → ∀ r ∈ config.resources,
      r.name ≠ "" ∧ '/' ∉ r.name.toList → ∀ raw, Url.Spells raw r.name → ∀ verb request query,
      request.To verb ('/' :: raw) query → ∃ table,
        (start config).resources.lookup r.name = some ⟨r.service, table⟩ ∧
        (start config).Serves r.name ⟨r.service, table⟩ verb request (Asks .collection (query.getD []) request verb) := by
  intro hall
  let create : Request := ⟨"POST", "/health", some "application/json", "\x7b\"text\":\"a\"\x7d"⟩
  have hr : shadowed ∈ shadowing.resources := List.mem_cons_self
  have hcreate : create.To .post ('/' :: "health".toList) none := ⟨rfl, by decide +kernel, by decide⟩
  have hasks : Asks .collection [] create .post (.create (.one [("text", .string "a")])) :=
    .create rfl (show bodyValue create = .ok (.object [("text", .string "a")]) by decide +kernel) rfl
  obtain ⟨table, hlookup, hserves⟩ := hall shadowing nodup_shadowing shadowed hr (by decide) "health".toList spells_health
    .post create none hcreate
  rw [lookup_start nodup_shadowing hr] at hlookup
  injection hlookup with hresource
  injection hresource with _ htable
  have hanswer := congrArg (fun outcome => outcome.1.status) (hserves.performs _ hasks)
  rw [← htable] at hanswer
  revert hanswer
  decide +kernel

end Hub

end RowStore
