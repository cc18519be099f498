import Mathlib.Order.Defs.Unbundled
import RowStore.Service

/-!
# What actions do

An action is known by what it gives and the state it leaves. A relation of states that is a preorder can be followed
along an action, from one request to the next, and where an action fails one of its parts has failed. Over a table,
looking for rows neither fails nor changes anything once the query has been read.
-/

namespace RowStore.Service

set_option autoImplicit false

namespace Action

variable {σ α β : Type} {s s' : σ}

theorem on_bind (action : Action σ α) (next : α → Action σ β) :
    (action >>= next).on s = match action.on s with
      | (.ok a, s') => (next a).on s'
      | (.error e, s') => (.error e, s') := by
  have h : (action >>= next).on s = (match action.on s with
      | (r, s') => (ExceptT.bindCont next r).run s') := rfl
  rw [h]
  cases action.on s with
  | mk outcome s' => cases outcome <;> rfl

theorem on_bind_ok {action : Action σ α} {a : α} (next : α → Action σ β) (h : action.on s = (.ok a, s')) :
    (action >>= next).on s = (next a).on s' := by
  rw [on_bind, h]

theorem on_bind_error {action : Action σ α} {e : ServiceError} (next : α → Action σ β)
    (h : action.on s = (.error e, s')) : (action >>= next).on s = (.error e, s') := by
  rw [on_bind, h]

theorem on_map (f : α → β) (action : Action σ α) (s : σ) :
    (f <$> action).on s = match action.on s with
      | (.ok a, s') => (.ok (f a), s')
      | (.error e, s') => (.error e, s') := by
  rw [map_eq_pure_bind, on_bind]
  rfl

theorem on_checked_ok {outcome : Except QueryError α} {a : α} (h : outcome = .ok a) :
    (checked outcome : Action σ α).on s = (.ok a, s) := by
  rw [h]
  rfl

theorem on_checked_error {outcome : Except QueryError α} {e : QueryError} (h : outcome = .error e) :
    (checked outcome : Action σ α).on s = (.error (.query e), s) := by
  rw [h]
  rfl

theorem on_ask_ok {request : σ → Reply σ α} {a : α} (h : request s = (.ok a, s')) :
    (ask request).on s = (.ok a, s') := by
  simp only [ask, on, ExceptT.run, ExceptT.mk, StateT.run, h]

theorem on_ask_error {request : σ → Reply σ α} {report : String} (h : request s = (.error report, s')) :
    (ask request).on s = (.error (.storage report), s') := by
  simp only [ask, on, ExceptT.run, ExceptT.mk, StateT.run, h]

theorem of_on_ask_error {request : σ → Reply σ α} {e : ServiceError} (h : (ask request).on s = (.error e, s')) :
    ∃ report, e = .storage report ∧ request s = (.error report, s') := by
  rcases hreply : request s with ⟨answer, t⟩
  cases answer with
  | ok a =>
    rw [on_ask_ok hreply] at h
    cases h
  | error report =>
    rw [on_ask_error hreply] at h
    cases h
    exact ⟨report, rfl, rfl⟩

/-- What is asked of a storage changes the state as the request does. -/
theorem on_ask_snd (request : σ → Reply σ α) (s : σ) : ((ask request).on s).2 = (request s).2 := by
  cases h : request s with
  | mk answer s' => cases answer with
    | ok a => rw [on_ask_ok h]
    | error report => rw [on_ask_error h]

/-- A sequence fails with its first part, or with the rest from where that has left off. -/
theorem of_on_bind_error {action : Action σ α} {next : α → Action σ β} {e : ServiceError}
    (h : (action >>= next).on s = (.error e, s')) :
    action.on s = (.error e, s') ∨ ∃ a t, action.on s = (.ok a, t) ∧ (next a).on t = (.error e, s') := by
  rw [on_bind] at h
  rcases houtcome : action.on s with ⟨outcome, t⟩
  rw [houtcome] at h
  cases outcome with
  | ok a => exact .inr ⟨a, t, rfl, h⟩
  | error _ =>
    cases h
    exact .inl rfl

theorem of_on_map_error {f : α → β} {action : Action σ α} {e : ServiceError}
    (h : (f <$> action).on s = (.error e, s')) : action.on s = (.error e, s') := by
  rw [map_eq_pure_bind] at h
  rcases of_on_bind_error h with herror | ⟨a, t, _, hpure⟩
  · exact herror
  · cases hpure

/-- A sequence succeeds when its first part does, and the rest from where that has left off. -/
theorem of_on_bind_ok {action : Action σ α} {next : α → Action σ β} {b : β} (h : (action >>= next).on s = (.ok b, s')) :
    ∃ a t, action.on s = (.ok a, t) ∧ (next a).on t = (.ok b, s') := by
  rw [on_bind] at h
  rcases houtcome : action.on s with ⟨outcome, t⟩
  rw [houtcome] at h
  cases outcome with
  | ok a => exact ⟨a, t, rfl, h⟩
  | error _ => cases h

theorem of_on_checked_ok {outcome : Except QueryError α} {a : α} (h : (checked outcome : Action σ α).on s = (.ok a, s')) :
    outcome = .ok a ∧ s = s' := by
  cases outcome with
  | ok b =>
    cases h
    exact ⟨rfl, rfl⟩
  | error e => cases h

theorem of_on_ask_ok {request : σ → Reply σ α} {a : α} (h : (ask request).on s = (.ok a, s')) : request s = (.ok a, s') := by
  rcases hreply : request s with ⟨answer, t⟩
  cases answer with
  | ok b =>
    rw [on_ask_ok hreply] at h
    cases h
    rfl
  | error report =>
    rw [on_ask_error hreply] at h
    cases h

/-- What is so of actions that do nothing and of one action after another is so of items in turn. -/
theorem each_closed {C : ∀ {γ : Type}, Action σ γ → Prop} (hpure : ∀ {γ : Type} (c : γ), C (pure c : Action σ γ))
    (hbind : ∀ {γ δ : Type} {action : Action σ γ} {next : γ → Action σ δ}, C action → (∀ c, C (next c)) →
      C (action >>= next))
    {f : α → Action σ β} {items : List α} (h : ∀ item ∈ items, C (f item)) : C (each f items) := by
  induction items with
  | nil => exact hpure []
  | cons item rest ih =>
    obtain ⟨hitem, hrest⟩ := List.forall_mem_cons.mp h
    exact hbind hitem fun result => hbind (ih hrest) fun results => hpure (result :: results)

/-- An action of whose failures something holds, from whatever state. -/
def FailsBy (P : ServiceError → Prop) (action : Action σ α) : Prop :=
  ∀ s e s', action.on s = (.error e, s') → P e

section

variable {P : ServiceError → Prop}

theorem failsBy_pure (a : α) : (pure a : Action σ α).FailsBy P :=
  fun _ _ _ h => by cases h

theorem failsBy_throw {e : ServiceError} (h : P e) : (throw e : Action σ α).FailsBy P := by
  intro s e' s' hrun
  cases hrun
  exact h

theorem failsBy_checked (h : ∀ fault, P (.query fault)) (outcome : Except QueryError α) :
    (checked outcome : Action σ α).FailsBy P := by
  cases outcome with
  | ok a => exact failsBy_pure a
  | error fault => exact failsBy_throw (h fault)

theorem failsBy_ask {request : σ → Reply σ α} (h : ∀ s report s', request s = (.error report, s') → P (.storage report)) :
    (ask request).FailsBy P := by
  intro s e s' hrun
  obtain ⟨report, rfl, hreply⟩ := of_on_ask_error hrun
  exact h s report s' hreply

theorem FailsBy.bind {action : Action σ α} {next : α → Action σ β} (h : action.FailsBy P) (hnext : ∀ a, (next a).FailsBy P) :
    (action >>= next).FailsBy P := by
  intro s e s' hrun
  rcases of_on_bind_error hrun with herror | ⟨a, t, _, hrest⟩
  · exact h s e s' herror
  · exact hnext a t e s' hrest

theorem FailsBy.map {action : Action σ α} (h : action.FailsBy P) (f : α → β) : (f <$> action).FailsBy P :=
  fun s e s' hrun => h s e s' (of_on_map_error hrun)

theorem failsBy_each {f : α → Action σ β} {items : List α} (h : ∀ item ∈ items, (f item).FailsBy P) :
    (each f items).FailsBy P :=
  each_closed (C := FailsBy P) failsBy_pure FailsBy.bind h

end

/-- An action that takes every state to a related one, whether or not it fails. -/
def Moves (R : σ → σ → Prop) (action : Action σ α) : Prop :=
  ∀ s, R s (action.on s).2

section

variable {R : σ → σ → Prop} [IsPreorder σ R]

theorem moves_pure (a : α) : (pure a : Action σ α).Moves R :=
  fun s => Std.Refl.refl s

theorem moves_throw (e : ServiceError) : (throw e : Action σ α).Moves R :=
  fun s => Std.Refl.refl s

theorem Moves.bind {action : Action σ α} {next : α → Action σ β} (h : action.Moves R)
    (hnext : ∀ a, (next a).Moves R) : (action >>= next).Moves R := by
  intro s
  have hfirst := h s
  rw [on_bind]
  rcases houtcome : action.on s with ⟨outcome, s'⟩
  rw [houtcome] at hfirst
  cases outcome with
  -- A failure ends the action; what has come about so far stays.
  | error e => exact hfirst
  | ok a => exact IsTrans.trans _ _ _ hfirst (hnext a s')

theorem Moves.map {action : Action σ α} (h : action.Moves R) (f : α → β) : (f <$> action).Moves R := by
  rw [map_eq_pure_bind]
  exact h.bind fun a => moves_pure (f a)

theorem moves_checked (outcome : Except QueryError α) : (checked outcome : Action σ α).Moves R := by
  cases outcome with
  | ok a => exact moves_pure a
  | error e => exact moves_throw (.query e)

omit [IsPreorder σ R] in
theorem moves_ask {request : σ → Reply σ α} (h : ∀ s, R s (request s).2) : (ask request).Moves R := by
  intro s
  rw [on_ask_snd]
  exact h s

theorem moves_each {f : α → Action σ β} {items : List α} (h : ∀ item ∈ items, (f item).Moves R) :
    (each f items).Moves R :=
  each_closed (C := Moves R) moves_pure Moves.bind h

end

end Action

variable {σ α : Type}

/-- A failure goes through the hook; nothing else is changed. -/
theorem on_report (service : Service σ) (action : Action σ α) (s : σ) :
    (service.report action).on s = match action.on s with
      | (.ok a, s') => (.ok a, s')
      | (.error e, s') => (.error (service.hook e), s') := rfl

section

open Service.Action

variable {service : Service σ} {R : σ → σ → Prop}

theorem moves_report {action : Action σ α} (h : action.Moves R) : (service.report action).Moves R := by
  intro s
  have hs := h s
  rw [on_report]
  rcases houtcome : action.on s with ⟨outcome, s'⟩
  rw [houtcome] at hs
  cases outcome <;> exact hs

theorem on_rowKey_some {row : Record} {k : Value} (hk : Record.key? row service.id = some k) (s : σ) :
    (service.rowKey row).on s = (.ok k, s) := by
  rw [rowKey, hk]
  rfl

theorem on_rowKey_none {row : Record} (hk : Record.key? row service.id = none) (s : σ) :
    (service.rowKey row).on s = (.error (.noKey service.id), s) := by
  rw [rowKey, hk]
  rfl

variable [IsPreorder σ R]

/-- Looking for rows moves a storage as far as counting and fetching do. -/
theorem moves_findRows (hcount : ∀ plan s, R s (service.storage.count plan s).2)
    (hfetch : ∀ plan s, R s (service.storage.fetch plan s).2) (query : Fields) (policy : Option Policy) :
    (service.findRows query policy).Moves R := by
  refine (moves_checked _).bind fun q => (moves_checked _).bind fun plans => ?_
  refine (moves_ask (hcount plans.unbounded)).bind fun total => ?_
  cases plans.paginated with
  | none => exact (moves_pure []).bind fun rows => moves_pure _
  | some plan => exact (moves_ask (hfetch plan)).bind fun rows => moves_pure _

theorem moves_getRow (hcount : ∀ plan s, R s (service.storage.count plan s).2)
    (hfetch : ∀ plan s, R s (service.storage.fetch plan s).2) (id : Value) (params : Params) :
    (service.getRow id params).Moves R := by
  refine (moves_findRows hcount hfetch _ _).bind fun found => ?_
  split
  · exact moves_pure _
  · exact moves_throw _

theorem moves_rowKey (row : Record) : (service.rowKey row).Moves R := by
  rw [rowKey]
  cases Record.key? row service.id with
  | some id => exact moves_pure id
  | none => exact moves_throw _

end

def pageRows (table : Table) (plans : Plans) : List Record :=
  match plans.paginated with
  | some plan => table.fetch plan
  | none => []

/-- A storage that counts all rows that match, and fetches those of the page where there is one, gives them. -/
theorem findRows_of_answers {service : Service σ} {query : Fields} {policy : Option Policy} {q : Query} {plans : Plans}
    {total : Nat} {rows : List Record} {s counted fetched : σ} (hq : Query.ofFields query policy = .ok q)
    (hp : Plan.ofQuery service.id q = .ok plans)
    (hcount : service.storage.count plans.unbounded s = (.ok total, counted))
    (hfetch : match plans.paginated with
      | some plan => service.storage.fetch plan counted = (.ok rows, fetched)
      | none => rows = [] ∧ fetched = counted) :
    (service.findRows query policy).on s = (.ok ⟨total, q.controls.limit, q.controls.skip, rows⟩, fetched) := by
  unfold findRows
  rw [Action.on_bind_ok _ (Action.on_checked_ok hq), Action.on_bind_ok _ (Action.on_checked_ok hp),
    Action.on_bind_ok _ (Action.on_ask_ok hcount)]
  cases hpaginated : plans.paginated with
  | none =>
    rw [hpaginated] at hfetch
    obtain ⟨rfl, rfl⟩ := hfetch
    rfl
  | some plan =>
    rw [hpaginated] at hfetch
    exact Action.on_bind_ok _ (Action.on_ask_ok hfetch)

/-- Over a table, a query that can be read gives the rows of its page, and leaves the table. -/
theorem findRows_on {service : Service Table} (hs : service.storage = Table.storage) {query : Fields}
    {policy : Option Policy} {q : Query} {plans : Plans} (hq : Query.ofFields query policy = .ok q)
    (hp : Plan.ofQuery service.id q = .ok plans) (table : Table) :
    (service.findRows query policy).on table
      = (.ok ⟨table.count plans.unbounded, q.controls.limit, q.controls.skip, pageRows table plans⟩, table) := by
  apply findRows_of_answers hq hp
  · rw [hs]
    rfl
  · rw [hs, pageRows]
    cases plans.paginated with
    | none => exact ⟨rfl, rfl⟩
    | some plan => rfl

/-- Over a table, looking for rows fails on a faulty query only, and leaves the table. -/
theorem findRows_cases {service : Service Table} (hs : service.storage = Table.storage) (query : Fields)
    (policy : Option Policy) (table : Table) :
    (∃ e, (service.findRows query policy).on table = (.error (.query e), table)) ∨
      ∃ q plans, Query.ofFields query policy = .ok q ∧ Plan.ofQuery service.id q = .ok plans ∧
        (service.findRows query policy).on table
          = (.ok ⟨table.count plans.unbounded, q.controls.limit, q.controls.skip, pageRows table plans⟩, table) := by
  cases hq : Query.ofFields query policy with
  | error e =>
    refine .inl ⟨e, ?_⟩
    unfold findRows
    exact Action.on_bind_error _ (Action.on_checked_error hq)
  | ok q =>
    cases hp : Plan.ofQuery service.id q with
    | error e =>
      refine .inl ⟨e, ?_⟩
      unfold findRows
      rw [Action.on_bind_ok _ (Action.on_checked_ok hq)]
      exact Action.on_bind_error _ (Action.on_checked_error hp)
    | ok plans => exact .inr ⟨q, plans, rfl, hp, findRows_on hs hq hp table⟩

end RowStore.Service
