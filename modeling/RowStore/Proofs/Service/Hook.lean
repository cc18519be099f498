import RowStore.Proofs.Service.Get
import RowStore.Proofs.Service.Writes

/-!
# The hook

An operation asks its storage for everything before its failure, if there is one, meets the hook. So services that differ
in their hooks only ask for the same, leave the same and give the same, and what the hook makes a failure of is made of the
one that the caller would have seen without it.
-/

namespace RowStore.Service

set_option autoImplicit false

inductive Answer where
  | selection (selection : Selection)
  | record (record : Record)
  | records (data : OneOrMany Record)
deriving DecidableEq, Repr

variable {σ α β : Type}

/-- An operation as an action, with its answer. -/
def act (service : Service σ) : Operation → Action σ Answer
  | .find params => Answer.selection <$> service.find params
  | .get id params => Answer.record <$> service.get id params
  | .create data params => Answer.records <$> service.create data params
  | .patch target data params => Answer.records <$> service.patch target data params
  | .update target data params => Answer.record <$> service.update target data params
  | .remove target params => Answer.records <$> service.remove target params

/-- The same service, with failures that come to the caller as they are. -/
def unhooked (service : Service σ) : Service σ :=
  { service with hook := fun e => e }

theorem of_unhooked_report_error {service : Service σ} {action : Action σ α} {e : ServiceError} {s s' : σ}
    (h : (service.unhooked.report action).on s = (.error e, s')) : action.on s = (.error e, s') := by
  rw [on_report] at h
  rcases houtcome : action.on s with ⟨outcome, t⟩
  rw [houtcome] at h
  cases outcome with
  | ok a => cases h
  | error e =>
    cases h
    rfl

theorem map_report_cases (service : Service σ) (f : α → β) (action : Action σ α) (s : σ) :
    (∃ b s', (f <$> service.unhooked.report action).on s = (.ok b, s') ∧
      (f <$> service.report action).on s = (.ok b, s')) ∨
    ∃ e s', (f <$> service.unhooked.report action).on s = (.error e, s') ∧
      (f <$> service.report action).on s = (.error (service.hook e), s') := by
  rw [Action.on_map, Action.on_map, on_report, on_report]
  rcases action.on s with ⟨outcome, s'⟩
  cases outcome with
  | ok a => exact .inl ⟨f a, s', rfl, rfl⟩
  | error e => exact .inr ⟨e, s', rfl, rfl⟩

/-- An operation does and gives what it does and gives without a hook, but for its failure. -/
theorem act_cases (service : Service σ) (op : Operation) (s : σ) :
    (∃ answer s', (service.unhooked.act op).on s = (.ok answer, s') ∧ (service.act op).on s = (.ok answer, s')) ∨
    ∃ e s', (service.unhooked.act op).on s = (.error e, s') ∧
      (service.act op).on s = (.error (service.hook e), s') := by
  -- In each operation, what is reported is the same action for all hooks.
  cases op with
  | find params => exact map_report_cases service Answer.selection _ s
  | get id params => exact map_report_cases service Answer.record _ s
  | create data params => exact map_report_cases service Answer.records _ s
  | patch target data params => exact map_report_cases service Answer.records _ s
  | update target data params => exact map_report_cases service Answer.record _ s
  | remove target params => exact map_report_cases service Answer.records _ s

/-- Two services are made alike, over a storage that may fail anywhere, but one with a hook and one without. Every operation
asks the storage for the same things and leaves it in the same state. What it gives without the hook it gives with it, and
where it fails, its failure has gone through the hook once. -/
theorem act_on_of_hook (storage : Storage σ) (failures : List Storage.Failure)
    (options : ServiceOptions (Storage.Watched σ)) (hook : ServiceError → ServiceError) :
    ∃ plain hooked : Service (Storage.Watched σ),
      ofOptions (some { options with storage := some (storage.watched failures), hook := none }) = .ok plain ∧
      ofOptions (some { options with storage := some (storage.watched failures), hook := some hook }) = .ok hooked ∧
      ∀ (op : Operation) (w : Storage.Watched σ),
        ((hooked.act op).on w).2.requests = ((plain.act op).on w).2.requests ∧
        ((hooked.act op).on w).2.state = ((plain.act op).on w).2.state ∧
        (∀ answer, ((plain.act op).on w).1 = .ok answer → ((hooked.act op).on w).1 = .ok answer) ∧
        ∀ e, ((plain.act op).on w).1 = .error e → ((hooked.act op).on w).1 = .error (hook e) := by
  let service : Service (Storage.Watched σ) := ⟨storage.watched failures, options.id.getD standardId,
    options.name.getD standardName, options.policy.getD .off, options.events, hook⟩
  refine ⟨service.unhooked, service, rfl, rfl, ?_⟩
  intro op w
  rcases act_cases service op w with ⟨answer, w', hplain, hhooked⟩ | ⟨e, w', hplain, hhooked⟩
  · rw [hplain, hhooked]
    exact ⟨rfl, rfl, fun _ h => h, nofun⟩
  · rw [hplain, hhooked]
    refine ⟨rfl, rfl, nofun, ?_⟩
    intro _ h
    cases h
    rfl

/-- Of three records that are created together, the second is inserted but not found again, for a text spells its key. The
mark that the hook puts on the failure is there once. -/
example :
    let marking : Service Table := { standard with hook := fun e => .badRequest (e.message ++ "!") }
    let start := people.perform (.insert [("id", .string "4")])
    (marking.create (.many [[("name", .string "Cy")], [("name", .string "Di")], []]) .none).on start
      = (.error (.badRequest "No record found for id '4'!"),
        start.run [.insert [("name", .string "Cy")], .insert [("name", .string "Di")]]) := by
  decide +kernel

end RowStore.Service
