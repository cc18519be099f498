import RowStore.Json.Reader

/-!
# Names in a JSON text

An object that is read from a text has no name twice: a name that is repeated writes over its first value.
-/

namespace RowStore

set_option autoImplicit false

namespace Json

/-- An object in which no name occurs twice, or any other value. -/
def NamesDistinct (value : Value) : Prop :=
  ∀ fields, value = .object fields → Entries.Distinct fields

/-- The same of a container that is still open. -/
def Frame.NamesDistinct : Frame → Prop
  | .array _ => True
  | .object done _ => Entries.Distinct done

def Stage.NamesDistinct : Stage → Prop
  | .finished value => Json.NamesDistinct value
  | .inside frame => frame.NamesDistinct

section

variable {limit : Nat} {deeper : Bool} {frame : Frame} {value : Value} {stage : Stage} {text rest : List Char}

theorem namesDistinct_object {fields : Fields} (h : Entries.Distinct fields) : NamesDistinct (.object fields) := by
  rintro _ ⟨⟩
  exact h

theorem namesDistinct_word? (h : word? text = some (value, rest)) : NamesDistinct value := by
  unfold word? at h
  split at h
  case h_4 => cases h
  all_goals
    cases h
    rintro _ ⟨⟩

/-- A token that is a value on its own is no object. -/
theorem namesDistinct_token? (h : token? text = some (.scalar value, rest)) : NamesDistinct value := by
  unfold token? tokenHere? at h
  split at h
  case h_1 => cases h
  case h_2 =>
    split at h
    case isTrue => cases h
    case isFalse =>
      split at h
      case isTrue =>
        obtain ⟨_, _, htoken⟩ := Option.map_eq_some_iff.mp h
        cases htoken
      case isFalse =>
        split at h
        case isTrue =>
          obtain ⟨_, _, htoken⟩ := Option.map_eq_some_iff.mp h
          cases htoken
          rintro _ ⟨⟩
        case isFalse =>
          obtain ⟨_, hword, htoken⟩ := Option.map_eq_some_iff.mp h
          cases htoken
          exact namesDistinct_word? hword

theorem namesDistinct_start? (h : start? deeper text = some (stage, rest)) : stage.NamesDistinct := by
  unfold start? at h
  obtain ⟨⟨token, after⟩, htoken, h⟩ := Option.bind_eq_some_iff.mp h
  dsimp only at h
  split at h
  · cases h
  · split at h
    · cases h
      exact namesDistinct_token? htoken
    · cases h
      rintro _ ⟨⟩
    · split at h
      · cases h
        rintro _ ⟨⟩
      · cases h
        trivial
    · split at h
      · cases h
        exact namesDistinct_object List.nodup_nil
      · obtain ⟨_, _, hstage⟩ := Option.map_eq_some_iff.mp h
        cases hstage
        exact List.nodup_nil
    · cases h

theorem namesDistinct_continue? (hframe : frame.NamesDistinct) (h : continue? frame value text = some (stage, rest)) :
    stage.NamesDistinct := by
  unfold continue? at h
  split at h
  · cases h
    trivial
  · cases h
    rintro _ ⟨⟩
  · obtain ⟨_, _, hstage⟩ := Option.map_eq_some_iff.mp h
    cases hstage
    exact Entries.distinct_insert hframe
  · cases h
    exact namesDistinct_object (Entries.distinct_insert hframe)
  · cases h

theorem namesDistinct_of_read (limit : Nat) :
    (∀ frames text, (∀ frame ∈ frames, Frame.NamesDistinct frame) → ∀ value rest,
      readValue? limit frames text = some (value, rest) → NamesDistinct value) ∧
    (∀ frames value text, NamesDistinct value → (∀ frame ∈ frames, Frame.NamesDistinct frame) → ∀ result rest,
      resume? limit frames value text = some (result, rest) → NamesDistinct result) := by
  -- one case for each way in which a step of the reader can end
  refine readValue?.mutual_induct limit
    (fun frames text => (∀ frame ∈ frames, Frame.NamesDistinct frame) → ∀ value rest,
      readValue? limit frames text = some (value, rest) → NamesDistinct value)
    (fun frames value text => NamesDistinct value → (∀ frame ∈ frames, Frame.NamesDistinct frame) → ∀ result rest,
      resume? limit frames value text = some (result, rest) → NamesDistinct result) ?_ ?_ ?_ ?_ ?_ ?_ ?_
  · intro frames text hstep _ value rest h
    rw [readValue?, hstep] at h
    cases h
  · intro frames text value rest _ hstep ih hframes _ _ h
    rw [readValue?, hstep] at h
    exact ih (namesDistinct_start? (Text.of_step? hstep)) hframes _ _ h
  · intro frames text frame rest _ hstep ih hframes _ _ h
    rw [readValue?, hstep] at h
    exact ih (List.forall_mem_cons.mpr ⟨namesDistinct_start? (Text.of_step? hstep), hframes⟩) _ _ h
  · intro value text hvalue _ _ _ h
    rw [resume?] at h
    cases h
    exact hvalue
  · intro value text frame outer hstep _ _ _ _ h
    rw [resume?, hstep] at h
    cases h
  · intro value text frame outer next rest _ hstep ih _ hframes _ _ h
    obtain ⟨hframe, houter⟩ := List.forall_mem_cons.mp hframes
    rw [resume?, hstep] at h
    exact ih (namesDistinct_continue? hframe (Text.of_step? hstep)) houter _ _ h
  · intro value text frame outer next rest _ hstep ih _ hframes _ _ h
    obtain ⟨hframe, houter⟩ := List.forall_mem_cons.mp hframes
    rw [resume?, hstep] at h
    exact ih (List.forall_mem_cons.mpr ⟨namesDistinct_continue? hframe (Text.of_step? hstep), houter⟩) _ _ h

end

theorem distinct_of_read? {text : String} {fields : Fields} (h : read? text = some (.object fields)) :
    Entries.Distinct fields := by
  unfold read? readWithin? at h
  split at h
  case h_1 value rest hread =>
    split at h
    case isTrue =>
      cases h
      exact (namesDistinct_of_read nestingLimit).1 [] text.toList (fun _ hm => absurd hm List.not_mem_nil) _ _ hread
        fields rfl
    case isFalse => cases h
  case h_2 => cases h

end Json

end RowStore
