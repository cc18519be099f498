import Mathlib.Data.List.TakeWhile
import RowStore.Query.Bracket

/-!
# Keys and paths

A key without brackets is a path of one name. Any other key is a name that is not empty, followed by names in brackets
and by nothing else. A key has one reading at most, and a path one spelling.
-/

namespace RowStore.Bracket

set_option autoImplicit false

/-- The keys that spell paths. -/
inductive Spells : String → List String → Prop where
  | plain (key : String) (unopened : '[' ∉ key.toList) : Spells key [key]
  | nested (head : String) (names : List String) (unopened : '[' ∉ head.toList) (head_ne : head ≠ "")
      (names_ne : names ≠ []) (unclosed : ∀ name ∈ names, ']' ∉ name.toList) :
      Spells (head ++ String.join (names.map fun name => "[" ++ name ++ "]")) (head :: names)

def keyOf (names : List String) : String :=
  String.ofList (join (names.map String.toList))

section

variable {name : List Char} {names : List (List Char)} {text key : List Char}

theorem inside?_name (h : ']' ∉ name) (rest : List Char) :
    inside? (name ++ ']' :: rest) = (segments? rest).map (name :: ·) := by
  induction name with
  | nil => rw [List.nil_append, inside?, if_pos rfl]
  | cons c name ih =>
    rw [List.mem_cons, not_or] at h
    rw [List.cons_append, inside?, if_neg (Ne.symm h.1), ih h.2, Option.map_map]
    rfl

theorem segments?_names (h : ∀ name ∈ names, ']' ∉ name) :
    segments? (names.flatMap fun name => '[' :: name ++ [']']) = some names := by
  induction names with
  | nil => rfl
  | cons name rest ih =>
    obtain ⟨hname, hrest⟩ := List.forall_mem_cons.mp h
    rw [List.flatMap_cons, List.cons_append, List.cons_append, segments?, if_pos rfl, List.append_assoc,
      List.singleton_append, inside?_name hname, ih hrest]
    rfl

/-- A path that is written as a key is read back, unless its first name has an opening bracket, or is empty before
others. -/
theorem split?_join (hhead : '[' ∉ name) (hempty : names ≠ [] → name ≠ []) (h : ∀ other ∈ names, ']' ∉ other) :
    split? (join (name :: names)) = some (name :: names) := by
  have hne : ∀ c ∈ name, (c != '[') = true := by
    intro c hc
    rw [bne_iff_ne]
    rintro rfl
    exact hhead hc
  cases names with
  | nil =>
    have hkey : join [name] = name := by simp [join]
    rw [hkey, split?, List.dropWhile_eq_nil_iff.mpr hne, if_pos rfl]
  | cons other rest =>
    have htake : (join (name :: other :: rest)).takeWhile (· != '[') = name := by
      rw [join, List.takeWhile_append_of_pos hne]
      simp
    have hdrop : (join (name :: other :: rest)).dropWhile (· != '[')
        = (other :: rest).flatMap fun name => '[' :: name ++ [']'] := by
      rw [join, List.dropWhile_append_of_pos hne]
      simp
    rw [split?, htake, hdrop, if_neg (by simp), if_neg (hempty (List.cons_ne_nil _ _)), segments?_names h]
    rfl

/-- What is read inside brackets ends at the first closing one. -/
theorem of_inside? (h : inside? text = some names) :
    ∃ name rest more, text = name ++ ']' :: rest ∧ ']' ∉ name ∧ segments? rest = some more ∧ names = name :: more := by
  induction text generalizing names with
  | nil =>
    rw [inside?] at h
    cases h
  | cons c rest ih =>
    rw [inside?] at h
    split at h
    case isTrue hclose =>
      obtain ⟨more, hmore, rfl⟩ := Option.map_eq_some_iff.mp h
      exact ⟨[], rest, more, by rw [hclose]; rfl, List.not_mem_nil, hmore, rfl⟩
    case isFalse hclose =>
      obtain ⟨read, hread, rfl⟩ := Option.map_eq_some_iff.mp h
      obtain ⟨name, after, more, rfl, hname, hmore, rfl⟩ := ih hread
      refine ⟨c :: name, after, more, rfl, ?_, hmore, rfl⟩
      rw [List.mem_cons, not_or]
      exact ⟨Ne.symm hclose, hname⟩

theorem of_segments? (h : segments? text = some names) :
    text = names.flatMap (fun name => '[' :: name ++ [']']) ∧ ∀ name ∈ names, ']' ∉ name := by
  induction names generalizing text with
  | nil =>
    cases text with
    | nil => exact ⟨rfl, fun _ hm => absurd hm List.not_mem_nil⟩
    | cons c rest =>
      rw [segments?] at h
      split at h
      case isTrue =>
        obtain ⟨_, _, _, _, _, _, hnames⟩ := of_inside? h
        cases hnames
      case isFalse => cases h
  | cons name names ih =>
    cases text with
    | nil =>
      rw [segments?] at h
      cases h
    | cons c rest =>
      rw [segments?] at h
      split at h
      case isTrue hopen =>
        obtain ⟨_, after, _, rfl, hname, hmore, hnames⟩ := of_inside? h
        cases hnames
        obtain ⟨rfl, hclosed⟩ := ih hmore
        refine ⟨by simp [hopen], List.forall_mem_cons.mpr ⟨hname, hclosed⟩⟩
      case isFalse => cases h

theorem segments?_eq_some_iff : segments? text = some names ↔
    text = names.flatMap (fun name => '[' :: name ++ [']']) ∧ ∀ name ∈ names, ']' ∉ name := by
  constructor
  · exact of_segments?
  · rintro ⟨rfl, h⟩
    exact segments?_names h

theorem not_mem_takeWhile (c : Char) (key : List Char) : c ∉ key.takeWhile (· != c) := by
  intro hm
  have htest := List.mem_takeWhile_imp hm
  simp at htest

/-- The paths that keys are split into are those whose keys are split into them. -/
theorem split?_eq_some_iff : split? key = some names ↔
    join names = key ∧ ∃ head others, names = head :: others ∧ '[' ∉ head ∧ (others ≠ [] → head ≠ []) ∧
      ∀ other ∈ others, ']' ∉ other := by
  constructor
  · intro h
    have hkey := List.takeWhile_append_dropWhile (p := (· != '[')) (l := key)
    have hhead := not_mem_takeWhile '[' key
    rw [split?] at h
    generalize key.takeWhile (· != '[') = head at h hkey hhead
    generalize key.dropWhile (· != '[') = rest at h hkey
    subst hkey
    split at h
    case isTrue hrest =>
      subst hrest
      cases h
      refine ⟨by simp [join], head ++ [], [], rfl, ?_, fun hne => absurd rfl hne, fun _ hm => absurd hm List.not_mem_nil⟩
      rwa [List.append_nil]
    case isFalse hrest =>
      split at h
      case isTrue => cases h
      case isFalse hne =>
        obtain ⟨others, hothers, rfl⟩ := Option.map_eq_some_iff.mp h
        obtain ⟨rfl, hclosed⟩ := segments?_eq_some_iff.mp hothers
        exact ⟨rfl, head, others, rfl, hhead, fun _ => hne, hclosed⟩
  · rintro ⟨rfl, head, others, rfl, hhead, hempty, hclosed⟩
    exact split?_join hhead hempty hclosed

end

section

variable {key : String} {names : List String}

theorem keyOf_cons (head : String) (others : List String) :
    keyOf (head :: others) = head ++ String.join (others.map fun name => "[" ++ name ++ "]") := by
  apply String.toList_injective
  simp [keyOf, join, String.toList_join, List.flatMap_map]

theorem spells_iff : Spells key names ↔
    keyOf names = key ∧ ∃ head others, names = head :: others ∧ '[' ∉ head.toList ∧ (others ≠ [] → head ≠ "") ∧
      ∀ other ∈ others, ']' ∉ other.toList := by
  constructor
  · intro h
    cases h with
    | plain _ unopened =>
      refine ⟨by simp [keyOf_cons], key, [], rfl, unopened, fun hne => absurd rfl hne, ?_⟩
      exact fun _ hm => absurd hm List.not_mem_nil
    | nested head others unopened head_ne _ unclosed =>
      exact ⟨keyOf_cons head others, head, others, rfl, unopened, fun _ => head_ne, unclosed⟩
  · rintro ⟨rfl, head, others, rfl, hhead, hempty, hclosed⟩
    by_cases hothers : others = []
    · subst hothers
      have hkey : keyOf [head] = head := by simp [keyOf_cons]
      rw [hkey]
      exact .plain head hhead
    · rw [keyOf_cons]
      exact .nested head others hhead (hempty hothers) hothers hclosed

theorem path_eq_ok_iff : path key = .ok names ↔ split? key.toList = some (names.map String.toList) := by
  rw [path]
  cases split? key.toList with
  | none => simp
  | some read =>
    simp only [Except.ok.injEq, Option.some.injEq]
    constructor
    · rintro rfl
      simp [Function.comp_def]
    · rintro rfl
      simp [Function.comp_def]

theorem path_eq_error_iff {fault : Fault} :
    path key = .error fault ↔ fault = .malformedKey key ∧ ∀ names, path key ≠ .ok names := by
  rw [path]
  cases split? key.toList with
  | none => simp [eq_comm]
  | some read => simp

theorem path_eq_ok_iff_spells : path key = .ok names ↔ Spells key names := by
  rw [path_eq_ok_iff, split?_eq_some_iff, spells_iff]
  have hkey : join (names.map String.toList) = key.toList ↔ keyOf names = key := by
    constructor
    · intro h
      rw [keyOf, h, String.ofList_toList]
    · rintro rfl
      rw [keyOf, String.toList_ofList]
  apply and_congr hkey
  constructor
  · rintro ⟨_, _, heq, hhead, hempty, hclosed⟩
    obtain ⟨head, others, rfl, rfl, rfl⟩ := List.map_eq_cons_iff.mp heq
    refine ⟨head, others, rfl, hhead, ?_, fun other hm => hclosed other.toList (List.mem_map_of_mem hm)⟩
    intro hne hhead'
    exact hempty (by simpa using hne) (by simp [hhead'])
  · rintro ⟨head, others, rfl, hhead, hempty, hclosed⟩
    refine ⟨head.toList, others.map String.toList, rfl, hhead, ?_, List.forall_mem_map.mpr hclosed⟩
    intro hne hhead'
    exact hempty (by simpa using hne) (String.toList_eq_nil_iff.mp hhead')

theorem Spells.keyOf_eq (h : Spells key names) : keyOf names = key :=
  (spells_iff.mp h).1

theorem Spells.unique {others : List String} (h : Spells key names) (h' : Spells key others) : others = names := by
  have hothers := path_eq_ok_iff_spells.mpr h'
  rw [path_eq_ok_iff_spells.mpr h] at hothers
  cases hothers
  rfl

end

/-- Keys are split into the paths that they spell, and all other keys are refused. Nothing is spelt in two ways: a path
that is read is written as the key it was read from, and a path that is written is read back. -/
theorem path_reads_spellings (key : String) (names : List String) :
    (path key = .ok names ↔ Spells key names) ∧
    (path key = .error (.malformedKey key) ↔ ∀ others, ¬ Spells key others) ∧
    (Spells key names →
      (∀ others, Spells key others → others = names) ∧ keyOf names = key ∧ path (keyOf names) = .ok names) := by
  refine ⟨path_eq_ok_iff_spells, ?_, ?_⟩
  · rw [path_eq_error_iff]
    simp only [ne_eq, path_eq_ok_iff_spells, true_and]
  · intro h
    refine ⟨fun others => h.unique, h.keyOf_eq, ?_⟩
    rw [h.keyOf_eq]
    exact path_eq_ok_iff_spells.mpr h

/-- A closing bracket in the first name, and an opening one and no text at all inside brackets. -/
theorem path_reads_spellings_nested :
    let names := ["a]", "$in", "b[", ""]
    Spells "a][$in][b[][]" names ∧ path "a][$in][b[][]" = .ok names ∧ keyOf names = "a][$in][b[][]" := by
  intro names
  have h : Spells "a][$in][b[][]" names := by
    have hkey : "a][$in][b[][]" = "a]" ++ String.join (["$in", "b[", ""].map fun name => "[" ++ name ++ "]") := by
      decide +kernel
    rw [hkey]
    exact .nested _ _ (by decide) (by decide) (by decide) (by decide)
  obtain ⟨hread, _, hspelt⟩ := path_reads_spellings "a][$in][b[][]" names
  exact ⟨h, hread.mpr h, (hspelt h).2.1⟩

/-- No text may follow a bracket, and the first name may not be missing. -/
example : path "a[b]c" = .error (.malformedKey "a[b]c") ∧ path "[b]" = .error (.malformedKey "[b]") ∧
    path "a[b" = .error (.malformedKey "a[b") := by
  decide +kernel

end RowStore.Bracket
