import RowStore.Proofs.Query.Overlay
import RowStore.Proofs.Query.Keys

/-!
# One place used in several ways

A path uses each place on its way as a scalar, as a list or as an object. A pair that goes into a place is refused when an
earlier one has used this place in another way. A scalar is never refused: it takes the place of what earlier pairs have put
there, so a list or an object and a scalar under one name are refused in one order only.
-/

namespace RowStore.Bracket

set_option autoImplicit false

inductive Use where
  | scalar
  | list
  | object
deriving DecidableEq

/-- What a path makes of a place, by the names that it has behind the place. -/
def use? : List String → Option Use
  | [] => some .scalar
  | name :: rest => if name ≠ "" then some .object else if rest = [] then some .list else none

/-- Whether a plain pair uses a place in this way. -/
def Uses (pair : String × String) (place : List String) (use : Use) : Prop :=
  isStructured pair = false ∧ ∃ rest, Spells pair.1 (place ++ rest) ∧ use? rest = some use

/-- Two pairs that use a place in different ways. -/
def Mixes (one other : String × String) : Prop :=
  ∃ place use use', place ≠ [] ∧ Uses one place use ∧ Uses other place use' ∧ use ≠ use'

/-- Two pairs that use a place in different ways, and the later one goes into it. -/
def Refuses (earlier later : String × String) : Prop :=
  ∃ place use use', place ≠ [] ∧ Uses earlier place use ∧ Uses later place use' ∧ use ≠ use' ∧ use' ≠ .scalar

/-- A scalar at a place that another pair goes into. -/
def Overwrites (later earlier : String × String) : Prop :=
  ∃ place use, place ≠ [] ∧ Uses later place .scalar ∧ Uses earlier place use ∧ use ≠ .scalar

/-- A pair that is accepted on its own: a query object, or a value under a path with empty brackets at its end only. -/
def Readable (pair : String × String) : Prop :=
  if isStructured pair then ∃ fields, structured pair.2 = .ok fields
  else ∃ names, Spells pair.1 names ∧ "" ∉ names.tail.dropLast

def Accepted (pairs : List (String × String)) : Prop :=
  ∃ fields, decode pairs = .ok fields

/-- Whether there is room for a value behind some names, in what is found at the place before them. -/
def Admits : List String → Option Value → Prop
  | [], _ => True
  | name :: rest, found =>
    if name = "" then rest = [] ∧ ∃ items, found.getD (.array []) = .array items
    else ∃ inner : Fields, found.getD (.object []) = .object inner ∧ Admits rest (inner.lookup name)

/-- What is at a place after a value was put behind some names. -/
def Places (value : Value) (names : List String) (found : Option Value) (next : Value) : Prop :=
  match names with
  | [] => next = value
  | name :: rest =>
    if name = "" then rest = [] ∧ ∃ items, found.getD (.array []) = .array items ∧ next = .array (items ++ [value])
    else ∃ inner changed, found.getD (.object []) = .object inner ∧ insert value (name :: rest) inner = .ok changed ∧
      next = .object changed

/-- By the names behind a place, the later of two paths goes into it, and the earlier one uses it in another way. -/
def Disagree (earlier later : List String) : Prop :=
  ∃ use use', use? earlier = some use ∧ use? later = some use' ∧ use ≠ use' ∧ use' ≠ .scalar

/-- The same at some place on their way. -/
def Blocks (earlier later : List String) : Prop :=
  ∃ place rest rest', place ≠ [] ∧ earlier = place ++ rest ∧ later = place ++ rest' ∧ Disagree rest rest'

section Paths

variable {name key other : String} {rest others names : List String} {fields after : Fields} {value next : Value}
  {found : Option Value}

theorem blocks_cons_iff :
    Blocks (key :: rest) (other :: others) ↔ key = other ∧ (Disagree rest others ∨ Blocks rest others) := by
  constructor
  · rintro ⟨place, more, more', hplace, hearlier, hlater, h⟩
    obtain ⟨first, place, rfl⟩ := List.exists_cons_of_ne_nil hplace
    rw [List.cons_append, List.cons.injEq] at hearlier hlater
    obtain ⟨rfl, rfl⟩ := hearlier
    obtain ⟨rfl, rfl⟩ := hlater
    refine ⟨rfl, ?_⟩
    by_cases hnil : place = []
    · subst hnil
      exact .inl h
    · exact .inr ⟨place, more, more', hnil, rfl, rfl, h⟩
  · rintro ⟨rfl, h | ⟨place, more, more', _, rfl, rfl, h⟩⟩
    · exact ⟨[key], rest, others, List.cons_ne_nil _ _, rfl, rfl, h⟩
    · exact ⟨key :: place, more, more', List.cons_ne_nil _ _, rfl, rfl, h⟩

/-- A path that ends at a place goes nowhere behind it. -/
theorem not_disagree_or_blocks_nil : ¬ (Disagree names [] ∨ Blocks names []) := by
  rintro (⟨_, _, _, ⟨⟩, _, hscalar⟩ | ⟨place, _, _, hplace, _, hlater, _⟩)
  · exact hscalar rfl
  · exact hplace (List.append_eq_nil_iff.mp hlater.symm).1

theorem insert_cons_eq_ok_iff : insert value (key :: rest) fields = .ok after ↔
    ∃ next, Places value rest (fields.lookup key) next ∧ after = Entries.insert key next fields := by
  cases rest with
  | nil => simp [insert, Places, eq_comm]
  | cons name more =>
    simp only [insert, Places]
    split
    case isTrue =>
      split
      case isTrue hmore =>
        split
        case h_1 items hitems => simp [hmore, hitems, eq_comm]
        case h_2 hitems => simpa [hmore] using fun items h => absurd h (hitems items)
      case isFalse hmore => simp [hmore]
    case isFalse =>
      split
      case h_1 inner hinner =>
        cases hinsert : insert value (name :: more) inner <;> simp [Except.map, hinner, hinsert, eq_comm]
      case h_2 hinner => simpa using fun inner _ h => absurd h (hinner inner)

theorem exists_places_iff : (∃ next, Places value rest found next) ↔ Admits rest found := by
  induction rest generalizing found with
  | nil => simp [Places, Admits]
  | cons name more ih =>
    simp only [Places, Admits]
    split
    case isTrue =>
      constructor
      · rintro ⟨_, hmore, items, hitems, rfl⟩
        exact ⟨hmore, items, hitems⟩
      · rintro ⟨hmore, items, hitems⟩
        exact ⟨_, hmore, items, hitems, rfl⟩
    case isFalse =>
      have hinner : ∀ inner : Fields, Admits more (inner.lookup name) ↔ ∃ next, Places value more (inner.lookup name) next :=
        fun _ => ih.symm
      simp only [hinner, insert_cons_eq_ok_iff]
      constructor
      · rintro ⟨_, inner, _, hinner, ⟨next, hnext, rfl⟩, rfl⟩
        exact ⟨inner, hinner, next, hnext⟩
      · rintro ⟨inner, hinner, next, hnext⟩
        exact ⟨_, inner, _, hinner, ⟨next, hnext, rfl⟩, rfl⟩

def IsScalar (value : Value) : Prop :=
  (∀ items, value ≠ .array items) ∧ ∀ fields, value ≠ .object fields

theorem isScalar_scalar (raw : String) : IsScalar (scalar raw) := by
  unfold scalar
  repeat' split
  all_goals exact ⟨fun _ => nofun, fun _ => nofun⟩

theorem use?_list : use? [""] = some .list := rfl

theorem use?_object (hname : name ≠ "") : use? (name :: rest) = some .object :=
  if_pos hname

theorem admits_list : Admits ("" :: rest) found ↔ rest = [] ∧ ∃ items, found.getD (.array []) = .array items := by
  rw [Admits, if_pos rfl]

theorem admits_object (hname : name ≠ "") : Admits (name :: rest) found ↔
    ∃ inner : Fields, found.getD (.object []) = .object inner ∧ Admits rest (inner.lookup name) := by
  rw [Admits, if_neg hname]

theorem disagree_iff {use use' : Use} (h : use? rest = some use) (h' : use? others = some use') :
    Disagree rest others ↔ use ≠ use' ∧ use' ≠ .scalar := by
  simp [Disagree, h, h']

theorem not_admits_of_isScalar (hvalue : IsScalar value) : ¬ Admits (name :: rest) (some value) := by
  rw [Admits]
  split
  · rintro ⟨_, items, hitems⟩
    exact hvalue.1 items hitems
  · rintro ⟨inner, hinner, _⟩
    exact hvalue.2 inner hinner

theorem disagree_nil_left (h : Admits (name :: rest) found) : Disagree [] (name :: rest) := by
  by_cases hname : name = ""
  · subst hname
    obtain ⟨rfl, _⟩ := admits_list.mp h
    exact (disagree_iff rfl use?_list).mpr ⟨nofun, nofun⟩
  · exact (disagree_iff rfl (use?_object hname)).mpr ⟨nofun, nofun⟩

theorem admits_lookup_insert
    (h : ∀ others, Admits others (some next) ↔
      Admits others (fields.lookup key) ∧ ¬ (Disagree rest others ∨ Blocks rest others)) :
    Admits others ((Entries.insert key next fields).lookup other) ↔
      Admits others (fields.lookup other) ∧ ¬ Blocks (key :: rest) (other :: others) := by
  rw [Entries.lookup_insert, blocks_cons_iff]
  split
  case isTrue hother =>
    subst hother
    simpa using h others
  case isFalse hother => simp [Ne.symm hother]

/-- After a value was put behind some names there is room behind others if there was before, unless the two make different
things of the place or of one behind it. -/
theorem admits_of_places (hvalue : IsScalar value) (h : Places value rest found next) :
    Admits others (some next) ↔ Admits others found ∧ ¬ (Disagree rest others ∨ Blocks rest others) := by
  induction rest generalizing found next others with
  | nil =>
    cases h
    cases others with
    | nil => simp [Admits, not_disagree_or_blocks_nil]
    | cons other others =>
      rw [iff_false_left (not_admits_of_isScalar hvalue)]
      rintro ⟨hadmits, hagree⟩
      exact hagree (.inl (disagree_nil_left hadmits))
  | cons name rest ih =>
    cases others with
    | nil => simp [Admits, not_disagree_or_blocks_nil]
    | cons other others =>
      rw [Places] at h
      split at h
      case isTrue hname =>
        -- a list has room for further items and for nothing else
        subst hname
        obtain ⟨rfl, items, hitems, rfl⟩ := h
        by_cases hother : other = ""
        · subst hother
          rw [admits_list, admits_list]
          constructor
          · rintro ⟨rfl, _⟩
            refine ⟨⟨rfl, items, hitems⟩, ?_⟩
            rw [disagree_iff use?_list use?_list, blocks_cons_iff]
            simp [not_disagree_or_blocks_nil]
          · rintro ⟨⟨rfl, _⟩, _⟩
            exact ⟨rfl, _, rfl⟩
        · have hdisagree : Disagree [""] (other :: others) :=
            (disagree_iff use?_list (use?_object hother)).mpr ⟨nofun, nofun⟩
          simp [admits_object hother, hdisagree]
      case isFalse hname =>
        -- an object has room for other names as before, and for this one by the induction
        obtain ⟨inner, changed, hinner, hchanged, rfl⟩ := h
        by_cases hother : other = ""
        · subst hother
          rw [admits_list, admits_list]
          constructor
          · rintro ⟨_, items, hitems⟩
            cases hitems
          · rintro ⟨⟨rfl, _⟩, hagree⟩
            exact absurd (.inl ((disagree_iff (use?_object hname) use?_list).mpr ⟨nofun, nofun⟩)) hagree
        · obtain ⟨next, hnext, rfl⟩ := insert_cons_eq_ok_iff.mp hchanged
          have hrest : Admits others ((Entries.insert name next inner).lookup other) ↔
              Admits others (inner.lookup other) ∧ ¬ Blocks (name :: rest) (other :: others) :=
            admits_lookup_insert fun others => ih hnext
          rw [admits_object hother, admits_object hother, disagree_iff (use?_object hname) (use?_object hother)]
          simp [hinner, hrest]

theorem admits_lookup_of_insert (hvalue : IsScalar value) (h : insert value (key :: rest) fields = .ok after) :
    Admits others (after.lookup other) ↔ Admits others (fields.lookup other) ∧ ¬ Blocks (key :: rest) (other :: others) := by
  obtain ⟨next, hnext, rfl⟩ := insert_cons_eq_ok_iff.mp h
  exact admits_lookup_insert fun others => admits_of_places hvalue hnext

theorem admits_none_iff : Admits rest none ↔ "" ∉ rest.dropLast := by
  induction rest with
  | nil => simp [Admits]
  | cons name rest ih =>
    by_cases hname : name = ""
    · subst hname
      rw [admits_list]
      cases rest <;> simp
    · rw [admits_object hname]
      have hinner : ∀ inner : Fields, (none : Option Value).getD (.object []) = .object inner ↔ inner = [] := by
        simp [eq_comm]
      simp only [hinner, exists_eq_left, List.lookup_nil, ih]
      cases rest with
      | nil => simp
      | cons next rest => simp [Ne.symm hname]

end Paths

/-- Whether there is room for the value of a plain pair. -/
def Fits (fields : Fields) (pair : String × String) : Prop :=
  ∃ key rest, Spells pair.1 (key :: rest) ∧ Admits rest (fields.lookup key)

section Pairs

variable {pair one other earlier later : String × String} {pairs more : List (String × String)} {fields after : Fields}
  {names names' : List String}

theorem exists_cons_of_spells {key : String} (h : Spells key names) : ∃ name rest, names = name :: rest := by
  obtain ⟨_, name, rest, hnames, _⟩ := spells_iff.mp h
  exact ⟨name, rest, hnames⟩

theorem addPair_eq_ok_iff :
    addPair fields pair = .ok after ↔ ∃ names, Spells pair.1 names ∧ insert (scalar pair.2) names fields = .ok after := by
  simp only [addPair, bind_eq_ok_iff, path_eq_ok_iff_spells]

theorem exists_addPair_iff : (∃ after, addPair fields pair = .ok after) ↔ Fits fields pair := by
  simp only [addPair_eq_ok_iff]
  constructor
  · rintro ⟨after, names, hspells, hinsert⟩
    obtain ⟨key, rest, rfl⟩ := exists_cons_of_spells hspells
    obtain ⟨next, hnext, _⟩ := insert_cons_eq_ok_iff.mp hinsert
    exact ⟨key, rest, hspells, exists_places_iff.mp ⟨next, hnext⟩⟩
  · rintro ⟨key, rest, hspells, hadmits⟩
    obtain ⟨next, hnext⟩ := exists_places_iff.mpr hadmits
    exact ⟨_, key :: rest, hspells, insert_cons_eq_ok_iff.mpr ⟨next, hnext, rfl⟩⟩

theorem refuses_iff_blocks (hplain : isStructured earlier = false) (hplain' : isStructured later = false)
    (hspells : Spells earlier.1 names) (hspells' : Spells later.1 names') :
    Refuses earlier later ↔ Blocks names names' := by
  constructor
  · rintro ⟨place, use, use', hplace, ⟨_, rest, hrest, huse⟩, ⟨_, rest', hrest', huse'⟩, h⟩
    rw [← hspells.unique hrest, ← hspells'.unique hrest']
    exact ⟨place, rest, rest', hplace, rfl, rfl, use, use', huse, huse', h⟩
  · rintro ⟨place, rest, rest', hplace, rfl, rfl, use, use', huse, huse', h⟩
    exact ⟨place, use, use', hplace, ⟨hplain, rest, hspells, huse⟩, ⟨hplain', rest', hspells', huse'⟩, h⟩

theorem fits_of_addPair (hplain : isStructured earlier = false) (hplain' : isStructured later = false)
    (h : addPair fields earlier = .ok after) : Fits after later ↔ Fits fields later ∧ ¬ Refuses earlier later := by
  obtain ⟨names, hspells, hinsert⟩ := addPair_eq_ok_iff.mp h
  obtain ⟨key, rest, rfl⟩ := exists_cons_of_spells hspells
  constructor
  · rintro ⟨other, others, hspells', hadmits⟩
    rw [admits_lookup_of_insert (isScalar_scalar earlier.2) hinsert] at hadmits
    rw [refuses_iff_blocks hplain hplain' hspells hspells']
    exact ⟨⟨other, others, hspells', hadmits.1⟩, hadmits.2⟩
  · rintro ⟨⟨other, others, hspells', hadmits⟩, hrefuses⟩
    rw [refuses_iff_blocks hplain hplain' hspells hspells'] at hrefuses
    refine ⟨other, others, hspells', ?_⟩
    rw [admits_lookup_of_insert (isScalar_scalar earlier.2) hinsert]
    exact ⟨hadmits, hrefuses⟩

/-- Pairs can be put in one after another just when there is room for each of them at the start and none of them refuses a
later one. -/
theorem exists_foldlM_addPair_iff (hplain : ∀ pair ∈ pairs, isStructured pair = false) :
    (∃ after, pairs.foldlM addPair fields = .ok after) ↔
      (∀ pair ∈ pairs, Fits fields pair) ∧ pairs.Pairwise fun earlier later => ¬ Refuses earlier later := by
  induction pairs generalizing fields with
  | nil => simp [pure, Except.pure]
  | cons pair rest ih =>
    obtain ⟨hpair, hrest⟩ := List.forall_mem_cons.mp hplain
    simp only [List.foldlM_cons, bind_eq_ok_iff, List.forall_mem_cons, List.pairwise_cons]
    constructor
    · rintro ⟨after, middle, hmiddle, hafter⟩
      obtain ⟨hfits, hpairwise⟩ := (ih hrest).mp ⟨after, hafter⟩
      have hlater : ∀ later ∈ rest, Fits fields later ∧ ¬ Refuses pair later := by
        intro later hm
        exact (fits_of_addPair hpair (hrest later hm) hmiddle).mp (hfits later hm)
      exact ⟨⟨exists_addPair_iff.mp ⟨middle, hmiddle⟩, fun later hm => (hlater later hm).1⟩,
        fun later hm => (hlater later hm).2, hpairwise⟩
    · rintro ⟨⟨hfits, hlater⟩, hrefuses, hpairwise⟩
      obtain ⟨middle, hmiddle⟩ := exists_addPair_iff.mpr hfits
      have hnext : ∀ later ∈ rest, Fits middle later := by
        intro later hm
        exact (fits_of_addPair hpair (hrest later hm) hmiddle).mpr ⟨hlater later hm, hrefuses later hm⟩
      obtain ⟨after, hafter⟩ := (ih hrest).mpr ⟨hnext, hpairwise⟩
      exact ⟨after, middle, hmiddle, hafter⟩

theorem fits_nil_iff (hplain : isStructured pair = false) : Fits [] pair ↔ Readable pair := by
  rw [Readable, if_neg (by simp [hplain])]
  constructor
  · rintro ⟨key, rest, hspells, hadmits⟩
    exact ⟨key :: rest, hspells, admits_none_iff.mp hadmits⟩
  · rintro ⟨names, hspells, hempty⟩
    obtain ⟨key, rest, rfl⟩ := exists_cons_of_spells hspells
    exact ⟨key, rest, hspells, admits_none_iff.mpr hempty⟩

theorem exists_lastStructured (h : ∀ pair ∈ structuredPairs pairs, ∃ fields, structured pair.2 = .ok fields) :
    ∃ object, lastStructured pairs = .ok object := by
  unfold lastStructured
  split
  case h_1 pair hlast => exact h pair (List.mem_of_getLast? hlast)
  case h_2 => exact ⟨[], rfl⟩

theorem forall_readable_iff : (∀ pair ∈ pairs, Readable pair) ↔
    (∀ pair ∈ plainPairs pairs, Fits [] pair) ∧
    ∀ pair ∈ structuredPairs pairs, ∃ fields, structured pair.2 = .ok fields := by
  constructor
  · intro h
    constructor
    · intro pair hm
      obtain ⟨hm, hplain⟩ := List.mem_filter.mp hm
      exact (fits_nil_iff (by simpa using hplain)).mpr (h pair hm)
    · intro pair hm
      obtain ⟨hm, hstructured⟩ := List.mem_filter.mp hm
      have hpair := h pair hm
      rwa [Readable, if_pos hstructured] at hpair
  · rintro ⟨hfits, hread⟩ pair hm
    cases hpair : isStructured pair with
    | false =>
      have hplain : pair ∈ plainPairs pairs := List.mem_filter.mpr ⟨hm, by simp [hpair]⟩
      exact (fits_nil_iff hpair).mp (hfits pair hplain)
    | true =>
      rw [Readable, if_pos hpair]
      exact hread pair (List.mem_filter.mpr ⟨hm, hpair⟩)

theorem pairwise_plainPairs_iff : (plainPairs pairs).Pairwise (fun earlier later => ¬ Refuses earlier later) ↔
    pairs.Pairwise fun earlier later => ¬ Refuses earlier later := by
  rw [plainPairs, List.pairwise_filter]
  apply List.Pairwise.iff
  intro earlier later
  constructor
  · intro h hrefuses
    obtain ⟨_, _, _, _, ⟨hplain, _⟩, ⟨hplain', _⟩, _⟩ := id hrefuses
    exact h (by simp [hplain]) (by simp [hplain']) hrefuses
  · intro h _ _
    exact h

/-- Pairs are accepted just when each of them is on its own, and none of them refuses a later one. -/
theorem accepted_iff : Accepted pairs ↔
    (∀ pair ∈ pairs, Readable pair) ∧ pairs.Pairwise fun earlier later => ¬ Refuses earlier later := by
  have hplain : ∀ pair ∈ plainPairs pairs, isStructured pair = false := by
    intro pair hm
    simpa using (List.mem_filter.mp hm).2
  have hfold : (∃ after, (plainPairs pairs).foldlM addPair [] = .ok after) ↔ _ := exists_foldlM_addPair_iff hplain
  rw [pairwise_plainPairs_iff] at hfold
  rw [forall_readable_iff]
  constructor
  · rintro ⟨result, hresult⟩
    obtain ⟨plain, _, hplain, hread, _⟩ := decode_eq_ok_iff_foldlM.mp hresult
    obtain ⟨hfits, hrefuses⟩ := hfold.mp ⟨plain, hplain⟩
    exact ⟨⟨hfits, hread⟩, hrefuses⟩
  · rintro ⟨⟨hfits, hread⟩, hrefuses⟩
    obtain ⟨plain, hplain⟩ := hfold.mpr ⟨hfits, hrefuses⟩
    obtain ⟨object, hobject⟩ := exists_lastStructured hread
    exact ⟨_, decode_eq_ok_iff_foldlM.mpr ⟨plain, object, hplain, hread, hobject, rfl⟩⟩

theorem Mixes.symm (h : Mixes one other) : Mixes other one := by
  obtain ⟨place, use, use', hplace, hone, hother, hne⟩ := h
  exact ⟨place, use', use, hplace, hother, hone, hne.symm⟩

/-- Of two pairs that mix uses at least one goes into the place, and is refused when it comes second. -/
theorem mixes_iff : Mixes one other ↔ Refuses one other ∨ Refuses other one := by
  constructor
  · rintro ⟨place, use, use', hplace, hone, hother, hne⟩
    by_cases hscalar : use' = .scalar
    · subst hscalar
      exact .inr ⟨place, .scalar, use, hplace, hother, hone, hne.symm, hne⟩
    · exact .inl ⟨place, use, use', hplace, hone, hother, hne, hscalar⟩
  · rintro (⟨place, use, use', hplace, hone, hother, hne, _⟩ | ⟨place, use, use', hplace, hother, hone, hne, _⟩)
    · exact ⟨place, use, use', hplace, hone, hother, hne⟩
    · exact ⟨place, use', use, hplace, hone, hother, hne.symm⟩

theorem refuses_iff_mixes (h : ¬ Overwrites later earlier) : Refuses earlier later ↔ Mixes earlier later := by
  constructor
  · intro hrefuses
    exact mixes_iff.mpr (.inl hrefuses)
  · rintro ⟨place, use, use', hplace, hearlier, hlater, hne⟩
    refine ⟨place, use, use', hplace, hearlier, hlater, hne, ?_⟩
    rintro rfl
    exact h ⟨place, use, hplace, hlater, hearlier, hne⟩

theorem not_overwrites_of_path (h : path later.1 = .ok names) (h' : path earlier.1 = .ok names')
    (hbegins : ¬ names <+: names') : ¬ Overwrites later earlier := by
  rintro ⟨place, use, _, ⟨_, rest, hrest, hscalar⟩, ⟨_, rest', hrest', _⟩, _⟩
  have hlater := (path_eq_ok_iff_spells.mp h).unique hrest
  have hearlier := (path_eq_ok_iff_spells.mp h').unique hrest'
  have hnil : rest = [] := by
    cases rest with
    | nil => rfl
    | cons name rest =>
      rw [use?] at hscalar
      split_ifs at hscalar <;> cases hscalar
  rw [hnil, List.append_nil] at hlater
  exact hbegins ⟨rest', by rw [← hlater, hearlier]⟩

/-- Where no scalar takes the place of what an earlier pair has put somewhere, pairs are accepted just when they are in any
order. -/
theorem accepted_iff_of_not_overwrites (h : pairs.Pairwise fun earlier later => ¬ Overwrites later earlier) :
    Accepted pairs ↔ (∀ pair ∈ pairs, Readable pair) ∧ pairs.Pairwise fun one other => ¬ Mixes one other := by
  rw [accepted_iff]
  apply and_congr_right'
  constructor
  · intro hrefuses
    apply (h.and hrefuses).imp
    rintro earlier later ⟨hover, hrefuses⟩
    rwa [← refuses_iff_mixes hover]
  · intro hmixes
    apply hmixes.imp
    intro earlier later hmixes hrefuses
    exact hmixes (mixes_iff.mpr (.inl hrefuses))

theorem unmixed_perm (h : pairs.Perm more) :
    ((∀ pair ∈ pairs, Readable pair) ∧ pairs.Pairwise fun one other => ¬ Mixes one other) ↔
      (∀ pair ∈ more, Readable pair) ∧ more.Pairwise fun one other => ¬ Mixes one other := by
  apply and_congr
  · simp only [h.mem_iff]
  · apply h.pairwise_iff
    intro one other hmixes hother
    exact hmixes hother.symm

end Pairs

/-- Pairs are accepted when each of them is on its own and none goes into a place that an earlier one uses in another way.
They are accepted in every order when no two of them use a place in different ways. An order makes a difference only where a
scalar takes the place of a list or an object of earlier pairs. -/
theorem accepted_perm_iff (pairs : List (String × String)) :
    (Accepted pairs ↔
      (∀ pair ∈ pairs, Readable pair) ∧ pairs.Pairwise fun earlier later => ¬ Refuses earlier later) ∧
    ((∀ more, pairs.Perm more → Accepted more) ↔
      (∀ pair ∈ pairs, Readable pair) ∧ pairs.Pairwise fun one other => ¬ Mixes one other) ∧
    ∀ more, pairs.Perm more → (pairs.Pairwise fun earlier later => ¬ Overwrites later earlier) →
      (more.Pairwise fun earlier later => ¬ Overwrites later earlier) → (Accepted more ↔ Accepted pairs) := by
  refine ⟨accepted_iff, ⟨?_, ?_⟩, ?_⟩
  · intro h
    obtain ⟨hreadable, hforward⟩ := accepted_iff.mp (h pairs (List.Perm.refl _))
    obtain ⟨_, hbackward⟩ := accepted_iff.mp (h pairs.reverse pairs.reverse_perm.symm)
    rw [List.pairwise_reverse] at hbackward
    refine ⟨hreadable, (hforward.and hbackward).imp ?_⟩
    rintro one other ⟨hone, hother⟩ hmixes
    exact (mixes_iff.mp hmixes).elim hone hother
  · intro h more hperm
    obtain ⟨hreadable, hmixes⟩ := (unmixed_perm hperm).mp h
    refine accepted_iff.mpr ⟨hreadable, hmixes.imp ?_⟩
    intro earlier later hmixes hrefuses
    exact hmixes (mixes_iff.mpr (.inl hrefuses))
  · intro more hperm hpairs hmore
    rw [accepted_iff_of_not_overwrites hpairs, accepted_iff_of_not_overwrites hmore, unmixed_perm hperm]

/-- Two values below one name, and a query object, in two orders. -/
theorem accepted_perm_iff_below :
    let one := ("a[b]", "1")
    let other := ("a[c][]", "2")
    let object := ("q", "\x7b\x7d")
    let pairs := [one, object, other]
    let more := [other, one, object]
    pairs.Perm more ∧ (pairs.Pairwise fun earlier later => ¬ Overwrites later earlier) ∧
      (more.Pairwise fun earlier later => ¬ Overwrites later earlier) ∧ Accepted pairs ∧ Accepted more := by
  intro one other object pairs more
  have hone : path one.1 = .ok ["a", "b"] := by decide +kernel
  have hother : path other.1 = .ok ["a", "c", ""] := by decide +kernel
  have hobject : path object.1 = .ok ["q"] := by decide +kernel
  have hperm : pairs.Perm more := by decide
  have hpairs : pairs.Pairwise fun earlier later => ¬ Overwrites later earlier := by
    simp only [pairs, List.pairwise_cons, List.mem_cons, List.not_mem_nil, or_false, forall_eq_or_imp, forall_eq,
      false_implies, implies_true, List.Pairwise.nil, and_true]
    exact ⟨⟨not_overwrites_of_path hobject hone (by decide), not_overwrites_of_path hother hone (by decide)⟩,
      not_overwrites_of_path hother hobject (by decide)⟩
  have hmore : more.Pairwise fun earlier later => ¬ Overwrites later earlier := by
    simp only [more, List.pairwise_cons, List.mem_cons, List.not_mem_nil, or_false, forall_eq_or_imp, forall_eq,
      false_implies, implies_true, List.Pairwise.nil, and_true]
    exact ⟨⟨not_overwrites_of_path hone hother (by decide), not_overwrites_of_path hobject hother (by decide)⟩,
      not_overwrites_of_path hobject hone (by decide)⟩
  have hdecode : decode pairs = .ok [("a", .object [("b", .ofInt 1), ("c", .array [.ofInt 2])])] := by decide +kernel
  have haccepted : Accepted pairs := ⟨_, hdecode⟩
  exact ⟨hperm, hpairs, hmore, haccepted, ((accepted_perm_iff pairs).2.2 more hperm hpairs hmore).mpr haccepted⟩

/-- A scalar is accepted after an object under its name, and not before it. -/
theorem not_forall_accepted_perm :
    ¬ ∀ pairs more : List (String × String), pairs.Perm more → (Accepted pairs ↔ Accepted more) := by
  intro h
  have hafter : decode [("a[b]", "1"), ("a", "2")] = .ok [("a", .ofInt 2)] := by decide +kernel
  have hbefore : decode [("a", "2"), ("a[b]", "1")] = .error (.objectMixed "a") := by decide +kernel
  obtain ⟨fields, hfields⟩ := (h _ _ (List.Perm.swap _ _ [])).mp ⟨_, hafter⟩
  rw [hbefore] at hfields
  cases hfields

end RowStore.Bracket
