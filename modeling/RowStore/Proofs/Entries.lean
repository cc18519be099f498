import Mathlib.Data.List.Nodup
import RowStore.Entries

/-!
# Entries by their names

Entries whose names do not repeat are known by what is looked up under each name: the order of two such lists does not
matter for it, and lists with the same names in the same order and the same look-ups are one list. Each way of writing is
described by what is looked up after it.
-/

namespace RowStore.Entries

set_option autoImplicit false

variable {α : Type}

theorem mem_names_iff {name : String} {entries : Entries α} : name ∈ names entries ↔ entries.lookup name ≠ none := by
  induction entries with
  | nil => simp [names_nil]
  | cons entry rest ih =>
    obtain ⟨known, value⟩ := entry
    rw [names_cons, List.mem_cons, ih, lookup_cons]
    by_cases h : name = known <;> simp [h]

theorem not_mem_names {name : String} {value : α} {rest : Entries α} (h : Distinct ((name, value) :: rest)) :
    ∀ entry ∈ rest, entry.1 ≠ name := by
  intro entry hm he
  have hmem : entry.1 ∈ names rest := List.mem_map_of_mem hm
  rw [he] at hmem
  exact (List.nodup_cons.mp h).1 hmem

theorem mem_of_lookup {name : String} {value : α} {entries : Entries α} (h : entries.lookup name = some value) :
    (name, value) ∈ entries := by
  induction entries with
  | nil => cases h
  | cons first rest ih =>
    rw [lookup_cons] at h
    split at h
    · rename_i hname
      injection h with h
      rw [hname, ← h]
      exact List.mem_cons_self
    · exact List.mem_cons_of_mem _ (ih h)

theorem lookup_of_mem {entry : String × α} {entries : Entries α} (h : Distinct entries) (hm : entry ∈ entries) :
    entries.lookup entry.1 = some entry.2 := by
  induction entries with
  | nil => cases hm
  | cons first rest ih =>
    obtain ⟨known, value⟩ := first
    obtain ⟨hnew, hrest⟩ := List.nodup_cons.mp h
    rw [lookup_cons]
    rcases List.mem_cons.mp hm with rfl | hm
    · rw [if_pos rfl]
    · have hne : entry.1 ≠ known := fun he => hnew (List.mem_map.mpr ⟨entry, hm, he⟩)
      rw [if_neg hne, ih hrest hm]

/-- Entries are told by their names, in order, and by what is looked up under these. -/
theorem eq_of_lookup {entries other : Entries α} (h : Distinct entries) (hnames : names other = names entries)
    (hlookup : ∀ name ∈ names entries, other.lookup name = entries.lookup name) : other = entries := by
  induction entries generalizing other with
  | nil => exact List.map_eq_nil_iff.mp hnames
  | cons entry rest ih =>
    obtain ⟨known, value⟩ := entry
    obtain ⟨⟨known', value'⟩, rest', rfl, rfl, hrest⟩ := List.map_eq_cons_iff.mp hnames
    obtain ⟨hnew, hdistinct⟩ := List.nodup_cons.mp h
    have hfirst := hlookup known' List.mem_cons_self
    rw [lookup_cons, lookup_cons, if_pos rfl, if_pos rfl, Option.some.injEq] at hfirst
    have hothers : rest' = rest := by
      refine ih hdistinct hrest ?_
      intro name hm
      have hne : name ≠ known' := fun he => hnew (he ▸ hm)
      have hother := hlookup name (List.mem_cons_of_mem _ hm)
      rwa [lookup_cons, lookup_cons, if_neg hne, if_neg hne] at hother
    rw [hfirst, hothers]

theorem mem_insert_self (name : String) (value : α) (entries : Entries α) :
    (name, value) ∈ insert name value entries := by
  induction entries with
  | nil => exact List.mem_cons_self
  | cons entry rest ih =>
    obtain ⟨known, old⟩ := entry
    rw [insert]
    split
    · exact List.mem_cons_self
    · exact List.mem_cons_of_mem _ ih

theorem mem_insert {name : String} {value : α} {entries : Entries α} (h : Distinct entries) (entry : String × α) :
    entry ∈ insert name value entries ↔ entry = (name, value) ∨ entry ∈ entries ∧ entry.1 ≠ name := by
  induction entries with
  | nil => simp [insert]
  | cons first rest ih =>
    obtain ⟨known, old⟩ := first
    have hother := not_mem_names h
    have hrest : Distinct rest := (List.nodup_cons.mp h).2
    rw [insert]
    by_cases hk : known = name
    · subst hk
      rw [if_pos rfl, List.mem_cons, List.mem_cons]
      apply or_congr_right
      constructor
      · intro hm
        exact ⟨.inr hm, hother entry hm⟩
      · rintro ⟨rfl | hm, hne⟩
        · exact absurd rfl hne
        · exact hm
    · rw [if_neg hk, List.mem_cons, ih hrest, List.mem_cons]
      constructor
      · rintro (rfl | rfl | ⟨hm, hne⟩)
        · exact .inr ⟨.inl rfl, hk⟩
        · exact .inl rfl
        · exact .inr ⟨.inr hm, hne⟩
      · rintro (rfl | ⟨rfl | hm, hne⟩)
        · exact .inr (.inl rfl)
        · exact .inl rfl
        · exact .inr (.inr ⟨hm, hne⟩)

theorem mem_of_mem_insert {name : String} {value : α} {entry : String × α} {entries : Entries α}
    (h : entry ∈ insert name value entries) : entry = (name, value) ∨ entry ∈ entries := by
  induction entries with
  | nil => exact .inl (List.mem_singleton.mp h)
  | cons first rest ih =>
    rw [insert] at h
    split at h
    · exact (List.mem_cons.mp h).imp_right (List.mem_cons_of_mem _)
    · rcases List.mem_cons.mp h with rfl | h
      · exact .inr List.mem_cons_self
      · exact (ih h).imp_right (List.mem_cons_of_mem _)

theorem insert_of_not_mem {name : String} {entries : Entries α} (h : name ∉ names entries) (value : α) :
    insert name value entries = entries ++ [(name, value)] := by
  induction entries with
  | nil => rfl
  | cons entry rest ih =>
    rw [names_cons, List.mem_cons, not_or] at h
    rw [insert, if_neg (Ne.symm h.1), ih h.2]
    rfl

/-- What is written is kept or not by its name alone. -/
theorem filter_insert (keep : String → Bool) (name : String) (value : α) (entries : Entries α) :
    ((insert name value entries).filter fun entry => keep entry.1) =
      if keep name then insert name value (entries.filter fun entry => keep entry.1)
      else entries.filter fun entry => keep entry.1 := by
  induction entries with
  | nil => cases h : keep name <;> simp [insert, h]
  | cons first rest ih =>
    obtain ⟨known, old⟩ := first
    rw [insert]
    by_cases hk : known = name
    · subst hk
      rw [if_pos rfl, List.filter_cons, List.filter_cons]
      cases keep known with
      | false => rfl
      | true => exact (if_pos rfl).symm
    · rw [if_neg hk, List.filter_cons, List.filter_cons, ih]
      cases keep name <;> cases keep known <;> simp [insert, hk]

/-- To write what is there is to write nothing. -/
theorem insert_of_lookup {name : String} {value : α} {entries : Entries α}
    (h : entries.lookup name = some value) : insert name value entries = entries := by
  induction entries with
  | nil => cases h
  | cons first rest ih =>
    obtain ⟨known, old⟩ := first
    rw [lookup_cons] at h
    rw [insert]
    by_cases hname : known = name
    · rw [if_pos hname.symm] at h
      injection h with h
      rw [if_pos hname, hname, h]
    · rw [if_neg (Ne.symm hname)] at h
      rw [if_neg hname, ih h]

theorem mem_of_mem_insertAll {entry : String × α} {entries more : Entries α} (h : entry ∈ insertAll entries more) :
    entry ∈ entries ∨ entry ∈ more := by
  induction more generalizing entries with
  | nil => exact .inl h
  | cons first rest ih =>
    rcases ih h with h | h
    · rcases mem_of_mem_insert h with rfl | h
      · exact .inr List.mem_cons_self
      · exact .inl h
    · exact .inr (List.mem_cons_of_mem _ h)

/-- What is looked up after writes of values that depend on their names only. -/
theorem lookup_insertAll (value : String → Option α) {name : String} {entries more : Entries α}
    (h : ∀ entry ∈ more, value entry.1 = some entry.2) :
    (insertAll entries more).lookup name = if name ∈ names more then value name else entries.lookup name := by
  induction more generalizing entries with
  | nil => rfl
  | cons entry rest ih =>
    obtain ⟨hentry, hrest⟩ := List.forall_mem_cons.mp h
    change (insertAll (insert entry.1 entry.2 entries) rest).lookup name = _
    rw [ih hrest, lookup_insert, names_cons]
    by_cases hm : name ∈ names rest
    · simp [hm]
    · by_cases he : name = entry.1
      · simp [he, hentry]
      · simp [hm, he]

theorem lookup_insertAll_of_distinct {name : String} {entries more : Entries α} (h : Distinct more) :
    (insertAll entries more).lookup name = (more.lookup name).or (entries.lookup name) := by
  rw [lookup_insertAll (fun name => more.lookup name) fun entry hm => lookup_of_mem h hm]
  split
  case isTrue hm =>
    obtain ⟨value, hvalue⟩ := Option.ne_none_iff_exists'.mp (mem_names_iff.mp hm)
    rw [hvalue, Option.some_or]
  case isFalse hm =>
    rw [mem_names_iff, not_not] at hm
    rw [hm, Option.none_or]

theorem names_insertAll_of_distinct {entries more : Entries α} (h : Distinct more) :
    names (insertAll entries more) = names entries ++ (names more).filter fun name => name ∉ names entries := by
  induction more generalizing entries with
  | nil => simp [insertAll]
  | cons entry rest ih =>
    obtain ⟨hnew, hrest⟩ := List.nodup_cons.mp h
    change names (insertAll (insert entry.1 entry.2 entries) rest) = _
    rw [ih hrest, names_insert, names_cons]
    by_cases hm : entry.1 ∈ names entries
    · rw [if_pos hm, List.filter_cons_of_neg (by simpa using hm)]
    · rw [if_neg hm, List.filter_cons_of_pos (by simpa using hm), List.append_assoc, List.singleton_append]
      congr 2
      apply List.filter_congr
      intro other hother
      have hne : other ≠ entry.1 := by
        rintro rfl
        exact hnew hother
      simp [hne]

theorem erase_concat (name : String) (init : Entries α) (last : String × α) :
    erase name (init ++ [last]) = if last.1 = name then init
      else if name ∈ names init then init.map fun entry => if entry.1 = name then last else entry
      else init ++ [last] := by
  rw [erase, List.getLast?_concat]
  simp only [List.dropLast_concat]
  by_cases hname : last.1 = name
  · rw [if_pos hname, if_pos hname]
  · have hnames : name ∈ names (init ++ [last]) ↔ name ∈ names init := by
      rw [names, List.map_append, List.mem_append, List.map_singleton, List.mem_singleton]
      exact or_iff_left (Ne.symm hname)
    simp only [hname, hnames, if_false]

theorem distinct_concat {init : Entries α} {last : String × α} (h : Distinct (init ++ [last])) :
    Distinct init ∧ last.1 ∉ names init := by
  rw [Distinct, names, List.map_append, List.nodup_append] at h
  obtain ⟨hinit, _, hne⟩ := h
  exact ⟨hinit, fun hm => hne last.1 hm last.1 (List.mem_singleton_self last.1) rfl⟩

theorem not_mem_names_of_distinct {name : String} {value : α} {before after : Entries α}
    (h : Distinct (before ++ (name, value) :: after)) : name ∉ names before ∧ name ∉ names after := by
  rw [Distinct, names, List.map_append, List.map_cons, List.nodup_middle, ← List.map_append, List.nodup_cons,
    List.map_append, List.mem_append, not_or] at h
  exact h.1

theorem filter_ne_eq_self {name : String} {entries : Entries α} (h : name ∉ names entries) :
    entries.filter (fun entry => entry.1 ≠ name) = entries :=
  List.filter_eq_self.mpr fun _ hm => decide_eq_true fun he => h (he ▸ List.mem_map_of_mem hm)

/-- An entry with another one in its place, among entries that have other names. -/
theorem replace_perm {name : String} {value : α} {last : String × α} {before after : Entries α}
    (hbefore : name ∉ names before) (hafter : name ∉ names after) :
    ((before ++ (name, value) :: after).map fun entry => if entry.1 = name then last else entry).Perm
      (before ++ after ++ [last]) := by
  have hsame : ∀ {others : Entries α}, name ∉ names others →
      others.map (fun entry => if entry.1 = name then last else entry) = others := by
    intro others hnew
    refine (List.map_congr_left fun entry hm => if_neg ?_).trans (List.map_id others)
    exact fun he => hnew (he ▸ List.mem_map_of_mem hm)
  rw [List.map_append, List.map_cons, if_pos rfl, hsame hbefore, hsame hafter, List.append_assoc]
  exact (List.perm_append_singleton last after).symm.append_left before

/-- Taking an entry out leaves all others, the last one in its place. -/
theorem erase_perm {name : String} {entries : Entries α} (h : Distinct entries) :
    (erase name entries).Perm (entries.filter fun entry => entry.1 ≠ name) := by
  rcases List.eq_nil_or_concat entries with rfl | ⟨init, last, rfl⟩
  · exact .refl _
  · rw [List.concat_eq_append] at h ⊢
    obtain ⟨hinit, hlast⟩ := distinct_concat h
    rw [erase_concat, List.filter_append]
    by_cases hname : last.1 = name
    · rw [if_pos hname, filter_ne_eq_self (hname ▸ hlast), List.filter_cons_of_neg (by simpa using hname),
        List.filter_nil, List.append_nil]
    · rw [if_neg hname, List.filter_cons_of_pos (by simpa using hname), List.filter_nil]
      by_cases hmem : name ∈ names init
      · -- The entry stands between others, none of which has its name.
        obtain ⟨⟨found, value⟩, hfound, rfl⟩ := List.mem_map.mp hmem
        obtain ⟨before, after, rfl⟩ := List.append_of_mem hfound
        obtain ⟨hbefore, hafter⟩ := not_mem_names_of_distinct hinit
        rw [if_pos hmem, List.filter_append, List.filter_cons_of_neg (by simp), filter_ne_eq_self hbefore,
          filter_ne_eq_self hafter]
        exact replace_perm hbefore hafter
      · rw [if_neg hmem, filter_ne_eq_self hmem]

theorem mem_erase {name : String} {entry : String × α} {entries : Entries α} (h : Distinct entries) :
    entry ∈ erase name entries ↔ entry ∈ entries ∧ entry.1 ≠ name := by
  rw [(erase_perm h).mem_iff, List.mem_filter, decide_eq_true_eq]

theorem mem_names_erase {name other : String} {entries : Entries α} (h : Distinct entries) :
    other ∈ names (erase name entries) ↔ other ∈ names entries ∧ other ≠ name := by
  constructor
  · intro hm
    obtain ⟨entry, hentry, rfl⟩ := List.mem_map.mp hm
    obtain ⟨hentry, hne⟩ := (mem_erase h).mp hentry
    exact ⟨List.mem_map_of_mem hentry, hne⟩
  · rintro ⟨hm, hne⟩
    obtain ⟨entry, hentry, rfl⟩ := List.mem_map.mp hm
    exact List.mem_map_of_mem ((mem_erase h).mpr ⟨hentry, hne⟩)

end RowStore.Entries
