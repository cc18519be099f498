import RowStore.Proofs.Json.Names
import RowStore.Proofs.Entries
import RowStore.Query.Bracket

/-!
# The query object in JSON

Plain pairs and query objects in JSON are gathered apart from each other, so it does not matter where they stand among
each other. The last query object goes on top of what the plain pairs say: its values count, and those of its names that
are new come last.
-/

namespace RowStore

set_option autoImplicit false

namespace Bracket

/-- Whether the value of a pair is a query object in JSON. -/
def isStructured (pair : String × String) : Bool :=
  pair.1 == jsonName

def structuredPairs (pairs : List (String × String)) : List (String × String) :=
  pairs.filter isStructured

def plainPairs (pairs : List (String × String)) : List (String × String) :=
  pairs.filter fun pair => !isStructured pair

/-- The last query object in JSON; without one, the empty object. -/
def lastStructured (pairs : List (String × String)) : Except Fault Fields :=
  match (structuredPairs pairs).getLast? with
  | some pair => structured pair.2
  | none => .ok []

def addPair (fields : Fields) (pair : String × String) : Except Fault Fields := do
  insert (scalar pair.2) (← path pair.1) fields

theorem bind_eq_ok_iff {α β : Type} {outcome : Except Fault α} {next : α → Except Fault β} {result : β} :
    outcome >>= next = .ok result ↔ ∃ a, outcome = .ok a ∧ next a = .ok result := by
  cases outcome with
  | error fault => simp [bind, Except.bind]
  | ok a => simp [bind, Except.bind]

section

variable {pair : String × String} {pairs more : List (String × String)} {draft after : Draft} {result plain : Fields}

theorem isStructured_iff : isStructured pair = true ↔ pair.1 = jsonName := by
  rw [isStructured, beq_iff_eq]

theorem step_structured (h : isStructured pair = true) :
    step draft pair = .ok after ↔ ∃ object, structured pair.2 = .ok object ∧ after = { draft with structured := object } := by
  rw [step, if_pos (isStructured_iff.mp h), bind_eq_ok_iff]
  simp [pure, Except.pure, eq_comm]

theorem step_plain (h : isStructured pair = false) :
    step draft pair = .ok after ↔ ∃ fields, addPair draft.fields pair = .ok fields ∧ after = { draft with fields } := by
  have hne : pair.1 ≠ jsonName := by
    rw [ne_eq, ← isStructured_iff, h]
    exact Bool.false_ne_true
  rw [step, if_neg hne]
  simp only [addPair, bind_eq_ok_iff, pure, Except.pure, Except.ok.injEq]
  constructor
  · rintro ⟨names, hpath, fields, hfields, rfl⟩
    exact ⟨fields, ⟨names, hpath, hfields⟩, rfl⟩
  · rintro ⟨fields, ⟨names, hpath, hfields⟩, rfl⟩
    exact ⟨names, hpath, fields, hfields, rfl⟩

theorem foldlM_step_eq_ok_iff : pairs.foldlM step draft = .ok after ↔
    (plainPairs pairs).foldlM addPair draft.fields = .ok after.fields ∧
    (structuredPairs pairs).foldlM (fun _ pair => structured pair.2) draft.structured = .ok after.structured := by
  induction pairs generalizing draft with
  | nil =>
    obtain ⟨fields, object⟩ := draft
    obtain ⟨fields', object'⟩ := after
    simp [plainPairs, structuredPairs, pure, Except.pure]
  | cons pair rest ih =>
    rw [List.foldlM_cons, bind_eq_ok_iff]
    cases hpair : isStructured pair with
    | false =>
      have hplain : plainPairs (pair :: rest) = pair :: plainPairs rest := by simp [plainPairs, hpair]
      have hstructured : structuredPairs (pair :: rest) = structuredPairs rest := by simp [structuredPairs, hpair]
      rw [hplain, hstructured, List.foldlM_cons, bind_eq_ok_iff]
      simp only [step_plain hpair, ih]
      constructor
      · rintro ⟨_, ⟨fields, hfirst, rfl⟩, hplain, hstructured⟩
        exact ⟨⟨fields, hfirst, hplain⟩, hstructured⟩
      · rintro ⟨⟨fields, hfirst, hplain⟩, hstructured⟩
        exact ⟨_, ⟨fields, hfirst, rfl⟩, hplain, hstructured⟩
    | true =>
      have hplain : plainPairs (pair :: rest) = plainPairs rest := by simp [plainPairs, hpair]
      have hstructured : structuredPairs (pair :: rest) = pair :: structuredPairs rest := by
        simp [structuredPairs, hpair]
      rw [hplain, hstructured, List.foldlM_cons, bind_eq_ok_iff]
      simp only [step_structured hpair, ih]
      constructor
      · rintro ⟨_, ⟨object, hfirst, rfl⟩, hplain, hstructured⟩
        exact ⟨hplain, object, hfirst, hstructured⟩
      · rintro ⟨hplain, object, hfirst, hstructured⟩
        exact ⟨_, ⟨object, hfirst, rfl⟩, hplain, hstructured⟩

theorem foldlM_structured_eq_ok_iff {start object : Fields} :
    pairs.foldlM (fun _ pair => structured pair.2) start = .ok object ↔
      (∀ pair ∈ pairs, ∃ fields, structured pair.2 = .ok fields) ∧
      (pairs.getLast?.elim (.ok start) fun pair => structured pair.2) = .ok object := by
  induction pairs generalizing start with
  | nil => simp [pure, Except.pure]
  | cons pair rest ih =>
    rw [List.foldlM_cons, bind_eq_ok_iff, List.forall_mem_cons, List.getLast?_cons, Option.elim_some]
    simp only [ih]
    cases hlast : rest.getLast? with
    | none =>
      rw [List.getLast?_eq_none_iff] at hlast
      subst hlast
      simp only [Option.elim_none, List.not_mem_nil, false_implies, implies_true, true_and, and_true, Option.getD_none,
        Except.ok.injEq, exists_eq_right]
      exact ⟨fun h => ⟨⟨object, h⟩, h⟩, And.right⟩
    | some last =>
      simp only [Option.elim_some, Option.getD_some]
      constructor
      · rintro ⟨fields, hfirst, hrest, hobject⟩
        exact ⟨⟨⟨fields, hfirst⟩, hrest⟩, hobject⟩
      · rintro ⟨⟨⟨fields, hfirst⟩, hrest⟩, hobject⟩
        exact ⟨fields, hfirst, hrest, hobject⟩

theorem plainPairs_plainPairs : plainPairs (plainPairs pairs) = plainPairs pairs := by
  simp [plainPairs]

theorem structuredPairs_plainPairs : structuredPairs (plainPairs pairs) = [] := by
  simp [structuredPairs, plainPairs]

theorem decode_eq_ok_iff_foldlM : decode pairs = .ok result ↔
    ∃ plain object, (plainPairs pairs).foldlM addPair [] = .ok plain ∧
      (∀ pair ∈ structuredPairs pairs, ∃ fields, structured pair.2 = .ok fields) ∧
      lastStructured pairs = .ok object ∧ result = Entries.insertAll plain object := by
  have hlast : ((structuredPairs pairs).getLast?.elim (.ok []) fun pair => structured pair.2) = lastStructured pairs := by
    rw [lastStructured]
    cases (structuredPairs pairs).getLast? <;> rfl
  rw [decode, bind_eq_ok_iff]
  simp only [foldlM_step_eq_ok_iff, foldlM_structured_eq_ok_iff, hlast, pure, Except.pure, Except.ok.injEq]
  constructor
  · rintro ⟨after, ⟨hplain, hread, hobject⟩, rfl⟩
    exact ⟨after.fields, after.structured, hplain, hread, hobject, rfl⟩
  · rintro ⟨plain, object, hplain, hread, hobject, rfl⟩
    exact ⟨⟨plain, object⟩, ⟨hplain, hread, hobject⟩, rfl⟩

theorem decode_plainPairs_eq_ok_iff :
    decode (plainPairs pairs) = .ok plain ↔ (plainPairs pairs).foldlM addPair [] = .ok plain := by
  rw [decode_eq_ok_iff_foldlM, plainPairs_plainPairs, lastStructured, structuredPairs_plainPairs]
  constructor
  · rintro ⟨fields, _, hfields, _, ⟨⟩, rfl⟩
    exact hfields
  · intro hplain
    exact ⟨plain, [], hplain, fun _ hm => absurd hm List.not_mem_nil, rfl, rfl⟩

/-- What pairs are decoded to depends on the plain pairs and on the query objects, each in their order. -/
theorem decode_eq_ok_iff : decode pairs = .ok result ↔
    ∃ plain object, decode (plainPairs pairs) = .ok plain ∧
      (∀ pair ∈ structuredPairs pairs, ∃ fields, structured pair.2 = .ok fields) ∧
      lastStructured pairs = .ok object ∧ result = Entries.insertAll plain object := by
  rw [decode_eq_ok_iff_foldlM]
  simp only [decode_plainPairs_eq_ok_iff]

theorem distinct_of_insert {value : Value} {names : List String} {fields after : Fields} (hd : Entries.Distinct fields)
    (h : insert value names fields = .ok after) : Entries.Distinct after := by
  unfold insert at h
  split at h
  · cases h
    exact hd
  · cases h
    exact Entries.distinct_insert hd
  · split at h
    · split at h
      · split at h
        · cases h
          exact Entries.distinct_insert hd
        · cases h
      · cases h
    · split at h
      · cases hinner : insert value _ _ with
        | error fault =>
          rw [hinner] at h
          cases h
        | ok inner =>
          rw [hinner] at h
          cases h
          exact Entries.distinct_insert hd
      · cases h

theorem distinct_foldlM_addPair {fields after : Fields} (hd : Entries.Distinct fields)
    (h : pairs.foldlM addPair fields = .ok after) : Entries.Distinct after := by
  induction pairs generalizing fields with
  | nil =>
    cases h
    exact hd
  | cons pair rest ih =>
    rw [List.foldlM_cons, bind_eq_ok_iff] at h
    obtain ⟨next, hfirst, hrest⟩ := h
    rw [addPair, bind_eq_ok_iff] at hfirst
    obtain ⟨names, _, hinsert⟩ := hfirst
    exact ih (distinct_of_insert hd hinsert) hrest

theorem distinct_structured {raw : String} {fields : Fields} (h : structured raw = .ok fields) :
    Entries.Distinct fields := by
  unfold structured at h
  split at h
  case h_1 hread =>
    cases h
    exact Json.distinct_of_read? hread
  all_goals cases h

theorem distinct_lastStructured {object : Fields} (h : lastStructured pairs = .ok object) : Entries.Distinct object := by
  unfold lastStructured at h
  split at h
  · exact distinct_structured h
  · cases h
    exact List.nodup_nil

end

/-- The query object in JSON goes on top of the plain pairs. Every name that it has means what it says, every other name
means what the plain pairs say; the names of the plain pairs keep their places, and its new ones follow in their order.
Where query objects stand among the plain pairs does not matter. -/
theorem decode_overlays (pairs : List (String × String)) :
    (∀ result, decode pairs = .ok result → Entries.Distinct result ∧
      ∃ plain object, decode (plainPairs pairs) = .ok plain ∧ lastStructured pairs = .ok object ∧
        (∀ name, result.lookup name = (object.lookup name).or (plain.lookup name)) ∧
        Entries.names result
          = Entries.names plain ++ (Entries.names object).filter fun name => name ∉ Entries.names plain) ∧
    ∀ more, plainPairs more = plainPairs pairs → structuredPairs more = structuredPairs pairs →
      ∀ result, decode more = .ok result ↔ decode pairs = .ok result := by
  constructor
  · intro result h
    obtain ⟨plain, object, hplain, _, hobject, rfl⟩ := decode_eq_ok_iff.mp h
    have hdistinct := distinct_lastStructured hobject
    refine ⟨?_, plain, object, hplain, hobject, ?_, Entries.names_insertAll_of_distinct hdistinct⟩
    · have hnil : Entries.Distinct ([] : Fields) := List.nodup_nil
      exact Entries.distinct_insertAll object (distinct_foldlM_addPair hnil (decode_plainPairs_eq_ok_iff.mp hplain))
    · intro name
      exact Entries.lookup_insertAll_of_distinct hdistinct
  · intro more hplain hstructured result
    rw [decode_eq_ok_iff, decode_eq_ok_iff, hplain, lastStructured, lastStructured, hstructured]

/-- A query object that is replaced by a later one, and one whose names are partly known, moved behind all plain pairs. -/
theorem decode_overlays_moved :
    let first := ("q", "\x7b\"x\":1\x7d")
    let last := ("q", "\x7b\"d\":[],\"b\":null\x7d")
    let pairs := [first, ("b[c]", "3"), last, ("a", "x")]
    let more := [("b[c]", "3"), ("a", "x"), first, last]
    let result : Fields := [("b", .null), ("a", .string "x"), ("d", .array [])]
    decode pairs = .ok result ∧ plainPairs more = plainPairs pairs ∧ structuredPairs more = structuredPairs pairs ∧
      decode more = .ok result ∧
      ∃ plain object, decode (plainPairs pairs) = .ok plain ∧ lastStructured pairs = .ok object ∧
        ∀ name, result.lookup name = (object.lookup name).or (plain.lookup name) := by
  intro first last pairs more result
  have hdecode : decode pairs = .ok result := by decide +kernel
  have hplain : plainPairs more = plainPairs pairs := by decide
  have hstructured : structuredPairs more = structuredPairs pairs := by decide
  obtain ⟨hresult, hmoved⟩ := decode_overlays pairs
  obtain ⟨_, plain, object, hplainly, hobject, hlookup, _⟩ := hresult result hdecode
  exact ⟨hdecode, hplain, hstructured, (hmoved more hplain hstructured result).mpr hdecode, plain, object, hplainly,
    hobject, hlookup⟩

end Bracket

end RowStore
