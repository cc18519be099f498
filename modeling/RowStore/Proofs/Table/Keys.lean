import RowStore.Proofs.Predicate.Meaning
import RowStore.Proofs.Table.Run
import RowStore.Proofs.Value.Same

/-!
# The keys of a table

An insert with a key of its own fails when a row has an equal one, but a key from the sequence is not compared with any.
Keys stay distinct along a run just as long as no key from the sequence equals one that is there, which cannot happen
when the keys that are given are integers of at most 53 bits or have no numeric reading.
-/

namespace RowStore.Table

set_option autoImplicit false

def keys (table : Table) : List Value :=
  table.rows.filterMap fun row => Record.key? row table.key

/-- No two rows have equal keys. -/
def DistinctKeys (table : Table) : Prop :=
  table.keys.Pairwise fun k l => k.same l = false

/-- An insert that takes its key from the sequence although a row has an equal one. -/
def Clashes (table : Table) (w : Write) : Prop :=
  ∃ attributes, w = .insert attributes ∧ table.unknownColumn? attributes = none ∧
    Record.key? attributes table.key = none ∧ ∃ k ∈ table.keys, k.same (.ofInt table.nextId) = true

section

variable {table next : Table} {attributes changes row : Record} {id : Value}

theorem key?_eq_some_iff {row : Record} {key : String} {k : Value} :
    Record.key? row key = some k ↔ row.lookup key = some k ∧ k ≠ .null := by
  rw [Record.key?, Option.filter_eq_some_iff]
  simp

theorem key?_ne_null {row : Record} {key : String} {k : Value} (h : Record.key? row key = some k) : k ≠ .null :=
  (key?_eq_some_iff.mp h).2

theorem mem_keys {k : Value} : k ∈ table.keys ↔ ∃ row ∈ table.rows, Record.key? row table.key = some k :=
  List.mem_filterMap

theorem ne_null_of_mem_keys {k : Value} (h : k ∈ table.keys) : k ≠ .null := by
  obtain ⟨row, _, hrow⟩ := mem_keys.mp h
  exact key?_ne_null hrow

theorem hasKey_of_key? {k : Value} (h : Record.key? row table.key = some k) : table.hasKey id row = k.same id := by
  rw [hasKey, h]

theorem hasKey_of_none (h : Record.key? row table.key = none) : table.hasKey id row = false := by
  rw [hasKey, h]

theorem hasKey_iff : table.hasKey id row = true ↔ ∃ k, Record.key? row table.key = some k ∧ k.same id = true := by
  cases hk : Record.key? row table.key with
  | none => simp [hasKey_of_none hk]
  | some k => simp [hasKey_of_key? hk]

theorem any_hasKey_iff : table.rows.any (table.hasKey id) = true ↔ ∃ k ∈ table.keys, k.same id = true := by
  rw [List.any_eq_true]
  constructor
  · rintro ⟨row, hm, hrow⟩
    obtain ⟨k, hk, hsame⟩ := hasKey_iff.mp hrow
    exact ⟨k, mem_keys.mpr ⟨row, hm, hk⟩, hsame⟩
  · rintro ⟨k, hk, hsame⟩
    obtain ⟨row, hm, hrow⟩ := mem_keys.mp hk
    exact ⟨row, hm, hasKey_iff.mpr ⟨k, hrow, hsame⟩⟩

theorem any_hasKey_eq_false_iff :
    table.rows.any (table.hasKey id) = false ↔ ∀ k ∈ table.keys, k.same id = false := by
  rw [← Bool.not_eq_true, any_hasKey_iff]
  simp

theorem lookup_newRow {column : String} (h : column ∈ table.columns) :
    (table.newRow id attributes).lookup column = some (table.initial id attributes column) := by
  rw [newRow]
  generalize table.columns = columns at h
  induction columns with
  | nil => cases h
  | cons other rest ih =>
    rw [List.map_cons, Entries.lookup_cons]
    by_cases he : column = other
    · subst he
      rw [if_pos rfl]
    · rw [if_neg he]
      exact ih ((List.mem_cons.mp h).resolve_left he)

theorem key?_newRow (hkey : table.key ∈ table.columns) (hid : id ≠ .null) :
    Record.key? (table.newRow id attributes) table.key = some id := by
  rw [Record.key?, lookup_newRow hkey, initial, if_pos rfl, Option.filter_some]
  simp [hid]

theorem lookup_key_write : (table.write changes row).lookup table.key = row.lookup table.key := by
  rw [write]
  induction changes generalizing row with
  | nil => rfl
  | cons change rest ih =>
    rw [List.foldl_cons, ih]
    by_cases hk : change.1 = table.key
    · rw [if_pos hk]
    · rw [if_neg hk, Entries.lookup_insert, if_neg (Ne.symm hk)]

theorem key?_write : Record.key? (table.write changes row) table.key = Record.key? row table.key := by
  rw [Record.key?, lookup_key_write, Record.key?]

theorem keys_append (rows : List Record) (hid : id ≠ .null) (hkey : table.key ∈ table.columns)
    (n : Int) :
    keys { table with rows := rows ++ [table.newRow id attributes], nextId := n }
      = keys { table with rows } ++ [id] := by
  simp only [keys, List.filterMap_append, List.filterMap_cons, List.filterMap_nil, key?_newRow hkey hid]

theorem keys_update (h : table.update id changes = .ok (row, next)) : next.keys = table.keys := by
  obtain ⟨_, before, old, after, hrows, _, _, rfl, rfl⟩ := update_cases h
  simp only [keys, hrows, List.filterMap_append, List.filterMap_cons, key?_write]

theorem keys_delete (h : table.delete id = .ok next) : next.keys = table.keys.filter fun k => !k.same id := by
  obtain ⟨_, rfl⟩ := delete_cases h
  unfold keys
  induction table.rows with
  | nil => rfl
  | cons row rest ih =>
    cases hk : Record.key? row table.key with
    | none =>
      simp only [List.filter_cons, hasKey_of_none hk, Bool.not_false, if_true, List.filterMap_cons, hk]
      exact ih
    | some k =>
      cases hs : k.same id with
      | true =>
        simp only [List.filter_cons, hasKey_of_key? hk, hs, Bool.not_true, Bool.false_eq_true, if_false,
          List.filterMap_cons, hk]
        exact ih
      | false =>
        simp only [List.filter_cons, hasKey_of_key? hk, hs, Bool.not_false, if_true, List.filterMap_cons, hk]
        exact congrArg (k :: ·) ih

/-- A delete takes out as many rows as there are keys that equal the one it is given. -/
theorem length_delete (h : table.delete id = .ok next) :
    table.rows.length = next.rows.length + table.keys.countP fun k => k.same id := by
  obtain ⟨_, rfl⟩ := delete_cases h
  have hcount : table.keys.countP (fun k => k.same id) = table.rows.countP (table.hasKey id) := by
    rw [keys, List.countP_filterMap]
    apply List.countP_congr
    intro row _
    cases hk : Record.key? row table.key with
    | none => simp [hasKey_of_none hk]
    | some k => simp [hasKey_of_key? hk]
  have hsplit := List.length_eq_countP_add_countP (table.hasKey id) (l := table.rows)
  simp only [hcount, ← List.countP_eq_length_filter]
  rw [hsplit, Nat.add_comm]
  simp

theorem distinct_concat {keys : List Value} :
    (keys ++ [id]).Pairwise (fun k l => k.same l = false)
      ↔ keys.Pairwise (fun k l => k.same l = false) ∧ ∀ k ∈ keys, k.same id = false := by
  simp [List.pairwise_append]

theorem distinctKeys_insert_iff (hkey : table.key ∈ table.columns) (hd : DistinctKeys table)
    (h : table.insert attributes = .ok (id, next)) :
    DistinctKeys next ↔ ¬ table.Clashes (.insert attributes) := by
  rcases insert_cases h with ⟨hu, hk, hany, rfl⟩ | ⟨hu, hk, rfl, rfl⟩
  · rw [DistinctKeys, keys_append _ (key?_ne_null hk) hkey, distinct_concat]
    apply iff_of_true ⟨hd, any_hasKey_eq_false_iff.mp hany⟩
    rintro ⟨_, he, _, hnone, _⟩
    cases he
    rw [hk] at hnone
    cases hnone
  · have hne : Value.ofInt table.nextId ≠ .null := nofun
    rw [DistinctKeys, keys_append _ hne hkey, distinct_concat]
    constructor
    · rintro ⟨_, hfresh⟩ ⟨_, _, _, _, k, hm, hsame⟩
      rw [hfresh k hm] at hsame
      cases hsame
    · intro hclash
      refine ⟨hd, ?_⟩
      intro k hm
      by_contra hsame
      exact hclash ⟨attributes, rfl, hu, hk, k, hm, by simpa using hsame⟩

/-- Of all writes, only a key from the sequence that a row has already makes distinct keys equal. -/
theorem distinctKeys_perform_iff (hkey : table.key ∈ table.columns) (hd : DistinctKeys table) (w : Write) :
    DistinctKeys (table.perform w) ↔ ¬ table.Clashes w := by
  cases w with
  | insert attributes =>
    rw [perform]
    cases h : table.insert attributes with
    | ok result => exact distinctKeys_insert_iff hkey hd h
    | error e =>
      apply iff_of_true hd
      rintro ⟨_, he, hu, hk, _⟩
      cases he
      unfold insert at h
      rw [hu, hk] at h
      cases h
  | update id changes =>
    rw [perform]
    apply iff_of_true
    · cases h : table.update id changes with
      | error e => exact hd
      | ok result => exact (congrArg _ (keys_update h)).mpr hd
    · rintro ⟨_, he, _⟩
      cases he
  | delete id =>
    rw [perform]
    apply iff_of_true
    · cases h : table.delete id with
      | error e => exact hd
      | ok next =>
        have hkeys := keys_delete h
        unfold DistinctKeys at hd ⊢
        simp only [hkeys]
        exact hd.filter _
    · rintro ⟨_, he, _⟩
      cases he
  | clear =>
    apply iff_of_true List.Pairwise.nil
    rintro ⟨_, he, _⟩
    cases he

end

theorem distinctKeys_opened (name key : String) (columns : List String) (defaults : List (String × Value)) :
    DistinctKeys (opened name key columns defaults) := by
  rw [opened_eq]
  exact List.Pairwise.nil

theorem key_mem_columns_run {table : Table} (h : table.key ∈ table.columns) (writes : List Write) :
    (table.run writes).key ∈ (table.run writes).columns := by
  obtain ⟨_, hkey, hcolumns, _⟩ := sameFrame_run table writes
  rwa [hkey, hcolumns]

theorem distinctKeys_prefix_iff {table : Table} (hkey : table.key ∈ table.columns) (hd : DistinctKeys table)
    (writes : List Write) :
    (∀ before, before <+: writes → DistinctKeys (table.run before))
      ↔ ∀ before w, before ++ [w] <+: writes → ¬ (table.run before).Clashes w := by
  constructor
  · intro h before w hprefix
    have hbefore := h before (prefix_of_concat hprefix)
    have hafter := h _ hprefix
    rw [run_concat] at hafter
    exact (distinctKeys_perform_iff (key_mem_columns_run hkey before) hbefore w).mp hafter
  · intro h
    apply prefix_induction hd
    intro before w hprefix hbefore
    exact (distinctKeys_perform_iff (key_mem_columns_run hkey before) hbefore w).mpr (h before w hprefix)

/-- A key that is given with an insert is a plain value. -/
def Write.Plain (key : String) : Write → Prop
  | .insert attributes => ∀ id, Record.key? attributes key = some id → id.Plain
  | .update _ _ | .delete _ | .clear => True

/-- All keys are plain, and the integers among them are behind the sequence. -/
structure PlainKeys (table : Table) : Prop where
  plain : ∀ k ∈ table.keys, k.Plain
  behind : ∀ n : Int, .ofInt n ∈ table.keys → n < table.nextId
  positive : 1 ≤ table.nextId

theorem successor_eq {n : Int} (hlower : Numeral.leastInt64 ≤ n) (hupper : n < Numeral.greatestInt64) :
    successor n = n + 1 := by
  rw [successor, Numeral.wordBound, Int.bmod_def]
  unfold Numeral.leastInt64 Numeral.greatestInt64 at *
  omega

theorem advance_ofInt (table : Table) {n : Int} (hlower : Numeral.leastInt64 ≤ n) (hupper : n < Numeral.greatestInt64) :
    table.advance (.ofInt n) = max table.nextId (n + 1) := by
  have hint : (Number.integer n).int64? = some n := by
    rw [Number.int64?, if_pos ⟨hlower, Int.le_of_lt hupper⟩]
  simp only [advance, Value.ofInt, hint, successor_eq hlower hupper]

theorem int64_of_exact {n : Int} (h : n.natAbs ≤ Binary64.exactBound) :
    Numeral.leastInt64 ≤ n ∧ n < Numeral.greatestInt64 := by
  have hbound : Binary64.exactBound = 9007199254740992 := by decide
  unfold Numeral.leastInt64 Numeral.greatestInt64
  omega

theorem advance_of_none (table : Table) {id : Value} (h : id.numeric? = none) : table.advance id = table.nextId := by
  cases id <;> first | rfl | cases h

theorem PlainKeys.not_clashes {table : Table} (h : PlainKeys table) (hbound : table.nextId ≤ Binary64.exactBound)
    (w : Write) : ¬ table.Clashes w := by
  rintro ⟨_, _, _, _, k, hm, hsame⟩
  have hnext : table.nextId.natAbs ≤ Binary64.exactBound := by
    have hpositive := h.positive
    omega
  rw [Value.same_ofInt_iff (h.plain k hm) (ne_null_of_mem_keys hm) hnext] at hsame
  subst hsame
  exact Int.lt_irrefl _ (h.behind _ hm)

theorem plainKeys_insert {table next : Table} {attributes : Record} {id : Value} (hkey : table.key ∈ table.columns)
    (h : PlainKeys table) (hw : (Write.insert attributes).Plain table.key)
    (hbound : table.nextId ≤ Binary64.exactBound) (hinsert : table.insert attributes = .ok (id, next)) :
    PlainKeys next := by
  rcases insert_cases hinsert with ⟨_, hk, _, rfl⟩ | ⟨_, _, rfl, rfl⟩
  · have hplain := hw id hk
    have hle : table.nextId ≤ table.advance id := by
      rcases hplain with hnone | ⟨n, rfl, hn⟩
      · exact Int.le_of_eq (advance_of_none table hnone).symm
      · obtain ⟨hlower, hupper⟩ := int64_of_exact hn
        rw [advance_ofInt table hlower hupper]
        exact Int.le_max_left _ _
    refine ⟨?_, ?_, Int.le_trans h.positive hle⟩
    · intro k hm
      rw [keys_append _ (key?_ne_null hk) hkey, List.mem_append, List.mem_singleton] at hm
      rcases hm with hm | rfl
      · exact h.plain k hm
      · exact hplain
    · intro n hm
      rw [keys_append _ (key?_ne_null hk) hkey, List.mem_append, List.mem_singleton] at hm
      rcases hm with hm | rfl
      · exact Int.lt_of_lt_of_le (h.behind n hm) hle
      · rcases hplain with hnone | ⟨m, he, hm⟩
        · cases hnone
        · cases he
          obtain ⟨hlower, hupper⟩ := int64_of_exact hm
          rw [advance_ofInt table hlower hupper]
          exact Int.lt_of_lt_of_le (Int.lt_succ n) (Int.le_max_right _ _)
  · have hne : Value.ofInt table.nextId ≠ .null := nofun
    have hnext : table.nextId.natAbs ≤ Binary64.exactBound := by
      have hpositive := h.positive
      omega
    obtain ⟨hlower, hupper⟩ := int64_of_exact hnext
    rw [successor_eq hlower hupper]
    refine ⟨?_, ?_, Int.le_add_one h.positive⟩
    · intro k hm
      rw [keys_append _ hne hkey, List.mem_append, List.mem_singleton] at hm
      rcases hm with hm | rfl
      · exact h.plain k hm
      · exact Value.plain_ofInt hnext
    · intro n hm
      rw [keys_append _ hne hkey, List.mem_append, List.mem_singleton] at hm
      rcases hm with hm | he
      · exact Int.lt_add_one_of_le (Int.le_of_lt (h.behind n hm))
      · cases he
        exact Int.lt_succ _

theorem plainKeys_perform {table : Table} (hkey : table.key ∈ table.columns) (h : PlainKeys table) {w : Write}
    (hw : w.Plain table.key) (hbound : table.nextId ≤ Binary64.exactBound) : PlainKeys (table.perform w) := by
  refine perform_induction w h ?_ ?_ ?_ ?_
  · intro attributes id next he hinsert
    subst he
    exact plainKeys_insert hkey h hw hbound hinsert
  · intro id changes row next hupdate
    have hkeys := keys_update hupdate
    obtain ⟨_, _, _, _, _, _, _, _, rfl⟩ := update_cases hupdate
    exact ⟨fun k hm => h.plain k (hkeys ▸ hm), fun n hm => h.behind n (hkeys ▸ hm), h.positive⟩
  · intro id next hdelete
    have hkeys := keys_delete hdelete
    have hsub : ∀ k ∈ next.keys, k ∈ table.keys := fun k hm => (List.mem_filter.mp (hkeys ▸ hm)).1
    obtain ⟨_, rfl⟩ := delete_cases hdelete
    exact ⟨fun k hm => h.plain k (hsub k hm), fun n hm => h.behind n (hsub _ hm), h.positive⟩
  · exact ⟨fun k hm => (List.not_mem_nil hm).elim, fun n hm => (List.not_mem_nil hm).elim, Int.le_refl 1⟩

theorem plainKeys_run {table : Table} (hkey : table.key ∈ table.columns) (h : PlainKeys table) {writes : List Write}
    (hw : ∀ w ∈ writes, w.Plain table.key)
    (hbound : ∀ before, before <+: writes → (table.run before).nextId ≤ Binary64.exactBound) :
    ∀ before, before <+: writes → PlainKeys (table.run before) := by
  apply prefix_induction h
  intro before w hprefix hkeys
  have hm : w ∈ writes := hprefix.subset (List.mem_append_right _ List.mem_cons_self)
  have hplain : w.Plain (table.run before).key := by
    rw [(sameFrame_run table before).2.1]
    exact hw w hm
  exact plainKeys_perform (key_mem_columns_run hkey before) hkeys hplain (hbound before (prefix_of_concat hprefix))

theorem countP_same_le_one {keys : List Value} {id : Value} (hid : id.Locates) (hplain : ∀ k ∈ keys, k.Plain)
    (hnull : ∀ k ∈ keys, k ≠ .null) (hd : keys.Pairwise fun k l => k.same l = false) :
    keys.countP (fun k => k.same id) ≤ 1 := by
  induction keys with
  | nil => simp
  | cons k rest ih =>
    obtain ⟨hkplain, hplain⟩ := List.forall_mem_cons.mp hplain
    obtain ⟨hknull, hnull⟩ := List.forall_mem_cons.mp hnull
    obtain ⟨hk, hd⟩ := List.pairwise_cons.mp hd
    rw [List.countP_cons]
    split
    · rename_i hsame
      have hzero : rest.countP (fun l => l.same id) = 0 := by
        rw [List.countP_eq_zero]
        intro l hl hlsame
        have hboth := Value.same_of_same hkplain (hplain l hl) hknull (hnull l hl) hid hsame hlsame
        rw [hk l hl] at hboth
        cases hboth
      omega
    · exact ih hplain hnull hd

theorem length_delete_of_plain {table next : Table} {id : Value} (hplain : ∀ k ∈ table.keys, k.Plain)
    (hd : DistinctKeys table) (hid : id.Locates) (h : table.delete id = .ok next) :
    table.rows.length = next.rows.length + 1 := by
  have hlength := length_delete h
  have hle := countP_same_le_one hid hplain (fun _ hm => ne_null_of_mem_keys hm) hd
  have hpos : 0 < table.keys.countP fun k => k.same id :=
    List.countP_pos_iff.mpr (any_hasKey_iff.mp (delete_cases h).1)
  omega

theorem plainKeys_opened (name key : String) (columns : List String) (defaults : List (String × Value)) :
    PlainKeys (opened name key columns defaults) := by
  rw [opened_eq]
  exact ⟨fun k hm => (List.not_mem_nil hm).elim, fun n hm => (List.not_mem_nil hm).elim, Int.le_refl 1⟩

/-- Along any run from a new table, keys are distinct at every point just when no insert takes a key from the sequence
that equals one that is there. Given keys that are plain never lead to that as long as the sequence is within 53 bits,
and then a delete by an integer or a text takes out one row. In general an update writes into one row, and a delete
takes out as many as have an equal key. -/
theorem distinctKeys_iff_sequence_fresh (name key : String) (columns : List String)
    (defaults : List (String × Value)) (writes : List Write) :
    let start := opened name key columns defaults
    ((∀ before, before <+: writes → DistinctKeys (start.run before)) ↔
      ∀ before w, before ++ [w] <+: writes → ¬ (start.run before).Clashes w) ∧
    ((∀ w ∈ writes, w.Plain key) →
      (∀ before, before <+: writes → (start.run before).nextId ≤ Binary64.exactBound) →
      (∀ before, before <+: writes → DistinctKeys (start.run before)) ∧
      ∀ id next, id.Locates → (start.run writes).delete id = .ok next →
        (start.run writes).rows.length = next.rows.length + 1) ∧
    (∀ id changes row next, (start.run writes).update id changes = .ok (row, next) →
      ∃ before old after, (start.run writes).rows = before ++ old :: after ∧ next.rows = before ++ row :: after) ∧
    ∀ id next, (start.run writes).delete id = .ok next →
      (start.run writes).rows.length = next.rows.length + (start.run writes).keys.countP fun k => k.same id := by
  intro start
  have hkey : start.key ∈ start.columns := key_mem_columns_opened name key columns defaults
  have hname : start.key = key := congrArg Table.key (opened_eq name key columns defaults)
  have hiff := distinctKeys_prefix_iff hkey (distinctKeys_opened name key columns defaults) writes
  refine ⟨hiff, ?_, ?_, ?_⟩
  · intro hplain hbound
    have hrun := plainKeys_run hkey (plainKeys_opened name key columns defaults) (hname ▸ hplain) hbound
    have hdistinct : ∀ before, before <+: writes → DistinctKeys (start.run before) := by
      apply hiff.mpr
      intro before w hprefix
      have hbefore := prefix_of_concat hprefix
      exact (hrun before hbefore).not_clashes (hbound before hbefore) w
    refine ⟨hdistinct, ?_⟩
    intro id next hid hdelete
    exact length_delete_of_plain (hrun writes (List.prefix_refl writes)).plain
      (hdistinct writes (List.prefix_refl writes)) hid hdelete
  · intro id changes row next hupdate
    obtain ⟨_, before, old, after, hrows, _, _, _, rfl⟩ := update_cases hupdate
    exact ⟨before, old, after, hrows, rfl⟩
  · intro id next hdelete
    exact length_delete hdelete

/-- Two rows, one with a given key and one from the sequence, of which the first is deleted by its key. -/
theorem distinctKeys_iff_sequence_fresh_givenAndNext :
    ∃ next, ((opened "t" "id" [] []).run [.insert [("id", .string "a")], .insert []]).delete (.string "a") = .ok next ∧
      ((opened "t" "id" [] []).run [.insert [("id", .string "a")], .insert []]).rows.length
        = next.rows.length + 1 := by
  have hplain : ∀ w ∈ [Write.insert [("id", .string "a")], .insert []], w.Plain "id" := by
    intro w hw
    simp only [List.mem_cons, List.not_mem_nil, or_false] at hw
    rcases hw with rfl | rfl
    · intro id hk
      cases hk
      exact .inl (by decide +kernel)
    · intro id hk
      cases hk
  have hbound : ∀ before, before <+: [Write.insert [("id", .string "a")], .insert []] →
      ((opened "t" "id" [] []).run before).nextId ≤ Binary64.exactBound := by
    intro before hb
    simp only [List.prefix_cons_iff, List.prefix_nil] at hb
    rcases hb with rfl | ⟨_, rfl, rfl | ⟨_, rfl, rfl⟩⟩ <;> decide +kernel
  have hrun := (distinctKeys_iff_sequence_fresh "t" "id" [] [] [.insert [("id", .string "a")], .insert []]).2.1
    hplain hbound
  exact ⟨_, rfl, hrun.2 _ _ (.inr ⟨"a", rfl⟩) rfl⟩

/-- The sequence gives a number that a text which was given before spells; and of two keys that are not equal, a
boolean may equal both. -/
theorem not_forall_distinctKeys :
    ¬ DistinctKeys ((opened "t" "id" [] []).run [.insert [("id", .string "1")], .insert []]) ∧
      DistinctKeys ((opened "t" "id" [] []).run [.insert [], .insert [("id", .string "true")]]) ∧
      ∃ next, ((opened "t" "id" [] []).run [.insert [], .insert [("id", .string "true")]]).delete (.bool true)
        = .ok next ∧ next.rows = [] := by
  unfold DistinctKeys
  refine ⟨by decide +kernel, by decide +kernel, ?_⟩
  exact ⟨{ opened "t" "id" [] [] with nextId := 2 }, by decide +kernel, rfl⟩

end RowStore.Table
