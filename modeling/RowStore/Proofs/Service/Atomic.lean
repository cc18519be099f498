import RowStore.Proofs.Service.Create
import RowStore.Proofs.Service.Reached

/-!
# Atomic writes

It is clear beforehand whether a write of a table fails: by the columns that it names and by the keys of the rows. One that
fails leaves the rows and the sequence. One that succeeds puts a row at the end, changes the first row with the key in
the columns that it names, or takes out the rows with the key, and leaves all others in their order.
-/

namespace RowStore.Table

set_option autoImplicit false

variable {table next : Table} {attributes changes row record : Record} {id : Value}

/-- A reply that is an error, with the table as it was, if the write must fail, and else an answer with another table. -/
structure Atomic {α : Type} (table : Table) (fails : Prop) (done : α → Table → Prop) (reply : Reply Table α) : Prop where
  refused : fails → ∃ report, reply = (.error report, table)
  performed : ¬ fails → ∃ answer next, reply = (.ok answer, next) ∧ done answer next

theorem atomic_replyOf {α : Type} {fails : Prop} {done : α → Table → Prop} {outcome : Except TableError (α × Table)}
    (hfails : (∃ e, outcome = .error e) ↔ fails)
    (hdone : ∀ answer next, outcome = .ok (answer, next) → done answer next) :
    Atomic table fails done (table.replyOf outcome) := by
  cases outcome with
  | error e =>
    refine ⟨fun _ => ⟨e.message, rfl⟩, ?_⟩
    exact fun h => absurd (hfails.mp ⟨e, rfl⟩) h
  | ok result =>
    refine ⟨?_, fun _ => ⟨result.1, result.2, rfl, hdone _ _ rfl⟩⟩
    intro h
    obtain ⟨e, he⟩ := hfails.mpr h
    cases he

def keyEquals (table : Table) (id : Value) (row : Record) : Bool :=
  (row.lookup table.key).any fun stored => stored.same id

/-- Null is no key, but no row has it there. -/
theorem Shaped.hasKey_eq (h : Shaped table) (hm : row ∈ table.rows) : table.hasKey id row = table.keyEquals id row := by
  obtain ⟨stored, hstored⟩ := Option.isSome_iff_exists.mp (h row hm).2
  rw [hasKey_of_key? hstored, keyEquals, (key?_eq_some_iff.mp hstored).1, Option.any_some]

theorem Shaped.any_hasKey_iff (h : Shaped table) :
    table.rows.any (table.hasKey id) = true ↔ ∃ row ∈ table.rows, table.keyEquals id row = true := by
  rw [List.any_eq_true]
  apply exists_congr
  intro row
  apply and_congr_right
  intro hm
  rw [h.hasKey_eq hm]

theorem Shaped.any_hasKey_eq_false_iff (h : Shaped table) :
    table.rows.any (table.hasKey id) = false ↔ ∀ row ∈ table.rows, table.keyEquals id row = false := by
  rw [← Bool.not_eq_true, h.any_hasKey_iff]
  simp

/-- An insert fails at a name that is no column or at a given key that a row has. -/
theorem insert_error_iff (h : Shaped table) :
    (∃ e, table.insert attributes = .error e) ↔
      (∃ column ∈ Entries.names attributes, column ∉ table.columns) ∨
      ∃ id, attributes.lookup table.key = some id ∧ id ≠ .null ∧ ∃ row ∈ table.rows, table.keyEquals id row = true := by
  simp only [← exists_unknownColumn?_iff, ← and_assoc, ← key?_eq_some_iff, ← h.any_hasKey_iff]
  unfold insert
  cases table.unknownColumn? attributes with
  | some column => simp
  | none =>
    cases Record.key? attributes table.key with
    | none => simp
    | some id =>
      simp only [Option.some.injEq, exists_eq_left']
      cases table.rows.any (table.hasKey id) <;> simp

/-- An update fails at a name that is no column or at a key that no row has. -/
theorem update_error_iff (h : Shaped table) :
    (∃ e, table.update id changes = .error e) ↔
      (∃ column ∈ Entries.names changes, column ∉ table.columns) ∨
      ∀ row ∈ table.rows, table.keyEquals id row = false := by
  have hnone : changeFirst (table.hasKey id) (table.write changes) table.rows = none ↔ _ := changeFirst_eq_none_iff
  rw [← exists_unknownColumn?_iff, ← h.any_hasKey_eq_false_iff, ← hnone]
  unfold update
  cases table.unknownColumn? changes with
  | some column => simp
  | none => cases changeFirst (table.hasKey id) (table.write changes) table.rows <;> simp

theorem delete_error_iff (h : Shaped table) :
    (∃ e, table.delete id = .error e) ↔ ∀ row ∈ table.rows, table.keyEquals id row = false := by
  rw [← h.any_hasKey_eq_false_iff, delete]
  cases table.rows.any (table.hasKey id) <;> simp

/-- A row is at the end. Its key is the one that is given or that of the sequence. -/
structure Appended (table : Table) (attributes : Record) (id : Value) (next : Table) : Prop where
  same_frame : SameFrame table next
  key_eq : id = (Record.key? attributes table.key).getD (.ofInt table.nextId)
  rows_eq : ∃ row, next.rows = table.rows ++ [row] ∧ Inserted table attributes id row

theorem appended_of_insert (hkey : table.key ∈ table.columns) (h : table.insert attributes = .ok (id, next)) :
    Appended table attributes id next := by
  obtain ⟨_, _, hrows, _⟩ := inserted_of_insert hkey h
  rcases insert_cases h with ⟨_, hk, _, rfl⟩ | ⟨_, hk, rfl, rfl⟩
  · exact ⟨.refl table, by rw [hk, Option.getD_some], hrows⟩
  · exact ⟨.refl table, by rw [hk, Option.getD_none], hrows⟩

/-- One row is another one: the first with the key. It has the values that the changes name last, but keeps its key, its
columns and what is not named. -/
structure Updated (table : Table) (id : Value) (changes record : Record) (next : Table) : Prop where
  rows_eq : ∃ before old after, table.rows = before ++ old :: after ∧
    next = { table with rows := before ++ record :: after } ∧
    table.keyEquals id old = true ∧ (∀ other ∈ before, table.keyEquals id other = false) ∧
    Entries.names record = Entries.names old ∧
    ∀ column, record.lookup column = if column = table.key then old.lookup column
      else (changes.reverse.lookup column).or (old.lookup column)

theorem updated_of_update (hshaped : Shaped table) (h : table.update id changes = .ok (record, next)) :
    Updated table id changes record next := by
  obtain ⟨hunknown, before, old, after, hrows, hbefore, hold, rfl, rfl⟩ := update_cases h
  have hmem : ∀ other ∈ before, other ∈ table.rows := fun other hm => hrows ▸ List.mem_append_left _ hm
  have hm : old ∈ table.rows := hrows ▸ List.mem_append_right before List.mem_cons_self
  refine ⟨before, old, after, hrows, rfl, ?_, ?_, ?_, fun _ => lookup_write_reverse⟩
  · rw [← hshaped.hasKey_eq hm, hold]
  · intro other hother
    rw [← hshaped.hasKey_eq (hmem other hother), hbefore other hother]
  · apply names_write
    intro column hcolumn _
    rw [(hshaped old hm).1]
    exact unknownColumn?_eq_none_iff.mp hunknown column hcolumn

theorem eq_filter_of_delete (hshaped : Shaped table) (h : table.delete id = .ok next) :
    next = { table with rows := table.rows.filter fun row => !table.keyEquals id row } := by
  obtain ⟨_, rfl⟩ := delete_cases h
  congr 1
  apply List.filter_congr
  intro row hm
  rw [hshaped.hasKey_eq hm]

theorem atomic_delete (hshaped : Shaped table) (id : Value) :
    Atomic table (∀ row ∈ table.rows, table.keyEquals id row = false)
      (fun _ next => next = { table with rows := table.rows.filter fun row => !table.keyEquals id row })
      (storage.delete id table) := by
  apply atomic_replyOf
  · rw [← delete_error_iff hshaped]
    cases table.delete id <;> simp [Except.map]
  · intro _ next h
    cases hdelete : table.delete id with
    | error e =>
      rw [hdelete] at h
      cases h
    | ok result =>
      rw [hdelete] at h
      cases h
      exact eq_filter_of_delete hshaped hdelete

/-- Every write of a table that a new one becomes is atomic. An insert fails just when it names what is no column or
gives a key that equals the key of a row; an update, when it names what is no column or no row has the key; a delete,
when no row has the key. -/
theorem reached_writes_atomic (name key : String) (columns : List String) (defaults : List (String × Value))
    {table : Table} (h : Reached (opened name key columns defaults) table) :
    (∀ attributes, Atomic table
      ((∃ column ∈ Entries.names attributes, column ∉ table.columns) ∨
        ∃ id, attributes.lookup table.key = some id ∧ id ≠ .null ∧ ∃ row ∈ table.rows, table.keyEquals id row = true)
      (Appended table attributes) (storage.insert attributes table)) ∧
    (∀ id changes, Atomic table
      ((∃ column ∈ Entries.names changes, column ∉ table.columns) ∨
        ∀ row ∈ table.rows, table.keyEquals id row = false)
      (Updated table id changes) (storage.update id changes table)) ∧
    ∀ id, Atomic table (∀ row ∈ table.rows, table.keyEquals id row = false)
      (fun _ next => next = { table with rows := table.rows.filter fun row => !table.keyEquals id row })
      (storage.delete id table) := by
  obtain ⟨hname, hshaped⟩ := h.shaped
  have hkey : table.key ∈ table.columns := by
    rw [hname, h.columns_eq]
    exact Plan.mem_keyFirst.mpr (.inl rfl)
  refine ⟨?_, ?_, atomic_delete hshaped⟩
  · intro attributes
    exact atomic_replyOf (insert_error_iff hshaped) fun _ _ => appended_of_insert hkey
  · intro id changes
    exact atomic_replyOf (update_error_iff hshaped) fun _ _ => updated_of_update hshaped

/-- The text of a number finds the row whose key is that number: an insert that gives it fails, an update by it writes into
that row, and a delete by it takes that row out. -/
theorem reached_writes_atomic_textOfNumber :
    let table := (opened "people" "id" ["name"] []).run [.insert [("name", .string "Ada")], .insert [("id", .string "a")]]
    (∃ report, storage.insert [("id", .string "1")] table = (.error report, table)) ∧
      (∃ record next, storage.update (.string "1") [("id", .ofInt 9), ("name", .string "Eve")] table
        = (.ok record, next) ∧ Updated table (.string "1") [("id", .ofInt 9), ("name", .string "Eve")] record next) ∧
      ∃ answer next, storage.delete (.string "1") table = (.ok answer, next) ∧
        next.rows = [[("id", .string "a"), ("name", .null)]] := by
  intro table
  have hreached : Reached (opened "people" "id" ["name"] []) table := Reached.start.run _
  obtain ⟨hinsert, hupdate, hdelete⟩ := reached_writes_atomic "people" "id" ["name"] [] hreached
  have htaken : ∃ row ∈ table.rows, table.keyEquals (.string "1") row = true := by decide +kernel
  refine ⟨?_, ?_, ?_⟩
  · exact (hinsert [("id", .string "1")]).refused (.inr ⟨.string "1", rfl, nofun, htaken⟩)
  · exact (hupdate _ _).performed (by decide +kernel)
  · obtain ⟨answer, next, hreply, rfl⟩ := (hdelete (.string "1")).performed (by decide +kernel)
    exact ⟨answer, _, hreply, by decide +kernel⟩

end RowStore.Table
