import RowStore.Proofs.Table.Rows
import RowStore.Proofs.Value.Preorder

/-!
# Sorted rows

The rows of a plan are those that match, in the order of the sort keys: the first key that tells two rows apart decides,
and where none does, the row that was inserted first comes first, whichever way the keys go. From this list the page is
cut, and of each row the selected columns are shown.
-/

namespace RowStore

set_option autoImplicit false

namespace SortKey

/-- The order of two rows by one key, where a missing field counts as null. -/
def order (key : SortKey) (a b : Record) : Ordering :=
  match key.direction with
  | .ascending => (Record.cell a key.field).order (Record.cell b key.field)
  | .descending => ((Record.cell a key.field).order (Record.cell b key.field)).swap

theorem order_descending (field : String) (a b : Record) :
    order ⟨field, .descending⟩ a b = (Record.cell b field).order (Record.cell a field) :=
  Std.OrientedCmp.eq_swap.symm

instance (key : SortKey) : Std.TransCmp key.order := by
  obtain ⟨field, direction⟩ := key
  have hcells : Std.TransCmp fun a b : Record => (Record.cell a field).order (Record.cell b field) :=
    { eq_swap := fun {_ _} => Std.OrientedCmp.eq_swap
      isLE_trans := fun {_ _ _} => Std.TransCmp.isLE_trans }
  cases direction with
  | ascending => exact hcells
  | descending =>
    rw [funext fun a => funext fun b => order_descending field a b]
    exact Std.TransCmp.opposite

end SortKey

namespace Table

/-- Two rows that no key tells apart. -/
def Ties (sort : List SortKey) (a b : Record) : Prop :=
  ∀ key ∈ sort, key.order a b = .eq

/-- Two rows of which the first key that tells them apart puts the first one first. -/
def Precedes (sort : List SortKey) (a b : Record) : Prop :=
  ∃ before key after, sort = before ++ key :: after ∧ Ties before a b ∧ key.order a b = .lt

instance (sort : List SortKey) (a b : Record) : Decidable (Ties sort a b) :=
  inferInstanceAs (Decidable (∀ key ∈ sort, key.order a b = .eq))

/-- Rows in the order of the sort keys; those that no key tells apart stand as they stood. -/
structure SortedFrom (sort : List SortKey) (rows sorted : List Record) : Prop where
  perm : sorted.Perm rows
  ordered : sorted.Pairwise fun a b => Precedes sort a b ∨ Ties sort a b
  stable : ∀ row, sorted.filter (fun other => Ties sort row other) = rows.filter fun other => Ties sort row other

variable {sort : List SortKey} {a b c : Record} {rows : List Record}

theorem ties_cons {key : SortKey} : Ties (key :: sort) a b ↔ key.order a b = .eq ∧ Ties sort a b :=
  List.forall_mem_cons

theorem precedes_cons {key : SortKey} :
    Precedes (key :: sort) a b ↔ key.order a b = .lt ∨ key.order a b = .eq ∧ Precedes sort a b := by
  constructor
  · rintro ⟨before, first, after, hsort, hties, hlt⟩
    cases before with
    | nil =>
      cases hsort
      exact .inl hlt
    | cons other before =>
      cases hsort
      obtain ⟨heq, hties⟩ := ties_cons.mp hties
      exact .inr ⟨heq, before, first, after, rfl, hties, hlt⟩
  · rintro (hlt | ⟨heq, before, first, after, rfl, hties, hlt⟩)
    · exact ⟨[], key, sort, rfl, List.forall_mem_nil _, hlt⟩
    · exact ⟨key :: before, first, after, rfl, ties_cons.mpr ⟨heq, hties⟩, hlt⟩

theorem orderRows_cons (key : SortKey) (sort : List SortKey) :
    orderRows (key :: sort) = compareLex key.order (orderRows sort) := by
  funext a b
  obtain ⟨field, direction⟩ := key
  cases direction with
  | ascending => rfl
  | descending =>
    rw [compareLex, SortKey.order_descending]
    rfl

instance (sort : List SortKey) : Std.TransCmp (orderRows sort) := by
  induction sort with
  | nil => exact { eq_swap := rfl, isLE_trans := fun _ _ => rfl }
  | cons key rest ih =>
    rw [orderRows_cons]
    infer_instance

theorem orderRows_eq_iff : orderRows sort a b = .eq ↔ Ties sort a b := by
  induction sort with
  | nil => simp [orderRows, Ties]
  | cons key rest ih => rw [orderRows_cons, compareLex, Ordering.then_eq_eq, ih, ties_cons]

theorem orderRows_lt_iff : orderRows sort a b = .lt ↔ Precedes sort a b := by
  induction sort with
  | nil => simp [orderRows, Precedes]
  | cons key rest ih => rw [orderRows_cons, compareLex, Ordering.then_eq_lt, ih, precedes_cons]

theorem ties_trans (h : Ties sort a b) (h' : Ties sort b c) : Ties sort a c := by
  rw [← orderRows_eq_iff] at h h' ⊢
  exact Std.TransCmp.eq_trans h h'

theorem ties_symm (h : Ties sort a b) : Ties sort b a := by
  rw [← orderRows_eq_iff] at h ⊢
  exact Std.OrientedCmp.eq_comm.mp h

theorem sortRows_perm (sort : List SortKey) (rows : List Record) : (sortRows sort rows).Perm rows := by
  unfold sortRows
  split
  · exact List.Perm.refl rows
  · exact List.mergeSort_perm rows _

theorem length_sortRows (sort : List SortKey) (rows : List Record) : (sortRows sort rows).length = rows.length :=
  (sortRows_perm sort rows).length_eq

theorem isLE_orderRows_iff : (orderRows sort a b).isLE = true ↔ Precedes sort a b ∨ Ties sort a b := by
  rw [← orderRows_lt_iff, ← orderRows_eq_iff]
  cases orderRows sort a b <;> simp

theorem isLE_orderRows_total (sort : List SortKey) (a b : Record) :
    ((orderRows sort a b).isLE || (orderRows sort b a).isLE) = true := by
  have hswap : orderRows sort b a = (orderRows sort a b).swap := Std.OrientedCmp.eq_swap
  rw [hswap]
  cases orderRows sort a b <;> rfl

theorem sortRows_nil (rows : List Record) : sortRows [] rows = rows := rfl

theorem sortRows_eq_mergeSort (hsort : sort ≠ []) (rows : List Record) :
    sortRows sort rows = rows.mergeSort fun a b => (orderRows sort a b).isLE := by
  have hle : (fun a b => orderRows sort a b != .gt) = fun a b => (orderRows sort a b).isLE := by
    funext a b
    cases orderRows sort a b <;> rfl
  rw [sortRows, if_neg (by simpa using hsort), hle]

/-- The rows that no key tells apart from a given one are in order already, so sorting does not touch them. -/
theorem filter_ties_mergeSort (sort : List SortKey) (rows : List Record) (row : Record) :
    (rows.mergeSort fun a b => (orderRows sort a b).isLE).filter (fun other => Ties sort row other)
      = rows.filter fun other => Ties sort row other := by
  have hgroup : (rows.filter fun other => Ties sort row other).Pairwise
      fun a b => (orderRows sort a b).isLE = true := by
    apply List.pairwise_of_forall_mem_list
    intro a ha b hb
    have hta : Ties sort row a := by simpa using (List.mem_filter.mp ha).2
    have htb : Ties sort row b := by simpa using (List.mem_filter.mp hb).2
    exact isLE_orderRows_iff.mpr (.inr (ties_trans (ties_symm hta) htb))
  have hsublist := List.sublist_mergeSort (fun _ _ _ => Std.TransCmp.isLE_trans) (isLE_orderRows_total sort)
    hgroup List.filter_sublist
  have hfilter := hsublist.filter fun other => Ties sort row other
  rw [List.filter_filter] at hfilter
  simp only [Bool.and_self] at hfilter
  -- The group is found again in what is sorted, and there are no more rows in it than before.
  have hperm := (List.mergeSort_perm rows fun a b => (orderRows sort a b).isLE).filter fun other => Ties sort row other
  exact (hfilter.eq_of_length hperm.length_eq.symm).symm

theorem sortedFrom_sortRows (sort : List SortKey) (rows : List Record) :
    SortedFrom sort rows (sortRows sort rows) := by
  refine ⟨sortRows_perm sort rows, ?_, ?_⟩
  · by_cases hsort : sort = []
    · rw [hsort]
      exact List.pairwise_of_forall fun a b => .inr (List.forall_mem_nil _)
    · rw [sortRows_eq_mergeSort hsort]
      have hpairwise := List.pairwise_mergeSort (fun _ _ _ => Std.TransCmp.isLE_trans) (isLE_orderRows_total sort) rows
      exact hpairwise.imp isLE_orderRows_iff.mp
  · intro row
    by_cases hsort : sort = []
    · rw [hsort, sortRows_nil]
    · rw [sortRows_eq_mergeSort hsort, filter_ties_mergeSort]

theorem ties_of_antisymm (h : Precedes sort a b ∨ Ties sort a b) (h' : Precedes sort b a ∨ Ties sort b a) :
    Ties sort a b := by
  rw [← orderRows_lt_iff, ← orderRows_eq_iff] at h h'
  have hswap : orderRows sort b a = (orderRows sort a b).swap := Std.OrientedCmp.eq_swap
  rw [hswap] at h'
  rw [← orderRows_eq_iff]
  cases horder : orderRows sort a b <;> simp_all

theorem ties_refl (sort : List SortKey) (row : Record) : Ties sort row row :=
  orderRows_eq_iff.mp Std.ReflCmp.compare_self

/-- There is one way only to put rows in order and to leave ties as they stood. -/
theorem eq_of_sorted {sorted others : List Record} (hperm : sorted.Perm others)
    (hsorted : sorted.Pairwise fun a b => Precedes sort a b ∨ Ties sort a b)
    (hothers : others.Pairwise fun a b => Precedes sort a b ∨ Ties sort a b)
    (hties : ∀ row, sorted.filter (fun other => Ties sort row other) = others.filter fun other => Ties sort row other) :
    sorted = others := by
  induction sorted generalizing others with
  | nil => exact hperm.nil_eq
  | cons a rest ih =>
    cases others with
    | nil => exact absurd hperm.symm.nil_eq (List.cons_ne_nil a rest).symm
    | cons b more =>
      rw [List.pairwise_cons] at hsorted hothers
      -- Each of the two first rows is behind the other one, or is it.
      have hab : Ties sort a b := by
        rcases List.mem_cons.mp (hperm.mem_iff.mpr List.mem_cons_self) with rfl | hb
        · exact ties_refl sort b
        rcases List.mem_cons.mp (hperm.mem_iff.mp List.mem_cons_self) with rfl | ha
        · exact ties_refl sort a
        exact ties_of_antisymm (hsorted.1 b hb) (hothers.1 a ha)
      have hfirst := hties a
      simp only [List.filter_cons, ties_refl sort a, hab, decide_true, if_true] at hfirst
      obtain ⟨rfl, _⟩ := List.cons.inj hfirst
      have hrest : ∀ row, rest.filter (fun other => Ties sort row other)
          = more.filter fun other => Ties sort row other := by
        intro row
        have hrow := hties row
        simp only [List.filter_cons] at hrow
        split at hrow
        · exact (List.cons.inj hrow).2
        · exact hrow
      rw [ih hperm.cons_inv hsorted.2 hothers.2 hrest]

theorem SortedFrom.unique {sorted others : List Record} (h : SortedFrom sort rows sorted)
    (h' : SortedFrom sort rows others) : sorted = others :=
  eq_of_sorted (h.perm.trans h'.perm.symm) h.ordered h'.ordered fun row => (h.stable row).trans (h'.stable row).symm

/-- Rows that are in order are left as they are. -/
theorem sortRows_of_ordered (h : rows.Pairwise fun a b => Precedes sort a b ∨ Ties sort a b) : sortRows sort rows = rows :=
  (sortedFrom_sortRows sort rows).unique ⟨.refl rows, h, fun _ => rfl⟩

theorem sortRows_singleton (sort : List SortKey) (row : Record) : sortRows sort [row] = [row] :=
  sortRows_of_ordered (List.pairwise_singleton _ row)

theorem addColumns_eq (taken columns : List String) :
    Plan.addColumns taken columns = taken ++ (columns.filter fun column => !taken.contains column).eraseDups := by
  induction columns generalizing taken with
  | nil => simp [Plan.addColumns]
  | cons column rest ih =>
    rw [Plan.addColumns, ih, List.filter_cons]
    by_cases htaken : taken.contains column = true
    · simp only [htaken, if_true, Bool.not_true, Bool.false_eq_true, if_false]
    · have hrest : (rest.filter fun other => !(taken ++ [column]).contains other)
          = (rest.filter fun other => !taken.contains other).filter fun other => !other == column := by
        rw [List.filter_filter]
        apply List.filter_congr
        intro other _
        rw [Bool.eq_iff_iff]
        simp [and_comm]
      rw [Bool.not_eq_true] at htaken
      simp only [htaken, Bool.false_eq_true, if_false, Bool.not_false, if_true]
      rw [hrest, List.eraseDups_cons, List.append_assoc]
      rfl

def shownColumns (columns : List String) (row : Record) : Record :=
  columns.filterMap fun column => (row.lookup column).map (column, ·)

theorem shownColumns_cons (column : String) (rest : List String) (row : Record) :
    shownColumns (column :: rest) row = match row.lookup column with
      | some value => (column, value) :: shownColumns rest row
      | none => shownColumns rest row := by
  rw [shownColumns, List.filterMap_cons]
  cases row.lookup column <;> rfl

theorem lookup_shownColumns (columns : List String) (row : Record) (column : String) :
    (shownColumns columns row).lookup column = if column ∈ columns then row.lookup column else none := by
  induction columns with
  | nil => rfl
  | cons other rest ih =>
    rw [shownColumns_cons]
    by_cases hother : column = other
    · subst hother
      cases hrow : row.lookup column with
      | none => simp [ih, hrow]
      | some value => simp
    · cases row.lookup other <;> simp [Entries.lookup_cons, hother, ih]

/-- To write the columns of a row is to show those that have not been written before. -/
theorem insertAll_shownColumns (row : Record) (taken columns : List String) :
    Entries.insertAll (shownColumns taken row) (shownColumns columns row)
      = shownColumns (Plan.addColumns taken columns) row := by
  induction columns generalizing taken with
  | nil => rfl
  | cons column rest ih =>
    have happend : shownColumns (taken ++ [column]) row = shownColumns taken row ++ shownColumns [column] row := by
      rw [shownColumns, List.filterMap_append]
      rfl
    rw [Plan.addColumns, ← ih, shownColumns_cons]
    cases hrow : row.lookup column with
    | none =>
      have hnone : shownColumns [column] row = [] := by rw [shownColumns_cons, hrow]; rfl
      by_cases htaken : taken.contains column = true
      · rw [if_pos htaken]
      · rw [if_neg htaken, happend, hnone, List.append_nil]
    | some value =>
      have hsome : shownColumns [column] row = [(column, value)] := by rw [shownColumns_cons, hrow]; rfl
      have hlookup := lookup_shownColumns taken row column
      change Entries.insertAll (Entries.insert column value (shownColumns taken row)) _ = _
      by_cases htaken : taken.contains column = true
      · rw [if_pos (List.contains_iff_mem.mp htaken), hrow] at hlookup
        rw [if_pos htaken, Entries.insert_of_lookup hlookup]
      · have hnew : column ∉ Entries.names (shownColumns taken row) := by
          rw [List.contains_iff_mem] at htaken
          rw [Entries.mem_names_iff, hlookup, if_neg htaken]
          exact fun hne => hne rfl
        rw [if_neg htaken, Entries.insert_of_not_mem hnew, happend, hsome]

/-- What is shown of a row are the selected columns that it has, each once. -/
theorem project_some (columns : List String) (row : Record) :
    project (some columns) row
      = columns.eraseDups.filterMap fun column => (row.lookup column).map (column, ·) := by
  have hcolumns := insertAll_shownColumns row [] columns
  rw [addColumns_eq] at hcolumns
  simpa [project, Entries.ofList, shownColumns] using hcolumns

theorem length_slice {α : Type} (skip limit : Option Nat) (items : List α) :
    (slice skip limit items).length
      = match limit with
        | some limit => min limit (items.length - skip.getD 0)
        | none => items.length - skip.getD 0 := by
  cases limit <;> simp [slice]

theorem slice_sublist {α : Type} (skip limit : Option Nat) (items : List α) :
    (slice skip limit items).Sublist items := by
  unfold slice
  cases limit with
  | none => exact List.drop_sublist _ items
  | some limit => exact (List.take_sublist limit _).trans (List.drop_sublist _ items)

theorem slice_eq {α : Type} (skip limit : Option Nat) (items : List α) :
    slice skip limit items = (items.drop (skip.getD 0)).take (limit.getD items.length) := by
  cases limit with
  | some limit => rfl
  | none =>
    rw [slice, Option.getD_none, List.take_of_length_le]
    simp

/-- The rows of a plan are a slice of the rows that match in the order of the sort keys, each shown with the columns
that are selected. -/
theorem fetch_sorted (table : Table) (plan : Plan) :
    ∃ sorted, SortedFrom plan.sort (table.rows.filter fun row => plan.clause.holds row) sorted ∧
      (plan.sort = [] → sorted = table.rows.filter fun row => plan.clause.holds row) ∧
      table.fetch plan
        = ((sorted.drop (plan.skip.getD 0)).take (plan.limit.getD sorted.length)).map fun row =>
            match plan.select with
            | some columns => columns.eraseDups.filterMap fun column => (row.lookup column).map (column, ·)
            | none => row := by
  refine ⟨sortRows plan.sort (table.matching plan), sortedFrom_sortRows _ _, ?_, ?_⟩
  · intro hsort
    rw [hsort]
    rfl
  · rw [fetch, slice_eq]
    apply List.map_congr_left
    intro row _
    cases plan.select with
    | some columns => exact project_some columns row
    | none => rfl

end Table

end RowStore
