import Mathlib.Data.List.Nodup
import RowStore.Proofs.Query.Keys
import RowStore.Proofs.Table.Rows

/-!
# Query objects written as pairs

A query object can be written as pairs when its values are texts, lists of texts, or objects of the same kind. Written
depth first, with the path of each text as its key, it is decoded to the object it was: no text is lost or moved, and
each is read as the value that it stands for.
-/

namespace RowStore.Bracket

set_option autoImplicit false

/-- The values of a query object that pairs can express, with texts that are still to be read. -/
inductive Tree where
  | leaf (raw : String)
  | list (items : List String)
  | object (fields : List (String × Tree))

namespace Tree

/-- The fields of an object are smaller than it is. -/
theorem inductionOn {motive : List (String × Tree) → Prop} (nil : motive [])
    (cons : ∀ name tree rest, (∀ inner, tree = .object inner → motive inner) → motive rest →
      motive ((name, tree) :: rest)) :
    ∀ fields, motive fields
  | [] => nil
  | (name, tree) :: rest => cons name tree rest (fun inner _ => inductionOn nil cons inner) (inductionOn nil cons rest)
termination_by fields => sizeOf fields
decreasing_by
  · rename_i h
    subst h
    simp only [Tree.object.sizeOf_spec, List.cons.sizeOf_spec, Prod.mk.sizeOf_spec]
    omega
  · simp only [List.cons.sizeOf_spec]
    omega

mutual

/-- The texts below a value, each with the names on its way; the items of a list have an empty name. -/
def leaves : Tree → List (List String × String)
  | leaf raw => [([], raw)]
  | list items => items.map fun raw => ([""], raw)
  | object fields => fieldLeaves fields

def fieldLeaves : List (String × Tree) → List (List String × String)
  | [] => []
  | (name, tree) :: rest => (leaves tree).map (fun leaf => (name :: leaf.1, leaf.2)) ++ fieldLeaves rest

end

mutual

def value : Tree → Value
  | leaf raw => scalar raw
  | list items => .array (items.map scalar)
  | object fields => .object (fieldValues fields)

def fieldValues : List (String × Tree) → Fields
  | [] => []
  | (name, tree) :: rest => (name, value tree) :: fieldValues rest

end

mutual

/-- Whether a value can be written: nothing is empty, no name occurs twice in an object, and no name has a bracket that
would close it. -/
def Writable : Tree → Prop
  | leaf _ => True
  | list items => items ≠ []
  | object fields => fields ≠ [] ∧ (fields.map Prod.fst).Nodup ∧
      (∀ name ∈ fields.map Prod.fst, name ≠ "" ∧ ']' ∉ name.toList) ∧ FieldsWritable fields

def FieldsWritable : List (String × Tree) → Prop
  | [] => True
  | (_, tree) :: rest => Writable tree ∧ FieldsWritable rest

end

/-- The pair of a text: its path is the key. -/
def pair (leaf : List String × String) : String × String :=
  (String.ofList (join (leaf.1.map String.toList)), leaf.2)

/-- A query object as pairs, depth first. -/
def pairs (fields : List (String × Tree)) : List (String × String) :=
  (fieldLeaves fields).map pair

end Tree

theorem path_pair {name : String} {leaf : List String × String} (hhead : '[' ∉ name.toList)
    (hempty : leaf.1 ≠ [] → name ≠ "") (h : ∀ other ∈ leaf.1, ']' ∉ other.toList) :
    path (Tree.pair (name :: leaf.1, leaf.2)).1 = .ok (name :: leaf.1) := by
  have hsplit : split? (join (name.toList :: leaf.1.map String.toList))
      = some (name.toList :: leaf.1.map String.toList) := by
    apply split?_join hhead
    · intro hne hname
      have hleaf : leaf.1 ≠ [] := by simpa using hne
      exact hempty hleaf (String.toList_eq_nil_iff.mp hname)
    · simpa using h
  rw [path, Tree.pair, String.toList_ofList, List.map_cons, hsplit]
  simp [Function.comp_def]

section

variable {name : String} {fields inner : Fields} {v : Value}

theorem insert_last (h : name ∉ Entries.names fields) (old v : Value) :
    Entries.insert name v (fields ++ [(name, old)]) = fields ++ [(name, v)] := by
  induction fields with
  | nil => simp [Entries.insert]
  | cons entry rest ih =>
    rw [Entries.names_cons, List.mem_cons, not_or] at h
    rw [List.cons_append, Entries.insert, if_neg (Ne.symm h.1), ih h.2]
    rfl

theorem lookup_new (h : name ∉ Entries.names fields) : fields.lookup name = none := by
  by_contra hne
  exact h (Entries.mem_names_iff.mpr hne)

theorem lookup_last (h : name ∉ Entries.names fields) (v : Value) :
    (fields ++ [(name, v)]).lookup name = some v := by
  rw [← Entries.insert_of_not_mem h v, Entries.lookup_insert, if_pos rfl]

def put (fields : Fields) (leaf : List String × String) : Except Fault Fields :=
  insert (scalar leaf.2) leaf.1 fields

/-- A path that goes on with a name goes into an object. -/
def Enters (leaf : List String × String) : Prop :=
  ∃ next rest, leaf.1 = next :: rest ∧ next ≠ ""

theorem put_of_enters {leaf : List String × String} (hleaf : Enters leaf)
    (hinner : (fields.lookup name).getD (.object []) = .object inner) :
    put fields (name :: leaf.1, leaf.2)
      = (put inner leaf).map fun inner => Entries.insert name (.object inner) fields := by
  obtain ⟨⟨names, raw⟩, next, rest, rfl, hnext⟩ := leaf, hleaf
  simp only [put, insert, if_neg hnext, hinner]

/-- What is put below a name changes the object under this name, and nothing else. -/
theorem foldlM_put_below {leaves : List (List String × String)} (hleaves : ∀ leaf ∈ leaves, Enters leaf)
    (h : name ∉ Entries.names fields) (inner : Fields) :
    (leaves.map fun leaf => (name :: leaf.1, leaf.2)).foldlM put (fields ++ [(name, .object inner)])
      = (leaves.foldlM put inner).map fun inner => fields ++ [(name, .object inner)] := by
  induction leaves generalizing inner with
  | nil => rfl
  | cons leaf rest ih =>
    obtain ⟨hleaf, hrest⟩ := List.forall_mem_cons.mp hleaves
    have hinner : ((fields ++ [(name, Value.object inner)]).lookup name).getD (.object []) = .object inner := by
      rw [lookup_last h, Option.getD_some]
    rw [List.map_cons, List.foldlM_cons, put_of_enters hleaf hinner, List.foldlM_cons]
    cases put inner leaf with
    | error fault => rfl
    | ok next =>
      change List.foldlM put (Entries.insert name (.object next) (fields ++ [(name, .object inner)])) _ = _
      rw [insert_last h, ih hrest]
      rfl

/-- The first of the texts below a name makes the object. -/
theorem foldlM_put_object {leaves : List (List String × String)} (hleaves : ∀ leaf ∈ leaves, Enters leaf)
    (hne : leaves ≠ []) (h : name ∉ Entries.names fields) :
    (leaves.map fun leaf => (name :: leaf.1, leaf.2)).foldlM put fields
      = (leaves.foldlM put []).map fun inner => fields ++ [(name, .object inner)] := by
  cases leaves with
  | nil => exact absurd rfl hne
  | cons leaf rest =>
    obtain ⟨hleaf, hrest⟩ := List.forall_mem_cons.mp hleaves
    have hinner : (fields.lookup name).getD (.object []) = .object [] := by
      rw [lookup_new h, Option.getD_none]
    rw [List.map_cons, List.foldlM_cons, put_of_enters hleaf hinner, List.foldlM_cons]
    cases put [] leaf with
    | error fault => rfl
    | ok next =>
      change List.foldlM put (Entries.insert name (.object next) fields) _ = _
      rw [Entries.insert_of_not_mem h, foldlM_put_below hrest h]
      rfl

theorem foldlM_put_items (h : name ∉ Entries.names fields) (items : List String) (values : List Value) :
    (items.map fun raw => ([name, ""], raw)).foldlM put (fields ++ [(name, .array values)])
      = .ok (fields ++ [(name, .array (values ++ items.map scalar))]) := by
  induction items generalizing values with
  | nil => simp [pure, Except.pure]
  | cons raw rest ih =>
    have hput : put (fields ++ [(name, .array values)]) ([name, ""], raw)
        = .ok (fields ++ [(name, .array (values ++ [scalar raw]))]) := by
      simp only [put, insert, if_true, lookup_last h, Option.getD_some, insert_last h]
    rw [List.map_cons, List.foldlM_cons, hput]
    change List.foldlM put (fields ++ [(name, .array (values ++ [scalar raw]))]) _ = _
    rw [ih, List.append_assoc]
    rfl

/-- The first item makes the list. -/
theorem foldlM_put_list (h : name ∉ Entries.names fields) {items : List String} (hne : items ≠ []) :
    (items.map fun raw => ([name, ""], raw)).foldlM put fields
      = .ok (fields ++ [(name, .array (items.map scalar))]) := by
  cases items with
  | nil => exact absurd rfl hne
  | cons raw rest =>
    have hput : put fields ([name, ""], raw) = .ok (fields ++ [(name, .array [scalar raw])]) := by
      simp only [put, insert, if_true, lookup_new h, Option.getD_none, Entries.insert_of_not_mem h, List.nil_append]
    rw [List.map_cons, List.foldlM_cons, hput]
    exact foldlM_put_items h rest [scalar raw]

end

namespace Tree

/-- Every value that can be written has a text. -/
theorem fieldLeaves_ne_nil {fields : List (String × Tree)} (hne : fields ≠ []) (h : FieldsWritable fields) :
    fieldLeaves fields ≠ [] := by
  induction fields using inductionOn with
  | nil => exact absurd rfl hne
  | cons name tree rest ihInner _ =>
    obtain ⟨htree, _⟩ := h
    rw [fieldLeaves]
    apply List.append_ne_nil_of_left_ne_nil
    rw [ne_eq, List.map_eq_nil_iff]
    cases tree with
    | leaf raw => exact List.cons_ne_nil _ _
    | list items => simpa [leaves, Writable] using htree
    | object inner =>
      obtain ⟨hinner, _, _, hfields⟩ := htree
      exact ihInner inner rfl hinner hfields

theorem mem_fieldLeaves {fields : List (String × Tree)} {leaf : List String × String} :
    leaf ∈ fieldLeaves fields ↔ ∃ field ∈ fields, ∃ below ∈ leaves field.2, leaf = (field.1 :: below.1, below.2) := by
  induction fields with
  | nil => simp [fieldLeaves]
  | cons field rest ih =>
    obtain ⟨name, tree⟩ := field
    rw [fieldLeaves, List.mem_append, ih, List.mem_map]
    simp [eq_comm]

theorem enters_fieldLeaves {fields : List (String × Tree)} (h : ∀ name ∈ fields.map Prod.fst, name ≠ "") :
    ∀ leaf ∈ fieldLeaves fields, Enters leaf := by
  intro leaf hm
  obtain ⟨field, hfield, below, _, rfl⟩ := mem_fieldLeaves.mp hm
  exact ⟨field.1, below.1, rfl, h field.1 (List.mem_map_of_mem hfield)⟩

/-- Putting the texts of some fields in adds these fields, in their order, with their values. -/
theorem foldlM_put_fields {fields : List (String × Tree)} (hnodup : (fields.map Prod.fst).Nodup)
    (h : FieldsWritable fields) (before : Fields)
    (hnew : ∀ name ∈ fields.map Prod.fst, name ∉ Entries.names before) :
    (fieldLeaves fields).foldlM put before = .ok (before ++ fieldValues fields) := by
  induction fields using inductionOn generalizing before with
  | nil => simp [fieldLeaves, fieldValues, pure, Except.pure]
  | cons name tree rest ihInner ihRest =>
    obtain ⟨htree, hrest⟩ := h
    rw [List.map_cons, List.nodup_cons] at hnodup
    rw [List.map_cons, List.forall_mem_cons] at hnew
    obtain ⟨hname, hothers⟩ := hnew
    have hfirst : ((leaves tree).map fun leaf => (name :: leaf.1, leaf.2)).foldlM put before
        = .ok (before ++ [(name, value tree)]) := by
      cases tree with
      | leaf raw =>
        change (insert (scalar raw) [name] before >>= pure) = _
        rw [insert, Entries.insert_of_not_mem hname]
        rfl
      | list items =>
        rw [leaves, List.map_map]
        exact foldlM_put_list hname htree
      | object inner =>
        obtain ⟨hne, hdistinct, hnames, hinner⟩ := htree
        have henters := enters_fieldLeaves fun name hm => (hnames name hm).1
        rw [leaves, foldlM_put_object henters (fieldLeaves_ne_nil hne hinner) hname,
          ihInner inner rfl hdistinct hinner [] fun _ _ => List.not_mem_nil]
        rfl
    have hlater : ∀ other ∈ rest.map Prod.fst, other ∉ Entries.names (before ++ [(name, value tree)]) := by
      intro other hm
      rw [Entries.names, List.map_append, List.mem_append, not_or, List.map_singleton, List.mem_singleton]
      refine ⟨hothers other hm, ?_⟩
      rintro rfl
      exact hnodup.1 hm
    rw [fieldLeaves, List.foldlM_append, hfirst]
    change (fieldLeaves rest).foldlM put (before ++ [(name, value tree)]) = _
    rw [ihRest hnodup.2 hrest _ hlater, List.append_assoc]
    rfl

/-- No name on the way from a value to its texts has a bracket that would close it. -/
theorem not_mem_leaves {fields : List (String × Tree)} (h : FieldsWritable fields) :
    ∀ field ∈ fields, ∀ leaf ∈ leaves field.2, ∀ name ∈ leaf.1, ']' ∉ name.toList := by
  induction fields using inductionOn with
  | nil => exact fun field hm => absurd hm List.not_mem_nil
  | cons name tree rest ihInner ihRest =>
    obtain ⟨htree, hrest⟩ := h
    refine List.forall_mem_cons.mpr ⟨?_, ihRest hrest⟩
    intro leaf hleaf other hother
    cases tree with
    | leaf raw =>
      rw [leaves, List.mem_singleton] at hleaf
      subst hleaf
      cases hother
    | list items =>
      rw [leaves] at hleaf
      obtain ⟨raw, _, rfl⟩ := List.mem_map.mp hleaf
      rw [List.mem_singleton.mp hother]
      exact List.not_mem_nil
    | object inner =>
      obtain ⟨_, _, hnames, hinner⟩ := htree
      obtain ⟨field, hfield, below, hbelow, rfl⟩ := mem_fieldLeaves.mp hleaf
      rcases List.mem_cons.mp hother with rfl | hother
      · exact (hnames field.1 (List.mem_map_of_mem hfield)).2
      · exact ihInner inner rfl hinner field hfield below hbelow other hother

theorem eq_nil_of_mem_leaves {raw : String} {leaf : List String × String} (h : leaf ∈ leaves (.leaf raw)) :
    leaf.1 = [] := by
  rw [leaves, List.mem_singleton] at h
  rw [h]

end Tree

/-- Whether a query object can be written as pairs. Its own names may hold a closing bracket, as no other stands around
them, but not an opening one, and an empty one can only be that of a text. -/
structure Writable (fields : List (String × Tree)) : Prop where
  nodup : (fields.map Prod.fst).Nodup
  ne_jsonName : ∀ field ∈ fields, field.1 ≠ jsonName
  unopened : ∀ field ∈ fields, '[' ∉ field.1.toList
  ne_empty : ∀ field ∈ fields, (∀ raw, field.2 ≠ .leaf raw) → field.1 ≠ ""
  fields : Tree.FieldsWritable fields

/-- The key of a text leads back to it, and is not the one that stands for a whole query. -/
theorem Writable.path_pair {fields : List (String × Tree)} (h : Writable fields) :
    ∀ leaf ∈ Tree.fieldLeaves fields, path (Tree.pair leaf).1 = .ok leaf.1 ∧ (Tree.pair leaf).1 ≠ jsonName := by
  intro leaf hm
  obtain ⟨field, hfield, below, hbelow, rfl⟩ := Tree.mem_fieldLeaves.mp hm
  have hempty : below.1 ≠ [] → field.1 ≠ "" := by
    intro hne
    apply h.ne_empty field hfield
    intro raw hraw
    rw [hraw] at hbelow
    exact hne (Tree.eq_nil_of_mem_leaves hbelow)
  have hclosed := Tree.not_mem_leaves h.fields field hfield below hbelow
  have hpath := Bracket.path_pair (h.unopened field hfield) hempty hclosed
  refine ⟨hpath, ?_⟩
  intro hname
  have hjson : path jsonName = .ok [jsonName] := by decide +kernel
  rw [hname, hjson] at hpath
  injection hpath with hpath
  exact h.ne_jsonName field hfield (List.cons.inj hpath).1.symm

theorem foldlM_step {leaves : List (List String × String)}
    (h : ∀ leaf ∈ leaves, path (Tree.pair leaf).1 = .ok leaf.1 ∧ (Tree.pair leaf).1 ≠ jsonName) (draft : Draft) :
    (leaves.map Tree.pair).foldlM step draft
      = (leaves.foldlM put draft.fields).map fun fields => { draft with fields } := by
  induction leaves generalizing draft with
  | nil => rfl
  | cons leaf rest ih =>
    obtain ⟨⟨hpath, hname⟩, hrest⟩ := List.forall_mem_cons.mp h
    have hstep : step draft (Tree.pair leaf) = (put draft.fields leaf).map fun fields => { draft with fields } := by
      rw [step, if_neg hname, hpath]
      rfl
    rw [List.map_cons, List.foldlM_cons, List.foldlM_cons, hstep]
    cases put draft.fields leaf with
    | error fault => rfl
    | ok fields => exact ih hrest { draft with fields }

/-- A query object that can be written as pairs is decoded from them, with its names and lists in their order, and with
each text read as the value that it stands for. -/
theorem decode_pairs {fields : List (String × Tree)} (h : Writable fields) :
    decode (Tree.pairs fields) = .ok (Tree.fieldValues fields) := by
  have hput := Tree.foldlM_put_fields h.nodup h.fields [] fun _ _ => List.not_mem_nil
  rw [decode, Tree.pairs, foldlM_step h.path_pair, hput]
  rfl

/-- Names with brackets, an empty name, and values of all kinds. -/
theorem decode_pairs_deep :
    let inner : List (String × Tree) := [("b[", .object [("$in", .list ["1", "null"])]), ("c", .leaf "")]
    let fields : List (String × Tree) := [("", .leaf "x"), ("a]", .object inner), ("$select", .list ["name"])]
    Writable fields ∧
      Tree.pairs fields
        = [("", "x"), ("a][b[][$in][]", "1"), ("a][b[][$in][]", "null"), ("a][c]", ""), ("$select[]", "name")] ∧
      decode (Tree.pairs fields) = .ok (Tree.fieldValues fields) := by
  intro inner fields
  have h : Writable fields := by
    refine ⟨?_, ?_, ?_, ?_, ?_⟩
    · simp [fields]
    · simp [fields, jsonName]
    · simp [fields]
    · simp [fields]
    · simp [fields, inner, Tree.FieldsWritable, Tree.Writable]
  refine ⟨h, ?_, decode_pairs h⟩
  simp only [fields, inner, Tree.pairs, Tree.fieldLeaves, Tree.leaves]
  decide +kernel

end RowStore.Bracket
