import RowStore.Clause.Trace
import RowStore.Proofs.Sql.Statement
import RowStore.Proofs.Sql.Truth

/-!
# Names and placeholders of a statement

The names in the text of a statement are those of the plan, in order, and each of its placeholders stands behind the
column and the words of the condition that binds the value in its place. The text is the same for all plans of one
shape, but for the names in it.
-/

namespace RowStore

set_option autoImplicit false

namespace Sql

def Token.name? : Token → Option String
  | .name s => some s
  | .word _ | .mark | .opening | .closing | .comma => none

def names (tokens : List Token) : List String := tokens.filterMap Token.name?

def Token.unnamed : Token → Token
  | .name _ => .name ""
  | token => token

/-- Where a placeholder stands: the last name before it, and the words since. -/
structure Slot where
  column : String
  words : List String
deriving DecidableEq, Repr

namespace Slot

def start : Slot := ⟨"", []⟩

def bind (slot : Slot) (operands : List Value) : List (Slot × Value) := operands.map fun operand => (slot, operand)

theorem map_fst_bind (slot : Slot) (operands : List Value) :
    (slot.bind operands).map Prod.fst = List.replicate operands.length slot := by
  rw [bind, List.map_map]
  exact List.map_const'

theorem map_snd_bind (slot : Slot) (operands : List Value) : (slot.bind operands).map Prod.snd = operands := by
  rw [bind, List.map_map]
  exact List.map_id operands

def next (slot : Slot) : Token → Slot
  | .name s => ⟨s, []⟩
  | .word w => ⟨slot.column, slot.words ++ [w]⟩
  | .mark | .opening | .closing | .comma => slot

end Slot

/-- The places of the placeholders among some tokens, of which some have been read. -/
def slots (slot : Slot) : List Token → List Slot
  | [] => []
  | token :: rest => (if token = .mark then [slot] else []) ++ slots (slot.next token) rest

theorem slots_append (slot : Slot) (a b : List Token) :
    slots slot (a ++ b) = slots slot a ++ slots (a.foldl Slot.next slot) b := by
  induction a generalizing slot with
  | nil => rfl
  | cons token rest ih => rw [List.cons_append, slots, slots, ih, List.append_assoc, List.foldl_cons]

theorem length_slots (slot : Slot) (tokens : List Token) : (slots slot tokens).length = tokens.count .mark := by
  induction tokens generalizing slot with
  | nil => rfl
  | cons token rest ih =>
    rw [slots, List.length_append, ih, List.count_cons, Nat.add_comm]
    by_cases h : token = .mark <;> simp [h]

/-- Tokens with their names and the places of their placeholders, whatever has been read before. -/
structure Shows (tokens : List Token) (columns : List String) (places : List Slot) : Prop where
  names_eq : names tokens = columns
  slots_eq : ∀ slot, slots slot tokens = places

namespace Shows

variable {a b : List Token} {columns more : List String} {places further : List Slot}

theorem nil : Shows [] [] [] := ⟨rfl, fun _ => rfl⟩

theorem append (ha : Shows a columns places) (hb : Shows b more further) :
    Shows (a ++ b) (columns ++ more) (places ++ further) := by
  refine ⟨?_, ?_⟩
  · rw [names, List.filterMap_append]
    exact congrArg₂ _ ha.names_eq hb.names_eq
  · intro slot
    rw [slots_append, ha.slots_eq, hb.slots_eq]

theorem word (w : String) : Shows [.word w] [] [] := ⟨rfl, fun _ => rfl⟩

theorem name (s : String) : Shows [.name s] [s] [] := ⟨rfl, fun _ => rfl⟩

theorem opening : Shows [.opening] [] [] := ⟨rfl, fun _ => rfl⟩

theorem closing : Shows [.closing] [] [] := ⟨rfl, fun _ => rfl⟩

theorem comma : Shows [.comma] [] [] := ⟨rfl, fun _ => rfl⟩

theorem parens (ha : Shows a columns places) : Shows (.opening :: a ++ [.closing]) columns places := by
  have h := (opening.append ha).append closing
  rwa [List.append_nil, List.append_nil] at h

theorem joined_cons {separator : Token} {pieces : List (List Token)} (hs : Shows [separator] [] [])
    (ha : Shows a columns places) (hb : Shows (joinedTokens separator pieces) more further) :
    Shows (joinedTokens separator (a :: pieces)) (columns ++ more) (places ++ further) := by
  cases pieces with
  | nil =>
    -- Without pieces after it there is no separator, and what is shown after it is nothing.
    obtain ⟨hn, hp⟩ := hb
    rw [joinedTokens, ← hn, ← hp .start]
    simpa [joinedTokens, names, slots] using ha
  | cons piece rest => exact ha.append (hs.append hb)

end Shows

theorem Shows.bracketed {pieces : List (List Token)} {columns : List String} {places : List Slot}
    (h : Shows (joinedTokens Keyword.conjunction.token pieces) columns places) :
    Shows (Sql.bracketed pieces) columns places := by
  apply Shows.parens
  cases pieces with
  | nil =>
    obtain ⟨hn, hp⟩ := h
    rw [← hn, ← hp .start, List.isEmpty_nil, if_pos rfl, Expr.tokens]
    exact ⟨rfl, fun _ => rfl⟩
  | cons piece rest => exact h

theorem names_marks (count : Nat) : names (joinedTokens .comma (List.replicate count [.mark])) = [] := by
  induction count with
  | zero => rfl
  | succ count ih =>
    cases count with
    | zero => rfl
    | succ count => exact ih

theorem slots_marks (slot : Slot) (count : Nat) :
    slots slot (joinedTokens .comma (List.replicate count [.mark])) = List.replicate count slot := by
  induction count with
  | zero => rfl
  | succ count ih =>
    cases count with
    | zero => rfl
    | succ count => exact congrArg (slot :: ·) ih

theorem names_markTokens (count : Nat) : names (markTokens count) = [] := by
  rw [markTokens, List.cons_append, names, List.filterMap_cons_none rfl, List.filterMap_append]
  exact congrArg (· ++ []) (names_marks count)

theorem slots_markTokens (slot : Slot) (count : Nat) : slots slot (markTokens count) = List.replicate count slot := by
  rw [markTokens, List.cons_append, slots, if_neg nofun, List.nil_append, slots_append, Slot.next, slots_marks]
  exact List.append_nil _

namespace Formula

/-- The column that is named, if the formula is no disjunction. -/
def column? : Formula → Option String
  | constant _ | any _ => none
  | nullTest column _ | compare column _ _ | differs column _ | among column _ | notAmong column _ => some column

/-- The places of the placeholders, if the formula is no disjunction. -/
def places : Formula → List Slot
  | constant _ | nullTest _ _ | any _ => []
  | compare column op _ => [⟨column, [op.symbol]⟩]
  | differs column _ => [⟨column, ["<>"]⟩]
  | among column operands => List.replicate operands.length ⟨column, ["IN"]⟩
  | notAmong column operands => List.replicate operands.length ⟨column, ["NOT", "IN"]⟩

end Formula

mutual

/-- The formulas that are no disjunctions, in order. -/
def Formula.leaves : Formula → List Formula
  | .constant b => [.constant b]
  | .nullTest column negated => [.nullTest column negated]
  | .compare column op operand => [.compare column op operand]
  | .differs column operand => [.differs column operand]
  | .among column operands => [.among column operands]
  | .notAmong column operands => [.notAmong column operands]
  | .any branches => leavesEach branches

def leavesEach : List (List Formula) → List Formula
  | [] => []
  | branch :: rest => leavesAll branch ++ leavesEach rest

def leavesAll : List Formula → List Formula
  | [] => []
  | f :: rest => f.leaves ++ leavesAll rest

end

theorem leavesAll_append (fs gs : List Formula) : leavesAll (fs ++ gs) = leavesAll fs ++ leavesAll gs := by
  induction fs with
  | nil => rfl
  | cons f rest ih => rw [List.cons_append, leavesAll, leavesAll, ih, List.append_assoc]

theorem leavesAll_singleton (f : Formula) : leavesAll [f] = f.leaves := by
  rw [leavesAll, leavesAll, List.append_nil]

mutual

theorem Formula.values_leaves : ∀ f : Formula, f.values = f.leaves.flatMap Formula.values
  | .constant _ => by simp [Formula.leaves, Formula.values]
  | .nullTest _ _ => by simp [Formula.leaves, Formula.values]
  | .compare _ _ _ => by simp [Formula.leaves, Formula.values]
  | .differs _ _ => by simp [Formula.leaves, Formula.values]
  | .among _ _ => by simp [Formula.leaves, Formula.values]
  | .notAmong _ _ => by simp [Formula.leaves, Formula.values]
  | .any branches => by rw [Formula.values, Formula.leaves, branchValues_leaves branches]

theorem branchValues_leaves : ∀ branches : List (List Formula),
    branchValues branches = (leavesEach branches).flatMap Formula.values
  | [] => by rw [branchValues, leavesEach, List.flatMap_nil]
  | branch :: rest => by
    rw [branchValues, leavesEach, List.flatMap_append, values_leavesAll branch, branchValues_leaves rest]

theorem values_leavesAll : ∀ fs : List Formula, values fs = (leavesAll fs).flatMap Formula.values
  | [] => by rw [values, leavesAll, List.flatMap_nil]
  | f :: rest => by
    rw [values, leavesAll, List.flatMap_append, Formula.values_leaves f, values_leavesAll rest]

end

mutual

theorem Formula.shows : ∀ f : Formula,
    Shows f.expr.tokens (f.leaves.filterMap Formula.column?) (f.leaves.flatMap Formula.places)
  | .constant true => by
    rw [Formula.expr, if_pos rfl, Expr.tokens, Formula.leaves]
    exact ⟨rfl, fun _ => rfl⟩
  | .constant false => by
    rw [Formula.expr, if_neg Bool.false_ne_true, Expr.tokens, Formula.leaves]
    exact ⟨rfl, fun _ => rfl⟩
  | .nullTest _ true => by
    rw [Formula.expr, if_pos rfl, Expr.tokens, Formula.leaves]
    exact ⟨rfl, fun _ => rfl⟩
  | .nullTest _ false => by
    rw [Formula.expr, if_neg Bool.false_ne_true, Expr.tokens, Formula.leaves]
    exact ⟨rfl, fun _ => rfl⟩
  | .compare _ _ _ => by
    rw [Formula.expr, Expr.tokens, Formula.leaves]
    exact ⟨rfl, fun _ => rfl⟩
  | .differs _ _ => by
    rw [Formula.expr, Expr.tokens, Formula.leaves]
    exact ⟨rfl, fun _ => rfl⟩
  | .among column operands => by
    rw [Formula.expr, Expr.tokens, Formula.leaves, List.flatMap_singleton]
    exact ⟨congrArg (column :: ·) (names_markTokens _), fun _ => slots_markTokens _ _⟩
  | .notAmong column operands => by
    rw [Formula.expr, Expr.tokens, Formula.leaves, List.flatMap_singleton]
    exact ⟨congrArg (column :: ·) (names_markTokens _), fun _ => slots_markTokens _ _⟩
  | .any branches => by
    rw [Formula.expr, Expr.tokens, Formula.leaves]
    exact (shows_branches branches).parens

theorem shows_branches : ∀ branches : List (List Formula),
    Shows (joinedTokens Keyword.disjunction.token (branchTokens (branchExprs branches)))
      ((leavesEach branches).filterMap Formula.column?) ((leavesEach branches).flatMap Formula.places)
  | [] => by
    rw [branchExprs, branchTokens, leavesEach]
    exact .nil
  | branch :: rest => by
    rw [branchExprs, branchTokens_cons, leavesEach, List.filterMap_append, List.flatMap_append]
    exact .joined_cons (.word _) (shows_all branch).bracketed (shows_branches rest)

theorem shows_all : ∀ fs : List Formula,
    Shows (joinedTokens Keyword.conjunction.token (allTokens (exprs fs)))
      ((leavesAll fs).filterMap Formula.column?) ((leavesAll fs).flatMap Formula.places)
  | [] => by
    rw [exprs, allTokens, leavesAll]
    exact .nil
  | f :: rest => by
    rw [exprs, allTokens, leavesAll, List.filterMap_append, List.flatMap_append]
    exact .joined_cons (.word _) f.shows (shows_all rest)

end

end Sql

open Sql

namespace Condition

/-- The column that the text of a condition names; a list of nothing is decided without it. -/
def shown : Condition → Option String
  | oneOf _ [] | noneOf _ [] => none
  | compare column _ _ | notEqual column _ | oneOf column _ | noneOf column _ => some column

/-- The values that a condition binds, each with the place of its placeholder; null is written as a word where it is
tested for equality. -/
def bindings : Condition → List (Slot × Value)
  | compare column op operand => if operand.isNull ∧ op = .equal then [] else [(⟨column, [op.symbol]⟩, operand)]
  | notEqual column operand => if operand.isNull then [] else [(⟨column, ["<>"]⟩, operand)]
  | oneOf column operands => Slot.bind ⟨column, ["IN"]⟩ operands
  | noneOf column operands => Slot.bind ⟨column, ["NOT", "IN"]⟩ operands

theorem leaves_formula (c : Condition) : c.formula.leaves = [c.formula] := by
  cases c with
  | compare column op operand => rw [formula]; split <;> rw [Formula.leaves]
  | notEqual column operand => rw [formula]; split <;> rw [Formula.leaves]
  | oneOf column operands => rw [formula]; split <;> rw [Formula.leaves]
  | noneOf column operands => rw [formula]; split <;> rw [Formula.leaves]

theorem column?_formula (c : Condition) : c.formula.column? = c.shown := by
  cases c with
  | compare column op operand => rw [formula]; split <;> rfl
  | notEqual column operand => rw [formula]; split <;> rfl
  | oneOf column operands => cases operands <;> rfl
  | noneOf column operands => cases operands <;> rfl

theorem places_formula (c : Condition) : c.formula.places = c.bindings.map Prod.fst := by
  cases c with
  | compare column op operand => rw [formula, bindings]; split <;> rfl
  | notEqual column operand => rw [formula, bindings]; split <;> rfl
  | oneOf column operands =>
    rw [bindings, Slot.map_fst_bind]
    cases operands <;> rfl
  | noneOf column operands =>
    rw [bindings, Slot.map_fst_bind]
    cases operands <;> rfl

theorem values_formula (c : Condition) : c.formula.values = c.bindings.map Prod.snd := by
  cases c with
  | compare column op operand => rw [formula, bindings]; split <;> rw [Formula.values] <;> rfl
  | notEqual column operand => rw [formula, bindings]; split <;> rw [Formula.values] <;> rfl
  | oneOf column operands =>
    rw [bindings, Slot.map_snd_bind, formula]
    split
    · rw [Formula.values, ‹operands = []›]
    · rw [Formula.values]
  | noneOf column operands =>
    rw [bindings, Slot.map_snd_bind, formula]
    split
    · rw [Formula.values, ‹operands = []›]
    · rw [Formula.values]

end Condition

theorem Step.change_andThen {σ : Type} (f : σ → σ) (second : Step σ) (s : σ) :
    (change f).andThen second s = second (f s) := rfl

def Call.condition? : Call → Option Condition
  | .condition c => some c
  | .alternative _ | .branch _ | .close => none

namespace Clause

/-- The conditions of a clause in the order in which a builder receives them. -/
def replayed (clause : Clause) : List Condition := clause.calls.filterMap Call.condition?

/-- The columns that the text of a clause names. -/
def columns (clause : Clause) : List String := clause.replayed.filterMap Condition.shown

def bindings (clause : Clause) : List (Slot × Value) := clause.replayed.flatMap Condition.bindings

mutual

/-- A clause is written down to its end, and the conditions among the calls are its own. -/
theorem replay_trace : ∀ (clause : Clause) (calls : List Call), ∃ more,
    clause.replay Trace.builder calls = (.ok (), calls ++ more) ∧
      more.filterMap Call.condition? = clause.conditions
  | .condition c, calls => ⟨[.condition c], rfl, by rw [conditions]; rfl⟩
  | .all clauses, calls => by
    rw [replay, conditions]
    exact replayAll_trace clauses calls
  | .any branches, calls => by
    let opened := Call.alternative (replayEach Trace.builder branches).length
    obtain ⟨more, hmore, hcs⟩ := branches_trace branches 0 (calls ++ [opened])
    refine ⟨opened :: (more ++ [.close]), ?_, ?_⟩
    -- The marks around the branches are calls without a condition.
    · have hclose : Step.change (· ++ [Call.close]) (calls ++ [opened] ++ more)
          = (.ok (), calls ++ opened :: (more ++ [.close])) := by
        simp [Step.change]
      rw [replay, ← hclose]
      exact Step.andThen_of_ok hmore
    · rw [List.filterMap_cons_none rfl, List.filterMap_append, hcs, conditions]
      exact List.append_nil _

theorem replayAll_trace : ∀ (clauses : List Clause) (calls : List Call), ∃ more,
    replayAll Trace.builder clauses calls = (.ok (), calls ++ more) ∧
      more.filterMap Call.condition? = conditionsOf clauses
  | [], calls => ⟨[], by rw [replayAll, List.append_nil, Step.skip], by rw [conditionsOf]; rfl⟩
  | clause :: rest, calls => by
    obtain ⟨first, hfirst, hc⟩ := replay_trace clause calls
    obtain ⟨more, hmore, hcs⟩ := replayAll_trace rest (calls ++ first)
    refine ⟨first ++ more, ?_, ?_⟩
    · rw [replayAll, Step.andThen_of_ok hfirst, hmore, List.append_assoc]
    · rw [List.filterMap_append, hc, hcs, conditionsOf]

theorem branches_trace : ∀ (branches : List Clause) (index : Nat) (calls : List Call), ∃ more,
    Trace.branches index (replayEach Trace.builder branches) calls = (.ok (), calls ++ more) ∧
      more.filterMap Call.condition? = conditionsOf branches
  | [], index, calls => ⟨[], by rw [replayEach, Trace.branches, List.append_nil, Step.skip], by rw [conditionsOf]; rfl⟩
  | clause :: rest, index, calls => by
    obtain ⟨first, hfirst, hc⟩ := replay_trace clause (calls ++ [.branch index])
    obtain ⟨more, hmore, hcs⟩ := branches_trace rest (index + 1) (calls ++ [.branch index] ++ first)
    refine ⟨.branch index :: (first ++ more), ?_, ?_⟩
    · rw [replayEach, Trace.branches, Step.change_andThen, Step.andThen_of_ok hfirst, hmore]
      simp
    · rw [List.filterMap_cons_none rfl, List.filterMap_append, hc, hcs, conditionsOf]

end

theorem replayed_eq_conditions (clause : Clause) : clause.replayed = clause.conditions := by
  obtain ⟨more, hmore, hcs⟩ := clause.replay_trace []
  rw [replayed, calls, hmore, List.nil_append, hcs]

mutual

theorem leaves_formulas : ∀ clause : Clause, leavesAll clause.formulas = clause.conditions.map Condition.formula
  | .condition c => by rw [formulas, leavesAll_singleton, c.leaves_formula, conditions]; rfl
  | .all clauses => by rw [formulas, conditions, leaves_formulasAll clauses]
  | .any branches => by
    rw [formulas, leavesAll_singleton, Formula.leaves, conditions, leaves_formulasEach branches]

theorem leaves_formulasAll : ∀ clauses : List Clause,
    leavesAll (formulasAll clauses) = (conditionsOf clauses).map Condition.formula
  | [] => by rw [formulasAll, leavesAll, conditionsOf]; rfl
  | clause :: rest => by
    rw [formulasAll, leavesAll_append, leaves_formulas clause, leaves_formulasAll rest, conditionsOf, List.map_append]

theorem leaves_formulasEach : ∀ branches : List Clause,
    leavesEach (formulasEach branches) = (conditionsOf branches).map Condition.formula
  | [] => by rw [formulasEach, leavesEach, conditionsOf]; rfl
  | clause :: rest => by
    rw [formulasEach, leavesEach, leaves_formulas clause, leaves_formulasEach rest, conditionsOf, List.map_append]

end

theorem shows_formulas (clause : Clause) :
    Shows (joinedTokens Keyword.conjunction.token (allTokens (exprs clause.formulas))) clause.columns
      (clause.bindings.map Prod.fst) := by
  have h := shows_all clause.formulas
  have hplaces : ∀ cs : List Condition,
      (cs.map Condition.formula).flatMap Formula.places = (cs.flatMap Condition.bindings).map Prod.fst := by
    intro cs
    simp only [List.flatMap_map, List.map_flatMap, Condition.places_formula]
  have hcolumns : ∀ cs : List Condition,
      (cs.map Condition.formula).filterMap Formula.column? = cs.filterMap Condition.shown := by
    intro cs
    simp only [List.filterMap_map, Function.comp_def, Condition.column?_formula]
  rwa [leaves_formulas, hcolumns, hplaces, ← replayed_eq_conditions] at h

theorem values_formulas (clause : Clause) : values clause.formulas = clause.bindings.map Prod.snd := by
  rw [values_leavesAll, leaves_formulas, bindings, replayed_eq_conditions]
  simp only [List.flatMap_map, List.map_flatMap, Condition.values_formula]

end Clause

namespace Sql

theorem shows_commas {α : Type} {tokens : α → List Token} {name : α → String}
    (h : ∀ item, Shows (tokens item) [name item] []) (items : List α) :
    Shows (joinedTokens .comma (items.map tokens)) (items.map name) [] := by
  induction items with
  | nil => exact .nil
  | cons item rest ih => exact .joined_cons .comma (h item) ih

theorem shows_columns (select : Option (List String)) : Shows (columnTokens select) (select.getD []) [] := by
  cases select with
  | none => exact .word "*"
  | some columns =>
    have h := shows_commas Shows.name columns
    rwa [List.map_id'] at h

theorem shows_where (clause : Clause) :
    Shows (whereTokens (exprs clause.formulas)) clause.columns (clause.bindings.map Prod.fst) := by
  have h := clause.shows_formulas
  rw [whereTokens]
  cases hexprs : exprs clause.formulas with
  | nil =>
    rw [hexprs, allTokens] at h
    exact h
  | cons expr rest =>
    rw [hexprs] at h
    exact (Shows.word "WHERE").append h

theorem shows_order (sort : List SortKey) : Shows (orderTokens sort) (sort.map SortKey.field) [] := by
  rw [orderTokens]
  cases sort with
  | nil => exact .nil
  | cons key rest =>
    exact ((Shows.word "ORDER").append (.word "BY")).append
      (shows_commas (fun key : SortKey => (Shows.name key.field).append (.word key.direction.symbol)) (key :: rest))

theorem shows_page (limit skip : Option Nat) : Shows (pageTokens limit skip) [] [] := by
  cases limit <;> cases skip <;> exact ⟨rfl, fun _ => rfl⟩

theorem shows_select (table : String) (plan : Plan) :
    Shows (selectTokens table plan)
      (plan.select.getD [] ++ table :: (plan.clause.columns ++ plan.sort.map SortKey.field))
      (plan.clause.bindings.map Prod.fst) := by
  have hfirst := (Shows.word "SELECT").append (shows_columns plan.select)
  have hfrom := (Shows.word "FROM").append (Shows.name table)
  have hbounds := (shows_order plan.sort).append (shows_page plan.limit plan.skip)
  have h := hfirst.append (hfrom.append ((shows_where plan.clause).append hbounds))
  simpa [selectTokens] using h

theorem shows_count (table : String) (plan : Plan) :
    Shows (countTokens table plan) ("count" :: table :: plan.clause.columns) (plan.clause.bindings.map Prod.fst) := by
  have hfirst : Shows [.word "SELECT", .word "COUNT", .opening, .word "*", .closing, .word "AS", .name "count",
      .word "FROM", .name table] ["count", table] [] := ⟨rfl, fun _ => rfl⟩
  exact hfirst.append (shows_where plan.clause)

end Sql

end RowStore
