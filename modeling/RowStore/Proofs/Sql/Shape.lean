import RowStore.Proofs.Sql.Placeholder

/-!
# What the text of a statement depends on

The shape of a plan is what is left of it without its names and without the content of its values. The text of a
statement, with its names taken out, is that of the shape.
-/

namespace RowStore

set_option autoImplicit false

def Value.shape (value : Value) : Value := if value.isNull then .null else .bool true

def Condition.shape : Condition → Condition
  | .compare _ op operand => .compare "" op operand.shape
  | .notEqual _ operand => .notEqual "" operand.shape
  | .oneOf _ operands => .oneOf "" (operands.map fun _ => .null)
  | .noneOf _ operands => .noneOf "" (operands.map fun _ => .null)

def Clause.shape (clause : Clause) : Clause := clause.map Condition.shape

/-- A plan without its names and without the content of its values. -/
def Plan.shape (plan : Plan) : Plan where
  select := plan.select.map fun columns => columns.map fun _ => ""
  clause := plan.clause.shape
  sort := plan.sort.map fun key => ⟨"", key.direction⟩
  limit := plan.limit
  skip := plan.skip

@[simp] theorem Value.isNull_shape (value : Value) : value.shape.isNull = value.isNull := by
  rw [shape]
  cases h : value.isNull <;> rfl

namespace Sql

def unnamed (tokens : List Token) : List Token := tokens.map Token.unnamed

theorem unnamed_append (a b : List Token) : unnamed (a ++ b) = unnamed a ++ unnamed b := List.map_append

theorem unnamed_joined (separator : Token) (pieces : List (List Token)) :
    unnamed (joinedTokens separator pieces) = joinedTokens separator.unnamed (pieces.map unnamed) := by
  induction pieces with
  | nil => rfl
  | cons piece rest ih =>
    cases rest with
    | nil => rfl
    | cons next more =>
      rw [joinedTokens_cons _ _ (List.cons_ne_nil next more), unnamed_append]
      exact congrArg (fun tail => unnamed piece ++ separator.unnamed :: tail) ih

theorem unnamed_marks (count : Nat) : unnamed (markTokens count) = markTokens count := by
  have hmarks : (List.replicate count [Token.mark]).map unnamed = List.replicate count [Token.mark] :=
    List.map_replicate
  have hjoined := unnamed_joined .comma (List.replicate count [Token.mark])
  rw [hmarks] at hjoined
  rw [markTokens, unnamed_append]
  exact congrArg (Token.opening :: · ++ [.closing]) hjoined

theorem unnamed_parens {a b : List Token} (h : unnamed a = b) :
    unnamed (.opening :: a ++ [.closing]) = .opening :: b ++ [.closing] := by
  rw [unnamed_append, ← h]
  rfl

theorem unnamed_bracketed (pieces : List (List Token)) :
    unnamed (bracketed pieces) = bracketed (pieces.map unnamed) := by
  refine unnamed_parens ?_
  cases pieces with
  | nil => rw [List.isEmpty_nil, if_pos rfl, List.map_nil, List.isEmpty_nil, if_pos rfl, Expr.tokens]; rfl
  | cons piece rest => exact unnamed_joined _ _

theorem tokens_singleton (f : Formula) : allTokens (exprs [f]) = [f.expr.tokens] := by
  rw [exprs, exprs, allTokens, allTokens]

theorem allTokens_append (a b : List Expr) : allTokens (a ++ b) = allTokens a ++ allTokens b := by
  induction a with
  | nil => rw [List.nil_append, allTokens, List.nil_append]
  | cons expr rest ih => rw [List.cons_append, allTokens, allTokens, ih, List.cons_append]

end Sql

open Sql

theorem Condition.tokens_shape (c : Condition) : c.shape.formula.expr.tokens = unnamed c.formula.expr.tokens := by
  cases c with
  | compare column op operand =>
    rw [shape, formula, formula, Value.isNull_shape]
    by_cases h : operand.isNull = true ∧ op = .equal
    · rw [if_pos h, if_pos h, Formula.expr, Formula.expr, if_neg Bool.false_ne_true, if_neg Bool.false_ne_true,
        Expr.tokens, Expr.tokens]
      rfl
    · rw [if_neg h, if_neg h, Formula.expr, Formula.expr, Expr.tokens, Expr.tokens]
      rfl
  | notEqual column operand =>
    rw [shape, formula, formula, Value.isNull_shape]
    by_cases h : operand.isNull = true
    · rw [if_pos h, if_pos h, Formula.expr, Formula.expr, if_pos rfl, if_pos rfl, Expr.tokens, Expr.tokens]
      rfl
    · rw [if_neg h, if_neg h, Formula.expr, Formula.expr, Expr.tokens, Expr.tokens]
      rfl
  | oneOf column operands =>
    have hmarks := unnamed_marks operands.length
    cases operands with
    | nil =>
      rw [shape, List.map_nil, formula, formula, if_pos rfl, if_pos rfl, Formula.expr, if_neg Bool.false_ne_true,
        Expr.tokens]
      rfl
    | cons operand rest =>
      rw [shape, formula, formula, if_neg (by simp), if_neg (by simp), Formula.expr, Formula.expr, Expr.tokens,
        Expr.tokens, List.length_map]
      exact (congrArg (fun marks => Token.name "" :: Keyword.among.token :: marks) hmarks).symm
  | noneOf column operands =>
    have hmarks := unnamed_marks operands.length
    cases operands with
    | nil =>
      rw [shape, List.map_nil, formula, formula, if_pos rfl, if_pos rfl, Formula.expr, if_pos rfl, Expr.tokens]
      rfl
    | cons operand rest =>
      rw [shape, formula, formula, if_neg (by simp), if_neg (by simp), Formula.expr, Formula.expr, Expr.tokens,
        Expr.tokens, List.length_map]
      exact (congrArg (fun marks => Token.name "" :: Keyword.not.token :: Keyword.among.token :: marks) hmarks).symm

namespace Clause

mutual

/-- The tokens of the conditions of a clause, without the names, are those of its shape. -/
theorem tokens_shape : ∀ clause : Clause,
    allTokens (exprs clause.shape.formulas) = (allTokens (exprs clause.formulas)).map unnamed
  | .condition c => by
    rw [shape, map, formulas, formulas, tokens_singleton, tokens_singleton, c.tokens_shape]
    rfl
  | .all clauses => by
    rw [shape, map, formulas, formulas, tokensAll_shape clauses]
  | .any branches => by
    have hparens := unnamed_parens (unnamed_joined Keyword.disjunction.token
      (branchTokens (branchExprs (formulasEach branches))))
    rw [shape, map, formulas, formulas, tokens_singleton, tokens_singleton, Formula.expr, Formula.expr, Expr.tokens,
      Expr.tokens, tokensEach_shape branches, List.map_singleton, hparens]
    rfl

theorem tokensAll_shape : ∀ clauses : List Clause,
    allTokens (exprs (formulasAll (mapEach Condition.shape clauses)))
      = (allTokens (exprs (formulasAll clauses))).map unnamed
  | [] => by rw [mapEach, formulasAll, exprs, allTokens]; rfl
  | clause :: rest => by
    have h := tokens_shape clause
    rw [shape] at h
    rw [mapEach, formulasAll, formulasAll, exprs_append, exprs_append, allTokens_append, allTokens_append,
      List.map_append, tokensAll_shape rest, h]

theorem tokensEach_shape : ∀ branches : List Clause,
    branchTokens (branchExprs (formulasEach (mapEach Condition.shape branches)))
      = (branchTokens (branchExprs (formulasEach branches))).map unnamed
  | [] => by rw [mapEach, formulasEach, branchExprs, branchTokens]; rfl
  | clause :: rest => by
    have h := tokens_shape clause
    rw [shape] at h
    rw [mapEach, formulasEach, formulasEach, branchExprs, branchExprs, branchTokens_cons, branchTokens_cons,
      List.map_cons, unnamed_bracketed, tokensEach_shape rest, h]

end

end Clause

namespace Sql

theorem whereTokens_eq (es : List Expr) : whereTokens es =
    if (allTokens es).isEmpty then [] else .word "WHERE" :: joinedTokens Keyword.conjunction.token (allTokens es) := by
  cases es with
  | nil => rw [allTokens]; rfl
  | cons expr rest => rw [whereTokens, allTokens]; rfl

theorem unnamed_where (clause : Clause) :
    unnamed (whereTokens (exprs clause.formulas)) = whereTokens (exprs clause.shape.formulas) := by
  rw [whereTokens_eq, whereTokens_eq, clause.tokens_shape]
  cases allTokens (exprs clause.formulas) with
  | nil => rfl
  | cons piece rest => exact congrArg (Token.word "WHERE" :: ·) (unnamed_joined _ _)

theorem unnamed_columns (select : Option (List String)) :
    unnamed (columnTokens select) = columnTokens (select.map fun columns => columns.map fun _ => "") := by
  cases select with
  | none => rfl
  | some columns =>
    rw [columnTokens, unnamed_joined, Option.map_some, columnTokens, List.map_map, List.map_map]
    rfl

theorem unnamed_order (sort : List SortKey) :
    unnamed (orderTokens sort) = orderTokens (sort.map fun key => ⟨"", key.direction⟩) := by
  rw [orderTokens, orderTokens]
  cases sort with
  | nil => rfl
  | cons key rest =>
    have h := unnamed_joined .comma
      ((key :: rest).map fun key => [Token.name key.field, .word key.direction.symbol])
    rw [List.map_map] at h
    rw [List.map_map]
    exact congrArg (fun tail => Token.word "ORDER" :: Token.word "BY" :: tail) h

theorem unnamed_page (limit skip : Option Nat) : unnamed (pageTokens limit skip) = pageTokens limit skip := by
  cases limit <;> cases skip <;> rfl

/-- The text that selects the rows of a plan is that of its shape, but for the names. -/
theorem unnamed_select (table : String) (plan : Plan) :
    unnamed (selectTokens table plan) = selectTokens "" plan.shape := by
  rw [selectTokens, selectTokens, unnamed_append]
  refine congrArg₂ (fun columns tail => Token.word "SELECT" :: columns ++ Token.word "FROM" :: Token.name "" :: tail)
    (unnamed_columns plan.select) ?_
  have htail := congrArg₂ (· ++ ·) (unnamed_where plan.clause)
    (congrArg₂ (· ++ ·) (unnamed_order plan.sort) (unnamed_page plan.limit plan.skip))
  rwa [← unnamed_append, ← unnamed_append] at htail

/-- The text that counts the rows of a plan depends, but for the names, on the shape of its clause only. -/
theorem unnamed_count {table table' : String} {plan plan' : Plan} (h : plan'.clause.shape = plan.clause.shape) :
    unnamed (countTokens table' plan') = unnamed (countTokens table plan) := by
  rw [countTokens, countTokens, unnamed_append, unnamed_append, unnamed_where, unnamed_where, h]
  rfl

/-- The text of a statement is read as tokens with the given names, and its placeholders stand where its values are
bound, one for each. -/
structure Statement.Reads (s : Statement) (tokens : List Token) (columns : List String)
    (bindings : List (Slot × Value)) : Prop where
  lex_eq : lex .between s.sql.toList = some tokens
  names_eq : names tokens = columns
  slots_eq : slots .start tokens = bindings.map Prod.fst
  params_eq : s.params = bindings.map Prod.snd
  count_eq : tokens.count .mark = s.params.length

theorem Shows.reads {s : Statement} {tokens : List Token} {columns : List String} {bindings : List (Slot × Value)}
    (h : Shows tokens columns (bindings.map Prod.fst)) (hlex : lex .between s.sql.toList = some tokens)
    (hparams : s.params = bindings.map Prod.snd) : s.Reads tokens columns bindings where
  lex_eq := hlex
  names_eq := h.names_eq
  slots_eq := h.slots_eq .start
  params_eq := hparams
  count_eq := by rw [← length_slots .start, h.slots_eq, hparams, List.length_map, List.length_map]

/-- The names in the statements of a plan are its own and nothing else, except for the name under which rows are
counted. Each placeholder stands behind the column and the words of the condition whose value is bound in its place. What
remains of the text depends on the shape of the plan only. -/
theorem select_count_reads (table : String) (plan : Plan) :
    ∃ selected counted,
      (select table plan).Reads selected
        (plan.select.getD [] ++ table :: (plan.clause.columns ++ plan.sort.map SortKey.field)) plan.clause.bindings ∧
      (count table plan).Reads counted ("count" :: table :: plan.clause.columns) plan.clause.bindings ∧
      (∀ (table' : String) (plan' : Plan), plan'.shape = plan.shape →
        (lex .between (select table' plan').sql.toList).map unnamed = some (unnamed selected)) ∧
      ∀ (table' : String) (plan' : Plan), plan'.clause.shape = plan.clause.shape →
        (lex .between (count table' plan').sql.toList).map unnamed = some (unnamed counted) := by
  have hselect := (params_select table plan).trans plan.clause.values_formulas
  have hcount := (params_count table plan).trans plan.clause.values_formulas
  refine ⟨selectTokens table plan, countTokens table plan, (shows_select table plan).reads (lex_select table plan) hselect,
    (shows_count table plan).reads (lex_count table plan) hcount, ?_, ?_⟩
  · intro table' plan' hshape
    rw [lex_select, Option.map_some, unnamed_select, unnamed_select, hshape]
  · intro table' plan' hshape
    rw [lex_count, Option.map_some, unnamed_count hshape]

/-- A plan with names and values that look like pieces of a statement. -/
def hostilePlan : Plan where
  select := some ["id", "a\", \"b"]
  clause := .any [.condition (.compare "x\" OR 1 = 1" .less (.string "?")),
    .all [.condition (.noneOf "?" [.null, .ofInt 1]), .condition (.oneOf "y" [])]]
  sort := [⟨"z\" DESC", .ascending⟩]
  limit := some 5
  skip := none

theorem select_count_reads_hostilePlan :
    ∃ tokens, (select "t\" --" hostilePlan).Reads tokens
      ["id", "a\", \"b", "t\" --", "x\" OR 1 = 1", "?", "z\" DESC"]
      [(⟨"x\" OR 1 = 1", ["<"]⟩, .string "?"), (⟨"?", ["NOT", "IN"]⟩, .null), (⟨"?", ["NOT", "IN"]⟩, .ofInt 1)] := by
  obtain ⟨selected, _, hselected, _, _, _⟩ := select_count_reads "t\" --" hostilePlan
  have hcolumns : hostilePlan.clause.columns = ["x\" OR 1 = 1", "?"] := by decide +kernel
  have hbindings : hostilePlan.clause.bindings = [(⟨"x\" OR 1 = 1", ["<"]⟩, .string "?"),
      (⟨"?", ["NOT", "IN"]⟩, .null), (⟨"?", ["NOT", "IN"]⟩, .ofInt 1)] := by decide +kernel
  rw [hcolumns, hbindings] at hselected
  exact ⟨selected, hselected⟩

/-- The statement that counts rows names one thing more, the number. -/
theorem not_forall_names_count :
    ¬ ∀ (table : String) (plan : Plan) (tokens : List Token), lex .between (count table plan).sql.toList = some tokens →
      names tokens = table :: plan.clause.columns := by
  intro h
  have hcount := h "t" .everything _ (lex_count "t" .everything)
  have hnames := (shows_count "t" .everything).names_eq
  rw [hnames, List.cons_eq_cons] at hcount
  exact absurd hcount.1 (by decide)

end Sql

end RowStore
