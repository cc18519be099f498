import RowStore.Proofs.Sql.Statement

/-!
# Taking a statement apart

The words of a condition are never those that begin the next part of a statement. Its condition can therefore be told
from the rest of it, and two statements with the same tokens have the same condition. The word that begins a condition is
in no other part, so that it shows whether there is one.
-/

namespace RowStore.Sql

set_option autoImplicit false

theorem forall_mem_joined {P : Token → Prop} {separator : Token} {pieces : List (List Token)} (hs : P separator)
    (h : ∀ piece ∈ pieces, ∀ token ∈ piece, P token) : ∀ token ∈ joinedTokens separator pieces, P token := by
  induction pieces with
  | nil => exact fun token hm => absurd hm List.not_mem_nil
  | cons piece rest ih =>
    rw [List.forall_mem_cons] at h
    cases rest with
    | nil => exact h.1
    | cons next more =>
      rw [joinedTokens_cons _ _ (List.cons_ne_nil next more), List.forall_mem_append, List.forall_mem_cons]
      exact ⟨h.1, hs, ih h.2⟩

/-- Not a word, or one of those that conditions are made of. -/
def Token.Conditional (token : Token) : Prop :=
  ∀ w, token = .word w → ∃ k : Keyword, k.text = w

theorem Keyword.conditional (k : Keyword) : k.token.Conditional := by
  intro w hw
  cases hw
  exact ⟨k, rfl⟩

theorem conditional_name (column : String) : (Token.name column).Conditional := nofun

theorem conditional_mark : Token.mark.Conditional := nofun

theorem conditional_parens {tokens : List Token} (h : ∀ token ∈ tokens, token.Conditional) :
    ∀ token ∈ .opening :: tokens ++ [.closing], token.Conditional := by
  rw [List.forall_mem_append, List.forall_mem_cons, List.forall_mem_singleton]
  exact ⟨⟨nofun, h⟩, nofun⟩

theorem conditional_marks (count : Nat) : ∀ token ∈ markTokens count, token.Conditional := by
  refine conditional_parens (forall_mem_joined (P := Token.Conditional) nofun ?_)
  intro piece hm
  rw [List.eq_of_mem_replicate hm, List.forall_mem_singleton]
  exact nofun

theorem conditional_always : ∀ token ∈ Expr.always.tokens, token.Conditional := by
  simp [Expr.tokens, Keyword.conditional]

theorem conditional_bracketed {pieces : List (List Token)} (h : ∀ piece ∈ pieces, ∀ token ∈ piece, token.Conditional) :
    ∀ token ∈ bracketed pieces, token.Conditional := by
  refine conditional_parens ?_
  cases pieces with
  | nil => exact conditional_always
  | cons piece rest => exact forall_mem_joined (Keyword.conditional _) h

mutual

theorem Expr.conditional : ∀ expr : Expr, ∀ token ∈ expr.tokens, token.Conditional
  | .never => by simp [Expr.tokens, Keyword.conditional]
  | .isNull column => by simp [Expr.tokens, Keyword.conditional, conditional_name]
  | .isNotNull column => by simp [Expr.tokens, Keyword.conditional, conditional_name]
  | .compare column op => by simp [Expr.tokens, Keyword.conditional, conditional_name, conditional_mark]
  | .differs column => by simp [Expr.tokens, Keyword.conditional, conditional_name, conditional_mark]
  | .among column count => by
    rw [Expr.tokens, List.forall_mem_cons, List.forall_mem_cons]
    exact ⟨conditional_name column, Keyword.conditional _, conditional_marks count⟩
  | .notAmong column count => by
    rw [Expr.tokens, List.forall_mem_cons, List.forall_mem_cons, List.forall_mem_cons]
    exact ⟨conditional_name column, Keyword.conditional _, Keyword.conditional _, conditional_marks count⟩
  | .always => conditional_always
  | .any branches => by
    rw [Expr.tokens]
    exact conditional_parens (forall_mem_joined (Keyword.conditional _) (conditional_branches branches))

theorem conditional_branches : ∀ branches : List (List Expr),
    ∀ piece ∈ branchTokens branches, ∀ token ∈ piece, token.Conditional
  | [] => by
    rw [branchTokens]
    exact fun piece hm => absurd hm List.not_mem_nil
  | branch :: rest => by
    rw [branchTokens_cons, List.forall_mem_cons]
    exact ⟨conditional_bracketed (conditional_all branch), conditional_branches rest⟩

theorem conditional_all : ∀ exprs : List Expr, ∀ piece ∈ allTokens exprs, ∀ token ∈ piece, token.Conditional
  | [] => by
    rw [allTokens]
    exact fun piece hm => absurd hm List.not_mem_nil
  | expr :: rest => by
    rw [allTokens, List.forall_mem_cons]
    exact ⟨expr.conditional, conditional_all rest⟩

end

/-- Whether a token begins the part of a statement that comes after its condition. -/
def Token.endsWhere (token : Token) : Bool :=
  token = .word "ORDER" || token = .word "LIMIT"

theorem Token.Conditional.endsWhere {token : Token} (h : token.Conditional) : token.endsWhere = false := by
  cases token with
  | word w =>
    obtain ⟨k, rfl⟩ := h w rfl
    cases k with
    | relation op => cases op <;> decide
    | _ => decide
  | _ => rfl

theorem endsWhere_where (es : List Expr) : ∀ token ∈ whereTokens es, token.endsWhere = false := by
  rw [whereTokens]
  split
  · exact fun token hm => absurd hm List.not_mem_nil
  · rw [List.forall_mem_cons]
    refine ⟨by decide, fun token hm => ?_⟩
    exact (forall_mem_joined (Keyword.conditional _) (conditional_all es) token hm).endsWhere

theorem endsWhere_bounds (sort : List SortKey) (limit skip : Option Nat) :
    ∀ token ∈ (orderTokens sort ++ pageTokens limit skip).head?, token.endsWhere = true := by
  rw [orderTokens]
  cases sort with
  | nil => cases limit <;> cases skip <;> simp [pageTokens, Token.endsWhere]
  | cons key rest => simp [Token.endsWhere]

theorem takeWhile_where (es : List Expr) (sort : List SortKey) (limit skip : Option Nat) :
    (whereTokens es ++ (orderTokens sort ++ pageTokens limit skip)).takeWhile (fun token => !token.endsWhere)
      = whereTokens es := by
  have hbounds := endsWhere_bounds sort limit skip
  rw [List.takeWhile_append_of_pos fun token hm => by rw [endsWhere_where es token hm]; rfl]
  cases htail : orderTokens sort ++ pageTokens limit skip with
  | nil => exact List.append_nil _
  | cons token rest =>
    rw [htail] at hbounds
    rw [List.takeWhile_cons_of_neg (by simp [hbounds token rfl]), List.append_nil]

/-- The only word among the columns is the one that stands for all of them. -/
theorem ne_word_columns {w : String} (hw : w ≠ "*") (select : Option (List String)) :
    ∀ token ∈ columnTokens select, token ≠ .word w := by
  cases select with
  | none => simp [columnTokens, hw.symm]
  | some columns =>
    refine forall_mem_joined nofun ?_
    simp

theorem dropWhile_columns (select : Option (List String)) (rest : List Token) :
    (columnTokens select ++ .word "FROM" :: rest).dropWhile (fun token => decide (token ≠ .word "FROM"))
      = .word "FROM" :: rest := by
  rw [List.dropWhile_append_of_pos fun token hm => decide_eq_true (ne_word_columns (by decide) select token hm)]
  exact List.dropWhile_cons_of_neg (by simp)

/-- Two statements that select and have the same tokens have the same condition. -/
theorem whereTokens_eq_of_selectTokens_eq {table table' : String} {plan plan' : Plan}
    (h : selectTokens table plan = selectTokens table' plan') :
    whereTokens (exprs plan.clause.formulas) = whereTokens (exprs plan'.clause.formulas) := by
  rw [selectTokens, selectTokens, List.cons_append, List.cons_append] at h
  have hfrom := congrArg (List.dropWhile fun token => decide (token ≠ .word "FROM")) (List.cons.inj h).2
  rw [dropWhile_columns, dropWhile_columns] at hfrom
  have hbounds := congrArg (List.takeWhile fun token => !token.endsWhere) (List.cons.inj (List.cons.inj hfrom).2).2
  rwa [takeWhile_where, takeWhile_where] at hbounds

theorem whereTokens_eq_of_countTokens_eq {table table' : String} {plan plan' : Plan}
    (h : countTokens table plan = countTokens table' plan') :
    whereTokens (exprs plan.clause.formulas) = whereTokens (exprs plan'.clause.formulas) :=
  List.append_inj_right h rfl

/-- The tokens of a condition by its text. -/
theorem whereTokens_eq_text? (w : Where) : whereTokens w.exprs = match w.text? with
    | some text => .word "WHERE" :: (lex .between text.toList).getD []
    | none => [] := by
  rw [whereTokens, Where.text?]
  split
  · rfl
  · simp only [String.toList_ofList, lex_conjunction, Option.getD_some]

/-! ## Statements without a condition -/

/-- No word of a statement begins a condition. -/
def Statement.Unconditional (s : Statement) : Prop :=
  ∃ tokens, lex .between s.sql.toList = some tokens ∧ .word "WHERE" ∉ tokens

theorem where_mem_whereTokens_iff (es : List Expr) : .word "WHERE" ∈ whereTokens es ↔ es ≠ [] := by
  cases es with
  | nil => simp [whereTokens]
  | cons expr rest => simp [whereTokens]

theorem where_not_mem_orderTokens (sort : List SortKey) : .word "WHERE" ∉ orderTokens sort := by
  have hdirection : ∀ d : Direction, d.symbol ≠ "WHERE" := by
    intro d
    cases d <;> decide
  have hkeys : ∀ token ∈ joinedTokens .comma (sort.map fun key => [.name key.field, .word key.direction.symbol]),
      token ≠ .word "WHERE" := by
    refine forall_mem_joined nofun ?_
    simp [hdirection]
  rw [orderTokens]
  split
  · exact List.not_mem_nil
  · rw [List.mem_append]
    rintro (hm | hm)
    · simp at hm
    · exact hkeys _ hm rfl

/-- A number is no word with a letter in it. -/
theorem numberToken_ne_word {w : String} {c : Char} (hc : c ∈ w.toList) (hletter : c.isDigit = false) (n : Nat) :
    numberToken n ≠ .word w := by
  intro h
  cases h
  rw [String.toList_ofList] at hc
  rw [Nat.isDigit_of_mem_toDigits (by decide) (by decide) hc] at hletter
  cases hletter

theorem where_not_mem_pageTokens (limit skip : Option Nat) : .word "WHERE" ∉ pageTokens limit skip := by
  have hnumber : ∀ n, .word "WHERE" ≠ numberToken n := fun n =>
    (numberToken_ne_word (c := 'W') (by decide) (by decide) n).symm
  cases limit <;> cases skip <;> simp [pageTokens, hnumber]

theorem unconditional_select_iff (table : String) (plan : Plan) :
    (select table plan).Unconditional ↔ (ofClause plan.clause).exprs = [] := by
  have hcolumns : .word "WHERE" ∉ columnTokens plan.select := fun hm =>
    ne_word_columns (by decide) plan.select _ hm rfl
  have horder := where_not_mem_orderTokens plan.sort
  have hpage := where_not_mem_pageTokens plan.limit plan.skip
  rw [Statement.Unconditional, lex_select, ofClause_eq]
  simp [selectTokens, where_mem_whereTokens_iff, hcolumns, horder, hpage]

theorem unconditional_count_iff (table : String) (plan : Plan) :
    (count table plan).Unconditional ↔ (ofClause plan.clause).exprs = [] := by
  rw [Statement.Unconditional, lex_count, ofClause_eq]
  simp [countTokens, where_mem_whereTokens_iff]

end RowStore.Sql
