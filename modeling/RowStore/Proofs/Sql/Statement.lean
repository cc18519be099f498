import RowStore.Proofs.Sql.Formula
import RowStore.Sql.Statement

/-!
# Reading the text of a statement

A statement is made of words, names and a condition, and whatever comes after the first of them begins with a blank. Its
tokens are therefore those of its parts, one after the other.
-/

namespace RowStore.Sql

set_option autoImplicit false

/-- A piece of text that may come after any other: it is empty or begins with a blank. -/
def Follows (chars : List Char) (tokens : List Token) : Prop :=
  Spells chars tokens ∧ ∀ rest, Bounded rest → Bounded (chars ++ rest)

namespace Follows

variable {a b : List Char} {s t : List Token}

theorem nil : Follows [] [] := ⟨Spells.nil, fun _ h => h⟩

theorem blank (ha : Spells a s) : Follows (' ' :: a) s :=
  ⟨Spells.of_enter [] rfl ha, fun _ _ => bounded_cons (by decide)⟩

theorem append (ha : Follows a s) (hb : Follows b t) : Follows (a ++ b) (s ++ t) := by
  refine ⟨ha.1.append hb.1 hb.2, ?_⟩
  intro rest hrest
  rw [List.append_assoc]
  exact ha.2 _ (hb.2 rest hrest)

theorem append_left {c : List Char} (ha : Follows a s) (hb : Follows (b ++ c) t) : Follows (a ++ b ++ c) (s ++ t) := by
  rw [List.append_assoc]
  exact ha.append hb

end Follows

theorem Spells.follow {a b : List Char} {s t : List Token} (ha : Spells a s) (hb : Follows b t) :
    Spells (a ++ b) (s ++ t) :=
  ha.append hb.1 hb.2

theorem forall₂_map {α : Type} {chars : α → List Char} {tokens : α → List Token}
    (h : ∀ item, Spells (chars item) (tokens item)) (items : List α) :
    List.Forall₂ Spells (items.map chars) (items.map tokens) :=
  List.forall₂_map_left_iff.mpr (List.forall₂_map_right_iff.mpr (List.forall₂_same.mpr fun item _ => h item))

def numberToken (n : Nat) : Token := .word (String.ofList (Nat.toDigits 10 n))

theorem isWordChar_of_isDigit {c : Char} (h : c.isDigit = true) : isWordChar c = true := by
  have hmarks : ['"', '?', '(', ')', ',', ' '].all (fun d => !d.isDigit) = true := by decide
  rw [isWordChar, Bool.not_eq_true', List.contains_eq_mem, decide_eq_false_iff_not]
  intro hm
  have hdigit := List.all_eq_true.mp hmarks c hm
  rw [h] at hdigit
  cases hdigit

theorem spells_number (n : Nat) : Spells (Nat.toDigits 10 n) [numberToken n] := by
  have hword : Spells (String.ofList (Nat.toDigits 10 n)).toList [numberToken n] := by
    apply Spells.word
    · rw [ne_eq, ← String.toList_eq_nil_iff, String.toList_ofList]
      exact Nat.toDigits_ne_nil
    · intro c hc
      rw [String.toList_ofList] at hc
      exact isWordChar_of_isDigit (Nat.isDigit_of_mem_toDigits (by decide) (by decide) hc)
  rwa [String.toList_ofList] at hword

def columnTokens : Option (List String) → List Token
  | some columns => joinedTokens .comma (columns.map fun column => [.name column])
  | none => [.word "*"]

theorem spells_columns (select : Option (List String)) : Spells (columnChars select) (columnTokens select) := by
  cases select with
  | some columns => exact spells_commas (forall₂_map Spells.name columns)
  | none => exact Spells.literal (w := "*") (by decide)

def whereTokens (exprs : List Expr) : List Token :=
  if exprs.isEmpty then [] else .word "WHERE" :: joinedTokens Keyword.conjunction.token (allTokens exprs)

theorem follows_where (w : Where) : Follows (whereChars w) (whereTokens w.exprs) := by
  rw [whereChars, whereTokens]
  cases w.exprs.isEmpty with
  | true => exact Follows.nil
  | false =>
    have hwhere := Spells.literal (w := "WHERE") (by decide)
    exact Follows.blank (hwhere.blank (spells_keyword .conjunction rfl (spells_all w.exprs)))

def orderTokens (sort : List SortKey) : List Token :=
  if sort.isEmpty then [] else
    [.word "ORDER", .word "BY"]
      ++ joinedTokens .comma (sort.map fun key => [.name key.field, .word key.direction.symbol])

theorem spells_direction (d : Direction) : Spells d.symbol.toList [.word d.symbol] := by
  apply Spells.literal
  cases d <;> decide

theorem follows_order (sort : List SortKey) : Follows (orderChars sort) (orderTokens sort) := by
  rw [orderChars, orderTokens]
  cases sort.isEmpty with
  | true => exact Follows.nil
  | false =>
    have horder := (Spells.literal (w := "ORDER") (by decide)).blank (Spells.literal (w := "BY") (by decide))
    have hkey := fun key : SortKey => (Spells.name key.field).blank (spells_direction key.direction)
    exact Follows.blank (horder.blank (spells_commas (forall₂_map hkey sort)))

def pageTokens : Option Nat → Option Nat → List Token
  | some limit, some skip => [.word "LIMIT", numberToken limit, .word "OFFSET", numberToken skip]
  | some limit, none => [.word "LIMIT", numberToken limit]
  | none, some skip => [.word "LIMIT", .word "-1", .word "OFFSET", numberToken skip]
  | none, none => []

theorem follows_limit {digits : List Char} {tokens : List Token} (h : Spells digits tokens) :
    Follows (" LIMIT ".toList ++ digits) (.word "LIMIT" :: tokens) :=
  Follows.blank ((Spells.literal (w := "LIMIT") (by decide)).blank h)

theorem follows_offset {digits : List Char} {tokens : List Token} (h : Spells digits tokens) :
    Follows (" OFFSET ".toList ++ digits) (.word "OFFSET" :: tokens) :=
  Follows.blank ((Spells.literal (w := "OFFSET") (by decide)).blank h)

theorem follows_page (limit skip : Option Nat) : Follows (pageChars limit skip) (pageTokens limit skip) :=
  match limit, skip with
  | none, none => Follows.nil
  | some limit, none => follows_limit (spells_number limit)
  | some limit, some skip => (follows_limit (spells_number limit)).append_left (follows_offset (spells_number skip))
  | none, some skip =>
    (follows_limit (Spells.literal (w := "-1") (by decide))).append (follows_offset (spells_number skip))

/-- The tokens of the statement that selects the rows of a plan. -/
def selectTokens (table : String) (plan : Plan) : List Token :=
  .word "SELECT" :: columnTokens plan.select ++ .word "FROM" :: .name table
    :: (whereTokens (exprs plan.clause.formulas) ++ (orderTokens plan.sort ++ pageTokens plan.limit plan.skip))

/-- The tokens of the statement that counts the rows of a plan; the number is given a name. -/
def countTokens (table : String) (plan : Plan) : List Token :=
  [.word "SELECT", .word "COUNT", .opening, .word "*", .closing, .word "AS", .name "count", .word "FROM", .name table]
    ++ whereTokens (exprs plan.clause.formulas)

theorem toList_select (table : String) (plan : Plan) : (select table plan).sql.toList = "SELECT ".toList
    ++ columnChars plan.select ++ " FROM ".toList ++ quoteChars table ++ whereChars (ofClause plan.clause)
    ++ orderChars plan.sort ++ pageChars plan.limit plan.skip :=
  String.toList_ofList

theorem toList_count (table : String) (plan : Plan) : (count table plan).sql.toList
    = "SELECT COUNT(*) AS \"count\" FROM ".toList ++ quoteChars table ++ whereChars (ofClause plan.clause) :=
  String.toList_ofList

theorem lex_select (table : String) (plan : Plan) :
    lex .between (select table plan).sql.toList = some (selectTokens table plan) := by
  have hselect := (Spells.literal (w := "SELECT") (by decide)).blank (spells_columns plan.select)
  have hfrom := (Spells.literal (w := "FROM") (by decide)).blank (Spells.name table)
  have htail := (follows_where (ofClause plan.clause)).append
    ((follows_order plan.sort).append (follows_page plan.limit plan.skip))
  -- The blanks of the literals are taken off, since the pieces are joined by blanks.
  have hsql := toList_select table plan
  have hfirst : "SELECT ".toList = "SELECT".toList ++ [' '] := rfl
  have hsecond : " FROM ".toList = ' ' :: "FROM".toList ++ [' '] := rfl
  have hall := ((hselect.blank hfrom).follow htail).tokens
  rw [ofClause_eq] at hall hsql
  rw [selectTokens, hsql, hfirst, hsecond]
  simpa only [List.append_assoc, List.cons_append, List.nil_append] using hall

theorem lex_count (table : String) (plan : Plan) :
    lex .between (count table plan).sql.toList = some (countTokens table plan) := by
  have hnumber : Spells ("SELECT".toList ++ ' ' :: ("COUNT".toList ++ "(*)".toList))
      [.word "SELECT", .word "COUNT", .opening, .word "*", .closing] := by
    refine (Spells.literal (w := "SELECT") (by decide)).blank ?_
    refine (Spells.literal (w := "COUNT") (by decide)).append (Spells.literal (w := "*") (by decide)).parens ?_
    exact fun rest _ => bounded_cons (by decide)
  have halias := (Spells.literal (w := "AS") (by decide)).blank (Spells.name "count")
  have hfrom := (Spells.literal (w := "FROM") (by decide)).blank (Spells.name table)
  have hall := ((hnumber.blank (halias.blank hfrom)).follow (follows_where (ofClause plan.clause))).tokens
  have hsql := toList_count table plan
  rw [ofClause_eq] at hall hsql
  rw [hsql]
  exact hall

theorem params_select (table : String) (plan : Plan) :
    (select table plan).params = values plan.clause.formulas :=
  congrArg Where.params (ofClause_eq plan.clause)

theorem params_count (table : String) (plan : Plan) :
    (count table plan).params = values plan.clause.formulas :=
  congrArg Where.params (ofClause_eq plan.clause)

end RowStore.Sql
