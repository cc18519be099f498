import RowStore.Proofs.Sql.Logic
import RowStore.Proofs.Sql.Parts

/-!
# What a rendered condition tells apart

The text of a condition and its values are read back as the formulas of the clause, up to the parentheses around
branches. Rows satisfy the formulas just when they satisfy the clause, so that two clauses with the same text and the
same values are satisfied by the same rows, whatever the trees look like and whatever their columns are called.
-/

namespace RowStore

set_option autoImplicit false

namespace Sql

/-- Whether a row satisfies a formula, by the same rules as for clauses. -/
def Logic.twoValued : Logic Bool where
  ofBool b := b
  and := Bool.and
  or := Bool.or
  compare := Comparison.holds
  differs cell operand := !cell.isNull && !cell.same operand
  among cell operands := !cell.isNull && operands.any cell.same
  notAmong cell operands := !cell.isNull && !operands.any cell.same
  yes_and := Bool.true_and
  and_yes := Bool.and_true
  and_assoc := Bool.and_assoc
  or_no := Bool.or_false

theorem Logic.relates_twoValued : twoValued.Relates (· = ·) where
  ofBool _ := rfl
  and hb hc := congrArg₂ Bool.and hb hc
  or hb hc := congrArg₂ Bool.or hb hc

end Sql

open Sql

theorem Condition.eval_formula (row : Record) (c : Condition) : c.holds row = c.formula.eval .twoValued row := by
  cases c with
  | compare column op operand =>
    rw [formula, holds]
    split
    · rename_i h
      simp [Formula.eval, Logic.twoValued, Comparison.holds, h.1, h.2]
    · rw [Formula.eval, Logic.twoValued]
  | notEqual column operand =>
    rw [formula, holds]
    cases operand.isNull <;> simp [Formula.eval, Logic.twoValued]
  | oneOf column operands =>
    rw [formula, holds]
    cases operands with
    | nil => simp [Formula.eval, Logic.twoValued]
    | cons operand rest => rw [if_neg (List.cons_ne_nil _ _), Formula.eval, Logic.twoValued]
  | noneOf column operands =>
    rw [formula, holds]
    cases operands with
    | nil => simp [Formula.eval, Logic.twoValued]
    | cons operand rest =>
      rw [if_neg (List.cons_ne_nil _ _), Formula.eval, Logic.twoValued, List.isEmpty_cons, Bool.false_or]

/-- A row satisfies the formulas of a clause just when it satisfies the clause. -/
theorem Clause.evalAll_formulas (row : Record) (clause : Clause) :
    clause.holds row = evalAll .twoValued row clause.formulas := by
  have h := relates_formulas row id Logic.relates_twoValued clause fun c _ => c.eval_formula row
  rwa [map_id] at h

namespace Sql

theorem whereTokens_formulas_cons (f : Formula) (rest : List Formula) :
    whereTokens (exprs (f :: rest))
      = .word "WHERE" :: joinedTokens Keyword.conjunction.token (allTokens (exprs (f :: rest))) := by
  rw [whereTokens, exprs, List.isEmpty_cons, if_neg Bool.false_ne_true]

/-- Formulas with the same tokens and the same values are read back alike. -/
theorem readBackAll_eq_of_whereTokens_eq {fs gs : List Formula}
    (htokens : whereTokens (exprs fs) = whereTokens (exprs gs)) (hvalues : values fs = values gs) :
    readBackAll fs = readBackAll gs := by
  cases fs with
  | nil =>
    cases gs with
    | nil => rfl
    | cons g more =>
      rw [whereTokens_formulas_cons, exprs] at htokens
      cases htokens
  | cons f rest =>
    cases gs with
    | nil =>
      rw [whereTokens_formulas_cons, exprs] at htokens
      cases htokens
    | cons g more =>
      rw [whereTokens_formulas_cons, whereTokens_formulas_cons] at htokens
      -- One reader goes through the tokens of both.
      have hf := readsAll_formulas (f :: rest) (List.cons_ne_nil f rest) [] [] [] []
      have hg := readsAll_formulas (g :: more) (List.cons_ne_nil g more) [] [] [] []
      rw [(List.cons.inj htokens).2, hvalues, hg] at hf
      simpa using hf.symm

end Sql

namespace Clause

theorem holds_eq_of_whereTokens_eq {c d : Clause}
    (htokens : whereTokens (exprs c.formulas) = whereTokens (exprs d.formulas))
    (hvalues : values c.formulas = values d.formulas) (row : Record) : c.holds row = d.holds row := by
  have hread := readBackAll_eq_of_whereTokens_eq htokens hvalues
  calc c.holds row = evalAll .twoValued row c.formulas := c.evalAll_formulas row
    _ = evalAll .twoValued row (readBackAll c.formulas) := (evalAll_readBackAll _ row c.formulas).symm
    _ = evalAll .twoValued row (readBackAll d.formulas) := by rw [hread]
    _ = evalAll .twoValued row d.formulas := evalAll_readBackAll _ row d.formulas
    _ = d.holds row := (d.evalAll_formulas row).symm

/-- A statement that reads as tokens from which those of the condition can be told, and that binds the values of the
condition, says which rows satisfy the clause. -/
theorem holds_eq_of_statement_eq {write : String → Plan → Statement} {tokens : String → Plan → List Token}
    (hlex : ∀ table plan, lex .between (write table plan).sql.toList = some (tokens table plan))
    (hparams : ∀ table plan, (write table plan).params = values plan.clause.formulas)
    {table table' : String} {plan plan' : Plan}
    (hwhere : tokens table plan = tokens table' plan' →
      whereTokens (exprs plan.clause.formulas) = whereTokens (exprs plan'.clause.formulas))
    (h : write table plan = write table' plan') (row : Record) : plan.clause.holds row = plan'.clause.holds row := by
  have htokens := hlex table plan
  have hvalues := hparams table plan
  rw [h, hlex, Option.some.injEq] at htokens
  rw [h, hparams] at hvalues
  exact holds_eq_of_whereTokens_eq (hwhere htokens.symm) hvalues.symm row

/-- Rendering a clause never fails, and two clauses that are rendered to the same text and the same values, or to no
text both, are satisfied by the same rows. So are the clauses of two plans with the same statement. -/
theorem holds_eq_of_text?_eq (c d : Clause) :
    (∃ v w, c.replay Where.builder .empty = (.ok (), v) ∧ d.replay Where.builder .empty = (.ok (), w) ∧
      (v.text? = w.text? → v.params = w.params → ∀ row : Record, c.holds row = d.holds row)) ∧
    ∀ (table table' : String) (plan plan' : Plan), plan.clause = c → plan'.clause = d →
      select table plan = select table' plan' ∨ count table plan = count table' plan' →
      ∀ row : Record, c.holds row = d.holds row := by
  refine ⟨⟨_, _, c.replay_where .empty, d.replay_where .empty, ?_⟩, ?_⟩
  · intro htext hparams row
    have hc := whereTokens_eq_text? (Where.empty.addAll c.formulas)
    have hd := whereTokens_eq_text? (Where.empty.addAll d.formulas)
    rw [htext, ← hd] at hc
    exact holds_eq_of_whereTokens_eq hc hparams row
  · rintro table table' plan plan' rfl rfl h row
    rcases h with hselect | hcount
    · exact holds_eq_of_statement_eq lex_select params_select whereTokens_eq_of_selectTokens_eq hselect row
    · exact holds_eq_of_statement_eq lex_count params_count whereTokens_eq_of_countTokens_eq hcount row

end Clause

/-- A column named like a piece of a condition, and a branch that asks nothing. -/
def Clause.hostileColumn : Clause :=
  .all [.condition (.compare "a\" = ? OR \"b" .equal (.ofInt 1)), .any [.all []]]

/-- The same, as another tree: the branch is a list of no excluded values. -/
def Clause.hostileColumnNested : Clause :=
  .all [.all [.condition (.compare "a\" = ? OR \"b" .equal (.ofInt 1))], .any [.condition (.noneOf "c" [])]]

theorem Clause.holds_eq_of_text?_eq_hostileColumn :
    (ofClause hostileColumn).text? = some "\"a\"\" = ? OR \"\"b\" = ? AND ((1 = 1))" ∧
      (ofClause hostileColumnNested).text? = (ofClause hostileColumn).text? ∧
      (ofClause hostileColumnNested).params = (ofClause hostileColumn).params ∧
      ∀ row : Record, hostileColumn.holds row = hostileColumnNested.holds row := by
  obtain ⟨⟨v, w, hv, hw, hholds⟩, _⟩ := holds_eq_of_text?_eq hostileColumn hostileColumnNested
  have htext : (ofClause hostileColumnNested).text? = (ofClause hostileColumn).text? := by decide +kernel
  have hparams : (ofClause hostileColumnNested).params = (ofClause hostileColumn).params := by decide +kernel
  refine ⟨by decide +kernel, htext, hparams, ?_⟩
  rw [ofClause, ofClause, hv, hw] at htext hparams
  exact hholds htext.symm hparams.symm

end RowStore
