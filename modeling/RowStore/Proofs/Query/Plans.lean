import RowStore.Proofs.Sql.Statement
import RowStore.Proofs.Table.Order

/-!
# The plans of a query

A query whose predicate has a clause has two plans, which differ in their bounds at most. If columns are asked for they show
these and the key, each of them once.
-/

namespace RowStore

set_option autoImplicit false

/-- What the plans of a query are, for a table with a given key. -/
structure Plans.Assembled (plans : Plans) (key : String) (q : Query) (clause : Clause) : Prop where
  clause_eq : plans.unbounded.clause = clause
  sort_eq : plans.unbounded.sort = q.controls.sort
  unbounded : plans.unbounded.limit = none ∧ plans.unbounded.skip = none
  all : q.controls.select = none → plans.unbounded.select = none
  /-- The key stands first, and the others in the order of their first occurrences. -/
  columns : ∀ requested, q.controls.select = some requested → ∃ others,
    plans.unbounded.select = some (key :: others) ∧ (key :: others).Nodup ∧
    (∀ column, column ∈ key :: others ↔ column = key ∨ column ∈ requested) ∧
    others.Pairwise fun a b => requested.idxOf a < requested.idxOf b
  absent : plans.paginated = none ↔ q.controls.limit = some 0
  /-- But for its bounds, the plan of a page is that of all rows. -/
  bounds : ∀ plan, plans.paginated = some plan →
    plan = { plans.unbounded with limit := q.controls.limit, skip := plan.skip } ∧
    ∀ n, plan.skip = some n ↔ q.controls.skip = some n ∧ n ≠ 0

namespace Plan

variable {key : String} {columns : List String}

theorem keyFirst_columns (key : String) (columns : List String) : ∃ others, keyFirst key columns = key :: others ∧
    (key :: others).Nodup ∧ (∀ column, column ∈ key :: others ↔ column = key ∨ column ∈ columns) ∧
    others.Pairwise fun a b => columns.idxOf a < columns.idxOf b := by
  obtain ⟨others, hothers, _, horder⟩ := Table.exists_addColumns [key] columns
  have heq : keyFirst key columns = key :: others := hothers
  refine ⟨others, heq, ?_, ?_, horder⟩
  · rw [← heq]
    exact Table.nodup_addColumns (List.nodup_singleton key) columns
  · intro column
    rw [← heq, mem_keyFirst]

theorem filter_pos_eq_some_iff {skip : Option Nat} {n : Nat} :
    (skip.filter fun n => decide (0 < n)) = some n ↔ skip = some n ∧ n ≠ 0 := by
  rw [Option.filter_eq_some_iff, decide_eq_true_eq, Nat.pos_iff_ne_zero]

/-- A query has plans as soon as its predicate has a clause. -/
theorem exists_assembled (key : String) {q : Query} {clause : Clause} (hc : Clause.compile q.predicate = .ok clause) :
    ∃ plans, ofQuery key q = .ok plans ∧ plans.Assembled key q clause := by
  refine ⟨_, by rw [ofQuery, hc]; rfl, ?_⟩
  refine ⟨rfl, rfl, ⟨rfl, rfl⟩, ?_, ?_, ?_, ?_⟩
  · intro hall
    rw [hall]
    rfl
  · intro requested hrequested
    obtain ⟨others, hothers, hlaws⟩ := keyFirst_columns key requested
    exact ⟨others, by rw [hrequested, Option.map_some, hothers], hlaws⟩
  · by_cases hlimit : q.controls.limit = some 0
    · simp only [hlimit, if_true]
    · simp only [hlimit, if_false, reduceCtorEq]
  · intro plan hplan
    split at hplan
    case isTrue => cases hplan
    case isFalse =>
      cases hplan
      exact ⟨rfl, fun n => filter_pos_eq_some_iff⟩

end Plan

theorem Plans.Assembled.select_paginated {plans : Plans} {plan : Plan} {key : String} {q : Query} {clause : Clause}
    (h : plans.Assembled key q clause) (hplan : plans.paginated = some plan) :
    plan.clause = clause ∧ plan.select = plans.unbounded.select := by
  obtain ⟨heq, _⟩ := h.bounds plan hplan
  rw [heq]
  exact ⟨h.clause_eq, rfl⟩

namespace Sql

/-- A statement for rows and one for their number, under the condition of one clause and with the same values bound. -/
structure Conditioned (clause : Clause) (table : String) (rows number : Statement) : Prop where
  rows_eq : ∃ shown bounds, rows.sql.toList = "SELECT ".toList ++ shown ++ " FROM ".toList ++ quoteChars table
    ++ whereChars (ofClause clause) ++ bounds
  number_eq : number.sql.toList = "SELECT COUNT(*) AS \"count\" FROM ".toList ++ quoteChars table
    ++ whereChars (ofClause clause)
  rows_params : rows.params = (ofClause clause).params
  number_params : number.params = (ofClause clause).params

theorem conditioned_of_assembled {plans : Plans} {plan : Plan} {key : String} {q : Query} {clause : Clause}
    (h : plans.Assembled key q clause) (hplan : plans.paginated = some plan) (table : String) :
    Conditioned clause table (select table plan) (count table plans.unbounded) := by
  obtain ⟨hclause, _⟩ := h.select_paginated hplan
  have hselect := toList_select table plan
  have hcount := toList_count table plans.unbounded
  rw [hclause, List.append_assoc] at hselect
  rw [h.clause_eq] at hcount
  exact ⟨⟨_, _, hselect⟩, hcount, congrArg (fun c => (ofClause c).params) hclause,
    congrArg (fun c => (ofClause c).params) h.clause_eq⟩

end Sql

end RowStore
