import Mathlib.Data.List.Chain
import RowStore.Proofs.Predicate.Grammar
import RowStore.Proofs.Sql.Shape

/-!
# Sentences

A sentence is a condition by the grammar of SQL, token by token. The text of a clause is a sentence as long as each of
its alternatives has a branch, which is so for every clause of a predicate. An alternative without branches is written as
parentheses around nothing, and these are in no sentence.
-/

namespace RowStore

set_option autoImplicit false

namespace Sql

/-- The words between a column and a placeholder. -/
def relations : List String := ["=", "<>", "<", "<=", ">", ">=", "LIKE"]

inductive Placeholders : List Token → Prop where
  | one : Placeholders [.mark]
  | more {rest : List Token} : Placeholders rest → Placeholders (.mark :: .comma :: rest)

inductive Sentence : List Token → Prop where
  | compare (column : String) {relation : String} : relation ∈ relations →
      Sentence [.name column, .word relation, .mark]
  | isNull (column : String) : Sentence [.name column, .word "IS", .word "NULL"]
  | isNotNull (column : String) : Sentence [.name column, .word "IS", .word "NOT", .word "NULL"]
  | among (column : String) {marks : List Token} : Placeholders marks →
      Sentence (.name column :: .word "IN" :: (.opening :: marks ++ [.closing]))
  | notAmong (column : String) {marks : List Token} : Placeholders marks →
      Sentence (.name column :: .word "NOT" :: .word "IN" :: (.opening :: marks ++ [.closing]))
  | never : Sentence [.word "1", .word "=", .word "0"]
  | always : Sentence [.word "1", .word "=", .word "1"]
  | conjunction {a b : List Token} : Sentence a → Sentence b → Sentence (a ++ .word "AND" :: b)
  | disjunction {a b : List Token} : Sentence a → Sentence b → Sentence (a ++ .word "OR" :: b)
  | parens {a : List Token} : Sentence a → Sentence (.opening :: a ++ [.closing])

def IsSentence (text : String) : Prop :=
  ∃ tokens, lex .between text.toList = some tokens ∧ Sentence tokens

end Sql

/-- Every alternative in a clause has a branch. -/
inductive Clause.Branching : Clause → Prop where
  | condition (c : Condition) : Branching (.condition c)
  | all {clauses : List Clause} : (∀ clause ∈ clauses, Branching clause) → Branching (.all clauses)
  | any {branches : List Clause} : branches ≠ [] → (∀ branch ∈ branches, Branching branch) →
      Branching (.any branches)

/-! ## Clauses that are written as sentences -/

namespace Sql

theorem symbol_mem_relations (op : Comparison) : op.symbol ∈ relations := by
  cases op <;> decide

theorem placeholders_marks (count : Nat) :
    Placeholders (joinedTokens .comma (List.replicate (count + 1) [.mark])) := by
  induction count with
  | zero => exact .one
  | succ count ih => exact .more ih

theorem sentence_joined {separator : Token} {pieces : List (List Token)}
    (hseparator : ∀ {a b}, Sentence a → Sentence b → Sentence (a ++ separator :: b)) (hpieces : pieces ≠ [])
    (h : ∀ piece ∈ pieces, Sentence piece) : Sentence (joinedTokens separator pieces) := by
  induction pieces with
  | nil => exact absurd rfl hpieces
  | cons piece rest ih =>
    obtain ⟨hpiece, hrest⟩ := List.forall_mem_cons.mp h
    cases rest with
    | nil => exact hpiece
    | cons next more =>
      rw [joinedTokens_cons _ _ (List.cons_ne_nil next more)]
      exact hseparator hpiece (ih (List.cons_ne_nil next more) hrest)

theorem sentence_always : Sentence Expr.always.tokens := by
  rw [Expr.tokens]
  exact .always

theorem sentence_bracketed {pieces : List (List Token)} (h : ∀ piece ∈ pieces, Sentence piece) :
    Sentence (bracketed pieces) := by
  refine .parens ?_
  cases pieces with
  | nil => exact sentence_always
  | cons piece rest => exact sentence_joined .conjunction (List.cons_ne_nil piece rest) h

end Sql

open Sql

theorem Condition.sentence (c : Condition) : Sentence c.formula.expr.tokens := by
  cases c with
  | compare column op operand =>
    rw [formula]
    split
    · rw [Formula.expr, if_neg Bool.false_ne_true, Expr.tokens]
      exact .isNull column
    · rw [Formula.expr, Expr.tokens]
      exact .compare column (symbol_mem_relations op)
  | notEqual column operand =>
    rw [formula]
    split
    · rw [Formula.expr, if_pos rfl, Expr.tokens]
      exact .isNotNull column
    · rw [Formula.expr, Expr.tokens]
      exact .compare column (by decide)
  | oneOf column operands =>
    cases operands with
    | nil =>
      rw [formula, if_pos rfl, Formula.expr, if_neg Bool.false_ne_true, Expr.tokens]
      exact .never
    | cons operand rest =>
      rw [formula, if_neg (List.cons_ne_nil operand rest), Formula.expr, Expr.tokens]
      exact .among column (placeholders_marks rest.length)
  | noneOf column operands =>
    cases operands with
    | nil =>
      rw [formula, if_pos rfl, Formula.expr, if_pos rfl]
      exact sentence_always
    | cons operand rest =>
      rw [formula, if_neg (List.cons_ne_nil operand rest), Formula.expr, Expr.tokens]
      exact .notAmong column (placeholders_marks rest.length)

namespace Clause

mutual

theorem sentences : ∀ clause : Clause, clause.Branching →
    ∀ tokens ∈ allTokens (exprs clause.formulas), Sentence tokens
  | .condition c, _ => by
    rw [formulas, tokens_singleton, List.forall_mem_singleton]
    exact c.sentence
  | .all clauses, .all h => by
    rw [formulas]
    exact sentencesAll clauses h
  | .any [], .any h _ => absurd rfl h
  | .any (branch :: rest), .any _ h => by
    have hbranches := sentencesEach (branch :: rest) h
    rw [formulas, tokens_singleton, List.forall_mem_singleton, Formula.expr, Expr.tokens]
    rw [formulasEach] at hbranches ⊢
    exact .parens (sentence_joined .disjunction (branchTokens_ne_nil _ _) hbranches)

theorem sentencesAll : ∀ clauses : List Clause, (∀ clause ∈ clauses, clause.Branching) →
    ∀ tokens ∈ allTokens (exprs (formulasAll clauses)), Sentence tokens
  | [], _ => by
    rw [formulasAll, exprs, allTokens]
    exact fun tokens hm => absurd hm List.not_mem_nil
  | clause :: rest, h => by
    obtain ⟨hclause, hrest⟩ := List.forall_mem_cons.mp h
    rw [formulasAll, exprs_append, allTokens_append, List.forall_mem_append]
    exact ⟨sentences clause hclause, sentencesAll rest hrest⟩

theorem sentencesEach : ∀ branches : List Clause, (∀ branch ∈ branches, branch.Branching) →
    ∀ tokens ∈ branchTokens (branchExprs (formulasEach branches)), Sentence tokens
  | [], _ => by
    rw [formulasEach, branchExprs, branchTokens]
    exact fun tokens hm => absurd hm List.not_mem_nil
  | branch :: rest, h => by
    obtain ⟨hbranch, hrest⟩ := List.forall_mem_cons.mp h
    rw [formulasEach, branchExprs, branchTokens_cons, List.forall_mem_cons]
    exact ⟨sentence_bracketed (sentences branch hbranch), sentencesEach rest hrest⟩

end

end Clause

/-! ## Parentheses around nothing -/

namespace Sql

/-- One token may come right before another: what is opened is not closed at once. -/
def Token.Precedes (a b : Token) : Prop := ¬ (a = .opening ∧ b = .closing)

/-- Tokens that can be put between parentheses, and have no parentheses around nothing among them. -/
structure Filled (tokens : List Token) : Prop where
  ne_nil : tokens ≠ []
  isChain : tokens.IsChain Token.Precedes
  head_ne : tokens.head? ≠ some .closing
  last_ne : tokens.getLast? ≠ some .opening

namespace Filled

variable {a b : List Token}

theorem single {token : Token} (hopening : token ≠ .opening) (hclosing : token ≠ .closing) : Filled [token] :=
  ⟨List.cons_ne_nil _ _, .singleton _, by simpa using hclosing, by simpa using hopening⟩

theorem append (ha : Filled a) (hb : Filled b) : Filled (a ++ b) where
  ne_nil := List.append_ne_nil_of_left_ne_nil ha.ne_nil b
  isChain := by
    refine ha.isChain.append hb.isChain ?_
    rintro x hx y _ ⟨rfl, _⟩
    exact ha.last_ne hx
  head_ne := by
    rw [List.head?_append_of_ne_nil _ ha.ne_nil]
    exact ha.head_ne
  last_ne := by
    rw [List.getLast?_append_of_ne_nil _ hb.ne_nil]
    exact hb.last_ne

theorem cons {token : Token} (hopening : token ≠ .opening) (hclosing : token ≠ .closing) (ha : Filled a) :
    Filled (token :: a) :=
  (single hopening hclosing).append ha

theorem parens (ha : Filled a) : Filled (.opening :: a ++ [.closing]) where
  ne_nil := List.cons_ne_nil _ _
  isChain := by
    rw [List.cons_append, List.isChain_cons]
    constructor
    · rintro y hy ⟨_, rfl⟩
      rw [List.head?_append_of_ne_nil _ ha.ne_nil] at hy
      exact ha.head_ne hy
    · refine ha.isChain.append (.singleton _) ?_
      rintro x hx y _ ⟨rfl, _⟩
      exact ha.last_ne hx
  head_ne := by simp
  last_ne := by
    rw [List.getLast?_concat]
    exact nofun

end Filled

theorem Placeholders.filled {marks : List Token} (h : Placeholders marks) : Filled marks := by
  induction h with
  | one => exact .single nofun nofun
  | more _ ih => exact .cons nofun nofun (.cons nofun nofun ih)

theorem Sentence.filled {tokens : List Token} (h : Sentence tokens) : Filled tokens := by
  induction h with
  | compare column _ => exact .cons nofun nofun (.cons nofun nofun (.single nofun nofun))
  | isNull column => exact .cons nofun nofun (.cons nofun nofun (.single nofun nofun))
  | isNotNull column =>
    exact .cons nofun nofun (.cons nofun nofun (.cons nofun nofun (.single nofun nofun)))
  | among column h => exact .cons nofun nofun (.cons nofun nofun h.filled.parens)
  | notAmong column h => exact .cons nofun nofun (.cons nofun nofun (.cons nofun nofun h.filled.parens))
  | never => exact .cons nofun nofun (.cons nofun nofun (.single nofun nofun))
  | always => exact .cons nofun nofun (.cons nofun nofun (.single nofun nofun))
  | conjunction _ _ iha ihb => exact iha.append (.cons nofun nofun ihb)
  | disjunction _ _ iha ihb => exact iha.append (.cons nofun nofun ihb)
  | parens _ ih => exact ih.parens

theorem isInfix_joined {separator : Token} {pieces : List (List Token)} :
    ∀ piece ∈ pieces, piece <:+: joinedTokens separator pieces := by
  induction pieces with
  | nil => exact fun piece hm => absurd hm List.not_mem_nil
  | cons first rest ih =>
    cases rest with
    | nil => exact List.forall_mem_singleton.mpr (List.infix_refl first)
    | cons next more =>
      rw [joinedTokens_cons _ _ (List.cons_ne_nil next more), List.forall_mem_cons]
      refine ⟨(List.prefix_append first _).isInfix, fun piece hm => (ih piece hm).trans ?_⟩
      exact ((List.suffix_cons separator _).trans (List.suffix_append first _)).isInfix

theorem isInfix_bracketed {pieces : List (List Token)} : ∀ piece ∈ pieces, piece <:+: bracketed pieces := by
  intro piece hm
  have hpieces : pieces.isEmpty = false := List.isEmpty_eq_false_iff_exists_mem.mpr ⟨piece, hm⟩
  rw [bracketed, hpieces, if_neg Bool.false_ne_true]
  exact (isInfix_joined piece hm).trans ⟨[.opening], [.closing], rfl⟩

/-- Parts of tokens without parentheses around nothing have none either. -/
theorem isChain_of_isInfix {part tokens : List Token} (h : tokens.IsChain Token.Precedes) (hpart : part <:+: tokens) :
    part.IsChain Token.Precedes := by
  obtain ⟨before, after, rfl⟩ := hpart
  exact h.left_of_append.right_of_append

end Sql

namespace Clause

mutual

/-- Where an alternative without branches is, its parentheses show up among the tokens. -/
theorem branching_of_isChain : ∀ clause : Clause,
    (∀ tokens ∈ allTokens (exprs clause.formulas), tokens.IsChain Token.Precedes) → clause.Branching
  | .condition c, _ => .condition c
  | .all clauses, h => by
    rw [formulas] at h
    exact .all (branching_of_isChain_all clauses h)
  | .any [], h => by
    rw [formulas, tokens_singleton, List.forall_mem_singleton, Formula.expr, Expr.tokens, formulasEach, branchExprs,
      branchTokens] at h
    exact absurd ⟨rfl, rfl⟩ h.rel
  | .any (branch :: rest), h => by
    rw [formulas, tokens_singleton, List.forall_mem_singleton, Formula.expr, Expr.tokens] at h
    refine .any (List.cons_ne_nil branch rest) (branching_of_isChain_each (branch :: rest) fun tokens hm => ?_)
    exact isChain_of_isInfix h ((isInfix_joined tokens hm).trans ⟨[.opening], [.closing], rfl⟩)

theorem branching_of_isChain_all : ∀ clauses : List Clause,
    (∀ tokens ∈ allTokens (exprs (formulasAll clauses)), tokens.IsChain Token.Precedes) →
    ∀ clause ∈ clauses, clause.Branching
  | [], _ => fun clause hm => absurd hm List.not_mem_nil
  | clause :: rest, h => by
    rw [formulasAll, exprs_append, allTokens_append, List.forall_mem_append] at h
    exact List.forall_mem_cons.mpr ⟨branching_of_isChain clause h.1, branching_of_isChain_all rest h.2⟩

theorem branching_of_isChain_each : ∀ branches : List Clause,
    (∀ tokens ∈ branchTokens (branchExprs (formulasEach branches)), tokens.IsChain Token.Precedes) →
    ∀ branch ∈ branches, branch.Branching
  | [], _ => fun branch hm => absurd hm List.not_mem_nil
  | branch :: rest, h => by
    rw [formulasEach, branchExprs, branchTokens_cons, List.forall_mem_cons] at h
    have hbranch := branching_of_isChain branch fun tokens hm => isChain_of_isInfix h.1 (isInfix_bracketed tokens hm)
    exact List.forall_mem_cons.mpr ⟨hbranch, branching_of_isChain_each rest h.2⟩

end

mutual

theorem branching_of_layered : ∀ (clause : Clause) {levels : Nat}, Layered levels clause → clause.Branching
  | .all _, _, .all h => .all fun clause hm => branching_of_layer clause (h clause hm)

theorem branching_of_layer : ∀ (clause : Clause) {levels : Nat}, Layer levels clause → clause.Branching
  | .condition c, _, .condition _ => .condition c
  | .any _, _, .any hne h => .any hne fun branch hm => branching_of_layered branch (h branch hm)

end

theorem text?_eq_some_iff (clause : Clause) (text : String) :
    (ofClause clause).text? = some text ↔
      clause.formulas ≠ [] ∧ text = String.ofList (conjunctionChars (exprs clause.formulas)) := by
  rw [ofClause_eq, Where.text?]
  cases clause.formulas with
  | nil => simp [exprs]
  | cons f rest => simp [exprs, eq_comm]

theorem isSentence_conjunction_iff (fs : List Formula) :
    IsSentence (String.ofList (conjunctionChars (exprs fs)))
      ↔ Sentence (joinedTokens Keyword.conjunction.token (allTokens (exprs fs))) := by
  rw [IsSentence, String.toList_ofList, lex_conjunction]
  simp

theorem isSentence_iff_branching {clause : Clause} {text : String} (h : (ofClause clause).text? = some text) :
    IsSentence text ↔ clause.Branching := by
  obtain ⟨hne, rfl⟩ := (text?_eq_some_iff clause text).mp h
  rw [isSentence_conjunction_iff]
  constructor
  · intro hsentence
    apply branching_of_isChain
    intro tokens hm
    exact isChain_of_isInfix hsentence.filled.isChain (isInfix_joined tokens hm)
  · intro hbranching
    obtain ⟨f, rest, hfs⟩ := List.exists_cons_of_ne_nil hne
    refine sentence_joined .conjunction ?_ (sentences clause hbranching)
    rw [hfs, exprs, allTokens]
    exact List.cons_ne_nil _ _

/-- Rendering a clause never fails, and a text that comes of it is a sentence just when every alternative in the clause
has a branch. The texts of predicates are sentences. -/
theorem text?_isSentence_iff (clause : Clause) :
    (∃ w, clause.replay Where.builder .empty = (.ok (), w) ∧
      ∀ text, w.text? = some text → (IsSentence text ↔ clause.Branching)) ∧
    ∀ p : Predicate, compile p = .ok clause → ∀ text, (ofClause clause).text? = some text → IsSentence text := by
  constructor
  · have hreplay := clause.replay_where .empty
    refine ⟨_, hreplay, fun text h => isSentence_iff_branching ?_⟩
    rwa [ofClause, hreplay]
  · intro p hp text h
    obtain ⟨hw, rfl⟩ := compile_eq_ok_iff.mp hp
    have hlayered := Layered.all (Predicate.layer_clauses p hw (Nat.zero_add Predicate.maxDepth))
    exact (isSentence_iff_branching h).mpr (branching_of_layered _ hlayered)

theorem text?_isSentence_iff_rangeAndAlternatives :
    ∃ clause text, compile Predicate.rangeAndAlternatives = .ok clause ∧ (ofClause clause).text? = some text ∧
      text = "\"age\" >= ? AND \"age\" < ? AND ((\"name\" = ?) OR (\"id\" IS NULL))" ∧ IsSentence text := by
  obtain ⟨clause, hp, htext⟩ : ∃ clause, compile Predicate.rangeAndAlternatives = .ok clause ∧
      (ofClause clause).text? = some "\"age\" >= ? AND \"age\" < ? AND ((\"name\" = ?) OR (\"id\" IS NULL))" :=
    ⟨_, rfl, by decide +kernel⟩
  exact ⟨clause, _, hp, htext, rfl, (text?_isSentence_iff clause).2 _ hp _ htext⟩

/-- Nothing stands between the parentheses of an alternative without branches. -/
theorem not_forall_isSentence :
    ¬ ∀ (clause : Clause) (text : String), (ofClause clause).text? = some text → IsSentence text := by
  intro h
  have htext : (ofClause (.any [])).text? = some "()" := by decide +kernel
  cases (isSentence_iff_branching htext).mp (h _ _ htext) with
  | any hne _ => exact hne rfl

end Clause

end RowStore
