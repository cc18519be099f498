import RowStore.Proofs.Sql.Formula

/-!
# Reading conditions

A reader goes through the tokens of a condition and gives each mark the next value. Parentheses nest, a conjunction
binds tighter than a disjunction, and parentheses around nothing are a disjunction of nothing. What a clause is
rendered to is read as its formulas, whatever the names of its columns are.
-/

namespace RowStore.Sql

set_option autoImplicit false

/-- What a reader is in the middle of. -/
inductive Stage where
  | unit
  | column (c : String)
  | excluded (c : String)
  | nullTest (c : String) (negated : Bool)
  | operand (atom : Value → Formula)
  | list (atom : List Value → Formula)
  | item (atom : List Value → Formula) (read : List Value)
  | items (atom : List Value → Formula) (read : List Value)
  | one
  | equation
  | done

/-- A disjunction of which some branches have been read, and a part of the next one. -/
structure Frame where
  before : List (List Formula)
  current : List Formula

namespace Frame

def empty : Frame := ⟨[], []⟩

def branches (frame : Frame) : List (List Formula) := frame.before ++ [frame.current]

def put (frame : Frame) (f : Formula) : Frame := ⟨frame.before, frame.current ++ [f]⟩

def isEmpty (frame : Frame) : Bool := frame.before.isEmpty && frame.current.isEmpty

end Frame

/-- A reader: the disjunctions around the one that is read, and the values that have not been given away. -/
structure Reading where
  outer : List Frame
  frame : Frame
  stage : Stage
  params : List Value

namespace Reading

def enter (r : Reading) (stage : Stage) : Reading := { r with stage }

def put (r : Reading) (f : Formula) : Reading := { r with frame := r.frame.put f, stage := .done }

def keyword (r : Reading) (k : Keyword) : Option Reading :=
  match k, r.stage with
  | .conjunction, .done => some (r.enter .unit)
  | .disjunction, .done => some { r with frame := ⟨r.frame.branches, []⟩, stage := .unit }
  | .is, .column c => some (r.enter (.nullTest c false))
  | .not, .column c => some (r.enter (.excluded c))
  | .not, .nullTest c false => some (r.enter (.nullTest c true))
  | .null, .nullTest c negated => some (r.put (.nullTest c negated))
  | .among, .column c => some (r.enter (.list (.among c)))
  | .among, .excluded c => some (r.enter (.list (.notAmong c)))
  | .one, .unit => some (r.enter .one)
  | .one, .equation => some (r.put (.constant true))
  | .zero, .equation => some (r.put (.constant false))
  | .unequal, .column c => some (r.enter (.operand (.differs c)))
  | .relation op, .column c => some (r.enter (.operand (.compare c op)))
  | .relation .equal, .one => some (r.enter .equation)
  | _, _ => none

/-- A mark takes the next value. -/
def mark (r : Reading) : Option Reading :=
  match r.stage, r.params with
  | .operand atom, v :: params => some ({ r with params }.put (atom v))
  | .item atom read, v :: params => some { r with stage := .items atom (read ++ [v]), params }
  | _, _ => none

def opening (r : Reading) : Option Reading :=
  match r.stage with
  | .unit => some { r with outer := r.frame :: r.outer, frame := .empty }
  | .list atom => some (r.enter (.item atom []))
  | _ => none

def closing (r : Reading) : Option Reading :=
  match r.stage, r.outer with
  | .item atom [], _ => some (r.put (atom []))
  | .items atom read, _ => some (r.put (atom read))
  | .done, frame :: outer => some ({ r with outer, frame }.put (.any r.frame.branches))
  | .unit, frame :: outer => if r.frame.isEmpty then some ({ r with outer, frame }.put (.any [])) else none
  | _, _ => none

def step (r : Reading) : Token → Option Reading
  | .name c => match r.stage with
    | .unit => some (r.enter (.column c))
    | _ => none
  | .word s => Keyword.ofText? s >>= r.keyword
  | .mark => r.mark
  | .opening => r.opening
  | .closing => r.closing
  | .comma => match r.stage with
    | .items atom read => some (r.enter (.item atom read))
    | _ => none

def run (r : Reading) : List Token → Option Reading
  | [] => some r
  | token :: rest => r.step token >>= fun r => run r rest

/-- The disjunction that has been read, if it is complete and all values have been given away. -/
def result? (r : Reading) : Option (List (List Formula)) :=
  match r with
  | ⟨[], frame, .done, []⟩ => some frame.branches
  | _ => none

theorem run_append (r : Reading) (tokens more : List Token) :
    r.run (tokens ++ more) = (r.run tokens >>= fun r => r.run more) := by
  induction tokens generalizing r with
  | nil => rfl
  | cons token rest ih =>
    rw [List.cons_append, run, run]
    cases r.step token with
    | none => rfl
    | some r => exact ih r

@[simp] theorem step_token (r : Reading) (k : Keyword) : r.step k.token = r.keyword k := by
  simp [step, Keyword.token]

end Reading

/-- The disjunction that a text says, with these values. -/
def parse? (text : List Char) (params : List Value) : Option (List (List Formula)) :=
  lex .between text >>= fun tokens => (Reading.run ⟨[], .empty, .unit, params⟩ tokens) >>= Reading.result?

mutual

/-- How a formula is read back: every branch is a disjunction of its own, and one that asks nothing is a truth. -/
def Formula.readBack : Formula → Formula
  | .constant b => .constant b
  | .nullTest column negated => .nullTest column negated
  | .compare column op operand => .compare column op operand
  | .differs column operand => .differs column operand
  | .among column operands => .among column operands
  | .notAmong column operands => .notAmong column operands
  | .any branches => .any (readBackEach branches)

def readBackEach : List (List Formula) → List (List Formula)
  | [] => []
  | [] :: rest => [.any [[.constant true]]] :: readBackEach rest
  | (f :: more) :: rest => [.any [f.readBack :: readBackAll more]] :: readBackEach rest

def readBackAll : List Formula → List Formula
  | [] => []
  | f :: rest => f.readBack :: readBackAll rest

end

/-- The tokens are those of one formula: a reader that expects a unit reads it, and gives it its values. -/
def Reads (tokens : List Token) (params : List Value) (f : Formula) : Prop :=
  ∀ outer frame more, Reading.run ⟨outer, frame, .unit, params ++ more⟩ tokens = some ⟨outer, frame.put f, .done, more⟩

/-- The tokens are those of a conjunction. -/
def ReadsAll (tokens : List Token) (params : List Value) (fs : List Formula) : Prop :=
  ∀ outer before current more, Reading.run ⟨outer, ⟨before, current⟩, .unit, params ++ more⟩ tokens
    = some ⟨outer, ⟨before, current ++ fs⟩, .done, more⟩

/-- The tokens are those of the branches of a disjunction, of which some have been read. -/
def ReadsEach (tokens : List Token) (params : List Value) (branches : List (List Formula)) : Prop :=
  ∀ outer before more, ∃ frame : Frame, frame.branches = before ++ branches ∧
    Reading.run ⟨outer, ⟨before, []⟩, .unit, params ++ more⟩ tokens = some ⟨outer, frame, .done, more⟩

theorem run_marks (outer : List Frame) (frame : Frame) (atom : List Value → Formula) (v : Value)
    (operands read more : List Value) :
    Reading.run ⟨outer, frame, .item atom read, v :: operands ++ more⟩
        (joinedTokens .comma (List.replicate (operands.length + 1) [.mark]) ++ [.closing])
      = some ⟨outer, frame.put (atom (read ++ v :: operands)), .done, more⟩ := by
  induction operands generalizing v read with
  | nil => rfl
  | cons w rest ih =>
    have h := ih w (read ++ [v])
    rw [List.append_assoc, List.singleton_append] at h
    exact h

theorem run_markTokens (outer : List Frame) (frame : Frame) (atom : List Value → Formula)
    (operands more : List Value) :
    Reading.run ⟨outer, frame, .list atom, operands ++ more⟩ (markTokens operands.length)
      = some ⟨outer, frame.put (atom operands), .done, more⟩ := by
  cases operands with
  | nil => rfl
  | cons v rest => exact run_marks outer frame atom v rest [] more

theorem reads_parens {tokens : List Token} {params : List Value} {branches : List (List Formula)}
    (h : ReadsEach tokens params branches) : Reads (.opening :: tokens ++ [.closing]) params (.any branches) := by
  intro outer frame more
  obtain ⟨inner, hinner, hrun⟩ := h (frame :: outer) [] more
  rw [List.nil_append] at hinner
  have hopen : Reading.step ⟨outer, frame, .unit, params ++ more⟩ .opening
      = some ⟨frame :: outer, ⟨[], []⟩, .unit, params ++ more⟩ := rfl
  rw [List.cons_append, Reading.run, hopen, Option.bind_eq_bind, Option.bind_some, Reading.run_append, hrun, ← hinner]
  rfl

theorem readsAll_singleton {tokens : List Token} {params : List Value} {f : Formula} (h : Reads tokens params f) :
    ReadsAll tokens params [f] := fun outer before current more => h outer ⟨before, current⟩ more

theorem readsEach_singleton {tokens : List Token} {params : List Value} {fs : List Formula}
    (h : ReadsAll tokens params fs) : ReadsEach tokens params [fs] :=
  fun outer before more => ⟨⟨before, fs⟩, rfl, h outer before [] more⟩

theorem readsAll_cons {tokens more : List Token} {params values : List Value} {f : Formula} {fs : List Formula}
    (hf : Reads tokens params f) (hfs : ReadsAll more values fs) :
    ReadsAll (tokens ++ Keyword.conjunction.token :: more) (params ++ values) (f :: fs) := by
  intro outer before current rest
  have hrest := hfs outer before (current ++ [f]) rest
  rw [List.append_assoc, List.singleton_append] at hrest
  rw [List.append_assoc, Reading.run_append, hf, Option.bind_eq_bind, Option.bind_some, Reading.run,
    Reading.step_token]
  exact hrest

theorem readsEach_cons {tokens more : List Token} {params values : List Value} {fs : List Formula}
    {branches : List (List Formula)} (hfs : ReadsAll tokens params fs) (hbranches : ReadsEach more values branches) :
    ReadsEach (tokens ++ Keyword.disjunction.token :: more) (params ++ values) (fs :: branches) := by
  intro outer before rest
  obtain ⟨frame, hframe, hrun⟩ := hbranches outer (before ++ [fs]) rest
  refine ⟨frame, ?_, ?_⟩
  · rw [hframe, List.append_assoc, List.singleton_append]
  · rw [List.append_assoc, Reading.run_append, hfs, Option.bind_eq_bind, Option.bind_some, Reading.run,
      Reading.step_token]
    exact hrun

theorem reads_branch {tokens : List Token} {params : List Value} {fs : List Formula} (h : ReadsAll tokens params fs) :
    ReadsAll (.opening :: tokens ++ [.closing]) params [.any [fs]] :=
  readsAll_singleton (reads_parens (readsEach_singleton h))

theorem reads_always : Reads Expr.always.tokens [] (.constant true) := by
  rw [Expr.tokens]
  intro outer frame more
  rfl

theorem branchTokens_ne_nil (branch : List Formula) (rest : List (List Formula)) :
    branchTokens (branchExprs (branch :: rest)) ≠ [] := by
  cases branch <;> simp [branchExprs, exprs, branchTokens]

mutual

theorem Formula.reads : ∀ f : Formula, Reads f.expr.tokens f.values f.readBack
  | .constant true => by
    rw [Formula.expr, Formula.values, Formula.readBack]
    exact reads_always
  | .constant false => by
    rw [Formula.expr, Formula.values, Formula.readBack, if_neg Bool.false_ne_true, Expr.tokens]
    intro outer frame more
    rfl
  | .nullTest column true => by
    rw [Formula.expr, Formula.values, Formula.readBack, if_pos rfl, Expr.tokens]
    intro outer frame more
    rfl
  | .nullTest column false => by
    rw [Formula.expr, Formula.values, Formula.readBack, if_neg Bool.false_ne_true, Expr.tokens]
    intro outer frame more
    rfl
  | .compare column op operand => by
    rw [Formula.expr, Formula.values, Formula.readBack, Expr.tokens]
    intro outer frame more
    cases op <;> rfl
  | .differs column operand => by
    rw [Formula.expr, Formula.values, Formula.readBack, Expr.tokens]
    intro outer frame more
    rfl
  | .among column operands => by
    rw [Formula.expr, Formula.values, Formula.readBack, Expr.tokens]
    intro outer frame more
    exact run_markTokens outer frame (.among column) operands more
  | .notAmong column operands => by
    rw [Formula.expr, Formula.values, Formula.readBack, Expr.tokens]
    intro outer frame more
    exact run_markTokens outer frame (.notAmong column) operands more
  | .any [] => by
    rw [Formula.expr, Formula.values, Formula.readBack, Expr.tokens, branchExprs, branchTokens, branchValues,
      readBackEach]
    intro outer frame more
    rfl
  | .any (branch :: rest) => by
    rw [Formula.expr, Formula.values, Formula.readBack, Expr.tokens]
    exact reads_parens (readsEach_branches (branch :: rest) (List.cons_ne_nil _ _))

theorem readsEach_branches : ∀ branches : List (List Formula), branches ≠ [] →
    ReadsEach (joinedTokens Keyword.disjunction.token (branchTokens (branchExprs branches)))
      (branchValues branches) (readBackEach branches)
  | [], h => absurd rfl h
  | [] :: rest, _ => by
    have hbranch := reads_branch (readsAll_singleton reads_always)
    rw [branchExprs, exprs, branchTokens, branchValues, values, readBackEach]
    cases rest with
    | nil =>
      rw [branchExprs, branchTokens, joinedTokens, branchValues, List.append_nil, readBackEach]
      exact readsEach_singleton hbranch
    | cons next more =>
      rw [joinedTokens_cons _ _ (branchTokens_ne_nil next more)]
      exact readsEach_cons hbranch (readsEach_branches (next :: more) (List.cons_ne_nil _ _))
  | (f :: fs) :: rest, _ => by
    have hbranch := reads_branch (readsAll_formulas (f :: fs) (List.cons_ne_nil _ _))
    rw [readBackAll] at hbranch
    have htokens : branchTokens (branchExprs ((f :: fs) :: rest))
        = (.opening :: joinedTokens Keyword.conjunction.token (allTokens (exprs (f :: fs))) ++ [.closing])
          :: branchTokens (branchExprs rest) := by
      rw [branchExprs, exprs, branchTokens]
      simp
    rw [htokens, branchValues, readBackEach]
    cases rest with
    | nil =>
      rw [branchExprs, branchTokens, joinedTokens, branchValues, List.append_nil, readBackEach]
      exact readsEach_singleton hbranch
    | cons next more =>
      rw [joinedTokens_cons _ _ (branchTokens_ne_nil next more)]
      exact readsEach_cons hbranch (readsEach_branches (next :: more) (List.cons_ne_nil _ _))

theorem readsAll_formulas : ∀ fs : List Formula, fs ≠ [] →
    ReadsAll (joinedTokens Keyword.conjunction.token (allTokens (exprs fs))) (values fs) (readBackAll fs)
  | [], h => absurd rfl h
  | f :: rest, _ => by
    rw [exprs, allTokens, values, readBackAll]
    cases rest with
    | nil =>
      rw [exprs, allTokens, joinedTokens, values, List.append_nil, readBackAll]
      exact readsAll_singleton f.reads
    | cons next more =>
      have htokens : allTokens (exprs (next :: more)) ≠ [] := by simp [exprs, allTokens]
      rw [joinedTokens_cons _ _ htokens]
      exact readsAll_cons f.reads (readsAll_formulas (next :: more) (List.cons_ne_nil _ _))

end

theorem parse?_conjunction {fs : List Formula} (hfs : fs ≠ []) :
    parse? (conjunctionChars (exprs fs)) (values fs) = some [readBackAll fs] := by
  have h := readsAll_formulas fs hfs [] [] [] []
  rw [List.append_nil, List.nil_append] at h
  rw [parse?, lex_conjunction, Option.bind_eq_bind, Option.bind_some, Frame.empty, h]
  rfl

end RowStore.Sql
