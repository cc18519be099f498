import Mathlib.Data.List.Forall2
import RowStore.Sql.Expr

/-!
# Reading the text of a condition

Text is taken apart one character at a time. A quoted name runs to the first quote that is not doubled; outside
of names there are marks, parentheses, commas, and words between them. A piece of text spells a list of tokens when
it gives them whatever follows, as long as what follows does not go on with the last word.
-/

namespace RowStore.Sql

set_option autoImplicit false

inductive Token where
  | name (s : String)
  | word (s : String)
  | mark
  | opening
  | closing
  | comma
deriving DecidableEq, Repr

/-- Where a reader stands: a quote inside a name ends it, unless another quote follows. -/
inductive Mode where
  | between
  | word (read : List Char)
  | name (read : List Char)
  | quote (read : List Char)

def isWordChar (c : Char) : Bool :=
  !(['"', '?', '(', ')', ',', ' '].contains c)

namespace Mode

/-- What a character starts, or is, outside of names and words. -/
def enter (c : Char) : List Token × Mode :=
  if c = '"' then ([], name [])
  else if c = '?' then ([.mark], between)
  else if c = '(' then ([.opening], between)
  else if c = ')' then ([.closing], between)
  else if c = ',' then ([.comma], between)
  else if c = ' ' then ([], between)
  else ([], word [c])

/-- A character after a finished token. -/
def after (token : Token) (c : Char) : List Token × Mode :=
  (token :: (enter c).1, (enter c).2)

def step : Mode → Char → List Token × Mode
  | between, c => enter c
  | word read, c => if isWordChar c then ([], word (read ++ [c])) else after (.word (String.ofList read)) c
  | name read, c => if c = '"' then ([], quote read) else ([], name (read ++ [c]))
  | quote read, c => if c = '"' then ([], name (read ++ [c])) else after (.name (String.ofList read)) c

/-- The token that the end of the text ends; a name has to be closed. -/
def finish : Mode → Option (List Token)
  | between => some []
  | word read => some [.word (String.ofList read)]
  | name _ => none
  | quote read => some [.name (String.ofList read)]

end Mode

/-- The tokens of a text, unless it ends inside a name. -/
def lex (mode : Mode) : List Char → Option (List Token)
  | [] => mode.finish
  | c :: rest => (lex (mode.step c).2 rest).map ((mode.step c).1 ++ ·)

/-- No word or name goes on into the text. -/
def Bounded (rest : List Char) : Prop :=
  ∀ c ∈ rest.head?, isWordChar c = false ∧ c ≠ '"'

/-- A piece of text gives the tokens, before anything that does not go on with its last one. -/
def Spells (chars : List Char) (tokens : List Token) : Prop :=
  ∀ rest, Bounded rest → lex .between (chars ++ rest) = (lex .between rest).map (tokens ++ ·)

theorem bounded_cons {c : Char} {rest : List Char} (hc : isWordChar c = false ∧ c ≠ '"') : Bounded (c :: rest) := by
  intro d hd
  cases hd
  exact hc

theorem map_append_map (tokens more : List Token) (result : Option (List Token)) :
    (result.map (more ++ ·)).map (tokens ++ ·) = result.map ((tokens ++ more) ++ ·) := by
  cases result <;> simp

theorem lex_after {mode : Mode} {token : Token} {rest : List Char} (hfinish : mode.finish = some [token])
    (hstep : ∀ c ∈ rest.head?, mode.step c = Mode.after token c) :
    lex mode rest = (lex .between rest).map ([token] ++ ·) := by
  cases rest with
  | nil => rw [lex, lex, hfinish]; rfl
  | cons c more =>
    rw [lex, lex, hstep c rfl, map_append_map]
    rfl

theorem lex_word {read word rest : List Char} (hword : ∀ c ∈ word, isWordChar c = true) (hrest : Bounded rest) :
    lex (.word read) (word ++ rest) = (lex .between rest).map ([.word (String.ofList (read ++ word))] ++ ·) := by
  induction word generalizing read with
  | nil =>
    apply lex_after (by simp [Mode.finish])
    intro c hc
    simp [Mode.step, (hrest c hc).1]
  | cons c more ih =>
    obtain ⟨hc, hmore⟩ := List.forall_mem_cons.mp hword
    have hstep : Mode.step (.word read) c = ([], .word (read ++ [c])) := if_pos hc
    rw [List.cons_append, lex, hstep, ih hmore, List.append_assoc, List.singleton_append, map_append_map]
    rfl

/-- The doubled quotes of a name are read as quotes, and the single one ends it. -/
theorem lex_name {read name rest : List Char} (hrest : Bounded rest) :
    lex (.name read) (name.flatMap (fun c => if c = '"' then ['"', '"'] else [c]) ++ '"' :: rest)
      = (lex .between rest).map ([.name (String.ofList (read ++ name))] ++ ·) := by
  induction name generalizing read with
  | nil =>
    have hstep : Mode.step (.name read) '"' = ([], .quote read) := rfl
    have hafter : ∀ c ∈ rest.head?, Mode.step (.quote read) c = Mode.after (.name (String.ofList read)) c := by
      intro c hc
      exact if_neg (hrest c hc).2
    rw [List.flatMap_nil, List.nil_append, lex, hstep, lex_after rfl hafter, map_append_map, List.append_nil]
    rfl
  | cons c more ih =>
    rw [List.flatMap_cons, List.append_assoc]
    by_cases hc : c = '"'
    · subst hc
      have hopen : Mode.step (.name read) '"' = ([], .quote read) := rfl
      have hdouble : Mode.step (.quote read) '"' = ([], .name (read ++ ['"'])) := rfl
      rw [if_pos rfl, List.cons_append, List.cons_append, List.nil_append, lex, hopen, lex, hdouble, ih,
        map_append_map, map_append_map, List.append_assoc read, List.singleton_append]
      rfl
    · have hstep : Mode.step (.name read) c = ([], .name (read ++ [c])) := if_neg hc
      rw [if_neg hc, List.cons_append, List.nil_append, lex, hstep, ih, map_append_map, List.append_assoc,
        List.singleton_append]
      rfl

namespace Spells

variable {a b : List Char} {s t : List Token}

/-- A text that is one piece has the tokens of the piece. -/
theorem tokens (h : Spells a s) : lex .between a = some s := by
  have hall := h [] (by intro c hc; cases hc)
  rw [List.append_nil] at hall
  rw [hall]
  simp [lex, Mode.finish]

theorem nil : Spells [] [] := by
  intro rest _
  simp

theorem name (column : String) : Spells (quoteChars column) [.name column] := by
  intro rest hrest
  have hquote : Mode.step .between '"' = ([], .name []) := rfl
  rw [quoteChars, List.cons_append, List.cons_append, List.append_assoc, List.singleton_append, lex, hquote,
    lex_name hrest, map_append_map, List.nil_append column.toList, String.ofList_toList]
  rfl

theorem word {w : String} (hw : w ≠ "") (hchars : ∀ c ∈ w.toList, isWordChar c = true) :
    Spells w.toList [.word w] := by
  intro rest hrest
  cases hl : w.toList with
  | nil => exact absurd (String.toList_eq_nil_iff.mp hl) hw
  | cons c more =>
    rw [hl] at hchars
    obtain ⟨hc, hmore⟩ := List.forall_mem_cons.mp hchars
    have hstep : Mode.step .between c = ([], .word [c]) := by
      simp [isWordChar] at hc
      simp [Mode.step, Mode.enter, hc]
    rw [List.cons_append, lex, hstep, lex_word hmore hrest, List.singleton_append, ← hl, String.ofList_toList,
      map_append_map]
    rfl

theorem literal {w : String} (h : w ≠ "" ∧ w.toList.all isWordChar = true) : Spells w.toList [.word w] :=
  word h.1 (List.all_eq_true.mp h.2)

theorem mark : Spells ['?'] [.mark] := by
  intro rest _
  rfl

/-- Two pieces are read one after the other when the second does not go on with the first. -/
theorem append (ha : Spells a s) (hb : Spells b t) (hbounded : ∀ rest, Bounded rest → Bounded (b ++ rest)) :
    Spells (a ++ b) (s ++ t) := by
  intro rest hrest
  rw [List.append_assoc, ha _ (hbounded rest hrest), hb rest hrest, map_append_map]

theorem of_enter {c : Char} (tokens : List Token) (hc : Mode.enter c = (tokens, .between)) (ha : Spells a s) :
    Spells (c :: a) (tokens ++ s) := by
  intro rest hrest
  have hstep : Mode.step .between c = (tokens, .between) := hc
  rw [List.cons_append, lex, hstep, ha rest hrest, map_append_map]

theorem blank (ha : Spells a s) (hb : Spells b t) : Spells (a ++ ' ' :: b) (s ++ t) :=
  ha.append (of_enter [] rfl hb) fun _ _ => bounded_cons (by decide)

theorem comma (ha : Spells a s) (hb : Spells b t) : Spells (a ++ ',' :: ' ' :: b) (s ++ .comma :: t) :=
  ha.append (of_enter [.comma] rfl (of_enter [] rfl hb)) fun _ _ => bounded_cons (by decide)

theorem parens (ha : Spells a s) : Spells ('(' :: a ++ [')']) (.opening :: s ++ [.closing]) :=
  of_enter [.opening] rfl
    (ha.append (of_enter [.closing] rfl nil) fun _ _ => bounded_cons (by decide))

end Spells

inductive Keyword where
  | conjunction
  | disjunction
  | is
  | not
  | null
  | among
  | one
  | zero
  | unequal
  | relation (op : Comparison)
deriving DecidableEq, Repr

namespace Keyword

def all : List Keyword :=
  [conjunction, disjunction, is, not, null, among, one, zero, unequal] ++ Comparison.all.map relation

def text : Keyword → String
  | conjunction => "AND"
  | disjunction => "OR"
  | is => "IS"
  | not => "NOT"
  | null => "NULL"
  | among => "IN"
  | one => "1"
  | zero => "0"
  | unequal => "<>"
  | relation op => op.symbol

def token (k : Keyword) : Token := .word k.text

def ofText? (text : String) : Option Keyword :=
  all.find? fun k => k.text = text

@[simp] theorem ofText?_text (k : Keyword) : ofText? k.text = some k := by
  cases k with
  | relation op => cases op <;> rfl
  | _ => rfl

theorem spells (k : Keyword) : Spells k.text.toList [k.token] := by
  apply Spells.literal
  cases k with
  | relation op => cases op <;> decide
  | _ => decide

end Keyword

def joinedTokens (separator : Token) : List (List Token) → List Token
  | [] => []
  | [piece] => piece
  | piece :: more => piece ++ separator :: joinedTokens separator more

theorem joinedTokens_cons (separator : Token) (piece : List Token) {more : List (List Token)} (h : more ≠ []) :
    joinedTokens separator (piece :: more) = piece ++ separator :: joinedTokens separator more := by
  cases more with
  | nil => exact absurd rfl h
  | cons _ _ => rfl

/-- As many marks as there are placeholders, in parentheses. -/
def markTokens (count : Nat) : List Token :=
  .opening :: joinedTokens .comma (List.replicate count [.mark]) ++ [.closing]

mutual

def Expr.tokens : Expr → List Token
  | .never => [Keyword.one.token, (Keyword.relation .equal).token, Keyword.zero.token]
  | .isNull column => [.name column, Keyword.is.token, Keyword.null.token]
  | .isNotNull column => [.name column, Keyword.is.token, Keyword.not.token, Keyword.null.token]
  | .compare column op => [.name column, (Keyword.relation op).token, .mark]
  | .differs column => [.name column, Keyword.unequal.token, .mark]
  | .among column count => .name column :: Keyword.among.token :: markTokens count
  | .notAmong column count => .name column :: Keyword.not.token :: Keyword.among.token :: markTokens count
  | .always => [Keyword.one.token, (Keyword.relation .equal).token, Keyword.one.token]
  | .any branches => .opening :: joinedTokens Keyword.disjunction.token (branchTokens branches) ++ [.closing]

def branchTokens : List (List Expr) → List (List Token)
  | [] => []
  | [] :: rest => (.opening :: Expr.always.tokens ++ [.closing]) :: branchTokens rest
  | branch :: rest =>
    (.opening :: joinedTokens Keyword.conjunction.token (allTokens branch) ++ [.closing]) :: branchTokens rest

def allTokens : List Expr → List (List Token)
  | [] => []
  | expr :: rest => expr.tokens :: allTokens rest

end

/-- A branch in its parentheses; one that asks nothing is written as a truth. -/
def bracketed (pieces : List (List Token)) : List Token :=
  .opening :: (if pieces.isEmpty then Expr.always.tokens else joinedTokens Keyword.conjunction.token pieces)
    ++ [.closing]

theorem branchTokens_cons (branch : List Expr) (rest : List (List Expr)) :
    branchTokens (branch :: rest) = bracketed (allTokens branch) :: branchTokens rest := by
  cases branch with
  | nil => rw [branchTokens, allTokens, bracketed, List.isEmpty_nil, if_pos rfl]
  | cons expr more =>
    rw [branchTokens, bracketed, allTokens, List.isEmpty_cons, if_neg Bool.false_ne_true]
    exact nofun

theorem Spells.joined {separator : List Char} {token : Token}
    (hseparator : ∀ {a b s t}, Spells a s → Spells b t → Spells (a ++ separator ++ b) (s ++ token :: t))
    {pieces : List (List Char)} {tokens : List (List Token)} (h : List.Forall₂ Spells pieces tokens) :
    Spells (Sql.joined separator pieces) (joinedTokens token tokens) := by
  induction h with
  | nil => exact nil
  | cons hpiece hmore ih =>
    cases hmore with
    | nil => exact hpiece
    | cons _ _ => exact hseparator hpiece ih

theorem Spells.keyword_between (k : Keyword) {a b : List Char} {s t : List Token} (ha : Spells a s)
    (hb : Spells b t) : Spells (a ++ ' ' :: k.text.toList ++ ' ' :: b) (s ++ k.token :: t) := by
  have h := ha.blank (k.spells.blank hb)
  rwa [List.append_assoc]

/-- Pieces with a keyword between them, which has a blank on either side. -/
theorem spells_keyword (k : Keyword) {separator : List Char}
    (hseparator : separator = ' ' :: k.text.toList ++ [' '])
    {pieces : List (List Char)} {tokens : List (List Token)} (h : List.Forall₂ Spells pieces tokens) :
    Spells (joined separator pieces) (joinedTokens k.token tokens) := by
  refine Spells.joined ?_ h
  intro a b s t ha hb
  have hk := Spells.keyword_between k ha hb
  rw [List.append_assoc] at hk
  rw [hseparator, List.append_assoc, List.append_assoc]
  exact hk

theorem spells_commas {pieces : List (List Char)} {tokens : List (List Token)}
    (h : List.Forall₂ Spells pieces tokens) :
    Spells (joined ", ".toList pieces) (joinedTokens .comma tokens) := by
  refine Spells.joined ?_ h
  intro a b s t ha hb
  rw [List.append_assoc]
  exact ha.comma hb

theorem spells_placeholders (count : Nat) : Spells (placeholders count) (markTokens count) := by
  refine Spells.parens (spells_commas ?_)
  induction count with
  | zero => exact .nil
  | succ count ih => exact .cons Spells.mark ih

mutual

theorem Expr.spells : ∀ expr : Expr, Spells expr.chars expr.tokens
  | .never => by
    rw [Expr.chars, Expr.tokens]
    exact (Keyword.one.spells.blank (Keyword.relation .equal).spells).blank Keyword.zero.spells
  | .isNull column => by
    rw [Expr.chars, Expr.tokens]
    exact (Spells.name column).blank (Keyword.is.spells.blank Keyword.null.spells)
  | .isNotNull column => by
    rw [Expr.chars, Expr.tokens]
    exact (Spells.name column).blank (Keyword.is.spells.blank (Keyword.not.spells.blank Keyword.null.spells))
  | .compare column op => by
    rw [Expr.chars, Expr.tokens]
    exact ((Spells.name column).blank (Keyword.relation op).spells).blank Spells.mark
  | .differs column => by
    rw [Expr.chars, Expr.tokens]
    exact (Spells.name column).blank (Keyword.unequal.spells.blank Spells.mark)
  | .among column count => by
    rw [Expr.chars, Expr.tokens, List.append_assoc]
    exact (Spells.name column).blank (Keyword.among.spells.blank (spells_placeholders count))
  | .notAmong column count => by
    rw [Expr.chars, Expr.tokens, List.append_assoc]
    exact (Spells.name column).blank
      (Keyword.not.spells.blank (Keyword.among.spells.blank (spells_placeholders count)))
  | .always => by
    rw [Expr.chars, Expr.tokens]
    exact (Keyword.one.spells.blank (Keyword.relation .equal).spells).blank Keyword.one.spells
  | .any branches => by
    rw [Expr.chars, Expr.tokens]
    exact (spells_keyword .disjunction rfl (spells_branches branches)).parens

theorem spells_branches : ∀ branches : List (List Expr),
    List.Forall₂ Spells (branchChars branches) (branchTokens branches)
  | [] => by
    rw [branchChars, branchTokens]
    exact .nil
  | [] :: rest => by
    rw [branchChars, branchTokens]
    have hempty : Spells "1 = 1".toList Expr.always.tokens := by
      have h := Expr.spells .always
      rwa [Expr.chars] at h
    exact .cons hempty.parens (spells_branches rest)
  | (expr :: more) :: rest => by
    rw [branchChars, branchTokens]
    · exact .cons (spells_keyword .conjunction rfl (spells_all (expr :: more))).parens (spells_branches rest)
    · simp
    · simp

theorem spells_all : ∀ exprs : List Expr, List.Forall₂ Spells (allChars exprs) (allTokens exprs)
  | [] => by
    rw [allChars, allTokens]
    exact .nil
  | expr :: rest => by
    rw [allChars, allTokens]
    exact .cons expr.spells (spells_all rest)

end

theorem lex_conjunction (exprs : List Expr) :
    lex .between (conjunctionChars exprs) = some (joinedTokens Keyword.conjunction.token (allTokens exprs)) :=
  (spells_keyword .conjunction rfl (spells_all exprs)).tokens

end RowStore.Sql
