import RowStore.Json.Writer
import RowStore.Proofs.Entries
import RowStore.Proofs.Json.Numerals
import RowStore.Proofs.Text.Octets

/-!
# Values from their own text

The text of a value is read as the value, if its containers are not nested deeper than is read, no object in it has a name
twice, and every number in it is what its own text is read as. All integers of a word are; a double may be read as one beside
it, since the reader rounds more than once.
-/

namespace RowStore

set_option autoImplicit false

namespace Json

/-- A value that can be read from its text with room for some more containers. -/
inductive Restored : Nat → Value → Prop where
  | null {depth : Nat} : Restored depth .null
  | bool {depth : Nat} {b : Bool} : Restored depth (.bool b)
  | number {depth : Nat} {n : Number} (h : number? n.text = some (n, [])) : Restored depth (.number n)
  | string {depth : Nat} {s : String} : Restored depth (.string s)
  | array {depth : Nat} {items : List Value} (h : ∀ item ∈ items, Restored depth item) :
      Restored (depth + 1) (.array items)
  | object {depth : Nat} {fields : Fields} (hdistinct : Entries.Distinct fields)
      (h : ∀ field ∈ fields, Restored depth field.2) : Restored (depth + 1) (.object fields)

theorem Restored.integer {depth : Nat} {n : Int} (hlower : Numeral.leastInt64 ≤ n) (hupper : n < Numeral.wordBound) :
    Restored depth (.ofInt n) :=
  .number (number?_integerText hlower hupper)

variable {limit : Nat} {frames : List Frame} {value : Value} {name : String} {text rest : List Char}

/-! ### Strings -/

theorem digit?_digitChar {n : Nat} (h : n < 16) : Text.Hex.digit? (Nat.digitChar n) = some n := by
  revert n
  decide

theorem number?_hexPair {n : Nat} (h : n < 0x100) : Text.Hex.number? ('0' :: '0' :: hexPair n) = some n := by
  rw [Text.Hex.number?_zero_cons, Text.Hex.number?_zero_cons, hexPair]
  exact Text.Hex.number?_pair (digit?_digitChar (by omega)) (digit?_digitChar (by omega))

/-- A character in front of what is read of a string. -/
def putFront (c : Char) (read : List Char × List Char) : List Char × List Char :=
  (c :: read.1, read.2)

theorem stringBody?_short {e c : Char} (hcode : e ≠ 'u') (h : shortEscape? e = some c) (rest : List Char) :
    stringBody? none ('\\' :: e :: rest) = (stringBody? none rest).map (putFront c) := by
  rw [stringBody?]
  · rw [h]
    cases stringBody? none rest <;> rfl
  · rintro _ _ _ _ _ rfl
    exact absurd rfl hcode

theorem stringBody?_code {a b c d : Char} {code : Nat} (h : Text.Hex.number? [a, b, c, d] = some code)
    (hlow : code < 0xD800) (rest : List Char) :
    stringBody? none ('\\' :: 'u' :: a :: b :: c :: d :: rest)
      = (stringBody? none rest).map (putFront (Char.ofNat code)) := by
  have hhigh : isHighSurrogate code = false := by
    rw [isHighSurrogate, decide_eq_false_iff_not]
    omega
  have hsecond : isLowSurrogate code = false := by
    rw [isLowSurrogate, decide_eq_false_iff_not]
    omega
  rw [stringBody?, h]
  simp only [Option.bind_eq_bind, Option.bind_some, hhigh, hsecond, Bool.false_eq_true, if_false]
  cases stringBody? none rest <;> rfl

theorem stringBody?_plain {c : Char} (hquote : c ≠ '"') (hslash : c ≠ '\\') (h : 0x20 ≤ c.toNat) (rest : List Char) :
    stringBody? none (c :: rest) = (stringBody? none rest).map (putFront c) := by
  have hshown : ¬ ((none : Option Nat).isSome = true ∨ c.toNat < 0x20) := by
    rintro (hnone | hlt)
    · cases hnone
    · omega
  rw [stringBody?]
  · rw [if_neg hshown]
    cases stringBody? none rest <;> rfl
  · exact hquote
  · rintro _ _ _ _ _ rfl
    exact absurd rfl hslash
  · rintro _ _ rfl
    exact absurd rfl hslash

/-- What stands for a character in a string is read as the character. -/
theorem stringBody?_escaped (c : Char) (rest : List Char) :
    stringBody? none (escaped c ++ rest) = (stringBody? none rest).map (putFront c) := by
  by_cases hshort : c ∈ ['"', '\\', '\x08', '\x0c', '\n', '\r', '\t']
  · simp only [List.mem_cons, List.not_mem_nil, or_false] at hshort
    rcases hshort with rfl | rfl | rfl | rfl | rfl | rfl | rfl <;> exact stringBody?_short (by decide) rfl rest
  · simp only [List.mem_cons, List.not_mem_nil, or_false, not_or] at hshort
    obtain ⟨hquote, hslash, h08, h0c, hn, hr, ht⟩ := hshort
    rw [escaped, if_neg hquote, if_neg hslash, if_neg h08, if_neg h0c, if_neg hn, if_neg hr, if_neg ht]
    split
    · rename_i hcontrol
      have hcode := stringBody?_code (number?_hexPair (n := c.toNat) (by omega)) (by omega) rest
      rwa [Char.ofNat_toNat] at hcode
    · exact stringBody?_plain hquote hslash (by omega) rest

theorem stringBody?_quoted (s : List Char) (rest : List Char) :
    stringBody? none (s.flatMap escaped ++ '"' :: rest) = some (s, rest) := by
  induction s with
  | nil => rfl
  | cons c s ih => rw [List.flatMap_cons, List.append_assoc, stringBody?_escaped, ih]; rfl

/-! ### Tokens -/

theorem token?_cons {c : Char} (h : isSpace c = false) (rest : List Char) : token? (c :: rest) = tokenHere? (c :: rest) := by
  rw [token?, List.dropWhile_cons, if_neg (by rw [h]; exact Bool.false_ne_true)]

theorem token?_quoted (s : String) (rest : List Char) : token? (quoted s ++ rest) = some (.text s.toList, rest) := by
  have htext : quoted s ++ rest = '"' :: (s.toList.flatMap escaped ++ '"' :: rest) := by
    rw [quoted, List.cons_append, List.cons_append, List.append_assoc]
    rfl
  rw [htext, token?_cons (by decide)]
  change (stringBody? none _).map _ = _
  rw [stringBody?_quoted]
  rfl

theorem fieldName?_quoted (name : String) (rest : List Char) :
    fieldName? (quoted name ++ ':' :: rest) = some (name, rest) := by
  have hcolon : token? (':' :: rest) = some (.punct ':', rest) := token?_cons (by decide) rest
  rw [fieldName?, token?_quoted]
  simp only [hcolon, String.ofList_toList]

/-- A number starts with a minus or a digit. -/
theorem exists_of_number? {n : Number} (h : number? text = some (n, rest)) :
    ∃ c more, text = c :: more ∧ (c = '-' ∨ c.isDigit = true) := by
  cases text with
  | nil => cases h
  | cons c more =>
    refine ⟨c, more, rfl, ?_⟩
    by_contra hc
    rw [not_or, Bool.not_eq_true] at hc
    have hunsigned : ∀ first ∈ (c :: more).head?, first ≠ '-' := by
      rintro _ ⟨⟩
      exact hc.1
    have hwhole : ((c :: more).span Char.isDigit).1 = [] := by
      rw [List.span_eq_takeWhile_dropWhile, List.takeWhile_cons_of_neg (by rw [hc.2]; exact Bool.false_ne_true)]
    rw [number?_of_ne hunsigned, unsigned?] at h
    simp only [hwhole, true_or, if_true] at h
    cases h

/-- The characters that stand between values, or around a string. -/
def marks : List Char := [' ', '\n', '\t', '\r', '[', ']', ',', ':', '\x7b', '\x7d', '"']

theorem not_mem_marks {c : Char} (hc : c = '-' ∨ c.isDigit = true) : c ∉ marks := by
  intro hm
  simp only [marks, List.mem_cons, List.not_mem_nil, or_false] at hm
  rcases hm with rfl | rfl | rfl | rfl | rfl | rfl | rfl | rfl | rfl | rfl | rfl <;> exact absurd hc (by decide)

theorem isSpace_of_not_mem {c : Char} (h : c ∉ marks) : isSpace c = false := by
  rw [isSpace, decide_eq_false_iff_not]
  rintro (rfl | rfl | rfl | rfl) <;> exact h (by decide)

theorem token?_number {n : Number} (h : number? text = some (n, [])) (hrest : Ends rest) :
    token? (text ++ rest) = some (.scalar (.number n), rest) := by
  obtain ⟨c, more, rfl, hc⟩ := exists_of_number? h
  have hmarks : c ∉ marks := not_mem_marks hc
  have hpunct : ¬ ("[],:".toList.contains c = true ∨ c = '\x7b' ∨ c = '\x7d') := by
    rintro (hcontains | rfl | rfl)
    · have hm : c ∈ ['[', ']', ',', ':'] := List.contains_iff_mem.mp hcontains
      simp only [List.mem_cons, List.not_mem_nil, or_false] at hm
      rcases hm with rfl | rfl | rfl | rfl <;> exact hmarks (by decide)
    · exact hmarks (by decide)
    · exact hmarks (by decide)
  have hquote : c ≠ '"' := by
    rintro rfl
    exact hmarks (by decide)
  rw [List.cons_append, token?_cons (isSpace_of_not_mem hmarks), tokenHere?, if_neg hpunct, if_neg hquote, if_pos hc,
    ← List.cons_append, hrest.number?, h]
  rfl

theorem eq_cons_of_punct {c : Char} (h : tokenHere? text = some (.punct c, rest)) : text = c :: rest := by
  cases text with
  | nil => cases h
  | cons first more =>
    rw [tokenHere?] at h
    split at h
    · cases h
      rfl
    · split at h
      · obtain ⟨_, _, heq⟩ := Option.map_eq_some_iff.mp h
        cases heq
      · split at h
        · obtain ⟨_, _, heq⟩ := Option.map_eq_some_iff.mp h
          cases heq
        · obtain ⟨_, _, heq⟩ := Option.map_eq_some_iff.mp h
          cases heq

/-! ### Steps of the reader -/

theorem readValue?_finished (hstart : start? (frames.length < limit) text = some (.finished value, rest))
    (hlt : rest.length < text.length) : readValue? limit frames text = resume? limit frames value rest := by
  rw [readValue?, hstart, Text.step?_some hlt]

theorem readValue?_inside {frame : Frame} (hstart : start? (frames.length < limit) text = some (.inside frame, rest))
    (hlt : rest.length < text.length) : readValue? limit frames text = readValue? limit (frame :: frames) rest := by
  rw [readValue?, hstart, Text.step?_some hlt]

theorem resume?_finished {frame : Frame} {whole : Value}
    (hnext : continue? frame value text = some (.finished whole, rest)) (hlt : rest.length < text.length) :
    resume? limit (frame :: frames) value text = resume? limit frames whole rest := by
  rw [resume?, hnext, Text.step?_some hlt]

theorem resume?_inside {frame next : Frame} (hnext : continue? frame value text = some (.inside next, rest))
    (hlt : rest.length < text.length) :
    resume? limit (frame :: frames) value text = readValue? limit (next :: frames) rest := by
  rw [resume?, hnext, Text.step?_some hlt]

/-! ### Containers -/

theorem separated_cons (piece : List Char) (more : List (List Char)) :
    separated (piece :: more) = piece ++ more.flatMap (',' :: ·) := by
  induction more generalizing piece with
  | nil => rw [separated, List.flatMap_nil, List.append_nil]
  | cons next more ih =>
    have hpiece : separated (piece :: next :: more) = piece ++ ',' :: separated (next :: more) := rfl
    rw [hpiece, ih, List.flatMap_cons, List.cons_append]

/-- The text of a value does not start with space, nor with the end of a list. -/
theorem Restored.exists_head {depth : Nat} (h : Restored depth value) :
    ∃ c more, chars value = c :: more ∧ isSpace c = false ∧ c ≠ ']' := by
  cases h with
  | null => exact ⟨_, _, rfl, by decide, by decide⟩
  | @bool _ b => cases b <;> exact ⟨_, _, rfl, by decide, by decide⟩
  | number h =>
    obtain ⟨c, more, htext, hc⟩ := exists_of_number? h
    refine ⟨c, more, htext, isSpace_of_not_mem (not_mem_marks hc), ?_⟩
    rintro rfl
    exact absurd hc (by decide)
  | string | array | object => exact ⟨_, _, rfl, by decide, by decide⟩

theorem Restored.length_lt {depth : Nat} (h : Restored depth value) (rest : List Char) :
    rest.length < (chars value ++ rest).length := by
  obtain ⟨c, more, htext, _⟩ := h.exists_head
  rw [htext, List.length_append, List.length_cons]
  omega

theorem length_lt_field (name : String) (rest : List Char) : rest.length < (quoted name ++ ':' :: rest).length := by
  rw [List.length_append, List.length_cons]
  omega

theorem start?_array {depth : Nat} (h : Restored depth value) (rest : List Char) :
    start? true ('[' :: (chars value ++ rest)) = some (.inside (.array []), chars value ++ rest) := by
  have hopen : token? ('[' :: (chars value ++ rest)) = some (.punct '[', chars value ++ rest) :=
    token?_cons (by decide) _
  obtain ⟨c, more, htext, hspace, hne⟩ := h.exists_head
  -- With an item after it, the bracket does not open an empty list.
  have hitem : ∀ after, token? (chars value ++ rest) ≠ some (.punct ']', after) := by
    intro after htoken
    rw [htext, List.cons_append, token?_cons hspace] at htoken
    injection eq_cons_of_punct htoken with hc
    exact hne hc
  rw [start?, hopen]
  simp only [Option.bind_eq_bind, Option.bind_some, Bool.not_true, Bool.false_eq_true, and_false, if_false]

theorem start?_object (name : String) (rest : List Char) :
    start? true ('\x7b' :: (quoted name ++ ':' :: rest)) = some (.inside (.object [] name), rest) := by
  have hopen : token? ('\x7b' :: (quoted name ++ ':' :: rest)) = some (.punct '\x7b', quoted name ++ ':' :: rest) :=
    token?_cons (by decide) _
  rw [start?, hopen]
  simp [token?_quoted, fieldName?_quoted]

theorem token?_comma (rest : List Char) : token? (',' :: rest) = some (.punct ',', rest) :=
  token?_cons (by decide) rest

theorem token?_endArray (rest : List Char) : token? (']' :: rest) = some (.punct ']', rest) :=
  token?_cons (by decide) rest

theorem token?_endObject (rest : List Char) : token? ('\x7d' :: rest) = some (.punct '\x7d', rest) :=
  token?_cons (by decide) rest

theorem continue?_nextItem (done : List Value) (value : Value) (rest : List Char) :
    continue? (.array done) value (',' :: rest) = some (.inside (.array (value :: done)), rest) := by
  simp only [continue?, token?_comma]

theorem continue?_endArray (done : List Value) (value : Value) (rest : List Char) :
    continue? (.array done) value (']' :: rest) = some (.finished (.array (value :: done).reverse), rest) := by
  simp only [continue?, token?_endArray]

theorem continue?_nextField (done : Fields) (name : String) (value : Value) (next : String) (rest : List Char) :
    continue? (.object done name) value (',' :: (quoted next ++ ':' :: rest))
      = some (.inside (.object (Entries.insert name value done) next), rest) := by
  simp only [continue?, token?_comma, fieldName?_quoted, Option.map_some]

theorem continue?_endObject (done : Fields) (name : String) (value : Value) (rest : List Char) :
    continue? (.object done name) value ('\x7d' :: rest)
      = some (.finished (.object (Entries.insert name value done)), rest) := by
  simp only [continue?, token?_endObject]

/-! ### Whole values -/

/-- The text of a value, wherever it stands, is read as the value, and the reader goes on with what follows it. -/
def ReadsBack (limit depth : Nat) (value : Value) : Prop :=
  ∀ frames rest, frames.length + depth ≤ limit → Ends rest →
    readValue? limit frames (chars value ++ rest) = resume? limit frames value rest

theorem readValue?_items {depth : Nat} {first : Value} {items : List Value}
    (hread : ∀ item ∈ first :: items, ReadsBack limit depth item) (done : List Value)
    (hdepth : frames.length + 1 + depth ≤ limit) (rest : List Char) :
    readValue? limit (.array done :: frames) (chars first ++ ((itemChars items).flatMap (',' :: ·) ++ ']' :: rest))
      = resume? limit frames (.array (done.reverse ++ first :: items)) rest := by
  induction items generalizing first done with
  | nil =>
    have hfirst := hread first List.mem_cons_self (.array done :: frames) _ hdepth (ends_endArray rest)
    rw [itemChars, List.flatMap_nil, List.nil_append, hfirst,
      resume?_finished (continue?_endArray done first rest) (Nat.lt_succ_self _), List.reverse_cons]
  | cons next items ih =>
    have hfirst := fun rest => hread first List.mem_cons_self (.array done :: frames) _ hdepth (ends_comma rest)
    have hitems := ih (fun item hm => hread item (List.mem_cons_of_mem first hm)) (first :: done)
    rw [List.reverse_cons, List.append_assoc] at hitems
    rw [itemChars, List.flatMap_cons, List.cons_append, List.cons_append, hfirst,
      resume?_inside (continue?_nextItem done first _) (Nat.lt_succ_self _), List.append_assoc, hitems]
    rfl

theorem readValue?_fields {depth : Nat} {name : String} {value : Value} {fields : Fields}
    (hread : ∀ field ∈ (name, value) :: fields, ReadsBack limit depth field.2) {done : Fields}
    (hdistinct : Entries.Distinct (done ++ (name, value) :: fields)) (hdepth : frames.length + 1 + depth ≤ limit)
    (rest : List Char) :
    readValue? limit (.object done name :: frames)
        (chars value ++ ((fieldChars fields).flatMap (',' :: ·) ++ '\x7d' :: rest))
      = resume? limit frames (.object (done ++ (name, value) :: fields)) rest := by
  have hvalue := hread (name, value) List.mem_cons_self
  induction fields generalizing name value done with
  | nil =>
    have hinsert : Entries.insert name value done = done ++ [(name, value)] :=
      Entries.insert_of_not_mem (Entries.not_mem_names_of_distinct hdistinct).1 value
    rw [fieldChars, List.flatMap_nil, List.nil_append,
      hvalue (.object done name :: frames) _ hdepth (ends_endObject rest),
      resume?_finished (continue?_endObject done name value rest) (Nat.lt_succ_self _), hinsert]
  | cons field fields ih =>
    obtain ⟨next, other⟩ := field
    have hinsert : Entries.insert name value done = done ++ [(name, value)] :=
      Entries.insert_of_not_mem (Entries.not_mem_names_of_distinct hdistinct).1 value
    have hmore : (fieldChars ((next, other) :: fields)).flatMap (',' :: ·) ++ '\x7d' :: rest
        = ',' :: (quoted next ++ ':' :: (chars other ++ ((fieldChars fields).flatMap (',' :: ·) ++ '\x7d' :: rest))) := by
      simp [fieldChars]
    have hmoved : Entries.Distinct ((done ++ [(name, value)]) ++ (next, other) :: fields) := by
      rwa [List.append_assoc]
    have hfields := ih (fun field hm => hread field (List.mem_cons_of_mem _ hm)) hmoved
      (hread (next, other) (List.mem_cons_of_mem _ List.mem_cons_self))
    rw [hmore, hvalue (.object done name :: frames) _ hdepth (ends_comma _),
      resume?_inside (continue?_nextField done name value next _) (Nat.lt_succ_of_lt (length_lt_field next _)), hinsert,
      hfields, List.append_assoc]
    rfl

/-- Values that are read in one step. -/
theorem Restored.readsBack_of_start {depth : Nat} (h : Restored depth value)
    (hstart : ∀ deeper rest, (0 < depth → deeper = true) → Ends rest →
      start? deeper (chars value ++ rest) = some (.finished value, rest)) : ReadsBack limit depth value := by
  intro frames rest hdepth hrest
  refine readValue?_finished (hstart _ rest ?_ hrest) (h.length_lt rest)
  intro hpos
  exact decide_eq_true (by omega)

theorem readsBack_array {depth : Nat} {first : Value} {items : List Value}
    (h : ∀ item ∈ first :: items, Restored depth item) (hread : ∀ item ∈ first :: items, ReadsBack limit depth item) :
    ReadsBack limit (depth + 1) (.array (first :: items)) := by
  intro frames rest hdepth _
  have hroom : decide (frames.length < limit) = true := decide_eq_true (by omega)
  have htext : chars (.array (first :: items)) ++ rest
      = '[' :: (chars first ++ ((itemChars items).flatMap (',' :: ·) ++ ']' :: rest)) := by
    simp [chars, itemChars, separated_cons]
  have hstart := start?_array (h first List.mem_cons_self) ((itemChars items).flatMap (',' :: ·) ++ ']' :: rest)
  rw [← hroom] at hstart
  rw [htext, readValue?_inside hstart (Nat.lt_succ_self _), readValue?_items hread [] (by omega) rest]
  rfl

theorem readsBack_object {depth : Nat} {name : String} {first : Value} {fields : Fields}
    (hdistinct : Entries.Distinct ((name, first) :: fields))
    (hread : ∀ field ∈ (name, first) :: fields, ReadsBack limit depth field.2) :
    ReadsBack limit (depth + 1) (.object ((name, first) :: fields)) := by
  intro frames rest hdepth _
  have hroom : decide (frames.length < limit) = true := decide_eq_true (by omega)
  have htext : chars (.object ((name, first) :: fields)) ++ rest
      = '\x7b' :: (quoted name ++ ':' :: (chars first ++ ((fieldChars fields).flatMap (',' :: ·) ++ '\x7d' :: rest))) := by
    simp [chars, fieldChars, separated_cons]
  have hstart := start?_object name (chars first ++ ((fieldChars fields).flatMap (',' :: ·) ++ '\x7d' :: rest))
  rw [← hroom] at hstart
  rw [htext, readValue?_inside hstart (Nat.lt_succ_of_lt (length_lt_field name _)),
    readValue?_fields hread hdistinct (by omega) rest]
  rfl

theorem Restored.readsBack {depth : Nat} (h : Restored depth value) : ReadsBack limit depth value := by
  induction h with
  | null => exact Restored.null.readsBack_of_start fun _ _ _ _ => rfl
  | @bool _ b =>
    refine Restored.bool.readsBack_of_start ?_
    intro deeper rest _ _
    cases b <;> rfl
  | @number _ n h =>
    refine (Restored.number h).readsBack_of_start ?_
    intro deeper rest _ hrest
    rw [chars, start?, token?_number h hrest]
    rfl
  | @string _ s =>
    refine Restored.string.readsBack_of_start ?_
    intro deeper rest _ _
    rw [chars, start?, token?_quoted]
    simp [Token.opens]
  | @array depth items h ih =>
    cases items with
    | nil =>
      refine (Restored.array h).readsBack_of_start ?_
      intro deeper rest hdeeper _
      rw [hdeeper (Nat.succ_pos depth)]
      rfl
    | cons first items => exact readsBack_array h ih
  | @object depth fields hdistinct h ih =>
    cases fields with
    | nil =>
      refine (Restored.object hdistinct h).readsBack_of_start ?_
      intro deeper rest hdeeper _
      rw [hdeeper (Nat.succ_pos depth)]
      rfl
    | cons field fields => exact readsBack_object hdistinct ih

/-- A value that is restored is read from its text. -/
theorem read?_render (h : Restored nestingLimit value) : read? (render value) = some value := by
  have hread := h.readsBack [] [] (Nat.zero_add _).le ends_nil
  rw [List.append_nil, resume?] at hread
  rw [read?, readWithin?, render, String.toList_ofList, hread]
  rfl

end Json

end RowStore
