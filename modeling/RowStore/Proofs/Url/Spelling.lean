import RowStore.Proofs.Text.Octets
import RowStore.Url.Percent

/-!
# Spellings of a text in a path

A text that stands between the slashes of a path may have escapes. However many of its octets are escaped, what is
written reads as the text, as long as a percent sign is.
-/

namespace RowStore

set_option autoImplicit false

namespace Text.Utf8

theorem lt_of_mem_encodeChar {c : Char} {octet : Nat} (h : octet ∈ encodeChar c) : octet < 0x100 := by
  have hrange := toNat_range c
  unfold encodeChar at h
  dsimp only at h
  split at h
  · rw [List.mem_singleton] at h
    omega
  · split at h
    · simp only [List.mem_cons, List.not_mem_nil, or_false] at h
      omega
    · split at h <;>
        · simp only [List.mem_cons, List.not_mem_nil, or_false] at h
          omega

theorem lt_of_mem_encode {text : List Char} {octet : Nat} (h : octet ∈ encode text) : octet < 0x100 := by
  obtain ⟨c, _, hoctet⟩ := List.mem_flatMap.mp h
  exact lt_of_mem_encodeChar hoctet

/-- The octets of ASCII are its code points. -/
theorem encode_ascii {text : List Char} (h : ∀ c ∈ text, c.toNat < 0x80) : encode text = text.map Char.toNat := by
  induction text with
  | nil => rfl
  | cons c rest ih =>
    have hc : encodeChar c = [c.toNat] := if_pos (h c List.mem_cons_self)
    rw [encode, List.flatMap_cons, ← encode, hc, ih fun other hm => h other (List.mem_cons_of_mem c hm)]
    rfl

end Text.Utf8

namespace Url

open Text

/-- The octet of a character of ASCII. -/
theorem toNat_ofNat {octet : Nat} (h : octet < 0x80) : (Char.ofNat octet).toNat = octet := by
  revert octet
  decide

theorem upperHex_plain {n : Nat} (h : n < 16) : (upperHex n).toNat < 0x80 ∧ upperHex n ∉ ['/', '?', '#'] := by
  revert n
  decide

theorem digit?_upperHex {n : Nat} (h : n < 16) : Hex.digit? (upperHex n) = some n := by
  revert n
  decide

theorem percentDecode_cons {octet : Nat} (h : octet ≠ 0x25) (rest : Utf8.Octets) :
    percentDecode (octet :: rest) = octet :: percentDecode rest := by
  rw [percentDecode]
  rintro _ _ _ rfl
  exact absurd rfl h

theorem percentDecode_escape {octet : Nat} (h : octet < 0x100) (rest : Utf8.Octets) :
    percentDecode ((percentEscape octet).map Char.toNat ++ rest) = octet :: percentDecode rest := by
  change percentDecode (0x25 :: (upperHex (octet / 16)).toNat :: (upperHex (octet % 16)).toNat :: rest) = _
  rw [percentDecode, Char.ofNat_toNat, Char.ofNat_toNat,
    Hex.number?_pair (digit?_upperHex (by omega)) (digit?_upperHex (by omega))]

/-- Octets that may stand for themselves in a part of a path: they are of ASCII, begin no escape, and do not end the
part. -/
def KeepsParts (plain : Nat → Bool) : Prop :=
  ∀ octet, plain octet = true → octet < 0x80 ∧ Char.ofNat octet ∉ ['%', '/', '?', '#']

section

variable {plain : Nat → Bool} {octet : Nat} {text : List Char}

theorem mem_escapeUnless {c : Char} (h : c ∈ escapeUnless plain text) :
    (∃ octet, plain octet = true ∧ c = Char.ofNat octet) ∨ ∃ octet < 0x100, c ∈ percentEscape octet := by
  obtain ⟨octet, hoctet, hc⟩ := List.mem_flatMap.mp h
  split at hc
  · exact .inl ⟨octet, ‹_›, List.mem_singleton.mp hc⟩
  · exact .inr ⟨octet, Utf8.lt_of_mem_encode hoctet, hc⟩

theorem percentEscape_plain (h : octet < 0x100) {c : Char} (hc : c ∈ percentEscape octet) :
    c.toNat < 0x80 ∧ c ∉ ['/', '?', '#'] := by
  simp only [percentEscape, List.mem_cons, List.not_mem_nil, or_false] at hc
  rcases hc with rfl | rfl | rfl
  · decide
  · exact upperHex_plain (by omega)
  · exact upperHex_plain (by omega)

theorem percentDecode_escaped (hplain : KeepsParts plain) {octets : Utf8.Octets} (h : ∀ octet ∈ octets, octet < 0x100) :
    percentDecode (octets.flatMap fun octet =>
      (if plain octet then [Char.ofNat octet] else percentEscape octet).map Char.toNat) = octets := by
  induction octets with
  | nil => rfl
  | cons octet rest ih =>
    have hrest := ih fun other hm => h other (List.mem_cons_of_mem octet hm)
    rw [List.flatMap_cons]
    split
    · rename_i hkept
      obtain ⟨hascii, hmarks⟩ := hplain octet hkept
      have hne : octet ≠ 0x25 := by
        rintro rfl
        exact hmarks List.mem_cons_self
      rw [List.map_singleton, List.singleton_append, toNat_ofNat hascii, percentDecode_cons hne, hrest]
    · rw [percentDecode_escape (h octet List.mem_cons_self), hrest]

/-- An escaped text reads as the text. -/
theorem segmentText?_escapeUnless (hplain : KeepsParts plain) (text : List Char) :
    segmentText? (escapeUnless plain text) = some (String.ofList text) := by
  have hascii : ∀ c ∈ escapeUnless plain text, c.toNat < 0x80 := by
    intro c hc
    rcases mem_escapeUnless hc with ⟨octet, hkept, rfl⟩ | ⟨octet, hoctet, hc⟩
    · rw [toNat_ofNat (hplain octet hkept).1]
      exact (hplain octet hkept).1
    · exact (percentEscape_plain hoctet hc).1
  rw [segmentText?, Utf8.encode_ascii hascii, escapeUnless, List.map_flatMap,
    percentDecode_escaped hplain fun _ => Utf8.lt_of_mem_encode, Utf8.decode?_encode, Option.map_some]

end

/-- What is written for a text between the slashes of a path: it reads as the text, and no mark ends it before. -/
structure Spells (raw : List Char) (text : String) : Prop where
  reads : segmentText? raw = some text
  noSlash : '/' ∉ raw
  noQuery : '?' ∉ raw
  noFragment : '#' ∉ raw

instance (raw : List Char) (text : String) : Decidable (Spells raw text) :=
  decidable_of_iff (segmentText? raw = some text ∧ '/' ∉ raw ∧ '?' ∉ raw ∧ '#' ∉ raw)
    ⟨fun ⟨reads, slash, query, fragment⟩ => ⟨reads, slash, query, fragment⟩,
      fun h => ⟨h.reads, h.noSlash, h.noQuery, h.noFragment⟩⟩

theorem not_mem_escapeUnless {plain : Nat → Bool} (hplain : KeepsParts plain) {mark : Char} (h : mark ∈ ['/', '?', '#'])
    (text : List Char) : mark ∉ escapeUnless plain text := by
  intro hm
  rcases mem_escapeUnless hm with ⟨octet, hkept, rfl⟩ | ⟨octet, hoctet, hm⟩
  · exact (hplain octet hkept).2 (List.mem_cons_of_mem '%' h)
  · exact (percentEscape_plain hoctet hm).2 h

theorem spells_escapeUnless {plain : Nat → Bool} (hplain : KeepsParts plain) (text : String) :
    Spells (escapeUnless plain text.toList) text where
  reads := by rw [segmentText?_escapeUnless hplain, String.ofList_toList]
  noSlash := not_mem_escapeUnless hplain (by decide) text.toList
  noQuery := not_mem_escapeUnless hplain (by decide) text.toList
  noFragment := not_mem_escapeUnless hplain (by decide) text.toList

end Url

end RowStore
