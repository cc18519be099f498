import RowStore.Text.Hex
import RowStore.Text.Utf8

/-!
# Octets of a text

The octets of a text are read as the text itself. For each length of a character, its first octet begins a sequence that
owes the others, and these are within the ranges in which they are looked for. An octet may also be written by two
hexadecimal digits.
-/

namespace RowStore

set_option autoImplicit false

namespace Text.Hex

theorem number?_zero_cons (digits : List Char) : number? ('0' :: digits) = number? digits :=
  rfl

theorem number?_pair {upper lower : Char} {octet : Nat} (hupper : digit? upper = some (octet / 16))
    (hlower : digit? lower = some (octet % 16)) : number? [upper, lower] = some octet := by
  have hoctet : 16 * (16 * 0 + octet / 16) + octet % 16 = octet := by omega
  rw [number?, List.foldlM_cons, hupper, Option.map_some, Option.bind_eq_bind, Option.bind_some, List.foldlM_cons, hlower,
    Option.map_some, Option.bind_eq_bind, Option.bind_some, hoctet]
  rfl

end Text.Hex

namespace Text.Utf8

/-- The code points of characters: no halves of a pair, and nothing above the last plane. -/
theorem toNat_range (c : Char) : c.toNat < 0xD800 ∨ 0xDFFF < c.toNat ∧ c.toNat < 0x110000 :=
  c.valid

section

variable {least greatest bits b : Nat}

/-- A pending sequence takes an octet in its range, and owes the next. -/
theorem scan_owed (owed : Nat) (rest : Octets) (hb : least ≤ b ∧ b ≤ greatest) :
    scan (some ⟨owed + 2, least, greatest, bits⟩) (b :: rest)
      = scan (some ⟨owed + 1, 0x80, 0xBF, bits * 0x40 + b % 0x40⟩) rest := by
  have howed : ¬ owed + 2 ≤ 1 := by omega
  rw [scan, if_pos hb]
  simp only [if_neg howed]
  rfl

theorem scan_last (rest : Octets) (hb : least ≤ b ∧ b ≤ greatest) :
    scan (some ⟨1, least, greatest, bits⟩) (b :: rest)
      = some (Char.ofNat (bits * 0x40 + b % 0x40)) :: scan none rest := by
  rw [scan, if_pos hb]
  rfl

end

theorem scan_two {n : Nat} (h : 0x80 ≤ n) (hlt : n < 0x800) (rest : Octets) :
    scan none ([0xC0 + n / 0x40, 0x80 + n % 0x40] ++ rest) = some (Char.ofNat n) :: scan none rest := by
  have hlead : lead (0xC0 + n / 0x40) = .pending ⟨1, 0x80, 0xBF, n / 0x40⟩ := by
    rw [lead, if_neg (by omega), if_pos (by omega), Nat.add_sub_cancel_left]
  have hbits : n / 0x40 * 0x40 + (0x80 + n % 0x40) % 0x40 = n := by omega
  simp only [List.cons_append, List.nil_append]
  rw [scan, hlead]
  dsimp only
  rw [scan_last rest (by omega), hbits]

theorem scan_three {n : Nat} (h : 0x800 ≤ n) (hlt : n < 0x10000) (hchar : n < 0xD800 ∨ 0xDFFF < n) (rest : Octets) :
    scan none ([0xE0 + n / 0x1000, 0x80 + n / 0x40 % 0x40, 0x80 + n % 0x40] ++ rest)
      = some (Char.ofNat n) :: scan none rest := by
  have hlead : lead (0xE0 + n / 0x1000) = .pending ⟨2, if 0xE0 + n / 0x1000 = 0xE0 then 0xA0 else 0x80,
      if 0xE0 + n / 0x1000 = 0xED then 0x9F else 0xBF, n / 0x1000⟩ := by
    rw [lead, if_neg (by omega), if_neg (by omega), if_pos (by omega), Nat.add_sub_cancel_left]
  have hbits : (n / 0x1000 * 0x40 + (0x80 + n / 0x40 % 0x40) % 0x40) * 0x40 + (0x80 + n % 0x40) % 0x40 = n := by omega
  simp only [List.cons_append, List.nil_append]
  rw [scan, hlead]
  dsimp only
  rw [scan_owed _ _ ⟨by split <;> omega, by split <;> omega⟩,
    scan_last rest (by omega), hbits]

theorem scan_four {n : Nat} (h : 0x10000 ≤ n) (hlt : n < 0x110000) (rest : Octets) :
    scan none ([0xF0 + n / 0x40000, 0x80 + n / 0x1000 % 0x40, 0x80 + n / 0x40 % 0x40, 0x80 + n % 0x40] ++ rest)
      = some (Char.ofNat n) :: scan none rest := by
  have hlead : lead (0xF0 + n / 0x40000) = .pending ⟨3, if 0xF0 + n / 0x40000 = 0xF0 then 0x90 else 0x80,
      if 0xF0 + n / 0x40000 = 0xF4 then 0x8F else 0xBF, n / 0x40000⟩ := by
    rw [lead, if_neg (by omega), if_neg (by omega), if_neg (by omega), if_pos (by omega), Nat.add_sub_cancel_left]
  have hbits : ((n / 0x40000 * 0x40 + (0x80 + n / 0x1000 % 0x40) % 0x40) * 0x40 + (0x80 + n / 0x40 % 0x40) % 0x40) * 0x40
      + (0x80 + n % 0x40) % 0x40 = n := by omega
  simp only [List.cons_append, List.nil_append]
  rw [scan, hlead]
  dsimp only
  rw [scan_owed _ _ ⟨by split <;> omega, by split <;> omega⟩,
    scan_owed _ _ (by omega),
    scan_last rest (by omega), hbits]

theorem scan_encodeChar (c : Char) (rest : Octets) :
    scan none (encodeChar c ++ rest) = some c :: scan none rest := by
  have hrange := toNat_range c
  unfold encodeChar
  dsimp only
  split
  · rename_i hone
    have hlead : lead c.toNat = .whole (Char.ofNat c.toNat) := by rw [lead, if_pos hone]
    rw [List.singleton_append, scan, hlead]
    dsimp only
    rw [Char.ofNat_toNat]
  · split
    · rw [scan_two (by omega) ‹_›, Char.ofNat_toNat]
    · split
      · rw [scan_three (by omega) ‹_› (by omega), Char.ofNat_toNat]
      · rw [scan_four (by omega) (by omega), Char.ofNat_toNat]

theorem scan_encode (text : List Char) : scan none (encode text) = text.map some := by
  induction text with
  | nil => rfl
  | cons c rest ih => rw [encode, List.flatMap_cons, scan_encodeChar, ← encode, ih, List.map_cons]

theorem decode?_encode (text : List Char) : decode? (encode text) = some text := by
  rw [decode?, scan_encode]
  induction text with
  | nil => rfl
  | cons c rest ih => simp [List.mapM_cons, ih]

end Text.Utf8

end RowStore
