import Wordbook.Encoding
import Wordbook.Text.Field

/-!
# Writing text in UTF-8 and reading it back

`Utf8.encode` writes each character in its shortest form, and strict decoding reads every such
form back: `decodeChars_encodeChars`, one character at a time through
`decodeChars_encodeChar_append`, with one lemma per length of form (one to four bytes), where
the lead byte and the ranges of the continuation bytes are checked against the code point.

The only character whose form starts with the UTF-8 byte-order mark EF BB BF is U+FEFF itself
(`eq_bom_of_isPrefixOf`). So a text that does not start with U+FEFF, written in UTF-8, is read
by the first encoding `detect` tries, `utf-8-sig`, as exactly that text (`detect_encode`).
-/

set_option autoImplicit false

namespace Wordbook.Encoding.Utf8

/-- A character's code point is below the surrogates, or above them and at most U+10FFFF. -/
theorem toNat_isValid (c : Char) :
    c.toNat < 0xD800 ∨ (0xDFFF < c.toNat ∧ c.toNat < 0x110000) := by
  have h := c.valid
  simp only [UInt32.isValidChar, Nat.isValidChar] at h
  exact h

@[simp] theorem toNat_toUInt8 (n : Nat) : n.toUInt8.toNat = n % 256 := by
  simp [Nat.toUInt8_eq, UInt8.toNat_ofNat']

theorem ofNat_eq_of_toNat (c : Char) {m : Nat} (h : m = c.toNat) : Char.ofNat m = c := by
  rw [h, Char.ofNat_toNat]

/-! ## One character, by the length of its form -/

section Forms

variable (c : Char) (rest : List UInt8)

theorem decodeChars_one (h : c.toNat < 0x80) :
    decodeChars (c.toNat.toUInt8 :: rest) = (decodeChars rest).map (c :: ·) := by
  rw [decodeChars.eq_def]
  dsimp only
  rw [if_pos (by simp [UInt8.lt_iff_toNat_lt]; omega), ofNat_eq_of_toNat c (by simp; omega)]

theorem decodeChars_two (h1 : 0x80 ≤ c.toNat) (h2 : c.toNat < 0x800) :
    decodeChars ((0xC0 + c.toNat / 64).toUInt8 :: (0x80 + c.toNat % 64).toUInt8 :: rest) =
      (decodeChars rest).map (c :: ·) := by
  rw [decodeChars.eq_def]
  dsimp only
  rw [if_neg (by simp [UInt8.lt_iff_toNat_lt]; omega),
    if_pos (by simp [UInt8.le_iff_toNat_le]; omega),
    if_pos (by simp [isTrail, UInt8.le_iff_toNat_le]; omega),
    ofNat_eq_of_toNat c (by simp [low6]; omega)]

theorem decodeChars_three (h1 : 0x800 ≤ c.toNat) (h2 : c.toNat < 0x10000) :
    decodeChars ((0xE0 + c.toNat / 4096).toUInt8 :: (0x80 + c.toNat / 64 % 64).toUInt8 ::
      (0x80 + c.toNat % 64).toUInt8 :: rest) = (decodeChars rest).map (c :: ·) := by
  have hv := toNat_isValid c
  -- the lead bytes E0 and ED narrow the first continuation byte: no overlong form, no surrogate
  have hsecond : (secondOfThree (0xE0 + c.toNat / 4096).toUInt8
      (0x80 + c.toNat / 64 % 64).toUInt8 && isTrail (0x80 + c.toNat % 64).toUInt8) = true := by
    simp only [secondOfThree, isTrail, Bool.and_eq_true, decide_eq_true_eq]
    simp [UInt8.le_iff_toNat_le, ← UInt8.toNat_inj]
    refine ⟨?_, by omega, by omega⟩
    split
    · omega
    · split <;> omega
  rw [decodeChars.eq_def]
  dsimp only
  rw [if_neg (by simp [UInt8.lt_iff_toNat_lt]; omega),
    if_neg (by simp [UInt8.le_iff_toNat_le]; omega),
    if_pos (by simp [UInt8.le_iff_toNat_le]; omega), if_pos hsecond,
    ofNat_eq_of_toNat c (by simp [low6]; omega)]

theorem decodeChars_four (h1 : 0x10000 ≤ c.toNat) :
    decodeChars ((0xF0 + c.toNat / 262144).toUInt8 :: (0x80 + c.toNat / 4096 % 64).toUInt8 ::
      (0x80 + c.toNat / 64 % 64).toUInt8 :: (0x80 + c.toNat % 64).toUInt8 :: rest) =
      (decodeChars rest).map (c :: ·) := by
  have hv := toNat_isValid c
  -- the lead bytes F0 and F4 narrow the first continuation byte: no overlong form, no code
  -- point past U+10FFFF
  have hsecond : secondOfFour (0xF0 + c.toNat / 262144).toUInt8
      (0x80 + c.toNat / 4096 % 64).toUInt8 = true := by
    simp only [secondOfFour, isTrail]
    simp [UInt8.le_iff_toNat_le, ← UInt8.toNat_inj]
    split
    · omega
    · split <;> omega
  rw [decodeChars.eq_def]
  dsimp only
  rw [if_neg (by simp [UInt8.lt_iff_toNat_lt]; omega),
    if_neg (by simp [UInt8.le_iff_toNat_le]; omega),
    if_neg (by simp [UInt8.le_iff_toNat_le]; omega),
    if_pos ⟨by simp [UInt8.le_iff_toNat_le]; omega, by simp [UInt8.le_iff_toNat_le]; omega,
      hsecond, by simp [isTrail, UInt8.le_iff_toNat_le]; omega,
      by simp [isTrail, UInt8.le_iff_toNat_le]; omega⟩,
    ofNat_eq_of_toNat c (by simp [low6]; omega)]

/-- Strict decoding reads a character's shortest form back, whatever follows it. -/
theorem decodeChars_encodeChar_append :
    decodeChars (encodeChar c ++ rest) = (decodeChars rest).map (c :: ·) := by
  unfold encodeChar
  dsimp only
  by_cases h1 : c.toNat < 0x80
  · rw [if_pos h1]
    exact decodeChars_one c rest h1
  by_cases h2 : c.toNat < 0x800
  · rw [if_neg h1, if_pos h2]
    exact decodeChars_two c rest (by omega) h2
  by_cases h3 : c.toNat < 0x10000
  · rw [if_neg h1, if_neg h2, if_pos h3]
    exact decodeChars_three c rest (by omega) h3
  · rw [if_neg h1, if_neg h2, if_neg h3]
    exact decodeChars_four c rest (by omega)

/-- Of all characters, only U+FEFF has a form that starts with the byte-order mark. -/
theorem eq_bom_of_isPrefixOf (h : bomBytes.isPrefixOf (encodeChar c ++ rest) = true) :
    c = Text.bom := by
  unfold encodeChar at h
  dsimp only at h
  by_cases h1 : c.toNat < 0x80
  · rw [if_pos h1] at h
    simp [bomBytes, List.isPrefixOf, ← UInt8.toNat_inj] at h
    omega
  by_cases h2 : c.toNat < 0x800
  · rw [if_neg h1, if_pos h2] at h
    simp [bomBytes, List.isPrefixOf, ← UInt8.toNat_inj] at h
    omega
  by_cases h3 : c.toNat < 0x10000
  · rw [if_neg h1, if_neg h2, if_pos h3] at h
    simp [bomBytes, List.isPrefixOf, ← UInt8.toNat_inj] at h
    -- EF BB BF spells the bits of U+FEFF and of nothing else
    have hc : c.toNat = Text.bom.toNat := by
      obtain ⟨ha, hb, hc⟩ := h
      show c.toNat = 0xFEFF
      omega
    exact Char.toNat_inj.1 hc
  · rw [if_neg h1, if_neg h2, if_neg h3] at h
    have hv := toNat_isValid c
    simp [bomBytes, List.isPrefixOf, ← UInt8.toNat_inj] at h
    omega

end Forms

/-! ## Whole texts -/

theorem decodeChars_encodeChars (cs : List Char) : decodeChars (encodeChars cs) = some cs := by
  induction cs with
  | nil => rfl
  | cons c rest ih =>
    rw [encodeChars, List.flatMap_cons, ← encodeChars, decodeChars_encodeChar_append, ih]
    rfl

theorem decode?_encode (s : String) : decode? (encode s) = some s := by
  simp [decode?, encode, decodeChars_encodeChars]

/-- A text that does not start with U+FEFF is not written starting with the byte-order mark. -/
theorem not_isPrefixOf_encode {s : String} (h : s.toList.head? ≠ some Text.bom) :
    bomBytes.isPrefixOf (encode s) = false := by
  rw [Bool.eq_false_iff]
  intro hpre
  cases hs : s.toList with
  | nil =>
    rw [encode, hs] at hpre
    cases hpre
  | cons c rest =>
    rw [encode, hs, encodeChars, List.flatMap_cons] at hpre
    rw [hs, List.head?_cons, eq_bom_of_isPrefixOf c _ hpre] at h
    exact h rfl

end Wordbook.Encoding.Utf8

namespace Wordbook

open Encoding

/-- A text that does not start with U+FEFF, written in UTF-8, is read back whole by the first
encoding tried, `utf-8-sig`. -/
theorem detect_encode {s : String} (h : s.toList.head? ≠ some Text.bom) :
    detect (Utf8.encode s) = .ok ⟨.utf8Sig, s⟩ := by
  have hafter : TextEncoding.afterPrefix? Utf8.bomBytes (Utf8.encode s) = none := by
    rw [TextEncoding.afterPrefix?, Utf8.not_isPrefixOf_encode h]
    rfl
  simp only [detect, TextEncoding.order, detectAmong, TextEncoding.decode?, hafter,
    Option.getD_none, Utf8.decode?_encode]

end Wordbook
