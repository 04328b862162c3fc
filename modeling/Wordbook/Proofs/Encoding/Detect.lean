import Wordbook.Proofs.Encoding.RoundTrip

/-!
# Which encoding reads a written file

A dictionary file can be written in UTF-8 with or without the mark EF BB BF, or in UTF-16 after
the mark of its byte order, FF FE or FE FF. This module shows that `detect` reads each of these
back as the text written, and names the encoding that wrote it:

* `detect_utf8`: plain UTF-8 is read by `utf-8-sig`, which drops one leading U+FEFF, since the
  form of U+FEFF is exactly the mark;
* `detect_utf8Bom`: after the mark, `utf-8-sig` reads the text whole, a U+FEFF that follows the
  mark included;
* `detect_utf16`: after either UTF-16 mark the first two attempts fail, since FF and FE start no
  UTF-8 form, and `utf-16` reads the text in the order the mark names.

`detect` never answers `utf-8` (`detect_encoding_ne_utf8`): whatever the plain attempt reads,
the attempt before it reads too (`decode?_utf8Sig_of_utf8`), since dropping the mark in front of
strict UTF-8 leaves strict UTF-8.

UTF-16 is read back one character at a time (`Utf16.decodeChars_encodeChar_append`): a
character below U+10000 is one code unit outside the surrogates, any other a high and a low
surrogate whose bits give back its code point.
-/

set_option autoImplicit false

namespace Wordbook.Encoding

/-! ## UTF-16 round trip -/

namespace Utf16

/-- The two bytes of a code unit read back as that unit. -/
theorem unitBytes_eq (order : Order) {n : Nat} (h : n < 0x10000) :
    ∃ a b, unitBytes order n = [a, b] ∧ unit order a b = n := by
  cases order with
  | little => exact ⟨_, _, rfl, by simp [unit]; omega⟩
  | big => exact ⟨_, _, rfl, by simp [unit]; omega⟩

section Forms

variable (order : Order) (c : Char) (rest : List UInt8)

/-- A character below U+10000 is one code unit, outside the surrogates, read back as itself. -/
theorem decodeChars_unit (h : c.toNat < 0x10000) :
    decodeChars order (unitBytes order c.toNat ++ rest) = (decodeChars order rest).map (c :: ·) := by
  obtain ⟨a, b, hab, hu⟩ := unitBytes_eq order h
  have hv := Utf8.toNat_isValid c
  rw [hab, List.cons_append, List.cons_append, List.nil_append, decodeChars.eq_def]
  dsimp only
  rw [hu, if_neg (by simp [isHigh]; omega), if_neg (by simp [isLow]; omega),
    Utf8.ofNat_eq_of_toNat c rfl]

/-- A character above U+FFFF is a high surrogate and a low one, read back as itself. -/
theorem decodeChars_pair (h : 0x10000 ≤ c.toNat) :
    decodeChars order (unitBytes order (0xD800 + (c.toNat - 0x10000) / 0x400) ++
      unitBytes order (0xDC00 + (c.toNat - 0x10000) % 0x400) ++ rest) =
      (decodeChars order rest).map (c :: ·) := by
  have hv := Utf8.toNat_isValid c
  obtain ⟨a, b, hab, hhigh⟩ := unitBytes_eq order (n := 0xD800 + (c.toNat - 0x10000) / 0x400)
    (by omega)
  obtain ⟨a', b', hab', hlow⟩ := unitBytes_eq order (n := 0xDC00 + (c.toNat - 0x10000) % 0x400)
    (by omega)
  simp only [hab, hab', List.cons_append, List.nil_append]
  rw [decodeChars.eq_def]
  dsimp only
  rw [hhigh, hlow, if_pos (by simp [isHigh]; omega), if_pos (by simp [isLow]; omega)]
  -- the ten bits of each surrogate give back the code point
  rw [Utf8.ofNat_eq_of_toNat c (by omega)]

/-- Strict decoding reads a character's UTF-16 form back, whatever follows it. -/
theorem decodeChars_encodeChar_append :
    decodeChars order (encodeChar order c ++ rest) = (decodeChars order rest).map (c :: ·) := by
  unfold encodeChar
  dsimp only
  by_cases h : c.toNat < 0x10000
  · rw [if_pos h]
    exact decodeChars_unit order c rest h
  · rw [if_neg h]
    exact decodeChars_pair order c rest (by omega)

end Forms

theorem decodeChars_flatMap_encodeChar (order : Order) (cs : List Char) :
    decodeChars order (cs.flatMap (encodeChar order)) = some cs := by
  induction cs with
  | nil => simp [decodeChars]
  | cons c rest ih =>
    rw [List.flatMap_cons, decodeChars_encodeChar_append, ih]
    rfl

theorem decode?_encode (order : Order) (s : String) : decode? order (encode order s) = some s := by
  simp [decode?, encode, decodeChars_flatMap_encodeChar]

end Utf16

/-! ## UTF-8 lead bytes and the mark -/

namespace Utf8

/-- The form of U+FEFF is the byte-order mark. -/
theorem encodeChar_bom : encodeChar Text.bom = bomBytes := by decide

/-- No UTF-8 form starts with a byte above F4: FE and FF never start a text. -/
theorem decodeChars_cons_of_gt {b : UInt8} (h : 0xF4 < b) (rest : List UInt8) :
    decodeChars (b :: rest) = none := by
  have hb : 0xF4 < b.toNat := by simpa [UInt8.lt_iff_toNat_lt] using h
  have hascii : ¬ b < 0x80 := by simp [UInt8.lt_iff_toNat_lt]; omega
  have hDF : ¬ b ≤ 0xDF := by simp [UInt8.le_iff_toNat_le]; omega
  have hEF : ¬ b ≤ 0xEF := by simp [UInt8.le_iff_toNat_le]; omega
  have hF4 : ¬ b ≤ 0xF4 := by simp [UInt8.le_iff_toNat_le]; omega
  rw [decodeChars.eq_def]
  dsimp only
  rw [if_neg hascii]
  -- past the lead byte every branch refuses: it leads no form of two, three or four bytes
  split
  · rfl
  · rw [if_neg fun hc => hDF hc.2]
    split
    · rfl
    · rw [if_neg fun hc => hEF hc.2]
      split
      · rfl
      · rw [if_neg fun hc => hF4 hc.2.1]

/-- Strict UTF-8 after the mark reads as U+FEFF and what follows. -/
theorem decodeChars_bomBytes_append (rest : List UInt8) :
    decodeChars (bomBytes ++ rest) = (decodeChars rest).map (Text.bom :: ·) := by
  rw [← encodeChar_bom, decodeChars_encodeChar_append]

end Utf8

end Wordbook.Encoding

namespace Wordbook

open Encoding

/-! ## The attempts of `detect` -/

namespace TextEncoding

theorem afterPrefix?_eq_some {pre bytes rest : List UInt8} :
    afterPrefix? pre bytes = some rest ↔ bytes = pre ++ rest := by
  constructor
  · intro h
    unfold afterPrefix? at h
    split at h
    · rename_i hpre
      obtain ⟨rfl⟩ := h
      exact (List.prefix_iff_eq_append.1 (List.isPrefixOf_iff_prefix.1 hpre)).symm
    · cases h
  · rintro rfl
    rw [afterPrefix?, if_pos (List.isPrefixOf_iff_prefix.2 (List.prefix_append pre rest)),
      List.drop_left]

/-- Bytes whose first byte differs from the prefix's do not start with it. -/
theorem afterPrefix?_cons_of_ne {p b : UInt8} {pre rest : List UInt8} (h : p ≠ b) :
    afterPrefix? (p :: pre) (b :: rest) = none := by
  simp [afterPrefix?, List.isPrefixOf, h]

/-- What the plain UTF-8 attempt reads, the attempt that first drops the mark reads too. -/
theorem decode?_utf8Sig_of_utf8 {bytes : List UInt8} {text : String}
    (h : decode? .utf8 bytes = some text) : (decode? .utf8Sig bytes).isSome := by
  cases hp : afterPrefix? Utf8.bomBytes bytes with
  | none =>
    simp only [decode?, hp, Option.getD_none] at h ⊢
    rw [h]
    rfl
  | some body =>
    -- strict UTF-8 that starts with the mark is the mark and strict UTF-8
    obtain rfl := afterPrefix?_eq_some.1 hp
    simp only [decode?, Utf8.decode?, Utf8.decodeChars_bomBytes_append, Option.map_map] at h
    simp only [decode?, hp, Option.getD_some, Utf8.decode?, Option.isSome_map]
    cases hb : Utf8.decodeChars body with
    | none => simp [hb] at h
    | some cs => rfl

/-- Bytes the `utf-8-sig` attempt refuses are refused by the plain UTF-8 attempt too. -/
theorem decode?_utf8_of_utf8Sig {bytes : List UInt8} (hsig : decode? .utf8Sig bytes = none) :
    decode? .utf8 bytes = none := by
  cases hplain : decode? .utf8 bytes with
  | none => rfl
  | some text =>
    have := decode?_utf8Sig_of_utf8 hplain
    rw [hsig] at this
    cases this

end TextEncoding

/-- A text's UTF-8 form with the mark in front is read by `utf-8-sig` as the text, a U+FEFF
right after the mark included. -/
theorem detect_utf8Bom (s : String) :
    detect (Utf8.bomBytes ++ Utf8.encode s) = .ok ⟨.utf8Sig, s⟩ := by
  simp only [detect, TextEncoding.order, detectAmong, TextEncoding.decode?,
    TextEncoding.afterPrefix?_eq_some.2 rfl, Option.getD_some, Utf8.decode?_encode]

theorem Text.stripBomChars_of_head {cs : List Char} (h : cs.head? ≠ some Text.bom) :
    Text.stripBomChars cs = cs := by
  cases cs with
  | nil => rfl
  | cons c rest =>
    have hc : c ≠ Text.bom := fun hc => h (by rw [hc]; rfl)
    simp [Text.stripBomChars, hc]

/-- A text's UTF-8 form is read by `utf-8-sig` as the text less one leading U+FEFF. -/
theorem detect_utf8 (s : String) : detect (Utf8.encode s) = .ok ⟨.utf8Sig, Text.stripBom s⟩ := by
  by_cases hb : s.toList.head? = some Text.bom
  · -- the text starts with U+FEFF, whose form is the mark
    obtain ⟨rest, hs⟩ := List.head?_eq_some_iff.1 hb
    have hencode : Utf8.encode s = Utf8.bomBytes ++ Utf8.encode (String.ofList rest) := by
      rw [Utf8.encode, hs, Utf8.encodeChars, List.flatMap_cons, Utf8.encodeChar_bom,
        Utf8.encode, String.toList_ofList, Utf8.encodeChars]
    have hstrip : Text.stripBom s = String.ofList rest := by
      simp [Text.stripBom, hs, Text.stripBomChars]
    rw [hencode, hstrip, detect_utf8Bom]
  · rw [detect_encode hb, Text.stripBom, Text.stripBomChars_of_head hb, String.ofList_toList]

/-- Bytes that start above F4 are read by neither UTF-8 attempt. -/
theorem TextEncoding.decode?_utf8_of_gt {b : UInt8} (h : 0xF4 < b) (rest : List UInt8) :
    TextEncoding.decode? .utf8Sig (b :: rest) = none ∧
      TextEncoding.decode? .utf8 (b :: rest) = none := by
  have hne : (0xEF : UInt8) ≠ b := by
    rintro rfl
    exact absurd h (by decide)
  simp [TextEncoding.decode?, Utf8.bomBytes, TextEncoding.afterPrefix?_cons_of_ne hne,
    Utf8.decode?, Utf8.decodeChars_cons_of_gt h]

/-- When both UTF-8 attempts fail and the UTF-16 one reads the bytes, `detect` answers
`utf-16`. -/
theorem detect_of_utf16 {bytes : List UInt8} {text : String}
    (hsig : TextEncoding.decode? .utf8Sig bytes = none)
    (hplain : TextEncoding.decode? .utf8 bytes = none)
    (h16 : TextEncoding.decode? .utf16 bytes = some text) : detect bytes = .ok ⟨.utf16, text⟩ := by
  simp only [detect, TextEncoding.order, detectAmong, hsig, hplain, h16]

/-- A text's UTF-16 form after the mark of its byte order is read by `utf-16` as the text. -/
theorem detect_utf16 (order : Utf16.Order) (s : String) :
    detect (Utf16.bomBytes order ++ Utf16.encode order s) = .ok ⟨.utf16, s⟩ := by
  -- FF and FE start no UTF-8 form, so both UTF-8 attempts fail
  cases order with
  | little =>
    obtain ⟨hsig, hplain⟩ :=
      TextEncoding.decode?_utf8_of_gt (b := 0xFF) (by decide) (0xFE :: Utf16.encode .little s)
    have h16 : TextEncoding.decode? .utf16
        (Utf16.bomBytes .little ++ Utf16.encode .little s) = some s := by
      simp only [TextEncoding.decode?, TextEncoding.afterPrefix?_eq_some.2 rfl,
        Utf16.decode?_encode]
    exact detect_of_utf16 hsig hplain h16
  | big =>
    obtain ⟨hsig, hplain⟩ :=
      TextEncoding.decode?_utf8_of_gt (b := 0xFE) (by decide) (0xFF :: Utf16.encode .big s)
    -- the little-endian mark FF FE is not there, the big-endian one is
    have hlittle : TextEncoding.afterPrefix? (Utf16.bomBytes .little)
        (Utf16.bomBytes .big ++ Utf16.encode .big s) = none :=
      TextEncoding.afterPrefix?_cons_of_ne (by decide)
    have h16 : TextEncoding.decode? .utf16
        (Utf16.bomBytes .big ++ Utf16.encode .big s) = some s := by
      simp only [TextEncoding.decode?, hlittle, TextEncoding.afterPrefix?_eq_some.2 rfl,
        Utf16.decode?_encode]
    exact detect_of_utf16 hsig hplain h16

/-- `detect` never answers `utf-8`: the attempt before it reads whatever it would. -/
theorem detect_encoding_ne_utf8 {bytes : List UInt8} {decoded : Decoded}
    (h : detect bytes = .ok decoded) : decoded.encoding ≠ .utf8 := by
  unfold detect at h
  simp only [TextEncoding.order, detectAmong] at h
  cases hsig : TextEncoding.decode? .utf8Sig bytes with
  | some text =>
    rw [hsig] at h
    cases h
    simp
  | none =>
    rw [hsig, TextEncoding.decode?_utf8_of_utf8Sig hsig] at h
    -- the answer can only come from the later attempts
    dsimp only at h
    split at h
    · cases h
      simp
    · split at h
      · cases h
        simp
      · cases h

end Wordbook
