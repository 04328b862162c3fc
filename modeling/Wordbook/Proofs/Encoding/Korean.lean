import Wordbook.Proofs.Encoding.Detect

/-!
# Reading legacy Korean files

The Korean code page is the last encoding `detect` tries. This module shows what that means for
a file written in it.

* **The code page reads back what it writes** (`Korean.decode?_encode?`). The table holds 125
  rows of 190 pointers (`pointerTable_size`), so every pointer the encoder finds has a lead byte
  0x81 to 0xFD and a trail byte 0x41 to 0xFE, and decoding that pair looks up the same pointer.
* **A Korean file is read as Korean exactly when UTF-16 refuses it**
  (`detect_korean_iff_utf16_refuses`). The UTF-16 attempt comes before the code page and, with
  no byte-order mark, reads any even number of bytes without a lone surrogate. So bytes that
  are not UTF-8 reach the code page only if they are not UTF-16 either, as when their number is
  odd (`TextEncoding.decode?_utf16_of_odd`).
* **Not every Korean file is read as Korean** (`korean_text_read_as_utf16`): `갂` is written
  81 41, which is not UTF-8, and UTF-16 reads it as the single character U+4181.
-/

set_option autoImplicit false

namespace Wordbook.Encoding

/-! ## UTF-16 refuses an odd number of bytes -/

namespace Utf16

theorem decodeChars_of_odd (order : Order) {bytes : List UInt8} (h : bytes.length % 2 = 1) :
    decodeChars order bytes = none := by
  -- every branch that reads on drops an even number of bytes, so the last one is left alone
  fun_induction decodeChars order bytes with
  | case1 => simp at h
  | case2 => rfl
  | case3 a b c d rest' u v hhigh hlow ih =>
    -- a surrogate pair: four bytes read
    simp only [List.length_cons] at h
    rw [ih (by omega)]
    rfl
  | case4 => rfl
  | case5 => rfl
  | case6 => rfl
  | case7 a b rest u hhigh hlow ih =>
    -- one code unit: two bytes read
    simp only [List.length_cons] at h
    rw [ih (by omega)]
    rfl

end Utf16

/-! ## The Korean code page -/

namespace Korean

theorem length_rowEntries (row : Nat) : (rowEntries row).length = 190 := by
  simp [rowEntries]

theorem rows_length : KoreanTable.rows.length = 125 := rfl

/-- The table has 125 rows of 190 pointers: the lead bytes 0x81 to 0xFD. -/
theorem pointerTable_size : pointerTable.size = 23750 := by
  simp [pointerTable, List.length_flatMap, length_rowEntries, List.map_const', rows_length]

/-- A pointer names a character when its table entry is a code point other than `0`.

This is the one place the lookup is opened; the kernel evaluates the table's size on the way,
so every other statement about `charAt?` goes through this one. -/
theorem charAt?_eq_some_iff {p : Nat} {c : Char} :
    charAt? p = some c ↔ ∃ n, pointerTable[p]? = some n ∧ n ≠ 0 ∧ Char.ofNat n = c := by
  unfold charAt?
  cases hget : pointerTable[p]? with
  | none => simp
  | some n => by_cases hn : n = 0 <;> simp [hn]

/-- A pointer that names a character is a pointer of the table. -/
theorem lt_size_of_charAt? {p : Nat} {c : Char} (h : charAt? p = some c) :
    p < pointerTable.size := by
  obtain ⟨n, hn, -, -⟩ := charAt?_eq_some_iff.1 h
  exact (Array.getElem?_eq_some_iff.1 hn).1

/-- The pointer the encoder finds names the character, and is a pointer of the table. -/
theorem charAt?_of_pointerOf? {c : Char} {p : Nat} (h : pointerOf? c = some p) :
    charAt? p = some c ∧ p < pointerTable.size := by
  have hmatch := List.find?_some h
  have hmem := List.mem_of_find?_eq_some h
  exact ⟨by simpa using hmatch, List.mem_range.1 hmem⟩

/-- A character the first pointer names is found at that pointer. -/
theorem pointerOf?_of_charAt?_zero {c : Char} (h : charAt? 0 = some c) : pointerOf? c = some 0 := by
  have hsize : 0 < pointerTable.size := lt_size_of_charAt? h
  obtain ⟨n, hn⟩ := Nat.exists_eq_add_one_of_ne_zero (Nat.pos_iff_ne_zero.1 hsize)
  rw [pointerOf?, hn, List.range_succ_eq_map, List.find?_cons_of_pos]
  simp [h]

theorem decodeChars_cons_of_lt {b : UInt8} (hb : b < 0x80) (rest : List UInt8) :
    decodeChars (b :: rest) = (decodeChars rest).map (Char.ofNat b.toNat :: ·) := by
  rw [decodeChars.eq_def]
  dsimp only
  rw [if_pos hb]

/-- A character's bytes decode back to it, whatever follows them. -/
theorem decodeChars_encodeChar?_append {c : Char} {bs : List UInt8} (h : encodeChar? c = some bs)
    (rest : List UInt8) : decodeChars (bs ++ rest) = (decodeChars rest).map (c :: ·) := by
  unfold encodeChar? at h
  split at h
  · -- a character below 0x80 is its own byte
    next hascii =>
    cases h
    have hb : (c.toNat.toUInt8 : UInt8) < 0x80 := by
      simp [UInt8.lt_iff_toNat_lt]
      omega
    rw [List.singleton_append, decodeChars_cons_of_lt hb, Utf8.toNat_toUInt8,
      Nat.mod_eq_of_lt (by omega), Char.ofNat_toNat]
  · -- any other character is the lead and trail byte of its first pointer
    obtain ⟨p, hp, rfl⟩ := Option.map_eq_some_iff.1 h
    obtain ⟨hchar, hlt⟩ := charAt?_of_pointerOf? hp
    rw [pointerTable_size] at hlt
    have hlead : ((p / 190 + 0x81).toUInt8 : UInt8).toNat = p / 190 + 0x81 := by
      rw [Utf8.toNat_toUInt8, Nat.mod_eq_of_lt (by omega)]
    have htrail : ((p % 190 + 0x41).toUInt8 : UInt8).toNat = p % 190 + 0x41 := by
      rw [Utf8.toNat_toUInt8, Nat.mod_eq_of_lt (by omega)]
    have hnotAscii : ¬ ((p / 190 + 0x81).toUInt8 : UInt8) < 0x80 := by
      rw [UInt8.lt_iff_toNat_lt, hlead]
      simp
    have hleadRange : (0x81 : UInt8) ≤ (p / 190 + 0x81).toUInt8 ∧
        (p / 190 + 0x81).toUInt8 ≤ (0xFE : UInt8) := by
      rw [UInt8.le_iff_toNat_le, UInt8.le_iff_toNat_le, hlead]
      exact ⟨by simp, by simp; omega⟩
    -- the pair's pointer is the one the encoder found
    have hpointer : pointer? (p / 190 + 0x81).toUInt8 (p % 190 + 0x41).toUInt8 = some p := by
      have hrange : (0x41 : UInt8) ≤ (p % 190 + 0x41).toUInt8 ∧
          (p % 190 + 0x41).toUInt8 ≤ (0xFE : UInt8) := by
        rw [UInt8.le_iff_toNat_le, UInt8.le_iff_toNat_le, htrail]
        exact ⟨by simp, by simp; omega⟩
      have hsum : (p / 190 + 0x81 - 0x81) * 190 + (p % 190 + 0x41 - 0x41) = p := by omega
      rw [pointer?, if_pos hrange, hlead, htrail, hsum]
    have hbind : (pointer? (p / 190 + 0x81).toUInt8 (p % 190 + 0x41).toUInt8 >>= charAt?) =
        some c := by
      rw [hpointer, Option.bind_eq_bind, Option.bind_some, hchar]
    rw [List.cons_append, List.cons_append, List.nil_append, decodeChars.eq_2, if_neg hnotAscii,
      if_pos hleadRange, hbind]

/-- The bytes of characters the code page can write decode back to those characters. -/
theorem decodeChars_flatten {cs : List Char} {bss : List (List UInt8)}
    (h : cs.mapM encodeChar? = some bss) : decodeChars bss.flatten = some cs := by
  induction cs generalizing bss with
  | nil =>
    simp only [List.mapM_nil, pure, Option.some.injEq] at h
    subst h
    rfl
  | cons c cs ih =>
    simp only [List.mapM_cons, bind, pure, Option.bind_eq_some_iff, Option.some.injEq] at h
    obtain ⟨bs, hc, bss', hcs, rfl⟩ := h
    rw [List.flatten_cons, decodeChars_encodeChar?_append hc, ih hcs]
    rfl

/-- The code page reads back every text it can write. -/
theorem decode?_encode? {s : String} {bytes : List UInt8} (h : encode? s = some bytes) :
    decode? bytes = some s := by
  obtain ⟨bss, hbss, rfl⟩ := Option.map_eq_some_iff.1 h
  rw [decode?, decodeChars_flatten hbss, Option.map_some, String.ofList_toList]

theorem pointerTable_zero : pointerTable[0]? = some 0xAC02 := by
  rw [pointerTable, List.getElem?_toArray]
  rfl

theorem charAt?_zero : charAt? 0 = some '갂' :=
  charAt?_eq_some_iff.2 ⟨0xAC02, pointerTable_zero, by decide, by decide⟩

theorem encodeChar?_first_syllable : encodeChar? '갂' = some [0x81, 0x41] := by
  rw [encodeChar?, if_neg (by decide), pointerOf?_of_charAt?_zero charAt?_zero]
  rfl

end Korean

end Wordbook.Encoding

namespace Wordbook

open Encoding

/-! ## What `detect` makes of Korean bytes -/

namespace TextEncoding

/-- The UTF-16 attempt refuses an odd number of bytes: a byte-order mark takes two of them and
leaves an odd number. -/
theorem decode?_utf16_of_odd {bytes : List UInt8} (h : bytes.length % 2 = 1) :
    decode? .utf16 bytes = none := by
  have hbody : ∀ order : Utf16.Order, ∀ body : List UInt8,
      bytes = Utf16.bomBytes order ++ body → body.length % 2 = 1 := by
    intro order body hbytes
    cases order <;> simp [hbytes, Utf16.bomBytes] at h <;> omega
  simp only [decode?]
  split
  · next body hlittle =>
    simp [Utf16.decode?, Utf16.decodeChars_of_odd _ (hbody .little body
      (afterPrefix?_eq_some.1 hlittle))]
  · split
    · next body hbig =>
      simp [Utf16.decode?, Utf16.decodeChars_of_odd _ (hbody .big body
        (afterPrefix?_eq_some.1 hbig))]
    · simp [Utf16.decode?, Utf16.decodeChars_of_odd _ h]

end TextEncoding

/-- When the UTF-8 attempts and the UTF-16 one fail and the code page reads the bytes, `detect`
answers `cp949`. -/
theorem detect_of_cp949 {bytes : List UInt8} {text : String}
    (hsig : TextEncoding.decode? .utf8Sig bytes = none)
    (h16 : TextEncoding.decode? .utf16 bytes = none)
    (hkorean : TextEncoding.decode? .cp949 bytes = some text) :
    detect bytes = .ok ⟨.cp949, text⟩ := by
  simp only [detect, TextEncoding.order, detectAmong, hsig,
    TextEncoding.decode?_utf8_of_utf8Sig hsig, h16, hkorean]

/-- A text the Korean code page writes, in bytes that are not UTF-8 with or without the mark, is
read back as that text in the code page exactly when the UTF-16 attempt before it refuses the
bytes; in particular whenever their number is odd. When the UTF-16 attempt reads the bytes,
`detect` answers `utf-16` with that reading. -/
theorem detect_korean_iff_utf16_refuses (s : String) (bytes : List UInt8)
    (henc : Korean.encode? s = some bytes) (hsig : TextEncoding.decode? .utf8Sig bytes = none) :
    (detect bytes = .ok ⟨.cp949, s⟩ ↔ TextEncoding.decode? .utf16 bytes = none) ∧
      (bytes.length % 2 = 1 → detect bytes = .ok ⟨.cp949, s⟩) ∧
      ∀ text, TextEncoding.decode? .utf16 bytes = some text → detect bytes = .ok ⟨.utf16, text⟩ := by
  have hkorean : TextEncoding.decode? .cp949 bytes = some s := Korean.decode?_encode? henc
  have hplain := TextEncoding.decode?_utf8_of_utf8Sig hsig
  have hiff : detect bytes = .ok ⟨.cp949, s⟩ ↔ TextEncoding.decode? .utf16 bytes = none := by
    cases h16 : TextEncoding.decode? .utf16 bytes with
    | some text =>
      -- UTF-16 reads the bytes first
      rw [detect_of_utf16 hsig hplain h16]
      simp
    | none => simp [detect_of_cp949 hsig h16 hkorean]
  exact ⟨hiff, fun hodd => hiff.2 (TextEncoding.decode?_utf16_of_odd hodd),
    fun _ h16 => detect_of_utf16 hsig hplain h16⟩

/-- `갂x`, as the test of the fallback writes it: the odd byte makes UTF-16 refuse, and the code
page reads the text. -/
theorem detect_korean_odd_bytes :
    Korean.encode? "갂x" = some [0x81, 0x41, 0x78] ∧
      TextEncoding.decode? .utf8Sig [0x81, 0x41, 0x78] = none ∧
      ((detect [0x81, 0x41, 0x78] = .ok ⟨.cp949, "갂x"⟩ ↔
          TextEncoding.decode? .utf16 [0x81, 0x41, 0x78] = none) ∧
        ([0x81, 0x41, 0x78].length % 2 = 1 → detect [0x81, 0x41, 0x78] = .ok ⟨.cp949, "갂x"⟩) ∧
        ∀ text, TextEncoding.decode? .utf16 [0x81, 0x41, 0x78] = some text →
          detect [0x81, 0x41, 0x78] = .ok ⟨.utf16, text⟩) := by
  have henc : Korean.encode? "갂x" = some [0x81, 0x41, 0x78] := by
    rw [Korean.encode?, show ("갂x" : String).toList = ['갂', 'x'] by rfl]
    simp only [List.mapM_cons, List.mapM_nil, Korean.encodeChar?_first_syllable]
    rfl
  have hsig : TextEncoding.decode? .utf8Sig [0x81, 0x41, 0x78] = none := by decide
  exact ⟨henc, hsig, detect_korean_iff_utf16_refuses "갂x" _ henc hsig⟩

/-- Not every text the Korean code page writes, in bytes that are not UTF-8, is read back in the
code page: `갂` is written 81 41, and the UTF-16 attempt reads those two bytes as U+4181. -/
theorem korean_text_read_as_utf16 :
    ¬ ∀ (s : String) (bytes : List UInt8), Korean.encode? s = some bytes →
      TextEncoding.decode? .utf8Sig bytes = none → detect bytes = .ok ⟨.cp949, s⟩ := by
  intro hcp949
  have henc : Korean.encode? "갂" = some [0x81, 0x41] := by
    rw [Korean.encode?, show ("갂" : String).toList = ['갂'] by rfl]
    simp only [List.mapM_cons, List.mapM_nil, Korean.encodeChar?_first_syllable]
    rfl
  have hsig : TextEncoding.decode? .utf8Sig [0x81, 0x41] = none := by decide
  have hdetect : detect [0x81, 0x41] = .ok ⟨.utf16, "䆁"⟩ := by rfl
  have := hcp949 "갂" [0x81, 0x41] henc hsig
  rw [hdetect] at this
  simp at this

end Wordbook
