import Wordbook.Entry.Line
import Wordbook.Entry.Render
import Wordbook.Proofs.Entry.Normal

/-!
# Reading back the lines of a written dictionary

What reading a line gives and what writing a line reads back as.

* **File lines.** A text made of lines each ended by LF, none holding a line break, splits back
  into exactly those lines (`fileLinesChars_lines`); no line of any text holds a break
  (`breaks_not_mem_fileLines`).
* **Reading.** A line without line breaks reads as a normal entry whose key holds no comma
  (`normal_of_ofLine?`): the key stands before the first comma, and each half is trimmed and
  loses its quote pair, which brings nothing back that trimming removed.
* **Writing.** The line of a normal entry whose key holds no comma reads back as that entry
  (`ofLine?_toLine`): the quotes the writer adds are exactly the ones the reader removes, a key
  that would read as a comment or lose a byte-order mark is quoted, and an empty value leaves
  the line ending at its comma. Said of a bare key and value whose trims are themselves, the
  line also holds no break and does not start with a byte-order mark
  (`written_line_reads_back`).

Together, a list of normal entries written and read back is itself exactly when no key holds a
comma (`ofLines_render_eq_iff`): a key with a comma is cut at its first comma on reading.
-/

set_option autoImplicit false

namespace Wordbook

open Text

/-! ## Lines of a text -/

section FileLines

variable {cs : List Char}

theorem unifyBreaks_of_no_cr (h : '\r' ∉ cs) : unifyBreaks cs = cs := by
  fun_induction unifyBreaks cs with
  | case1 rest ih => simp at h
  | case2 c rest _ ih =>
    have hc : c ≠ '\r' := fun heq => h (heq ▸ List.mem_cons_self)
    rw [if_neg hc, ih (fun hr => h (List.mem_cons_of_mem _ hr))]
  | case3 => rfl

theorem cr_not_mem_unifyBreaks (cs : List Char) : '\r' ∉ unifyBreaks cs := by
  fun_induction unifyBreaks cs with
  | case1 rest ih => simpa using ih
  | case2 c rest _ ih =>
    rw [List.mem_cons, not_or]
    refine ⟨?_, ih⟩
    by_cases hc : c = '\r'
    · rw [if_pos hc]
      decide
    · rw [if_neg hc]
      exact Ne.symm hc
  | case3 => simp

/-- A line followed by LF splits off as one piece. -/
theorem splitAtLf_append {l : List Char} (h : '\n' ∉ l) (rest : List Char) :
    splitAtLf (l ++ '\n' :: rest) = l :: splitAtLf rest := by
  induction l with
  | nil => simp [splitAtLf]
  | cons c l ih =>
    have hc : c ≠ '\n' := fun heq => h (heq ▸ List.mem_cons_self)
    rw [List.cons_append, splitAtLf, if_neg hc, ih (fun hl => h (List.mem_cons_of_mem _ hl))]

/-- Every piece between LFs holds no LF and only characters of the text. -/
theorem mem_splitAtLf {p : List Char} (hp : p ∈ splitAtLf cs) {x : Char} (hx : x ∈ p) :
    x ≠ '\n' ∧ x ∈ cs := by
  induction cs generalizing p with
  | nil =>
    simp only [splitAtLf, List.mem_singleton] at hp
    subst hp
    cases hx
  | cons c rest ih =>
    by_cases hc : c = '\n'
    · rw [splitAtLf, if_pos hc] at hp
      rcases List.mem_cons.1 hp with rfl | hp
      · cases hx
      · exact (ih hp hx).imp_right (List.mem_cons_of_mem _)
    · rw [splitAtLf, if_neg hc] at hp
      -- the first piece gains the character in front
      cases hs : splitAtLf rest with
      | nil =>
        rw [hs] at hp
        simp only [List.mem_singleton] at hp
        subst hp
        rw [List.mem_singleton] at hx
        subst hx
        exact ⟨hc, List.mem_cons_self⟩
      | cons piece pieces =>
        rw [hs] at hp
        rcases List.mem_cons.1 hp with rfl | hp
        · rcases List.mem_cons.1 hx with rfl | hx
          · exact ⟨hc, List.mem_cons_self⟩
          · exact (ih (hs ▸ List.mem_cons_self) hx).imp_right (List.mem_cons_of_mem _)
        · exact (ih (hs ▸ List.mem_cons_of_mem _ hp) hx).imp_right (List.mem_cons_of_mem _)

/-- No line of a text holds a line break. -/
theorem breaks_not_mem_fileLinesChars {l : List Char} (hl : l ∈ fileLinesChars cs) :
    '\r' ∉ l ∧ '\n' ∉ l := by
  have hpiece : l ∈ splitAtLf (unifyBreaks cs) := by
    unfold fileLinesChars at hl
    dsimp only at hl
    split at hl
    · exact (List.dropLast_sublist _).subset hl
    · exact hl
  exact ⟨fun hr => cr_not_mem_unifyBreaks cs (mem_splitAtLf hpiece hr).2,
    fun hn => (mem_splitAtLf hpiece hn).1 rfl⟩

theorem breaks_not_mem_fileLines {text line : String} (h : line ∈ fileLines text) :
    '\r' ∉ line.toList ∧ '\n' ∉ line.toList := by
  obtain ⟨l, hl, rfl⟩ := List.mem_map.1 h
  rw [String.toList_ofList]
  exact breaks_not_mem_fileLinesChars hl

/-- Lines without breaks, each ended by LF, are the lines of their text. -/
theorem fileLinesChars_lines (ls : List (List Char)) (h : ∀ l ∈ ls, '\r' ∉ l ∧ '\n' ∉ l) :
    fileLinesChars (ls.flatMap (· ++ ['\n'])) = ls := by
  have hpieces : splitAtLf (ls.flatMap (· ++ ['\n'])) = ls ++ [[]] := by
    induction ls with
    | nil => rfl
    | cons l rest ih =>
      rw [List.flatMap_cons, List.append_assoc, List.singleton_append,
        splitAtLf_append (h l List.mem_cons_self).2,
        ih (fun l' hl' => h l' (List.mem_cons_of_mem _ hl')), List.cons_append]
  have hcr : '\r' ∉ ls.flatMap (· ++ ['\n']) := by
    simp only [List.mem_flatMap, List.mem_append, List.mem_singleton, not_exists, not_and]
    intro l hl
    exact fun hr => hr.elim (h l hl).1 (by decide)
  unfold fileLinesChars
  rw [unifyBreaks_of_no_cr hcr, hpieces, if_pos List.getLast?_concat, List.dropLast_concat]

end FileLines

/-! ## What a line reads as -/

section Reading

variable {cs : List Char}

theorem splitAtComma_eq_some {a b : List Char} (h : splitAtComma cs = some (a, b)) :
    cs = a ++ ',' :: b ∧ ',' ∉ a := by
  induction cs generalizing a with
  | nil => cases h
  | cons c rest ih =>
    by_cases hc : c = ','
    · rw [splitAtComma, if_pos hc] at h
      cases h
      exact ⟨by rw [hc]; rfl, List.not_mem_nil⟩
    · rw [splitAtComma, if_neg hc] at h
      obtain ⟨⟨a', b'⟩, hrest, heq⟩ := Option.map_eq_some_iff.1 h
      cases heq
      obtain ⟨rfl, ha'⟩ := ih hrest
      exact ⟨rfl, by simp [Ne.symm hc, ha']⟩

theorem splitAtComma_append {a : List Char} (h : ',' ∉ a) (b : List Char) :
    splitAtComma (a ++ ',' :: b) = some (a, b) := by
  induction a with
  | nil => simp [splitAtComma]
  | cons c a ih =>
    have hc : c ≠ ',' := fun heq => h (heq ▸ List.mem_cons_self)
    rw [List.cons_append, splitAtComma, if_neg hc, ih (fun ha => h (List.mem_cons_of_mem _ ha))]
    rfl

theorem quotedInteriorChars_sublist {inner : List Char}
    (h : quotedInteriorChars cs = some inner) : inner.Sublist cs := by
  cases cs with
  | nil => cases h
  | cons q rest =>
    simp only [quotedInteriorChars] at h
    split at h
    · split at h
      · cases h
        exact (List.dropLast_sublist rest).cons q
      · cases h
    · cases h

theorem stripQuotesChars_sublist (cs : List Char) : (stripQuotesChars cs).Sublist cs := by
  unfold stripQuotesChars
  split
  · next inner h => exact (trimChars_sublist inner).trans (quotedInteriorChars_sublist h)
  · exact List.Sublist.refl cs

/-- A trimmed half that loses its quote pair is trimmed again inside it. -/
theorem trimmed_stripQuotesChars_trimChars (cs : List Char) :
    Trimmed (stripQuotesChars (trimChars cs)) := by
  unfold stripQuotesChars
  split
  · exact trimmed_trimChars _
  · exact trimmed_trimChars cs

theorem logicalLine_sublist (cs : List Char) : (logicalLine cs).Sublist cs := by
  have hbom : ∀ ds : List Char, (stripBomChars ds).Sublist ds := by
    intro ds
    cases ds with
    | nil => exact List.Sublist.refl _
    | cons c rest => by_cases hc : c = bom <;> simp [stripBomChars, hc]
  exact (trimChars_sublist _).trans ((hbom _).trans (trimChars_sublist cs))

theorem mem_unifyCommaChars {x : Char} (h : x ∈ unifyCommaChars cs) : x = ',' ∨ x ∈ cs := by
  obtain ⟨c, hc, rfl⟩ := List.mem_map.1 h
  by_cases hf : c = fullWidthComma
  · rw [if_pos hf]
    exact .inl rfl
  · rw [if_neg hf]
    exact .inr hc

/-- A field read from a line without breaks is written: trimmed, on one line, with no
full-width comma. -/
theorem written_of_sublist {field raw : List Char} (ht : Trimmed field)
    (hs : field.Sublist (unifyCommaChars raw)) (hr : '\r' ∉ raw) (hn : '\n' ∉ raw) :
    Written field := by
  refine ⟨ht, fun hx => ?_, fun hx => ?_, fun hx => ?_⟩
  · rcases mem_unifyCommaChars (hs.subset hx) with h | h
    · cases h
    · exact hr h
  · rcases mem_unifyCommaChars (hs.subset hx) with h | h
    · cases h
    · exact hn h
  · exact fullWidthComma_not_mem_unifyCommaChars raw (hs.subset hx)

/-- What a line without breaks reads as: a written key, not empty and without a comma, and a
written value. -/
theorem entryChars?_written {k v : List Char} (hr : '\r' ∉ cs) (hn : '\n' ∉ cs)
    (h : entryChars? cs = some (k, v)) : (Written k ∧ k ≠ [] ∧ ',' ∉ k) ∧ Written v := by
  have hlog := logicalLine_sublist cs
  have hr' : '\r' ∉ logicalLine cs := fun hx => hr (hlog.subset hx)
  have hn' : '\n' ∉ logicalLine cs := fun hx => hn (hlog.subset hx)
  unfold entryChars? at h
  revert hr' hn'
  generalize logicalLine cs = line at h ⊢
  intro hr' hn'
  obtain _ | ⟨c, rest⟩ := line
  · cases h
  dsimp only at h
  split at h
  · cases h
  split at h
  · cases h
  next k₀ v₀ hsplit =>
  obtain ⟨hcs, hk₀⟩ := splitAtComma_eq_some hsplit
  -- both halves are parts of the unified line
  have hks : k₀.Sublist (unifyCommaChars (c :: rest)) := by
    rw [hcs]
    exact List.sublist_append_left _ _
  have hvs : v₀.Sublist (unifyCommaChars (c :: rest)) := by
    rw [hcs]
    exact (List.sublist_cons_self ',' v₀).trans (List.sublist_append_right _ _)
  have hkey : (stripQuotesChars (trimChars k₀)).Sublist k₀ :=
    (stripQuotesChars_sublist _).trans (trimChars_sublist k₀)
  have hval : (stripQuotesChars (trimChars v₀)).Sublist v₀ :=
    (stripQuotesChars_sublist _).trans (trimChars_sublist v₀)
  split at h
  · cases h
  next key hne =>
  cases h
  refine ⟨⟨?_, ?_, ?_⟩, ?_⟩
  · exact written_of_sublist (trimmed_stripQuotesChars_trimChars k₀) (hkey.trans hks) hr' hn'
  · intro hnil
    exact hne hnil
  · exact fun hx => hk₀ (hkey.subset hx)
  · exact written_of_sublist (trimmed_stripQuotesChars_trimChars v₀) (hval.trans hvs) hr' hn'

namespace Entry

/-- A line without breaks reads as a normal entry whose key holds no comma, if at all. -/
theorem normal_of_ofLine? {line : String} {e : Entry} (hr : '\r' ∉ line.toList)
    (hn : '\n' ∉ line.toList) (h : ofLine? line = some e) : Normal e ∧ ',' ∉ e.key.toList := by
  obtain ⟨⟨k, v⟩, hkv, rfl⟩ := Option.map_eq_some_iff.1 h
  obtain ⟨⟨hk, hne, hc⟩, hv⟩ := entryChars?_written hr hn hkv
  simp only [String.toList_ofList]
  refine ⟨⟨?_, by simpa using hk, by simpa using hv⟩, hc⟩
  intro hempty
  exact hne (by simpa using congrArg String.toList hempty)

/-- Every entry read from the lines of a text is normal, with no comma in its key. -/
theorem normal_of_mem_ofLines_fileLines {text : String} {e : Entry}
    (h : e ∈ ofLines (fileLines text)) : Normal e ∧ ',' ∉ e.key.toList := by
  obtain ⟨line, hline, he⟩ := List.mem_filterMap.1 h
  obtain ⟨hr, hn⟩ := breaks_not_mem_fileLines hline
  exact normal_of_ofLine? hr hn he

end Entry

end Reading

/-! ## What a written line reads back as -/

section Writing

theorem toList_quote (s : String) : (quote s).toList = '"' :: s.toList ++ ['"'] := by
  simp [quote]

/-- A field wrapped in quotes by the writer: quoted when `b`, which holds at least when the
field is already a quote pair. -/
theorem toList_quoteIf (b : Bool) (s : String) :
    (if b then quote s else s).toList = if b then '"' :: s.toList ++ ['"'] else s.toList := by
  cases b
  · rfl
  · exact toList_quote s

theorem stripQuotesChars_quoted {f : List Char} (h : Trimmed f) :
    stripQuotesChars ('"' :: f ++ ['"']) = f := by
  have hinner : quotedInteriorChars ('"' :: f ++ ['"']) = some f := by
    simp [quotedInteriorChars, isQuoteChar]
  rw [stripQuotesChars, hinner]
  exact trimChars_of_trimmed h

theorem stripQuotesChars_quoteIf {b : Bool} {s : String} (h : Trimmed s.toList)
    (hb : isQuoted s = true → b = true) :
    stripQuotesChars (if b then quote s else s).toList = s.toList := by
  rw [toList_quoteIf]
  cases b
  · -- left bare: the field is no quote pair, so nothing is stripped
    have hq : quotedInteriorChars s.toList = none := by
      cases hi : quotedInteriorChars s.toList with
      | none => rfl
      | some inner =>
        have := hb (by simp [isQuoted, hi])
        cases this
    rw [if_neg Bool.false_ne_true, stripQuotesChars, hq]
  · rw [if_pos rfl]
    exact stripQuotesChars_quoted h

theorem trimmed_quoteIf {b : Bool} {s : String} (h : Trimmed s.toList) :
    Trimmed (if b then quote s else s).toList := by
  rw [toList_quoteIf]
  cases b
  · exact h
  · refine ⟨?_, ?_⟩
    · intro c hc
      simp only [if_pos, List.cons_append, List.head?_cons, Option.mem_def,
        Option.some.injEq] at hc
      subst hc
      exact isBlank_quote
    · intro c hc
      simp only [if_pos, List.getLast?_concat, Option.mem_def, Option.some.injEq] at hc
      subst hc
      exact isBlank_quote

theorem mem_quoteIf {b : Bool} {s : String} {x : Char} (h : x ∈ (if b then quote s else s).toList) :
    x = '"' ∨ x ∈ s.toList := by
  rw [toList_quoteIf] at h
  cases b
  · exact .inr h
  · simp only [if_pos, List.mem_cons, List.mem_append, List.not_mem_nil, or_false] at h
    rcases h with (h | h) | h
    · exact .inl h
    · exact .inr h
    · exact .inl h

/-- A written key starts with neither `#` nor a byte-order mark. -/
theorem renderKey_head {key : String} (hne : key ≠ "") :
    ∃ c rest, (renderKey key).toList = c :: rest ∧ c ≠ '#' ∧ c ≠ bom := by
  unfold renderKey
  rw [toList_quoteIf]
  by_cases hq : keyNeedsQuotes key = true
  · rw [if_pos hq]
    exact ⟨'"', _, rfl, by decide, by decide⟩
  · rw [if_neg hq]
    cases hk : key.toList with
    | nil => exact absurd (String.toList_eq_nil_iff.1 hk) hne
    | cons c rest =>
      simp only [keyNeedsQuotes, hk, Bool.or_eq_true, beq_iff_eq, not_or] at hq
      exact ⟨c, rest, rfl, hq.2.1, hq.2.2⟩

/-- After trimming, dropping a byte-order mark and trimming again, the line of a written key
and value is the key, the comma, and what trims to the value. -/
theorem logicalLine_line {rk rv : List Char} {c : Char} {rest : List Char}
    (hrk : rk = c :: rest) (hc : c ≠ bom) (htk : Trimmed rk) (htv : Trimmed rv) :
    ∃ tail, logicalLine (rk ++ ',' :: ' ' :: rv) = rk ++ ',' :: tail ∧ trimChars tail = rv ∧
      ∀ x ∈ tail, x = ' ' ∨ x ∈ rv := by
  have hhead : ∀ tail : List Char, (rk ++ tail).head? = some c := by
    intro tail
    rw [hrk]
    rfl
  have hbom : ∀ tail : List Char, stripBomChars (rk ++ tail) = rk ++ tail := by
    intro tail
    rw [hrk, List.cons_append, stripBomChars, if_neg hc]
  have hc' : isBlank c = false := htk.1 c (by rw [hrk]; rfl)
  by_cases hne : rv = []
  · -- an empty value: the space after the comma is trimmed away
    subst hne
    have hfront : dropBlanks (rk ++ [',', ' ']) = rk ++ [',', ' '] :=
      dropBlanks_of_head (by rw [hhead]; intro x hx; cases hx; exact hc')
    have htrim : trimChars (rk ++ [',', ' ']) = rk ++ [','] := by
      unfold trimChars
      rw [hfront]
      simp only [List.reverse_append, List.reverse_cons, List.reverse_nil, List.nil_append,
        List.cons_append]
      rw [dropBlanks_cons_blank isBlank_space, dropBlanks_cons_unblank isBlank_comma]
      simp
    have htrimmed : Trimmed (rk ++ [',']) :=
      ⟨by rw [hhead]; intro x hx; cases hx; exact hc', by simp⟩
    refine ⟨[], ?_, rfl, fun x hx => by cases hx⟩
    rw [logicalLine, htrim, hbom, trimChars_of_trimmed htrimmed]
  · -- a value that is not empty ends the line with a character that is not blank
    have htrimmed : Trimmed (rk ++ ',' :: ' ' :: rv) := by
      refine ⟨by rw [hhead]; intro x hx; cases hx; exact hc', ?_⟩
      have hsplit : rk ++ ',' :: ' ' :: rv = (rk ++ [',', ' ']) ++ rv := by simp
      obtain ⟨x, hx⟩ : ∃ x, rv.getLast? = some x :=
        Option.ne_none_iff_exists'.1 (mt List.getLast?_eq_none_iff.1 hne)
      rw [hsplit, List.getLast?_append, hx, Option.some_or, ← hx]
      exact htv.2
    refine ⟨' ' :: rv, ?_, ?_, fun x hx => ?_⟩
    · rw [logicalLine, trimChars_of_trimmed htrimmed, hbom, trimChars_of_trimmed htrimmed]
    · rw [trimChars_cons_blank isBlank_space, trimChars_of_trimmed htv]
    · rcases List.mem_cons.1 hx with rfl | hx
      · exact .inl rfl
      · exact .inr hx

namespace Entry

variable {e : Entry}

theorem toList_toLine (e : Entry) :
    e.toLine.toList = (renderKey e.key).toList ++ ',' :: ' ' :: (renderValue e.value).toList := by
  simp [toLine]

/-- The line of a normal entry whose key holds no comma reads back as the entry's fields. -/
theorem entryChars?_toLine (hn : Normal e) (hc : ',' ∉ e.key.toList) :
    entryChars? e.toLine.toList = some (e.key.toList, e.value.toList) := by
  obtain ⟨c, rest, hrk, hhash, hbom⟩ := renderKey_head hn.key_ne
  have htk : Trimmed (renderKey e.key).toList := trimmed_quoteIf hn.key_written.trimmed
  have htv : Trimmed (renderValue e.value).toList := trimmed_quoteIf hn.value_written.trimmed
  have hkey : stripQuotesChars (renderKey e.key).toList = e.key.toList :=
    stripQuotesChars_quoteIf hn.key_written.trimmed (by simp [keyNeedsQuotes]; exact Or.inl)
  have hvalue : stripQuotesChars (renderValue e.value).toList = e.value.toList :=
    stripQuotesChars_quoteIf hn.value_written.trimmed id
  -- the written key holds no comma and neither half a full-width comma
  have hkc : ',' ∉ (renderKey e.key).toList := fun hx => by
    rcases mem_quoteIf hx with h | h
    · cases h
    · exact hc h
  have hkf : fullWidthComma ∉ (renderKey e.key).toList := fun hx => by
    rcases mem_quoteIf hx with h | h
    · cases h
    · exact hn.key_written.no_fullWidthComma h
  have hvf : fullWidthComma ∉ (renderValue e.value).toList := fun hx => by
    rcases mem_quoteIf hx with h | h
    · cases h
    · exact hn.value_written.no_fullWidthComma h
  obtain ⟨tail, hlog, htail, hmem⟩ := logicalLine_line hrk hbom htk htv
  have hunify : unifyCommaChars ((renderKey e.key).toList ++ ',' :: tail) =
      (renderKey e.key).toList ++ ',' :: tail := by
    apply unifyCommaChars_of_not_mem
    simp only [List.mem_append, List.mem_cons, not_or]
    refine ⟨hkf, by decide, fun hx => ?_⟩
    rcases hmem _ hx with h | h
    · cases h
    · exact hvf h
  have hkne : e.key.toList ≠ [] := fun h => hn.key_ne (String.toList_eq_nil_iff.1 h)
  rw [toList_toLine, entryChars?, hlog, hrk, List.cons_append]
  dsimp only
  rw [if_neg hhash, ← List.cons_append, ← hrk, hunify, splitAtComma_append hkc]
  dsimp only
  rw [trimChars_of_trimmed htk, hkey, htail, hvalue]
  cases hk : e.key.toList with
  | nil => exact absurd hk hkne
  | cons k ks => rfl

/-- The line of a normal entry whose key holds no comma reads back as the entry. -/
theorem ofLine?_toLine (hn : Normal e) (hc : ',' ∉ e.key.toList) : ofLine? e.toLine = some e := by
  rw [ofLine?, entryChars?_toLine hn hc]
  simp

/-- A written line holds the two fields, the quotes the writer adds, the comma and the space. -/
theorem mem_toLine {x : Char} (h : x ∈ e.toLine.toList) :
    x = '"' ∨ x = ',' ∨ x = ' ' ∨ x ∈ e.key.toList ∨ x ∈ e.value.toList := by
  rw [toList_toLine] at h
  simp only [List.mem_append, List.mem_cons] at h
  rcases h with hk | rfl | rfl | hv
  · rcases mem_quoteIf hk with h | h
    · exact .inl h
    · exact .inr (.inr (.inr (.inl h)))
  · exact .inr (.inl rfl)
  · exact .inr (.inr (.inl rfl))
  · rcases mem_quoteIf hv with h | h
    · exact .inl h
    · exact .inr (.inr (.inr (.inr h)))

/-- The line of an entry with a key does not start with a byte-order mark. -/
theorem head?_toLine (hne : e.key ≠ "") : e.toLine.toList.head? ≠ some bom := by
  obtain ⟨c, _, hrk, _, hbom⟩ := renderKey_head hne
  rw [toList_toLine, hrk]
  simpa using hbom

/-- The line of a normal entry holds no line break. -/
theorem breaks_not_mem_toLine (hn : Normal e) :
    '\r' ∉ e.toLine.toList ∧ '\n' ∉ e.toLine.toList := by
  -- a break is none of the characters the writer adds, and neither field holds one
  have hnot : ∀ x, x ≠ '"' → x ≠ ',' → x ≠ ' ' → x ∉ e.key.toList → x ∉ e.value.toList →
      x ∉ e.toLine.toList := by
    intro x hq hc hs hk hv hx
    rcases mem_toLine hx with h | h | h | h | h
    · exact hq h
    · exact hc h
    · exact hs h
    · exact hk h
    · exact hv h
  exact ⟨hnot _ (by decide) (by decide) (by decide) hn.key_written.no_cr hn.value_written.no_cr,
    hnot _ (by decide) (by decide) (by decide) hn.key_written.no_lf hn.value_written.no_lf⟩

/-- One written line reads back as its key and value. Take a key that is not empty and holds
no comma, and a key and value that trimming leaves alone, with no line break and no full-width
comma in either. Their line holds no line break, does not start with a byte-order mark, and
reads as the entry of the two. -/
theorem written_line_reads_back (k v : String) (hk : k ≠ "") (hkt : trim k = k)
    (hvt : trim v = v) (hkr : '\r' ∉ k.toList) (hkn : '\n' ∉ k.toList)
    (hkf : fullWidthComma ∉ k.toList) (hvr : '\r' ∉ v.toList) (hvn : '\n' ∉ v.toList)
    (hvf : fullWidthComma ∉ v.toList) (hkc : ',' ∉ k.toList) :
    let l := renderKey k ++ ", " ++ renderValue v
    '\r' ∉ l.toList ∧ '\n' ∉ l.toList ∧ l.toList.head? ≠ some bom ∧
      ofLine? l = some ⟨k, v⟩ := by
  intro l
  -- the two fields make a normal entry, and `l` is that entry's line
  have hn : Normal ⟨k, v⟩ :=
    ⟨hk, ⟨trim_eq_self_iff.1 hkt, hkr, hkn, hkf⟩, ⟨trim_eq_self_iff.1 hvt, hvr, hvn, hvf⟩⟩
  have hl : l = toLine ⟨k, v⟩ := rfl
  rw [hl]
  obtain ⟨hr, hlf⟩ := breaks_not_mem_toLine hn
  exact ⟨hr, hlf, head?_toLine hk, ofLine?_toLine hn hkc⟩

/-- A key that starts with a byte-order mark and a value already in quotes are both quoted
when written, and their line reads back as the two. -/
theorem bom_key_line_reads_back :
    ("\uFEFFk" : String) ≠ "" ∧ trim "\uFEFFk" = "\uFEFFk" ∧ trim "'v'" = "'v'" ∧
      ('\r' ∉ "\uFEFFk".toList ∧ '\n' ∉ "\uFEFFk".toList ∧ fullWidthComma ∉ "\uFEFFk".toList) ∧
      ('\r' ∉ "'v'".toList ∧ '\n' ∉ "'v'".toList ∧ fullWidthComma ∉ "'v'".toList) ∧
      ',' ∉ "\uFEFFk".toList ∧
      (let l := renderKey "\uFEFFk" ++ ", " ++ renderValue "'v'"
       '\r' ∉ l.toList ∧ '\n' ∉ l.toList ∧ l.toList.head? ≠ some bom ∧
         ofLine? l = some ⟨"\uFEFFk", "'v'"⟩) := by
  have hk : ("\uFEFFk" : String) ≠ "" := by decide
  have hkt : trim "\uFEFFk" = "\uFEFFk" := by decide
  have hvt : trim "'v'" = "'v'" := by decide
  have hkb : '\r' ∉ "\uFEFFk".toList ∧ '\n' ∉ "\uFEFFk".toList ∧
      fullWidthComma ∉ "\uFEFFk".toList := by decide
  have hvb : '\r' ∉ "'v'".toList ∧ '\n' ∉ "'v'".toList ∧ fullWidthComma ∉ "'v'".toList := by
    decide
  have hkc : ',' ∉ "\uFEFFk".toList := by decide
  exact ⟨hk, hkt, hvt, hkb, hvb, hkc, written_line_reads_back "\uFEFFk" "'v'" hk hkt hvt
    hkb.1 hkb.2.1 hkb.2.2 hvb.1 hvb.2.1 hvb.2.2 hkc⟩

theorem toList_render (es : List Entry) :
    (render es).toList = (es.map fun e => e.toLine.toList).flatMap (· ++ ['\n']) := by
  simp [render, String.toList_join, List.flatMap_map]

/-- The text of normal entries splits back into their lines. -/
theorem fileLines_render {es : List Entry} (h : ∀ e ∈ es, Normal e) :
    fileLines (render es) = es.map toLine := by
  rw [fileLines, toList_render, fileLinesChars_lines]
  · simp
  · intro l hl
    obtain ⟨e, he, rfl⟩ := List.mem_map.1 hl
    exact breaks_not_mem_toLine (h e he)

/-- The text of normal entries does not start with a byte-order mark. -/
theorem head?_render {es : List Entry} (h : ∀ e ∈ es, Normal e) :
    (render es).toList.head? ≠ some bom := by
  cases es with
  | nil => simp
  | cons e rest =>
    obtain ⟨c, _, hrk, _, hbom⟩ := renderKey_head (h e List.mem_cons_self).key_ne
    rw [toList_render, List.map_cons, List.flatMap_cons, toList_toLine, hrk]
    simpa using hbom

/-- Normal entries written and read back are themselves exactly when no key holds a comma. -/
theorem ofLines_render_eq_iff {es : List Entry} (h : ∀ e ∈ es, Normal e) :
    ofLines (fileLines (render es)) = es ↔ ∀ e ∈ es, ',' ∉ e.key.toList := by
  constructor
  · intro hread e he
    rw [← hread] at he
    exact (normal_of_mem_ofLines_fileLines he).2
  · intro hc
    rw [fileLines_render h]
    induction es with
    | nil => rfl
    | cons e rest ih =>
      rw [List.map_cons, ofLines_cons,
        ofLine?_toLine (h e List.mem_cons_self) (hc e List.mem_cons_self),
        ih (fun e' he' => h e' (List.mem_cons_of_mem _ he'))
          (fun e' he' => hc e' (List.mem_cons_of_mem _ he'))]
      rfl

end Entry

end Writing

end Wordbook
