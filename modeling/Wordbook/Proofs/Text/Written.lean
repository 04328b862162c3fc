import Wordbook.Text.Field

/-!
# The shape of a written field

`normalizeField` is the last pass a field gets before it is written. What comes out of it has a
shape of its own (`Written`): no blank at either end (`Trimmed`), no line break, no full-width
comma. Every normalised field has that shape (`written_normalizeFieldChars`), and normalising a
field of that shape changes nothing (`normalizeFieldChars_of_written`), so normalising twice is
normalising once.

Trimming is characterised by its two ends: a list whose ends are not blank is its own trim
(`trimChars_of_trimmed`), and a trim has ends that are not blank (`trimmed_trimChars`).
-/

set_option autoImplicit false

namespace Wordbook.Text

/-! ## Blanks at the ends -/

section Blanks

variable {c : Char} {cs : List Char}

@[simp] theorem isBlank_quote : isBlank '"' = false := rfl

@[simp] theorem isBlank_comma : isBlank ',' = false := rfl

theorem dropBlanks_cons_blank (h : isBlank c = true) : dropBlanks (c :: cs) = dropBlanks cs :=
  List.dropWhile_cons_of_pos h

theorem dropBlanks_cons_unblank (h : isBlank c = false) : dropBlanks (c :: cs) = c :: cs :=
  List.dropWhile_cons_of_neg (by simp [h])

/-- Neither end of the characters is blank. -/
def Trimmed (cs : List Char) : Prop :=
  (∀ c ∈ cs.head?, isBlank c = false) ∧ ∀ c ∈ cs.getLast?, isBlank c = false

theorem dropBlanks_of_head (h : ∀ c ∈ cs.head?, isBlank c = false) : dropBlanks cs = cs := by
  cases cs with
  | nil => rfl
  | cons c rest => exact dropBlanks_cons_unblank (h c rfl)

theorem head?_dropBlanks (cs : List Char) : ∀ c ∈ (dropBlanks cs).head?, isBlank c = false := by
  induction cs with
  | nil => intro c hc; cases hc
  | cons d rest ih =>
    cases hd : isBlank d
    · rw [dropBlanks_cons_unblank hd]
      intro c hc
      cases hc
      exact hd
    · rw [dropBlanks_cons_blank hd]
      exact ih

/-- Dropping blanks at the front keeps the last character, unless it drops everything. -/
theorem getLast?_dropBlanks (h : dropBlanks cs ≠ []) :
    (dropBlanks cs).getLast? = cs.getLast? := by
  induction cs with
  | nil => rfl
  | cons d rest ih =>
    cases hd : isBlank d
    · rw [dropBlanks_cons_unblank hd]
    · rw [dropBlanks_cons_blank hd] at h ⊢
      have hrest : rest ≠ [] := by
        rintro rfl
        exact h rfl
      rw [ih h, List.getLast?_cons_of_ne_nil hrest]

/-- A list whose ends are not blank is its own trim. -/
theorem trimChars_of_trimmed (h : Trimmed cs) : trimChars cs = cs := by
  unfold trimChars
  rw [dropBlanks_of_head h.1,
    dropBlanks_of_head (by rw [List.head?_reverse]; exact h.2), List.reverse_reverse]

/-- A trim has no blank at either end. -/
theorem trimmed_trimChars (cs : List Char) : Trimmed (trimChars cs) := by
  unfold trimChars
  refine ⟨?_, ?_⟩
  · -- the first character left is the last one the back trim kept, which the front trim kept
    rw [List.head?_reverse]
    by_cases hnil : dropBlanks (dropBlanks cs).reverse = []
    · rw [hnil]
      intro c hc
      cases hc
    · rw [getLast?_dropBlanks hnil, List.getLast?_reverse]
      exact head?_dropBlanks cs
  · rw [List.getLast?_reverse]
    exact head?_dropBlanks _

theorem trimChars_trimChars (cs : List Char) : trimChars (trimChars cs) = trimChars cs :=
  trimChars_of_trimmed (trimmed_trimChars cs)

/-- Trimming leaves a string alone exactly when neither of its ends is blank. -/
theorem trim_eq_self_iff {s : String} : trim s = s ↔ Trimmed s.toList := by
  constructor
  · intro h
    rw [← h, toList_trim]
    exact trimmed_trimChars _
  · intro h
    rw [trim, trimChars_of_trimmed h, String.ofList_toList]

/-- A blank in front makes no difference to a trim. -/
theorem trimChars_cons_blank (h : isBlank c = true) : trimChars (c :: cs) = trimChars cs := by
  unfold trimChars
  rw [dropBlanks_cons_blank h]

theorem trimChars_sublist (cs : List Char) : (trimChars cs).Sublist cs := by
  unfold trimChars
  have hfront : (dropBlanks cs).Sublist cs := List.dropWhile_sublist isBlank
  have hback : (dropBlanks (dropBlanks cs).reverse).Sublist (dropBlanks cs).reverse :=
    List.dropWhile_sublist isBlank
  exact (List.reverse_sublist.2 hback).trans (by rw [List.reverse_reverse]; exact hfront)

theorem not_mem_trimChars {x : Char} (h : x ∉ cs) : x ∉ trimChars cs :=
  fun hx => h ((trimChars_sublist cs).subset hx)

end Blanks

/-! ## Written fields -/

/-- The shape of a normalised field: no blank at either end, on one line, and no full-width
comma. -/
structure Written (cs : List Char) : Prop where
  trimmed : Trimmed cs
  no_cr : '\r' ∉ cs
  no_lf : '\n' ∉ cs
  no_fullWidthComma : fullWidthComma ∉ cs

section Passes

variable {cs : List Char}

theorem fullWidthComma_not_mem_unifyCommaChars (cs : List Char) :
    fullWidthComma ∉ unifyCommaChars cs := by
  simp only [unifyCommaChars, List.mem_map, not_exists, not_and]
  intro c _
  by_cases hc : c = fullWidthComma
  · rw [if_pos hc]
    decide
  · rw [if_neg hc]
    exact hc

theorem unifyCommaChars_of_not_mem (h : fullWidthComma ∉ cs) : unifyCommaChars cs = cs := by
  unfold unifyCommaChars
  have hid : ∀ c ∈ cs, (if c = fullWidthComma then ',' else c) = id c :=
    fun c hc => if_neg fun (heq : c = fullWidthComma) => h (heq ▸ hc)
  rw [List.map_congr_left hid, List.map_id]

/-- Spacing line breaks leaves no carriage return and no line feed, and brings in nothing but
spaces. -/
theorem mem_spaceBreaks {x : Char} (hx : x ∈ spaceBreaks cs) :
    x ≠ '\r' ∧ x ≠ '\n' ∧ (x = ' ' ∨ x ∈ cs) := by
  fun_induction spaceBreaks cs with
  | case1 rest ih =>
    rcases List.mem_cons.1 hx with rfl | hx
    · exact ⟨by decide, by decide, .inl rfl⟩
    · obtain ⟨hr, hn, hmem⟩ := ih hx
      exact ⟨hr, hn, hmem.imp_right fun h => List.mem_cons_of_mem _ (List.mem_cons_of_mem _ h)⟩
  | case2 c rest _ ih =>
    rcases List.mem_cons.1 hx with rfl | hx
    · by_cases hb : (c = '\r' || c = '\n') = true
      · rw [if_pos hb]
        exact ⟨by decide, by decide, .inl rfl⟩
      · rw [if_neg hb]
        simp only [Bool.or_eq_true, decide_eq_true_eq, not_or] at hb
        exact ⟨hb.1, hb.2, .inr List.mem_cons_self⟩
    · obtain ⟨hr, hn, hmem⟩ := ih hx
      exact ⟨hr, hn, hmem.imp_right (List.mem_cons_of_mem _)⟩
  | case3 => cases hx

theorem spaceBreaks_of_no_breaks (hr : '\r' ∉ cs) (hn : '\n' ∉ cs) : spaceBreaks cs = cs := by
  fun_induction spaceBreaks cs with
  | case1 rest ih => simp at hr
  | case2 c rest _ ih =>
    have hc : (c = '\r' || c = '\n') = false := by
      simp only [List.mem_cons, not_or] at hr hn
      simp [Ne.symm hr.1, Ne.symm hn.1]
    rw [if_neg (by simp [hc]), ih (fun h => hr (List.mem_cons_of_mem _ h))
      (fun h => hn (List.mem_cons_of_mem _ h))]
  | case3 => rfl

/-- Every normalised field is written. -/
theorem written_normalizeFieldChars (cs : List Char) : Written (normalizeFieldChars cs) := by
  unfold normalizeFieldChars
  refine ⟨trimmed_trimChars _, not_mem_trimChars ?_, not_mem_trimChars ?_,
    not_mem_trimChars ?_⟩
  · exact fun h => (mem_spaceBreaks h).1 rfl
  · exact fun h => (mem_spaceBreaks h).2.1 rfl
  · intro h
    rcases (mem_spaceBreaks h).2.2 with hsp | hmem
    · cases hsp
    · exact fullWidthComma_not_mem_unifyCommaChars cs hmem

/-- Normalising a written field changes nothing. -/
theorem normalizeFieldChars_of_written (h : Written cs) : normalizeFieldChars cs = cs := by
  unfold normalizeFieldChars
  rw [unifyCommaChars_of_not_mem h.no_fullWidthComma, spaceBreaks_of_no_breaks h.no_cr h.no_lf,
    trimChars_of_trimmed h.trimmed]

theorem normalizeFieldChars_normalizeFieldChars (cs : List Char) :
    normalizeFieldChars (normalizeFieldChars cs) = normalizeFieldChars cs :=
  normalizeFieldChars_of_written (written_normalizeFieldChars cs)

/-- Normalising a field twice is normalising it once. -/
theorem normalizeField_normalizeField (s : String) :
    normalizeField (normalizeField s) = normalizeField s := by
  simp only [normalizeField, String.toList_ofList, normalizeFieldChars_normalizeFieldChars]

end Passes

end Wordbook.Text
