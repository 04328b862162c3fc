import Wordbook.Entry.Clean
import Wordbook.Proofs.Text.Written

/-!
# Normal entries

An entry is normal when its key is not empty and both fields have the shape of a normalised
field (`Text.Written`). Normal entries are what cleaning outputs (`normal_of_mem_clean`), and
normalising one changes nothing (`normalize_of_normal`).

Cleaning walks the entries once, threading the keys already taken. On a list of normal entries
whose keys are pairwise distinct it keeps every entry and drops none (`cleanAfter_of_normal`);
the kept entries of any walk have pairwise distinct keys, none of them taken before
(`nodup_keys_cleanAfter`). Together these make cleaning idempotent (`clean_idempotent`): a
cleaned dictionary is cleaned again without a change or a drop.
-/

set_option autoImplicit false

namespace Wordbook.Entry

open Text

/-- An entry as cleaning leaves it: a key that is not empty, both fields written. -/
structure Normal (e : Entry) : Prop where
  key_ne : e.key ≠ ""
  key_written : Written e.key.toList
  value_written : Written e.value.toList

theorem normalize_key (e : Entry) : e.normalize.key.toList = normalizeFieldChars e.key.toList := by
  simp [normalize]

theorem normalize_value (e : Entry) :
    e.normalize.value.toList = normalizeFieldChars e.value.toList := by
  simp [normalize]

/-- Normalising a normal entry changes nothing. -/
theorem normalize_of_normal {e : Entry} (h : Normal e) : e.normalize = e := by
  obtain ⟨key, value⟩ := e
  simp only [normalize, normalizeField, normalizeFieldChars_of_written h.key_written,
    normalizeFieldChars_of_written h.value_written, String.ofList_toList]

/-- A normalised entry whose key is not empty is normal. -/
theorem normal_normalize {e : Entry} (h : e.normalize.key ≠ "") : Normal e.normalize :=
  ⟨h, normalize_key e ▸ written_normalizeFieldChars _,
    normalize_value e ▸ written_normalizeFieldChars _⟩

/-! ## The cleaning walk -/

/-- Every entry the walk keeps is the normal form of an input entry. -/
theorem normal_of_mem_cleanAfter {taken : List String} {es : List Entry} {e : Entry}
    (h : e ∈ (cleanAfter taken es).1) : (∃ e₀ ∈ es, e = e₀.normalize) ∧ Normal e := by
  induction es generalizing taken with
  | nil => cases h
  | cons d rest ih =>
    by_cases hskip : (d.normalize.key.isEmpty || taken.contains d.normalize.key) = true
    · simp only [cleanAfter, hskip, if_true] at h
      obtain ⟨⟨e₀, hmem, rfl⟩, hn⟩ := ih h
      exact ⟨⟨e₀, List.mem_cons_of_mem _ hmem, rfl⟩, hn⟩
    · simp only [cleanAfter, hskip, if_false, Bool.false_eq_true] at h
      rcases List.mem_cons.1 h with rfl | hrest
      · -- the entry kept here: its key passed the emptiness check
        have hne : d.normalize.key ≠ "" := by
          intro hempty
          simp [hempty] at hskip
        exact ⟨⟨d, List.mem_cons_self, rfl⟩, normal_normalize hne⟩
      · obtain ⟨⟨e₀, hmem, rfl⟩, hn⟩ := ih hrest
        exact ⟨⟨e₀, List.mem_cons_of_mem _ hmem, rfl⟩, hn⟩

/-- The keys the walk keeps are pairwise distinct and none of them was taken before. -/
theorem nodup_keys_cleanAfter (taken : List String) (es : List Entry) :
    ((cleanAfter taken es).1.map key).Nodup ∧ ∀ e ∈ (cleanAfter taken es).1, e.key ∉ taken := by
  induction es generalizing taken with
  | nil => exact ⟨List.nodup_nil, fun e he => by cases he⟩
  | cons d rest ih =>
    by_cases hskip : (d.normalize.key.isEmpty || taken.contains d.normalize.key) = true
    · simp only [cleanAfter, hskip, if_true]
      exact ih taken
    · simp only [cleanAfter, hskip, if_false, Bool.false_eq_true]
      obtain ⟨hnd, hfresh⟩ := ih (d.normalize.key :: taken)
      have hnew : d.normalize.key ∉ taken := by
        intro hmem
        simp [hmem] at hskip
      refine ⟨List.nodup_cons.2 ⟨?_, hnd⟩, ?_⟩
      · -- a later kept key was not taken, and the key kept here was
        intro hmem
        obtain ⟨e, he, hkey⟩ := List.mem_map.1 hmem
        exact hfresh e he (hkey ▸ List.mem_cons_self)
      · intro e he
        rcases List.mem_cons.1 he with rfl | hrest
        · exact hnew
        · exact fun hmem => hfresh e hrest (List.mem_cons_of_mem _ hmem)

/-- On normal entries with distinct keys, none taken, the walk keeps everything. -/
theorem cleanAfter_of_normal (taken : List String) {es : List Entry}
    (hn : ∀ e ∈ es, Normal e) (hnd : (es.map key).Nodup) (hfresh : ∀ e ∈ es, e.key ∉ taken) :
    cleanAfter taken es = (es, 0) := by
  induction es generalizing taken with
  | nil => rfl
  | cons d rest ih =>
    have hd := hn d List.mem_cons_self
    have hkeep : (d.key.isEmpty || taken.contains d.key) = false := by
      simp [hd.key_ne, hfresh d List.mem_cons_self]
    rw [List.map_cons, List.nodup_cons] at hnd
    have hrest := ih (d.key :: taken) (fun e he => hn e (List.mem_cons_of_mem _ he))
      hnd.2 (fun e he hmem => by
        rcases List.mem_cons.1 hmem with heq | hmem
        · exact hnd.1 (heq ▸ List.mem_map_of_mem he)
        · exact hfresh e (List.mem_cons_of_mem _ he) hmem)
    simp only [cleanAfter, normalize_of_normal hd, hkeep, if_false, Bool.false_eq_true, hrest]

/-! ## Cleaning -/

theorem normal_of_mem_clean {es : List Entry} {e : Entry} (h : e ∈ clean es) :
    (∃ e₀ ∈ es, e = e₀.normalize) ∧ Normal e :=
  normal_of_mem_cleanAfter h

theorem nodup_keys_clean (es : List Entry) : ((clean es).map key).Nodup :=
  (nodup_keys_cleanAfter [] es).1

/-- Cleaning normal entries with distinct keys keeps them all and drops none. -/
theorem cleanCounting_of_normal {es : List Entry} (hn : ∀ e ∈ es, Normal e)
    (hnd : (es.map key).Nodup) : cleanCounting es = (es, 0) :=
  cleanAfter_of_normal [] hn hnd fun _ _ hmem => by cases hmem

/-- Cleaning is idempotent: a second cleaning keeps every entry and drops none. Underneath,
normalising a field twice is normalising it once. -/
theorem clean_idempotent :
    (∀ s : String, normalizeField (normalizeField s) = normalizeField s) ∧
      ∀ es : List Entry, cleanCounting (clean es) = (clean es, 0) := by
  refine ⟨normalizeField_normalizeField, fun es => ?_⟩
  -- what cleaning keeps is normal with pairwise distinct keys, and cleaning such entries
  -- keeps them all
  exact cleanCounting_of_normal (fun e he => (normal_of_mem_clean he).2) (nodup_keys_clean es)

/-- Of normal entries, cleaning keeps some, in order: the first of each key. -/
theorem mem_clean_of_normal {es : List Entry} (hn : ∀ e ∈ es, Normal e) {e : Entry}
    (h : e ∈ clean es) : e ∈ es := by
  obtain ⟨⟨e₀, hmem, rfl⟩, -⟩ := normal_of_mem_clean h
  rw [normalize_of_normal (hn e₀ hmem)]
  exact hmem

end Wordbook.Entry
