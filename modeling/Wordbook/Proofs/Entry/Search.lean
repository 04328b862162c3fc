import Wordbook.Entry.Search
import Wordbook.Session
import Wordbook.Proofs.Text.Written

/-!
# What a search finds

A search lowers the trimmed query and each entry's fields and looks for the one inside the
others. Lowering maps one character at a time, except the capital sigma, whose form depends on
the characters around it. So the lemmas here hold for queries without a capital sigma:

* **Lowering passes through pieces.** Outside a capital sigma, lowering reads no context
  (`lowerFrom_append_of_sigma_not_mem`), so a piece of a text lowers to a piece of the lowered
  text (`lowerChars_piece`), and a beginning to its beginning (`lowerChars_prefix`).
* **Every piece of what is shown finds its entry** (`search_finds_every_piece`): a query that is
  a contiguous piece of an entry's key or value selects that entry, and the session lists it.
* **A longer query selects fewer entries** (`search_narrows`): typing more characters after a
  query keeps the selection a subsequence of what it was.

A capital sigma is where both fail: in `"ΟΔΟΣ"` it ends a word and lowers to `ς`, while the
query `"Σ"` alone lowers to `σ`, so the entry is not found by a piece of its own key.
-/

set_option autoImplicit false

namespace Wordbook

open Text

/-! ## Lowering pieces of a text -/

namespace Text

/-- Outside a capital sigma, lowering reads no context: each character takes its own mapping,
whatever comes before or after. -/
theorem lowerFrom_append_of_sigma_not_mem {xs : List Char} (h : capitalSigma ∉ xs)
    (before ys : List Char) :
    lowerFrom before (xs ++ ys) = xs.flatMap lowerChar ++ lowerFrom (xs.reverse ++ before) ys := by
  induction xs generalizing before with
  | nil => rfl
  | cons x xs ih =>
    have hx : x ≠ capitalSigma := fun e => h (e ▸ List.mem_cons_self)
    have hxs : capitalSigma ∉ xs := fun m => h (List.mem_cons_of_mem _ m)
    simp [lowerFrom, hx, ih hxs]

/-- Whatever the context, lowering a text passes through each of its splits: the part before
lowers to something, and the part after is lowered with the part before as its context. -/
theorem lowerFrom_append (before xs ys : List Char) :
    ∃ pre, lowerFrom before (xs ++ ys) = pre ++ lowerFrom (xs.reverse ++ before) ys := by
  induction xs generalizing before with
  | nil => exact ⟨[], rfl⟩
  | cons x xs ih =>
    obtain ⟨pre, hpre⟩ := ih (x :: before)
    refine ⟨(if x = capitalSigma then [if finalSigma before (xs ++ ys) then 'ς' else 'σ']
      else lowerChar x) ++ pre, ?_⟩
    simp [lowerFrom, hpre]

theorem lowerChars_of_sigma_not_mem {cs : List Char} (h : capitalSigma ∉ cs) :
    lowerChars cs = cs.flatMap lowerChar := by
  simpa [lowerChars, lowerFrom] using lowerFrom_append_of_sigma_not_mem h [] []

/-- A piece of a text without a capital sigma lowers to a piece of the lowered text. -/
theorem lowerChars_piece {u cs : List Char} (hu : u <:+: cs) (h : capitalSigma ∉ u) :
    lowerChars u <:+: lowerChars cs := by
  obtain ⟨a, b, rfl⟩ := hu
  obtain ⟨pre, hpre⟩ := lowerFrom_append [] a (u ++ b)
  refine ⟨pre, lowerFrom (u.reverse ++ (a.reverse ++ [])) b, ?_⟩
  calc pre ++ lowerChars u ++ lowerFrom (u.reverse ++ (a.reverse ++ [])) b
      = pre ++ lowerFrom (a.reverse ++ []) (u ++ b) := by
        rw [lowerFrom_append_of_sigma_not_mem h, lowerChars_of_sigma_not_mem h, List.append_assoc]
    _ = lowerChars (a ++ u ++ b) := by rw [← hpre, List.append_assoc]; rfl

/-- A beginning of a text without a capital sigma lowers to a beginning of the lowered text. -/
theorem lowerChars_prefix {p cs : List Char} (hp : p <+: cs) (h : capitalSigma ∉ p) :
    lowerChars p <+: lowerChars cs := by
  obtain ⟨t, rfl⟩ := hp
  rw [lowerChars, lowerChars, lowerFrom_append_of_sigma_not_mem h,
    ← lowerChars, lowerChars_of_sigma_not_mem h]
  exact List.prefix_append _ _

/-! ## Trimming a query -/

/-- Trimming the back only cuts an end off what is left after the front. -/
theorem trimChars_prefix_dropBlanks (cs : List Char) : trimChars cs <+: dropBlanks cs := by
  rw [trimChars, ← List.reverse_suffix, List.reverse_reverse]
  exact List.dropWhile_suffix isBlank

theorem trimChars_piece (cs : List Char) : trimChars cs <:+: cs :=
  (trimChars_prefix_dropBlanks cs).isInfix.trans (List.dropWhile_suffix isBlank).isInfix

/-- The trimmed query is the beginning of the trimmed longer query, unless it is empty: text
typed after a query leaves what it trims to in front. -/
theorem trimChars_prefix_append {q : List Char} (h : trimChars q ≠ []) (s : List Char) :
    trimChars q <+: trimChars (q ++ s) := by
  have hq : dropBlanks q ≠ [] := fun hnil => h (by rw [trimChars, hnil]; rfl)
  -- past the blanks in front, the longer query is the shorter one with the text after it
  have hfront : dropBlanks (q ++ s) = dropBlanks q ++ s := by
    rw [dropBlanks, List.dropWhile_append, if_neg (by simpa [dropBlanks] using hq)]
    rfl
  have hlong : trimChars (q ++ s) =
      (List.dropWhile isBlank (s.reverse ++ (dropBlanks q).reverse)).reverse := by
    rw [trimChars, hfront, List.reverse_append]
    rfl
  rw [hlong, List.dropWhile_append]
  split
  · -- the text after it is blank, and trimming takes it off again
    exact List.prefix_refl _
  · rw [List.reverse_append, List.reverse_reverse]
    exact (trimChars_prefix_dropBlanks q).trans (List.prefix_append _ _)

end Text

/-! ## Occurrences -/

theorem occursIn_iff {needle hay : List Char} : occursIn needle hay = true ↔ needle <:+: hay := by
  induction hay with
  | nil => simp [occursIn, List.infix_nil]
  | cons c rest ih =>
    rw [occursIn, Bool.or_eq_true, ih, List.isPrefixOf_iff_prefix, List.infix_cons_iff]

/-! ## Searching -/

namespace Entry

theorem search_of_needleOf_nil {es : List Entry} {query : String} (h : needleOf query = []) :
    search es query = List.range es.length := by
  simp [search, h]

theorem search_of_needleOf_ne_nil {es : List Entry} {query : String} (h : needleOf query ≠ []) :
    search es query = searchFrom (needleOf query) 0 es := by
  unfold search
  split
  · contradiction
  · rfl

/-- An entry the needle matches is selected at its position. -/
theorem mem_searchFrom {needle : List Char} {es : List Entry} (start : Nat) {i : Nat}
    (hi : i < es.length) (h : matchesNeedle needle es[i] = true) :
    start + i ∈ searchFrom needle start es := by
  induction es generalizing start i with
  | nil => cases hi
  | cons e rest ih =>
    cases i with
    | zero =>
      simp only [List.getElem_cons_zero] at h
      simp [searchFrom, h]
    | succ i =>
      have hrest : start + 1 + i ∈ searchFrom needle (start + 1) rest :=
        ih (start + 1) (Nat.lt_of_succ_lt_succ hi) (by simpa using h)
      rw [show start + (i + 1) = start + 1 + i by omega]
      unfold searchFrom
      split
      · exact List.mem_cons_of_mem _ hrest
      · exact hrest

/-- Selected positions are positions of the entries, in increasing order. -/
theorem searchFrom_sublist_range' (needle : List Char) (start : Nat) (es : List Entry) :
    (searchFrom needle start es).Sublist (List.range' start es.length) := by
  induction es generalizing start with
  | nil => exact List.Sublist.slnil
  | cons e rest ih =>
    rw [List.length_cons, List.range'_succ]
    unfold searchFrom
    split
    · exact (ih (start + 1)).cons_cons start
    · exact (ih (start + 1)).cons start

/-- A search selects positions of the entries, in increasing order. -/
theorem search_sublist_range (es : List Entry) (query : String) :
    (search es query).Sublist (List.range es.length) := by
  by_cases hnil : needleOf query = []
  · exact (search_of_needleOf_nil hnil) ▸ List.Sublist.refl _
  · rw [search_of_needleOf_ne_nil hnil, List.range_eq_range']
    exact searchFrom_sublist_range' _ 0 es

/-- A needle that matches no entry the other one misses selects a subsequence of the other's
selection. -/
theorem searchFrom_sublist {wide narrow : List Char} (start : Nat) {es : List Entry}
    (h : ∀ e ∈ es, matchesNeedle narrow e = true → matchesNeedle wide e = true) :
    (searchFrom narrow start es).Sublist (searchFrom wide start es) := by
  induction es generalizing start with
  | nil => exact List.Sublist.slnil
  | cons e rest ih =>
    have hrest := ih (start + 1) fun d hd => h d (List.mem_cons_of_mem _ hd)
    by_cases hn : matchesNeedle narrow e = true
    · have hw := h e List.mem_cons_self hn
      simp only [searchFrom, hn, hw, if_true]
      exact hrest.cons_cons start
    · simp only [searchFrom, hn, Bool.false_eq_true, if_false]
      split
      · exact hrest.cons start
      · exact hrest

/-- A needle inside a field matches, and so does any piece of a needle that matches. -/
theorem matchesNeedle_of_infix {short long : List Char} (h : short <:+: long) {e : Entry}
    (hm : matchesNeedle long e = true) : matchesNeedle short e = true := by
  simp only [matchesNeedle, Bool.or_eq_true, occursIn_iff] at hm ⊢
  exact hm.imp h.trans h.trans

theorem mem_visible {s : Session} {query : String} {i : Nat} (hi : i < s.store.entries.length)
    (h : i ∈ search s.store.entries query) : (i, s.store.entries[i]) ∈ s.visible query := by
  rw [Session.visible, List.mem_filterMap]
  exact ⟨i, h, by simp [hi]⟩

/-- A search for any piece of an entry's key or value, if the piece holds no capital sigma,
selects that entry, and a session holding the entries lists it with its position. -/
theorem search_finds_every_piece (es : List Entry) (i : Nat) (hi : i < es.length) (u : String)
    (hu : u.toList <:+: es[i].key.toList ∨ u.toList <:+: es[i].value.toList)
    (hsigma : capitalSigma ∉ u.toList) :
    i ∈ search es u ∧ ∀ s : Session, s.store.entries = es → (i, es[i]) ∈ s.visible u := by
  have hfound : i ∈ search es u := by
    by_cases hnil : needleOf u = []
    · rw [search_of_needleOf_nil hnil]
      exact List.mem_range.2 hi
    · rw [search_of_needleOf_ne_nil hnil]
      -- the trimmed piece is still a piece of the field, and lowering keeps it one
      have hlower : ∀ field : List Char, u.toList <:+: field →
          occursIn (needleOf u) (lowerChars field) = true := fun field hfield =>
        occursIn_iff.2 (lowerChars_piece ((trimChars_piece _).trans hfield)
          (not_mem_trimChars hsigma))
      have hmatch : matchesNeedle (needleOf u) es[i] = true := by
        rw [matchesNeedle, Bool.or_eq_true]
        exact hu.imp (hlower _) (hlower _)
      simpa using mem_searchFrom 0 hi hmatch
  refine ⟨hfound, fun s hs => ?_⟩
  subst hs
  exact mem_visible hi hfound

/-- The second entry holds `at` in its key: a search for it selects the entry, and the session
lists it. -/
theorem search_finds_piece_of_key :
    (("at" : String).toList <:+: ("Cat" : String).toList ∨
        ("at" : String).toList <:+: ("Gato" : String).toList) ∧
      capitalSigma ∉ ("at" : String).toList ∧
      (1 ∈ search [⟨"apple", "사과"⟩, ⟨"Cat", "Gato"⟩] "at" ∧
        ∀ s : Session, s.store.entries = [⟨"apple", "사과"⟩, ⟨"Cat", "Gato"⟩] →
          (1, ⟨"Cat", "Gato"⟩) ∈ s.visible "at") := by
  have hu : ("at" : String).toList <:+: ("Cat" : String).toList ∨
      ("at" : String).toList <:+: ("Gato" : String).toList := by
    decide
  have hsigma : capitalSigma ∉ ("at" : String).toList := by decide
  exact ⟨hu, hsigma, search_finds_every_piece [⟨"apple", "사과"⟩, ⟨"Cat", "Gato"⟩] 1 (by decide)
    "at" hu hsigma⟩

/-- Typing more characters after a query without a capital sigma never brings back an entry the
query left out: the longer query selects a subsequence of what the query selects. -/
theorem search_narrows (es : List Entry) (q s : String) (hsigma : capitalSigma ∉ q.toList) :
    (search es (q ++ s)).Sublist (search es q) := by
  by_cases hnil : needleOf q = []
  · -- a blank query selects every position, and any selection is a subsequence of those
    rw [search_of_needleOf_nil hnil]
    exact search_sublist_range es (q ++ s)
  · have htrim : trimChars q.toList ≠ [] := by
      intro h
      exact hnil (by simp [needleOf, h, lowerChars, lowerFrom])
    -- the query's needle begins the longer query's needle
    have hprefix : needleOf q <+: needleOf (q ++ s) := by
      rw [needleOf, needleOf, String.toList_append]
      exact lowerChars_prefix (trimChars_prefix_append htrim s.toList)
        (not_mem_trimChars hsigma)
    have hlong : needleOf (q ++ s) ≠ [] := fun h =>
      hnil (List.eq_nil_of_prefix_nil (h ▸ hprefix))
    rw [search_of_needleOf_ne_nil hnil, search_of_needleOf_ne_nil hlong]
    exact searchFrom_sublist 0 fun e _ => matchesNeedle_of_infix hprefix.isInfix

/-- Searching `"Ca"` and then `"Cat"` in a small dictionary: the longer query selects no entry
the shorter one left out. -/
theorem search_narrows_on_typing :
    capitalSigma ∉ ("Ca" : String).toList ∧
      (search [⟨"Cat", "Gato"⟩, ⟨"Dog", "Perro"⟩, ⟨"catalog", "Catálogo"⟩] ("Ca" ++ "t")).Sublist
        (search [⟨"Cat", "Gato"⟩, ⟨"Dog", "Perro"⟩, ⟨"catalog", "Catálogo"⟩] "Ca") := by
  have hsigma : capitalSigma ∉ ("Ca" : String).toList := by decide
  exact ⟨hsigma, search_narrows _ "Ca" "t" hsigma⟩

end Entry

end Wordbook
