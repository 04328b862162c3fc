import Mathlib.Data.List.Basic
import Wordbook.Sync

/-!
# Where the temporary file lies

A save writes the new text to a temporary file beside the dictionary and renames it over the
dictionary. The two must be different places on the disk: otherwise the temporary write is a
write of the dictionary itself. `Disk.locate` resolves `.` and `..` and folds paths that climb
above the working directory into it, so two different texts may name one place. Main statement:
the temporary path and the dictionary's path name different places, unless the dictionary's
path names the working directory itself (`Sync.locate_tmpPath_ne`).

The argument is about last components. A path whose pieces end in a named piece `n` followed
only by empty and `.` pieces (`EndsWith`) names the working directory or a place whose last
component is `n`. The same holds for every tail of the path after a separator, which is what
`locate` reads once it strips the working directory's name (`Disk.locate_of_endsWith`). A
dictionary path with a file name `f` ends in `f`, and its temporary path ends in `f ++ ".tmp"`.
A path without a file name gets one more component (`Disk.locate_join_ne`).
-/

namespace Wordbook

namespace Path

/-! ## Pieces -/

/-- A piece that names nothing: empty or `.`. -/
def IdlePiece (q : List Char) : Prop := q = [] ∨ q = ['.']

/-- A piece that names a component: not empty, not `.` or `..`, and without a separator. -/
structure Named (n : List Char) : Prop where
  no_sep : '/' ∉ n
  ne_nil : n ≠ []
  ne_dot : n ≠ ['.']
  ne_dotDot : n ≠ ['.', '.']

/-- What a path may end with after its last component: nothing, or a separator followed by
pieces that name nothing. -/
def IdleTail (j : List Char) : Prop :=
  j = [] ∨ ∃ u, j = '/' :: u ∧ ∀ q ∈ u.splitOn '/', IdlePiece q

/-- Pieces whose last named piece is `n`. -/
def EndsWith (ps : List (List Char)) (n : List Char) : Prop :=
  ∃ qs rest, ps = qs ++ n :: rest ∧ ∀ q ∈ rest, IdlePiece q

/-- What may stand before a component: nothing, or text ending in a separator. -/
def Before (pre : List Char) : Prop := pre = [] ∨ pre.getLast? = some '/'

theorem components_eq (p : String) :
    components p = ((p.toList.splitOn '/').map String.ofList).foldl stepComponent [] := rfl

theorem components_ofList (cs : List Char) :
    components (String.ofList cs) =
      ((cs.splitOn '/').map String.ofList).foldl stepComponent [] := by
  rw [components_eq, String.toList_ofList]

theorem stepComponent_named {n : List Char} (h : Named n) (acc : List String) :
    stepComponent acc (String.ofList n) = acc ++ [String.ofList n] := by
  have hempty : String.ofList n ≠ "" := fun heq => h.ne_nil (by simpa using congrArg String.toList heq)
  have hdot : String.ofList n ≠ "." := fun heq => h.ne_dot (by simpa using congrArg String.toList heq)
  have hdd : String.ofList n ≠ ".." :=
    fun heq => h.ne_dotDot (by simpa using congrArg String.toList heq)
  rw [stepComponent, if_neg (not_or.2 ⟨hempty, hdot⟩), if_neg hdd]

theorem stepComponent_idle {q : List Char} (h : IdlePiece q) (acc : List String) :
    stepComponent acc (String.ofList q) = acc := by
  rcases h with rfl | rfl
  · rw [stepComponent, if_pos (.inl rfl)]
  · rw [stepComponent, if_pos (.inr rfl)]

theorem foldl_idle {qs : List (List Char)} (h : ∀ q ∈ qs, IdlePiece q) (acc : List String) :
    (qs.map String.ofList).foldl stepComponent acc = acc := by
  induction qs with
  | nil => rfl
  | cons q qs ih =>
    rw [List.map_cons, List.foldl_cons, stepComponent_idle (h q List.mem_cons_self)]
    exact ih fun q' hq' => h q' (List.mem_cons_of_mem _ hq')

/-- Pieces whose last named piece is `n` leave `n` as the last component. -/
theorem getLast?_foldl_of_endsWith {ps : List (List Char)} {n : List Char} (hn : Named n)
    (h : EndsWith ps n) (acc : List String) :
    ((ps.map String.ofList).foldl stepComponent acc).getLast? = some (String.ofList n) := by
  obtain ⟨qs, rest, rfl, hrest⟩ := h
  rw [List.map_append, List.foldl_append, List.map_cons, List.foldl_cons, stepComponent_named hn,
    foldl_idle hrest, List.getLast?_concat]

/-- A tail of pieces that end in `n` ends in `n` too, or names nothing at all. -/
theorem EndsWith.of_append {A B : List (List Char)} {n : List Char} (h : EndsWith (A ++ B) n) :
    EndsWith B n ∨ ∀ q ∈ B, IdlePiece q := by
  obtain ⟨qs, rest, heq, hrest⟩ := h
  rcases List.append_eq_append_iff.1 heq with ⟨a', -, hB⟩ | ⟨c', -, hB⟩
  · exact .inl ⟨a', rest, hB, hrest⟩
  · cases c' with
    | nil => exact .inl ⟨[], rest, hB.symm, hrest⟩
    | cons x c'' =>
      -- the cut falls after `n`: what is left lies in the idle tail
      obtain ⟨-, hrest'⟩ := List.cons_eq_cons.1 hB
      exact .inr fun q hq => hrest q (hrest' ▸ List.mem_append_right _ hq)

/-- A text made of what may stand before a component, a piece without separators and an idle
tail ends with that piece. -/
theorem endsWith_splitOn {pre n j : List Char} (hpre : Before pre) (hn : '/' ∉ n)
    (hj : IdleTail j) : EndsWith ((pre ++ n ++ j).splitOn '/') n := by
  have htail : ∃ rest, (n ++ j).splitOn '/' = n :: rest ∧ ∀ q ∈ rest, IdlePiece q := by
    rcases hj with rfl | ⟨u, rfl, hu⟩
    · exact ⟨[], by rw [List.append_nil, List.splitOn_eq_singleton hn], by simp⟩
    · refine ⟨u.splitOn '/', ?_, hu⟩
      rw [List.splitOn_append_cons_self, List.splitOn_eq_singleton hn, List.singleton_append]
  obtain ⟨rest, hrest, hidle⟩ := htail
  rcases hpre with rfl | hpre
  · exact ⟨[], rest, by rw [List.nil_append, hrest, List.nil_append], hidle⟩
  · obtain ⟨pre₀, rfl⟩ := List.getLast?_eq_some_iff.1 hpre
    refine ⟨pre₀.splitOn '/', rest, ?_, hidle⟩
    rw [List.append_assoc, List.append_assoc, List.singleton_append,
      List.splitOn_append_cons_self, hrest]

/-! ## The last component of a path -/

theorem IdleTail.concat_sep {j : List Char} (h : IdleTail j) : IdleTail (j ++ ['/']) := by
  rcases h with rfl | ⟨u, rfl, hu⟩
  · exact .inr ⟨[], rfl, by simp [IdlePiece]⟩
  · refine .inr ⟨u ++ ['/'], rfl, ?_⟩
    rw [List.splitOn_append_cons_self, List.splitOn_nil]
    intro q hq
    rcases List.mem_append.1 hq with hq | hq
    · exact hu q hq
    · rw [List.mem_singleton.1 hq]
      exact .inl rfl

/-- A `.` after a separator that ends an idle tail keeps it idle. -/
theorem IdleTail.concat_dot {ys : List Char} (h : IdleTail (ys ++ ['/'])) :
    IdleTail (ys ++ ['/', '.']) := by
  have hdot : ['.'].splitOn '/' = [['.']] := List.splitOn_eq_singleton (by decide)
  rcases h with h | ⟨u, hu, hidle⟩
  · simp at h
  · cases ys with
    | nil => exact .inr ⟨['.'], rfl, by simp [hdot, IdlePiece]⟩
    | cons y ys =>
      simp only [List.cons_append, List.cons.injEq] at hu
      obtain ⟨rfl, rfl⟩ := hu
      refine .inr ⟨ys ++ ['/', '.'], rfl, ?_⟩
      rw [List.splitOn_append_cons_self, hdot]
      rw [List.splitOn_append_cons_self] at hidle
      intro q hq
      rcases List.mem_append.1 hq with hq | hq
      · exact hidle q (List.mem_append_left _ hq)
      · rw [List.mem_singleton.1 hq]
        exact .inr rfl

theorem le_length_trimEndRev {keep : Nat} {xs : List Char} (h : keep ≤ xs.length) :
    keep ≤ (trimEndRev keep xs).length := by
  fun_induction trimEndRev keep xs <;> simp_all

/-- What trimming the end of a reversed path takes away is an idle tail, and what it leaves,
when longer than its start, ends neither in a separator nor in a `.` piece. -/
theorem trimEndRev_spec {keep : Nat} {xs : List Char} (h : keep < (trimEndRev keep xs).length) :
    (∃ j, xs.reverse = (trimEndRev keep xs).reverse ++ j ∧ IdleTail j) ∧
      (trimEndRev keep xs).head? ≠ some '/' ∧ ∀ rest, trimEndRev keep xs ≠ '.' :: '/' :: rest := by
  fun_induction trimEndRev keep xs with
  | case1 rest _ ih =>
    obtain ⟨⟨j, hj, hidle⟩, hhead, hdot⟩ := ih h
    refine ⟨⟨j ++ ['/'], ?_, hidle.concat_sep⟩, hhead, hdot⟩
    rw [List.reverse_cons, hj, List.append_assoc]
  | case2 rest hlt =>
    simp only [List.length_cons] at h
    omega
  | case3 rest _ ih =>
    obtain ⟨⟨j, hj, hidle⟩, hhead, hdot⟩ := ih h
    -- the trim of `/rest` took something, so what it took ends in that separator
    have hlast : j.getLast? = some '/' := by
      cases j with
      | nil =>
        rw [List.append_nil, List.reverse_inj] at hj
        rw [← hj] at hhead
        exact absurd rfl hhead
      | cons c j' =>
        have hends := congrArg List.getLast? hj
        rw [List.getLast?_append_of_ne_nil _ (List.cons_ne_nil c j'), List.getLast?_reverse] at hends
        exact hends.symm
    obtain ⟨ys, rfl⟩ := List.getLast?_eq_some_iff.1 hlast
    refine ⟨⟨ys ++ ['/', '.'], ?_, hidle.concat_dot⟩, hhead, hdot⟩
    rw [List.reverse_cons, hj]
    simp
  | case4 rest hlt =>
    simp only [List.length_cons] at h
    omega
  | case5 rest hsep hdot =>
    refine ⟨⟨[], by rw [List.append_nil], .inl rfl⟩, ?_, hdot⟩
    cases rest with
    | nil => simp
    | cons c rest =>
      rintro hc
      cases Option.some.inj hc
      exact hsep rest rfl

theorem startLength_le (cs : List Char) : startLength cs ≤ cs.length := by
  unfold startLength
  split <;> simp

/-- The last piece of a path longer than its start is not `.`: a `.` piece at the end is
trimmed, and a path that is `.` and an idle tail is all start. -/
theorem takeWhile_trim_ne_dot {cs t j : List Char} (hlt : startLength cs < t.length)
    (hj : cs = t.reverse ++ j) (hidle : IdleTail j) (hdot : ∀ rest, t ≠ '.' :: '/' :: rest) :
    t.takeWhile (· ≠ '/') ≠ ['.'] := by
  intro h1
  cases t with
  | nil => cases h1
  | cons c t' =>
    by_cases hc : c = '/'
    · rw [List.takeWhile_cons, if_neg (by simpa using hc)] at h1
      cases h1
    · rw [List.takeWhile_cons, if_pos (by simpa using hc)] at h1
      obtain ⟨rfl, ht'⟩ := List.cons_eq_cons.1 h1
      cases t' with
      | nil =>
        have hkeep : startLength cs = 0 := by
          simp only [List.length_cons, List.length_nil] at hlt
          omega
        rcases hidle with rfl | ⟨u, rfl, -⟩ <;> simp_all [startLength]
      | cons e t'' =>
        by_cases he : e = '/'
        · exact hdot t'' (by rw [he])
        · rw [List.takeWhile_cons, if_pos (by simpa using he)] at ht'
          cases ht'

theorem sep_not_mem_lastPiece (t : List Char) : '/' ∉ (t.takeWhile (· ≠ '/')).reverse := by
  intro hm
  have := List.all_eq_true.1 List.all_takeWhile '/' (List.mem_reverse.1 hm)
  simp at this

/-- The last piece of what trimming leaves of a path is named, unless it is `..`. -/
theorem named_lastPiece {cs t j : List Char} (hlt : startLength cs < t.length)
    (hj : cs = t.reverse ++ j) (hidle : IdleTail j) (hhead : t.head? ≠ some '/')
    (hdot : ∀ rest, t ≠ '.' :: '/' :: rest) (hdd : (t.takeWhile (· ≠ '/')).reverse ≠ ['.', '.']) :
    Named (t.takeWhile (· ≠ '/')).reverse := by
  refine ⟨sep_not_mem_lastPiece t, ?_, ?_, hdd⟩
  · -- the trim does not start with a separator, so its last piece is not empty
    cases t with
    | nil => simp at hlt
    | cons c t' =>
      have hc : c ≠ '/' := fun hc => hhead (by rw [hc]; rfl)
      simp [hc]
  · intro h1
    exact takeWhile_trim_ne_dot hlt hj hidle hdot (by simpa using congrArg List.reverse h1)

/-- A text followed by an idle tail ends with the text's last piece. -/
theorem endsWith_lastPiece (t : List Char) {j : List Char} (hj : IdleTail j) :
    EndsWith ((t.reverse ++ j).splitOn '/') (t.takeWhile (· ≠ '/')).reverse := by
  -- the text is what stands before its last piece, and that piece
  have hsplit : t.reverse =
      (t.dropWhile (· ≠ '/')).reverse ++ (t.takeWhile (· ≠ '/')).reverse := by
    rw [← List.reverse_append, List.takeWhile_append_dropWhile]
  rw [hsplit]
  refine endsWith_splitOn ?_ (sep_not_mem_lastPiece t) hj
  rw [Before, List.getLast?_reverse]
  cases hd : t.dropWhile (· ≠ '/') with
  | nil => exact .inl rfl
  | cons c rest =>
    have hc := @List.head_dropWhile_not _ (· ≠ '/') t (by rw [hd]; simp)
    simp only [hd, List.head_cons] at hc
    exact .inr (by simpa using hc)

/-- A file name is a named piece, and the last named piece of its path. -/
theorem fileName?_eq_some {p f : String} (h : fileName? p = some f) :
    Named f.toList ∧ EndsWith (p.toList.splitOn '/') f.toList := by
  simp only [fileName?] at h
  split at h
  · cases h
  · next hlen =>
    split at h
    · cases h
    · next hdd =>
      cases h
      rw [String.toList_ofList]
      have hlt : startLength p.toList < (trimEndRev (startLength p.toList) p.toList.reverse).length :=
        Nat.lt_of_le_of_ne (le_length_trimEndRev (by rw [List.length_reverse]; exact startLength_le _))
          (Ne.symm hlen)
      obtain ⟨⟨j, hj, hidle⟩, hhead, hdot⟩ := trimEndRev_spec hlt
      rw [List.reverse_reverse] at hj
      generalize trimEndRev (startLength p.toList) p.toList.reverse = t at *
      refine ⟨named_lastPiece hlt hj hidle hhead hdot fun h1 => hdd (by rw [h1]), ?_⟩
      rw [hj]
      exact endsWith_lastPiece t hidle

/-! ## Joining a name -/

/-- Joining a name without separators appends it after a separator, or after what may stand
before a component. -/
theorem toList_join (base : String) {name : String} (hn : '/' ∉ name.toList) :
    ∃ s, (join base name).toList = base.toList ++ s ∧
      ((s = name.toList ∧ Before base.toList) ∨ s = '/' :: name.toList) := by
  have habs : isAbsolute name = false := by
    cases hn' : name.toList with
    | nil => simp [isAbsolute, hn']
    | cons c rest =>
      have hc : c ≠ '/' := fun hc => hn (by rw [hn', hc]; exact List.mem_cons_self)
      simp [isAbsolute, hn', hc]
  unfold join
  rw [habs, Bool.false_or]
  split
  · next hempty =>
    have hb : base = "" := String.isEmpty_iff.1 hempty
    exact ⟨name.toList, by simp [hb], .inl ⟨rfl, by simp [Before, hb]⟩⟩
  · split
    · next hsep => exact ⟨name.toList, by simp, .inl ⟨rfl, .inr (by simpa using hsep)⟩⟩
    · exact ⟨'/' :: name.toList, by simp, .inr rfl⟩

theorem endsWith_join (base : String) {name : String} (hn : '/' ∉ name.toList) :
    EndsWith ((join base name).toList.splitOn '/') name.toList := by
  obtain ⟨s, hjoin, ⟨rfl, hb⟩ | rfl⟩ := toList_join base hn
  · rw [hjoin, ← List.append_nil (base.toList ++ name.toList)]
    exact endsWith_splitOn hb hn (.inl rfl)
  · rw [hjoin, ← List.append_nil (base.toList ++ '/' :: name.toList), ← List.singleton_append,
      ← List.append_assoc]
    exact endsWith_splitOn (.inr (List.getLast?_concat ..)) hn (.inl rfl)

/-- A named piece appended after a separator, or after what may stand before a component, is
one more component. -/
theorem components_append_named {r s n : List Char} (hn : Named n)
    (hs : (s = n ∧ Before r) ∨ s = '/' :: n) :
    components (String.ofList (r ++ s)) = components (String.ofList r) ++ [String.ofList n] := by
  have hone : n.splitOn '/' = [n] := List.splitOn_eq_singleton hn.no_sep
  have hempty : stepComponent [] (String.ofList []) = [] := stepComponent_idle (.inl rfl) []
  rcases hs with ⟨rfl, rfl | hr⟩ | rfl
  · rw [List.nil_append, components_ofList, components_ofList, hone, List.splitOn_nil]
    simp only [List.map_cons, List.map_nil, List.foldl_cons, List.foldl_nil, hempty,
      stepComponent_named hn]
  · -- a separator at the end of `r` is an empty piece, which names nothing
    obtain ⟨r₀, rfl⟩ := List.getLast?_eq_some_iff.1 hr
    rw [List.append_assoc, List.singleton_append, components_ofList, components_ofList,
      List.splitOn_append_cons_self, List.splitOn_append_cons_self, hone, List.splitOn_nil]
    simp only [List.map_append, List.map_cons, List.map_nil, List.foldl_append, List.foldl_cons,
      List.foldl_nil, stepComponent_named hn, stepComponent_idle (.inl rfl)]
  · rw [components_ofList, components_ofList, List.splitOn_append_cons_self, hone]
    simp only [List.map_append, List.map_cons, List.map_nil, List.foldl_append, List.foldl_cons,
      List.foldl_nil, stepComponent_named hn]

theorem Before.of_append_sep {h r : List Char} (hb : Before (h ++ '/' :: r)) : Before r := by
  cases r with
  | nil => exact .inl rfl
  | cons c r' =>
    rcases hb with hb | hb
    · simp at hb
    · rw [List.getLast?_append_of_ne_nil _ (List.cons_ne_nil _ _)] at hb
      exact .inr (by simpa using hb)

/-- A prefix that ends in a separator stops before a text without separators. -/
theorem prefix_of_prefix_append {H P s : List Char} (hs : '/' ∉ s) (h : H ++ ['/'] <+: P ++ s) :
    H ++ ['/'] <+: P := by
  rcases List.prefix_or_prefix_of_prefix h (List.prefix_append P s) with h' | ⟨t, ht⟩
  · exact h'
  · cases t with
    | nil => exact ⟨[], by rw [← ht, List.append_nil, List.append_nil]⟩
    | cons c t' =>
      -- the prefix would reach into `s`, and its separator with it
      have hts : c :: t' <+: s := (List.prefix_append_right_inj P).1 (ht ▸ h)
      have hlast := congrArg List.getLast? ht
      rw [List.getLast?_append_of_ne_nil _ (List.cons_ne_nil c t'), List.getLast?_concat] at hlast
      exact absurd (hts.subset (List.mem_of_getLast? hlast)) hs

/-- A prefix ending in a separator of a path with a name joined is a prefix of the path, or is
the path and that separator. -/
theorem prefix_join {H : List Char} {p name : String} (hn : '/' ∉ name.toList)
    (h : H ++ ['/'] <+: (join p name).toList) : H ++ ['/'] <+: p.toList ∨ H = p.toList := by
  obtain ⟨s, hjoin, hs⟩ := toList_join p hn
  rw [hjoin] at h
  rcases hs with ⟨rfl, -⟩ | rfl
  · exact .inl (prefix_of_prefix_append hn h)
  · have h2 : H ++ ['/'] <+: (p.toList ++ ['/']) ++ name.toList := by simpa using h
    rcases List.prefix_concat_iff.1 (prefix_of_prefix_append hn h2) with h'' | h''
    · exact .inr (List.append_cancel_right h'')
    · exact .inl h''

end Path

namespace Disk

variable {d : Disk}

theorem isPrefixOf_sep_iff (p : String) :
    (d.here ++ "/").isPrefixOf p = true ↔ d.here.toList ++ ['/'] <+: p.toList := by
  rw [String.isPrefixOf, String.startsWith_string_iff, String.toList_append]
  rfl

/-- A path under the working directory's absolute name is read from the rest of it. -/
theorem locate_of_under_here {p : String} {r : List Char} (hne : p ≠ d.here)
    (h : p.toList = d.here.toList ++ '/' :: r) : d.locate p = Path.components (String.ofList r) := by
  have hpre : (d.here ++ "/").isPrefixOf p = true := by
    rw [isPrefixOf_sep_iff, h]
    exact ⟨r, by simp⟩
  have hdrop : p.toList.drop (d.here.length + 1) = r := by
    rw [h, ← String.length_toList]
    simp
  rw [locate, if_neg hne, if_pos hpre, hdrop]

theorem locate_of_not_under_here {p : String} (hne : p ≠ d.here)
    (h : ¬d.here.toList ++ ['/'] <+: p.toList) : d.locate p = Path.components p := by
  rw [locate, if_neg hne, if_neg (by rwa [isPrefixOf_sep_iff])]

/-- A path whose last named piece is `n` names the working directory or a place whose last
component is `n`. -/
theorem locate_of_endsWith {p : String} {n : List Char} (hn : Path.Named n)
    (h : Path.EndsWith (p.toList.splitOn '/') n) :
    d.locate p = [] ∨ (d.locate p).getLast? = some (String.ofList n) := by
  by_cases hhere : p = d.here
  · exact .inl (by rw [locate, if_pos hhere])
  by_cases hpre : d.here.toList ++ ['/'] <+: p.toList
  · -- `locate` reads the pieces after the working directory's name: a tail of the path's own
    obtain ⟨r, hr⟩ := hpre
    have hp : p.toList = d.here.toList ++ '/' :: r := by rw [← hr]; simp
    rw [locate_of_under_here hhere hp, Path.components_ofList]
    rw [hp, List.splitOn_append_cons_self] at h
    rcases h.of_append with hB | hidle
    · exact .inr (Path.getLast?_foldl_of_endsWith hn hB [])
    · exact .inl (Path.foldl_idle hidle [])
  · rw [locate_of_not_under_here hhere hpre, Path.components_eq]
    exact .inr (Path.getLast?_foldl_of_endsWith hn h [])

/-- A path with one more named component names another place than the path, unless the path
names the working directory. -/
theorem locate_join_ne {p name : String} (hn : Path.Named name.toList) (hp : d.locate p ≠ []) :
    d.locate (Path.join p name) ≠ d.locate p := by
  obtain ⟨s, hjoin, hs⟩ := Path.toList_join p hn.no_sep
  have hhere : p ≠ d.here := fun h => hp (by rw [locate, if_pos h])
  by_cases hthere : Path.join p name = d.here
  · rw [locate, if_pos hthere]
    exact hp.symm
  by_cases hpre : d.here.toList ++ ['/'] <+: p.toList
  · -- both are read after the working directory's name, and the rest gains a component
    obtain ⟨r, hr⟩ := hpre
    have hp' : p.toList = d.here.toList ++ '/' :: r := by rw [← hr]; simp
    have hr' : (Path.join p name).toList = d.here.toList ++ '/' :: (r ++ s) := by
      rw [hjoin, hp']
      simp
    have hsr : (s = name.toList ∧ Path.Before r) ∨ s = '/' :: name.toList :=
      hs.imp_left fun ⟨hsn, hb⟩ => ⟨hsn, (hp' ▸ hb).of_append_sep⟩
    rw [locate_of_under_here hthere hr', locate_of_under_here hhere hp',
      Path.components_append_named hn hsr]
    simp
  · -- neither is, and the whole path gains a component
    have hpre' : ¬d.here.toList ++ ['/'] <+: (Path.join p name).toList := fun h' =>
      (Path.prefix_join hn.no_sep h').elim hpre fun heq => hhere (String.toList_inj.1 heq).symm
    have hcomp : Path.components (Path.join p name) =
        Path.components (String.ofList (p.toList ++ s)) := by
      rw [← hjoin, String.ofList_toList]
    rw [locate_of_not_under_here hthere hpre', locate_of_not_under_here hhere hpre, hcomp,
      Path.components_append_named hn hs, String.ofList_toList]
    simp

end Disk

namespace Path

theorem named_tmpName {x : String} (hx : '/' ∉ x.toList) : Named (x ++ ".tmp").toList := by
  -- four characters at least: not empty, not `.` and not `..`
  have hshort : ∀ n : List Char, n.length < 4 → (x ++ ".tmp").toList ≠ n := by
    intro n hn h
    have hlen := congrArg List.length h
    simp only [String.toList_append, List.length_append] at hlen
    have h4 : (".tmp" : String).toList.length = 4 := by simp
    omega
  exact ⟨by simp [hx], hshort [] (by decide), hshort ['.'] (by decide),
    hshort ['.', '.'] (by decide)⟩

end Path

namespace Sync

/-- The temporary file of a save lies elsewhere than the file it replaces, unless that file's
path names the working directory itself. -/
theorem locate_tmpPath_ne {d : Disk} {p : String} (hp : d.locate p ≠ []) :
    d.locate (tmpPath p) ≠ d.locate p := by
  cases hf : Path.fileName? p with
  | none =>
    -- a path with no file name gets the temporary name as one more component
    have htmp : tmpPath p = Path.join p ("dictionary" ++ ".tmp") := by
      simp [tmpPath, Path.withFileName, hf]
    rw [htmp]
    exact Disk.locate_join_ne (Path.named_tmpName (by simp)) hp
  | some f =>
    -- the file's path ends in `f` and the temporary path in `f ++ ".tmp"`
    obtain ⟨hname, hends⟩ := Path.fileName?_eq_some hf
    have htmpName := Path.named_tmpName hname.no_sep
    obtain ⟨q, hq⟩ : ∃ q, tmpPath p = Path.join q (f ++ ".tmp") := by
      simp only [tmpPath, Path.withFileName, hf, Option.getD_some]
      split
      · exact ⟨_, rfl⟩
      · exact ⟨_, rfl⟩
    have hends_p : d.locate p = [] ∨ (d.locate p).getLast? = some (String.ofList f.toList) :=
      Disk.locate_of_endsWith hname hends
    have hends_tmp : d.locate (Path.join q (f ++ ".tmp")) = [] ∨
        (d.locate (Path.join q (f ++ ".tmp"))).getLast? =
          some (String.ofList (f ++ ".tmp").toList) :=
      Disk.locate_of_endsWith htmpName (Path.endsWith_join q htmpName.no_sep)
    intro heq
    rcases hends_p with h0 | hlast
    · exact hp h0
    rcases hends_tmp with h0 | hlast'
    · exact hp (by rw [← heq, hq]; exact h0)
    · rw [← hq, heq, hlast] at hlast'
      have hlen := congrArg (Option.map String.length) hlast'
      simp at hlen

/-- A temporary file other than the working directory lies elsewhere than the file it
replaces. -/
theorem locate_tmpPath_ne_of_ne_nil {d : Disk} {p : String} (h : d.locate (tmpPath p) ≠ []) :
    d.locate (tmpPath p) ≠ d.locate p := by
  by_cases h0 : d.locate p = []
  · rw [h0]
    exact h
  · exact locate_tmpPath_ne h0

end Sync

end Wordbook
