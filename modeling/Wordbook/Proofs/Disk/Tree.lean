import Mathlib.Data.List.Find
import Wordbook.Disk

/-!
# The disk as a tree

`Disk` keeps its entries in a list of component paths, and an operation rewrites that list:
`setNode` replaces the entry at one path, `without` drops a whole subtree, `moveTree` carries a
subtree to another place. This module reads each of them back place by place through
`Disk.nodeAt` (`nodeAt_setNode`, `nodeAt_without`, `nodeAt_moveTree`), and inverts the four
operations the editor uses (`makeDir_eq_ok`, `writeFile_cases`, `removeFile_eq_ok`,
`rename_file_eq_ok`): each success names the checks that passed and the rewrite it made. A
write is the one operation that may fail after a rewrite: once the file is open, it holds the
bytes that fit even when not all of them do.

A file system is a tree: every directory above an entry exists, and is a directory. `Disk.WF`
states it. A list of entries need not be a tree (an entry may sit below a file, or below
nothing), and on such a list removing a file would also remove what sits below it; on a tree
nothing does (`WF.nothing_below`). The rewrites the operations make keep a disk a tree when
their checks passed (`WF.setNode`, `WF.without`, `WF.moveTree_file`).

The frame of a change is `Disk.Grows`: a place keeps its node, or gains a directory where it
held nothing. Building a directory grows every place (`grows_of_makeDir`); writing, removing
and moving a file change exactly the places they name and keep every other node of a tree
(`nodeAt_setNode_file`, `nodeAt_of_removeFile`, `nodeAt_moveTree_file`).
-/

set_option autoImplicit false

namespace Wordbook.Disk

/-! ## Reading entries back -/

section Lookup

variable (d : Disk)

theorem isPrefixOf_eq_decide (q p : List String) : q.isPrefixOf p = decide (q <+: p) := by
  rw [Bool.eq_iff_iff, List.isPrefixOf_iff_prefix, decide_eq_true_iff]

@[simp] theorem nodeAt_nil : d.nodeAt [] = some .dir := rfl

theorem nodeAt_of_ne_nil {parts : List String} (h : parts ≠ []) :
    d.nodeAt parts = (d.entries.find? (·.1 == parts)).map (·.2) := by
  simp [nodeAt, List.isEmpty_iff, h]

@[simp] theorem here_setNode (q : List String) (n : Node) : (d.setNode q n).here = d.here := rfl

@[simp] theorem here_without (q : List String) : (d.without q).here = d.here := rfl

@[simp] theorem here_moveTree (s t : List String) : (d.moveTree s t).here = d.here := rfl

/-- Where a path leads depends on the working directory alone. -/
theorem locate_of_here {d' : Disk} (h : d'.here = d.here) (p : String) :
    d'.locate p = d.locate p := by
  simp only [locate, h]

theorem nodeAt_setNode (q : List String) (n : Node) {parts : List String} (hp : parts ≠ []) :
    (d.setNode q n).nodeAt parts = if parts = q then some n else d.nodeAt parts := by
  rw [nodeAt_of_ne_nil _ hp, nodeAt_of_ne_nil _ hp]
  simp only [setNode, List.find?_append, List.find?_filter]
  by_cases h : parts = q
  · subst h
    have hgone : ∀ l : List (List String × Node), l.find? (fun _ => false) = none :=
      fun l => List.find?_eq_none.mpr (by simp)
    simp [hgone]
  · have hnone : List.find? (fun e : List String × Node => e.1 == parts) [(q, n)] = none := by
      simp [Ne.symm h]
    rw [hnone, Option.or_none, if_neg h]
    congr 1
    apply List.find?_congr
    intro e _
    by_cases he : e.1 = parts
    · simp [he, h]
    · simp [he]

theorem nodeAt_without (q : List String) {parts : List String} (hp : parts ≠ []) :
    (d.without q).nodeAt parts = if q <+: parts then none else d.nodeAt parts := by
  rw [nodeAt_of_ne_nil _ hp, nodeAt_of_ne_nil _ hp]
  simp only [without, List.find?_filter, isPrefixOf_eq_decide]
  by_cases h : q <+: parts
  · rw [if_pos h, Option.map_eq_none_iff, List.find?_eq_none]
    intro e _ he
    simp only [decide_eq_true_eq, Bool.not_eq_true', decide_eq_false_iff_not, beq_iff_eq] at he
    rw [he.2] at he
    exact he.1 h
  · rw [if_neg h]
    congr 1
    apply List.find?_congr
    intro e _
    by_cases he : e.1 = parts
    · simp [he, h]
    · simp [he]

/-- The moved entry standing at a path under the target is the entry at the same place under
the source. -/
theorem moved_at_iff {s t parts : List String} (ht : t <+: parts) (e : List String) :
    (s <+: e ∧ t ++ e.drop s.length = parts) ↔ e = s ++ parts.drop t.length := by
  obtain ⟨x, rfl⟩ := ht
  constructor
  · rintro ⟨⟨y, rfl⟩, h⟩
    simp only [List.drop_left, List.append_cancel_left_eq] at h ⊢
    exact h
  · rintro rfl
    simp

theorem nodeAt_moveTree {s t : List String} (hs : s ≠ []) {parts : List String}
    (hp : parts ≠ []) :
    (d.moveTree s t).nodeAt parts =
      if t <+: parts then d.nodeAt (s ++ parts.drop t.length)
      else if s <+: parts then none else d.nodeAt parts := by
  have hsx : s ++ parts.drop t.length ≠ [] := by simp [hs]
  rw [nodeAt_of_ne_nil _ hp, nodeAt_of_ne_nil _ hsx, nodeAt_of_ne_nil _ hp]
  simp only [moveTree, List.find?_append, List.find?_filter, List.find?_filterMap,
    isPrefixOf_eq_decide]
  by_cases ht : t <+: parts
  · -- nothing that stays stands under the target; the moved entries are looked up at the source
    have hkept : d.entries.find? (fun a => decide ((!decide (s <+: a.1) && !decide (t <+: a.1)) =
        true ∧ (a.1 == parts) = true)) = none := by
      rw [List.find?_eq_none]
      intro e _ he
      simp only [decide_eq_true_eq, Bool.and_eq_true, Bool.not_eq_true', decide_eq_false_iff_not,
        beq_iff_eq] at he
      exact he.1.2 (he.2 ▸ ht)
    have hmoved : d.entries.find? (fun a => Option.any (fun x => x.1 == parts)
        (if decide (s <+: a.1) = true then some (t ++ a.1.drop s.length, a.2) else none)) =
        d.entries.find? (fun a => a.1 == s ++ parts.drop t.length) := by
      apply List.find?_congr
      intro e _
      rw [Bool.eq_iff_iff, beq_iff_eq, ← moved_at_iff ht]
      by_cases he : s <+: e.1 <;> simp [he]
    rw [hkept, Option.none_or, hmoved, if_pos ht]
    cases hf : d.entries.find? (fun a => a.1 == s ++ parts.drop t.length) with
    | none => rfl
    | some e =>
      have he : e.1 = s ++ parts.drop t.length := by simpa using List.find?_some hf
      simp [he]
  · have hmoved : d.entries.find? (fun a => Option.any (fun x => x.1 == parts)
        (if decide (s <+: a.1) = true then some (t ++ a.1.drop s.length, a.2) else none)) =
        none := by
      rw [List.find?_eq_none]
      intro e _ he
      by_cases hse : s <+: e.1
      · simp only [hse, decide_true, if_true, Option.any_some, beq_iff_eq] at he
        exact ht ⟨_, he⟩
      · simp [hse] at he
    rw [hmoved, Option.bind_none, Option.or_none, if_neg ht]
    by_cases hsp : s <+: parts
    · rw [if_pos hsp, Option.map_eq_none_iff, List.find?_eq_none]
      intro e _ he
      simp only [decide_eq_true_eq, Bool.and_eq_true, Bool.not_eq_true', decide_eq_false_iff_not,
        beq_iff_eq] at he
      exact he.1.1 (he.2 ▸ hsp)
    · rw [if_neg hsp]
      congr 1
      apply List.find?_congr
      intro e _
      by_cases he : e.1 = parts
      · simp [he, hsp, ht]
      · simp [he]

/-- A node found at a path comes from an entry for that path. -/
theorem exists_entry_of_nodeAt {parts : List String} {n : Node} (hp : parts ≠ [])
    (h : d.nodeAt parts = some n) : ∃ e ∈ d.entries, e.1 = parts ∧ e.2 = n := by
  rw [nodeAt_of_ne_nil _ hp, Option.map_eq_some_iff] at h
  obtain ⟨e, he, rfl⟩ := h
  exact ⟨e, List.mem_of_find?_eq_some he, by simpa using List.find?_some he, rfl⟩

end Lookup

/-! ## The walk to a path -/

/-- A walk over a list of checks succeeds exactly when every check does. -/
theorem forM_eq_ok_iff {α ε : Type} (l : List α) (f : α → Except ε PUnit) :
    l.forM f = .ok () ↔ ∀ x ∈ l, f x = .ok () := by
  induction l with
  | nil => simp only [List.forM_eq_forM, List.forM_nil, List.not_mem_nil]; simp; rfl
  | cons x xs ih =>
    rw [List.forM_eq_forM, List.forM_cons, ← List.forM_eq_forM]
    cases hx : f x with
    | error e => simp [hx, bind, Except.bind]
    | ok u => simpa [hx, bind, Except.bind] using ih

section Operations

variable (d : Disk)

/-- The walk to a path passes exactly when every place above it holds a directory. -/
theorem walk_eq_ok_iff {parts : List String} :
    d.walk parts = .ok () ↔
      ∀ k, 0 < k → k < parts.length → d.nodeAt (parts.take k) = some .dir := by
  unfold walk
  rw [forM_eq_ok_iff]
  constructor
  · intro h k hk hkl
    have := h (parts.take k) (List.mem_map.mpr ⟨k - 1, List.mem_range.mpr (by omega), by
      congr 1; omega⟩)
    split at this <;> simp_all
  · intro h pre hpre
    obtain ⟨n, hn, rfl⟩ := List.mem_map.mp hpre
    have hn' := List.mem_range.mp hn
    rw [h (n + 1) (by omega) (by omega)]

theorem stat_eq_ok_iff {p : String} {n : Node} :
    d.stat p = .ok n ↔ d.walk (d.locate p) = .ok () ∧ d.nodeAt (d.locate p) = some n := by
  unfold stat
  cases hw : d.walk (d.locate p) with
  | error e => simp [hw, bind, Except.bind]
  | ok u =>
    cases hn : d.nodeAt (d.locate p) <;> simp [hw, bind, Except.bind, hn]

theorem readFile_eq_ok_iff {p : String} {bs : List UInt8} :
    d.readFile p = .ok bs ↔
      d.walk (d.locate p) = .ok () ∧ d.nodeAt (d.locate p) = some (.file bs) := by
  unfold readFile
  cases hw : d.walk (d.locate p) with
  | error e => simp [hw, bind, Except.bind]
  | ok u =>
    rcases hn : d.nodeAt (d.locate p) with _ | _ | _ <;> simp [hw, bind, Except.bind, hn]

theorem makeDir_eq_ok {p : String} {d' : Disk} (h : d.makeDir p = .ok d') :
    d.locate p ≠ [] ∧ d.walk (d.locate p) = .ok () ∧ d.nodeAt (d.locate p) = none ∧
      d' = d.setNode (d.locate p) .dir := by
  unfold makeDir at h
  by_cases he : (d.locate p).isEmpty
  · simp [he, throw, throwThe, MonadExceptOf.throw, bind, Except.bind] at h
  · cases hw : d.walk (d.locate p) with
    | error e => simp [he, hw, bind, Except.bind] at h
    | ok u =>
      simp only [he, hw, bind, Except.bind, if_false, Bool.false_eq_true] at h
      refine ⟨by simpa [List.isEmpty_iff] using he, rfl, ?_⟩
      split at h <;> simp_all

theorem openWrite_eq_ok {p : String} {parts : List String} (h : d.openWrite p = .ok parts) :
    parts = d.locate p ∧ d.walk (d.locate p) = .ok () ∧ d.nodeAt (d.locate p) ≠ some .dir := by
  unfold openWrite at h
  cases hw : d.walk (d.locate p) with
  | error e => simp [hw, bind, Except.bind] at h
  | ok u =>
    simp only [hw, bind, Except.bind] at h
    split at h <;> simp_all

/-- A write either fails to open the file and changes nothing, or puts a file at the path with
the bytes: all of them when it succeeds, the first ones, those that fit, when the disk is
full. -/
theorem writeFile_cases {p : String} {bs : List UInt8} {r : Except OsError Unit} {d' : Disk}
    (h : d.writeFile p bs = (r, d')) :
    (∃ e, r = .error e ∧ d' = d) ∨
      (d.walk (d.locate p) = .ok () ∧ d.nodeAt (d.locate p) ≠ some .dir ∧
        ∃ written, d' = d.setNode (d.locate p) (.file written) ∧
          ((r = .ok () ∧ written = bs) ∨ (r = .error .noSpace ∧ written <+: bs))) := by
  unfold writeFile at h
  split at h
  · next e _ =>
    cases h
    exact .inl ⟨e, rfl, rfl⟩
  · next parts ho =>
    obtain ⟨rfl, hw, hn⟩ := openWrite_eq_ok d ho
    refine .inr ⟨hw, hn, ?_⟩
    split at h
    · split at h
      · cases h
        exact ⟨bs, rfl, .inl ⟨rfl, rfl⟩⟩
      · -- the disk is full: the file keeps the bytes that fit
        cases h
        exact ⟨_, rfl, .inr ⟨rfl, List.take_prefix _ _⟩⟩
    · cases h
      exact ⟨bs, rfl, .inl ⟨rfl, rfl⟩⟩

theorem removeFile_eq_ok {p : String} {d' : Disk} (h : d.removeFile p = .ok d') :
    d.walk (d.locate p) = .ok () ∧ (∃ bs, d.nodeAt (d.locate p) = some (.file bs)) ∧
      d' = d.without (d.locate p) := by
  unfold removeFile at h
  cases hw : d.walk (d.locate p) with
  | error e => simp [hw, bind, Except.bind] at h
  | ok u =>
    simp only [hw, bind, Except.bind] at h
    refine ⟨rfl, ?_⟩
    split at h <;> simp_all

/-- A file moves only to a different place that is free or holds a file and is not below it. -/
theorem rename_file_eq_ok {src dst : String} {bs : List UInt8} {d' : Disk}
    (hs : d.nodeAt (d.locate src) = some (.file bs)) (h : d.rename src dst = .ok d') :
    (d.locate src = d.locate dst ∧ d' = d) ∨
      (d.locate src ≠ d.locate dst ∧ d.walk (d.locate dst) = .ok () ∧
        d.nodeAt (d.locate dst) ≠ some .dir ∧ ¬ d.locate src <+: d.locate dst ∧
        d' = d.moveTree (d.locate src) (d.locate dst)) := by
  unfold rename at h
  cases hws : d.walk (d.locate src) with
  | error e => simp [hws, bind, Except.bind] at h
  | ok u =>
    simp only [hws, hs, bind, Except.bind] at h
    cases hwt : d.walk (d.locate dst) with
    | error e => simp [hwt] at h
    | ok v =>
      simp only [hwt] at h
      by_cases heq : d.locate src = d.locate dst
      · simp [heq, pure, Except.pure] at h
        exact .inl ⟨heq, h.symm⟩
      · simp only [heq, if_false] at h
        refine .inr ⟨heq, rfl, ?_⟩
        split at h
        · simp at h
        · simp at h
        · exact absurd ‹Node.file bs = Node.dir› (by simp)
        · rename_i hnotdir _ _
          by_cases hpre : d.locate src <+: d.locate dst
          · simp [List.isPrefixOf_iff_prefix.mpr hpre] at h
          · rw [if_neg (by simpa [List.isPrefixOf_iff_prefix] using hpre)] at h
            exact ⟨fun hd => hnotdir bs rfl hd, hpre, (Except.ok.inj h).symm⟩

end Operations

/-! ## Trees -/

/-- A disk is a tree: every directory above an entry is there, and is a directory. -/
def WF (d : Disk) : Prop :=
  ∀ e ∈ d.entries, ∀ k, 0 < k → k < e.1.length → d.nodeAt (e.1.take k) = some .dir

theorem wf_empty (here : String) : (Disk.empty here).WF := by
  intro e he
  simp [Disk.empty] at he

section Trees

variable {d : Disk}

theorem take_ne_nil {parts : List String} {k : Nat} (hk : 0 < k) (hkl : k < parts.length) :
    parts.take k ≠ [] := by
  simp only [ne_eq, List.take_eq_nil_iff, not_or]
  exact ⟨by omega, fun h => by simp [h] at hkl⟩

/-- Below a place that holds no directory, a tree holds nothing. -/
theorem WF.nothing_below (hwf : d.WF) {q parts : List String} (hq0 : q ≠ [])
    (hq : d.nodeAt q ≠ some .dir) (hpre : q <+: parts) (hne : q ≠ parts) :
    d.nodeAt parts = none := by
  cases hn : d.nodeAt parts with
  | none => rfl
  | some n =>
    have hp : parts ≠ [] := fun h => hq0 (List.prefix_nil.mp (h ▸ hpre))
    obtain ⟨e, he, hpath, -⟩ := exists_entry_of_nodeAt d hp hn
    have hlen : q.length < parts.length := by
      rcases Nat.lt_or_eq_of_le hpre.length_le with h | h
      · exact h
      · exact absurd (List.IsPrefix.eq_of_length hpre h) hne
    have hdir := hwf e he q.length (List.length_pos_iff.mpr hq0) (hpath ▸ hlen)
    rw [hpath, ← List.prefix_iff_eq_take.mp hpre] at hdir
    exact absurd hdir hq

/-- Every place above something in a tree holds a directory. -/
theorem WF.walk_of_nodeAt (hwf : d.WF) {parts : List String} {n : Node}
    (hn : d.nodeAt parts = some n) : d.walk parts = .ok () := by
  rw [walk_eq_ok_iff]
  intro k hk hkl
  have hp : parts ≠ [] := fun h => by simp [h] at hkl
  obtain ⟨e, he, rfl, -⟩ := exists_entry_of_nodeAt d hp hn
  exact hwf e he k hk hkl

/-- In a tree, what a path names is exactly the node at its place. -/
theorem WF.stat_toOption (hwf : d.WF) (p : String) :
    (d.stat p).toOption = d.nodeAt (d.locate p) := by
  cases hn : d.nodeAt (d.locate p) with
  | none =>
    cases hs : d.stat p with
    | error e => rfl
    | ok n => simp [((stat_eq_ok_iff d).mp hs).2] at hn
  | some n =>
    rw [(stat_eq_ok_iff d).mpr ⟨hwf.walk_of_nodeAt hn, hn⟩]
    rfl

/-- In a tree, a file can always be removed. -/
theorem WF.removeFile_of_file (hwf : d.WF) {p : String} {bs : List UInt8}
    (hn : d.nodeAt (d.locate p) = some (.file bs)) :
    d.removeFile p = .ok (d.without (d.locate p)) := by
  unfold removeFile
  simp [hwf.walk_of_nodeAt hn, hn, bind, Except.bind]

/-- In a tree, renaming a file to its own place succeeds and changes nothing. -/
theorem WF.rename_self (hwf : d.WF) {src dst : String} {bs : List UInt8}
    (hn : d.nodeAt (d.locate src) = some (.file bs)) (heq : d.locate src = d.locate dst) :
    d.rename src dst = .ok d := by
  have hw := hwf.walk_of_nodeAt hn
  unfold rename
  simp [hw, hn, ← heq, bind, Except.bind, pure, Except.pure]

/-- Setting a node at a place whose walk passes keeps a tree, unless a file would replace a
directory. -/
theorem WF.setNode (hwf : d.WF) {q : List String} {n : Node} (hw : d.walk q = .ok ())
    (hn : n = .dir ∨ d.nodeAt q ≠ some .dir) : (d.setNode q n).WF := by
  intro e he k hk hkl
  have hx : e.1.take k ≠ [] := take_ne_nil hk hkl
  rw [nodeAt_setNode _ _ _ hx]
  simp only [Disk.setNode, List.mem_append, List.mem_filter, List.mem_singleton] at he
  rcases he with ⟨he, hne⟩ | rfl
  · have hdir := hwf e he k hk hkl
    split
    · rename_i hq
      rcases hn with rfl | hn
      · rfl
      · exact absurd (hq ▸ hdir) hn
    · exact hdir
  · simp only at hkl ⊢
    have hshort : q.take k ≠ q := fun h => by
      have := congrArg List.length h
      simp only [List.length_take] at this
      omega
    rw [if_neg hshort]
    exact (walk_eq_ok_iff d).mp hw k hk hkl

/-- Dropping a subtree keeps a tree. -/
theorem WF.without (hwf : d.WF) (q : List String) : (d.without q).WF := by
  intro e he k hk hkl
  simp only [Disk.without, List.mem_filter, Bool.not_eq_true', isPrefixOf_eq_decide,
    decide_eq_false_iff_not] at he
  rw [nodeAt_without _ _ (take_ne_nil hk hkl),
    if_neg (fun h => he.2 (h.trans (List.take_prefix k e.1)))]
  exact hwf e he.1 k hk hkl

/-- Moving a file to a free place, or over a file, keeps a tree: nothing sits below either. -/
theorem WF.moveTree_file (hwf : d.WF) {s t : List String} {bs : List UInt8} (hs0 : s ≠ [])
    (hs : d.nodeAt s = some (.file bs)) (hwt : d.walk t = .ok ())
    (hst : ¬ s <+: t) : (d.moveTree s t).WF := by
  intro e he k hk hkl
  have hx : e.1.take k ≠ [] := take_ne_nil hk hkl
  rw [nodeAt_moveTree _ hs0 hx]
  simp only [Disk.moveTree, List.mem_append, List.mem_filter, List.mem_filterMap,
    Bool.and_eq_true, Bool.not_eq_true', isPrefixOf_eq_decide, decide_eq_false_iff_not] at he
  rcases he with ⟨he, hns, hnt⟩ | ⟨e0, he0, hmove⟩
  · have hpre := List.take_prefix k e.1
    rw [if_neg (fun h => hnt (h.trans hpre)), if_neg (fun h => hns (h.trans hpre))]
    exact hwf e he k hk hkl
  · by_cases hse : s <+: e0.1
    · -- only the file itself stands at or below `s`, so the moved entry stands at `t`
      have he0s : e0.1 = s := by
        by_contra hne
        have hp0 : e0.1 ≠ [] := fun h => hs0 (List.prefix_nil.mp (h ▸ hse))
        have hnone := hwf.nothing_below hs0 (by simp [hs]) hse (Ne.symm hne)
        have hsome : d.nodeAt e0.1 ≠ none := by
          rw [nodeAt_of_ne_nil d hp0]
          simp only [ne_eq, Option.map_eq_none_iff, List.find?_eq_none, not_forall, not_not]
          exact ⟨e0, he0, by simp⟩
        exact hsome hnone
      simp only [hse, decide_true, if_true, Option.some.injEq] at hmove
      subst hmove
      simp only [he0s, List.drop_length, List.append_nil] at hk hkl ⊢
      have hshort : ¬ t <+: t.take k := fun h => by
        have := h.length_le
        simp only [List.length_take] at this
        omega
      rw [if_neg hshort, if_neg (fun h => hst (h.trans (List.take_prefix k t)))]
      exact (walk_eq_ok_iff d).mp hwt k hk hkl
    · simp [hse] at hmove

/-- Above something in a tree every place holds a directory. -/
theorem WF.dir_above (hwf : d.WF) {q parts : List String} {n : Node} (hq0 : q ≠ [])
    (hn : d.nodeAt parts = some n) (hpre : q <+: parts) (hne : q ≠ parts) :
    d.nodeAt q = some .dir := by
  by_contra hq
  rw [hwf.nothing_below hq0 hq hpre hne] at hn
  cases hn

end Trees

/-! ## Frames -/

/-- A place keeps its node, or gains a directory where it held nothing. -/
def Grows (d d' : Disk) (parts : List String) : Prop :=
  d'.nodeAt parts = d.nodeAt parts ∨ (d.nodeAt parts = none ∧ d'.nodeAt parts = some .dir)

section Frames

variable {d d' d'' : Disk} {parts : List String}

theorem Grows.refl (d : Disk) (parts : List String) : Grows d d parts := .inl rfl

theorem Grows.of_eq (h : d'.nodeAt parts = d.nodeAt parts) : Grows d d' parts := .inl h

theorem Grows.trans (h₁ : Grows d d' parts) (h₂ : Grows d' d'' parts) : Grows d d'' parts := by
  rcases h₁ with h₁ | ⟨hnone, hdir⟩
  · rcases h₂ with h₂ | ⟨hnone', hdir'⟩
    · exact .inl (h₂.trans h₁)
    · exact .inr ⟨h₁ ▸ hnone', hdir'⟩
  · rcases h₂ with h₂ | ⟨hnone', -⟩
    · exact .inr ⟨hnone, h₂.trans hdir⟩
    · rw [hdir] at hnone'
      cases hnone'

/-- A place that held something keeps it. -/
theorem Grows.eq_of_ne_none (h : Grows d d' parts) (hn : d.nodeAt parts ≠ none) :
    d'.nodeAt parts = d.nodeAt parts := by
  rcases h with h | ⟨hnone, -⟩
  · exact h
  · exact absurd hnone hn

theorem grows_of_makeDir {p : String} (h : d.makeDir p = .ok d') (parts : List String) :
    Grows d d' parts := by
  obtain ⟨-, -, hnone, rfl⟩ := makeDir_eq_ok d h
  by_cases hp : parts = []
  · subst hp
    exact .inl rfl
  · rw [Grows, nodeAt_setNode _ _ _ hp]
    by_cases hq : parts = d.locate p
    · subst hq
      exact .inr ⟨hnone, if_pos rfl⟩
    · exact .inl (if_neg hq)

/-- A file set where no directory is changes that place only. -/
theorem nodeAt_setNode_file {q : List String} (bs : List UInt8) (hq : d.nodeAt q ≠ some .dir)
    (parts : List String) :
    (d.setNode q (.file bs)).nodeAt parts =
      if parts = q then some (.file bs) else d.nodeAt parts := by
  by_cases hp : parts = []
  · subst hp
    have hq' : [] ≠ q := fun h => hq (h ▸ nodeAt_nil d)
    simp [hq']
  · exact nodeAt_setNode _ _ _ hp

theorem nodeAt_of_removeFile (hwf : d.WF) {p : String} (h : d.removeFile p = .ok d')
    (parts : List String) :
    d'.nodeAt parts = if parts = d.locate p then none else d.nodeAt parts := by
  obtain ⟨-, ⟨bs, hfile⟩, rfl⟩ := removeFile_eq_ok d h
  have hq0 : d.locate p ≠ [] := fun hq => by simp [hq] at hfile
  by_cases hp : parts = []
  · subst hp
    simp [Ne.symm hq0]
  · rw [nodeAt_without _ _ hp]
    by_cases hq : parts = d.locate p
    · simp [hq]
    · rw [if_neg hq]
      split
      · -- what stood below the file was nothing already
        rename_i hpre
        exact (hwf.nothing_below hq0 (by simp [hfile]) hpre (Ne.symm hq)).symm
      · rfl

/-- A file moved to another place that is free or holds a file: it stands there and no longer
where it was, and every other place of a tree keeps its node. -/
theorem nodeAt_moveTree_file (hwf : d.WF) {s t : List String} {bs : List UInt8} (hs0 : s ≠ [])
    (hs : d.nodeAt s = some (.file bs)) (ht : d.nodeAt t ≠ some .dir) (hst : ¬ s <+: t)
    (parts : List String) :
    (d.moveTree s t).nodeAt parts =
      if parts = t then d.nodeAt s else if parts = s then none else d.nodeAt parts := by
  have ht0 : t ≠ [] := fun h => ht (h ▸ nodeAt_nil d)
  have hts : ¬ t <+: s := fun h => by
    have hne : t ≠ s := fun h' => hst (h' ▸ List.prefix_refl t)
    exact ht (hwf.dir_above ht0 hs h hne)
  by_cases hp : parts = []
  · subst hp
    simp [Ne.symm ht0, Ne.symm hs0]
  rw [nodeAt_moveTree _ hs0 hp]
  by_cases htp : t <+: parts
  · rw [if_pos htp]
    by_cases hpt : parts = t
    · subst hpt
      simp
    · -- strictly below the target: nothing before, and nothing from strictly below the file
      have hps : parts ≠ s := fun h => hts (h ▸ htp)
      rw [if_neg hpt, if_neg hps, hwf.nothing_below ht0 ht htp (Ne.symm hpt)]
      have hx : parts.drop t.length ≠ [] := by
        obtain ⟨x, rfl⟩ := htp
        simp only [List.drop_left]
        rintro rfl
        simp at hpt
      exact hwf.nothing_below hs0 (by simp [hs]) (List.prefix_append s _)
        (fun h => hx (by simpa using h.symm))
  · have hpt : parts ≠ t := fun h => htp (h ▸ List.prefix_refl t)
    rw [if_neg htp, if_neg hpt]
    by_cases hsp : s <+: parts
    · rw [if_pos hsp]
      by_cases hps : parts = s
      · simp [hps]
      · rw [if_neg hps, hwf.nothing_below hs0 (by simp [hs]) hsp (Ne.symm hps)]
    · have hps : parts ≠ s := fun h => hsp (h ▸ List.prefix_refl s)
      rw [if_neg hsp, if_neg hps]

end Frames

end Wordbook.Disk
