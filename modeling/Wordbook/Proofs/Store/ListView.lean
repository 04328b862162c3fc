import Wordbook.Store

/-!
# The store as a list with an unsaved-changes flag

A store is used through six operations (`Store.Op`): load lines, replace all entries, add an
entry, add a blank entry, remove the entry at a position, and set one field of the entry at a
position. `Store.apply` runs one of them and gives its reply; `Store.run` runs a sequence.

The list model says what a run does without a store: `ListModel.step` acts on a plain list by
position, with `take` and `drop`, and `ListModel.EditedSinceReset` reads the flag off the run's
history: some entry was added, or removed or edited at a position that held one, and no load or
replacement came after it.

**The law** (`run_follows_list`): from the empty store or a store loaded from lines, after any
sequence of operations the store holds the list model's entries, every operation gave the list
model's reply, and the store has unsaved changes exactly when an edit came after the last load or
replacement. In particular a removal or an edit past the end answers the position and the
length, and changes neither the entries nor the flag.

One operation is described by `apply_view` and `apply_dirty`; a run follows by induction over
the sequence, from any store (`run_view`, `run_dirty_iff`).
-/

set_option autoImplicit false

namespace Wordbook.Store

/-- The operations a store is used through. -/
inductive Op where
  | load (lines : List String)
  | replaceAll (es : List Entry)
  | add (e : Entry)
  | addBlank
  | removeAt (i : Nat)
  | edit (i : Nat) (f : Entry.Field) (text : String)

/-- What an operation answers. -/
inductive Reply where
  /-- A load or a replacement answers nothing. -/
  | done
  /-- The position of the added entry. -/
  | index (i : Nat)
  /-- The entry removed, or the entry as edited. -/
  | entry (e : Entry)
  /-- A removal or an edit past the end. -/
  | outOfRange (err : IndexOutOfRange)

/-- One operation on a store and its reply; a refused removal or edit keeps the store. -/
def apply (s : Store) : Op → Store × Reply
  | .load lines => (s.load lines, .done)
  | .replaceAll es => (s.replaceAll es, .done)
  | .add e => ((s.add e).1, .index (s.add e).2)
  | .addBlank => (s.addBlank.1, .index s.addBlank.2)
  | .removeAt i =>
    match s.removeAt i with
    | .ok (e, s') => (s', .entry e)
    | .error err => (s, .outOfRange err)
  | .edit i f text =>
    match s.edit i f text with
    | .ok (e, s') => (s', .entry e)
    | .error err => (s, .outOfRange err)

/-- A sequence of operations on a store, with their replies in order. -/
def run (s : Store) : List Op → Store × List Reply
  | [] => (s, [])
  | op :: ops =>
    let r := (s.apply op).1.run ops
    (r.1, (s.apply op).2 :: r.2)

/-- Whether an operation replaces the whole contents. -/
def Op.resets : Op → Bool
  | .load _ | .replaceAll _ => true
  | _ => false

/-! ## The list model -/

namespace ListModel

/-- One operation on a list of entries, by position. -/
def step (xs : List Entry) : Op → List Entry × Reply
  | .load lines => (Entry.ofLines lines, .done)
  | .replaceAll es => (es, .done)
  | .add e => (xs ++ [e], .index xs.length)
  | .addBlank => (xs ++ [⟨"", ""⟩], .index xs.length)
  | .removeAt i =>
    if h : i < xs.length then (xs.take i ++ xs.drop (i + 1), .entry xs[i])
    else (xs, .outOfRange ⟨i, xs.length⟩)
  | .edit i f text =>
    if h : i < xs.length then
      (xs.take i ++ xs[i].set f text :: xs.drop (i + 1), .entry (xs[i].set f text))
    else (xs, .outOfRange ⟨i, xs.length⟩)

/-- A sequence of operations on a list, with their replies in order. -/
def run (xs : List Entry) : List Op → List Entry × List Reply
  | [] => (xs, [])
  | op :: ops =>
    let r := run (step xs op).1 ops
    (r.1, (step xs op).2 :: r.2)

/-- Whether an operation edits the list: an addition, or a removal or an edit at a position
that holds an entry. -/
def edits (xs : List Entry) : Op → Bool
  | .add _ | .addBlank => true
  | .removeAt i | .edit i _ _ => decide (i < xs.length)
  | .load _ | .replaceAll _ => false

/-- Some operation of the run edited the list, and no load or replacement came after it. -/
def EditedSinceReset (xs : List Entry) (ops : List Op) : Prop :=
  ∃ pre op post, ops = pre ++ op :: post ∧ edits (run xs pre).1 op = true ∧
    ∀ o ∈ post, o.resets = false

/-- An operation replaces the contents, edits them, or does neither; never both. -/
theorem resets_or_edits (xs : List Entry) (op : Op) :
    (op.resets = true ∧ edits xs op = false) ∨ (op.resets = false ∧ edits xs op = true) ∨
      (op.resets = false ∧ edits xs op = false) := by
  cases op with
  | load lines => exact .inl ⟨rfl, rfl⟩
  | replaceAll es => exact .inl ⟨rfl, rfl⟩
  | add e => exact .inr (.inl ⟨rfl, rfl⟩)
  | addBlank => exact .inr (.inl ⟨rfl, rfl⟩)
  | removeAt i => cases h : decide (i < xs.length) <;> simp [Op.resets, edits, h]
  | edit i f text => cases h : decide (i < xs.length) <;> simp [Op.resets, edits, h]

theorem not_editedSinceReset_nil (xs : List Entry) : ¬ EditedSinceReset xs [] := by
  rintro ⟨pre, op, post, heq, -⟩
  simp at heq

/-- The history after one more operation in front: that operation edited and nothing after it
reset, or the rest of the run edited since its last reset. -/
theorem editedSinceReset_cons (xs : List Entry) (op : Op) (ops : List Op) :
    EditedSinceReset xs (op :: ops) ↔
      (edits xs op = true ∧ ∀ o ∈ ops, o.resets = false) ∨
        EditedSinceReset (step xs op).1 ops := by
  constructor
  · rintro ⟨pre, o, post, heq, hedit, hpost⟩
    -- the edit is the operation in front, or one of the rest
    rcases List.cons_eq_append_iff.1 heq with ⟨rfl, hcons⟩ | ⟨pre', rfl, hrest⟩
    · obtain ⟨rfl, rfl⟩ := List.cons.inj hcons
      exact .inl ⟨hedit, hpost⟩
    · exact .inr ⟨pre', o, post, hrest, hedit, hpost⟩
  · rintro (⟨hedit, hops⟩ | ⟨pre, o, post, rfl, hedit, hpost⟩)
    · exact ⟨[], op, ops, rfl, hedit, hops⟩
    · exact ⟨op :: pre, o, post, rfl, hedit, hpost⟩

end ListModel

/-! ## One operation -/

section Step

variable (s : Store) {i : Nat}

theorem check_of_lt (h : i < s.entries.length) : s.check i = .ok s.entries[i] := by
  simp [check, List.getElem?_eq_getElem h]

theorem check_of_le (h : s.entries.length ≤ i) : s.check i = .error ⟨i, s.len⟩ := by
  simp [check, List.getElem?_eq_none h]

theorem removeAt_of_lt (h : i < s.entries.length) :
    s.removeAt i = .ok (s.entries[i], ⟨s.entries.eraseIdx i, true⟩) := by
  simp only [removeAt, check_of_lt s h]
  rfl

theorem removeAt_of_le (h : s.entries.length ≤ i) : s.removeAt i = .error ⟨i, s.len⟩ := by
  simp only [removeAt, check_of_le s h]
  rfl

theorem edit_of_lt (h : i < s.entries.length) (f : Entry.Field) (text : String) :
    s.edit i f text =
      .ok (s.entries[i].set f text, ⟨s.entries.set i (s.entries[i].set f text), true⟩) := by
  simp only [edit, check_of_lt s h]
  rfl

theorem edit_of_le (h : s.entries.length ≤ i) (f : Entry.Field) (text : String) :
    s.edit i f text = .error ⟨i, s.len⟩ := by
  simp only [edit, check_of_le s h]
  rfl

/-- One operation gives the list model's entries and reply. -/
theorem apply_view (op : Op) :
    ((s.apply op).1.entries, (s.apply op).2) = ListModel.step s.entries op := by
  cases op with
  | load lines => rfl
  | replaceAll es => rfl
  | add e => rfl
  | addBlank => rfl
  | removeAt i =>
    by_cases h : i < s.entries.length
    · simp [apply, ListModel.step, removeAt_of_lt s h, h, List.eraseIdx_eq_take_drop_succ]
    · simp [apply, ListModel.step, removeAt_of_le s (Nat.le_of_not_lt h), h, len]
  | edit i f text =>
    by_cases h : i < s.entries.length
    · simp [apply, ListModel.step, edit_of_lt s h, h, List.set_eq_take_append_cons_drop]
    · simp [apply, ListModel.step, edit_of_le s (Nat.le_of_not_lt h), h, len]

/-- One operation clears the flag when it replaces the contents, sets it when it edits them,
and keeps it otherwise. -/
theorem apply_dirty (op : Op) :
    (s.apply op).1.dirty = (!op.resets && (ListModel.edits s.entries op || s.dirty)) := by
  cases op with
  | load lines => rfl
  | replaceAll es => rfl
  | add e => rfl
  | addBlank => rfl
  | removeAt i =>
    by_cases h : i < s.entries.length
    · simp [apply, ListModel.edits, removeAt_of_lt s h, h, Op.resets]
    · simp [apply, ListModel.edits, removeAt_of_le s (Nat.le_of_not_lt h), h, Op.resets]
  | edit i f text =>
    by_cases h : i < s.entries.length
    · simp [apply, ListModel.edits, edit_of_lt s h, h, Op.resets]
    · simp [apply, ListModel.edits, edit_of_le s (Nat.le_of_not_lt h), h, Op.resets]

end Step

/-! ## Runs -/

/-- A run gives the list model's entries and replies, from any store. -/
theorem run_view (s : Store) (ops : List Op) :
    ((s.run ops).1.entries, (s.run ops).2) = ListModel.run s.entries ops := by
  induction ops generalizing s with
  | nil => rfl
  | cons op ops ih =>
    have hstep := apply_view s op
    have hentries : (s.apply op).1.entries = (ListModel.step s.entries op).1 :=
      congrArg Prod.fst hstep
    have hreply : (s.apply op).2 = (ListModel.step s.entries op).2 := congrArg Prod.snd hstep
    -- the rest of the run starts from the entries the first operation left
    have hrest := ih (s.apply op).1
    rw [hentries] at hrest
    simp only [run, ListModel.run, ← hrest, hreply]

/-- After a run from any store, there are unsaved changes exactly when there were some at the
start and nothing replaced the contents, or an edit came after the last replacement. -/
theorem run_dirty_iff (s : Store) (ops : List Op) :
    (s.run ops).1.dirty = true ↔
      (s.dirty = true ∧ ∀ o ∈ ops, o.resets = false) ∨
        ListModel.EditedSinceReset s.entries ops := by
  induction ops generalizing s with
  | nil => simp [run, ListModel.not_editedSinceReset_nil]
  | cons op ops ih =>
    have hentries : (s.apply op).1.entries = (ListModel.step s.entries op).1 :=
      congrArg Prod.fst (apply_view s op)
    simp only [run]
    rw [ih, apply_dirty, ListModel.editedSinceReset_cons, hentries]
    rcases ListModel.resets_or_edits s.entries op with ⟨hr, he⟩ | ⟨hr, he⟩ | ⟨hr, he⟩
    · -- a load or a replacement clears the flag, and no edit before it counts
      simp [hr, he]
    · -- an edit sets the flag, whatever it was before
      simp only [hr, he, Bool.not_false, Bool.true_or, Bool.and_self, true_and]
      constructor
      · rintro (hops | hrest)
        · exact .inr (.inl hops)
        · exact .inr (.inr hrest)
      · rintro (⟨-, hops⟩ | hops | hrest)
        · exact .inl fun o ho => hops o (List.mem_cons_of_mem _ ho)
        · exact .inl hops
        · exact .inr hrest
    · -- anything else keeps the flag
      simp [hr, he]

-- an addition, then a replacement, then a refused removal: no unsaved changes
example : (Store.empty.run [.add ⟨"a", "1"⟩, .replaceAll [], .removeAt 0]).1.dirty = false := by
  decide

/-- The stores a run starts from: the empty store, and a store loaded from lines. -/
inductive Initial : Store → Prop
  | empty : Initial Store.empty
  | ofLines (lines : List String) : Initial (Store.ofLines lines)

theorem Initial.dirty_eq_false {s : Store} (h : s.Initial) : s.dirty = false := by
  cases h <;> rfl

/-- From the empty store or a store loaded from lines, any sequence of operations leaves the
list model's entries and gives its replies, and there are unsaved changes exactly when some
operation edited the entries after the last load or replacement. -/
theorem run_follows_list {s : Store} (hs : s.Initial) (ops : List Op) :
    (s.run ops).1.entries = (ListModel.run s.entries ops).1 ∧
      (s.run ops).2 = (ListModel.run s.entries ops).2 ∧
      ((s.run ops).1.dirty = true ↔ ListModel.EditedSinceReset s.entries ops) := by
  have hview := run_view s ops
  refine ⟨congrArg Prod.fst hview, congrArg Prod.snd hview, ?_⟩
  rw [run_dirty_iff, hs.dirty_eq_false]
  simp

/-- The store of three lines: a blank entry added, a removal past the end refused, an edit,
then everything replaced. -/
theorem sample_run_follows_list :
    let s := Store.ofLines ["a, 1", "# skip", "b, 2"]
    let ops := [Op.addBlank, .removeAt 7, .edit 0 .value "one", .replaceAll [⟨"z", "26"⟩]]
    s.Initial ∧ (s.run ops).1.entries = (ListModel.run s.entries ops).1 ∧
      (s.run ops).2 = (ListModel.run s.entries ops).2 ∧
      ((s.run ops).1.dirty = true ↔ ListModel.EditedSinceReset s.entries ops) := by
  intro s ops
  exact ⟨.ofLines _, run_follows_list (.ofLines _) ops⟩

end Wordbook.Store
