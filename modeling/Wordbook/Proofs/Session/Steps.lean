import Wordbook.Proofs.Sync.Effects
import Wordbook.Session
import Wordbook.Entry.Clean.FirstOccurrence

/-!
# What one session operation can do

One inversion lemma per operation of `Session` that touches storage, run on a disk: it names
the storage call the operation makes and, for each of its outcomes, the answer and the session
after it. Later proofs take an operation's run apart with these lemmas only; none of them
unfolds an operation again.

* `reload_cases`: the file is read; a failure keeps the session, a success holds the entries
  read, clean.
* `save_cases`: the clean entries are written; a failure keeps the session, a success holds
  exactly what was written, clean.
* `resolveUnsaved_cases`: a clean store, `discard` and `abort` touch nothing; `save` on unsaved
  edits is a save.
* `setProfile_cases`, `close_cases`: an unknown or the active language touches nothing; else
  unsaved edits are resolved first, and a switch then reads the new file.

The edits `add`, `remove` and `edit` touch no storage: one that is done changes only the
store, which then has unsaved edits; a refused one keeps the session.
-/

set_option autoImplicit false

namespace Wordbook.Session

open DiskM

variable {s s' : Session} {d d' : Disk}

/-- The session after a successful save: the entries written, clean. -/
def saved (s : Session) : Session :=
  { s with store := s.store.replaceAll (Entry.clean s.store.entries) }

@[simp] theorem saved_path (s : Session) : s.saved.path = s.path := rfl

@[simp] theorem saved_profile (s : Session) : s.saved.profile = s.profile := rfl

@[simp] theorem saved_entries (s : Session) :
    s.saved.store.entries = Entry.clean s.store.entries := rfl

@[simp] theorem saved_isDirty (s : Session) : s.saved.isDirty = false := rfl

theorem cleanCounting_fst (es : List Entry) : (Entry.cleanCounting es).1 = Entry.clean es := rfl

/-! ## Edits -/

theorem Store.dirty_of_removeAt {st st' : Store} {i : Nat} {e : Entry}
    (h : st.removeAt i = .ok (e, st')) : st'.dirty = true := by
  unfold Store.removeAt at h
  cases hc : st.check i with
  | error err => simp [hc, bind, Except.bind] at h
  | ok e₀ =>
    simp only [hc, bind, Except.bind, pure, Except.pure, Except.ok.injEq, Prod.mk.injEq] at h
    rw [← h.2]

theorem Store.dirty_of_edit {st st' : Store} {i : Nat} {f : Entry.Field} {text : String}
    {e : Entry} (h : st.edit i f text = .ok (e, st')) : st'.dirty = true := by
  unfold Store.edit at h
  cases hc : st.check i with
  | error err => simp [hc, bind, Except.bind] at h
  | ok e₀ =>
    simp only [hc, bind, Except.bind, pure, Except.pure, Except.ok.injEq, Prod.mk.injEq] at h
    rw [← h.2]

/-- Adding an entry changes only the store, which then has unsaved edits. -/
theorem add_cases (e : Entry) :
    ∃ st : Store, (s.add e).2 = { s with store := st } ∧ st.dirty = true := by
  unfold add
  by_cases hb : (e.key.isEmpty && e.value.isEmpty) = true
  · rw [if_pos hb]
    exact ⟨_, rfl, rfl⟩
  · rw [if_neg hb]
    exact ⟨_, rfl, rfl⟩

/-- A removal changes only the store, which then has unsaved edits; a refused one keeps the
session. -/
theorem remove_cases {i : Nat} {res : Except SessionError Entry} (h : s.remove i = (res, s')) :
    (∃ e, res = .error e ∧ s' = s) ∨
      (∃ e st, res = .ok e ∧ s' = { s with store := st } ∧ st.dirty = true) := by
  unfold remove at h
  split at h
  · rename_i e st hst
    simp only [Prod.mk.injEq] at h
    exact .inr ⟨e, st, h.1.symm, h.2.symm, Store.dirty_of_removeAt hst⟩
  · simp only [Prod.mk.injEq] at h
    exact .inl ⟨_, h.1.symm, h.2.symm⟩

/-- An edit changes only the store, which then has unsaved edits; a refused one keeps the
session. -/
theorem edit_cases {i : Nat} {f : Entry.Field} {text : String} {res : Except SessionError Entry}
    (h : s.edit i f text = (res, s')) :
    (∃ e, res = .error e ∧ s' = s) ∨
      (∃ e st, res = .ok e ∧ s' = { s with store := st } ∧ st.dirty = true) := by
  unfold edit at h
  split at h
  · rename_i e st hst
    simp only [Prod.mk.injEq] at h
    exact .inr ⟨e, st, h.1.symm, h.2.symm, Store.dirty_of_edit hst⟩
  · simp only [Prod.mk.injEq] at h
    exact .inl ⟨_, h.1.symm, h.2.symm⟩

/-! ## Reading, saving, switching and closing -/

/-- A reload reads the active file: a failure keeps the session, a success holds what was read,
clean, in the encoding that read it. -/
theorem reload_cases {res : Except SessionError LoadReport}
    (h : (s.reload (m := DiskM)).run d = pure ((res, s'), d')) :
    ∃ lr, (Sync.readLines (m := DiskM) s.path).run d = pure (lr, d') ∧
      ((∃ e, lr = .error e ∧ res = .error (.sync e) ∧ s' = s) ∨
        (∃ loaded, lr = .ok loaded ∧
          s' = { s with store := s.store.load loaded.lines, encoding := some loaded.encoding } ∧
          res = .ok s'.loadReport)) := by
  rw [reload, run_bind_eq_pure] at h
  obtain ⟨lr, d₁, h₁, h⟩ := h
  split at h
  · obtain ⟨hres, rfl⟩ := run_pure_inv h
    simp only [Prod.mk.injEq] at hres
    exact ⟨_, h₁, .inl ⟨_, rfl, hres.1, hres.2⟩⟩
  · obtain ⟨hres, rfl⟩ := run_pure_inv h
    simp only [Prod.mk.injEq] at hres
    obtain ⟨rfl, rfl⟩ := hres
    exact ⟨_, h₁, .inr ⟨_, rfl, rfl, rfl⟩⟩

/-- A save writes the clean entries to the active file: a failure keeps the session, a success
holds what was written. -/
theorem save_cases {res : Except SessionError SaveReport}
    (h : (s.save (m := DiskM)).run d = pure ((res, s'), d')) :
    ∃ w, (Sync.writeEntries (m := DiskM) s.path (Entry.clean s.store.entries)).run d =
        pure (w, d') ∧
      ((∃ e, w = .error e ∧ res = .error (.sync e) ∧ s' = s) ∨
        (w = .ok () ∧ s' = s.saved ∧
          res = .ok ⟨s.path, (Entry.clean s.store.entries).length,
            (Entry.cleanCounting s.store.entries).2⟩)) := by
  rw [save, run_bind_eq_pure] at h
  obtain ⟨w, d₁, h₁, h⟩ := h
  rw [cleanCounting_fst] at h₁
  split at h
  · obtain ⟨hres, rfl⟩ := run_pure_inv h
    simp only [Prod.mk.injEq] at hres
    exact ⟨_, h₁, .inl ⟨_, rfl, hres.1, hres.2⟩⟩
  · obtain ⟨hres, rfl⟩ := run_pure_inv h
    simp only [Prod.mk.injEq] at hres
    obtain ⟨rfl, rfl⟩ := hres
    exact ⟨_, h₁, .inr ⟨rfl, rfl, rfl⟩⟩

/-- A save on a tree either failed, keeping the session, with the disk as a failed save leaves
it, or succeeded, holding the clean entries, with their UTF-8 text at the active file. -/
theorem save_effect {res : Except SessionError SaveReport} (hwf : d.WF)
    (h : (s.save (m := DiskM)).run d = pure ((res, s'), d')) :
    (∃ e, res = .error e ∧ s' = s ∧
        Disk.SaveFailed (d.locate s.path) (d.locate (Sync.tmpPath s.path))
          (Encoding.Utf8.encode (Entry.render (Entry.clean s.store.entries))) d d') ∨
      (res.isOk ∧ s' = s.saved ∧
        Disk.Saved (d.locate s.path) (d.locate (Sync.tmpPath s.path))
          (Encoding.Utf8.encode (Entry.render (Entry.clean s.store.entries))) d d') := by
  obtain ⟨w, hw, ⟨e, rfl, rfl, rfl⟩ | ⟨rfl, rfl, rfl⟩⟩ := save_cases h
  · -- the write failed, so the disk is as a failed save leaves it
    rcases Sync.writeEntries_effect hwf hw with ⟨he, -⟩ | ⟨e', -, hfailed⟩
    · cases he
    · exact .inl ⟨_, rfl, rfl, hfailed⟩
  · rcases Sync.writeEntries_effect hwf hw with ⟨-, hsaved⟩ | ⟨e', he, -⟩
    · exact .inr ⟨rfl, rfl, hsaved⟩
    · cases he

/-- A successful save reports every entry of the store as written or dropped. -/
theorem save_report_counts {report : SaveReport}
    (h : (s.save (m := DiskM)).run d = pure ((.ok report, s'), d')) :
    report.written + report.dropped = s.store.len := by
  obtain ⟨w, -, ⟨e, -, hres, -⟩ | ⟨-, -, hres⟩⟩ := save_cases h
  · cases hres
  · cases hres
    -- the walk of cleaning keeps or drops each entry once
    have hcount := Entry.cleanAfter_count [] s.store.entries
    show (Entry.cleanAfter [] s.store.entries).1.length + (Entry.cleanAfter [] s.store.entries).2 =
      s.store.entries.length
    omega

/-- Settling unsaved edits: nothing happens unless there are unsaved edits and they are to be
saved, refused or dropped; only saving them touches storage. -/
theorem resolveUnsaved_cases {onUnsaved : OnUnsaved} {res : Except SessionError Unit}
    (h : (s.resolveUnsaved (m := DiskM) onUnsaved).run d = pure ((res, s'), d')) :
    (res = .ok () ∧ s' = s ∧ d' = d ∧ (s.isDirty = false ∨ onUnsaved = .discard)) ∨
      (res = .error .unsavedChanges ∧ s' = s ∧ d' = d ∧ s.isDirty ∧ onUnsaved = .abort) ∨
      (s.isDirty ∧ onUnsaved = .save ∧ ∃ sr : Except SessionError SaveReport,
        (s.save (m := DiskM)).run d = pure ((sr, s'), d') ∧ res = sr.map fun _ => ()) := by
  unfold resolveUnsaved at h
  by_cases hdirty : s.isDirty
  · rw [if_neg (by simp [hdirty])] at h
    cases onUnsaved with
    | abort =>
      obtain ⟨hres, rfl⟩ := run_pure_inv h
      simp only [Prod.mk.injEq] at hres
      exact .inr (.inl ⟨hres.1, hres.2, rfl, hdirty, rfl⟩)
    | discard =>
      obtain ⟨hres, rfl⟩ := run_pure_inv h
      simp only [Prod.mk.injEq] at hres
      exact .inl ⟨hres.1, hres.2, rfl, .inr rfl⟩
    | save =>
      rw [run_bind_eq_pure] at h
      obtain ⟨⟨sr, s₁⟩, d₁, h₁, h⟩ := h
      obtain ⟨hres, rfl⟩ := run_pure_inv h
      simp only [Prod.mk.injEq] at hres
      obtain ⟨rfl, rfl⟩ := hres
      exact .inr (.inr ⟨hdirty, rfl, sr, h₁, rfl⟩)
  · rw [if_pos (by simpa using hdirty)] at h
    obtain ⟨hres, rfl⟩ := run_pure_inv h
    simp only [Prod.mk.injEq] at hres
    exact .inl ⟨hres.1, hres.2, rfl, .inl (by simpa using hdirty)⟩

/-- Switching the language: an unknown code and the active language touch nothing; otherwise
unsaved edits are resolved, and once they are, the new language's file is read. -/
theorem setProfile_cases {code : String} {onUnsaved : OnUnsaved}
    {res : Except SessionError (Option LoadReport)}
    (h : (s.setProfile (m := DiskM) code onUnsaved).run d = pure ((res, s'), d')) :
    (Profile.find? code = none ∧ res = .error (.unknownProfile code) ∧ s' = s ∧ d' = d) ∨
      (Profile.find? code = some s.profile ∧ res = .ok none ∧ s' = s ∧ d' = d) ∨
      ∃ target, Profile.find? code = some target ∧ target ≠ s.profile ∧
        ∃ r₁ s₁ d₁, (s.resolveUnsaved (m := DiskM) onUnsaved).run d = pure ((r₁, s₁), d₁) ∧
          ((∃ e, r₁ = .error e ∧ res = .error e ∧ s' = s₁ ∧ d' = d₁) ∨
            (r₁ = .ok () ∧ ∃ lr,
              (Sync.readLines (m := DiskM) (Path.join s₁.baseDir target.filename)).run d₁ =
                pure (lr, d') ∧
              ((∃ e, lr = .error e ∧ res = .error (.sync e) ∧ s' = s₁) ∨
                (∃ loaded, lr = .ok loaded ∧
                  s' = { s₁ with
                    profile := target, path := Path.join s₁.baseDir target.filename,
                    store := Store.ofLines loaded.lines, encoding := some loaded.encoding } ∧
                  res = .ok (some s'.loadReport))))) := by
  unfold setProfile at h
  split at h
  · rename_i hfind
    obtain ⟨hres, rfl⟩ := run_pure_inv h
    simp only [Prod.mk.injEq] at hres
    exact .inl ⟨hfind, hres.1, hres.2, rfl⟩
  rename_i target hfind
  split at h
  · rename_i hsame
    obtain ⟨hres, rfl⟩ := run_pure_inv h
    simp only [Prod.mk.injEq] at hres
    exact .inr (.inl ⟨hsame ▸ hfind, hres.1, hres.2, rfl⟩)
  rename_i hother
  refine .inr (.inr ⟨target, hfind, hother, ?_⟩)
  rw [run_bind_eq_pure] at h
  obtain ⟨⟨r₁, s₁⟩, d₁, h₁, h⟩ := h
  refine ⟨r₁, s₁, d₁, h₁, ?_⟩
  dsimp only at h
  split at h
  · obtain ⟨hres, rfl⟩ := run_pure_inv h
    simp only [Prod.mk.injEq] at hres
    exact .inl ⟨_, rfl, hres.1, hres.2, rfl⟩
  refine .inr ⟨rfl, ?_⟩
  rw [run_bind_eq_pure] at h
  obtain ⟨lr, d₂, h₂, h⟩ := h
  refine ⟨lr, ?_⟩
  split at h
  · obtain ⟨hres, rfl⟩ := run_pure_inv h
    simp only [Prod.mk.injEq] at hres
    exact ⟨h₂, .inl ⟨_, rfl, hres.1, hres.2⟩⟩
  · obtain ⟨hres, rfl⟩ := run_pure_inv h
    simp only [Prod.mk.injEq] at hres
    obtain ⟨rfl, rfl⟩ := hres
    exact ⟨h₂, .inr ⟨_, rfl, rfl, rfl⟩⟩

/-- Closing resolves unsaved edits; refusing to drop them is the answer `false`. -/
theorem close_cases {onUnsaved : OnUnsaved} {res : Except SessionError Bool}
    (h : (s.close (m := DiskM) onUnsaved).run d = pure ((res, s'), d')) :
    ∃ r₁ s₁, (s.resolveUnsaved (m := DiskM) onUnsaved).run d = pure ((r₁, s₁), d') ∧
      ((r₁ = .ok () ∧ res = .ok true ∧ s' = { s₁ with closed := true }) ∨
        (r₁ = .error .unsavedChanges ∧ res = .ok false ∧ s' = s₁) ∨
        (∃ e, r₁ = .error e ∧ res = .error e ∧ s' = s₁)) := by
  unfold close at h
  rw [run_bind_eq_pure] at h
  obtain ⟨⟨r₁, s₁⟩, d₁, h₁, h⟩ := h
  dsimp only at h
  split at h
  · obtain ⟨hres, rfl⟩ := run_pure_inv h
    simp only [Prod.mk.injEq] at hres
    exact ⟨_, s₁, h₁, .inl ⟨rfl, hres.1, hres.2⟩⟩
  · obtain ⟨hres, rfl⟩ := run_pure_inv h
    simp only [Prod.mk.injEq] at hres
    exact ⟨_, s₁, h₁, .inr (.inl ⟨rfl, hres.1, hres.2⟩)⟩
  · obtain ⟨hres, rfl⟩ := run_pure_inv h
    simp only [Prod.mk.injEq] at hres
    exact ⟨_, s₁, h₁, .inr (.inr ⟨_, rfl, hres.1, hres.2⟩)⟩

/-- A failed settling of unsaved edits keeps the session: it was refused, or its save failed. -/
theorem resolveUnsaved_error {onUnsaved : OnUnsaved} {e : SessionError}
    (h : (s.resolveUnsaved (m := DiskM) onUnsaved).run d = pure ((.error e, s'), d')) :
    s' = s := by
  rcases resolveUnsaved_cases h with ⟨hres, -⟩ | ⟨-, rfl, -⟩ | ⟨-, -, sr, hsave, hres⟩
  · cases hres
  · rfl
  · obtain ⟨w, -, ⟨e', -, -, rfl⟩ | ⟨-, -, rfl⟩⟩ := save_cases hsave
    · rfl
    · cases hres

/-- Settled unsaved edits leave the session and the disk as they were, or were saved by a
save that succeeded. -/
theorem resolveUnsaved_ok {onUnsaved : OnUnsaved}
    (h : (s.resolveUnsaved (m := DiskM) onUnsaved).run d = pure ((.ok (), s'), d')) :
    (s' = s ∧ d' = d) ∨ (s.isDirty ∧ onUnsaved = .save ∧ s' = s.saved ∧
      ∃ report, (s.save (m := DiskM)).run d = pure ((.ok report, s.saved), d')) := by
  rcases resolveUnsaved_cases h with
    ⟨-, rfl, rfl, -⟩ | ⟨hres, -⟩ | ⟨hdirty, hsave, sr, hs, hres⟩
  · exact .inl ⟨rfl, rfl⟩
  · cases hres
  · obtain ⟨w, -, ⟨e', -, rfl, -⟩ | ⟨-, rfl, rfl⟩⟩ := save_cases hs
    · cases hres
    · exact .inr ⟨hdirty, hsave, rfl, _, hs⟩

end Wordbook.Session
