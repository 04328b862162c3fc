import Wordbook.Proofs.Session.Steps
import Wordbook.Protocol.Handle

/-!
# What answering one request can do

`Answered s d line r s' d'` names the path `Protocol.handle` took on a line: it refused the
line or only looked (`keeps`), edited the store (`edits`), or ran one session operation with
storage (`reloads`, `saves`, `switches`, `closes`) whose answer it reports. `handle_cases` says
every answer took one of these paths; every statement about single requests starts from it and
from the inversion lemmas of the session operations, never from the handler's text.

`Reaches s₀ d₀ s d b` is a run: the sessions and disks a sequence of requests reaches from
`s₀` on `d₀`, with no change to the disk from outside. Its flag records whether the active
file has been read or saved on the way (`syncs`).
-/

set_option autoImplicit false

namespace Wordbook.Protocol

open Json DiskM

/-- The commands that only look at the session. -/
def Command.looks : Command → Bool
  | .ping | .profileList | .recordsList | .sessionStatus => true
  | _ => false

/-- The command a request line names; `none` for a line that holds no JSON value. -/
def commandOf (line : String) : Option Command :=
  (Json.parse? line).map fun req => Command.ofName (commandName req)

/-- The answer to a switch of the language. -/
def switchAnswer (id : Value) (res : Except SessionError (Option LoadReport)) (s' : Session) :
    Response :=
  match res with
  | .ok report => .ok id (Value.ofFields [("switched", .bool report.isSome),
      ("profile", .string s'.profile.code), ("path", .string s'.path),
      ("count", .nat s'.store.len)])
  | .error e => Response.ofError id e

/-- The answer to a close. -/
def closeAnswer (id : Value) (res : Except SessionError Bool) : Response :=
  match res with
  | .ok closed => .ok id (Value.ofFields [("closed", .bool closed)])
  | .error e => Response.ofError id e

/-- The answer to a report or a failure of a session operation. -/
def reportAnswer {α : Type} (id : Value) (toValue : α → Value) (res : Except SessionError α) :
    Response :=
  match res with
  | .ok report => .ok id (toValue report)
  | .error e => Response.ofError id e

variable {s s' : Session} {d d' : Disk} {line : String} {r : Response}

/-- The path an answer took: what it did to the session and the disk, and what it answered. -/
inductive Answered (s : Session) (d : Disk) (line : String) :
    Response → Session → Disk → Prop
  /-- The line was refused, or its command only looks: nothing changes. -/
  | keeps {r : Response}
      (hr : r.isFailure ∨ ∃ cmd, commandOf line = some cmd ∧ cmd.looks) :
      Answered s d line r s d
  /-- An entry was added, removed or edited: only the store changes, and has unsaved edits. -/
  | edits {cmd : Command} {id payload : Value} {store : Store} (hc : commandOf line = some cmd)
      (hcmd : cmd = .recordsAdd ∨ cmd = .recordsRemove ∨ cmd = .recordsEdit)
      (hdirty : store.dirty = true) :
      Answered s d line (.ok id payload) { s with store := store } d
  /-- The active file was read again. -/
  | reloads {id : Value} {res : Except SessionError LoadReport} {s' : Session} {d' : Disk}
      (hc : commandOf line = some .dictionaryReload)
      (h : (s.reload (m := DiskM)).run d = pure ((res, s'), d')) :
      Answered s d line (reportAnswer id loadReportValue res) s' d'
  /-- The entries were saved. -/
  | saves {id : Value} {res : Except SessionError SaveReport} {s' : Session} {d' : Disk}
      (hc : commandOf line = some .dictionarySave)
      (h : (s.save (m := DiskM)).run d = pure ((res, s'), d')) :
      Answered s d line (reportAnswer id saveReportValue res) s' d'
  /-- A switch of the language was tried, with a way to settle unsaved edits. -/
  | switches {id : Value} {code : String} {onUnsaved : OnUnsaved}
      {res : Except SessionError (Option LoadReport)} {s' : Session} {d' : Disk}
      (hc : commandOf line = some .profileSet) (hon : ∃ req, Json.parse? line = some req ∧
        code = (textField? (payloadOf req) "code").getD "" ∧
        onUnsavedField (payloadOf req) = .ok onUnsaved)
      (h : (s.setProfile (m := DiskM) code onUnsaved).run d = pure ((res, s'), d')) :
      Answered s d line (switchAnswer id res s') s' d'
  /-- A close was tried, with a way to settle unsaved edits. -/
  | closes {id : Value} {onUnsaved : OnUnsaved} {res : Except SessionError Bool} {s' : Session}
      {d' : Disk} (hc : commandOf line = some .sessionClose) (hon : ∃ req,
        Json.parse? line = some req ∧ onUnsavedField (payloadOf req) = .ok onUnsaved)
      (h : (s.close (m := DiskM) onUnsaved).run d = pure ((res, s'), d')) :
      Answered s d line (closeAnswer id res) s' d'

theorem Answered.of_pure {r₀ : Response}
    (hr : r₀.isFailure ∨ ∃ cmd, commandOf line = some cmd ∧ cmd.looks)
    (h : (pure (r₀, s) : DiskM (Response × Session)).run d = pure ((r, s'), d')) :
    Answered s d line r s' d' := by
  obtain ⟨hres, rfl⟩ := run_pure_inv h
  simp only [Prod.mk.injEq] at hres
  obtain ⟨rfl, rfl⟩ := hres
  exact .keeps hr

/-- Every answer takes one of the paths of `Answered`. -/
theorem handle_cases (h : (handle (m := DiskM) s line).run d = pure ((r, s'), d')) :
    Answered s d line r s' d' := by
  unfold handle at h
  split at h
  · exact .of_pure (.inl rfl) h
  rename_i req hp
  have hcmd : commandOf line = some (Command.ofName (commandName req)) := by simp [commandOf, hp]
  unfold answer at h
  dsimp only at h
  split at h
  next hname => -- ping
    exact .of_pure (.inr ⟨_, hcmd, by rw [hname]; rfl⟩) h
  next hname => -- profile.list
    exact .of_pure (.inr ⟨_, hcmd, by rw [hname]; rfl⟩) h
  next hname => -- profile.set: the payload is checked before the switch
    rw [hname] at hcmd
    split at h
    · exact .of_pure (.inl rfl) h
    split at h
    · exact .of_pure (.inl rfl) h
    rename_i onUnsaved hon
    rw [run_bind_eq_pure] at h
    obtain ⟨⟨res, s₁⟩, d₁, h₁, h⟩ := h
    dsimp only at h
    have hanswer : r = switchAnswer (requestId req) res s₁ ∧ s' = s₁ ∧ d₁ = d' := by
      split at h <;>
      · obtain ⟨hres, hd⟩ := run_pure_inv h
        simp only [Prod.mk.injEq] at hres
        exact ⟨hres.1, hres.2, hd⟩
    obtain ⟨rfl, rfl, rfl⟩ := hanswer
    exact .switches hcmd ⟨req, hp, rfl, hon⟩ h₁
  next hname => -- records.list
    exact .of_pure (.inr ⟨_, hcmd, by rw [hname]; rfl⟩) h
  next hname => -- records.add
    rw [hname] at hcmd
    split at h
    · exact .of_pure (.inl rfl) h
    rename_i e he
    obtain ⟨st, hst, hdirty⟩ := Session.add_cases (s := s) e
    rcases hadd : s.add e with ⟨i, s₁⟩
    rw [hadd] at h hst
    dsimp only at h hst
    obtain ⟨hres, rfl⟩ := run_pure_inv h
    simp only [Prod.mk.injEq] at hres
    obtain ⟨rfl, rfl⟩ := hres
    rw [hst]
    exact .edits hcmd (.inl rfl) hdirty
  next hname => -- records.remove
    rw [hname] at hcmd
    split at h
    · exact .of_pure (.inl rfl) h
    split at h
    all_goals
      rename_i hrem
      obtain ⟨hres, rfl⟩ := run_pure_inv h
      simp only [Prod.mk.injEq] at hres
      obtain ⟨rfl, rfl⟩ := hres
      rcases Session.remove_cases hrem with ⟨e, he, rfl⟩ | ⟨e, st, he, rfl, hdirty⟩
    · cases he
    · exact .edits hcmd (.inr (.inl rfl)) hdirty
    · exact .keeps (.inl rfl)
    · cases he
  next hname => -- records.edit
    rw [hname] at hcmd
    split at h
    · exact .of_pure (.inl rfl) h
    split at h
    · exact .of_pure (.inl rfl) h
    split at h
    · exact .of_pure (.inl rfl) h
    split at h
    all_goals
      rename_i hed
      obtain ⟨hres, rfl⟩ := run_pure_inv h
      simp only [Prod.mk.injEq] at hres
      obtain ⟨rfl, rfl⟩ := hres
      rcases Session.edit_cases hed with ⟨e, he, rfl⟩ | ⟨e, st, he, rfl, hdirty⟩
    · cases he
    · exact .edits hcmd (.inr (.inr rfl)) hdirty
    · exact .keeps (.inl rfl)
    · cases he
  next hname => -- dictionary.save
    rw [hname] at hcmd
    rw [run_bind_eq_pure] at h
    obtain ⟨⟨res, s₁⟩, d₁, h₁, h⟩ := h
    dsimp only at h
    have hanswer : r = reportAnswer (requestId req) saveReportValue res ∧ s' = s₁ ∧ d₁ = d' := by
      split at h <;>
      · obtain ⟨hres, hd⟩ := run_pure_inv h
        simp only [Prod.mk.injEq] at hres
        exact ⟨hres.1, hres.2, hd⟩
    obtain ⟨rfl, rfl, rfl⟩ := hanswer
    exact .saves hcmd h₁
  next hname => -- dictionary.reload
    rw [hname] at hcmd
    rw [run_bind_eq_pure] at h
    obtain ⟨⟨res, s₁⟩, d₁, h₁, h⟩ := h
    dsimp only at h
    have hanswer : r = reportAnswer (requestId req) loadReportValue res ∧ s' = s₁ ∧ d₁ = d' := by
      split at h <;>
      · obtain ⟨hres, hd⟩ := run_pure_inv h
        simp only [Prod.mk.injEq] at hres
        exact ⟨hres.1, hres.2, hd⟩
    obtain ⟨rfl, rfl, rfl⟩ := hanswer
    exact .reloads hcmd h₁
  next hname => -- session.status
    exact .of_pure (.inr ⟨_, hcmd, by rw [hname]; rfl⟩) h
  next hname => -- session.close: the payload is checked before unsaved edits are settled
    rw [hname] at hcmd
    split at h
    · exact .of_pure (.inl rfl) h
    rename_i onUnsaved hon
    rw [run_bind_eq_pure] at h
    obtain ⟨⟨res, s₁⟩, d₁, h₁, h⟩ := h
    dsimp only at h
    have hanswer : r = closeAnswer (requestId req) res ∧ s' = s₁ ∧ d₁ = d' := by
      split at h <;>
      · obtain ⟨hres, hd⟩ := run_pure_inv h
        simp only [Prod.mk.injEq] at hres
        exact ⟨hres.1, hres.2, hd⟩
    obtain ⟨rfl, rfl, rfl⟩ := hanswer
    exact .closes hcmd ⟨req, hp, hon⟩ h₁
  next => -- an unknown command
    exact .of_pure (.inl rfl) h

/-! ## Runs -/

/-- Whether answering a request read or saved the active file: a successful
`dictionary.reload` or `dictionary.save`, a switch to another language, or a save of unsaved
edits before a switch or a close. -/
def syncs (s : Session) (line : String) (r : Response) (s' : Session) : Bool :=
  (!r.isFailure &&
      (commandOf line == some .dictionaryReload || commandOf line == some .dictionarySave)) ||
    (s.isDirty && !s'.isDirty) || decide (s'.profile ≠ s.profile)

/-- The sessions and disks that requests reach from `s₀` on `d₀`, nothing else touching the
disk; the flag is set once the active file has been read or saved (`syncs`). -/
inductive Reaches (s₀ : Session) (d₀ : Disk) : Session → Disk → Bool → Prop
  | start : Reaches s₀ d₀ s₀ d₀ false
  | step {s : Session} {d : Disk} {b : Bool} (line : String) {r : Response} {s' : Session}
      {d' : Disk} : Reaches s₀ d₀ s d b →
      (handle (m := DiskM) s line).run d = pure ((r, s'), d') →
      Reaches s₀ d₀ s' d' (b || syncs s line r s')

end Wordbook.Protocol
