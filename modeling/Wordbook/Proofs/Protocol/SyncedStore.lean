import Wordbook.Proofs.Protocol.DiskFrame
import Wordbook.Proofs.Session.StableSave

/-!
# A store without unsaved edits and the file it came from

Once the active file has been read or saved, a store without unsaved edits should hold what a
reload would read. It does, with one exception: a key holding a comma. A save writes such a key
as it is, and reading the line back cuts the key at its first comma, so the reload reads another
entry.

**The law** (`clean_store_reads_back_iff`): along every run from a tree, in every state reached
after the active file was read or saved, with no unsaved edit, a reload succeeds, and it reads
back exactly the entries the store holds if and only if no key of the store holds a comma.

The invariant (`Session.MatchesFile`) says what the store is, for the file at the active path:
either the entries a reload read from the file's bytes, or normal entries whose UTF-8 text a
save wrote there. One request keeps it, and a request that reads or saves the active file sets it
(`matchesFile_step`); so does every run once the flag of `Reaches` is set (`Reaches.matchesFile`).
A bootstrap, a failed save and a save elsewhere never change the bytes at the active path, which
is all the invariant looks at (`Session.MatchesFile.of_readFile`).
-/

set_option autoImplicit false

namespace Wordbook

namespace Session

/-- What the file at the active path says of a store without unsaved edits: the store holds the
entries a reload read from the file's bytes, or normal entries whose UTF-8 text a save wrote
there. -/
def MatchesFile (s : Session) (d : Disk) : Prop :=
  s.isDirty = false →
    (∃ bytes decoded, d.readFile s.path = .ok bytes ∧ detect bytes = .ok decoded ∧
        s.store.entries = Entry.ofLines (fileLines decoded.text)) ∨
      ((∀ e ∈ s.store.entries, Entry.Normal e) ∧
        d.readFile s.path = .ok (Encoding.Utf8.encode (Entry.render s.store.entries)))

variable {s : Session} {d d' : Disk}

/-- The bytes at the active path are all the invariant looks at. -/
theorem MatchesFile.of_readFile (hm : s.MatchesFile d)
    (hf : ∀ bs, d.readFile s.path = .ok bs → d'.readFile s.path = .ok bs) :
    s.MatchesFile d' := by
  intro hclean
  rcases hm hclean with ⟨bytes, decoded, hb, hdec, hes⟩ | ⟨hn, hb⟩
  · exact .inl ⟨bytes, decoded, hf _ hb, hdec, hes⟩
  · exact .inr ⟨hn, hf _ hb⟩

/-- A session that read its file holds what the file says. -/
theorem matchesFile_read {bytes : List UInt8} {decoded : Decoded}
    (hf : d.readFile s.path = .ok bytes) (hdec : detect bytes = .ok decoded)
    (hes : s.store.entries = Entry.ofLines (fileLines decoded.text)) : s.MatchesFile d :=
  fun _ => .inl ⟨bytes, decoded, hf, hdec, hes⟩

/-- A session that saved holds what the save wrote. -/
theorem matchesFile_saved {tmp : List String}
    (h : Disk.Saved (d.locate s.path) tmp
      (Encoding.Utf8.encode (Entry.render (Entry.clean s.store.entries))) d d') :
    s.saved.MatchesFile d' :=
  fun _ => .inr ⟨fun _ he => (Entry.normal_of_mem_clean he).2, h.readFile⟩

/-- Settling unsaved edits on a tree keeps the session and the bytes at its path, or saves it,
which then holds what the save wrote: either way the settled session holds what its file says
if the session did before, should it be kept. -/
theorem resolveUnsaved_matchesFile {onUnsaved : OnUnsaved} {res : Except SessionError Unit}
    {s₁ : Session} (hwf : d.WF)
    (h : (s.resolveUnsaved (m := DiskM) onUnsaved).run d = pure ((res, s₁), d'))
    (hm : s₁ = s → s.MatchesFile d) : s₁.MatchesFile d' ∧ d'.WF := by
  rcases resolveUnsaved_cases h with
    ⟨-, rfl, rfl, -⟩ | ⟨-, rfl, rfl, -⟩ | ⟨-, -, sr, hsave, -⟩
  · exact ⟨hm rfl, hwf⟩
  · exact ⟨hm rfl, hwf⟩
  -- a save was tried: it failed and kept the file, or it wrote the cleaned entries
  rcases save_effect hwf hsave with ⟨e, -, rfl, hfailed⟩ | ⟨-, rfl, hsaved⟩
  · exact ⟨(hm rfl).of_readFile fun _ hb => hfailed.readFile hb, hfailed.wf⟩
  · exact ⟨matchesFile_saved hsaved, hsaved.wf⟩

/-- A reload of a session that holds what its file says succeeds, and reads the store back
exactly when no key holds a comma. -/
theorem reload_of_matchesFile (hm : s.MatchesFile d) (hclean : s.isDirty = false) :
    ((s.reload (m := DiskM)).run d).1.1.isOk ∧
      (((s.reload (m := DiskM)).run d).1.2.store.entries = s.store.entries ↔
        ∀ e ∈ s.store.entries, ',' ∉ e.key.toList) := by
  rcases hm hclean with ⟨bytes, decoded, hf, hdec, hes⟩ | ⟨hn, hf⟩
  · -- read from the file: a reload reads the same, and read keys hold no comma
    rw [run_reload_of_file hf hdec]
    refine ⟨rfl, ?_⟩
    show Entry.ofLines (fileLines decoded.text) = s.store.entries ↔ _
    rw [← hes]
    exact ⟨fun _ e he => (Entry.normal_of_mem_ofLines_fileLines (hes ▸ he)).2, fun _ => rfl⟩
  · -- written by a save: the text decodes, and reads back exactly when no key has a comma
    rw [run_reload_of_file hf (detect_encode (Entry.head?_render hn))]
    exact ⟨rfl, Entry.ofLines_render_eq_iff hn⟩

end Session

namespace Protocol

open DiskM

variable {s s' : Session} {d d' : Disk} {line : String} {r : Response}

/-- A request that keeps the session's edits and language, and neither succeeded at reading nor
at saving the active file, does not set the flag. -/
theorem syncs_eq_false (hdirty : s'.isDirty = s.isDirty) (hprofile : s'.profile = s.profile)
    (hr : r.isFailure ∨
      (commandOf line ≠ some .dictionaryReload ∧ commandOf line ≠ some .dictionarySave)) :
    syncs s line r s' = false := by
  unfold syncs
  rw [hdirty, hprofile]
  rcases hr with hr | ⟨hreload, hsave⟩
  · simp [hr]
  · simp [hreload, hsave]

/-- A step that sets the flag leaves a run with the flag set. -/
theorem Reaches.step_syncs {s₀ : Session} {d₀ : Disk} {b : Bool}
    (hreach : Reaches s₀ d₀ s d b)
    (h : (handle (m := DiskM) s line).run d = pure ((r, s'), d'))
    (hs : syncs s line r s' = true) : Reaches s₀ d₀ s' d' true := by
  have hstep := Reaches.step line hreach h
  rwa [hs, Bool.or_true] at hstep

/-- One request on a tree keeps what the file says of the store, and sets it when it reads or
saves the active file. -/
theorem matchesFile_step (hwf : d.WF)
    (h : (handle (m := DiskM) s line).run d = pure ((r, s'), d'))
    (hm : s.MatchesFile d ∨ syncs s line r s' = true) : s'.MatchesFile d' := by
  -- where the step does not set the flag, the invariant held before
  have hkeep : syncs s line r s' = false → s.MatchesFile d :=
    fun hs => hm.resolve_right (by rw [hs]; decide)
  have hother : ∀ cmd, commandOf line = some cmd → cmd ≠ .dictionaryReload →
      cmd ≠ .dictionarySave →
      commandOf line ≠ some .dictionaryReload ∧ commandOf line ≠ some .dictionarySave := by
    intro cmd hc hreload hsave
    rw [hc]
    exact ⟨fun heq => hreload (Option.some.inj heq), fun heq => hsave (Option.some.inj heq)⟩
  cases handle_cases h with
  | keeps hr =>
    refine hkeep (syncs_eq_false rfl rfl ?_)
    rcases hr with hr | ⟨cmd, hc, hl⟩
    · exact .inl hr
    · refine .inr (hother cmd hc ?_ ?_)
      · rintro rfl
        cases hl
      · rintro rfl
        cases hl
  | edits hc hcmd hdirty =>
    intro hclean
    simp only [Session.isDirty, hdirty] at hclean
    cases hclean
  | reloads hc hrun =>
    obtain ⟨lr, hread, ⟨e, rfl, rfl, rfl⟩ | ⟨loaded, rfl, rfl, rfl⟩⟩ := Session.reload_cases hrun
    · -- failed: the store is kept, and the bootstrap keeps the file
      exact (hkeep (syncs_eq_false rfl rfl (.inl rfl))).of_readFile
        fun _ hb => (Sync.readLines_effect hwf hread).readFile hb
    · obtain ⟨bytes, decoded, hf, hdec, rfl⟩ := Sync.readLines_ok hread
      exact Session.matchesFile_read hf hdec rfl
  | saves hc hrun =>
    rcases Session.save_effect hwf hrun with ⟨e, rfl, rfl, hfailed⟩ | ⟨-, rfl, hsaved⟩
    · exact (hkeep (syncs_eq_false rfl rfl (.inl rfl))).of_readFile
        fun _ hb => hfailed.readFile hb
    · exact Session.matchesFile_saved hsaved
  | switches hc hon hrun =>
    rcases Session.setProfile_cases hrun with
      ⟨-, rfl, rfl, rfl⟩ | ⟨-, rfl, rfl, rfl⟩ | ⟨target, -, -, r₁, s₁, d₁, hres, hrest⟩
    · exact hkeep (syncs_eq_false rfl rfl (.inl rfl))
    · exact hkeep (syncs_eq_false rfl rfl (.inr (hother .profileSet hc (by decide) (by decide))))
    -- where the switch failed, the settled session is kept: saved, or as it was
    rcases hrest with ⟨e, rfl, rfl, rfl, rfl⟩ | ⟨rfl, lr, hread, ⟨e, rfl, rfl, rfl⟩ |
      ⟨loaded, rfl, rfl, rfl⟩⟩
    · exact (Session.resolveUnsaved_matchesFile hwf hres
        fun hs => hkeep (syncs_eq_false (hs ▸ rfl) (hs ▸ rfl) (.inl rfl))).1
    · obtain ⟨hm₁, hwf₁⟩ := Session.resolveUnsaved_matchesFile hwf hres
        fun hs => hkeep (syncs_eq_false (hs ▸ rfl) (hs ▸ rfl) (.inl rfl))
      exact hm₁.of_readFile fun _ hb => (Sync.readLines_effect hwf₁ hread).readFile hb
    · obtain ⟨bytes, decoded, hf, hdec, rfl⟩ := Sync.readLines_ok hread
      exact Session.matchesFile_read hf hdec rfl
  | closes hc hon hrun =>
    have hclose := hother .sessionClose hc (by decide) (by decide)
    obtain ⟨r₁, s₁, hres, hcl⟩ := Session.close_cases hrun
    -- a close keeps the settled session, marked closed or not
    rcases hcl with ⟨-, -, rfl⟩ | ⟨-, -, rfl⟩ | ⟨e, -, -, rfl⟩ <;>
      exact (Session.resolveUnsaved_matchesFile hwf hres
        fun hs => hkeep (syncs_eq_false (hs ▸ rfl) (hs ▸ rfl) (.inr hclose))).1

/-- Along every run from a tree, once the active file has been read or saved, the store holds
what the file says of it. -/
theorem Reaches.matchesFile {s₀ : Session} {d₀ : Disk} {b : Bool} (hwf : d₀.WF)
    (hreach : Reaches s₀ d₀ s d b) (hb : b = true) : s.MatchesFile d := by
  induction hreach with
  | start => cases hb
  | step line hprev hstep ih =>
    apply matchesFile_step (hprev.wf hwf) hstep
    -- the flag was set before this step, or this step set it
    cases hs : syncs _ line _ _
    · rw [hs, Bool.or_false] at hb
      exact .inl (ih hb)
    · exact .inr rfl

/-- Along every run from a tree, once the active file has been read or saved, a store without
unsaved edits is what a reload reads, with the reload succeeding, exactly when no key of the
store holds a comma. -/
theorem clean_store_reads_back_iff {s₀ : Session} {d₀ : Disk} (hwf : d₀.WF)
    (hreach : Reaches s₀ d₀ s d true) (hclean : s.isDirty = false) :
    ((s.reload (m := DiskM)).run d).1.1.isOk ∧
      (((s.reload (m := DiskM)).run d).1.2.store.entries = s.store.entries ↔
        ∀ e ∈ s.store.entries, ',' ∉ e.key.toList) :=
  Session.reload_of_matchesFile (hreach.matchesFile hwf rfl) hclean

/-- Reload, add the key `a,b`, save: the store has no unsaved edit, and a reload reads another
entry, since the key is cut at its comma. -/
theorem saved_comma_key_reads_back_differently :
    let d₀ := Disk.empty "/w"
    let s₀ := Session.start "/w" .en
    let reload := "\x7b\"cmd\":\"dictionary.reload\"\x7d"
    let add := "\x7b\"cmd\":\"records.add\",\"payload\":\x7b\"key\":\"a,b\",\"value\":\"v\"\x7d\x7d"
    let save := "\x7b\"cmd\":\"dictionary.save\"\x7d"
    ∃ (s₁ s₂ s₃ : Session) (d₁ d₂ d₃ : Disk) (r₁ r₂ r₃ : Response),
      (handle (m := DiskM) s₀ reload).run d₀ = pure ((r₁, s₁), d₁) ∧
      (handle (m := DiskM) s₁ add).run d₁ = pure ((r₂, s₂), d₂) ∧
      (handle (m := DiskM) s₂ save).run d₂ = pure ((r₃, s₃), d₃) ∧
      d₀.WF ∧ Reaches s₀ d₀ s₃ d₃ true ∧ s₃.isDirty = false ∧
      ((s₃.reload (m := DiskM)).run d₃).1.1.isOk ∧
      ((s₃.reload (m := DiskM)).run d₃).1.2.store.entries ≠ s₃.store.entries := by
  intro d₀ s₀ reload add save
  refine ⟨_, _, _, _, _, _, _, _, _, DiskM.run_eq_pure_pair _ _, DiskM.run_eq_pure_pair _ _,
    DiskM.run_eq_pure_pair _ _, Disk.wf_empty "/w", ?reach, ?clean,
    (clean_store_reads_back_iff (Disk.wf_empty "/w") ?reach ?clean).1,
    fun heq => absurd ((clean_store_reads_back_iff (Disk.wf_empty "/w") ?reach ?clean).2.1 heq)
      ?comma⟩
  case reach =>
    exact Reaches.step_syncs (.step add (.step reload .start (DiskM.run_eq_pure_pair _ _))
      (DiskM.run_eq_pure_pair _ _)) (DiskM.run_eq_pure_pair _ _) (by decide +kernel)
  case clean => decide +kernel
  case comma => decide +kernel

end Protocol

end Wordbook
