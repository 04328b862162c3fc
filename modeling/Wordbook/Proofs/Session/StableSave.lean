import Wordbook.Proofs.Entry.Lines
import Wordbook.Proofs.Encoding.RoundTrip
import Wordbook.Proofs.Session.Steps

/-!
# Saving loses nothing and is stable

Whatever a file holds, once read, cleaned and written, it reads back as exactly the cleaned
entries, in `utf-8-sig`, and writing those again gives the same text.

The reason is in the shape of what reading gives: every entry read from a text is normal and
its key holds no comma (`Entry.normal_of_mem_ofLines_fileLines`), cleaning such entries only
drops some of them (`Entry.mem_clean_of_normal`), and normal entries without a comma in a key
read back from their own text (`Entry.ofLines_render_eq_iff`). Writing that text in UTF-8 and
decoding it gives the text back, since it does not start with a byte-order mark
(`detect_encode`, `Entry.head?_render`).

For a session (`save_is_lossless_and_stable`, second half): reload, save, reload, save, with no
edit between them, each save succeeding. The second reload succeeds, reads `utf-8-sig` and holds
the store the first save left; the second save leaves the file with the bytes of the first.
-/

set_option autoImplicit false

namespace Wordbook

namespace Entry

/-- The cleaned entries read from any text are normal, with no comma in a key. -/
theorem readable_clean_ofLines (text : String) :
    ∀ e ∈ clean (ofLines (fileLines text)), Normal e ∧ ',' ∉ e.key.toList := by
  intro e he
  have hread : ∀ e ∈ ofLines (fileLines text), Normal e :=
    fun e he => (normal_of_mem_ofLines_fileLines he).1
  exact normal_of_mem_ofLines_fileLines (mem_clean_of_normal hread he)

/-- The text of the cleaned entries of a text reads back as those entries. -/
theorem ofLines_render_clean (text : String) :
    ofLines (fileLines (render (clean (ofLines (fileLines text))))) =
      clean (ofLines (fileLines text)) :=
  (ofLines_render_eq_iff fun e he => (readable_clean_ofLines text e he).1).2
    fun e he => (readable_clean_ofLines text e he).2

end Entry

namespace Session

open DiskM

variable {s s' : Session} {d d' : Disk}

/-- Reloading a file that is there and decodes holds its entries, and leaves the disk alone. -/
theorem run_reload_of_file {bytes : List UInt8} {decoded : Decoded}
    (hf : d.readFile s.path = .ok bytes) (hdec : detect bytes = .ok decoded) :
    (s.reload (m := DiskM)).run d =
      pure ((.ok { s with store := s.store.load (fileLines decoded.text),
                          encoding := some decoded.encoding }.loadReport,
        { s with store := s.store.load (fileLines decoded.text),
                 encoding := some decoded.encoding }), d) := by
  rw [reload, StateT.run_bind, Sync.run_readLines_of_file hf, hdec]
  rfl

/-- A successful reload read the file's bytes, which decode, and holds their entries. -/
theorem reload_ok {res : Except SessionError LoadReport} (hwf : d.WF)
    (h : (s.reload (m := DiskM)).run d = pure ((res, s'), d')) (hok : res.isOk) :
    ∃ bytes decoded, d'.readFile s.path = .ok bytes ∧ detect bytes = .ok decoded ∧
      s' = { s with store := s.store.load (fileLines decoded.text),
                    encoding := some decoded.encoding } ∧ d'.WF := by
  obtain ⟨lr, hread, ⟨e, -, rfl, -⟩ | ⟨loaded, rfl, rfl, -⟩⟩ := reload_cases h
  · cases hok
  · have hwf' := (Sync.readLines_effect hwf hread).wf
    obtain ⟨bytes, decoded, hf, hdec, rfl⟩ := Sync.readLines_ok hread
    exact ⟨bytes, decoded, hf, hdec, rfl, hwf'⟩

/-- A successful save holds the cleaned entries and leaves the file with their UTF-8 text. -/
theorem save_ok {res : Except SessionError SaveReport} (hwf : d.WF)
    (h : (s.save (m := DiskM)).run d = pure ((res, s'), d')) (hok : res.isOk) :
    s' = s.saved ∧
      d'.readFile s.path = .ok (Encoding.Utf8.encode (Entry.render (Entry.clean s.store.entries))) ∧
      d'.WF := by
  rcases save_effect hwf h with ⟨e, rfl, -, -⟩ | ⟨-, rfl, hsaved⟩
  · cases hok
  · exact ⟨rfl, hsaved.readFile, hsaved.wf⟩

end Session

open Entry in
/-- Cleaning and writing what any text reads as loses nothing: the UTF-8 bytes of the written
text decode back to it in `utf-8-sig`, it reads back as exactly the cleaned entries, and writing
those again gives the same text. For a session: reload, save, reload, save, with the two saves
succeeding, the second reload succeeds in `utf-8-sig` with the store the first save left, and
the second save leaves the file holding the bytes of the first. -/
theorem save_is_lossless_and_stable :
    (∀ text : String,
      let written := render (clean (ofLines (fileLines text)))
      detect (Encoding.Utf8.encode written) = .ok ⟨.utf8Sig, written⟩ ∧
        ofLines (fileLines written) = clean (ofLines (fileLines text)) ∧
        render (clean (ofLines (fileLines written))) = written) ∧
    ∀ (s₀ s₁ s₂ s₃ s₄ : Session) (d₀ d₁ d₂ d₃ d₄ : Disk)
      (r₁ r₃ : Except SessionError LoadReport) (w₂ w₄ : Except SessionError SaveReport),
      d₀.WF →
      (s₀.reload (m := DiskM)).run d₀ = pure ((r₁, s₁), d₁) → r₁.isOk →
      (s₁.save (m := DiskM)).run d₁ = pure ((w₂, s₂), d₂) → w₂.isOk →
      (s₂.reload (m := DiskM)).run d₂ = pure ((r₃, s₃), d₃) →
      (s₃.save (m := DiskM)).run d₃ = pure ((w₄, s₄), d₄) → w₄.isOk →
      r₃.isOk ∧ s₃.encoding = some .utf8Sig ∧ s₃.store = s₂.store ∧
        d₂.readFile s₀.path = .ok (Encoding.Utf8.encode (render s₂.store.entries)) ∧
        d₄.readFile s₀.path = d₂.readFile s₀.path := by
  -- the text: what is written reads back, and cleaning it again keeps it
  have htext : ∀ text : String,
      detect (Encoding.Utf8.encode (render (clean (ofLines (fileLines text))))) =
          .ok ⟨.utf8Sig, render (clean (ofLines (fileLines text)))⟩ ∧
        ofLines (fileLines (render (clean (ofLines (fileLines text))))) =
          clean (ofLines (fileLines text)) ∧
        clean (clean (ofLines (fileLines text))) = clean (ofLines (fileLines text)) := by
    intro text
    have hnormal : ∀ e ∈ clean (ofLines (fileLines text)), Normal e :=
      fun e he => (readable_clean_ofLines text e he).1
    have hcount := cleanCounting_of_normal hnormal (nodup_keys_clean (ofLines (fileLines text)))
    refine ⟨detect_encode (head?_render hnormal), ofLines_render_clean text, ?_⟩
    calc clean (clean (ofLines (fileLines text)))
        = (cleanCounting (clean (ofLines (fileLines text)))).1 := rfl
      _ = clean (ofLines (fileLines text)) := by rw [hcount]
  refine ⟨fun text => ?_, ?_⟩
  · obtain ⟨hdetect, hread, hclean⟩ := htext text
    exact ⟨hdetect, hread, by rw [hread, hclean]⟩
  -- the session: follow the four runs
  intro s₀ s₁ s₂ s₃ s₄ d₀ d₁ d₂ d₃ d₄ r₁ r₃ w₂ w₄ hwf h₁ hok₁ h₂ hok₂ h₃ h₄ hok₄
  obtain ⟨bytes, decoded, -, -, hs₁, hwf₁⟩ := Session.reload_ok hwf h₁ hok₁
  obtain ⟨hs₂, hfile₂, hwf₂⟩ := Session.save_ok hwf₁ h₂ hok₂
  obtain ⟨hdetect, hread, hclean⟩ := htext decoded.text
  -- the first save holds and writes the cleaned entries of the file as the first reload read it
  have hpath : s₂.path = s₀.path := by rw [hs₂, Session.saved_path, hs₁]
  have hentries₁ : s₁.store.entries = ofLines (fileLines decoded.text) := by rw [hs₁]; rfl
  have hstore₂ : s₂.store = ⟨clean (ofLines (fileLines decoded.text)), false⟩ := by
    rw [hs₂, ← hentries₁]
    rfl
  rw [hentries₁] at hfile₂
  have hfile₂' : d₂.readFile s₂.path =
      .ok (Encoding.Utf8.encode (render (clean (ofLines (fileLines decoded.text))))) := by
    rw [hs₂, Session.saved_path]
    exact hfile₂
  -- so the second reload reads them back, and leaves the disk alone
  rw [Session.run_reload_of_file hfile₂' hdetect] at h₃
  cases h₃
  obtain ⟨-, hfile₄, -⟩ := Session.save_ok hwf₂ h₄ hok₄
  have hstore₃ : (s₂.store.load (fileLines (render (clean (ofLines (fileLines decoded.text)))))) =
      s₂.store := by
    rw [hstore₂, Store.load, hread]
  refine ⟨rfl, rfl, hstore₃, ?_, ?_⟩
  · rw [← hpath, hstore₂]
    exact hfile₂'
  · rw [← hpath]
    refine hfile₄.trans ?_
    rw [hfile₂', hstore₃, hstore₂]
    simp only [hclean]


/-- A file with a repeated key and a comment, reloaded and saved twice: the four runs exist with
both saves succeeding, and the second save changes nothing. -/
theorem sample_file_save_is_stable :
    let d₀ : Disk := ⟨"/w", [(["dictionary_en.txt"],
      .file (Encoding.Utf8.encode "b, 2\n# note\na, 1\nb, 3\n"))], none⟩
    let s₀ := Session.start "/w" .en
    d₀.WF ∧ ∃ (s₁ s₂ s₃ s₄ : Session) (d₁ d₂ d₃ d₄ : Disk)
      (r₁ r₃ : Except SessionError LoadReport) (w₂ w₄ : Except SessionError SaveReport),
      (s₀.reload (m := DiskM)).run d₀ = pure ((r₁, s₁), d₁) ∧ r₁.isOk ∧
      (s₁.save (m := DiskM)).run d₁ = pure ((w₂, s₂), d₂) ∧ w₂.isOk ∧
      (s₂.reload (m := DiskM)).run d₂ = pure ((r₃, s₃), d₃) ∧
      (s₃.save (m := DiskM)).run d₃ = pure ((w₄, s₄), d₄) ∧ w₄.isOk ∧
      (r₃.isOk ∧ s₃.encoding = some .utf8Sig ∧ s₃.store = s₂.store ∧
        d₂.readFile s₀.path = .ok (Encoding.Utf8.encode (Entry.render s₂.store.entries)) ∧
        d₄.readFile s₀.path = d₂.readFile s₀.path) := by
  intro d₀ s₀
  have hwf : d₀.WF := by
    intro e he k hk hlen
    simp only [d₀, List.mem_singleton] at he
    subst he
    simp only [List.length_singleton] at hlen
    omega
  refine ⟨hwf, _, _, _, _, _, _, _, _, _, _, _, _, DiskM.run_eq_pure_pair _ _, ?ok₁,
    DiskM.run_eq_pure_pair _ _, ?ok₂, DiskM.run_eq_pure_pair _ _, DiskM.run_eq_pure_pair _ _, ?ok₄,
    save_is_lossless_and_stable.2 _ _ _ _ _ _ _ _ _ _ _ _ _ _ hwf (DiskM.run_eq_pure_pair _ _) ?ok₁
      (DiskM.run_eq_pure_pair _ _) ?ok₂ (DiskM.run_eq_pure_pair _ _) (DiskM.run_eq_pure_pair _ _)
      ?ok₄⟩
  case ok₁ => decide +kernel
  case ok₂ => decide +kernel
  case ok₄ => decide +kernel

/-! ## What cleaning keeps and what a save reports -/

open Entry in
/-- Cleaning is first-occurrence deduplication of the normalised entries: it normalises both
fields of every entry, drops the entries whose key comes out empty, keeps the first entry of
each key in input order (keys compared exactly) and counts every other entry as dropped. So the
kept keys are not empty and pairwise distinct, and a successful save reports as many entries
written and dropped as the store held before it. -/
theorem clean_keeps_first_of_each_key :
    (∀ es : List Entry,
      cleanCounting es =
          (firstOfEachKey (keyed es), es.length - (firstOfEachKey (keyed es)).length) ∧
        (∀ e ∈ clean es, e.key ≠ "") ∧ ((clean es).map key).Nodup) ∧
    ∀ (s s' : Session) (d d' : Disk) (report : SaveReport),
      (s.save (m := DiskM)).run d = pure ((.ok report, s'), d') →
      report.written + report.dropped = s.store.len := by
  refine ⟨fun es => ⟨cleanCounting_eq_firstOfEachKey es, ?_, nodup_keys_clean es⟩, ?_⟩
  · -- every kept entry is normal, so its key is not empty
    intro e he
    exact (normal_of_mem_clean he).2.key_ne
  · intro s s' d d' report h
    exact Session.save_report_counts h

/-- A store with a padded key, its repeat and an entry without a key, saved to an empty
working directory: cleaning keeps one entry and drops two, and the save reports the three. -/
theorem padded_repeat_save_counts :
    let s : Session := { Session.start "/w" .en with
      store := ⟨[⟨" a ", "1"⟩, ⟨"a", "2"⟩, ⟨"", "x"⟩], true⟩ }
    ∃ (s' : Session) (d' : Disk),
      (s.save (m := DiskM)).run (Disk.empty "/w") =
          pure ((.ok ⟨"/w/dictionary_en.txt", 1, 2⟩, s'), d') ∧
        (1 : Nat) + 2 = s.store.len := by
  intro s
  have hres : ((s.save (m := DiskM)).run (Disk.empty "/w")).1.1.toOption =
      some ⟨"/w/dictionary_en.txt", 1, 2⟩ := by
    decide +kernel
  have hok : ((s.save (m := DiskM)).run (Disk.empty "/w")).1.1 =
      .ok ⟨"/w/dictionary_en.txt", 1, 2⟩ := by
    revert hres
    cases ((s.save (m := DiskM)).run (Disk.empty "/w")).1.1 <;> simp [Except.toOption]
  have hrun : (s.save (m := DiskM)).run (Disk.empty "/w") =
      pure ((.ok ⟨"/w/dictionary_en.txt", 1, 2⟩,
        ((s.save (m := DiskM)).run (Disk.empty "/w")).1.2),
        ((s.save (m := DiskM)).run (Disk.empty "/w")).2) :=
    (DiskM.run_eq_pure_pair _ _).trans (by rw [hok])
  exact ⟨((s.save (m := DiskM)).run (Disk.empty "/w")).1.2,
    ((s.save (m := DiskM)).run (Disk.empty "/w")).2, hrun,
    clean_keeps_first_of_each_key.2 s _ (Disk.empty "/w") _ ⟨"/w/dictionary_en.txt", 1, 2⟩ hrun⟩

end Wordbook
