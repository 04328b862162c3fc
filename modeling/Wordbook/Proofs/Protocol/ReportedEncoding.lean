import Wordbook.Proofs.Encoding.Detect
import Wordbook.Proofs.Protocol.Refusal

/-!
# The encoding a session reports

A session holds the encoding its active file was last read in: nothing before the first read,
then whatever `detect` answered. Since `detect` never answers `utf-8`
(`detect_encoding_ne_utf8`), no session reached by requests holds it (`Reaches.encoding_ne_utf8`):
one request either keeps the encoding or replaces it by the one a read answered
(`encoding_step`).

A read's report gives the encoding just stored, so its fallback to `utf-8` for a session that
holds none is never used (`reload_report_encoding`, `setProfile_report_encoding`). An answer to
`dictionary.reload` or `session.status` therefore never reports `utf-8` as the file's encoding
(`reported_encoding_ne_utf8`).

**The law** (`detect_inverts_encoders`): the UTF-8 form of a text, with or without the mark, and
its UTF-16 form after the mark of either byte order are read back as the text by `detect`, and
neither `detect`, a reachable session nor an answer ever names `utf-8`.

What it does not establish: a failure message may still list `utf-8` among the encodings tried;
only the encoding a session holds and reports is meant.
-/

set_option autoImplicit false

namespace Wordbook

open Encoding Protocol Json

theorem TextEncoding.name_eq_utf8_iff (e : TextEncoding) : e.name = "utf-8" ↔ e = .utf8 := by
  cases e <;> decide

/-- A read answers an encoding `detect` chose, never `utf-8`. -/
theorem Sync.readLines_encoding_ne_utf8 {path : String} {loaded : Loaded} {d d' : Disk}
    (h : (Sync.readLines (m := DiskM) path).run d = pure (.ok loaded, d')) :
    loaded.encoding ≠ .utf8 := by
  obtain ⟨bytes, decoded, -, hdec, rfl⟩ := Sync.readLines_ok h
  exact detect_encoding_ne_utf8 hdec

namespace Session

variable {s s' : Session} {d d' : Disk}

theorem save_encoding {res : Except SessionError SaveReport}
    (h : (s.save (m := DiskM)).run d = pure ((res, s'), d')) : s'.encoding = s.encoding := by
  obtain ⟨w, -, ⟨e, -, -, rfl⟩ | ⟨-, rfl, -⟩⟩ := save_cases h <;> rfl

theorem resolveUnsaved_encoding {onUnsaved : OnUnsaved} {res : Except SessionError Unit}
    (h : (s.resolveUnsaved (m := DiskM) onUnsaved).run d = pure ((res, s'), d')) :
    s'.encoding = s.encoding := by
  rcases resolveUnsaved_cases h with ⟨-, rfl, -⟩ | ⟨-, rfl, -⟩ | ⟨-, -, sr, hsave, -⟩
  · rfl
  · rfl
  · exact save_encoding hsave

/-- A successful reload reports the encoding it stored, which `detect` chose. -/
theorem reload_report_encoding {report : LoadReport}
    (h : (s.reload (m := DiskM)).run d = pure ((.ok report, s'), d')) :
    s'.encoding = some report.encoding ∧ report.encoding ≠ .utf8 := by
  obtain ⟨lr, hread, ⟨e, -, hres, -⟩ | ⟨loaded, rfl, rfl, hres⟩⟩ := reload_cases h
  · cases hres
  · obtain rfl := Except.ok.inj hres
    exact ⟨rfl, Sync.readLines_encoding_ne_utf8 hread⟩

/-- A successful switch reports the encoding it stored, which `detect` chose. -/
theorem setProfile_report_encoding {code : String} {onUnsaved : OnUnsaved} {report : LoadReport}
    (h : (s.setProfile (m := DiskM) code onUnsaved).run d = pure ((.ok (some report), s'), d')) :
    s'.encoding = some report.encoding ∧ report.encoding ≠ .utf8 := by
  rcases setProfile_cases h with ⟨-, hres, -⟩ | ⟨-, hres, -⟩ | ⟨target, -, -, r₁, s₁, d₁, -, hrest⟩
  · cases hres
  · cases hres
  rcases hrest with ⟨e, -, hres, -⟩ | ⟨-, lr, hread, ⟨e, -, hres, -⟩ | ⟨loaded, rfl, rfl, hres⟩⟩
  · cases hres
  · cases hres
  · obtain rfl := Option.some.inj (Except.ok.inj hres)
    exact ⟨rfl, Sync.readLines_encoding_ne_utf8 hread⟩

end Session

namespace Protocol

variable {s s' : Session} {d d' : Disk} {line : String} {r : Response}

/-- One request keeps the session's encoding or replaces it by one a read answered, so it never
brings in `utf-8`. -/
theorem encoding_step (hstep : (handle (m := DiskM) s line).run d = pure ((r, s'), d'))
    (hs : s.encoding ≠ some .utf8) : s'.encoding ≠ some .utf8 := by
  cases handle_cases hstep with
  | keeps => exact hs
  | edits => exact hs
  | reloads hc hrun =>
    obtain ⟨lr, hread, ⟨e, -, -, rfl⟩ | ⟨loaded, rfl, rfl, -⟩⟩ := Session.reload_cases hrun
    · exact hs
    · exact fun he => Sync.readLines_encoding_ne_utf8 hread (Option.some.inj he)
  | saves hc hrun =>
    rw [Session.save_encoding hrun]
    exact hs
  | switches hc hon hrun =>
    rcases Session.setProfile_cases hrun with
      ⟨-, -, rfl, -⟩ | ⟨-, -, rfl, -⟩ | ⟨target, -, -, r₁, s₁, d₁, hres, hrest⟩
    · exact hs
    · exact hs
    -- unsaved edits were settled first, which keeps the encoding
    have hsettled := Session.resolveUnsaved_encoding hres
    rcases hrest with ⟨e, -, -, rfl, -⟩ | ⟨-, lr, hread, ⟨e, -, -, rfl⟩ | ⟨loaded, rfl, rfl, -⟩⟩
    · rw [hsettled]
      exact hs
    · rw [hsettled]
      exact hs
    · exact fun he => Sync.readLines_encoding_ne_utf8 hread (Option.some.inj he)
  | closes hc hon hrun =>
    obtain ⟨r₁, s₁, hres, hcl⟩ := Session.close_cases hrun
    -- a close keeps the settled session, marked closed or not, and settling keeps the encoding
    have hsettled : s₁.encoding ≠ some .utf8 := by
      rw [Session.resolveUnsaved_encoding hres]
      exact hs
    rcases hcl with ⟨-, -, rfl⟩ | ⟨-, -, rfl⟩ | ⟨e, -, -, rfl⟩ <;> exact hsettled

/-- Along every run from a session that holds no `utf-8`, no session holds it. -/
theorem Reaches.encoding_ne_utf8 {s₀ : Session} {d₀ : Disk} {b : Bool}
    (hreach : Reaches s₀ d₀ s d b) (h₀ : s₀.encoding ≠ some .utf8) : s.encoding ≠ some .utf8 := by
  induction hreach with
  | start => exact h₀
  | step line hprev hstep ih => exact encoding_step hstep ih

/-! ## What the answers report -/

/-- The last field of an object answers a lookup of its key. -/
theorem get?_ofFields_concat (pre : List (String × Value)) (key : String) (v : Value) :
    (Value.ofFields (pre ++ [(key, v)])).get? key = some v := by
  simp only [Value.ofFields, Value.get?, List.foldl_append, List.foldl_cons, List.foldl_nil,
    find?_insertField, if_pos, Option.map_some]

theorem loadReportValue_encoding (report : LoadReport) :
    (loadReportValue report).get? "encoding" = some (.string report.encoding.name) :=
  get?_ofFields_concat [("path", _), ("count", _)] "encoding" _

theorem statusValue_encoding (s : Session) :
    (statusValue s).get? "encoding" =
      some (match s.encoding with
        | some e => .string e.name
        | none => .null) :=
  get?_ofFields_concat [("profile", _), ("base_dir", _), ("path", _), ("dirty", _), ("count", _)]
    "encoding" _

/-- `session.status` answers the state of the session and changes nothing. -/
theorem handle_status (hc : commandOf line = some .sessionStatus)
    (h : (handle (m := DiskM) s line).run d = pure ((r, s'), d')) :
    ∃ id, r = .ok id (statusValue s) ∧ s' = s := by
  obtain ⟨req, hp, hname⟩ := Option.map_eq_some_iff.1 hc
  unfold handle at h
  rw [hp] at h
  unfold answer at h
  simp only [hname] at h
  obtain ⟨hres, -⟩ := DiskM.run_pure_inv h
  obtain ⟨rfl, rfl⟩ := Prod.mk.inj hres
  exact ⟨_, rfl, rfl⟩

/-- A successful `dictionary.reload` answers the report of a successful reload. -/
theorem handle_reload_ok {id : Value} {payload : Value}
    (hc : commandOf line = some .dictionaryReload)
    (h : (handle (m := DiskM) s line).run d = pure ((.ok id payload, s'), d')) :
    ∃ report, (s.reload (m := DiskM)).run d = pure ((.ok report, s'), d') ∧
      payload = loadReportValue report := by
  generalize hr : Response.ok id payload = r at h
  cases handle_cases h with
  | keeps hkeep =>
    -- a reload neither fails here nor only looks
    rcases hkeep with hfail | ⟨cmd, hc', hlooks⟩
    · rw [← hr] at hfail
      cases hfail
    · rw [hc] at hc'
      cases hc'
      cases hlooks
  | edits hc' hcmd =>
    rw [hc] at hc'
    rcases hcmd with rfl | rfl | rfl <;> cases hc'
  | @reloads id' res _ _ _ hrun =>
    cases res with
    | ok report =>
      obtain ⟨-, rfl⟩ := Response.ok.inj hr
      exact ⟨report, hrun, rfl⟩
    | error e => cases hr
  | saves hc' =>
    rw [hc] at hc'
    cases hc'
  | switches hc' =>
    rw [hc] at hc'
    cases hc'
  | closes hc' =>
    rw [hc] at hc'
    cases hc'

/-- From a session that holds no `utf-8`, an answer to `dictionary.reload` or `session.status`
never reports `utf-8` as the encoding. -/
theorem reported_encoding_ne_utf8 {id payload : Value}
    (hs : s.encoding ≠ some .utf8)
    (hstep : (handle (m := DiskM) s line).run d = pure ((.ok id payload, s'), d'))
    (hcmd : commandOf line = some .dictionaryReload ∨ commandOf line = some .sessionStatus) :
    payload.get? "encoding" ≠ some (.string "utf-8") := by
  rcases hcmd with hc | hc
  · obtain ⟨report, hrun, rfl⟩ := handle_reload_ok hc hstep
    rw [loadReportValue_encoding]
    intro heq
    have hname : report.encoding.name = "utf-8" := by injection heq with h; injection h
    exact (Session.reload_report_encoding hrun).2 ((TextEncoding.name_eq_utf8_iff _).1 hname)
  · obtain ⟨id', hr, -⟩ := handle_status hc hstep
    obtain ⟨-, rfl⟩ := Response.ok.inj hr
    rw [statusValue_encoding]
    cases he : s.encoding with
    | none => simp
    | some e =>
      intro heq
      have hname : e.name = "utf-8" := by injection heq with h; injection h
      exact hs (by rw [he, (TextEncoding.name_eq_utf8_iff e).1 hname])

end Protocol

/-- Reading inverts every way a dictionary file is written, and `utf-8` is never named: the
UTF-8 form of a text is read by `utf-8-sig` as the text less one leading U+FEFF, and as the
whole text after the mark; the UTF-16 form after the mark of its byte order is read by `utf-16`
as the text. `detect` never answers `utf-8`, no session reached by requests from a start holds
it, the reports of reads give the encoding stored, and no answer to `dictionary.reload` or
`session.status` reports `utf-8`. -/
theorem detect_inverts_encoders :
    (∀ s : String, detect (Utf8.encode s) = .ok ⟨.utf8Sig, Text.stripBom s⟩) ∧
    (∀ s : String, detect (Utf8.bomBytes ++ Utf8.encode s) = .ok ⟨.utf8Sig, s⟩) ∧
    (∀ (order : Utf16.Order) (s : String),
      detect (Utf16.bomBytes order ++ Utf16.encode order s) = .ok ⟨.utf16, s⟩) ∧
    (∀ (bytes : List UInt8) (decoded : Decoded),
      detect bytes = .ok decoded → decoded.encoding ≠ .utf8) ∧
    (∀ (baseDir : String) (profile : Profile) (d₀ : Disk) (s : Session) (d : Disk) (b : Bool),
      Reaches (Session.start baseDir profile) d₀ s d b → s.encoding ≠ some .utf8) ∧
    (∀ (s s' : Session) (d d' : Disk) (report : LoadReport),
      (s.reload (m := DiskM)).run d = pure ((.ok report, s'), d') →
        s'.encoding = some report.encoding) ∧
    (∀ (s s' : Session) (d d' : Disk) (code : String) (onUnsaved : OnUnsaved)
      (report : LoadReport),
      (s.setProfile (m := DiskM) code onUnsaved).run d = pure ((.ok (some report), s'), d') →
        s'.encoding = some report.encoding) ∧
    (∀ (baseDir : String) (profile : Profile) (d₀ : Disk) (s : Session) (d : Disk) (b : Bool)
      (line : String) (id payload : Value) (s' : Session) (d' : Disk),
      Reaches (Session.start baseDir profile) d₀ s d b →
      (handle (m := DiskM) s line).run d = pure ((.ok id payload, s'), d') →
      (commandOf line = some .dictionaryReload ∨ commandOf line = some .sessionStatus) →
      payload.get? "encoding" ≠ some (.string "utf-8")) := by
  -- a session starts holding no encoding at all
  have hstart : ∀ (baseDir : String) (profile : Profile),
      (Session.start baseDir profile).encoding ≠ some .utf8 := fun _ _ => by simp [Session.start]
  refine ⟨detect_utf8, detect_utf8Bom, detect_utf16, fun _ _ => detect_encoding_ne_utf8,
    fun baseDir profile _ _ _ _ hreach => hreach.encoding_ne_utf8 (hstart baseDir profile),
    fun _ _ _ _ _ hrun => (Session.reload_report_encoding hrun).1,
    fun _ _ _ _ _ _ _ hrun => (Session.setProfile_report_encoding hrun).1, ?_⟩
  intro baseDir profile _ _ _ _ _ _ _ _ _ hreach hstep hcmd
  exact reported_encoding_ne_utf8 (hreach.encoding_ne_utf8 (hstart baseDir profile)) hstep hcmd

/-- The first reload of a session on an empty disk succeeds, and its answer does not report
`utf-8`. -/
theorem first_reload_reports_no_utf8 :
    let d₀ := Disk.empty "/w"
    let s₀ := Session.start "/w" .en
    let reload := "\x7b\"cmd\":\"dictionary.reload\"\x7d"
    ∃ (id payload : Value) (s₁ : Session) (d₁ : Disk),
      Reaches s₀ d₀ s₀ d₀ false ∧
      (handle (m := DiskM) s₀ reload).run d₀ = pure ((.ok id payload, s₁), d₁) ∧
      commandOf reload = some .dictionaryReload ∧
      payload.get? "encoding" ≠ some (.string "utf-8") := by
  intro d₀ s₀ reload
  have hok : ((handle (m := DiskM) s₀ reload).run d₀).1.1.isFailure = false := by decide +kernel
  obtain ⟨id, payload, hr⟩ :
      ∃ id payload, ((handle (m := DiskM) s₀ reload).run d₀).1.1 = .ok id payload := by
    cases h : ((handle (m := DiskM) s₀ reload).run d₀).1.1 with
    | ok id payload => exact ⟨id, payload, rfl⟩
    | failure => rw [h] at hok; cases hok
    | unreadable => rw [h] at hok; cases hok
  have hrun : (handle (m := DiskM) s₀ reload).run d₀ =
      pure ((.ok id payload, ((handle (m := DiskM) s₀ reload).run d₀).1.2),
        ((handle (m := DiskM) s₀ reload).run d₀).2) := by
    rw [← hr]
    exact DiskM.run_eq_pure_pair _ _
  have hcmd : commandOf reload = some .dictionaryReload := by decide +kernel
  exact ⟨id, payload, _, _, .start, hrun, hcmd,
    detect_inverts_encoders.2.2.2.2.2.2.2 "/w" .en d₀ s₀ d₀ false reload id payload _ _ .start
      hrun (.inl hcmd)⟩

end Wordbook
