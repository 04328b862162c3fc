import Wordbook.Proofs.Protocol.Step

/-!
# Refused requests change nothing

An answer that reports no change (`Quiet`) comes from a request that changed nothing: a failure
of any kind, an answer to a command that only looks, a switch that answers `switched: false`
or a close that answers `closed: false`. The session after it is the session before it, field
for field, with one exception: a switch that saved unsaved edits and then could not read the new
language's file keeps the save (`Session.saved`) and reports the failure.

The proof follows `handle_cases`: `keeps` keeps the session by definition, every other path
either keeps it when it fails or answers in a way `Quiet` excludes.
-/

set_option autoImplicit false

namespace Wordbook.Protocol

open Json

/-! ## Fields of an answer -/

/-- Setting a key in a field list is seen by a lookup of that key, and by no other. -/
theorem find?_insertField (key key' : String) (v : Value) (acc : List (String × Value)) :
    (insertField key v acc).find? (·.1 == key') =
      if key = key' then some (key, v) else acc.find? (·.1 == key') := by
  induction acc with
  | nil => by_cases h : key = key' <;> simp [insertField, h]
  | cons kw rest ih =>
    obtain ⟨k, w⟩ := kw
    by_cases hk : key = k
    · subst hk
      by_cases h : key = key' <;> simp [insertField, h]
    · by_cases hlt : key < k
      · by_cases h : key = key'
        · subst h
          simp [insertField, hk, hlt]
        · simp [insertField, hk, hlt, h]
      · simp only [insertField, hk, hlt, if_false, List.find?_cons, ih]
        by_cases h : key = key'
        · subst h
          have hne : (k == key) = false := by simpa using Ne.symm hk
          simp [hne]
        · simp [h]

/-- Setting other keys leaves the lookup of a key as it was. -/
theorem find?_foldl_insertField (key : String) (rest acc : List (String × Value))
    (hrest : ∀ kv ∈ rest, kv.1 ≠ key) :
    (rest.foldl (fun acc kv => insertField kv.1 kv.2 acc) acc).find? (·.1 == key) =
      acc.find? (·.1 == key) := by
  induction rest generalizing acc with
  | nil => rfl
  | cons kv rest ih =>
    rw [List.foldl_cons, ih _ fun kv' h => hrest kv' (List.mem_cons_of_mem _ h),
      find?_insertField, if_neg (hrest kv List.mem_cons_self)]

/-- The first field of an object answers a lookup of its key when no later field has it. -/
theorem get?_ofFields_cons {key : String} {v : Value} {rest : List (String × Value)}
    (hrest : ∀ kv ∈ rest, kv.1 ≠ key) : (Value.ofFields ((key, v) :: rest)).get? key = some v := by
  simp only [Value.ofFields, Value.get?, List.foldl_cons]
  rw [find?_foldl_insertField key rest _ hrest]
  simp [insertField]

/-! ## Answers that report no change -/

/-- Whether an answer is a success whose payload has the Boolean field `key` set to `b`. -/
def Response.reports (r : Response) (key : String) (b : Bool) : Prop :=
  ∃ id payload, r = .ok id payload ∧ payload.get? key = some (.bool b)

/-- An answer that reports no change: a failure, an answer to a command that only looks, or a
switch or a close that says it did nothing. -/
def Quiet (line : String) (r : Response) : Prop :=
  r.isFailure ∨ (∃ cmd, commandOf line = some cmd ∧ cmd.looks) ∨
    (commandOf line = some .profileSet ∧ r.reports "switched" false) ∨
    (commandOf line = some .sessionClose ∧ r.reports "closed" false)

theorem switchAnswer_switched (id : Value) (report : Option LoadReport) (s' : Session) :
    (switchAnswer id (.ok report) s').reports "switched" report.isSome :=
  ⟨id, _, rfl, get?_ofFields_cons (by simp)⟩

theorem closeAnswer_closed (id : Value) (closed : Bool) :
    (closeAnswer id (.ok closed)).reports "closed" closed :=
  ⟨id, _, rfl, rfl⟩

/-- A success to a command that neither only looks nor can report doing nothing is not quiet. -/
theorem not_quiet_of_ok {line : String} {cmd : Command} {id payload : Value}
    (hc : commandOf line = some cmd) (hlooks : cmd.looks = false)
    (hset : cmd ≠ .profileSet) (hclose : cmd ≠ .sessionClose) :
    ¬ Quiet line (.ok id payload) := by
  rintro (hfail | ⟨cmd', hc', hl⟩ | ⟨hc', -⟩ | ⟨hc', -⟩)
  · cases hfail
  · rw [hc] at hc'
    cases hc'
    rw [hlooks] at hl
    cases hl
  · rw [hc] at hc'
    exact hset (Option.some.inj hc')
  · rw [hc] at hc'
    exact hclose (Option.some.inj hc')

/-- A field reported `true` is not reported `false`. -/
theorem Response.reports_unique {r : Response} {key : String} {b b' : Bool}
    (h : r.reports key b) (h' : r.reports key b') : b = b' := by
  obtain ⟨id, payload, rfl, hp⟩ := h
  obtain ⟨id', payload', hr, hp'⟩ := h'
  cases hr
  rw [hp] at hp'
  cases hp'
  rfl

/-! ## A quiet answer keeps the session -/

variable {s s' : Session} {d d' : Disk} {line : String} {r : Response}

/-- A switch answered with a success that switched is not quiet. -/
theorem not_quiet_switched {id : Value} {report : LoadReport}
    (hc : commandOf line = some .profileSet) :
    ¬ Quiet line (switchAnswer id (.ok (some report)) s') := by
  rintro (hfail | ⟨cmd, hc', hl⟩ | ⟨-, hrep⟩ | ⟨hc', -⟩)
  · cases hfail
  · rw [hc] at hc'
    cases hc'
    cases hl
  · have hsw := Response.reports_unique (switchAnswer_switched id (some report) s') hrep
    cases hsw
  · rw [hc] at hc'
    cases hc'

/-- A close answered `closed: true` is not quiet. -/
theorem not_quiet_closed {id : Value} (hc : commandOf line = some .sessionClose) :
    ¬ Quiet line (closeAnswer id (.ok true)) := by
  rintro (hfail | ⟨cmd, hc', hl⟩ | ⟨hc', -⟩ | ⟨-, hrep⟩)
  · cases hfail
  · rw [hc] at hc'
    cases hc'
    cases hl
  · rw [hc] at hc'
    cases hc'
  · have hcl := Response.reports_unique (closeAnswer_closed id true) hrep
    cases hcl

/-- A request answered with a failure, a look, or a switch or a close that did nothing leaves
the session as it was. The one exception is a switch asked to save unsaved edits: when that save
succeeded and the file of the language asked for then could not be read, the session keeps the
save (`Session.saved`: the same language, path and encoding, the cleaned entries and no unsaved
edit) and reports the failure. -/
theorem quiet_answer_keeps_session
    (h : (handle (m := DiskM) s line).run d = pure ((r, s'), d')) (hq : Quiet line r) :
    s' = s ∨
      (commandOf line = some .profileSet ∧ r.isFailure ∧ s.isDirty ∧
        (∃ req target report d₁ e, Json.parse? line = some req ∧
          onUnsavedField (payloadOf req) = .ok .save ∧
          Profile.find? ((textField? (payloadOf req) "code").getD "") = some target ∧
          (s.save (m := DiskM)).run d = pure ((.ok report, s.saved), d₁) ∧
          (Sync.readLines (m := DiskM) (Path.join s.baseDir target.filename)).run d₁ =
            pure (.error e, d')) ∧
        s' = s.saved) := by
  cases handle_cases h with
  | keeps hr => exact .inl rfl
  | edits hc hcmd hdirty =>
    exfalso
    rcases hcmd with rfl | rfl | rfl <;>
      exact not_quiet_of_ok hc rfl (by decide) (by decide) hq
  | reloads hc hrun =>
    obtain ⟨lr, -, ⟨e, -, rfl, rfl⟩ | ⟨loaded, -, -, rfl⟩⟩ := Session.reload_cases hrun
    · exact .inl rfl
    · exact absurd hq (not_quiet_of_ok hc rfl (by decide) (by decide))
  | saves hc hrun =>
    obtain ⟨w, -, ⟨e, -, rfl, rfl⟩ | ⟨-, -, rfl⟩⟩ := Session.save_cases hrun
    · exact .inl rfl
    · exact absurd hq (not_quiet_of_ok hc rfl (by decide) (by decide))
  | switches hc hon hrun =>
    rcases Session.setProfile_cases hrun with
      ⟨-, -, rfl, -⟩ | ⟨-, -, rfl, -⟩ | ⟨target, hfind, -, r₁, s₁, d₁, hres, hrest⟩
    · exact .inl rfl
    · exact .inl rfl
    rcases hrest with ⟨e, rfl, -, rfl, -⟩ | ⟨rfl, lr, hread, ⟨e, rfl, rfl, rfl⟩ | ⟨loaded, -, -, rfl⟩⟩
    · -- unsaved edits were not settled
      exact .inl (Session.resolveUnsaved_error hres)
    · -- settled, then the new file could not be read
      rcases Session.resolveUnsaved_ok hres with ⟨rfl, -⟩ | ⟨hdirty, rfl, rfl, report, hsave⟩
      · exact .inl rfl
      · obtain ⟨req, hp, rfl, hsaveField⟩ := hon
        exact .inr ⟨hc, rfl, hdirty, ⟨req, target, report, d₁, e, hp, hsaveField, hfind, hsave,
          hread⟩, rfl⟩
    · exact absurd hq (not_quiet_switched hc)
  | closes hc hon hrun =>
    obtain ⟨r₁, s₁, hres, ⟨rfl, rfl, rfl⟩ | ⟨rfl, rfl, rfl⟩ | ⟨e, rfl, rfl, rfl⟩⟩ :=
      Session.close_cases hrun
    · exact absurd hq (not_quiet_closed hc)
    · exact .inl (Session.resolveUnsaved_error hres)
    · exact .inl (Session.resolveUnsaved_error hres)

/-- Removing from an empty dictionary is refused, and the session stays as it was. -/
theorem refused_remove_keeps_session :
    let line := "\x7b\"cmd\":\"records.remove\",\"payload\":\x7b\"index\":3\x7d\x7d"
    let q := (handle (m := DiskM) (Session.start "/w" .en) line).run (Disk.empty "/w")
    Quiet line q.1.1 ∧
      (q.1.2 = Session.start "/w" .en ∨
        (commandOf line = some .profileSet ∧ q.1.1.isFailure ∧ (Session.start "/w" .en).isDirty ∧
          (∃ req target report d₁ e, Json.parse? line = some req ∧
            onUnsavedField (payloadOf req) = .ok .save ∧
            Profile.find? ((textField? (payloadOf req) "code").getD "") = some target ∧
            ((Session.start "/w" .en).save (m := DiskM)).run (Disk.empty "/w") =
              pure ((.ok report, (Session.start "/w" .en).saved), d₁) ∧
            (Sync.readLines (m := DiskM)
                (Path.join (Session.start "/w" .en).baseDir target.filename)).run d₁ =
              pure (.error e, q.2)) ∧
          q.1.2 = (Session.start "/w" .en).saved)) :=
  ⟨.inl (by decide +kernel),
    quiet_answer_keeps_session (DiskM.run_eq_pure_pair _ _) (.inl (by decide +kernel))⟩

end Wordbook.Protocol
