import Wordbook.Proofs.Disk.Tree
import Wordbook.Proofs.Sync.TempPlace

/-!
# What reading and writing dictionary files does to a disk

The storage operations of `Sync`, run on the in-memory `Disk`, change a tree in three ways
only, one relation each:

* `Disk.Builds`: directories are built where nothing was (`Storage.createDirAll`);
* `Disk.Bootstraps`: besides that, an empty file is put where nothing was at one place
  (`Sync.bootstrap`, and `Sync.readLines`, which only reads after it);
* `Disk.Saved` / `Disk.SaveFailed`: the file holds the written bytes and nothing is left at
  the temporary file, or the save failed and only the temporary file's place changed, which is
  never the file's: it lost what a failed rename left there, or it holds the first bytes of a
  write that filled the disk (`Sync.writeAtomic`, `Sync.writeEntries`).

The first is derived compositionally: `DiskM.OnlyBuilds x` says every run of `x` only builds
directories, and is closed under `pure` and bind. The others invert one run step by step with
`DiskM.run_bind_eq_pure`.

Each relation keeps the working directory, so every path locates to the same place before and
after, and keeps a tree a tree (`Disk.WF`).
-/

set_option autoImplicit false

namespace Wordbook

open Disk

/-! ## Disk changes -/

/-- A disk change that keeps a tree a tree and the working directory where it is, and at every
place keeps the node or builds a directory where there was nothing. -/
structure Disk.Builds (d d' : Disk) : Prop where
  here : d'.here = d.here
  wf : d.WF → d'.WF
  grows : ∀ parts, Grows d d' parts

theorem Disk.Builds.refl (d : Disk) : Disk.Builds d d := ⟨rfl, id, fun parts => .refl d parts⟩

theorem Disk.Builds.trans {d₁ d₂ d₃ : Disk} (h₁ : Disk.Builds d₁ d₂) (h₂ : Disk.Builds d₂ d₃) :
    Disk.Builds d₁ d₃ :=
  ⟨h₂.here.trans h₁.here, h₂.wf ∘ h₁.wf, fun parts => (h₁.grows parts).trans (h₂.grows parts)⟩

/-- Making sure a file exists: directories built where nothing was, and at the file's place
the node kept or an empty file put where nothing was. -/
structure Disk.Bootstraps (file : List String) (d d' : Disk) : Prop where
  here : d'.here = d.here
  wf : d'.WF
  others : ∀ parts, parts ≠ file → Grows d d' parts
  at_file : Grows d d' file ∨ (d.nodeAt file = none ∧ d'.nodeAt file = some (.file []))

/-- A successful save of `bytes` to `target` through the temporary file `tmp`. -/
structure Disk.Saved (target tmp : List String) (bytes : List UInt8) (d d' : Disk) : Prop where
  here : d'.here = d.here
  wf : d'.WF
  at_target : d'.nodeAt target = some (.file bytes)
  at_tmp : tmp ≠ target → d'.nodeAt tmp = none
  others : ∀ parts, parts ≠ target → parts ≠ tmp → Grows d d' parts

/-- A failed save of `bytes` to `target` through the temporary file `tmp`: only directories
were built, except at `tmp`, a place apart from the target where no directory was. There the
save wrote a file and removed it again, or left it holding the first of the bytes, those that
fitted on a full disk. -/
structure Disk.SaveFailed (target tmp : List String) (bytes : List UInt8) (d d' : Disk) :
    Prop where
  here : d'.here = d.here
  wf : d'.WF
  at_tmp : Grows d d' tmp ∨ (tmp ≠ target ∧ d.nodeAt tmp ≠ some .dir ∧
    (d'.nodeAt tmp = none ∨ ∃ part, part <+: bytes ∧ d'.nodeAt tmp = some (.file part)))
  others : ∀ parts, parts ≠ tmp → Grows d d' parts

/-- A failed save leaves what was at the target, or builds a directory where nothing was. -/
theorem Disk.SaveFailed.grows_target {target tmp : List String} {bytes : List UInt8} {d d' : Disk}
    (h : Disk.SaveFailed target tmp bytes d d') : Grows d d' target := by
  by_cases ht : target = tmp
  · subst ht
    rcases h.at_tmp with hg | ⟨hne, -, -⟩
    · exact hg
    · exact absurd rfl hne
  · exact h.others target ht

theorem Disk.Builds.bootstraps {file : List String} {d d' : Disk} (hwf : d.WF)
    (h : Disk.Builds d d') : Disk.Bootstraps file d d' :=
  ⟨h.here, h.wf hwf, fun parts _ => h.grows parts, .inl (h.grows file)⟩

theorem Disk.Builds.saveFailed {target tmp : List String} {bytes : List UInt8} {d d' : Disk}
    (hwf : d.WF) (h : Disk.Builds d d') : Disk.SaveFailed target tmp bytes d d' :=
  ⟨h.here, h.wf hwf, .inl (h.grows tmp), fun parts _ => h.grows parts⟩

/-! ## The files an effect leaves readable -/

section Files

variable {d d' : Disk} {p : String} {bs : List UInt8}

/-- On a tree a file reads exactly when it is there: every directory above it is. -/
theorem Disk.WF.readFile_ok_iff (hwf : d.WF) :
    d.readFile p = .ok bs ↔ d.nodeAt (d.locate p) = some (.file bs) :=
  ⟨fun h => ((readFile_eq_ok_iff d).mp h).2,
    fun h => (readFile_eq_ok_iff d).mpr ⟨hwf.walk_of_nodeAt h, h⟩⟩

/-- A place that only grew keeps the file it held, on trees with one working directory. -/
theorem Disk.readFile_of_grows (hwf' : d'.WF) (hhere : d'.here = d.here)
    (hg : Grows d d' (d.locate p)) (hf : d.readFile p = .ok bs) : d'.readFile p = .ok bs := by
  have hn : d.nodeAt (d.locate p) = some (.file bs) := ((readFile_eq_ok_iff d).mp hf).2
  rw [hwf'.readFile_ok_iff, Disk.locate_of_here d hhere, hg.eq_of_ne_none (by rw [hn]; simp),
    hn]

/-- A successful save leaves its target reading as the bytes it wrote. -/
theorem Disk.Saved.readFile {tmp : List String}
    (h : Disk.Saved (d.locate p) tmp bs d d') : d'.readFile p = .ok bs := by
  rw [h.wf.readFile_ok_iff, Disk.locate_of_here d h.here]
  exact h.at_target

/-- A failed save leaves its target's file as it was. -/
theorem Disk.SaveFailed.readFile {tmp : List String} {written : List UInt8}
    (h : Disk.SaveFailed (d.locate p) tmp written d d') (hf : d.readFile p = .ok bs) :
    d'.readFile p = .ok bs :=
  Disk.readFile_of_grows h.wf h.here h.grows_target hf

/-- A bootstrap leaves every file there was as it was: it only fills a place that was empty. -/
theorem Disk.Bootstraps.readFile {file : List String} (h : Disk.Bootstraps file d d')
    (hf : d.readFile p = .ok bs) : d'.readFile p = .ok bs := by
  have hg : Grows d d' (d.locate p) := by
    by_cases hp : d.locate p = file
    · rcases h.at_file with hg | ⟨hnone, -⟩
      · exact hp ▸ hg
      · rw [← hp, ((readFile_eq_ok_iff d).mp hf).2] at hnone
        cases hnone
    · exact h.others _ hp
  exact Disk.readFile_of_grows h.wf h.here hg hf

end Files

/-! ## Running storage operations on a disk -/

namespace DiskM

variable {α β : Type}

theorem run_change (f : Disk → Except OsError Disk) (d : Disk) :
    (DiskM.change f).run d =
      pure (match f d with
        | .ok d' => (.ok (), d')
        | .error e => (.error e, d)) := rfl

@[simp] theorem run_kindAt (p : String) (d : Disk) :
    (Storage.kindAt (m := DiskM) p).run d = pure ((d.stat p).toOption.map Node.kind, d) := rfl

@[simp] theorem run_readBytes (p : String) (d : Disk) :
    (Storage.readBytes (m := DiskM) p).run d = pure (d.readFile p, d) := rfl

/-- A run of a write is the write on the disk, which may change it even when it fails. -/
theorem writeBytes_run_inv {p : String} {bs : List UInt8} {d d' : Disk} {r : Except OsError Unit}
    (h : (Storage.writeBytes (m := DiskM) p bs).run d = pure (r, d')) :
    d.writeFile p bs = (r, d') := h

theorem run_isPresent (p : String) (d : Disk) :
    (Storage.isPresent (m := DiskM) p).run d = pure ((d.stat p).toOption.isSome, d) := by
  simp [Storage.isPresent, Option.isSome_map]

/-- Every run is the pure answer of its own result: the equation a run lemma consumes, for a
run that is not computed. -/
theorem run_eq_pure_pair {γ : Type} (x : DiskM (α × γ)) (d : Disk) :
    x.run d = pure (((x.run d).1.1, (x.run d).1.2), (x.run d).2) := rfl

/-- A disk change either succeeds with the changed disk, or fails and keeps the disk. -/
theorem change_run_inv {f : Disk → Except OsError Disk} {d d' : Disk} {r : Except OsError Unit}
    (h : (DiskM.change f).run d = pure (r, d')) :
    (r = .ok () ∧ f d = .ok d') ∨ (∃ e, r = .error e ∧ f d = .error e ∧ d = d') := by
  rw [run_change] at h
  cases hf : f d with
  | ok d₁ =>
    rw [hf] at h
    cases h
    exact .inl ⟨rfl, rfl⟩
  | error e =>
    rw [hf] at h
    cases h
    exact .inr ⟨e, rfl, rfl, rfl⟩

theorem run_pure_inv {a r : α} {d d' : Disk} (h : (pure a : DiskM α).run d = pure (r, d')) :
    r = a ∧ d = d' := by
  cases h
  exact ⟨rfl, rfl⟩

/-- A run of a sequence is a run of its first part followed by a run of the rest. -/
theorem run_bind_eq_pure {x : DiskM α} {f : α → DiskM β} {d d' : Disk} {r : β} :
    (x >>= f).run d = pure (r, d') ↔
      ∃ a d₁, x.run d = pure (a, d₁) ∧ (f a).run d₁ = pure (r, d') := by
  rw [StateT.run_bind]
  obtain ⟨⟨a, d₁⟩, h₁⟩ : ∃ q, x.run d = pure q := ⟨_, rfl⟩
  rw [h₁, pure_bind]
  constructor
  · intro h
    exact ⟨a, d₁, rfl, h⟩
  · rintro ⟨a', d₁', h', h⟩
    cases h'
    exact h

/-! ## Computations that only build directories -/

/-- Every run of the computation only builds directories. -/
def OnlyBuilds (x : DiskM α) : Prop :=
  ∀ d r d', x.run d = pure (r, d') → Disk.Builds d d'

theorem onlyBuilds_pure (a : α) : OnlyBuilds (pure a : DiskM α) := by
  intro d r d' h
  cases h
  exact .refl d

theorem onlyBuilds_bind {x : DiskM α} {f : α → DiskM β} (hx : OnlyBuilds x)
    (hf : ∀ a, OnlyBuilds (f a)) : OnlyBuilds (x >>= f) := by
  intro d r d' h
  obtain ⟨a, d₁, h₁, h₂⟩ := run_bind_eq_pure.mp h
  exact (hx d a d₁ h₁).trans (hf a d₁ r d' h₂)

theorem onlyBuilds_kindAt (p : String) : OnlyBuilds (Storage.kindAt (m := DiskM) p) := by
  intro d r d' h
  cases h
  exact .refl d

theorem onlyBuilds_isDir (p : String) : OnlyBuilds (Storage.isDir (m := DiskM) p) :=
  onlyBuilds_bind (onlyBuilds_kindAt p) fun _ => onlyBuilds_pure _

theorem onlyBuilds_makeDir (p : String) : OnlyBuilds (Storage.makeDir (m := DiskM) p) := by
  intro d r d' h
  rcases change_run_inv h with ⟨-, hd⟩ | ⟨e, -, -, rfl⟩
  · obtain ⟨-, hw, -, rfl⟩ := makeDir_eq_ok _ hd
    exact ⟨rfl, fun hwf => hwf.setNode hw (.inl rfl), grows_of_makeDir hd⟩
  · exact .refl _

/-- Building a lineage of directories only builds directories. -/
theorem onlyBuilds_createDirAllOf :
    ∀ l : List String, OnlyBuilds (Storage.createDirAllOf (m := DiskM) l)
  | [] => onlyBuilds_pure _
  | p :: above => by
    rw [Storage.createDirAllOf.eq_def]
    dsimp only
    split
    · exact onlyBuilds_pure _
    refine onlyBuilds_bind (onlyBuilds_makeDir p) fun r => ?_
    split
    · exact onlyBuilds_pure _
    · -- a missing parent: build the ancestors, then try again
      cases above with
      | nil => exact onlyBuilds_pure _
      | cons q qs =>
        refine onlyBuilds_bind (onlyBuilds_createDirAllOf (q :: qs)) fun r => ?_
        split
        · exact onlyBuilds_pure _
        · refine onlyBuilds_bind (onlyBuilds_makeDir p) fun r => ?_
          split
          · exact onlyBuilds_pure _
          · exact onlyBuilds_bind (onlyBuilds_isDir p) fun b => by
              split <;> exact onlyBuilds_pure _
    · exact onlyBuilds_bind (onlyBuilds_isDir p) fun b => by split <;> exact onlyBuilds_pure _

theorem onlyBuilds_createDirAll (p : String) : OnlyBuilds (Storage.createDirAll (m := DiskM) p) :=
  onlyBuilds_createDirAllOf _

end DiskM

/-! ## Reading and writing dictionary files -/

namespace Sync

open DiskM

variable {d d' : Disk}

theorem onlyBuilds_ensureDir (dir : String) : OnlyBuilds (ensureDir (m := DiskM) dir) :=
  onlyBuilds_bind (onlyBuilds_createDirAll dir) fun r => by split <;> exact onlyBuilds_pure _

/-- Where something is, making sure a file exists does nothing. -/
theorem run_bootstrap_of_present {path : String} (h : (d.stat path).toOption.isSome) :
    (bootstrap (m := DiskM) path).run d = pure (.ok false, d) := by
  rw [bootstrap, StateT.run_bind, run_isPresent, pure_bind]
  dsimp only
  rw [if_pos h]
  rfl

/-- Making sure a file exists changes a tree only as `Disk.Bootstraps` allows. -/
theorem bootstrap_effect {path : String} {r : Except SyncError Bool} (hwf : d.WF)
    (h : (bootstrap (m := DiskM) path).run d = pure (r, d')) :
    Disk.Bootstraps (d.locate path) d d' := by
  rw [bootstrap, run_bind_eq_pure] at h
  obtain ⟨present, d₀, h₀, h⟩ := h
  rw [run_isPresent] at h₀
  cases h₀
  split at h
  · obtain ⟨rfl, rfl⟩ := run_pure_inv h
    exact (Disk.Builds.refl d).bootstraps hwf
  rename_i habsent
  have hnone : d.nodeAt (d.locate path) = none := by
    rw [← hwf.stat_toOption]
    simpa using habsent
  extract_lets jp at h
  obtain ⟨made, d₁, hb₁, h⟩ : ∃ made d₁, Disk.Builds d d₁ ∧ (jp made).run d₁ = pure (r, d') := by
    split at h <;> rw [run_bind_eq_pure] at h <;> obtain ⟨made, d₁, h₁, h⟩ := h
    · exact ⟨made, d₁, onlyBuilds_ensureDir _ d made d₁ h₁, h⟩
    · obtain ⟨rfl, rfl⟩ := run_pure_inv h₁
      exact ⟨.ok (), d, .refl d, h⟩
  simp only [jp] at h
  split at h
  · obtain ⟨rfl, rfl⟩ := run_pure_inv h
    exact hb₁.bootstraps hwf
  rw [run_bind_eq_pure] at h
  obtain ⟨w, d₂, h₂, h⟩ := h
  have hd₂ : d₂ = d' := by split at h <;> exact (run_pure_inv h).2
  subst hd₂
  rcases writeFile_cases d₁ (writeBytes_run_inv h₂) with
    ⟨e, -, rfl⟩ | ⟨hwalk, hndir, written, rfl, hres⟩
  · exact hb₁.bootstraps hwf
  -- nothing was there: an empty file is written, and it fits even on a full disk
  have hempty : written = [] := by
    rcases hres with ⟨-, rfl⟩ | ⟨-, hpre⟩
    · rfl
    · exact List.prefix_nil.1 hpre
  subst hempty
  rw [locate_of_here d hb₁.here] at hwalk hndir ⊢
  have hnode := nodeAt_setNode_file [] hndir
  refine ⟨hb₁.here, (hb₁.wf hwf).setNode hwalk (.inr hndir), fun parts hp => ?_, ?_⟩
  · exact (hb₁.grows parts).trans (.of_eq (by rw [hnode parts, if_neg hp]))
  · exact .inr ⟨hnone, by rw [hnode, if_pos rfl]⟩

/-- A read bootstraps the file and changes nothing more. -/
theorem readLines_effect {path : String} {r : Except SyncError Loaded} (hwf : d.WF)
    (h : (readLines (m := DiskM) path).run d = pure (r, d')) :
    Disk.Bootstraps (d.locate path) d d' := by
  rw [readLines, run_bind_eq_pure] at h
  obtain ⟨b, d₁, h₁, h⟩ := h
  -- after the bootstrap, only reads
  have hread : d₁ = d' := by
    split at h
    · exact (run_pure_inv h).2
    rw [run_bind_eq_pure] at h
    obtain ⟨bytes, d₂, h₂, h⟩ := h
    rw [run_readBytes] at h₂
    cases h₂
    split at h
    · exact (run_pure_inv h).2
    · split at h <;> exact (run_pure_inv h).2
  subst hread
  exact bootstrap_effect hwf h₁

/-- A successful read answers the lines of the decoded bytes of the file now at the path. -/
theorem readLines_ok {path : String} {loaded : Loaded}
    (h : (readLines (m := DiskM) path).run d = pure (.ok loaded, d')) :
    ∃ bytes decoded, d'.readFile path = .ok bytes ∧ detect bytes = .ok decoded ∧
      loaded = ⟨fileLines decoded.text, decoded.encoding⟩ := by
  rw [readLines, run_bind_eq_pure] at h
  obtain ⟨b, d₁, -, h⟩ := h
  split at h
  · cases (run_pure_inv h).1
  rw [run_bind_eq_pure] at h
  obtain ⟨bytes, d₂, h₂, h⟩ := h
  rw [run_readBytes] at h₂
  cases h₂
  split at h
  · cases (run_pure_inv h).1
  rename_i bytes hf
  split at h
  · cases (run_pure_inv h).1
  · rename_i decoded hdec
    obtain ⟨hr, rfl⟩ := run_pure_inv h
    cases hr
    exact ⟨bytes, decoded, hf, hdec, rfl⟩

/-- Reading a file that is there changes nothing and answers its decoded lines. -/
theorem run_readLines_of_file {path : String} {bytes : List UInt8}
    (hf : d.readFile path = .ok bytes) :
    (readLines (m := DiskM) path).run d =
      pure ((match detect bytes with
        | .ok decoded => .ok ⟨fileLines decoded.text, decoded.encoding⟩
        | .error f => .error (.load path (.undecodable f))), d) := by
  have hstat : (d.stat path).toOption.isSome := by
    obtain ⟨hw, hn⟩ := (readFile_eq_ok_iff d).mp hf
    rw [(stat_eq_ok_iff d).mpr ⟨hw, hn⟩]
    rfl
  rw [readLines, StateT.run_bind, run_bootstrap_of_present hstat, pure_bind]
  dsimp only
  rw [StateT.run_bind, run_readBytes, hf, pure_bind]
  dsimp only
  cases detect bytes <;> rfl

/-- What an atomic write does: `Disk.Saved` when it succeeds, `Disk.SaveFailed` when not. -/
theorem writeAtomic_effect {path : String} {bytes : List UInt8} {r : Except OsError Unit}
    (hwf : d.WF) (h : (writeAtomic (m := DiskM) path bytes).run d = pure (r, d')) :
    (r = .ok () ∧ Disk.Saved (d.locate path) (d.locate (tmpPath path)) bytes d d') ∨
      (∃ e, r = .error e ∧
        Disk.SaveFailed (d.locate path) (d.locate (tmpPath path)) bytes d d') := by
  unfold writeAtomic at h
  extract_lets tmp jp at h
  -- the temporary file's path stays opaque: only its place matters
  have htmp_def : tmp = tmpPath path := rfl
  clear_value tmp
  subst htmp_def
  obtain ⟨made, d₁, hb₁, h⟩ : ∃ made d₁, Disk.Builds d d₁ ∧ (jp made).run d₁ = pure (r, d') := by
    split at h <;> rw [run_bind_eq_pure] at h <;> obtain ⟨made, d₁, h₁, h⟩ := h
    · exact ⟨made, d₁, onlyBuilds_createDirAll _ d made d₁ h₁, h⟩
    · obtain ⟨rfl, rfl⟩ := run_pure_inv h₁
      exact ⟨.ok (), d, .refl d, h⟩
  simp only [jp] at h
  split at h
  · obtain ⟨rfl, rfl⟩ := run_pure_inv h
    exact .inr ⟨_, rfl, hb₁.saveFailed hwf⟩
  rw [run_bind_eq_pure] at h
  obtain ⟨w, d₂, h₂, h⟩ := h
  rcases writeFile_cases d₁ (writeBytes_run_inv h₂) with
    ⟨e, rfl, rfl⟩ | ⟨hwalk, hndir, written, hd₂, hres⟩
  · -- the temporary file could not be opened
    obtain ⟨rfl, rfl⟩ := run_pure_inv h
    exact .inr ⟨_, rfl, hb₁.saveFailed hwf⟩
  -- the temporary file was opened: it holds what was written, in a place of its own
  rw [locate_of_here d hb₁.here] at hwalk hndir hd₂
  subst hd₂
  have hnode₂ := nodeAt_setNode_file written hndir
  have hloc₂ : ∀ p, (d₁.setNode (d.locate (tmpPath path)) (.file written)).locate p =
      d.locate p :=
    locate_of_here d hb₁.here
  have hwf₂ : (d₁.setNode (d.locate (tmpPath path)) (.file written)).WF :=
    (hb₁.wf hwf).setNode hwalk (.inr hndir)
  have htmp : (d₁.setNode (d.locate (tmpPath path)) (.file written)).nodeAt
      (d.locate (tmpPath path)) = some (.file written) := by rw [hnode₂, if_pos rfl]
  have hrest : ∀ parts, parts ≠ d.locate (tmpPath path) →
      Grows d (d₁.setNode (d.locate (tmpPath path)) (.file written)) parts := fun parts hp =>
    (hb₁.grows parts).trans (.of_eq (by rw [hnode₂, if_neg hp]))
  have ht0 : d.locate (tmpPath path) ≠ [] := fun h0 => by simp [h0] at htmp
  have hne : d.locate (tmpPath path) ≠ d.locate path := locate_tmpPath_ne_of_ne_nil ht0
  have hnotdir : d.nodeAt (d.locate (tmpPath path)) ≠ some .dir := fun hd =>
    hndir (by rw [← hd]; exact ((hb₁.grows _).eq_of_ne_none (by simp [hd])))
  rcases hres with ⟨rfl, hall⟩ | ⟨rfl, hpart⟩
  swap
  · -- the disk filled up: the first bytes stay in the temporary file
    obtain ⟨rfl, rfl⟩ := run_pure_inv h
    exact .inr ⟨_, rfl, hb₁.here, hwf₂, .inr ⟨hne, hnotdir, .inr ⟨written, hpart, htmp⟩⟩, hrest⟩
  subst written
  rw [run_bind_eq_pure] at h
  obtain ⟨v, d₃, h₃, h⟩ := h
  rcases change_run_inv h₃ with ⟨rfl, hv⟩ | ⟨e, rfl, hv, rfl⟩
  · -- renamed over the file
    obtain ⟨rfl, rfl⟩ := run_pure_inv h
    refine .inl ⟨rfl, ?_⟩
    rcases rename_file_eq_ok _ (by rw [hloc₂]; exact htmp) hv with
      ⟨heq, rfl⟩ | ⟨hne, hwt, hnt, hpre, rfl⟩
    · rw [hloc₂, hloc₂] at heq
      exact absurd heq hne
    · simp only [hloc₂] at hne hwt hnt hpre ⊢
      have hnode₃ := nodeAt_moveTree_file hwf₂ ht0 htmp hnt hpre
      refine ⟨hb₁.here, hwf₂.moveTree_file ht0 htmp hwt hpre, ?_, fun _ => ?_,
        fun parts hp hq => (hrest parts hq).trans (.of_eq ?_)⟩
      · rw [hnode₃, if_pos rfl, htmp]
      · rw [hnode₃, if_neg hne, if_pos rfl]
      · rw [hnode₃, if_neg hp, if_neg hq]
  · -- the rename failed: the temporary file is removed again
    rw [run_bind_eq_pure] at h
    obtain ⟨u, d₄, h₄, h⟩ := h
    obtain ⟨rfl, rfl⟩ := run_pure_inv h
    have htmp' : (d₁.setNode (d.locate (tmpPath path)) (.file bytes)).nodeAt
        ((d₁.setNode (d.locate (tmpPath path)) (.file bytes)).locate (tmpPath path)) =
          some (.file bytes) := by rw [hloc₂]; exact htmp
    rcases change_run_inv h₄ with ⟨-, hrm⟩ | ⟨e', -, hrm, -⟩
    · have hnode₄ := nodeAt_of_removeFile hwf₂ hrm
      obtain ⟨-, -, rfl⟩ := removeFile_eq_ok _ hrm
      simp only [hloc₂] at hnode₄ ⊢
      refine .inr ⟨e, rfl, hb₁.here, hwf₂.without _, .inr ⟨hne, hnotdir, .inl ?_⟩,
        fun parts hp => (hrest parts hp).trans (.of_eq ?_)⟩
      · rw [hnode₄, if_pos rfl]
      · rw [hnode₄, if_neg hp]
    · rw [hwf₂.removeFile_of_file htmp'] at hrm
      cases hrm

/-- Writing a dictionary is an atomic write of its UTF-8 text; a failure names the file. -/
theorem writeEntries_effect {path : String} {es : List Entry} {r : Except SyncError Unit}
    (hwf : d.WF) (h : (writeEntries (m := DiskM) path es).run d = pure (r, d')) :
    (r = .ok () ∧ Disk.Saved (d.locate path) (d.locate (tmpPath path))
        (Encoding.Utf8.encode (Entry.render es)) d d') ∨
      (∃ e, r = .error (.save path e) ∧
        Disk.SaveFailed (d.locate path) (d.locate (tmpPath path))
          (Encoding.Utf8.encode (Entry.render es)) d d') := by
  rw [writeEntries, run_bind_eq_pure] at h
  obtain ⟨w, d₁, h₁, h⟩ := h
  rcases writeAtomic_effect hwf h₁ with ⟨rfl, hsaved⟩ | ⟨e, rfl, hfailed⟩
  · obtain ⟨rfl, rfl⟩ := run_pure_inv h
    exact .inl ⟨rfl, hsaved⟩
  · obtain ⟨rfl, rfl⟩ := run_pure_inv h
    exact .inr ⟨e, rfl, hfailed⟩

end Sync

end Wordbook
