import Minio.Multipart.AppendRecord
import Minio.Multipart.CompleteFailure
/-!
# What one `CompleteMultipartUpload` call knows

The footprint of a step of `completeStep` (what it can write, and when it may touch the object's
files), and `CallOk`, the invariant of one call: its upload's directory is the one it started
from until its removal, its fallback path is fresh, its append record holds exactly the bytes of
its listed parts, and at each program counter the call's temporary file or the object's files
hold what that point of the code has produced. Every step of the call keeps `CallOk` when the
appends of its `backgroundAppend` run succeed (`CallOk.step`), and a step of a call of another
upload keeps it through `Frame` as long as the object's files are left alone while the call
holds the object's lock (`CallOk.frame`).
-/

namespace Minio.Multipart.Commit

open Minio.Multipart.PartFile Minio.Multipart.State Minio.Multipart.BackgroundAppend
  Minio.Multipart.Complete Minio.Multipart.CompleteFailure Minio.Multipart.AppendRecord

/-- The call holds the object's write lock: from `create` to `stat`. -/
def holdsObjectLock : CompletePc → Bool
  | .create | .readMeta | .writeMeta | .rename | .removeAll | .stat => true
  | _ => false

/-- The call holds the lock past `create`: the object's files may be mid-update. -/
def writing : CompletePc → Bool
  | .readMeta | .writeMeta | .rename | .removeAll | .stat => true
  | _ => false

/-- The call returned an error after opening the object's `fs.json` and before the rename. -/
def spoiled : CompletePc → Bool
  | .failed (.fs .readMeta) | .failed (.fs .writeMeta) | .failed (.fs .rename) => true
  | _ => false

/-- The call has returned. -/
def terminal : CompletePc → Bool
  | .failed _ | .completed _ | .panicked => true
  | _ => false

theorem terminal_of_spoiled {pc : CompletePc} (h : spoiled pc) : terminal pc := by
  unfold spoiled at h; split at h <;> simp_all [terminal]

theorem holdsObjectLock_of_terminal {pc : CompletePc} (h : terminal pc) :
    holdsObjectLock pc = false := by
  cases pc <;> simp_all [terminal, holdsObjectLock]

/-- A call that is neither returned nor mid-commit has not replaced the object's data. -/
theorem dataReplaced_of_idle {pc : CompletePc} (hw : writing pc = false) (ht : terminal pc = false) :
    dataReplaced pc = false := by
  cases pc <;> simp_all [writing, terminal, dataReplaced]

section Footprint

variable (completeMD5 : List CompletePart → Option String)

/-- What one step of a call can write: the append-map entry of its own upload, the record it
creates or runs, the temporary files at its own path or its record's, the counters upward, and
the object's files only while it holds the object's lock. -/
theorem completeStep_footprint {o o' : FSObjects} {c c' : CompleteCall} {out : Outcome}
    (h : completeStep completeMD5 o c out = some (o', c')) :
    c'.uploadID = c.uploadID ∧ c'.parts = c.parts ∧
    (∀ v, v ≠ c.uploadID → o'.appendFileMap v = o.appendFileMap v) ∧
    (∀ q, c.pc ≠ .bgRun q → (c.pc = .bgEnter → q ≠ o.nextFile) → o'.files q = o.files q) ∧
    o.nextFile ≤ o'.nextFile ∧ o.uuid ≤ o'.uuid ∧
    (∀ fp, fp ≠ c.appendFilePath → (∀ p, c.pc = .bgRun p ∨ c.file = some p →
      fp ≠ (o.files p).filePath) → o'.fs.tmp.lookup fp = o.fs.tmp.lookup fp) ∧
    (holdsObjectLock c.pc = false →
      o'.fs.object = o.fs.object ∧ o'.fs.objectMeta = o.fs.objectMeta) := by
  unfold completeStep at h
  dsimp only at h
  split at h <;> (repeat' split at h) <;>
    (try simp only [Option.some.injEq, Prod.mk.injEq, reduceCtorEq] at h) <;>
    (try obtain ⟨rfl, rfl⟩ := h)
  all_goals refine ⟨?_, ?_, ?_, ?_, ?_, ?_, ?_, ?_⟩
  -- most branches leave most of these parts alone
  all_goals try first | rfl | exact Nat.le_refl _ | exact fun _ _ => rfl | exact fun _ _ _ => rfl
  all_goals (try simp_all [holdsObjectLock, finish, Function.update_noteq, AList.lookup_erase_ne,
    appendFile_lookup_ne, backgroundAppendEnter_appendFileMap_ne, backgroundAppendEnter_files_ne,
    backgroundAppendEnter_counters, backgroundAppendRun_files_ne, backgroundAppendRun_lookup_ne])
  exact fun q hq => backgroundAppendRun_files_ne _ _ _ _ (Ne.symm hq)

theorem completeStep_lock {o o' : FSObjects} {c c' : CompleteCall} {out : Outcome}
    (h : completeStep completeMD5 o c out = some (o', c')) :
    (c.pc = .getLock ∧ c'.pc = .create ∧ o.objectLocked = false ∧ o'.objectLocked = true) ∨
    (terminal c'.pc ∧ (c.unlockObject = false → o'.objectLocked = o.objectLocked) ∧
      (c.unlockObject → holdsObjectLock c.pc → o'.objectLocked = false)) ∨
    (holdsObjectLock c'.pc = holdsObjectLock c.pc ∧ terminal c'.pc = false ∧
      o'.objectLocked = o.objectLocked ∧ c'.unlockObject = c.unlockObject) := by
  unfold completeStep at h
  dsimp only at h
  split at h <;> (repeat' split at h) <;>
    (try simp only [Option.some.injEq, Prod.mk.injEq, reduceCtorEq] at h) <;>
    (try obtain ⟨rfl, rfl⟩ := h) <;> simp_all [holdsObjectLock, terminal, finish]

/-- A returned call takes no step. -/
theorem completeStep_not_terminal {o o' : FSObjects} {c c' : CompleteCall} {out : Outcome}
    (h : completeStep completeMD5 o c out = some (o', c')) : terminal c.pc = false := by
  unfold completeStep at h
  cases hpc : c.pc <;> simp_all [terminal]

/-- Before it opens the object's `fs.json`, a call leaves the object's data file alone, writes its
`fs.json` only where there is none, and does not reach the removal of its upload. -/
theorem completeStep_keeps_object {o o' : FSObjects} {c c' : CompleteCall} {out : Outcome}
    (h : completeStep completeMD5 o c out = some (o', c')) (hw : writing c.pc = false) :
    o'.fs.object = o.fs.object ∧ (∀ m, o.fs.objectMeta = some m → o'.fs.objectMeta = some m) ∧
      dataReplaced c'.pc = false := by
  unfold completeStep at h
  dsimp only at h
  split at h <;> (repeat' split at h) <;>
    (try simp only [Option.some.injEq, Prod.mk.injEq, reduceCtorEq] at h) <;>
    (try obtain ⟨rfl, rfl⟩ := h) <;>
    simp_all [writing, finish, dataReplaced_failed] <;> first | rfl | exact validate_not_fs ‹_› _

/-- A call leaves the object's files only by an error before the rename, or by the final stat,
which writes nothing. -/
theorem completeStep_leaves_writing {o o' : FSObjects} {c c' : CompleteCall} {out : Outcome}
    (h : completeStep completeMD5 o c out = some (o', c')) (hw : writing c.pc)
    (hw' : writing c'.pc = false) :
    spoiled c'.pc ∨ (c.pc = .stat ∧ dataReplaced c'.pc ∧ o'.fs = o.fs ∧ c' = { c with pc := c'.pc }) := by
  unfold completeStep at h
  dsimp only at h
  split at h <;> (repeat' split at h) <;>
    (try simp only [Option.some.injEq, Prod.mk.injEq, reduceCtorEq] at h) <;>
    (try obtain ⟨rfl, rfl⟩ := h) <;>
    simp_all [writing, finish, dataReplaced, spoiled]

end Footprint

/-! ## One call's invariant -/

section Invariant

variable (completeMD5 : List CompletePart → Option String) (d : UploadDir)

/-- A record of upload `u` whose file holds exactly the bytes of its listed parts. -/
structure RecordOk (o : FSObjects) (u : String) (p : Nat) : Prop where
  allocated : p < o.nextFile
  path : ∃ n, n < o.uuid ∧ (o.files p).filePath = .append u n
  bytes : (o.fs.tmp.lookup (o.files p).filePath).getD [] = recordedBytes d (o.files p).parts

/-- No temporary file of upload `u` carries a uuid `mustGetUUID` has not handed out yet. -/
def Fresh (o : FSObjects) (u : String) : Prop :=
  ∀ n, o.uuid ≤ n → o.fs.tmp.lookup (.append u n) = none

/-- The call's temporary file holds its claimed parts. -/
def DataReady (o : FSObjects) (c : CompleteCall) : Prop :=
  (o.fs.tmp.lookup c.appendFilePath).getD [] = claimedBytes d c.parts

/-- The object's data file and `fs.json` are the ones the call writes. -/
def Committed (o : FSObjects) (c : CompleteCall) : Prop :=
  d.fsJson = some (.json c.fsMeta) ∧ completeMD5 c.parts = some c.s3MD5 ∧
    o.fs.object = some (claimedBytes d c.parts) ∧
    o.fs.objectMeta = some (.json (withEtag c.fsMeta c.s3MD5))

/-- The call's own path for a fallback file: handed out, not yet a file, and no record's. -/
def PathFresh (o : FSObjects) (c : CompleteCall) : Prop :=
  (∃ n, n < o.uuid ∧ c.appendFilePath = .append c.uploadID n) ∧
    o.fs.tmp.lookup c.appendFilePath = none

/-- What the call knows at each point of its run. -/
def Stage (o : FSObjects) (c : CompleteCall) : Prop :=
  match c.pc with
  | .start => True
  | .bgEnter | .take => completeMD5 c.parts = some c.s3MD5 ∧ PathFresh o c ∧
      ∀ p, o.appendFileMap c.uploadID = some p → (o.files p).filePath ≠ c.appendFilePath
  | .bgRun q => completeMD5 c.parts = some c.s3MD5 ∧ PathFresh o c ∧
      o.appendFileMap c.uploadID = some q ∧ (o.files q).filePath ≠ c.appendFilePath
  | .verify | .fallbackRemove => completeMD5 c.parts = some c.s3MD5 ∧ PathFresh o c ∧
      o.appendFileMap c.uploadID = none ∧
      ∀ p, c.file = some p → RecordOk d o c.uploadID p ∧ (o.files p).filePath ≠ c.appendFilePath
  | .fallbackAppend i => completeMD5 c.parts = some c.s3MD5 ∧
      o.appendFileMap c.uploadID = none ∧ (∃ n, n < o.uuid ∧ c.appendFilePath = .append c.uploadID n) ∧
      (o.fs.tmp.lookup c.appendFilePath).getD [] = claimedBytes d (c.parts.take i)
  | .getLock | .create | .readMeta => completeMD5 c.parts = some c.s3MD5 ∧
      o.appendFileMap c.uploadID = none ∧ DataReady d o c
  | .writeMeta => completeMD5 c.parts = some c.s3MD5 ∧ o.appendFileMap c.uploadID = none ∧
      DataReady d o c ∧ d.fsJson = some (.json c.fsMeta)
  | .rename => completeMD5 c.parts = some c.s3MD5 ∧ o.appendFileMap c.uploadID = none ∧
      DataReady d o c ∧ d.fsJson = some (.json c.fsMeta) ∧
      o.fs.objectMeta = some (.json (withEtag c.fsMeta c.s3MD5))
  | .removeAll | .stat => Committed completeMD5 d o c
  | .failed _ | .completed _ | .panicked => True

/-- A call of upload `c.uploadID`, whose directory was `d` when the call started. -/
structure CallOk (o : FSObjects) (c : CompleteCall) : Prop where
  canonical : CanonicalNames d
  dir : dataReplaced c.pc = false → o.fs.uploads.lookup c.uploadID = some d
  fresh : Fresh o c.uploadID
  record : ∀ p, o.appendFileMap c.uploadID = some p → RecordOk d o c.uploadID p
  path : ∃ n, c.appendFilePath = .append c.uploadID n
  file : ∀ p, c.file = some p → p < o.nextFile ∧ ∃ n, (o.files p).filePath = .append c.uploadID n
  stage : Stage completeMD5 d o c
  lockHeld : holdsObjectLock c.pc → c.unlockObject
  lockFree : holdsObjectLock c.pc = false → terminal c.pc = false → c.unlockObject = false

/-- Before it returns, a call will unlock the object exactly when it holds the lock. -/
theorem CallOk.unlockObject_eq {o : FSObjects} {c : CompleteCall} (hc : CallOk completeMD5 d o c)
    (ht : terminal c.pc = false) : c.unlockObject = holdsObjectLock c.pc := by
  cases hl : holdsObjectLock c.pc
  · exact hc.lockFree hl ht
  · exact hc.lockHeld hl

/-! ## Steps of the other call -/

/-- What a step of a call of another upload leaves alone for upload `u`. -/
structure Frame (u : String) (o o' : FSObjects) : Prop where
  tmp : ∀ n, o'.fs.tmp.lookup (.append u n) = o.fs.tmp.lookup (.append u n)
  map : o'.appendFileMap u = o.appendFileMap u
  files : ∀ q, q < o.nextFile → (∃ n, (o.files q).filePath = .append u n) → o'.files q = o.files q
  nextFile : o.nextFile ≤ o'.nextFile
  uuid : o.uuid ≤ o'.uuid
  dir : o'.fs.uploads.lookup u = o.fs.uploads.lookup u

theorem RecordOk.frame {o o' : FSObjects} {u : String} {p : Nat} (hr : RecordOk d o u p)
    (hf : Frame u o o') : RecordOk d o' u p := by
  obtain ⟨hp, ⟨n, hn, hpath⟩, hbytes⟩ := hr
  have hfile := hf.files p hp ⟨n, hpath⟩
  refine ⟨by have := hf.nextFile; omega, ⟨n, by have := hf.uuid; omega, by rw [hfile, hpath]⟩, ?_⟩
  rw [hfile, hpath, hf.tmp, ← hpath, hbytes]

theorem RecordOk.of_store {o o' : FSObjects} {u : String} {p : Nat} (hr : RecordOk d o u p)
    (ht : o'.fs.tmp = o.fs.tmp) (hfi : o'.files = o.files) (hn : o'.nextFile = o.nextFile)
    (hu : o'.uuid = o.uuid) : RecordOk d o' u p :=
  ⟨by rw [hn]; exact hr.1, by rw [hu, hfi]; exact hr.2, by rw [hfi, ht]; exact hr.3⟩

theorem PathFresh.frame {o o' : FSObjects} {c : CompleteCall} (hp : PathFresh o c)
    (hf : Frame c.uploadID o o') : PathFresh o' c := by
  obtain ⟨⟨n, hn, hpath⟩, hnone⟩ := hp
  refine ⟨⟨n, by have := hf.uuid; omega, hpath⟩, ?_⟩
  rw [hpath, hf.tmp, ← hpath, hnone]

theorem Frame.record {o o' : FSObjects} {u : String} (hf : Frame u o o')
    (hrec : ∀ p, o.appendFileMap u = some p → RecordOk d o u p) :
    ∀ p, o'.appendFileMap u = some p → RecordOk d o' u p := fun p hp =>
  (hrec p (hf.map ▸ hp)).frame d hf

theorem Frame.file {o o' : FSObjects} {u : String} {p : Nat} (hf : Frame u o o')
    (hp : p < o.nextFile ∧ ∃ n, (o.files p).filePath = .append u n) :
    o'.files p = o.files p := hf.files p hp.1 hp.2

theorem Stage.frame {o o' : FSObjects} {c : CompleteCall} (hc : CallOk completeMD5 d o c)
    (hf : Frame c.uploadID o o')
    (hobj : holdsObjectLock c.pc → o'.fs.object = o.fs.object ∧ o'.fs.objectMeta = o.fs.objectMeta) :
    Stage completeMD5 d o' c := by
  have hs := hc.stage
  obtain ⟨n, hpath⟩ := hc.path
  have htmp : o'.fs.tmp.lookup c.appendFilePath = o.fs.tmp.lookup c.appendFilePath := by
    rw [hpath, hf.tmp]
  have hrec {p} (hp : o'.appendFileMap c.uploadID = some p) : o'.files p = o.files p :=
    hf.file ⟨(hc.record p (hf.map ▸ hp)).allocated,
      (hc.record p (hf.map ▸ hp)).path.elim fun n h => ⟨n, h.2⟩⟩
  have hmap : o'.appendFileMap c.uploadID = o.appendFileMap c.uploadID := hf.map
  have huuid := hf.uuid
  cases hpc : c.pc <;> simp only [Stage, DataReady, Committed, hpc, holdsObjectLock] at hs hobj ⊢
  case bgEnter | take =>
    exact ⟨hs.1, hs.2.1.frame hf, fun p hp => by rw [hrec hp]; exact hs.2.2 p (hmap ▸ hp)⟩
  case bgRun q =>
    exact ⟨hs.1, hs.2.1.frame hf, hmap ▸ hs.2.2.1, by rw [hrec (hmap ▸ hs.2.2.1)]; exact hs.2.2.2⟩
  case verify | fallbackRemove =>
    exact ⟨hs.1, hs.2.1.frame hf, hmap ▸ hs.2.2.1, fun p hp =>
      ⟨(hs.2.2.2 p hp).1.frame d hf, by rw [hf.file (hc.file p hp)]; exact (hs.2.2.2 p hp).2⟩⟩
  case fallbackAppend i =>
    obtain ⟨h1, h2, ⟨m, hm, hm'⟩, h3⟩ := hs
    exact ⟨h1, hmap ▸ h2, ⟨m, by omega, hm'⟩, htmp ▸ h3⟩
  all_goals simp_all

theorem CallOk.frame {o o' : FSObjects} {c : CompleteCall} (hc : CallOk completeMD5 d o c)
    (hf : Frame c.uploadID o o')
    (hobj : holdsObjectLock c.pc → o'.fs.object = o.fs.object ∧ o'.fs.objectMeta = o.fs.objectMeta) :
    CallOk completeMD5 d o' c where
  canonical := hc.canonical
  dir h := hf.dir ▸ hc.dir h
  fresh n hn := by rw [hf.tmp]; exact hc.fresh n (le_trans hf.uuid hn)
  record := hf.record d hc.record
  path := hc.path
  file p hp := ⟨lt_of_lt_of_le (hc.file p hp).1 hf.nextFile, by
    rw [hf.file (hc.file p hp)]; exact (hc.file p hp).2⟩
  stage := Stage.frame completeMD5 d hc hf hobj
  lockHeld := hc.lockHeld
  lockFree := hc.lockFree

/-- A step of a call leaves alone everything of any other upload. -/
theorem CallOk.frame_of_step {o o' : FSObjects} {c c' : CompleteCall} {out : Outcome}
    (hc : CallOk completeMD5 d o c) (h : completeStep completeMD5 o c out = some (o', c'))
    {u : String} (hu : u ≠ c.uploadID) : Frame u o o' := by
  obtain ⟨-, -, hmap, hfiles, hnext, huuid, htmp, -⟩ := completeStep_footprint completeMD5 h
  have hown {p} (hp : c.pc = .bgRun p ∨ c.file = some p) :
      ∃ n, (o.files p).filePath = .append c.uploadID n := by
    rcases hp with hp | hp
    · have hs := hc.stage
      simp only [Stage, hp] at hs
      exact (hc.record p hs.2.2.1).path.elim fun n h => ⟨n, h.2⟩
    · exact (hc.file p hp).2
  refine ⟨fun n => htmp _ ?_ fun p hp => ?_, hmap u hu, fun q hq ⟨n, hn⟩ => hfiles q ?_ ?_,
    hnext, huuid, ?_⟩
  · obtain ⟨m, hm⟩ := hc.path
    rw [hm]; simp [hu]
  · obtain ⟨m, hm⟩ := hown hp
    rw [hm]; simp [hu]
  · intro hpc
    obtain ⟨m, hm⟩ := hown (.inl hpc)
    rw [hn] at hm; simp [hu] at hm
  · intro _; omega
  · rcases completeStep_uploads completeMD5 h with hup | hup <;> rw [hup]
    exact removeAll_lookup_ne _ hu _

/-! ## Steps of the call itself -/

/-- A `backgroundAppend` run whose appends all succeed keeps a sound record sound. -/
theorem RecordOk.bgRun {o : FSObjects} {u : String} {p : Nat} {f : BgFaults}
    (hr : RecordOk d o u p) (hdir : o.fs.uploads.lookup u = some d) (hcan : CanonicalNames d)
    (hf : ∀ r ∈ f.appends, r = .ok) : RecordOk d (backgroundAppendRun o u p f) u p := by
  unfold backgroundAppendRun
  simp only [hdir]
  split
  · exact hr
  have hes : ∀ e ∈ sortStrings (readDir d), e = fsMetaJSONFile ∨ e ∈ d.parts.keys := by
    intro e he
    rw [mem_sortStrings, readDir, List.mem_append] at he
    rcases he with he | he
    · split at he <;> simp_all
    · exact .inr he
  obtain ⟨new, h1, h2, -⟩ := appendLoop_ok d hcan (o.files p).filePath _ f.appends
    ((o.files p).parts.length + 1) (o.files p).parts o.fs.tmp hes hf
  obtain ⟨hp, hpath, hbytes⟩ := hr
  refine ⟨hp, by simpa using hpath, ?_⟩
  dsimp only
  rw [Function.update_same, h2, h1, hbytes, recordedBytes_append]

/-- A returned call's stage holds trivially. -/
theorem Stage.of_terminal {pc : CompletePc} (ht : terminal pc) (o : FSObjects) (c : CompleteCall) :
    Stage completeMD5 d o { c with pc } := by
  cases pc <;> first | exact True.intro | simp [terminal] at ht

/-- A call returning: the lock fields and the stage hold trivially, the rest carries over. -/
theorem CallOk.returned {o : FSObjects} {c : CompleteCall} {pc : CompletePc}
    (ht : terminal pc) (hcan : CanonicalNames d)
    (hdir : dataReplaced pc = false → o.fs.uploads.lookup c.uploadID = some d)
    (hfresh : Fresh o c.uploadID)
    (hrec : ∀ p, o.appendFileMap c.uploadID = some p → RecordOk d o c.uploadID p)
    (hpath : ∃ n, c.appendFilePath = .append c.uploadID n)
    (hfile : ∀ p, c.file = some p → p < o.nextFile ∧ ∃ n, (o.files p).filePath = .append c.uploadID n) :
    CallOk completeMD5 d o { c with pc } :=
  ⟨hcan, hdir, hfresh, hrec, hpath, hfile, Stage.of_terminal completeMD5 d ht o c,
    (fun h => nomatch (holdsObjectLock_of_terminal ht).symm.trans h),
    fun _ h => nomatch ht.symm.trans h⟩

theorem frame_finish (u : String) (o : FSObjects) (c : CompleteCall) (pc : CompletePc) :
    Frame u o (finish o c pc).1 :=
  ⟨fun _ => rfl, rfl, fun _ _ _ => rfl, le_rfl, le_rfl, rfl⟩

/-- `finish` moves only the locks, which `CallOk` does not mention. -/
theorem CallOk.finish {o o' : FSObjects} {c c' : CompleteCall} {pc : CompletePc}
    (hc : CallOk completeMD5 d o { c with pc }) (h : finish o c pc = (o', c')) :
    CallOk completeMD5 d o' c' := by
  cases h
  exact hc.frame completeMD5 d (frame_finish _ o c pc) fun _ => ⟨rfl, rfl⟩

/-- A step that leaves the call's upload alone keeps `CallOk` once its new stage holds. -/
theorem CallOk.same {o o' : FSObjects} {c c' : CompleteCall} (hc : CallOk completeMD5 d o c)
    (hf : Frame c.uploadID o o') (hu : c'.uploadID = c.uploadID)
    (hpath : c'.appendFilePath = c.appendFilePath) (hfile : c'.file = c.file)
    (hdir : dataReplaced c'.pc = false → dataReplaced c.pc = false)
    (hstage : Stage completeMD5 d o' c') (hheld : holdsObjectLock c'.pc → c'.unlockObject)
    (hfree : holdsObjectLock c'.pc = false → terminal c'.pc = false → c'.unlockObject = false) :
    CallOk completeMD5 d o' c' := by
  refine ⟨hc.canonical, fun h => hu ▸ hf.dir ▸ hc.dir (hdir h), hu ▸ ?_, hu ▸ ?_, hu ▸ hpath ▸ hc.path,
    hu ▸ hfile ▸ ?_, hstage, hheld, hfree⟩
  · intro n hn; rw [hf.tmp]; exact hc.fresh n (le_trans hf.uuid hn)
  · exact hf.record d hc.record
  · intro p hp
    exact ⟨lt_of_lt_of_le (hc.file p hp).1 hf.nextFile, by
      rw [hf.file (hc.file p hp)]; exact (hc.file p hp).2⟩

/-- Nothing of the store changes but what `CallOk` does not read. -/
theorem frame_refl (u : String) {o o' : FSObjects} (ht : o'.fs.tmp = o.fs.tmp)
    (hup : o'.fs.uploads = o.fs.uploads) (hm : o'.appendFileMap = o.appendFileMap)
    (hfi : o'.files = o.files) (hn : o'.nextFile = o.nextFile) (hu : o'.uuid = o.uuid) :
    Frame u o o' :=
  ⟨fun _ => by rw [ht], by rw [hm], fun _ _ _ => by rw [hfi], hn.ge, hu.ge, by rw [hup]⟩

theorem Frame.refl (u : String) (o : FSObjects) : Frame u o o :=
  frame_refl u rfl rfl rfl rfl rfl rfl

/-- A call returning without `finish`: an early error, or the panic. -/
theorem CallOk.halt {o o' : FSObjects} {c : CompleteCall} {pc : CompletePc}
    (hc : CallOk completeMD5 d o c) (hf : Frame c.uploadID o o') (ht : terminal pc)
    (hdir : dataReplaced pc = false → dataReplaced c.pc = false) :
    CallOk completeMD5 d o' { c with pc } :=
  hc.same completeMD5 d hf rfl rfl rfl hdir (Stage.of_terminal completeMD5 d ht o' c)
    (fun h => nomatch (holdsObjectLock_of_terminal ht).symm.trans h)
    fun _ h => nomatch ht.symm.trans h

/-- A call returning through `finish`. -/
theorem CallOk.stop {o o₁ o' : FSObjects} {c c' : CompleteCall} {pc : CompletePc}
    (hc : CallOk completeMD5 d o c) (h : some (Complete.finish o₁ c pc) = some (o', c'))
    (hf : Frame c.uploadID o o₁) (hdir : dataReplaced pc = false → dataReplaced c.pc = false)
    (ht : terminal pc) : CallOk completeMD5 d o' c' :=
  (hc.halt completeMD5 d hf ht hdir).finish completeMD5 d (Option.some.inj h)

/-! ### One lemma per program point -/

section Step

variable {o o' : FSObjects} {c c' : CompleteCall} {out : Outcome}

/-- `start`: the validation, and on success a fresh uuid for the fallback path. -/
theorem CallOk.step_start (hc : CallOk completeMD5 d o c) (hpc : c.pc = .start)
    (h : completeStep completeMD5 o c out = some (o', c')) : CallOk completeMD5 d o' c' := by
  simp only [completeStep, hpc, Option.some.injEq, Prod.mk.injEq] at h
  have hd := hc.dir (by simp [hpc, dataReplaced])
  split at h
  · cases h; exact hc.halt completeMD5 d (.refl _ _) rfl (by simp [hpc, dataReplaced])
  split at h
  · cases h; exact hc.halt completeMD5 d (.refl _ _) rfl (by simp [hpc, dataReplaced])
  rename_i md5 hv
  cases h
  have hf : Frame c.uploadID o { o with uuid := o.uuid + 1 } :=
    ⟨fun _ => rfl, rfl, fun _ _ _ => rfl, le_rfl, by simp, rfl⟩
  refine ⟨hc.canonical, fun _ => hd, fun n hn => hc.fresh n (by simp at hn; omega),
    hf.record d hc.record, ⟨o.uuid, rfl⟩, hc.file, ?_, by simp [holdsObjectLock],
    fun _ _ => hc.lockFree (by simp [hpc, holdsObjectLock]) (by simp [hpc, terminal])⟩
  simp only [Stage]
  refine ⟨validate_ok hv, ⟨⟨o.uuid, by simp, rfl⟩, hc.fresh _ le_rfl⟩, fun p hp => ?_⟩
  obtain ⟨n, hn, hpath⟩ := (hc.record p hp).path
  simp only [hpath, ne_eq, TmpName.append.injEq, true_and]
  omega

/-- `backgroundAppend`'s first section: the upload's record, created when it has none. -/
theorem CallOk.step_bgEnter (hc : CallOk completeMD5 d o c) (hpc : c.pc = .bgEnter)
    (h : completeStep completeMD5 o c out = some (o', c')) : CallOk completeMD5 d o' c' := by
  simp only [completeStep, hpc, Option.some.injEq, Prod.mk.injEq] at h
  obtain ⟨rfl, rfl⟩ := h
  have hs := hc.stage
  simp only [Stage, hpc] at hs
  obtain ⟨hmd5, ⟨⟨n, hn, hpath⟩, hnone⟩, hne⟩ := hs
  have hlock : holdsObjectLock (CompletePc.bgRun 0) = false → terminal (.bgRun 0) = false →
      c.unlockObject = false := fun _ _ => hc.lockFree (by simp [hpc, holdsObjectLock])
    (by simp [hpc, terminal])
  rcases backgroundAppendEnter_spec o c.uploadID with ⟨hm, he⟩ | ⟨hm, hp, he⟩
  · rw [he]
    refine hc.same completeMD5 d (.refl _ _) rfl rfl rfl
      (by simp [hpc, dataReplaced]) ?_ (by simp [holdsObjectLock]) hlock
    simp only [Stage]
    exact ⟨hmd5, ⟨⟨n, hn, hpath⟩, hnone⟩, hm, hne _ hm⟩
  rw [he, hp]
  have hfresh := hc.fresh o.uuid le_rfl
  refine ⟨hc.canonical, fun _ => hc.dir (by simp [hpc, dataReplaced]),
    fun m hm => hc.fresh m (by simp at hm; omega), fun p hp => ?_, hc.path, fun p hp => ?_, ?_,
    by simp [holdsObjectLock], hlock⟩
  · simp only [Function.update_same, Option.some.injEq] at hp
    subst hp
    refine ⟨by simp, ⟨o.uuid, by simp, by simp⟩, ?_⟩
    dsimp only; rw [Function.update_same]; simp [hfresh]
  · have := hc.file p hp
    refine ⟨by simp; omega, ?_⟩
    simpa [Function.update_noteq (Nat.ne_of_lt this.1)] using this.2
  · simp only [Stage]
    refine ⟨hmd5, ⟨⟨n, by simp; omega, hpath⟩, hnone⟩, by simp, ?_⟩
    simp only [Function.update_same, hpath, ne_eq, TmpName.append.injEq, true_and]
    omega

/-- `backgroundAppend`'s run on the record: its appends succeed, so the record stays sound. -/
theorem CallOk.step_bgRun {q : Nat} (hc : CallOk completeMD5 d o c) (hpc : c.pc = .bgRun q)
    (hout : ∀ r ∈ out.bgFaults.appends, r = .ok)
    (h : completeStep completeMD5 o c out = some (o', c')) : CallOk completeMD5 d o' c' := by
  simp only [completeStep, hpc, Option.some.injEq, Prod.mk.injEq] at h
  split at h
  · cases h
  simp only [Option.some.injEq, Prod.mk.injEq] at h
  obtain ⟨rfl, rfl⟩ := h
  have hs := hc.stage
  simp only [Stage, hpc] at hs
  obtain ⟨hmd5, ⟨⟨n, hn, hpath⟩, hnone⟩, hq, hqne⟩ := hs
  have hd := hc.dir (by simp [hpc, dataReplaced])
  have hrq := hc.record q hq
  obtain ⟨nq, hnq, hpq⟩ := hrq.path
  have hlook {m} (hm : o.uuid ≤ m) : (backgroundAppendRun o c.uploadID q out.bgFaults).fs.tmp.lookup
      (.append c.uploadID m) = o.fs.tmp.lookup (.append c.uploadID m) :=
    backgroundAppendRun_lookup_ne _ _ _ _ (by rw [hpq]; simp; omega)
  have hfp (p) : ((backgroundAppendRun o c.uploadID q out.bgFaults).files p).filePath =
      (o.files p).filePath := by
    by_cases hpq' : p = q
    · subst hpq'; simp
    · rw [backgroundAppendRun_files_ne _ _ _ _ hpq']
  refine ⟨hc.canonical, fun _ => by simpa using hd, fun m hm => by
      rw [hlook (by simpa using hm)]; exact hc.fresh m (by simpa using hm), fun p hp => ?_,
    hc.path, fun p hp => ⟨by simpa using (hc.file p hp).1, by rw [hfp]; exact (hc.file p hp).2⟩,
    ?_, by simp [holdsObjectLock],
    fun _ _ => hc.lockFree (by simp [hpc, holdsObjectLock]) (by simp [hpc, terminal])⟩
  · simp only [backgroundAppendRun_appendFileMap, hq, Option.some.injEq] at hp
    subst hp
    exact hrq.bgRun d hd hc.canonical hout
  · simp only [Stage]
    have hne : c.appendFilePath ≠ (o.files q).filePath := Ne.symm hqne
    refine ⟨hmd5, ⟨⟨n, by simpa using hn, hpath⟩, ?_⟩, fun p hp => ?_⟩
    · rw [backgroundAppendRun_lookup_ne _ _ _ _ hne, hnone]
    · simp only [backgroundAppendRun_appendFileMap, hq, Option.some.injEq] at hp
      subst hp; rw [hfp]; exact hqne

/-- `take`: the record leaves the map and becomes the call's. -/
theorem CallOk.step_take (hc : CallOk completeMD5 d o c) (hpc : c.pc = .take)
    (h : completeStep completeMD5 o c out = some (o', c')) : CallOk completeMD5 d o' c' := by
  simp only [completeStep, hpc, Option.some.injEq, Prod.mk.injEq] at h
  obtain ⟨rfl, rfl⟩ := h
  have hs := hc.stage
  simp only [Stage, hpc] at hs
  obtain ⟨hmd5, hfresh, hne⟩ := hs
  refine ⟨hc.canonical, fun _ => hc.dir (by simp [hpc, dataReplaced]), hc.fresh,
    fun p hp => by simp at hp, hc.path, fun p hp => ?_, ?_, by simp [holdsObjectLock],
    fun _ _ => hc.lockFree (by simp [hpc, holdsObjectLock]) (by simp [hpc, terminal])⟩
  · have hr := hc.record p hp
    exact ⟨hr.allocated, hr.path.elim fun n h => ⟨n, h.2⟩⟩
  · simp only [Stage]
    exact ⟨hmd5, hfresh, by simp, fun p hp =>
      ⟨(hc.record p hp).of_store d rfl rfl rfl rfl, hne p hp⟩⟩

/-- `verify`: the fast path when the record lists the claimed parts, else the fallback. -/
theorem CallOk.step_verify (hc : CallOk completeMD5 d o c) (hpc : c.pc = .verify)
    (h : completeStep completeMD5 o c out = some (o', c')) : CallOk completeMD5 d o' c' := by
  simp only [completeStep, hpc, Option.some.injEq, Prod.mk.injEq] at h
  have hs := hc.stage
  simp only [Stage, hpc] at hs
  have hfree : holdsObjectLock CompletePc.getLock = false → terminal .getLock = false →
      c.unlockObject = false := fun _ _ => hc.lockFree (by simp [hpc, holdsObjectLock])
    (by simp [hpc, terminal])
  split at h
  · obtain ⟨rfl, rfl⟩ := h
    refine hc.same completeMD5 d (.refl _ _) rfl rfl rfl
      (by simp [hpc, dataReplaced]) ?_ (by simp [holdsObjectLock]) hfree
    simpa only [Stage] using hs
  rename_i p hfile
  split at h
  · cases h
  split at h <;> (simp only [Option.some.injEq, Prod.mk.injEq] at h; obtain ⟨rfl, rfl⟩ := h)
  · rename_i hmatch
    obtain ⟨hmd5, -, hnone, hrec⟩ := hs
    have hr := (hrec p hfile).1
    refine ⟨hc.canonical, fun _ => hc.dir (by simp [hpc, dataReplaced]), hc.fresh,
      fun q hq => (hc.record q hq).of_store d rfl rfl rfl rfl,
      hr.path.elim fun n h => ⟨n, h.2⟩, hc.file, ?_, by simp [holdsObjectLock], hfree⟩
    simp only [Stage, DataReady]
    exact ⟨hmd5, hnone, by rw [hr.bytes, recordedBytes_eq_claimedBytes d hmatch.2]⟩
  · refine hc.same completeMD5 d (frame_refl _ rfl rfl rfl rfl rfl rfl) rfl rfl rfl
      (by simp [hpc, dataReplaced]) ?_ (by simp [holdsObjectLock]) hfree
    simp only [Stage]
    exact ⟨hs.1, hs.2.1, hs.2.2.1, fun q hq =>
      ⟨(hs.2.2.2 q hq).1.of_store d rfl rfl rfl rfl, (hs.2.2.2 q hq).2⟩⟩

/-- `fallbackRemove`: the record's file is removed, unless the removal fails. -/
theorem CallOk.step_fallbackRemove (hc : CallOk completeMD5 d o c) (hpc : c.pc = .fallbackRemove)
    (h : completeStep completeMD5 o c out = some (o', c')) : CallOk completeMD5 d o' c' := by
  simp only [completeStep, hpc, Option.some.injEq, Prod.mk.injEq] at h
  have hs := hc.stage
  simp only [Stage, hpc] at hs
  obtain ⟨hmd5, ⟨⟨n, hn, hpath⟩, hnone⟩, hmap, hrec⟩ := hs
  have hfree : holdsObjectLock (CompletePc.fallbackAppend 0) = false →
      terminal (.fallbackAppend 0) = false → c.unlockObject = false := fun _ _ =>
    hc.lockFree (by simp [hpc, holdsObjectLock]) (by simp [hpc, terminal])
  split at h
  · obtain ⟨rfl, rfl⟩ := h; exact hc.halt completeMD5 d (.refl _ _) rfl (by simp [hpc, dataReplaced])
  rename_i p hfile
  have hne : c.appendFilePath ≠ (o.files p).filePath := Ne.symm (hrec p hfile).2
  split at h <;> (simp only [Option.some.injEq, Prod.mk.injEq] at h; obtain ⟨rfl, rfl⟩ := h)
  · refine hc.same completeMD5 d (.refl _ _) rfl rfl rfl
      (by simp [hpc, dataReplaced]) ?_ (by simp [holdsObjectLock]) hfree
    simp only [Stage]
    exact ⟨hmd5, hmap, ⟨n, hn, hpath⟩, by simp [hnone, claimedBytes]⟩
  · refine ⟨hc.canonical, fun _ => hc.dir (by simp [hpc, dataReplaced]), fun m hm => ?_,
      (fun q hq => nomatch hmap.symm.trans hq), hc.path, hc.file, ?_, by simp [holdsObjectLock],
      hfree⟩
    · by_cases he : TmpName.append c.uploadID m = (o.files p).filePath
      · rw [he, AList.lookup_erase]
      · simpa [AList.lookup_erase_ne he] using hc.fresh m hm
    · simp only [Stage]
      exact ⟨hmd5, hmap, ⟨n, hn, hpath⟩, by simp [AList.lookup_erase_ne hne, hnone, claimedBytes]⟩

/-- `fallbackAppend i`: claimed part `i` is appended to the call's own file. -/
theorem CallOk.step_fallbackAppend {i : Nat} (hc : CallOk completeMD5 d o c)
    (hpc : c.pc = .fallbackAppend i)
    (h : completeStep completeMD5 o c out = some (o', c')) : CallOk completeMD5 d o' c' := by
  simp only [completeStep, hpc, Option.some.injEq, Prod.mk.injEq] at h
  have hs := hc.stage
  simp only [Stage, hpc] at hs
  obtain ⟨hmd5, hmap, ⟨n, hn, hpath⟩, hbytes⟩ := hs
  have hd := hc.dir (by simp [hpc, dataReplaced])
  split at h
  · rename_i hnone
    obtain ⟨rfl, rfl⟩ := h
    refine hc.same completeMD5 d (.refl _ _) rfl rfl rfl
      (by simp [hpc, dataReplaced]) ?_ (by simp [holdsObjectLock])
      fun _ _ => hc.lockFree (by simp [hpc, holdsObjectLock]) (by simp [hpc, terminal])
    simp only [Stage, DataReady]
    exact ⟨hmd5, hmap, by rw [hbytes, claimedBytes_take_of_le d (List.getElem?_eq_none_iff.mp hnone)]⟩
  rename_i part hpart
  -- what the append leaves: the file `appendFilePath` and nothing else of the upload
  have happ (src : Bytes) (r : AppendResult) :
      CallOk completeMD5 d { o with fs := { o.fs with tmp := (appendFile o.fs.tmp c.appendFilePath
        src r).2 } } { c with pc := .failed (.fs .appendPart) } := by
    refine CallOk.returned completeMD5 d rfl hc.canonical (fun _ => hd) (fun m hm => ?_)
      (fun q hq => nomatch hmap.symm.trans hq) hc.path hc.file
    dsimp only at hm
    rw [appendFile_lookup_ne _ _ _ _ (by rw [hpath]; simp; omega)]
    exact hc.fresh m hm
  simp only [hd, Option.some_bind] at h
  cases hsrc : d.parts.lookup (encodePartFile part.partNumber part.etag) with
  | none =>
    simp only [hsrc, appendFile, Bool.false_eq_true, if_false, Option.some.injEq] at h
    exact (happ [] (.failedAfter 0)).finish completeMD5 d h
  | some src =>
    cases hr : out.appendResult <;> simp only [hsrc, hr, appendFile] at h
    · simp only [if_true, Option.some.injEq, Prod.mk.injEq] at h
      obtain ⟨rfl, rfl⟩ := h
      refine ⟨hc.canonical, fun _ => hd, fun m hm => ?_, (fun q hq => nomatch hmap.symm.trans hq),
        hc.path, hc.file, ?_, by simp [holdsObjectLock],
        fun _ _ => hc.lockFree (by simp [hpc, holdsObjectLock]) (by simp [hpc, terminal])⟩
      · dsimp only at hm ⊢
        rw [AList.lookup_insert_ne (by rw [hpath]; simp; omega)]
        exact hc.fresh m hm
      · simp only [Stage]
        refine ⟨hmd5, hmap, ⟨n, hn, hpath⟩, ?_⟩
        dsimp only
        rw [AList.lookup_insert, Option.getD_some, hbytes, claimedBytes_take_succ d hpart,
          partBytes, hsrc, Option.getD_some]
    · simp only [Bool.false_eq_true, if_false, Option.some.injEq] at h
      exact (happ src .openFailed).finish completeMD5 d h
    · simp only [Bool.false_eq_true, if_false, Option.some.injEq] at h
      exact (happ src (.failedAfter _)).finish completeMD5 d h

/-- `getLock`: the object's lock, or a timeout. -/
theorem CallOk.step_getLock (hc : CallOk completeMD5 d o c) (hpc : c.pc = .getLock)
    (h : completeStep completeMD5 o c out = some (o', c')) : CallOk completeMD5 d o' c' := by
  simp only [completeStep, hpc, Option.some.injEq, Prod.mk.injEq] at h
  have hs := hc.stage
  simp only [Stage, hpc] at hs
  split at h
  · exact hc.stop completeMD5 d h (.refl _ _) (by simp [hpc, dataReplaced]) rfl
  split at h
  · cases h
  cases h
  exact hc.same completeMD5 d (frame_refl _ rfl rfl rfl rfl rfl rfl) rfl rfl rfl
    (by simp [hpc, dataReplaced]) hs (fun _ => rfl) (by simp [holdsObjectLock])

/-- `create`: the object's `fs.json` is created when it does not exist. -/
theorem CallOk.step_create (hc : CallOk completeMD5 d o c) (hpc : c.pc = .create)
    (h : completeStep completeMD5 o c out = some (o', c')) : CallOk completeMD5 d o' c' := by
  simp only [completeStep, hpc, Option.some.injEq, Prod.mk.injEq] at h
  have hs := hc.stage
  simp only [Stage, hpc] at hs
  split at h
  · exact hc.stop completeMD5 d h (.refl _ _) (by simp [hpc, dataReplaced]) rfl
  cases h
  exact hc.same completeMD5 d (frame_refl _ rfl rfl rfl rfl rfl rfl) rfl rfl rfl
    (by simp [hpc, dataReplaced]) hs (fun _ => hc.lockHeld (by simp [hpc, holdsObjectLock]))
    (by simp [holdsObjectLock])

/-- `readMeta`: the upload's `fs.json`. -/
theorem CallOk.step_readMeta (hc : CallOk completeMD5 d o c) (hpc : c.pc = .readMeta)
    (h : completeStep completeMD5 o c out = some (o', c')) : CallOk completeMD5 d o' c' := by
  simp only [completeStep, hpc, Option.some.injEq, Prod.mk.injEq] at h
  have hs := hc.stage
  simp only [Stage, hpc] at hs
  have hd := hc.dir (by simp [hpc, dataReplaced])
  simp only [hd, Option.some_bind] at h
  split at h
  · rename_i m hm
    split at h
    · exact hc.stop completeMD5 d h (.refl _ _) (by simp [hpc, dataReplaced]) rfl
    cases h
    exact hc.same completeMD5 d (.refl _ _) rfl rfl rfl
      (by simp [hpc, dataReplaced]) ⟨hs.1, hs.2.1, hs.2.2, hm⟩
      (fun _ => hc.lockHeld (by simp [hpc, holdsObjectLock])) (by simp [holdsObjectLock])
  · exact hc.stop completeMD5 d h (.refl _ _) (by simp [hpc, dataReplaced]) rfl

/-- `writeMeta`: the object's `fs.json`, whole or, on a failed write, in part. -/
theorem CallOk.step_writeMeta (hc : CallOk completeMD5 d o c) (hpc : c.pc = .writeMeta)
    (h : completeStep completeMD5 o c out = some (o', c')) : CallOk completeMD5 d o' c' := by
  simp only [completeStep, hpc, Option.some.injEq, Prod.mk.injEq] at h
  have hs := hc.stage
  simp only [Stage, hpc] at hs
  split at h
  · exact hc.stop completeMD5 d h (frame_refl _ rfl rfl rfl rfl rfl rfl)
      (by simp [hpc, dataReplaced]) rfl
  cases h
  exact hc.same completeMD5 d (frame_refl _ rfl rfl rfl rfl rfl rfl) rfl rfl rfl
    (by simp [hpc, dataReplaced]) ⟨hs.1, hs.2.1, hs.2.2.1, hs.2.2.2, rfl⟩
    (fun _ => hc.lockHeld (by simp [hpc, holdsObjectLock])) (by simp [holdsObjectLock])

/-- `rename`: the call's file becomes the object's data: the object is then committed. -/
theorem CallOk.step_rename (hc : CallOk completeMD5 d o c) (hpc : c.pc = .rename)
    (h : completeStep completeMD5 o c out = some (o', c')) : CallOk completeMD5 d o' c' := by
  simp only [completeStep, hpc, Option.some.injEq, Prod.mk.injEq] at h
  have hs := hc.stage
  simp only [Stage, hpc] at hs
  split at h
  · rename_i data hdata
    split at h
    · exact hc.stop completeMD5 d h (.refl _ _) (by simp [hpc, dataReplaced]) rfl
    cases h
    obtain ⟨hmd5, hmap, hready, hjson, hmeta⟩ := hs
    refine ⟨hc.canonical, fun h => by simp [dataReplaced] at h, fun n hn => ?_,
      fun p hp => by simp [hmap] at hp, hc.path, hc.file, ?_,
      fun _ => hc.lockHeld (by simp [hpc, holdsObjectLock]), by simp [holdsObjectLock]⟩
    · by_cases he : TmpName.append c.uploadID n = c.appendFilePath
      · dsimp only; rw [he, AList.lookup_erase]
      · dsimp only; rw [AList.lookup_erase_ne he]; exact hc.fresh n hn
    · simp only [Stage, Committed]
      refine ⟨hjson, hmd5, ?_, hmeta⟩
      simpa [DataReady, hdata] using hready
  · exact hc.stop completeMD5 d h (.refl _ _) (by simp [hpc, dataReplaced]) rfl

/-- `removeAll`: the upload-id directory goes; the commit stays. -/
theorem CallOk.step_removeAll (hc : CallOk completeMD5 d o c) (hpc : c.pc = .removeAll)
    (h : completeStep completeMD5 o c out = some (o', c')) : CallOk completeMD5 d o' c' := by
  simp only [completeStep, hpc, Option.some.injEq, Prod.mk.injEq] at h
  obtain ⟨rfl, rfl⟩ := h
  have hs := hc.stage
  simp only [Stage, hpc] at hs
  exact ⟨hc.canonical, fun h => by simp [dataReplaced] at h, hc.fresh,
    fun p hp => (hc.record p hp).of_store d rfl rfl rfl rfl, hc.path, hc.file, hs,
    fun _ => hc.lockHeld (by simp [hpc, holdsObjectLock]), by simp [holdsObjectLock]⟩

/-- `stat`: the call returns. -/
theorem CallOk.step_stat (hc : CallOk completeMD5 d o c) (hpc : c.pc = .stat)
    (h : completeStep completeMD5 o c out = some (o', c')) : CallOk completeMD5 d o' c' := by
  simp only [completeStep, hpc] at h
  split at h
  · split at h <;> exact hc.stop completeMD5 d h (.refl _ _) (by simp [hpc, dataReplaced]) rfl
  · exact hc.stop completeMD5 d h (.refl _ _) (by simp [hpc, dataReplaced]) rfl

/-- Every step of a call keeps its own invariant, when its `backgroundAppend` run's appends
succeed. -/
theorem CallOk.step (hc : CallOk completeMD5 d o c) (hout : ∀ r ∈ out.bgFaults.appends, r = .ok)
    (h : completeStep completeMD5 o c out = some (o', c')) : CallOk completeMD5 d o' c' := by
  cases hpc : c.pc
  case start => exact hc.step_start completeMD5 d hpc h
  case bgEnter => exact hc.step_bgEnter completeMD5 d hpc h
  case bgRun => exact hc.step_bgRun completeMD5 d hpc hout h
  case take => exact hc.step_take completeMD5 d hpc h
  case verify => exact hc.step_verify completeMD5 d hpc h
  case fallbackRemove => exact hc.step_fallbackRemove completeMD5 d hpc h
  case fallbackAppend => exact hc.step_fallbackAppend completeMD5 d hpc h
  case getLock => exact hc.step_getLock completeMD5 d hpc h
  case create => exact hc.step_create completeMD5 d hpc h
  case readMeta => exact hc.step_readMeta completeMD5 d hpc h
  case writeMeta => exact hc.step_writeMeta completeMD5 d hpc h
  case rename => exact hc.step_rename completeMD5 d hpc h
  case removeAll => exact hc.step_removeAll completeMD5 d hpc h
  case stat => exact hc.step_stat completeMD5 d hpc h
  all_goals simp [completeStep, hpc] at h

end Step

end Invariant

end Minio.Multipart.Commit
