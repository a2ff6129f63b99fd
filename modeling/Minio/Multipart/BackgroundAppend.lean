import Minio.Multipart.State
import Mathlib.Data.List.Sort
/-!
# `backgroundAppend`

The background append of an upload (`FSObjects.backgroundAppend`): a section under
`appendFileMapMu` that finds or creates the upload's `fsAppendFile`, then, under the record's
own mutex, a scan of the upload-id directory that appends to the record's temporary file every
part whose number is the next one expected, in sorted order, stopping at the first gap. A part
is recorded only when its `AppendFile` call succeeds; a failed call may already have written a
prefix of the part, which nothing removes.
-/

namespace Minio.Multipart.BackgroundAppend

open Minio.Multipart.PartFile Minio.Multipart.State

/-- `sort.Strings`: ascending byte-wise order. The order is decided on the characters. -/
def sortStrings (l : List String) : List String :=
  @List.insertionSort String (· ≤ ·)
    (fun a b => decidable_of_iff (a.toList ≤ b.toList) String.le_iff_toList_le.symm) l

theorem mem_sortStrings {e : String} {l : List String} : e ∈ sortStrings l ↔ e ∈ l :=
  (@List.perm_insertionSort String (· ≤ ·)
    (fun a b => decidable_of_iff (a.toList ≤ b.toList) String.le_iff_toList_le.symm) l).mem_iff

/-- The `appendFileMapMu` section of `backgroundAppend` (lines 68-76): the upload's record,
created with a fresh temporary path when the map has none. -/
def backgroundAppendEnter (o : FSObjects) (uploadID : String) : FSObjects × Nat :=
  match o.appendFileMap uploadID with
  | some p => (o, p)
  | none =>
    let (uuid, o) := o.mustGetUUID
    ({ o with appendFileMap := Function.update o.appendFileMap uploadID (some o.nextFile)
              files := Function.update o.files o.nextFile ⟨.append uploadID uuid, []⟩
              nextFile := o.nextFile + 1 }, o.nextFile)

@[simp] theorem backgroundAppendEnter_fs (o : FSObjects) (uploadID : String) :
    (backgroundAppendEnter o uploadID).1.fs = o.fs := by
  unfold backgroundAppendEnter; split <;> rfl

section Enter

variable (o : FSObjects) (uploadID : String)

@[simp] theorem backgroundAppendEnter_objectLocked :
    (backgroundAppendEnter o uploadID).1.objectLocked = o.objectLocked := by
  unfold backgroundAppendEnter; split <;> rfl

theorem backgroundAppendEnter_appendFileMap_ne {v : String} (hv : v ≠ uploadID) :
    (backgroundAppendEnter o uploadID).1.appendFileMap v = o.appendFileMap v := by
  unfold backgroundAppendEnter; split
  · rfl
  · simp [Function.update_noteq hv, FSObjects.mustGetUUID]

theorem backgroundAppendEnter_files_ne {q : Nat} (hq : q ≠ o.nextFile) :
    (backgroundAppendEnter o uploadID).1.files q = o.files q := by
  unfold backgroundAppendEnter; split
  · rfl
  · simp [Function.update_noteq hq, FSObjects.mustGetUUID]

theorem backgroundAppendEnter_counters :
    o.nextFile ≤ (backgroundAppendEnter o uploadID).1.nextFile ∧
      o.uuid ≤ (backgroundAppendEnter o uploadID).1.uuid := by
  unfold backgroundAppendEnter; split <;> simp [FSObjects.mustGetUUID]

/-- The section returns the upload's record, or creates one at `nextFile` with a fresh path and
no parts. -/
theorem backgroundAppendEnter_spec :
    (o.appendFileMap uploadID = some (backgroundAppendEnter o uploadID).2 ∧
        (backgroundAppendEnter o uploadID).1 = o) ∨
      (o.appendFileMap uploadID = none ∧ (backgroundAppendEnter o uploadID).2 = o.nextFile ∧
        (backgroundAppendEnter o uploadID).1 =
          { o with appendFileMap := Function.update o.appendFileMap uploadID (some o.nextFile)
                   files := Function.update o.files o.nextFile ⟨.append uploadID o.uuid, []⟩
                   nextFile := o.nextFile + 1
                   uuid := o.uuid + 1 }) := by
  unfold backgroundAppendEnter
  split <;> simp_all [FSObjects.mustGetUUID]

end Enter

/-- The loop over the sorted entries (lines 92-119): `next` is `nextPartNumber`, `ps` the
record's parts, `rs` what the coming `AppendFile` calls do (a call past its end succeeds). -/
def appendLoop (parts : AList (fun _ : String => Bytes)) (filePath : TmpName) :
    List String → List AppendResult → Int → List PartInfo → TmpDir → List PartInfo × TmpDir
  | [], _, _, ps, tmp => (ps, tmp)
  | e :: es, rs, next, ps, tmp =>
    if e = fsMetaJSONFile then appendLoop parts filePath es rs next ps tmp
    else match decodePartFile e with
    | none => (ps, tmp)
    | some (partNumber, etag) =>
      if partNumber < next then appendLoop parts filePath es rs next ps tmp
      else if next < partNumber then (ps, tmp)
      else match appendFile tmp filePath ((parts.lookup e).getD []) (rs.headD .ok) with
        | (true, tmp) => appendLoop parts filePath es rs.tail (next + 1) (ps ++ [⟨next, etag⟩]) tmp
        | (false, tmp) => (ps, tmp)

/-- The loop writes no file but `filePath`. -/
theorem appendLoop_lookup_ne (parts : AList fun _ : String => Bytes) (filePath fp : TmpName)
    (hfp : fp ≠ filePath) :
    ∀ es rs next ps tmp, (appendLoop parts filePath es rs next ps tmp).2.lookup fp = tmp.lookup fp
  | [], _, _, _, _ => rfl
  | e :: es, rs, next, ps, tmp => by
    have ih := appendLoop_lookup_ne parts filePath fp hfp es
    unfold appendLoop
    split
    · exact ih ..
    split
    · rfl
    split
    · exact ih ..
    split
    · rfl
    split <;> rename_i h
    · rw [ih]
      cases hr : rs.headD .ok <;> rw [hr] at h <;> simp only [appendFile, Prod.mk.injEq] at h <;>
        obtain ⟨-, rfl⟩ := h <;> simp [AList.lookup_insert_ne hfp]
    · cases hr : rs.headD .ok <;> rw [hr] at h <;> simp only [appendFile, Prod.mk.injEq] at h <;>
        obtain ⟨-, rfl⟩ := h <;> simp [AList.lookup_insert_ne hfp]

/-- What the environment decides in one run: whether `readDir` fails, and what each
`AppendFile` call does. -/
structure BgFaults where
  readDirFails : Bool
  appends : List AppendResult

/-- The part of `backgroundAppend` under `file.Lock()` (lines 78-119), on record `p`. -/
def backgroundAppendRun (o : FSObjects) (uploadID : String) (p : Nat) (f : BgFaults) :
    FSObjects :=
  match o.fs.uploads.lookup uploadID with
  | none => o
  | some dir =>
    if f.readDirFails then o
    else
      let file := o.files p
      let r := appendLoop dir.parts file.filePath (sortStrings (readDir dir)) f.appends
        (file.parts.length + 1) file.parts o.fs.tmp
      { o with files := Function.update o.files p { file with parts := r.1 }
               fs := { o.fs with tmp := r.2 } }

/-- A run writes the temporary directory and nothing else of the disk. -/
theorem backgroundAppendRun_fs (o : FSObjects) (uploadID : String) (p : Nat) (f : BgFaults) :
    ∃ tmp, (backgroundAppendRun o uploadID p f).fs = { o.fs with tmp } := by
  unfold backgroundAppendRun
  split
  · exact ⟨o.fs.tmp, rfl⟩
  · split
    · exact ⟨o.fs.tmp, rfl⟩
    · exact ⟨_, rfl⟩

section Frame

variable (o : FSObjects) (uploadID : String) (p : Nat) (f : BgFaults)

@[simp] theorem backgroundAppendRun_uploads :
    (backgroundAppendRun o uploadID p f).fs.uploads = o.fs.uploads := by
  obtain ⟨_, h⟩ := backgroundAppendRun_fs o uploadID p f; rw [h]

@[simp] theorem backgroundAppendRun_object :
    (backgroundAppendRun o uploadID p f).fs.object = o.fs.object := by
  obtain ⟨_, h⟩ := backgroundAppendRun_fs o uploadID p f; rw [h]

@[simp] theorem backgroundAppendRun_objectMeta :
    (backgroundAppendRun o uploadID p f).fs.objectMeta = o.fs.objectMeta := by
  obtain ⟨_, h⟩ := backgroundAppendRun_fs o uploadID p f; rw [h]

@[simp] theorem backgroundAppendRun_appendFileMap :
    (backgroundAppendRun o uploadID p f).appendFileMap = o.appendFileMap := by
  unfold backgroundAppendRun; split <;> (try split) <;> rfl

@[simp] theorem backgroundAppendRun_nextFile :
    (backgroundAppendRun o uploadID p f).nextFile = o.nextFile := by
  unfold backgroundAppendRun; split <;> (try split) <;> rfl

@[simp] theorem backgroundAppendRun_uuid :
    (backgroundAppendRun o uploadID p f).uuid = o.uuid := by
  unfold backgroundAppendRun; split <;> (try split) <;> rfl

@[simp] theorem backgroundAppendRun_objectLocked :
    (backgroundAppendRun o uploadID p f).objectLocked = o.objectLocked := by
  unfold backgroundAppendRun; split <;> (try split) <;> rfl

theorem backgroundAppendRun_files_ne {q : Nat} (hq : q ≠ p) :
    (backgroundAppendRun o uploadID p f).files q = o.files q := by
  unfold backgroundAppendRun; split <;> (try split) <;> simp [Function.update_noteq hq]

@[simp] theorem backgroundAppendRun_filePath :
    ((backgroundAppendRun o uploadID p f).files p).filePath = (o.files p).filePath := by
  unfold backgroundAppendRun; split <;> (try split) <;> simp

theorem backgroundAppendRun_lookup_ne {fp : TmpName} (hfp : fp ≠ (o.files p).filePath) :
    (backgroundAppendRun o uploadID p f).fs.tmp.lookup fp = o.fs.tmp.lookup fp := by
  unfold backgroundAppendRun; split <;> (try split) <;> simp [appendLoop_lookup_ne _ _ _ hfp]

end Frame

/-- An object with one upload `u`, whose directory holds `fs.json` and the part file
`00001.e` with bytes `[1, 2]`, and no append record. -/
def singlePartUpload : FSObjects where
  fs := ⟨(∅ : AList fun _ : String => UploadDir).insert "u"
      ⟨some (.json ⟨[]⟩), (∅ : AList fun _ : String => Bytes).insert "00001.e" [1, 2]⟩, ∅, none, none⟩
  appendFileMap _ := none
  files _ := ⟨.append "" 0, []⟩
  nextFile := 0
  locked := []
  uuid := 0
  objectLocked := false

/-- Two runs on `singlePartUpload`: in the first the append of part 1 fails after writing one
byte, in the second it succeeds. The record then lists part 1 once, but its file holds the
failed prefix followed by the whole part. -/
theorem backgroundAppend_retry_after_failed_append_duplicates_prefix :
    (backgroundAppendEnter singlePartUpload "u").2 = 0 ∧
    ∃ o, backgroundAppendRun (backgroundAppendRun (backgroundAppendEnter singlePartUpload "u").1
        "u" 0 ⟨false, [.failedAfter 1]⟩) "u" 0 ⟨false, []⟩ = o ∧
      (o.files 0).parts = [⟨1, "e"⟩] ∧ o.fs.tmp.lookup (o.files 0).filePath = some [1, 1, 2] ∧
      (singlePartUpload.fs.uploads.lookup "u").bind (·.parts.lookup (encodePartFile 1 "e")) =
        some [1, 2] :=
  ⟨rfl, _, rfl, by decide, by decide, by decide⟩

end Minio.Multipart.BackgroundAppend
