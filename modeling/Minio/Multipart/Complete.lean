import Minio.Multipart.BackgroundAppend
/-!
# `CompleteMultipartUpload`

`FSObjects.CompleteMultipartUpload` as a sequence of steps, one per file operation or critical
section, so that it can run alone or interleaved with other calls. It validates the claimed
parts, runs `backgroundAppend` itself, takes the upload's record out of `appendFileMap`, and
uses the record's file when its parts are exactly the claimed ones; otherwise it appends the
claimed parts afresh. Under the object's write lock it then rewrites the object's `fs.json` in
place, renames the data file into the namespace, removes the upload-id directory and stats the
object.

Each step is given what the environment decides for it (`Outcome`): whether a file operation
fails, and how. `checkCompleteMultipartArgs`, `parentDirIsObject` and `statBucketDir` are not in
this repository; their errors are the `start` step failing. `getCompleteMultipartMD5` is not in
this repository either and is a parameter.
-/

namespace Minio.Multipart.Complete

open Minio.Multipart.PartFile Minio.Multipart.State Minio.Multipart.BackgroundAppend

/-- Modelled from the spec: the bound of `isMinAllowedPartSize`, the S3 minimum part size of
5 MiB. -/
def globalMinPartSize : Nat := 5 * 1024 * 1024

/-- `isMinAllowedPartSize`. -/
def isMinAllowedPartSize (size : Nat) : Bool := globalMinPartSize ≤ size

/-- The file operation of `CompleteMultipartUpload` an error comes from; `errors.Trace` records
where an error is raised. -/
inductive FsOp where
  | appendPart
  | create
  | readMeta
  | writeMeta
  | rename
  | statObject
  deriving DecidableEq, Repr

/-- The errors `CompleteMultipartUpload` returns. -/
inductive CompleteErr where
  /-- an error of `checkCompleteMultipartArgs`, `parentDirIsObject`, `statBucketDir` or
  `getCompleteMultipartMD5` -/
  | precondition
  | invalidUploadID (uploadID : String)
  | invalidPart
  | partTooSmall (partNumber : Int) (partSize : Nat) (partETag : String)
  | partsSizeUnequal
  | operationTimedOut
  /-- a file system error of operation `op`, as `toObjectErr` wraps it -/
  | fs (op : FsOp)
  deriving DecidableEq, Repr

/-- `ObjectInfo`, as `fsMeta.ToObjectInfo` fills it: the metadata and the data file's size. -/
structure ObjectInfo where
  meta : FsMeta
  size : Nat
  deriving DecidableEq, Repr

/-- What the environment decides for one step. A step reads only the kind of outcome that
concerns it and treats any other as success. -/
inductive Outcome where
  | ok
  /-- the file operation or the lock acquisition of this step returns an error -/
  | fail
  /-- what happens in a `backgroundAppend` run -/
  | bg (f : BgFaults)
  /-- what one `AppendFile` call does -/
  | append (r : AppendResult)
  /-- a write of an `fs.json` fails, leaving it as it was (`none`) or holding `left` -/
  | writeFailed (left : Option Bytes)
  /-- what `fsRemoveAll` does -/
  | removeAll (r : RemoveAllResult)

/-- The step's file operation or lock acquisition fails. -/
def Outcome.isFail : Outcome → Bool
  | .fail => true
  | _ => false

/-- The faults of a `backgroundAppend` run that an outcome carries. -/
def Outcome.bgFaults : Outcome → BgFaults
  | .bg f => f
  | _ => ⟨false, []⟩

/-- What an `AppendFile` call does under an outcome. -/
def Outcome.appendResult : Outcome → AppendResult
  | .append r => r
  | _ => .ok

/-- What `fsRemoveAll` does under an outcome. -/
def Outcome.removeAllResult : Outcome → RemoveAllResult
  | .removeAll r => r
  | _ => .ok

/-- The part-validation loop (lines 493-532). `partSize` is `-1` until the first part is seen. -/
def checkParts (dir : UploadDir) : Int → List CompletePart → Option CompleteErr
  | _, [] => none
  | partSize, part :: rest =>
    match dir.parts.lookup (encodePartFile part.partNumber part.etag) with
    | none => some .invalidPart
    | some data =>
      let partSize := if partSize = -1 then (data.length : Int) else partSize
      if rest = [] then none
      else if !isMinAllowedPartSize data.length then
        some (.partTooSmall part.partNumber data.length part.etag)
      else if partSize ≠ data.length then some .partsSizeUnequal
      else checkParts dir partSize rest

/-- Lines 477-532: the upload's `fs.json` must exist, the multipart etag must be computable,
and the claimed parts must pass `checkParts`. Returns the multipart etag. -/
def validate (completeMD5 : List CompletePart → Option String) (dir : Option UploadDir)
    (uploadID : String) (parts : List CompletePart) : Except CompleteErr String :=
  match dir.bind (·.fsJson) with
  | none => .error (.invalidUploadID uploadID)
  | some _ =>
    match completeMD5 parts, dir with
    | some md5, some d => match checkParts d (-1) parts with
      | none => .ok md5
      | some e => .error e
    | _, _ => .error .precondition

theorem validate_ok {completeMD5 : List CompletePart → Option String} {dir : Option UploadDir}
    {uploadID : String} {parts : List CompletePart} {md5 : String}
    (h : validate completeMD5 dir uploadID parts = .ok md5) : completeMD5 parts = some md5 := by
  unfold validate at h
  split at h
  · cases h
  · split at h
    · split at h
      · cases h; assumption
      · cases h
    · cases h

theorem checkParts_not_fs (dir : UploadDir) :
    ∀ (partSize : Int) (parts : List CompletePart) {e : CompleteErr},
      checkParts dir partSize parts = some e → ∀ op, e ≠ .fs op
  | _, [], _, h => by cases h
  | partSize, part :: rest, e, h => by
    unfold checkParts at h
    dsimp only at h
    repeat' split at h
    all_goals first | (cases h; simp) | cases h | exact checkParts_not_fs dir _ rest h

/-- Validation fails before any file operation. -/
theorem validate_not_fs {completeMD5 : List CompletePart → Option String} {dir : Option UploadDir}
    {uploadID : String} {parts : List CompletePart} {e : CompleteErr}
    (h : validate completeMD5 dir uploadID parts = .error e) (op : FsOp) : e ≠ .fs op := by
  unfold validate at h
  repeat' split at h
  all_goals cases h
  all_goals first | exact checkParts_not_fs _ _ _ ‹_› op | simp

/-- The record's parts are the claimed parts, number and etag alike (lines 553-566). -/
def partsMatch : List PartInfo → List CompletePart → Bool
  | [], [] => true
  | p :: ps, c :: cs => p.etag == c.etag && p.partNumber == c.partNumber && partsMatch ps cs
  | _, _ => false

/-- Lines 604-607: the upload's metadata with `etag` set to the multipart etag. -/
def withEtag (m : FsMeta) (etag : String) : FsMeta :=
  ⟨("etag", etag) :: m.meta.filter (·.1 ≠ "etag")⟩

/-- Where a `CompleteMultipartUpload` call stands. -/
inductive CompletePc where
  | start
  /-- `backgroundAppend`'s map section -/
  | bgEnter
  /-- `backgroundAppend`'s locked part, on record `p` -/
  | bgRun (p : Nat)
  /-- fetch and delete the upload's record -/
  | take
  /-- `file.Lock()` and the comparison with the claimed parts -/
  | verify
  /-- `fsRemoveFile(file.filePath)` -/
  | fallbackRemove
  /-- `AppendFile` of the claimed part `i` onward -/
  | fallbackAppend (i : Nat)
  | getLock
  /-- `fs.rwPool.Create(fsMetaPath)` -/
  | create
  /-- read the upload's `fs.json` -/
  | readMeta
  /-- `fsMeta.WriteTo(metaFile)` -/
  | writeMeta
  /-- `fsRenameFile(appendFilePath, bucket/object)` -/
  | rename
  /-- `fsRemoveAll(uploadIDDir)` -/
  | removeAll
  /-- `fsStatFile(bucket/object)` -/
  | stat
  | failed (e : CompleteErr)
  | completed (oi : ObjectInfo)
  /-- a nil pointer dereference -/
  | panicked
  deriving DecidableEq, Repr

/-- A `CompleteMultipartUpload(bucket, object, uploadID, parts)` call and its locals.
`unlockFile` and `unlockObject` are its deferred `file.Unlock()` and `destLock.Unlock()`. -/
structure CompleteCall where
  uploadID : String
  parts : List CompletePart
  s3MD5 : String
  appendFilePath : TmpName
  file : Option Nat
  fsMeta : FsMeta
  unlockFile : Bool
  unlockObject : Bool
  pc : CompletePc
  deriving DecidableEq, Repr

/-- A call that has not started. -/
def CompleteCall.init (uploadID : String) (parts : List CompletePart) : CompleteCall :=
  ⟨uploadID, parts, "", .append uploadID 0, none, ⟨[]⟩, false, false, .start⟩

/-- Return from the call: run its deferred unlocks. -/
def finish (o : FSObjects) (c : CompleteCall) (pc : CompletePc) : FSObjects × CompleteCall :=
  ({ o with locked := match c.file with
                      | some p => if c.unlockFile then o.locked.erase p else o.locked
                      | none => o.locked
            objectLocked := if c.unlockObject then false else o.objectLocked },
    { c with pc })

section Finish

variable (o : FSObjects) (c : CompleteCall) (pc : CompletePc)

@[simp] theorem finish_fs : (finish o c pc).1.fs = o.fs := rfl
@[simp] theorem finish_appendFileMap : (finish o c pc).1.appendFileMap = o.appendFileMap := rfl
@[simp] theorem finish_files : (finish o c pc).1.files = o.files := rfl
@[simp] theorem finish_uuid : (finish o c pc).1.uuid = o.uuid := rfl
@[simp] theorem finish_nextFile : (finish o c pc).1.nextFile = o.nextFile := rfl
@[simp] theorem finish_call : (finish o c pc).2 = { c with pc } := rfl

end Finish

section Step

variable (completeMD5 : List CompletePart → Option String)

/-- One step of a call: the new state and call, or `none` while the step waits for a mutex and
once the call has returned. -/
def completeStep (o : FSObjects) (c : CompleteCall) (out : Outcome) :
    Option (FSObjects × CompleteCall) :=
  let dir := o.fs.uploads.lookup c.uploadID
  match c.pc with
  | .start =>
    if out.isFail then some (o, { c with pc := .failed .precondition })
    else match validate completeMD5 dir c.uploadID c.parts with
      | .error e => some (o, { c with pc := .failed e })
      | .ok md5 =>
        some ({ o with uuid := o.uuid + 1 },
          { c with s3MD5 := md5, appendFilePath := .append c.uploadID o.uuid, pc := .bgEnter })
  | .bgEnter =>
    let r := backgroundAppendEnter o c.uploadID
    some (r.1, { c with pc := .bgRun r.2 })
  | .bgRun p =>
    if p ∈ o.locked then none
    else some (backgroundAppendRun o c.uploadID p out.bgFaults, { c with pc := .take })
  | .take =>
    some ({ o with appendFileMap := Function.update o.appendFileMap c.uploadID none },
      { c with file := o.appendFileMap c.uploadID, pc := .verify })
  | .verify =>
    match c.file with
    | none => some (o, { c with pc := .fallbackRemove })
    | some p =>
      if p ∈ o.locked then none
      else if c.parts ≠ [] ∧ partsMatch (o.files p).parts c.parts = true then
        some ({ o with locked := p :: o.locked },
          { c with unlockFile := true, appendFilePath := (o.files p).filePath, pc := .getLock })
      else some ({ o with locked := p :: o.locked },
        { c with unlockFile := true, pc := .fallbackRemove })
  | .fallbackRemove =>
    match c.file with
    | none => some (o, { c with pc := .panicked })
    | some p =>
      if out.isFail then some (o, { c with pc := .fallbackAppend 0 })
      else some ({ o with fs := { o.fs with tmp := o.fs.tmp.erase (o.files p).filePath } },
        { c with pc := .fallbackAppend 0 })
  | .fallbackAppend i =>
    match c.parts[i]? with
    | none => some (o, { c with pc := .getLock })
    | some part =>
      let r := match dir.bind (·.parts.lookup (encodePartFile part.partNumber part.etag)) with
        | some src => appendFile o.fs.tmp c.appendFilePath src out.appendResult
        | none => appendFile o.fs.tmp c.appendFilePath [] (.failedAfter 0)
      if r.1 then some ({ o with fs := { o.fs with tmp := r.2 } },
        { c with pc := .fallbackAppend (i + 1) })
      else some (finish { o with fs := { o.fs with tmp := r.2 } } c (.failed (.fs .appendPart)))
  | .getLock =>
    if out.isFail then some (finish o c (.failed .operationTimedOut))
    else if o.objectLocked then none
    else some ({ o with objectLocked := true }, { c with unlockObject := true, pc := .create })
  | .create =>
    if out.isFail then some (finish o c (.failed (.fs .create)))
    else some ({ o with fs := { o.fs with objectMeta := some (o.fs.objectMeta.getD (.raw [])) } },
      { c with pc := .readMeta })
  | .readMeta =>
    match dir.bind (·.fsJson) with
    | some (.json m) =>
      if out.isFail then some (finish o c (.failed (.fs .readMeta)))
      else some (o, { c with fsMeta := m, pc := .writeMeta })
    | _ => some (finish o c (.failed (.fs .readMeta)))
  | .writeMeta =>
    match out with
    | .writeFailed left =>
      let objectMeta := match left with
        | some b => some (.raw b)
        | none => o.fs.objectMeta
      some (finish { o with fs := { o.fs with objectMeta } } c (.failed (.fs .writeMeta)))
    | _ => some ({ o with fs := { o.fs with
        objectMeta := some (.json (withEtag c.fsMeta c.s3MD5)) } }, { c with pc := .rename })
  | .rename =>
    match o.fs.tmp.lookup c.appendFilePath with
    | some data =>
      if out.isFail then some (finish o c (.failed (.fs .rename)))
      else
        let fs := { o.fs with object := some data, tmp := o.fs.tmp.erase c.appendFilePath }
        some ({ o with fs }, { c with pc := .removeAll })
    | none => some (finish o c (.failed (.fs .rename)))
  | .removeAll =>
    some ({ o with fs := { o.fs with
      uploads := removeAll o.fs.uploads c.uploadID out.removeAllResult } }, { c with pc := .stat })
  | .stat =>
    match o.fs.object with
    | some data =>
      if out.isFail then some (finish o c (.failed (.fs .statObject)))
      else some (finish o c (.completed ⟨withEtag c.fsMeta c.s3MD5, data.length⟩))
    | none => some (finish o c (.failed (.fs .statObject)))
  | .failed _ | .completed _ | .panicked => none

theorem completeStep_uploads {o o' : FSObjects} {c c' : CompleteCall} {out : Outcome}
    (h : completeStep completeMD5 o c out = some (o', c')) :
    o'.fs.uploads = o.fs.uploads ∨
      o'.fs.uploads = removeAll o.fs.uploads c.uploadID out.removeAllResult := by
  unfold completeStep at h
  dsimp only at h
  split at h <;> (repeat' split at h) <;>
    (try simp only [Option.some.injEq, Prod.mk.injEq, reduceCtorEq] at h) <;>
    (try obtain ⟨rfl, rfl⟩ := h) <;> simp_all

/-- A call run alone, one step per outcome, until a step cannot run. -/
def runComplete (o : FSObjects) (c : CompleteCall) : List Outcome → FSObjects × CompleteCall
  | [] => (o, c)
  | out :: outs =>
    match completeStep completeMD5 o c out with
    | some r => runComplete r.1 r.2 outs
    | none => (o, c)

end Step

/-- `CompleteMultipartUpload(u, [(1, e)])` on `singlePartUpload` with no fault, after a
`backgroundAppend` run whose append of part 1 failed after one byte. The call's own
`backgroundAppend` appends part 1 again, the record's parts equal the claimed ones, and the fast
path renames the record's file: the object holds `[1, 1, 2]`. Without the failed run the same
call renames `[1, 2]`, the claimed part's bytes. -/
theorem complete_fast_path_renames_failed_append_prefix :
    (∃ o c, runComplete (fun _ => some "m")
        (backgroundAppendRun (backgroundAppendEnter singlePartUpload "u").1 "u" 0
          ⟨false, [.failedAfter 1]⟩)
        (CompleteCall.init "u" [⟨1, "e"⟩]) (List.replicate 12 .ok) = (o, c) ∧
      c.pc = .completed ⟨⟨[("etag", "m")]⟩, 3⟩ ∧ o.fs.object = some [1, 1, 2]) ∧
    (∃ o c, runComplete (fun _ => some "m") singlePartUpload (CompleteCall.init "u" [⟨1, "e"⟩])
        (List.replicate 12 .ok) = (o, c) ∧
      c.pc = .completed ⟨⟨[("etag", "m")]⟩, 2⟩ ∧ o.fs.object = some [1, 2]) ∧
    (singlePartUpload.fs.uploads.lookup "u").bind (·.parts.lookup (encodePartFile 1 "e")) =
      some [1, 2] :=
  ⟨⟨_, _, rfl, by decide, by decide⟩, ⟨_, _, rfl, by decide, by decide⟩, by decide⟩

end Minio.Multipart.Complete
