import Minio.Multipart.Complete
/-!
# The multipart calls of one object, interleaved

`NewMultipartUpload`, `PutObjectPart`, `AbortMultipartUpload`, one removal of the stale-upload
cleanup and the `backgroundAppend` goroutine `PutObjectPart` spawns, each as a sequence of steps
like `CompleteMultipartUpload`'s. A server holds any number of these calls and runs one step of
one of them at a time, in any order; a step given an `Outcome` that concerns it fails as that
outcome says.

`fsRenameFile` creates the destination's parent directories before renaming, as its callers
rely on. The temporary file `PutObjectPart` writes its data to is not modelled: the call holds
the data until it renames it into the upload-id directory.
-/

namespace Minio.Multipart.Calls

open Minio.Multipart.PartFile Minio.Multipart.State Minio.Multipart.BackgroundAppend
  Minio.Multipart.Complete

/-! ## File operations on upload-id directories -/

/-- `mkdirAll` of an upload-id directory. -/
def mkdirAll (ups : AList fun _ : String => UploadDir) (uploadID : String) :
    AList fun _ : String => UploadDir :=
  match ups.lookup uploadID with
  | some _ => ups
  | none => ups.insert uploadID ⟨none, ∅⟩

/-- `fsRenameFile` of a part's data to `uploadIDDir/name`, creating the directory if it is
missing. -/
def renamePart (ups : AList fun _ : String => UploadDir) (uploadID name : String) (data : Bytes) :
    AList fun _ : String => UploadDir :=
  let d := (ups.lookup uploadID).getD ⟨none, ∅⟩
  ups.insert uploadID { d with parts := d.parts.insert name data }

/-- The upload has an `fs.json`: what the `fsStatFile(uploadIDDir/fs.json)` checks test. -/
def hasUpload (o : FSObjects) (uploadID : String) : Bool :=
  ((o.fs.uploads.lookup uploadID).bind (·.fsJson)).isSome

/-! ## `NewMultipartUpload` -/

/-- Where a `NewMultipartUpload` call stands. -/
inductive NewPc where
  | start
  | mkdirAll
  /-- `ioutil.WriteFile(uploadIDDir/fs.json)` -/
  | writeFile
  | returned (ok : Bool)
  deriving DecidableEq, Repr

/-- A `NewMultipartUpload(bucket, object, meta)` call and the upload id it draws. -/
structure NewCall where
  meta : FsMeta
  uploadID : String
  pc : NewPc
  deriving DecidableEq, Repr

/-- One step of `NewMultipartUpload` (lines 206-235). -/
def newStep (o : FSObjects) (c : NewCall) (out : Outcome) : Option (FSObjects × NewCall) :=
  match c.pc with
  | .start =>
    if out.isFail then some (o, { c with pc := .returned false })
    else some ({ o with uuid := o.uuid + 1 },
      { c with uploadID := toString o.uuid, pc := .mkdirAll })
  | .mkdirAll =>
    if out.isFail then some (o, { c with pc := .returned false })
    else some (o.withUploads (mkdirAll o.fs.uploads c.uploadID), { c with pc := .writeFile })
  | .writeFile =>
    match o.fs.uploads.lookup c.uploadID, out with
    | some d, .writeFailed left =>
      some (o.withUploads (o.fs.uploads.insert c.uploadID
        { d with fsJson := left.map .raw }), { c with pc := .returned false })
    | some d, _ =>
      some (o.withUploads (o.fs.uploads.insert c.uploadID
        { d with fsJson := some (.json c.meta) }), { c with pc := .returned true })
    | none, _ => some (o, { c with pc := .returned false })
  | .returned _ => none

/-! ## `PutObjectPart` -/

/-- Where a `PutObjectPart` call stands. -/
inductive PutPc where
  | start
  /-- `fsCreateFile(tmpPartPath)` -/
  | createFile
  /-- `fsRenameFile(tmpPartPath, partPath)` and the spawn of `backgroundAppend` -/
  | rename
  /-- `fsStatFile(partPath)` -/
  | stat
  | returned (ok : Bool)
  deriving DecidableEq, Repr

/-- A `PutObjectPart(bucket, object, uploadID, partID, data)` call. -/
structure PutCall where
  uploadID : String
  partID : Int
  data : Bytes
  pc : PutPc
  deriving DecidableEq, Repr

section Put

variable (md5 : Bytes → String)

/-- `encodePartFile(partID, etag)` for the call's data. -/
def PutCall.partName (c : PutCall) : String := encodePartFile c.partID (md5 c.data)

/-- One step of `PutObjectPart` (lines 280-352), and whether it spawns `backgroundAppend`. -/
def putStep (o : FSObjects) (c : PutCall) (out : Outcome) : Option (FSObjects × PutCall × Bool) :=
  match c.pc with
  | .start =>
    if out.isFail || !hasUpload o c.uploadID then some (o, { c with pc := .returned false }, false)
    else some (o, { c with pc := .createFile }, false)
  | .createFile =>
    if out.isFail then some ({ o with uuid := o.uuid + 1 }, { c with pc := .returned false }, false)
    else some ({ o with uuid := o.uuid + 1 }, { c with pc := .rename }, false)
  | .rename =>
    if out.isFail then some (o, { c with pc := .returned false }, false)
    else some (o.withUploads (renamePart o.fs.uploads c.uploadID (c.partName md5) c.data),
      { c with pc := .stat }, true)
  | .stat =>
    let present := ((o.fs.uploads.lookup c.uploadID).bind (·.parts.lookup (c.partName md5))).isSome
    some (o, { c with pc := .returned (present && !out.isFail) }, false)
  | .returned _ => none

end Put

/-! ## `AbortMultipartUpload` and the stale-upload cleanup -/

/-- Where an `AbortMultipartUpload` call stands. -/
inductive AbortPc where
  | start
  /-- `delete(fs.appendFileMap, uploadID)` -/
  | mapDelete
  /-- `fsStatFile(uploadIDDir/fs.json)` -/
  | stat
  /-- `fsRemoveAll(uploadIDDir)`, whose error is ignored -/
  | removeAll
  | returned (ok : Bool)
  deriving DecidableEq, Repr

/-- An `AbortMultipartUpload(bucket, object, uploadID)` call. -/
structure AbortCall where
  uploadID : String
  pc : AbortPc
  deriving DecidableEq, Repr

/-- One step of `AbortMultipartUpload` (lines 637-664). -/
def abortStep (o : FSObjects) (c : AbortCall) (out : Outcome) : Option (FSObjects × AbortCall) :=
  match c.pc with
  | .start =>
    if out.isFail then some (o, { c with pc := .returned false })
    else some (o, { c with pc := .mapDelete })
  | .mapDelete =>
    some ({ o with appendFileMap := Function.update o.appendFileMap c.uploadID none },
      { c with pc := .stat })
  | .stat =>
    if out.isFail || !hasUpload o c.uploadID then some (o, { c with pc := .returned false })
    else some (o, { c with pc := .removeAll })
  | .removeAll =>
    some (o.withUploads (removeAll o.fs.uploads c.uploadID out.removeAllResult),
      { c with pc := .returned true })
  | .returned _ => none

/-- One removal of `cleanupStaleMultipartUploads` (lines 686-696): an expired upload-id
directory, unless `fsStatDir` fails, goes to `fsRemoveAll`. -/
def cleanupStep (o : FSObjects) (uploadID : String) (out : Outcome) : FSObjects :=
  if out.isFail || (o.fs.uploads.lookup uploadID).isNone then o
  else o.withUploads (removeAll o.fs.uploads uploadID out.removeAllResult)

/-! ## `backgroundAppend` as a goroutine -/

/-- Where a `backgroundAppend` goroutine stands. -/
inductive BgPc where
  | enter
  /-- holding, or waiting for, the mutex of record `p` -/
  | run (p : Nat)
  | returned
  deriving DecidableEq, Repr

/-- One step of a `backgroundAppend(bucket, object, uploadID)` goroutine. The part under the
record's mutex runs as one step. -/
def bgStep (o : FSObjects) (uploadID : String) (pc : BgPc) (out : Outcome) :
    Option (FSObjects × BgPc) :=
  match pc with
  | .enter =>
    let r := backgroundAppendEnter o uploadID
    some (r.1, .run r.2)
  | .run p =>
    if p ∈ o.locked then none
    else some (backgroundAppendRun o uploadID p out.bgFaults, .returned)
  | .returned => none

/-! ## The server -/

/-- A call in progress. -/
inductive Thread where
  | new (c : NewCall)
  | put (c : PutCall)
  | complete (c : CompleteCall)
  | abort (c : AbortCall)
  | bg (uploadID : String) (pc : BgPc)
  /-- a removal of the stale-upload cleanup, `done` once it has run -/
  | cleanup (uploadID : String) (done : Bool)
  deriving DecidableEq, Repr

/-- The thread is a call that has not taken a step. -/
def Thread.started : Thread → Bool
  | .new c => c.pc = .start
  | .put c => c.pc = .start
  | .complete c => c.pc = .start
  | .abort c => c.pc = .start
  | .bg _ pc => pc = .enter
  | .cleanup _ done => !done

/-- The call has returned. -/
def Thread.returned : Thread → Bool
  | .new c => match c.pc with
    | .returned _ => true
    | _ => false
  | .put c => match c.pc with
    | .returned _ => true
    | _ => false
  | .complete c => match c.pc with
    | .failed _ | .completed _ | .panicked => true
    | _ => false
  | .abort c => match c.pc with
    | .returned _ => true
    | _ => false
  | .bg _ pc => pc = .returned
  | .cleanup _ done => done

/-- The calls in progress and the state they share. -/
structure Server where
  o : FSObjects
  threads : List Thread

section Run

variable (md5 : Bytes → String) (completeMD5 : List CompletePart → Option String)

/-- One step of a thread: the new state, the thread, and the goroutine it spawns, if any. -/
def Thread.step (o : FSObjects) : Thread → Outcome → Option (FSObjects × Thread × Option Thread)
  | .new c, out => (newStep o c out).map fun r => (r.1, .new r.2, none)
  | .put c, out => (putStep md5 o c out).map fun r =>
      (r.1, .put r.2.1, if r.2.2 then some (.bg c.uploadID .enter) else none)
  | .complete c, out => (completeStep completeMD5 o c out).map fun r => (r.1, .complete r.2, none)
  | .abort c, out => (abortStep o c out).map fun r => (r.1, .abort r.2, none)
  | .bg u pc, out => (bgStep o u pc out).map fun r => (r.1, .bg u r.2, none)
  | .cleanup u false, out => some (cleanupStep o u out, .cleanup u true, none)
  | .cleanup _ true, _ => none

/-- A step of thread `i`; a spawned goroutine joins the end of the list. -/
def Server.step (s : Server) (i : Nat) (out : Outcome) : Option Server := do
  let t ← s.threads[i]?
  let r ← t.step md5 completeMD5 s.o out
  pure ⟨r.1, s.threads.set i r.2.1 ++ r.2.2.toList⟩

/-- A run: steps of the given threads with the given outcomes, in order. -/
def Server.run : Server → List (Nat × Outcome) → Option Server
  | s, [] => some s
  | s, (i, out) :: es => (s.step md5 completeMD5 i out).bind fun s' => s'.run es

/-- A call run alone: each step takes the next outcome, until the call cannot step or the
outcomes run out. The goroutines it spawns are left out; they are calls of their own. -/
def Thread.runAlone (o : FSObjects) (t : Thread) : List Outcome → FSObjects × Thread
  | [] => (o, t)
  | out :: outs =>
    match t.step md5 completeMD5 o out with
    | some r => Thread.runAlone r.1 r.2.1 outs
    | none => (o, t)

/-- The states a sequence of calls reaches from `o₀`, each call run alone from its start until
it returns, on outcomes that `allowed` admits for it. -/
inductive SeqReach (allowed : Thread → Outcome → Bool) (o₀ : FSObjects) : FSObjects → Prop where
  | init : SeqReach allowed o₀ o₀
  | call {o o' : FSObjects} {t t' : Thread} {outs : List Outcome} :
      SeqReach allowed o₀ o → t.started → (∀ out ∈ outs, allowed t out) →
      t.runAlone md5 completeMD5 o outs = (o', t') → t'.returned → SeqReach allowed o₀ o'

end Run

/-- `AbortMultipartUpload(u)` deletes `u` from `appendFileMap` between the `backgroundAppend`
call of `CompleteMultipartUpload(u, [(1, e)])` and the call's own map section. The call finds no
record, takes the fallback, and reaches `fsRemoveFile(file.filePath)` with `file == nil`. -/
theorem complete_after_abort_dereferences_nil_record :
    ∃ s, Server.run (fun _ => "e") (fun _ => some "m")
        ⟨singlePartUpload, [.complete (CompleteCall.init "u" [⟨1, "e"⟩]), .abort ⟨"u", .start⟩]⟩
        [(0, .ok), (0, .ok), (0, .ok), (1, .ok), (1, .ok), (0, .ok), (0, .ok), (0, .ok)] = some s ∧
      ∃ c, s.threads[0]? = some (.complete c) ∧ c.file = none ∧ c.pc = .panicked :=
  ⟨_, rfl, _, rfl, rfl, rfl⟩

/-- Two histories that end with every call returned, one of them successfully, and every
spawned `backgroundAppend` finished. In the first, `PutObjectPart(u, 1)` runs, its goroutine
creates a record and appends part 1 to `u.1`, and `AbortMultipartUpload(u)` succeeds: it
deletes the record from the map but nothing removes its file. In the second, the goroutine runs
only after `CompleteMultipartUpload(u, [(1, e)])` has succeeded, and creates a new record. -/
theorem multipart_success_leaves_record_or_append_file :
    (∃ s, Server.run (fun _ => "e") (fun _ => some "m")
        ⟨singlePartUpload, [.put ⟨"u", 1, [1, 2], .start⟩, .abort ⟨"u", .start⟩]⟩
        [(0, .ok), (0, .ok), (0, .ok), (0, .ok), (2, .ok), (2, .ok),
          (1, .ok), (1, .ok), (1, .ok), (1, .ok)] = some s ∧
      s.threads = [.put ⟨"u", 1, [1, 2], .returned true⟩, .abort ⟨"u", .returned true⟩,
        .bg "u" .returned] ∧
      s.o.fs.tmp.lookup (.append "u" 1) = some [1, 2]) ∧
    (∃ s, Server.run (fun _ => "e") (fun _ => some "m")
        ⟨singlePartUpload, [.put ⟨"u", 1, [1, 2], .start⟩,
          .complete (CompleteCall.init "u" [⟨1, "e"⟩])]⟩
        ([(0, .ok), (0, .ok), (0, .ok), (0, .ok)] ++ List.replicate 12 (1, .ok) ++
          [(2, .ok), (2, .ok)]) = some s ∧
      (∃ c, s.threads = [.put ⟨"u", 1, [1, 2], .returned true⟩, .complete c, .bg "u" .returned] ∧
        c.pc = .completed ⟨⟨[("etag", "m")]⟩, 2⟩) ∧
      s.o.appendFileMap "u" = some 1) :=
  ⟨⟨_, rfl, rfl, rfl⟩, ⟨_, rfl, ⟨_, rfl, rfl⟩, rfl⟩⟩

end Minio.Multipart.Calls
