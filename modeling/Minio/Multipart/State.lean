import Minio.Multipart.PartFile
import Mathlib.Data.List.AList
/-!
# The FS backend's multipart state

The part of the FS backend's disk that multipart uploads of one object touch, the in-memory
append records (`appendFileMap`), and the file operations the multipart code calls
(`readDir`, `mioutil.AppendFile`, `fsRenameFile`, `fsRemoveFile`, `fsRemoveAll`). These helpers
are not in this repository; each is modelled from its contract, with the ways it can fail as
an explicit outcome chosen by the environment. Uploads of other objects live under another
`SHA256(bucket/object)` directory and other temporary names, so one object is modelled.
-/

namespace Minio.Multipart.State

open Minio.Multipart.PartFile

/-- `fsMetaV1`, as far as the multipart code reads and writes it: the user metadata map. -/
structure FsMeta where
  meta : List (String × String)
  deriving DecidableEq, Repr

/-- The content of an `fs.json`: a whole metadata document, or other bytes (the empty file
`rwPool.Create` makes, or what a failed write truncated or wrote in part). -/
inductive MetaFile where
  | json (m : FsMeta)
  | raw (b : Bytes)
  deriving DecidableEq, Repr

/-- An upload-id directory: its `fs.json` and its part files, by name. -/
structure UploadDir where
  fsJson : Option MetaFile
  parts : AList (fun _ : String => Bytes)

/-- A name under `.minio.sys/tmp/<fsUUID>/`, built from an upload id and a `mustGetUUID`. -/
inductive TmpName where
  /-- `uploadID.uuid`: a background append file, or the fallback file of a completion -/
  | append (uploadID : String) (uuid : Nat)
  /-- `uploadID.uuid.partID`: a part `PutObjectPart` is writing -/
  | part (uploadID : String) (uuid : Nat) (partID : Int)
  deriving DecidableEq, Repr

/-- The temporary directory's files. -/
abbrev TmpDir := AList (fun _ : TmpName => Bytes)

/-- The files of one object's multipart uploads and of the object itself. -/
structure Fs where
  /-- `.minio.sys/multipart/SHA256(bucket/object)/<uploadID>/` -/
  uploads : AList (fun _ : String => UploadDir)
  /-- `.minio.sys/tmp/<fsUUID>/` -/
  tmp : TmpDir
  /-- `<bucket>/<object>` -/
  object : Option Bytes
  /-- `.minio.sys/buckets/<bucket>/<object>/fs.json` -/
  objectMeta : Option MetaFile

/-- `fsAppendFile`: an upload's background append file and the parts appended to it. -/
structure FsAppendFile where
  filePath : TmpName
  parts : List PartInfo
  deriving DecidableEq, Repr

/-- The `FSObjects` state the multipart code reads and writes. `appendFileMap` maps an upload
id to a pointer into `files`; `locked` holds the pointers whose `fsAppendFile` mutex is held;
`uuid` is the next `mustGetUUID`; `objectLocked` is the namespace write lock on the object. -/
structure FSObjects where
  fs : Fs
  appendFileMap : String → Option Nat
  files : Nat → FsAppendFile
  nextFile : Nat
  locked : List Nat
  uuid : Nat
  objectLocked : Bool

/-- The state with the upload-id directories replaced. -/
def FSObjects.withUploads (o : FSObjects) (ups : AList fun _ : String => UploadDir) :
    FSObjects :=
  { o with fs := { o.fs with uploads := ups } }

/-- `mustGetUUID`. -/
def FSObjects.mustGetUUID (o : FSObjects) : Nat × FSObjects :=
  (o.uuid, { o with uuid := o.uuid + 1 })

/-! ## File operations -/

/-- What one `mioutil.AppendFile(dst, src)` call does. -/
inductive AppendResult where
  /-- the whole source is appended -/
  | ok
  /-- opening the destination fails: nothing changes -/
  | openFailed
  /-- the copy fails after creating the destination and writing `k` bytes of the source -/
  | failedAfter (k : Nat)
  deriving DecidableEq, Repr

/-- `mioutil.AppendFile(dst, src)` with `dst` under the temporary directory, given the source's
bytes. Returns whether it succeeded. -/
def appendFile (tmp : TmpDir) (dst : TmpName) (src : Bytes) : AppendResult → Bool × TmpDir
  | .ok => (true, tmp.insert dst ((tmp.lookup dst).getD [] ++ src))
  | .openFailed => (false, tmp)
  | .failedAfter k => (false, tmp.insert dst ((tmp.lookup dst).getD [] ++ src.take k))

theorem appendFile_lookup_ne (tmp : TmpDir) (dst : TmpName) (src : Bytes) (r : AppendResult)
    {fp : TmpName} (h : fp ≠ dst) : (appendFile tmp dst src r).2.lookup fp = tmp.lookup fp := by
  cases r <;> simp [appendFile, AList.lookup_insert_ne h]

/-- The entries `readDir` lists in an upload-id directory, `fs.json` included. -/
def readDir (d : UploadDir) : List String :=
  (if d.fsJson.isSome then [fsMetaJSONFile] else []) ++ d.parts.keys

/-- What one `fsRemoveAll` of an upload-id directory does; its error is ignored by callers. -/
inductive RemoveAllResult where
  | ok
  /-- the removal stops early: the directory stays with `fs.json` if `keepMeta` and the part
  files named in `keep` -/
  | stopped (keepMeta : Bool) (keep : List String)
  deriving DecidableEq, Repr

/-- `fsRemoveAll` of the upload-id directory `uploadID`. -/
def removeAll (ups : AList (fun _ : String => UploadDir)) (uploadID : String) :
    RemoveAllResult → AList (fun _ : String => UploadDir)
  | .ok => ups.erase uploadID
  | .stopped keepMeta keep =>
    match ups.lookup uploadID with
    | none => ups
    | some d =>
      ups.insert uploadID
        ⟨if keepMeta then d.fsJson else none,
          ⟨d.parts.entries.filter (·.1 ∈ keep), d.parts.nodupKeys.sublist (List.filter_sublist _)⟩⟩

theorem removeAll_lookup_ne (ups : AList fun _ : String => UploadDir) {uploadID u : String}
    (h : u ≠ uploadID) (r : RemoveAllResult) :
    (removeAll ups uploadID r).lookup u = ups.lookup u := by
  cases r with
  | ok => exact AList.lookup_erase_ne h
  | stopped keepMeta keep =>
    simp only [removeAll]
    split
    · rfl
    · exact AList.lookup_insert_ne h

end Minio.Multipart.State
