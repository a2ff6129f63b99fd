import Minio.Multipart.Complete
/-!
# What a failed `CompleteMultipartUpload` leaves behind

The call writes the object's `fs.json` in place before it renames the data file: under the
object's lock it opens (and if needed creates) `fs.json`, reads the upload's metadata, and
truncates and rewrites `fs.json`, and only then renames the data file over the object; after
the rename it removes the upload-id directory and stats the object. So an error before the
`fs.json` is opened leaves the object, its `fs.json` and every upload-id directory as they
were; an error from the metadata read or write or from the rename leaves the data and the
directories, but not `fs.json`; and an error from the final stat comes after the commit.
-/

namespace Minio.Multipart.CompleteFailure

open Minio.Multipart.PartFile Minio.Multipart.State Minio.Multipart.BackgroundAppend
  Minio.Multipart.Complete

/-- The call has renamed its data file over the object: it is at or past `removeAll`. -/
def dataReplaced : CompletePc → Bool
  | .removeAll | .stat | .completed _ | .failed (.fs .statObject) => true
  | _ => false

/-- The call has opened the object's `fs.json`: it is at or past `readMeta`. -/
def metaOpened : CompletePc → Bool
  | .readMeta | .writeMeta | .rename | .removeAll | .stat | .completed _ => true
  | .failed (.fs .readMeta) | .failed (.fs .writeMeta) | .failed (.fs .rename)
  | .failed (.fs .statObject) => true
  | _ => false

theorem dataReplaced_failed (e : CompleteErr) :
    dataReplaced (.failed e) = decide (e = .fs .statObject) := by
  rcases e with _ | _ | _ | _ | _ | _ | (_ | _ | _ | _ | _ | _) <;> rfl

theorem metaOpened_failed (e : CompleteErr) :
    metaOpened (.failed e) = decide (e ∈ [.fs .readMeta, .fs .writeMeta, .fs .rename,
      .fs .statObject]) := by
  rcases e with _ | _ | _ | _ | _ | _ | (_ | _ | _ | _ | _ | _) <;> rfl

section Frame

variable (completeMD5 : List CompletePart → Option String)

/-- What one step of the call can do to the object and the upload-id directories: the data
file and the directories change only on the way into `dataReplaced` states, `fs.json` only on
the way into `metaOpened` ones, and neither kind of state is ever left. -/
theorem completeStep_frame {o o' : FSObjects} {c c' : CompleteCall} {out : Outcome}
    (h : completeStep completeMD5 o c out = some (o', c')) :
    (metaOpened c.pc → metaOpened c'.pc) ∧ (dataReplaced c.pc → dataReplaced c'.pc) ∧
    (dataReplaced c'.pc = false → o'.fs.object = o.fs.object ∧ o'.fs.uploads = o.fs.uploads) ∧
    (metaOpened c'.pc = false → o'.fs.objectMeta = o.fs.objectMeta) := by
  unfold completeStep at h
  dsimp only at h
  split at h <;> (repeat' split at h) <;>
    (try simp only [Option.some.injEq, Prod.mk.injEq, reduceCtorEq] at h) <;>
    (try obtain ⟨rfl, rfl⟩ := h) <;> simp_all [dataReplaced, metaOpened]

/-- What the call has not yet touched is as it was in `o₀`. -/
def Untouched (o₀ o : FSObjects) (c : CompleteCall) : Prop :=
  (dataReplaced c.pc = false → o.fs.object = o₀.fs.object ∧ o.fs.uploads = o₀.fs.uploads) ∧
  (metaOpened c.pc = false → o.fs.objectMeta = o₀.fs.objectMeta)

theorem Untouched.step {o₀ o o' : FSObjects} {c c' : CompleteCall} {out : Outcome}
    (hu : Untouched o₀ o c) (h : completeStep completeMD5 o c out = some (o', c')) :
    Untouched o₀ o' c' := by
  obtain ⟨hm, hd, hdata, hmeta⟩ := completeStep_frame completeMD5 h
  refine ⟨fun h' => ?_, fun h' => ?_⟩
  · have hc : dataReplaced c.pc = false := by
      cases hp : dataReplaced c.pc
      · rfl
      · simp [hd hp] at h'
    rw [(hdata h').1, (hdata h').2]
    exact hu.1 hc
  · have hc : metaOpened c.pc = false := by
      cases hp : metaOpened c.pc
      · rfl
      · simp [hm hp] at h'
    rw [hmeta h']
    exact hu.2 hc

theorem Untouched.run {o₀ o : FSObjects} {c : CompleteCall} (outs : List Outcome)
    (hu : Untouched o₀ o c) :
    Untouched o₀ (runComplete completeMD5 o c outs).1 (runComplete completeMD5 o c outs).2 := by
  induction outs generalizing o c with
  | nil => exact hu
  | cons out outs ih =>
    unfold runComplete
    split
    · exact ih (hu.step completeMD5 ‹_›)
    · exact hu

/-- A call that returns an error leaves the object's data file and every upload-id directory as
they were, unless the error comes from the final `fsStatFile`, after the commit; it leaves the
object's `fs.json` as it was, unless the error comes from the metadata read, the metadata
write, the data rename or that final stat. -/
theorem complete_error_leaves_object_before_commit (o o' : FSObjects) (c' : CompleteCall)
    (uploadID : String) (parts : List CompletePart) (outs : List Outcome) (e : CompleteErr)
    (hrun : runComplete completeMD5 o (CompleteCall.init uploadID parts) outs = (o', c'))
    (h : c'.pc = .failed e) :
    (e ≠ .fs .statObject → o'.fs.object = o.fs.object ∧ o'.fs.uploads = o.fs.uploads) ∧
    (e ∉ [.fs .readMeta, .fs .writeMeta, .fs .rename, .fs .statObject] →
      o'.fs.objectMeta = o.fs.objectMeta) := by
  have hu := Untouched.run completeMD5 outs
    (⟨fun _ => ⟨rfl, rfl⟩, fun _ => rfl⟩ : Untouched o o (CompleteCall.init uploadID parts))
  rw [hrun, Untouched, h, dataReplaced_failed, metaOpened_failed] at hu
  exact ⟨fun he => hu.1 (decide_eq_false he), fun he => hu.2 (decide_eq_false he)⟩

end Frame

/-- The data rename of `CompleteMultipartUpload(u, [(1, e)])` on `singlePartUpload` fails: the
object's data file and the upload-id directory are as they were. -/
theorem complete_error_at_rename_keeps_data :
    ∃ o c, runComplete (fun _ => some "m") singlePartUpload (CompleteCall.init "u" [⟨1, "e"⟩])
        (List.replicate 9 .ok ++ [.fail]) = (o, c) ∧
      c.pc = .failed (.fs .rename) ∧ o.fs.object = singlePartUpload.fs.object ∧
      o.fs.uploads = singlePartUpload.fs.uploads := by
  rcases hr : runComplete (fun _ => some "m") singlePartUpload (CompleteCall.init "u" [⟨1, "e"⟩])
    (List.replicate 9 .ok ++ [.fail]) with ⟨o, c⟩
  have hpc : c.pc = .failed (.fs .rename) := by
    rw [← show (runComplete _ _ _ _).2 = c from congrArg Prod.snd hr]; decide
  exact ⟨o, c, hr, hpc,
    (complete_error_leaves_object_before_commit _ _ _ _ _ _ _ _ hr hpc).1 (by decide)⟩

/-- `CompleteMultipartUpload(u, [(1, e)])` on `singlePartUpload`, where the object does not
exist. When the data rename fails, the call returns an error but the object's `fs.json` now
exists and holds the new metadata. When the final stat fails, the call returns an error after
the data file has been renamed into place and the upload-id directory removed. -/
theorem complete_error_after_meta_write_or_commit :
    singlePartUpload.fs.object = none ∧ singlePartUpload.fs.objectMeta = none ∧
    (∃ o c, runComplete (fun _ => some "m") singlePartUpload (CompleteCall.init "u" [⟨1, "e"⟩])
        (List.replicate 9 .ok ++ [.fail]) = (o, c) ∧
      c.pc = .failed (.fs .rename) ∧ o.fs.objectMeta = some (.json ⟨[("etag", "m")]⟩)) ∧
    (∃ o c, runComplete (fun _ => some "m") singlePartUpload (CompleteCall.init "u" [⟨1, "e"⟩])
        (List.replicate 11 .ok ++ [.fail]) = (o, c) ∧
      c.pc = .failed (.fs .statObject) ∧ o.fs.object = some [1, 2] ∧
      (o.fs.uploads.lookup "u").isNone) :=
  ⟨rfl, rfl, ⟨_, _, rfl, by decide, by decide⟩, ⟨_, _, rfl, by decide, by decide, by decide⟩⟩

end Minio.Multipart.CompleteFailure
