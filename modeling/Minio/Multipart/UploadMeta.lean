import Minio.Multipart.Calls
import Minio.Multipart.ListUploads
/-!
# Every upload-id directory keeps its `fs.json`

`ListMultipartUploads` stats `fs.json` in every upload-id directory of the object and fails on
the first that lacks it. Over a sequence of calls, each run alone from its start until it
returns, a directory ends up without `fs.json` in two ways: `NewMultipartUpload`'s
`ioutil.WriteFile` fails without creating the file after `mkdirAll` has made the directory, or
an `fsRemoveAll` of the directory (by `AbortMultipartUpload`, `CompleteMultipartUpload` or the
stale-upload cleanup, which all ignore its error) stops after deleting `fs.json`. On every
other outcome each call keeps an `fs.json` in every directory.
-/

namespace Minio.Multipart.UploadMeta

open Minio.Multipart.PartFile Minio.Multipart.State Minio.Multipart.BackgroundAppend
  Minio.Multipart.Complete Minio.Multipart.Calls

/-- Every upload-id directory holds an `fs.json`. -/
def AllHaveMeta (ups : AList fun _ : String => UploadDir) : Prop :=
  ∀ u d, ups.lookup u = some d → d.fsJson.isSome

/-- The stat loop of `ListMultipartUploads` (`ListUploads.statUploads`, lines 149-163) over the
upload-id directories as `readDir` lists them, with a final `/`: their ids, or an error
(`none`) at the first whose `fs.json` cannot be stat'ed. The model keeps no modification time,
and the loop's outcome does not depend on one. -/
def listMultipartUploads (o : FSObjects) : Option (List String) :=
  (ListUploads.statUploads (fun u => ((o.fs.uploads.lookup u).bind (·.fsJson)).map fun _ => 0) ""
    (o.fs.uploads.keys.map (· ++ "/"))).toOption.map (List.map (·.uploadID))

theorem listMultipartUploads_of_allHaveMeta {o : FSObjects} (h : AllHaveMeta o.fs.uploads) :
    listMultipartUploads o = some o.fs.uploads.keys := by
  have key : ∀ ks : List String, (∀ u ∈ ks, u ∈ o.fs.uploads) →
      ListUploads.statUploads (fun u => ((o.fs.uploads.lookup u).bind (·.fsJson)).map fun _ => 0)
        "" (ks.map (· ++ "/")) = .ok (ks.map fun u => ⟨"", u, 0⟩) := by
    intro ks hks
    induction ks with
    | nil => rfl
    | cons u ks ih =>
      obtain ⟨d, hd⟩ := Option.isSome_iff_exists.mp
        (AList.lookup_isSome.mpr (hks u (List.mem_cons_self u ks)))
      obtain ⟨m, hm⟩ := Option.isSome_iff_exists.mp (h u d hd)
      unfold ListUploads.statUploads at ih ⊢
      rw [List.map_cons, List.mapM_cons, ih fun v hv => hks v (List.mem_cons_of_mem u hv)]
      dsimp only
      rw [ListUploads.trimSlash_append_slash, hd]
      simp only [hm, Option.some_bind, Option.map_some']
      rfl
  rw [listMultipartUploads, key _ fun u hu => AList.mem_keys.mp hu]
  simp [Except.toOption, Function.comp_def]

/-! ## The file operations -/

/-- Writing upload `u`'s directory with an `fs.json` leaves every directory with one, when every
other directory already had one. -/
theorem allHaveMeta_insert {ups : AList fun _ : String => UploadDir} {u : String} {d : UploadDir}
    (h : ∀ v e, ups.lookup v = some e → e.fsJson.isSome ∨ v = u) (hd : d.fsJson.isSome) :
    AllHaveMeta (ups.insert u d) := by
  intro v e he
  by_cases hv : v = u
  · subst hv
    simp only [AList.lookup_insert, Option.some.injEq] at he
    exact he ▸ hd
  · rw [AList.lookup_insert_ne hv] at he
    exact (h v e he).resolve_right hv

theorem removeAll_allHaveMeta {ups : AList fun _ : String => UploadDir} {r : RemoveAllResult}
    (h : AllHaveMeta ups) (hr : ∀ keep, r ≠ .stopped false keep) (uploadID : String) :
    AllHaveMeta (removeAll ups uploadID r) := by
  cases r with
  | ok =>
    intro u d hd
    by_cases hu : u = uploadID
    · subst hu; simp [removeAll, AList.lookup_erase] at hd
    · exact h u d (by simpa [removeAll, AList.lookup_erase_ne hu] using hd)
  | stopped keepMeta keep =>
    cases keepMeta
    · exact absurd rfl (hr keep)
    simp only [removeAll]
    split
    · exact h
    · rename_i d₀ h₀
      exact allHaveMeta_insert (fun v e he => .inl (h v e he)) (by simpa using h _ _ h₀)

theorem renamePart_allHaveMeta {o : FSObjects} {uploadID name : String} {data : Bytes}
    (h : AllHaveMeta o.fs.uploads) (hup : hasUpload o uploadID) :
    AllHaveMeta (renamePart o.fs.uploads uploadID name data) := by
  obtain ⟨d, hd, hm⟩ : ∃ d, o.fs.uploads.lookup uploadID = some d ∧ d.fsJson.isSome := by
    unfold hasUpload at hup
    cases hd : o.fs.uploads.lookup uploadID <;> simp_all
  simp only [renamePart, hd, Option.getD_some]
  exact allHaveMeta_insert (fun v e he => .inl (h v e he)) hm

/-! ## Calls run alone -/

/-- The call is a `NewMultipartUpload`. -/
def isNewCall : Thread → Bool
  | .new _ => true
  | _ => false

/-- The outcomes under which no directory loses its `fs.json`: `NewMultipartUpload`'s write
leaves a file, and no `fsRemoveAll` stops after deleting `fs.json`. -/
def keepsMeta (t : Thread) : Outcome → Bool
  | .writeFailed none => !isNewCall t
  | .removeAll (.stopped false _) => false
  | _ => true

/-- What a call run alone keeps while it runs: every directory has an `fs.json`, except the one
a `NewMultipartUpload` between `mkdirAll` and its write has made, and a `PutObjectPart` past its
check still has its upload. -/
def ThreadOk (o : FSObjects) : Thread → Prop
  | .new ⟨_, uploadID, .writeFile⟩ =>
    ∀ u d, o.fs.uploads.lookup u = some d → d.fsJson.isSome ∨ u = uploadID
  | .put c => AllHaveMeta o.fs.uploads ∧
      (c.pc = .createFile ∨ c.pc = .rename → hasUpload o c.uploadID)
  | _ => AllHaveMeta o.fs.uploads

theorem removeAllResult_ne_of_keepsMeta {t : Thread} {out : Outcome}
    (h : keepsMeta t out) : ∀ keep, out.removeAllResult ≠ .stopped false keep := by
  intro keep hk
  cases out <;> simp_all [Outcome.removeAllResult, keepsMeta]

section Step

variable (md5 : Bytes → String) (completeMD5 : List CompletePart → Option String)

theorem ThreadOk.new {o o' : FSObjects} {c : NewCall} {t' : Thread} {out : Outcome}
    {sp : Option Thread} (hi : ThreadOk o (.new c)) (ha : keepsMeta (.new c) out)
    (h : Thread.step md5 completeMD5 o (.new c) out = some (o', t', sp)) : ThreadOk o' t' := by
  obtain ⟨meta, uploadID, pc⟩ := c
  simp only [Thread.step, Option.map_eq_some', Prod.mk.injEq] at h
  obtain ⟨⟨o₁, c₁⟩, hs, rfl, rfl, -⟩ := h
  cases pc with
  | start =>
    simp only [newStep] at hs; split at hs <;> (cases hs; exact hi)
  | mkdirAll =>
    simp only [newStep] at hs
    split at hs
    · cases hs; exact hi
    · cases hs
      intro u d hd
      by_cases hu : u = uploadID
      · exact .inr hu
      · refine .inl (hi u d ?_)
        simp only [FSObjects.withUploads, mkdirAll] at hd
        split at hd
        · exact hd
        · rwa [AList.lookup_insert_ne hu] at hd
  | writeFile =>
    simp only [newStep] at hs
    split at hs
    · cases hs
      rename_i d left _
      have hl : left.isSome := by cases left <;> simp_all [keepsMeta, isNewCall]
      exact allHaveMeta_insert hi (by simp [hl])
    · cases hs
      exact allHaveMeta_insert hi rfl
    · cases hs
      intro u d hd
      refine (hi u d hd).resolve_right fun hu => ?_
      subst hu; simp_all
  | returned ok => simp [newStep] at hs

theorem ThreadOk.put {o o' : FSObjects} {c : PutCall} {t' : Thread} {out : Outcome}
    {sp : Option Thread} (hi : ThreadOk o (.put c))
    (h : Thread.step md5 completeMD5 o (.put c) out = some (o', t', sp)) : ThreadOk o' t' := by
  simp only [Thread.step, Option.map_eq_some', Prod.mk.injEq] at h
  obtain ⟨⟨o₁, c₁, b⟩, hs, rfl, rfl, -⟩ := h
  obtain ⟨hall, hup⟩ := hi
  cases hpc : c.pc with
  | start =>
    simp only [putStep, hpc] at hs
    split at hs <;> cases hs
    · exact ⟨hall, by simp⟩
    · exact ⟨hall, fun _ => by simp_all⟩
  | createFile =>
    simp only [putStep, hpc] at hs
    have := hup (.inl hpc)
    split at hs <;> cases hs
    · exact ⟨hall, by simp⟩
    · exact ⟨hall, fun _ => this⟩
  | rename =>
    simp only [putStep, hpc] at hs
    split at hs <;> cases hs
    · exact ⟨hall, by simp⟩
    · exact ⟨renamePart_allHaveMeta hall (hup (.inr hpc)), by simp⟩
  | stat =>
    simp only [putStep, hpc, Option.some.injEq, Prod.mk.injEq] at hs
    obtain ⟨rfl, rfl, -⟩ := hs
    exact ⟨hall, by simp⟩
  | returned ok => simp [putStep, hpc] at hs

theorem ThreadOk.complete {o o' : FSObjects} {c : CompleteCall} {t' : Thread} {out : Outcome}
    {sp : Option Thread} (hi : ThreadOk o (.complete c)) (ha : keepsMeta (.complete c) out)
    (h : Thread.step md5 completeMD5 o (.complete c) out = some (o', t', sp)) :
    ThreadOk o' t' := by
  simp only [Thread.step, Option.map_eq_some', Prod.mk.injEq] at h
  obtain ⟨⟨o₁, c₁⟩, hs, rfl, rfl, -⟩ := h
  show AllHaveMeta _
  rcases completeStep_uploads completeMD5 hs with hu | hu <;> rw [hu]
  · exact hi
  · exact removeAll_allHaveMeta hi (removeAllResult_ne_of_keepsMeta ha) _

theorem ThreadOk.abort {o o' : FSObjects} {c : AbortCall} {t' : Thread} {out : Outcome}
    {sp : Option Thread} (hi : ThreadOk o (.abort c)) (ha : keepsMeta (.abort c) out)
    (h : Thread.step md5 completeMD5 o (.abort c) out = some (o', t', sp)) : ThreadOk o' t' := by
  simp only [Thread.step, Option.map_eq_some', Prod.mk.injEq] at h
  obtain ⟨⟨o₁, c₁⟩, hs, rfl, rfl, -⟩ := h
  show AllHaveMeta _
  unfold abortStep at hs
  split at hs <;> (try split at hs) <;> cases hs
  all_goals first
    | exact hi
    | exact removeAll_allHaveMeta hi (removeAllResult_ne_of_keepsMeta ha) _

theorem ThreadOk.bg {o o' : FSObjects} {u : String} {pc : BgPc} {t' : Thread} {out : Outcome}
    {sp : Option Thread} (hi : ThreadOk o (.bg u pc))
    (h : Thread.step md5 completeMD5 o (.bg u pc) out = some (o', t', sp)) : ThreadOk o' t' := by
  simp only [Thread.step, Option.map_eq_some', Prod.mk.injEq] at h
  obtain ⟨⟨o₁, pc₁⟩, hs, rfl, rfl, -⟩ := h
  show AllHaveMeta _
  unfold bgStep at hs
  split at hs <;> (try split at hs) <;> cases hs
  · rw [backgroundAppendEnter_fs]; exact hi
  · rw [backgroundAppendRun_uploads]; exact hi

theorem ThreadOk.cleanup {o o' : FSObjects} {u : String} {done : Bool} {t' : Thread}
    {out : Outcome} {sp : Option Thread} (hi : ThreadOk o (.cleanup u done))
    (ha : keepsMeta (.cleanup u done) out)
    (h : Thread.step md5 completeMD5 o (.cleanup u done) out = some (o', t', sp)) :
    ThreadOk o' t' := by
  cases done
  · simp only [Thread.step, Option.some.injEq, Prod.mk.injEq] at h
    obtain ⟨rfl, rfl, -⟩ := h
    show AllHaveMeta _
    unfold cleanupStep
    split
    · exact hi
    · exact removeAll_allHaveMeta hi (removeAllResult_ne_of_keepsMeta ha) _
  · simp [Thread.step] at h

theorem ThreadOk.step {o o' : FSObjects} {t t' : Thread} {out : Outcome} {sp : Option Thread}
    (hi : ThreadOk o t) (ha : keepsMeta t out)
    (h : t.step md5 completeMD5 o out = some (o', t', sp)) : ThreadOk o' t' := by
  cases t with
  | new c => exact hi.new md5 completeMD5 ha h
  | put c => exact hi.put md5 completeMD5 h
  | complete c => exact hi.complete md5 completeMD5 ha h
  | abort c => exact hi.abort md5 completeMD5 ha h
  | bg u pc => exact hi.bg md5 completeMD5 h
  | cleanup u done => exact hi.cleanup md5 completeMD5 ha h

/-- A step keeps the kind of call, and with it the outcomes `keepsMeta` admits. -/
theorem keepsMeta_step {o o' : FSObjects} {t t' : Thread} {out : Outcome} {sp : Option Thread}
    (h : t.step md5 completeMD5 o out = some (o', t', sp)) : keepsMeta t' = keepsMeta t := by
  have : isNewCall t' = isNewCall t := by
    cases t <;> simp only [Thread.step, Option.map_eq_some', Prod.mk.injEq] at h
    case cleanup u done =>
      cases done <;> simp only [Thread.step, Option.some.injEq, Prod.mk.injEq, reduceCtorEq] at h
      obtain ⟨-, rfl, -⟩ := h; rfl
    all_goals obtain ⟨_, -, -, rfl, -⟩ := h; rfl
  unfold keepsMeta; rw [this]

theorem ThreadOk.runAlone {o : FSObjects} {t : Thread} {outs : List Outcome}
    (hi : ThreadOk o t) (ha : ∀ out ∈ outs, keepsMeta t out) :
    ThreadOk (t.runAlone md5 completeMD5 o outs).1 (t.runAlone md5 completeMD5 o outs).2 := by
  induction outs generalizing o t with
  | nil => exact hi
  | cons out outs ih =>
    unfold Thread.runAlone
    split
    · rename_i r hr
      refine ih (hi.step md5 completeMD5 (ha out (List.mem_cons_self _ _)) hr) fun out' h' => ?_
      rw [keepsMeta_step md5 completeMD5 hr]
      exact ha out' (List.mem_cons_of_mem _ h')
    · exact hi

end Step

theorem ThreadOk.of_started {o : FSObjects} {t : Thread} (ht : t.started)
    (h : AllHaveMeta o.fs.uploads) : ThreadOk o t := by
  cases t with
  | new c => obtain ⟨_, _, pc⟩ := c; cases pc <;> simp_all [Thread.started, ThreadOk]
  | put c => exact ⟨h, by simp_all [Thread.started]⟩
  | _ => exact h

theorem ThreadOk.allHaveMeta {o : FSObjects} {t : Thread} (hi : ThreadOk o t)
    (ht : t.returned) : AllHaveMeta o.fs.uploads := by
  cases t with
  | new c => obtain ⟨_, _, pc⟩ := c; cases pc <;> simp_all [Thread.returned, ThreadOk]
  | put c => exact hi.1
  | _ => exact hi

/-! ## Sequences of calls -/

/-- Over any sequence of calls, each run alone from its start until it returns, where no
`NewMultipartUpload` write leaves the directory without `fs.json` and no `fsRemoveAll` stops
after deleting one, every upload-id directory keeps its `fs.json`, and `ListMultipartUploads`
lists them all. -/
theorem uploadDirs_keep_fsJson (md5 : Bytes → String)
    (completeMD5 : List CompletePart → Option String) {o₀ o : FSObjects}
    (h₀ : AllHaveMeta o₀.fs.uploads) (h : SeqReach md5 completeMD5 keepsMeta o₀ o) :
    AllHaveMeta o.fs.uploads ∧ listMultipartUploads o = some o.fs.uploads.keys := by
  have hall : AllHaveMeta o.fs.uploads := by
    induction h with
    | init => exact h₀
    | call _ ht ha hrun hret ih =>
      have hi := (ThreadOk.of_started ht ih).runAlone md5 completeMD5 ha
      rw [hrun] at hi
      exact hi.allHaveMeta hret
  exact ⟨hall, listMultipartUploads_of_allHaveMeta hall⟩

/-- A disk with no multipart upload, no object and no append record. -/
def emptyMultipart : FSObjects where
  fs := ⟨∅, ∅, none, none⟩
  appendFileMap _ := none
  files _ := ⟨.append "" 0, []⟩
  nextFile := 0
  locked := []
  uuid := 0
  objectLocked := false

/-- One `NewMultipartUpload` on an empty disk: its upload `0` is listed. -/
theorem uploadDirs_keep_fsJson_after_new :
    ∃ o, SeqReach (fun _ => "e") (fun _ => some "m") keepsMeta emptyMultipart o ∧
      listMultipartUploads o = some ["0"] := by
  have hr : SeqReach (fun _ => "e") (fun _ => some "m") keepsMeta emptyMultipart _ :=
    .call .init (rfl : Thread.started (.new ⟨⟨[]⟩, "", .start⟩))
      (by decide : ∀ out ∈ [Outcome.ok, .ok, .ok], keepsMeta (.new ⟨⟨[]⟩, "", .start⟩) out)
      rfl rfl
  exact ⟨_, hr, (uploadDirs_keep_fsJson _ _ (fun _ _ h => by simp [emptyMultipart] at h) hr).2⟩

/-- Two sequences from an empty disk that leave upload `0` without `fs.json`, so that
`ListMultipartUploads` fails: a `NewMultipartUpload` whose `ioutil.WriteFile` fails to create
the file after `mkdirAll`, and a `NewMultipartUpload` followed by an `AbortMultipartUpload`
whose `fsRemoveAll` stops after deleting `fs.json`. -/
theorem upload_dir_left_without_fsJson :
    (∃ o, SeqReach (fun _ => "e") (fun _ => some "m") (fun _ _ => true) emptyMultipart o ∧
      listMultipartUploads o = none) ∧
    (∃ o, SeqReach (fun _ => "e") (fun _ => some "m") (fun _ _ => true) emptyMultipart o ∧
      listMultipartUploads o = none) := by
  refine ⟨⟨_, .call .init (rfl : Thread.started (.new ⟨⟨[]⟩, "", .start⟩))
    (fun _ _ => rfl : ∀ out ∈ [Outcome.ok, .ok, .writeFailed none], true) rfl rfl, by decide⟩,
    ⟨_, .call (.call .init (rfl : Thread.started (.new ⟨⟨[]⟩, "", .start⟩))
      (fun _ _ => rfl : ∀ out ∈ [Outcome.ok, .ok, .ok], true) rfl rfl)
      (rfl : Thread.started (.abort ⟨"0", .start⟩))
      (fun _ _ => rfl : ∀ out ∈ [Outcome.ok, .ok, .ok, .removeAll (.stopped false [])], true)
      rfl rfl, by decide⟩⟩

/-- The interleaving that the sequences above leave out. `PutObjectPart(0, 1)` passes its check
that upload `0` exists; `AbortMultipartUpload(0)` then removes the whole directory; and
`PutObjectPart`'s `fsRenameFile` recreates it with the part and without `fs.json`. Every file
operation succeeds and all three calls report success, yet `ListMultipartUploads` fails. -/
theorem put_recreates_aborted_upload_dir :
    ∃ s, Server.run (fun _ => "e") (fun _ => some "m")
        ⟨emptyMultipart, [.new ⟨⟨[]⟩, "", .start⟩, .put ⟨"0", 1, [7], .start⟩, .abort ⟨"0", .start⟩]⟩
        [(0, .ok), (0, .ok), (0, .ok), (1, .ok), (1, .ok), (2, .ok), (2, .ok), (2, .ok), (2, .ok),
          (1, .ok), (1, .ok)] = some s ∧
      s.threads.take 3 = [.new ⟨⟨[]⟩, "0", .returned true⟩, .put ⟨"0", 1, [7], .returned true⟩,
        .abort ⟨"0", .returned true⟩] ∧
      listMultipartUploads s.o = none :=
  ⟨_, rfl, by decide, by decide⟩

end Minio.Multipart.UploadMeta
