import Minio.Multipart.Calls
import Minio.Multipart.Commit
/-!
# Two `CompleteMultipartUpload` calls on one object

Two calls with different upload ids complete the same object, their steps interleaved in any
order by `Server.run`. The object's write lock covers the whole commit, from creating the
object's `fs.json` to the final stat, so one call's metadata write, rename and directory removal
never interleave with the other's. When both calls succeed, the object's data file and its
`fs.json` come from the same call: the concatenation of that call's claimed parts, and its
upload's metadata with its multipart etag.

The data half needs the append records to be sound when the calls start (`Consistent`) and
the appends of the calls' own `backgroundAppend` runs to succeed. Without the second, the fast
path can rename a file that holds a failed append's prefix after the claimed parts, and the
object's data is then no call's claimed parts, though its `fs.json` is still the committing
call's.
-/

namespace Minio.Multipart.CompletePair

open Minio.Multipart.PartFile Minio.Multipart.State Minio.Multipart.Complete
  Minio.Multipart.CompleteFailure Minio.Multipart.AppendRecord Minio.Multipart.Calls
  Minio.Multipart.Commit

/-! ## The invariant of two calls -/

section Pair

variable (completeMD5 : List CompletePart → Option String) (dA dB : UploadDir)

/-- What the object's files are while neither call is mid-commit: unless a call returned an
error after opening `fs.json`, a replaced data file is one call's whole commit. -/
def Settled (o : FSObjects) (a b : CompleteCall) : Prop :=
  spoiled a.pc ∨ spoiled b.pc ∨ (dataReplaced a.pc ∨ dataReplaced b.pc →
    (dataReplaced a.pc ∧ Committed completeMD5 dA o a) ∨
      (dataReplaced b.pc ∧ Committed completeMD5 dB o b))

/-- Two calls of different uploads on one object: each keeps its own invariant, the object's
lock is held by at most one of them, and the object's files are settled between commits. -/
structure PairOk (o : FSObjects) (a b : CompleteCall) : Prop where
  left : CallOk completeMD5 dA o a
  right : CallOk completeMD5 dB o b
  ne : a.uploadID ≠ b.uploadID
  locked : o.objectLocked = (holdsObjectLock a.pc || holdsObjectLock b.pc)
  exclusive : holdsObjectLock a.pc → holdsObjectLock b.pc = false
  settled : writing a.pc = false → writing b.pc = false → Settled completeMD5 dA dB o a b

theorem Settled.swap {o : FSObjects} {a b : CompleteCall} (h : Settled completeMD5 dA dB o a b) :
    Settled completeMD5 dB dA o b a := by
  rcases h with h | h | h
  · exact .inr (.inl h)
  · exact .inl h
  · exact .inr (.inr fun hr => (h hr.symm).symm)

/-- While the second call holds the object's lock, the first does not. -/
theorem PairOk.free_left {o : FSObjects} {a b : CompleteCall}
    (hp : PairOk completeMD5 dA dB o a b) (hb : holdsObjectLock b.pc) :
    holdsObjectLock a.pc = false := by
  cases ha : holdsObjectLock a.pc
  · rfl
  · simp [hp.exclusive ha] at hb

theorem PairOk.swap {o : FSObjects} {a b : CompleteCall} (hp : PairOk completeMD5 dA dB o a b) :
    PairOk completeMD5 dB dA o b a where
  left := hp.right
  right := hp.left
  ne := hp.ne.symm
  locked := by rw [hp.locked, Bool.or_comm]
  exclusive := hp.free_left completeMD5 dA dB
  settled hb ha := (hp.settled ha hb).swap completeMD5 dA dB

section StepLeft

variable {o o' : FSObjects} {a a' b : CompleteCall} {out : Outcome}

/-- A step of the first call keeps the object's lock held by the call past `getLock`. -/
theorem PairOk.step_locked (hp : PairOk completeMD5 dA dB o a b)
    (h : completeStep completeMD5 o a out = some (o', a')) :
    o'.objectLocked = (holdsObjectLock a'.pc || holdsObjectLock b.pc) := by
  rcases completeStep_lock completeMD5 h with ⟨-, hpc', h0, h1⟩ | ⟨ht, hun, hlk⟩ | ⟨hh, -, hl, -⟩
  · simp only [hp.locked, Bool.or_eq_false_iff] at h0
    simp [h1, hpc', holdsObjectLock]
  · have hua := hp.left.unlockObject_eq completeMD5 dA (completeStep_not_terminal completeMD5 h)
    rw [holdsObjectLock_of_terminal ht, Bool.false_or]
    cases ha : holdsObjectLock a.pc
    · rw [hun (hua.trans ha), hp.locked, ha, Bool.false_or]
    · rw [hlk (hua.trans ha) ha, hp.exclusive ha]
  · rw [hl, hh, hp.locked]

/-- A step of the first call keeps the object's lock exclusive. -/
theorem PairOk.step_exclusive (hp : PairOk completeMD5 dA dB o a b)
    (h : completeStep completeMD5 o a out = some (o', a')) :
    holdsObjectLock a'.pc → holdsObjectLock b.pc = false := by
  rcases completeStep_lock completeMD5 h with ⟨-, -, h0, -⟩ | ⟨ht, -, -⟩ | ⟨hh, -, -, -⟩
  · simp only [hp.locked, Bool.or_eq_false_iff] at h0
    exact fun _ => h0.2
  · simp [holdsObjectLock_of_terminal ht]
  · rw [hh]; exact hp.exclusive

/-- A step of the first call keeps the object's files settled: before its commit the step
leaves them alone, and the step that ends its commit leaves the call at the final stat, whose
stage is the commit. -/
theorem PairOk.step_settled (hp : PairOk completeMD5 dA dB o a b)
    (h : completeStep completeMD5 o a out = some (o', a')) :
    writing a'.pc = false → writing b.pc = false → Settled completeMD5 dA dB o' a' b := by
  intro hwa' hwb
  have hnt := completeStep_not_terminal completeMD5 h
  cases hwa : writing a.pc
  · obtain ⟨hobj', hmeta, hrep⟩ := completeStep_keeps_object completeMD5 h hwa
    have hidle := dataReplaced_of_idle hwa hnt
    rcases hp.settled hwa hwb with hs | hs | hs
    · simp [terminal_of_spoiled hs] at hnt
    · exact .inr (.inl hs)
    · refine .inr (.inr fun hr => .inr ?_)
      have hb : dataReplaced b.pc := by simpa [hrep] using hr
      obtain ⟨-, hjson, hmd5, hdata, hm⟩ := (hs (.inr hb)).resolve_left (by simp [hidle])
      exact ⟨hb, hjson, hmd5, hobj' ▸ hdata, hmeta _ hm⟩
  · rcases completeStep_leaves_writing completeMD5 h hwa hwa' with hs | ⟨hpc, hrep, hfs, ha'⟩
    · exact .inl hs
    · have hcom := hp.left.stage
      simp only [Stage, hpc] at hcom
      refine .inr (.inr fun _ => .inl ⟨hrep, ?_⟩)
      rw [ha']
      unfold Committed at hcom ⊢
      rw [hfs]
      exact hcom

/-- A step of the first call keeps the pair's invariant. The second call's invariant follows
from the frame of the step. -/
theorem PairOk.step_left (hp : PairOk completeMD5 dA dB o a b)
    (hout : ∀ r ∈ out.bgFaults.appends, r = .ok)
    (h : completeStep completeMD5 o a out = some (o', a')) :
    PairOk completeMD5 dA dB o' a' b := by
  obtain ⟨hu, -, -, -, -, -, -, hobj⟩ := completeStep_footprint completeMD5 h
  exact ⟨hp.left.step completeMD5 dA hout h,
    hp.right.frame completeMD5 dB (hp.left.frame_of_step completeMD5 dA h hp.ne.symm)
      fun hb => hobj (hp.free_left completeMD5 dA dB hb),
    hu ▸ hp.ne, hp.step_locked completeMD5 dA dB h, hp.step_exclusive completeMD5 dA dB h,
    hp.step_settled completeMD5 dA dB h⟩

end StepLeft

/-- A step of the second call keeps the pair's invariant, by symmetry. -/
theorem PairOk.step_right {o o' : FSObjects} {a b b' : CompleteCall} {out : Outcome}
    (hp : PairOk completeMD5 dA dB o a b) (hout : ∀ r ∈ out.bgFaults.appends, r = .ok)
    (h : completeStep completeMD5 o b out = some (o', b')) :
    PairOk completeMD5 dA dB o' a b' :=
  ((hp.swap completeMD5 dA dB).step_left completeMD5 dB dA hout h).swap completeMD5 dB dA

/-! ## Runs of the two calls -/

/-- Upload `u` when a call on it starts: its directory is `d`, with canonical part names; no
temporary file of it carries a uuid not handed out yet; and its append record, if any, is
sound. -/
structure Consistent (d : UploadDir) (o : FSObjects) (u : String) : Prop where
  dir : o.fs.uploads.lookup u = some d
  canonical : CanonicalNames d
  fresh : Fresh o u
  record : ∀ p, o.appendFileMap u = some p → RecordOk d o u p

theorem Consistent.callOk {d : UploadDir} {o : FSObjects} {u : String} (h : Consistent d o u)
    (parts : List CompletePart) : CallOk completeMD5 d o (CompleteCall.init u parts) :=
  ⟨h.canonical, fun _ => h.dir, h.fresh, h.record, ⟨0, rfl⟩, (fun _ hp => nomatch hp), trivial,
    (fun h => nomatch h), fun _ _ => rfl⟩

theorem PairOk.init {o : FSObjects} {uA uB : String} (hA : Consistent dA o uA)
    (hB : Consistent dB o uB) (hne : uA ≠ uB) (hfree : o.objectLocked = false)
    (partsA partsB : List CompletePart) :
    PairOk completeMD5 dA dB o (CompleteCall.init uA partsA) (CompleteCall.init uB partsB) :=
  ⟨hA.callOk completeMD5 partsA, hB.callOk completeMD5 partsB, hne, hfree, (fun h => nomatch h),
    fun _ _ => .inr (.inr fun h => by simp [CompleteCall.init, dataReplaced] at h)⟩

/-- A server step of either call keeps the pair's invariant, and the calls' claimed parts. -/
theorem PairOk.server_step {md5 : Bytes → String} {s s' : Server} {a b : CompleteCall} {i : Nat}
    {out : Outcome} (hp : PairOk completeMD5 dA dB s.o a b)
    (ht : s.threads = [.complete a, .complete b]) (hout : ∀ r ∈ out.bgFaults.appends, r = .ok)
    (h : s.step md5 completeMD5 i out = some s') :
    ∃ a' b', s'.threads = [.complete a', .complete b'] ∧ a'.parts = a.parts ∧ b'.parts = b.parts ∧
      PairOk completeMD5 dA dB s'.o a' b' := by
  rcases i with _ | _ | i <;>
    simp [Server.step, ht, Thread.step, Option.bind_eq_some, Option.map_eq_some'] at h
  · obtain ⟨_, _, _, ⟨o', a', hc, rfl, rfl, rfl⟩, rfl⟩ := h
    exact ⟨a', b, rfl, (completeStep_footprint completeMD5 hc).2.1, rfl,
      hp.step_left completeMD5 dA dB hout hc⟩
  · obtain ⟨_, _, _, ⟨o', b', hc, rfl, rfl, rfl⟩, rfl⟩ := h
    exact ⟨a, b', rfl, rfl, (completeStep_footprint completeMD5 hc).2.1,
      hp.step_right completeMD5 dA dB hout hc⟩

/-- A whole run of the two calls keeps the pair's invariant. -/
theorem PairOk.run {md5 : Bytes → String} {evs : List (Nat × Outcome)} :
    ∀ {s s' : Server} {a b : CompleteCall}, PairOk completeMD5 dA dB s.o a b →
      s.threads = [.complete a, .complete b] → (∀ e ∈ evs, ∀ r ∈ e.2.bgFaults.appends, r = .ok) →
      s.run md5 completeMD5 evs = some s' →
      ∃ a' b', s'.threads = [.complete a', .complete b'] ∧ a'.parts = a.parts ∧
        b'.parts = b.parts ∧ PairOk completeMD5 dA dB s'.o a' b' := by
  induction evs with
  | nil =>
    intro s s' a b hp ht _ h
    cases h
    exact ⟨a, b, ht, rfl, rfl, hp⟩
  | cons e evs ih =>
    intro s s' a b hp ht hout h
    obtain ⟨i, out⟩ := e
    obtain ⟨s₁, h₁, h₂⟩ := Option.bind_eq_some.mp h
    obtain ⟨a₁, b₁, ht₁, hpa, hpb, hp₁⟩ :=
      hp.server_step completeMD5 dA dB ht (hout _ (.head _)) h₁
    obtain ⟨a', b', ht', hpa', hpb', hp'⟩ := ih hp₁ ht₁ (fun e he => hout e (.tail _ he)) h₂
    exact ⟨a', b', ht', hpa'.trans hpa, hpb'.trans hpb, hp'⟩

end Pair

/-- Two `CompleteMultipartUpload` calls of different uploads on one object, from sound append
records and with every append of their `backgroundAppend` runs succeeding: when both succeed,
the object's data file and `fs.json` are one call's, its claimed parts and its upload's metadata
with its multipart etag. -/
theorem complete_pair_commits_one_call {md5 : Bytes → String}
    {completeMD5 : List CompletePart → Option String} {o₀ : FSObjects} {uA uB : String}
    {dA dB : UploadDir} {partsA partsB : List CompletePart} {evs : List (Nat × Outcome)}
    {s : Server} {a b : CompleteCall} {ia ib : ObjectInfo}
    (hA : Consistent dA o₀ uA) (hB : Consistent dB o₀ uB) (hne : uA ≠ uB)
    (hfree : o₀.objectLocked = false) (hout : ∀ e ∈ evs, ∀ r ∈ e.2.bgFaults.appends, r = .ok)
    (hrun : Server.run md5 completeMD5
      ⟨o₀, [.complete (.init uA partsA), .complete (.init uB partsB)]⟩ evs = some s)
    (hthreads : s.threads = [.complete a, .complete b])
    (hdoneA : a.pc = .completed ia) (hdoneB : b.pc = .completed ib) :
    (dA.fsJson = some (.json a.fsMeta) ∧ completeMD5 partsA = some a.s3MD5 ∧
        s.o.fs.object = some (claimedBytes dA partsA) ∧
        s.o.fs.objectMeta = some (.json (withEtag a.fsMeta a.s3MD5))) ∨
      (dB.fsJson = some (.json b.fsMeta) ∧ completeMD5 partsB = some b.s3MD5 ∧
        s.o.fs.object = some (claimedBytes dB partsB) ∧
        s.o.fs.objectMeta = some (.json (withEtag b.fsMeta b.s3MD5))) := by
  obtain ⟨a', b', ht, hpa, hpb, hp⟩ :=
    (PairOk.init completeMD5 dA dB hA hB hne hfree partsA partsB).run completeMD5 dA dB rfl hout hrun
  simp only [hthreads, List.cons.injEq, Thread.complete.injEq, and_true] at ht
  obtain ⟨rfl, rfl⟩ := ht
  rcases hp.settled (by simp [hdoneA, writing]) (by simp [hdoneB, writing]) with hs | hs | hs
  · simp [hdoneA, spoiled] at hs
  · simp [hdoneB, spoiled] at hs
  · rcases hs (.inl (by simp [hdoneA, dataReplaced])) with ⟨-, hc⟩ | ⟨-, hc⟩
    · rw [Committed, hpa] at hc; exact .inl hc
    · rw [Committed, hpb] at hc; exact .inr hc

/-! ## Two uploads of one object -/

/-- Upload `a`: metadata `k = a`, and parts 1 (`[1]`) and 2 (`[3]`). -/
def dirA : UploadDir :=
  ⟨some (.json ⟨[("k", "a")]⟩),
    ((∅ : AList fun _ : String => Bytes).insert "00001.e" [1]).insert "00002.g" [3]⟩

/-- Upload `b`: metadata `k = b`, and part 1 (`[2]`). -/
def dirB : UploadDir :=
  ⟨some (.json ⟨[("k", "b")]⟩), (∅ : AList fun _ : String => Bytes).insert "00001.f" [2]⟩

/-- An object with the uploads `a` and `b`, no append record and no data yet. -/
def twoUploads : FSObjects where
  fs := ⟨((∅ : AList fun _ : String => UploadDir).insert "a" dirA).insert "b" dirB, ∅, none, none⟩
  appendFileMap _ := none
  files _ := ⟨.append "" 0, []⟩
  nextFile := 0
  locked := []
  uuid := 0
  objectLocked := false

/-- The calls `a`, claiming its part 1 alone, and `b`, claiming its part 1. -/
def twoCalls : Server :=
  ⟨twoUploads, [.complete (.init "a" [⟨1, "e"⟩]), .complete (.init "b" [⟨1, "f"⟩])]⟩

/-- The calls alternate up to their object locks, `a`'s `backgroundAppend` run under `bgA`; then
`b` commits, then `a` takes its `n` remaining steps. -/
def pairEvents (bgA : Outcome) (n : Nat) : List (Nat × Outcome) :=
  [(0, .ok), (1, .ok), (0, .ok), (1, .ok), (0, bgA), (1, .ok), (0, .ok), (1, .ok), (0, .ok),
    (1, .ok)] ++ List.replicate 7 (1, .ok) ++ List.replicate n (0, .ok)

theorem complete_pair_commits_one_call_interleaved :
    ∃ s a b ia ib, twoCalls.run (fun _ => "e") (fun _ => some "m") (pairEvents .ok 10) = some s ∧
      s.threads = [.complete a, .complete b] ∧ a.pc = .completed ia ∧ b.pc = .completed ib ∧
      ((dirA.fsJson = some (.json a.fsMeta) ∧ (fun _ : List CompletePart => some "m") [⟨1, "e"⟩] = some a.s3MD5 ∧
          s.o.fs.object = some (claimedBytes dirA [⟨1, "e"⟩]) ∧
          s.o.fs.objectMeta = some (.json (withEtag a.fsMeta a.s3MD5))) ∨
        (dirB.fsJson = some (.json b.fsMeta) ∧ (fun _ : List CompletePart => some "m") [⟨1, "f"⟩] = some b.s3MD5 ∧
          s.o.fs.object = some (claimedBytes dirB [⟨1, "f"⟩]) ∧
          s.o.fs.objectMeta = some (.json (withEtag b.fsMeta b.s3MD5)))) := by
  have hA : Consistent dirA twoUploads "a" := ⟨rfl, by decide, fun _ _ => rfl, fun _ h => nomatch h⟩
  have hB : Consistent dirB twoUploads "b" := ⟨rfl, by decide, fun _ _ => rfl, fun _ h => nomatch h⟩
  have hrun : twoCalls.run (fun _ => "e") (fun _ => some "m") (pairEvents .ok 10) = some _ := rfl
  exact ⟨_, _, _, _, _, hrun, rfl, rfl, rfl,
    complete_pair_commits_one_call hA hB (by decide) rfl (by decide) hrun rfl rfl rfl⟩

/-- The same interleaving, where the append of `a`'s part 2 in `a`'s `backgroundAppend` run
fails after one byte. The record then lists part 1 alone, which `a` claims, so `a` takes the fast
path and renames the record's file. Both calls succeed; the object's `fs.json` is `a`'s but its
data is `[1, 3]`, neither `a`'s claimed parts `[1]` nor `b`'s `[2]`. -/
theorem complete_pair_commits_failed_append_prefix :
    ∃ s a b ia ib, twoCalls.run (fun _ => "e") (fun _ => some "m")
        (pairEvents (.bg ⟨false, [.ok, .failedAfter 1]⟩) 7) = some s ∧
      s.threads = [.complete a, .complete b] ∧ a.pc = .completed ia ∧ b.pc = .completed ib ∧
      s.o.fs.objectMeta = some (.json (withEtag a.fsMeta a.s3MD5)) ∧
      s.o.fs.object = some [1, 3] ∧ claimedBytes dirA [⟨1, "e"⟩] = [1] ∧
      claimedBytes dirB [⟨1, "f"⟩] = [2] :=
  ⟨_, _, _, _, _, rfl, rfl, rfl, rfl, by decide, by decide, by decide, by decide⟩

end Minio.Multipart.CompletePair
