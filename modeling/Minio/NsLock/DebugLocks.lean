import Minio.NsLock.LockMap
import Mathlib.Data.List.AList
import Mathlib.Data.List.Infix
/-!
# `xlObjects.ListLocks`

`ListLocks(bucket, prefix, duration)` walks `nsMutex.debugLockMap`, the instrumentation kept
for every resource `(volume, path)` with a lock, and reports the operations on the resources of
`bucket` under `prefix` that have held or waited for their lock for at least `duration`.

The debug types (`debugLockInfoPerVolumePath`, `debugLockInfo`, `lockStat`), the result types
(`VolumeLockInfo`, `OpsLockState`) and `hasPrefix` are not part of this repository; they are
modelled with the fields `ListLocks` reads and writes, and `hasPrefix` as `strings.HasPrefix`,
what it is off Windows. A Go map's iteration order is unspecified: the order of an `AList`'s
entries stands for one iteration order, and every statement holds for every order. Times are
nanoseconds and `timeNow.Sub(since)` is their difference.

The `append` to `volumeLocks` stands inside the loop over the operations of a resource, so a
resource is reported once per qualifying operation, each time with the operations found so
far. Each report is a copy of `volLockInfo` whose `LockDetailsOnObject` shares the backing
array of the later copies but has its own length, so later appends leave it as it was: the
copies are values here.
-/

namespace Minio.NsLock.DebugLocks

open LockMap

/-- `lockStat`: the lock counters of a resource. -/
structure LockStat where
  total : Int
  blocked : Int
  granted : Int
  deriving DecidableEq, Repr

/-- `debugLockInfo`: the lock of one operation on a resource. -/
structure DebugLockInfo where
  lockSource : String
  lType : String
  status : String
  since : Int
  deriving DecidableEq, Repr

/-- `debugLockInfoPerVolumePath`: the counters of a resource and its operations by `opsID`. -/
structure DebugLockInfoPerVolumePath where
  counters : LockStat
  lockInfo : AList fun _ : String => DebugLockInfo

/-- `OpsLockState`: the report on one operation. -/
structure OpsLockState where
  operationID : String
  lockSource : String
  lockType : String
  status : String
  since : Int
  deriving DecidableEq, Repr

/-- `VolumeLockInfo`: the report on one resource. -/
structure VolumeLockInfo where
  bucket : String
  object : String
  locksOnObject : Int
  totalBlockedLocks : Int
  locksAcquiredOnObject : Int
  lockDetailsOnObject : List OpsLockState
  deriving DecidableEq, Repr

/-- `hasPrefix(s, prefix)`: `strings.HasPrefix(s, prefix)`. -/
def hasPrefix (s pathPrefix : String) : Bool := pathPrefix.toList.isPrefixOf s.toList

/-- The `OpsLockState` that reports operation `opsID`. -/
def opsLockState (opsID : String) (lockInfo : DebugLockInfo) : OpsLockState :=
  { operationID := opsID, lockSource := lockInfo.lockSource, lockType := lockInfo.lType,
    status := lockInfo.status, since := lockInfo.since }

/-- `volLockInfo` before the loop over the operations of resource `param`. -/
def volLockInfoOf (param : NsParam) (debugLock : DebugLockInfoPerVolumePath) : VolumeLockInfo :=
  { bucket := param.volume, object := param.path, locksOnObject := debugLock.counters.total,
    totalBlockedLocks := debugLock.counters.blocked,
    locksAcquiredOnObject := debugLock.counters.granted, lockDetailsOnObject := [] }

/-- The loop over `debugLock.lockInfo`: an operation whose lock age reaches `duration` is
appended to `volLockInfo`, and then `volLockInfo` to `volumeLocks`. -/
def listOps (timeNow duration : Int) :
    List (Σ _ : String, DebugLockInfo) → VolumeLockInfo → List VolumeLockInfo → List VolumeLockInfo
  | [], _, volumeLocks => volumeLocks
  | ⟨opsID, lockInfo⟩ :: ops, volLockInfo, volumeLocks =>
    if timeNow - lockInfo.since < duration then listOps timeNow duration ops volLockInfo volumeLocks
    else
      let volLockInfo := { volLockInfo with
        lockDetailsOnObject := volLockInfo.lockDetailsOnObject ++ [opsLockState opsID lockInfo] }
      listOps timeNow duration ops volLockInfo (volumeLocks ++ [volLockInfo])

/-- The loop over `debugLockMap`. -/
def listResources (bucket pathPrefix : String) (duration timeNow : Int) :
    List (Σ _ : NsParam, DebugLockInfoPerVolumePath) → List VolumeLockInfo → List VolumeLockInfo
  | [], volumeLocks => volumeLocks
  | ⟨param, debugLock⟩ :: rest, volumeLocks =>
    if param.volume ≠ bucket then listResources bucket pathPrefix duration timeNow rest volumeLocks
    else if !hasPrefix param.path pathPrefix then
      listResources bucket pathPrefix duration timeNow rest volumeLocks
    else
      listResources bucket pathPrefix duration timeNow rest
        (listOps timeNow duration debugLock.lockInfo.entries (volLockInfoOf param debugLock) volumeLocks)

/-- `xlObjects.ListLocks(ctx, bucket, prefix, duration)` at time `timeNow`; its error is
always `nil`. -/
def ListLocks (debugLockMap : AList fun _ : NsParam => DebugLockInfoPerVolumePath)
    (bucket pathPrefix : String) (duration timeNow : Int) : List VolumeLockInfo :=
  listResources bucket pathPrefix duration timeNow debugLockMap.entries []

/-- One resource of `"bucket"` with two operations that have held a read lock since time 0. -/
def twoOps : AList fun _ : NsParam => DebugLockInfoPerVolumePath :=
  ⟨[⟨⟨"bucket", "object"⟩, ⟨⟨2, 0, 2⟩, ⟨[⟨"op1", ⟨"src1", "RLock", "Running", 0⟩⟩,
    ⟨"op2", ⟨"src2", "RLock", "Running", 0⟩⟩], by unfold List.NodupKeys; decide⟩⟩⟩], List.nodupKeys_singleton _⟩

theorem listLocks_repeats_resource_per_operation :
    (ListLocks twoOps "bucket" "" 0 10).map
        (fun v => (v.bucket, v.object, v.lockDetailsOnObject.map (·.operationID))) =
      [("bucket", "object", ["op1"]), ("bucket", "object", ["op1", "op2"])] := by
  decide

/-! ## What `ListLocks` reports -/

section Reports

variable (bucket pathPrefix : String) (duration timeNow : Int)

/-- The operations of a resource whose lock age reaches `duration`, in iteration order. -/
def heldOps (ops : List (Σ _ : String, DebugLockInfo)) : List OpsLockState :=
  ops.filterMap fun op =>
    if timeNow - op.2.since < duration then none else some (opsLockState op.1 op.2)

/-- The reports on resource `param`: none off `bucket` or `prefix`, and otherwise one per
operation held at least `duration`, the `j`-th listing the first `j` of them. -/
def reportsOf (param : NsParam) (debugLock : DebugLockInfoPerVolumePath) : List VolumeLockInfo :=
  if param.volume = bucket ∧ hasPrefix param.path pathPrefix = true then
    (heldOps duration timeNow debugLock.lockInfo.entries).inits.tail.map fun l =>
      { volLockInfoOf param debugLock with lockDetailsOnObject := l }
  else []

theorem inits_eq_nil_cons {β : Type} (l : List β) : l.inits = [] :: l.inits.tail := by
  cases l <;> rfl

/-- The loop over the operations of a resource appends one copy of `volLockInfo` per
qualifying operation, with the qualifying operations up to it. -/
theorem listOps_eq : ∀ (ops : List (Σ _ : String, DebugLockInfo)) (v : VolumeLockInfo)
    (acc : List VolumeLockInfo),
    listOps timeNow duration ops v acc = acc ++ (heldOps duration timeNow ops).inits.tail.map
      fun l => { v with lockDetailsOnObject := v.lockDetailsOnObject ++ l }
  | [], _, _ => by simp [listOps, heldOps]
  | ⟨opsID, lockInfo⟩ :: ops, v, acc => by
    rw [listOps]
    by_cases h : timeNow - lockInfo.since < duration
    · have hheld : heldOps duration timeNow (⟨opsID, lockInfo⟩ :: ops) =
          heldOps duration timeNow ops := by simp [heldOps, h]
      rw [if_pos h, listOps_eq ops, hheld]
    · have hheld : heldOps duration timeNow (⟨opsID, lockInfo⟩ :: ops) =
          opsLockState opsID lockInfo :: heldOps duration timeNow ops := by simp [heldOps, h]
      rw [if_neg h, listOps_eq ops, hheld, List.inits_cons, List.tail_cons,
        inits_eq_nil_cons (heldOps duration timeNow ops)]
      simp [Function.comp_def]

/-- The loop over `debugLockMap` appends the reports on each resource in turn. -/
theorem listResources_eq : ∀ (rs : List (Σ _ : NsParam, DebugLockInfoPerVolumePath))
    (acc : List VolumeLockInfo), listResources bucket pathPrefix duration timeNow rs acc =
      acc ++ rs.flatMap fun r => reportsOf bucket pathPrefix duration timeNow r.1 r.2
  | [], _ => by simp [listResources]
  | ⟨param, debugLock⟩ :: rest, acc => by
    rw [listResources, List.flatMap_cons]
    by_cases hv : param.volume = bucket
    · by_cases hp : hasPrefix param.path pathPrefix = true
      · rw [if_neg (not_not.mpr hv), if_neg (by simp [hp]), listResources_eq rest, listOps_eq]
        simp [reportsOf, hv, hp, volLockInfoOf]
      · rw [if_neg (not_not.mpr hv), if_pos (by simpa using hp), listResources_eq rest]
        simp [reportsOf, hp]
    · rw [if_pos hv, listResources_eq rest]
      simp [reportsOf, hv]

theorem mem_reportsOf {param : NsParam} {debugLock : DebugLockInfoPerVolumePath} {v : VolumeLockInfo}
    (h : v ∈ reportsOf bucket pathPrefix duration timeNow param debugLock) :
    v.bucket = param.volume ∧ v.object = param.path := by
  unfold reportsOf at h
  split at h
  · obtain ⟨_, _, rfl⟩ := List.mem_map.mp h
    exact ⟨rfl, rfl⟩
  · exact nomatch h

/-- The reports on `p` that are about resource `param`. -/
theorem filter_reportsOf (param p : NsParam) (debugLock : DebugLockInfoPerVolumePath) :
    (reportsOf bucket pathPrefix duration timeNow p debugLock).filter
        (fun v => v.bucket == param.volume && v.object == param.path) =
      if p = param then reportsOf bucket pathPrefix duration timeNow p debugLock else [] := by
  split
  · subst p
    refine List.filter_eq_self.mpr fun v hv => ?_
    obtain ⟨h₁, h₂⟩ := mem_reportsOf bucket pathPrefix duration timeNow hv
    simp [h₁, h₂]
  · rename_i hne
    refine List.filter_eq_nil_iff.mpr fun v hv => ?_
    obtain ⟨h₁, h₂⟩ := mem_reportsOf bucket pathPrefix duration timeNow hv
    simp only [h₁, h₂, Bool.and_eq_true, beq_iff_eq, not_and]
    exact fun hv hp => hne (by cases p; cases param; simp_all)

theorem filter_flatMap_reportsOf (param : NsParam) :
    ∀ rs : List (Σ _ : NsParam, DebugLockInfoPerVolumePath), rs.NodupKeys →
      (rs.flatMap fun r => reportsOf bucket pathPrefix duration timeNow r.1 r.2).filter
          (fun v => v.bucket == param.volume && v.object == param.path) =
        ((rs.dlookup param).map (reportsOf bucket pathPrefix duration timeNow param)).getD []
  | [], _ => rfl
  | ⟨p, debugLock⟩ :: rs, h => by
    rw [List.nodupKeys_cons] at h
    rw [List.flatMap_cons, List.filter_append, filter_reportsOf,
      filter_flatMap_reportsOf param rs h.2]
    by_cases hp : p = param
    · subst hp
      rw [if_pos rfl, List.dlookup_cons_eq, List.dlookup_eq_none.mpr h.1]
      simp
    · rw [if_neg hp, List.dlookup_cons_ne _ _ (Ne.symm hp), List.nil_append]

theorem length_reportsOf (param : NsParam) (debugLock : DebugLockInfoPerVolumePath) :
    (reportsOf bucket pathPrefix duration timeNow param debugLock).length =
      if param.volume = bucket ∧ hasPrefix param.path pathPrefix = true then
        (heldOps duration timeNow debugLock.lockInfo.entries).length
      else 0 := by
  unfold reportsOf
  split <;> simp [List.length_inits]

theorem mem_heldOps_ids {ops : List (Σ _ : String, DebugLockInfo)} {opsID : String}
    (h : opsID ∈ (heldOps duration timeNow ops).map (·.operationID)) : opsID ∈ ops.keys := by
  obtain ⟨s, hs, rfl⟩ := List.mem_map.mp h
  obtain ⟨op, hop, hsome⟩ := List.mem_filterMap.mp hs
  split at hsome
  · exact nomatch hsome
  · cases hsome
    exact List.mem_keys_of_mem hop

/-- The qualifying operations of a resource are distinct operations. -/
theorem heldOps_ids_nodup : ∀ ops : List (Σ _ : String, DebugLockInfo), ops.NodupKeys →
    ((heldOps duration timeNow ops).map (·.operationID)).Nodup
  | [], _ => List.nodup_nil
  | ⟨opsID, lockInfo⟩ :: ops, h => by
    rw [List.nodupKeys_cons] at h
    have ih := heldOps_ids_nodup ops h.2
    by_cases hl : timeNow - lockInfo.since < duration
    · simpa [heldOps, hl] using ih
    · have hheld : heldOps duration timeNow (⟨opsID, lockInfo⟩ :: ops) =
          opsLockState opsID lockInfo :: heldOps duration timeNow ops := by simp [heldOps, hl]
      rw [hheld, List.map_cons, List.nodup_cons]
      exact ⟨fun hm => h.1 (mem_heldOps_ids duration timeNow hm), ih⟩

theorem mem_reportsOf_nodup {param : NsParam} {debugLock : DebugLockInfoPerVolumePath}
    {v : VolumeLockInfo} (h : v ∈ reportsOf bucket pathPrefix duration timeNow param debugLock) :
    (v.lockDetailsOnObject.map (·.operationID)).Nodup := by
  unfold reportsOf at h
  split at h
  · obtain ⟨l, hl, rfl⟩ := List.mem_map.mp h
    have hpre := (List.mem_inits _ _).mp (List.mem_of_mem_tail hl)
    exact (heldOps_ids_nodup duration timeNow _ debugLock.lockInfo.nodupKeys).sublist
      (hpre.sublist.map _)
  · exact nomatch h

end Reports

/-- `ListLocks` reports each resource of `bucket` under `prefix` once per operation that has
held its lock for at least `duration`, the `j`-th report listing the first `j` such operations;
the reports about one resource are those, however the map is ordered, and no report lists an
operation twice. -/
theorem listLocks_reports_per_held_operation
    (debugLockMap : AList fun _ : NsParam => DebugLockInfoPerVolumePath) (bucket pathPrefix : String)
    (duration timeNow : Int) :
    ListLocks debugLockMap bucket pathPrefix duration timeNow =
        debugLockMap.entries.flatMap (fun r => reportsOf bucket pathPrefix duration timeNow r.1 r.2) ∧
    (∀ param, (ListLocks debugLockMap bucket pathPrefix duration timeNow).filter
        (fun v => v.bucket == param.volume && v.object == param.path) =
      ((debugLockMap.lookup param).map (reportsOf bucket pathPrefix duration timeNow param)).getD []) ∧
    (∀ param debugLock, debugLockMap.lookup param = some debugLock →
      ((ListLocks debugLockMap bucket pathPrefix duration timeNow).filter
          (fun v => v.bucket == param.volume && v.object == param.path)).length =
        if param.volume = bucket ∧ hasPrefix param.path pathPrefix = true then
          (heldOps duration timeNow debugLock.lockInfo.entries).length
        else 0) ∧
    ∀ v ∈ ListLocks debugLockMap bucket pathPrefix duration timeNow,
      (v.lockDetailsOnObject.map (·.operationID)).Nodup := by
  have heq : ListLocks debugLockMap bucket pathPrefix duration timeNow =
      debugLockMap.entries.flatMap (fun r => reportsOf bucket pathPrefix duration timeNow r.1 r.2) := by
    rw [ListLocks, listResources_eq, List.nil_append]
  have hfilter (param : NsParam) := heq ▸
    filter_flatMap_reportsOf bucket pathPrefix duration timeNow param _ debugLockMap.nodupKeys
  refine ⟨heq, hfilter, fun param debugLock h => ?_, fun v hv => ?_⟩
  · have h' : debugLockMap.entries.dlookup param = some debugLock := h
    rw [hfilter param, h', Option.map_some', Option.getD_some, length_reportsOf]
  · rw [heq, List.mem_flatMap] at hv
    obtain ⟨r, _, hr⟩ := hv
    exact mem_reportsOf_nodup bucket pathPrefix duration timeNow hr

end Minio.NsLock.DebugLocks
