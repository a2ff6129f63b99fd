import Mathlib.Data.UInt
import Mathlib.Algebra.BigOperators.Group.List
/-!
# `getStorageInfo`

`xlObjects.StorageInfo` aggregates the disks of an erasure set. `getDisksInfo` asks each disk for
its `DiskInfo` and counts a nil disk, or one whose call fails with one of the `baseErrs`, as
offline, and every other disk as online, keeping what its call returned. `sortValidDisksInfo`
keeps the infos whose `Total` is not `0`, sorted by `Total`. `getStorageInfo` returns the zero
`StorageInfo{}` when no info is left, and otherwise the sum of their `Used`, the two counts and
the parities of both storage classes.

* `getStorageInfo_aggregate`: the counts split the disks; the result is `StorageInfo{}` exactly
  when no disk reports a non-zero `Total`, even when disks are online; otherwise `Used` is the
  `uint64` sum, wrapping as the code's does, of the `Used` of the disks with a non-zero `Total`,
  whatever order the sort leaves disks of equal `Total` in.

The code also computes `availableDataDisks`, which nothing reads. `DiskInfo()`, `IsErr` on
`baseErrs` and `getRedundancyCount` are not in the source; a disk is given by what its
`DiskInfo()` returned, and `getRedundancyCount` by its two results.
-/

namespace Minio.Erasure.Storage

/-- The `Total`, `Free` and `Used` sizes of a `DiskInfo`; `default` is the zero value. -/
structure DiskInfo where
  total : UInt64
  free : UInt64
  used : UInt64
  deriving DecidableEq, Repr, Inhabited

/-- An error of `DiskInfo()`: whether `IsErr(err, baseErrs...)` holds of it. -/
structure DiskErr where
  baseErr : Bool
  deriving DecidableEq, Repr

/-- A disk of `disks`: `none` for a nil `StorageAPI`, otherwise what its `DiskInfo()`
returned, the info and the error if any. -/
abbrev Disk := Option (DiskInfo × Option DiskErr)

/-- The storage classes `getRedundancyCount` is asked about: `standardStorageClass` and
`reducedRedundancyStorageClass`. -/
inductive StorageClass where
  | standard
  | reducedRedundancy
  deriving DecidableEq, Repr

/-- The `BackendType`s `getStorageInfo` produces: the zero value, and `Erasure`. -/
inductive BackendType where
  | unknown
  | erasure
  deriving DecidableEq, Repr

/-- The fields of `StorageInfo` that `getStorageInfo` sets; the defaults are `StorageInfo{}`. -/
structure StorageInfo where
  used : UInt64 := 0
  backendType : BackendType := .unknown
  onlineDisks : Int := 0
  offlineDisks : Int := 0
  standardSCParity : Int := 0
  rrscParity : Int := 0
  deriving DecidableEq, Repr

/-- `getDisksInfo(disks)` (lines 1548-1572), disk by disk: the slot `disksInfo[i]`, zero for an
offline disk, and the online and offline counts. A failing call whose error is not a base error
counts as online and fills the slot with the info it returned. -/
def getDisksInfo : List Disk → List DiskInfo × Int × Int
  | [] => ([], 0, 0)
  | none :: disks =>
    let r := getDisksInfo disks
    (default :: r.1, r.2.1, r.2.2 + 1)
  | some (info, err) :: disks =>
    let r := getDisksInfo disks
    if err.any (·.baseErr) then (default :: r.1, r.2.1, r.2.2 + 1)
    else (info :: r.1, r.2.1 + 1, r.2.2)

/-- `sortValidDisksInfo(disksInfo)` (lines 1575-1585); `sortDisks` is what
`sort.Sort(byDiskTotal(…))` leaves of the infos with a non-zero `Total`. -/
def sortValidDisksInfo (sortDisks : List DiskInfo → List DiskInfo) (disksInfo : List DiskInfo) :
    List DiskInfo :=
  sortDisks (disksInfo.filter (·.total ≠ 0))

/-- `getStorageInfo(disks)` (lines 1588-1629); `getRedundancyCount sc n` is the pair of data and
parity counts that `getRedundancyCount` returns. -/
def getStorageInfo (getRedundancyCount : StorageClass → Nat → Int × Int)
    (sortDisks : List DiskInfo → List DiskInfo) (disks : List Disk) : StorageInfo :=
  let (disksInfo, onlineDisks, offlineDisks) := getDisksInfo disks
  let validDisksInfo := sortValidDisksInfo sortDisks disksInfo
  if validDisksInfo.length = 0 then {}
  else
    let sscParity := (getRedundancyCount .standard disks.length).2
    let rrscparity := (getRedundancyCount .reducedRedundancy disks.length).2
    { used := validDisksInfo.foldl (fun used di => used + di.used) 0
      backendType := .erasure
      onlineDisks
      offlineDisks
      standardSCParity := sscParity
      rrscParity := rrscparity }

/-- The slot a disk fills in `disksInfo`. -/
def slotInfo : Disk → DiskInfo
  | some (info, err) => if err.any (·.baseErr) then default else info
  | none => default

/-- Whether `getDisksInfo` counts a disk as online. -/
def isOnline : Disk → Bool
  | some (_, err) => !err.any (·.baseErr)
  | none => false

/-- `getDisksInfo` fills one slot per disk and counts each disk once, online or offline. -/
theorem getDisksInfo_eq : ∀ disks : List Disk,
    getDisksInfo disks = (disks.map slotInfo, (disks.countP isOnline : Int),
      ((disks.length - disks.countP isOnline : Nat) : Int))
  | [] => rfl
  | none :: disks => by
    have h : disks.countP isOnline ≤ disks.length := List.countP_le_length _
    simp only [getDisksInfo, getDisksInfo_eq disks, List.map_cons, List.countP_cons, slotInfo,
      isOnline, List.length_cons, Bool.false_eq_true, if_false, Prod.mk.injEq, true_and]
    omega
  | some (info, err) :: disks => by
    have h : disks.countP isOnline ≤ disks.length := List.countP_le_length _
    by_cases herr : err.any (·.baseErr) <;>
      simp only [getDisksInfo, getDisksInfo_eq disks, herr, List.map_cons, List.countP_cons,
        slotInfo, isOnline, List.length_cons, if_true, if_false, Bool.not_true, Bool.not_false,
        Bool.false_eq_true, Prod.mk.injEq, true_and, and_true] <;> push_cast <;> omega

/-- The `used` loop is the `uint64` sum. -/
theorem foldl_used (disks : List DiskInfo) (acc : UInt64) :
    disks.foldl (fun used di => used + di.used) acc = acc + (disks.map (·.used)).sum := by
  induction disks generalizing acc with
  | nil => simp
  | cons d disks ih => rw [List.foldl_cons, ih, List.map_cons, List.sum_cons, add_assoc]

section Aggregate

variable (getRedundancyCount : StorageClass → Nat → Int × Int)
  {sortDisks : List DiskInfo → List DiskInfo} (hsort : ∀ l, (sortDisks l).Perm l) (disks : List Disk)
include hsort

/-- No info is left after `sortValidDisksInfo` exactly when every slot has a zero `Total`. -/
theorem length_sortValidDisksInfo_eq_zero :
    (sortValidDisksInfo sortDisks (disks.map slotInfo)).length = 0 ↔
      ∀ d ∈ disks, (slotInfo d).total = 0 := by
  rw [sortValidDisksInfo, (hsort _).length_eq, List.length_eq_zero, List.filter_eq_nil_iff]
  simp

/-- With a slot of non-zero `Total`, the storage info sums the `Used` of those slots, in
whatever order the sort leaves them. -/
theorem getStorageInfo_of_valid (h : ∃ d ∈ disks, (slotInfo d).total ≠ 0) :
    getStorageInfo getRedundancyCount sortDisks disks =
      { used := (((disks.map slotInfo).filter (·.total ≠ 0)).map (·.used)).sum
        backendType := .erasure
        onlineDisks := disks.countP isOnline
        offlineDisks := disks.length - disks.countP isOnline
        standardSCParity := (getRedundancyCount .standard disks.length).2
        rrscParity := (getRedundancyCount .reducedRedundancy disks.length).2 } := by
  obtain ⟨d, hd, htotal⟩ := h
  have hle : disks.countP isOnline ≤ disks.length := List.countP_le_length _
  rw [getStorageInfo, getDisksInfo_eq]
  dsimp only
  rw [if_neg fun h => htotal ((length_sortValidDisksInfo_eq_zero hsort disks).mp h d hd),
    foldl_used, zero_add, sortValidDisksInfo, ((hsort _).map _).sum_eq]
  congr 1
  omega

/-- The storage info of an erasure set, for every sort that permutes the disks it is given:
one slot per disk, the online and offline counts together the number of disks;
`StorageInfo{}` exactly when every slot has a zero `Total`, even with disks online; otherwise
the `uint64` sum of the `Used` of the slots with a non-zero `Total`, the counts, and both
parities. -/
theorem getStorageInfo_aggregate :
    (getDisksInfo disks).1 = disks.map slotInfo ∧
    (getDisksInfo disks).2.1 = disks.countP isOnline ∧
    (getDisksInfo disks).2.1 + (getDisksInfo disks).2.2 = disks.length ∧
    (getStorageInfo getRedundancyCount sortDisks disks = {} ↔
      ∀ d ∈ disks, (slotInfo d).total = 0) ∧
    ((∃ d ∈ disks, (slotInfo d).total ≠ 0) →
      getStorageInfo getRedundancyCount sortDisks disks =
        { used := (((disks.map slotInfo).filter (·.total ≠ 0)).map (·.used)).sum
          backendType := .erasure
          onlineDisks := disks.countP isOnline
          offlineDisks := disks.length - disks.countP isOnline
          standardSCParity := (getRedundancyCount .standard disks.length).2
          rrscParity := (getRedundancyCount .reducedRedundancy disks.length).2 }) := by
  have hle : disks.countP isOnline ≤ disks.length := List.countP_le_length _
  refine ⟨by rw [getDisksInfo_eq], by rw [getDisksInfo_eq], by rw [getDisksInfo_eq]; push_cast; omega,
    ⟨fun h => ?_, fun h => ?_⟩, getStorageInfo_of_valid getRedundancyCount hsort disks⟩
  · -- a slot of non-zero `Total` makes the backend `Erasure`, not the zero value
    by_contra hne
    push_neg at hne
    rw [getStorageInfo_of_valid getRedundancyCount hsort disks hne] at h
    exact BackendType.noConfusion (congrArg StorageInfo.backendType h)
  · rw [getStorageInfo, getDisksInfo_eq]
    exact if_pos ((length_sortValidDisksInfo_eq_zero hsort disks).mpr h)

end Aggregate

/-- Sorting by `insertionSort` on `Total`, one of the sorts `sort.Sort(byDiskTotal(…))` may act
as. -/
def byDiskTotal (disksInfo : List DiskInfo) : List DiskInfo :=
  disksInfo.insertionSort fun a b => a.total ≤ b.total

/-- Four disks: a nil one, one whose call fails with a base error, one whose call fails with
another error and returns a zero info, and one of `Total` 8 with 3 used. Two count as online
and two as offline, and only the last has a non-zero `Total`: the used size is its 3. -/
theorem getStorageInfo_aggregate_four_disks :
    (∀ l, (byDiskTotal l).Perm l) ∧
    getStorageInfo (fun _ _ => (2, 2)) byDiskTotal
        [none, some (⟨5, 5, 0⟩, some ⟨true⟩), some (default, some ⟨false⟩), some (⟨8, 5, 3⟩, none)] =
      { used := 3, backendType := .erasure, onlineDisks := 2, offlineDisks := 2,
        standardSCParity := 2, rrscParity := 2 } := by
  have hsort : ∀ l, (byDiskTotal l).Perm l := fun l => List.perm_insertionSort _ l
  refine ⟨hsort, ((getStorageInfo_aggregate _ hsort _).2.2.2.2 ⟨_, .tail _ (.tail _ (.tail _
    (.head _))), by decide⟩).trans ?_⟩
  rfl

/-- A disk that answers with a zero `Total` counts as online, yet the result is
`StorageInfo{}`, with no disk online. -/
example : getStorageInfo (fun _ _ => (0, 0)) byDiskTotal [some (default, none)] = {} := rfl

end Minio.Erasure.Storage
