import Mathlib.Data.List.Sort
/-!
# The uptime reported for a distributed setup

The source holds two versions of `getPeerUptimes`. The peer RPC server's (`peer-rpc-server.go`)
collects the uptimes of the servers whose `ServerInfo` carries no error, sorts them and returns
the first. The admin RPC client's (`admin-rpc-client.go.orig`) sorts every peer's uptime
together with the error of its `ServerInfoData` call, and walks the sorted slice to the
`readQuorum`-th successful call, `readQuorum = len/2`; with fewer successful calls it returns
`InsufficientReadQuorum`.

* `getPeerUptimes_min`: the peer server's version returns the least uptime of a server without
  error, and indexes an empty slice (`times[0]`, a panic) exactly when every server has one.
* `getPeerUptimes_readQuorum`: the admin client's version returns the `readQuorum`-th least
  uptime of a successful call, whatever order `sort.Sort` leaves equal uptimes in. With one
  peer `readQuorum` is `0`: a failed call then yields uptime `0` and no error.

Durations are `time.Duration` nanoseconds, taken as `Int`; `UTCNow().Sub(globalBootTime)` is
their difference.
-/

namespace Minio.Admin.Uptime

/-- The fields of a `ServerInfo` that `getPeerUptimes` reads: `Error`, and the
`Data.Properties.Uptime` of a server that answered. -/
structure ServerInfo where
  error : String
  uptime : Int
  deriving DecidableEq, Repr

/-- The uptimes the loop of `getPeerUptimes` (peer-rpc-server.go, lines 301-306) appends to
`times`: those of the servers without error, in order. -/
def times (serverInfo : List ServerInfo) : List Int :=
  serverInfo.filterMap fun info => if info.error ≠ "" then none else some info.uptime

/-- `getPeerUptimes` of peer-rpc-server.go (lines 291-313). `sort.Sort(uptimes(times))` orders
the durations ascending; equal durations are equal values, so every sort gives the list that
`insertionSort` gives. `none` is the index-out-of-range panic of `times[0]`. -/
def getPeerUptimes (globalIsDistXL : Bool) (now globalBootTime : Int)
    (serverInfo : List ServerInfo) : Option Int :=
  if !globalIsDistXL then some (now - globalBootTime)
  else ((times serverInfo).insertionSort (· ≤ ·))[0]?

theorem mem_times (serverInfo : List ServerInfo) (t : Int) :
    t ∈ times serverInfo ↔ ∃ info ∈ serverInfo, info.error = "" ∧ info.uptime = t := by
  simp [times]

/-- The first of the sorted durations is the least of them. -/
theorem getElem?_zero_insertionSort (l : List Int) (t : Int) :
    (l.insertionSort (· ≤ ·))[0]? = some t ↔ t ∈ l ∧ ∀ u ∈ l, t ≤ u := by
  have hs := List.sorted_insertionSort (· ≤ ·) l
  have hp := List.perm_insertionSort (· ≤ ·) l
  cases h : l.insertionSort (· ≤ ·) with
  | nil =>
    rw [h, List.nil_perm] at hp
    simp [hp]
  | cons a rest =>
    rw [h] at hs hp
    have hmem : ∀ u, u ∈ l ↔ u = a ∨ u ∈ rest := fun u => by
      rw [← hp.mem_iff, List.mem_cons]
    have hmin : ∀ u ∈ l, a ≤ u := fun u hu => by
      rcases (hmem u).mp hu with rfl | hu
      · exact le_rfl
      · exact List.rel_of_sorted_cons hs u hu
    rw [List.getElem?_cons_zero, Option.some.injEq]
    constructor
    · rintro rfl
      exact ⟨(hmem a).mpr (.inl rfl), hmin⟩
    · rintro ⟨ht, hle⟩
      exact le_antisymm (hmin t ht) (hle a ((hmem a).mpr (.inl rfl)))

/-- The peer server's uptime: `UTCNow().Sub(globalBootTime)` outside a distributed setup;
otherwise the least uptime of a server without error, and the panic exactly when there is none
(every server reported an error, or there are no servers). -/
theorem getPeerUptimes_min (now globalBootTime : Int) (serverInfo : List ServerInfo) :
    getPeerUptimes false now globalBootTime serverInfo = some (now - globalBootTime) ∧
    (getPeerUptimes true now globalBootTime serverInfo = none ↔
      ∀ info ∈ serverInfo, info.error ≠ "") ∧
    ∀ t, getPeerUptimes true now globalBootTime serverInfo = some t ↔
      (∃ info ∈ serverInfo, info.error = "" ∧ info.uptime = t) ∧
        ∀ info ∈ serverInfo, info.error = "" → t ≤ info.uptime := by
  have hmin : ∀ t, getPeerUptimes true now globalBootTime serverInfo = some t ↔
      (∃ info ∈ serverInfo, info.error = "" ∧ info.uptime = t) ∧
        ∀ info ∈ serverInfo, info.error = "" → t ≤ info.uptime := fun t => by
    rw [getPeerUptimes, if_neg (by decide), getElem?_zero_insertionSort]
    simp only [mem_times, forall_exists_index, and_imp]
    exact and_congr_right fun _ => ⟨fun h info hi he => h _ info hi he rfl,
      fun h _ info hi he hu => hu ▸ h info hi he⟩
  refine ⟨rfl, ?_, hmin⟩
  rw [Option.eq_none_iff_forall_not_mem]
  constructor
  · intro h info hi he
    obtain ⟨t, ht⟩ : ∃ t, getPeerUptimes true now globalBootTime serverInfo = some t := by
      rw [getPeerUptimes, if_neg (by decide)]
      exact ⟨_, List.getElem?_eq_getElem (List.length_pos_of_mem
        ((List.perm_insertionSort _ _).mem_iff.mpr ((mem_times _ _).mpr ⟨info, hi, he, rfl⟩)))⟩
    exact h t ht
  · rintro h t ht
    obtain ⟨⟨info, hi, he, -⟩, -⟩ := (hmin t).mp ht
    exact h info hi he

example : getPeerUptimes true 0 0 [⟨"", 5⟩, ⟨"offline", 1⟩, ⟨"", 3⟩] = some 3 := rfl

namespace AdminClient

/-- An entry of `uptimeSlice` (admin-rpc-client.go.orig, lines 397-400): whether the peer's
`ServerInfoData` call returned an error, and the uptime it returned. -/
structure PeerUptime where
  err : Bool
  uptime : Int
  deriving DecidableEq, Repr

/-- `InsufficientReadQuorum{}` -/
structure InsufficientReadQuorum where
  deriving DecidableEq, Repr

/-- The loop of `getPeerUptimes` (lines 446-457) over the sorted slice, from `validCount` and
`latestUptime`: it counts the successful calls and stops at the one that brings the count to
`readQuorum`, taking its uptime. -/
def pickUptime (readQuorum : Nat) : List PeerUptime → Nat → Int → Nat × Int
  | [], validCount, latestUptime => (validCount, latestUptime)
  | uptime :: uptimes, validCount, latestUptime =>
    if uptime.err then pickUptime readQuorum uptimes validCount latestUptime
    else if readQuorum ≤ validCount + 1 then (validCount + 1, uptime.uptime)
    else pickUptime readQuorum uptimes (validCount + 1) latestUptime

/-- `getPeerUptimes` of admin-rpc-client.go.orig (lines 416-466), from the slice the goroutines
filled; `sortUptimes` is what `sort.Sort` leaves of it. -/
def getPeerUptimes (globalIsDistXL : Bool) (now globalBootTime : Int)
    (sortUptimes : List PeerUptime → List PeerUptime) (uptimes : List PeerUptime) :
    Except InsufficientReadQuorum Int :=
  if !globalIsDistXL then .ok (now - globalBootTime)
  else
    let sorted := sortUptimes uptimes
    let readQuorum := sorted.length / 2
    let r := pickUptime readQuorum sorted 0 0
    if r.1 < readQuorum then .error {} else .ok r.2

/-- The uptimes of the successful calls, in order. -/
def validUptimes (uptimes : List PeerUptime) : List Int :=
  uptimes.filterMap fun u => if u.err then none else some u.uptime

/-- The loop falls short of `readQuorum` exactly when the successful calls do; otherwise it
takes the uptime of the `readQuorum`-th successful call. -/
theorem pickUptime_spec (readQuorum : Nat) : ∀ (uptimes : List PeerUptime) (validCount : Nat)
    (latestUptime : Int),
    ((pickUptime readQuorum uptimes validCount latestUptime).1 < readQuorum ↔
      validCount + (validUptimes uptimes).length < readQuorum) ∧
    (readQuorum ≤ validCount + (validUptimes uptimes).length →
      (pickUptime readQuorum uptimes validCount latestUptime).2 =
        ((validUptimes uptimes)[readQuorum - validCount - 1]?).getD latestUptime)
  | [], validCount, latestUptime => by simp [pickUptime, validUptimes]
  | uptime :: uptimes, validCount, latestUptime => by
    have ih := pickUptime_spec readQuorum uptimes
    by_cases herr : uptime.err
    · simpa [pickUptime, validUptimes, herr] using ih validCount latestUptime
    have hvalid : validUptimes (uptime :: uptimes) = uptime.uptime :: validUptimes uptimes := by
      simp [validUptimes, herr]
    rw [hvalid, List.length_cons, pickUptime, if_neg herr]
    by_cases hq : readQuorum ≤ validCount + 1
    · rw [if_pos hq, show readQuorum - validCount - 1 = 0 by omega]
      exact ⟨by simp only; omega, fun _ => by simp⟩
    · rw [if_neg hq, show readQuorum - validCount - 1 = readQuorum - (validCount + 1) - 1 + 1 by
        omega, List.getElem?_cons_succ]
      obtain ⟨h₁, h₂⟩ := ih (validCount + 1) latestUptime
      exact ⟨by omega, fun h => h₂ (by omega)⟩

/-- Whatever order a sort leaves equal uptimes in, the successful calls' uptimes come out
sorted. -/
theorem validUptimes_sorted (uptimes sorted : List PeerUptime) (hperm : sorted.Perm uptimes)
    (hsorted : sorted.Sorted (·.uptime ≤ ·.uptime)) :
    validUptimes sorted = (validUptimes uptimes).insertionSort (· ≤ ·) := by
  refine List.eq_of_perm_of_sorted ((hperm.filterMap _).trans (List.perm_insertionSort _ _).symm)
    ?_ (List.sorted_insertionSort _ _)
  refine hsorted.filterMap _ fun a b hab x hx y hy => ?_
  split at hx <;> split at hy <;> simp_all

/-- The admin client's uptime: with `readQuorum = len/2`, `InsufficientReadQuorum` when fewer
than `readQuorum` calls succeeded, and otherwise the `readQuorum`-th least uptime of a
successful call (the least when `readQuorum = 0`, and `0` when no call succeeded then), for
every sort that returns the slice ordered by uptime. -/
theorem getPeerUptimes_readQuorum (now globalBootTime : Int)
    (sortUptimes : List PeerUptime → List PeerUptime) (uptimes : List PeerUptime)
    (hperm : (sortUptimes uptimes).Perm uptimes)
    (hsorted : (sortUptimes uptimes).Sorted (·.uptime ≤ ·.uptime)) :
    getPeerUptimes true now globalBootTime sortUptimes uptimes =
      if (validUptimes uptimes).length < uptimes.length / 2 then .error {}
      else .ok ((((validUptimes uptimes).insertionSort (· ≤ ·))[uptimes.length / 2 - 1]?).getD 0) := by
  have hlen : (validUptimes (sortUptimes uptimes)).length = (validUptimes uptimes).length :=
    (hperm.filterMap _).length_eq
  obtain ⟨h₁, h₂⟩ := pickUptime_spec ((sortUptimes uptimes).length / 2) (sortUptimes uptimes) 0 0
  rw [hlen, Nat.zero_add, hperm.length_eq] at h₁ h₂
  rw [getPeerUptimes, if_neg (by decide)]
  dsimp only
  rw [hperm.length_eq]
  by_cases hq : (validUptimes uptimes).length < uptimes.length / 2
  · rw [if_pos (h₁.mpr hq), if_pos hq]
  · rw [if_neg (mt h₁.mp hq), if_neg hq, h₂ (by omega), Nat.sub_zero,
      validUptimes_sorted uptimes _ hperm hsorted]

/-- Sorting by `insertionSort` on the uptimes, one of the sorts `sort.Sort` may act as. -/
def byUptime (uptimes : List PeerUptime) : List PeerUptime :=
  uptimes.insertionSort fun a b => a.uptime ≤ b.uptime

/-- Four peers, one of whose calls failed: `readQuorum = 2`, and the second least of the
uptimes `5, 3, 7` is `5`. -/
theorem getPeerUptimes_readQuorum_four_peers :
    (byUptime [⟨false, 5⟩, ⟨true, 0⟩, ⟨false, 3⟩, ⟨false, 7⟩]).Perm
        [⟨false, 5⟩, ⟨true, 0⟩, ⟨false, 3⟩, ⟨false, 7⟩] ∧
      (byUptime [⟨false, 5⟩, ⟨true, 0⟩, ⟨false, 3⟩, ⟨false, 7⟩]).Sorted (·.uptime ≤ ·.uptime) ∧
      getPeerUptimes true 0 0 byUptime [⟨false, 5⟩, ⟨true, 0⟩, ⟨false, 3⟩, ⟨false, 7⟩] = .ok 5 := by
  have hperm : (byUptime [⟨false, 5⟩, ⟨true, 0⟩, ⟨false, 3⟩, ⟨false, 7⟩]).Perm
      [⟨false, 5⟩, ⟨true, 0⟩, ⟨false, 3⟩, ⟨false, 7⟩] := by decide
  have hsorted : (byUptime [⟨false, 5⟩, ⟨true, 0⟩, ⟨false, 3⟩, ⟨false, 7⟩]).Sorted
      (·.uptime ≤ ·.uptime) := by decide
  exact ⟨hperm, hsorted, (getPeerUptimes_readQuorum 0 0 byUptime _ hperm hsorted).trans rfl⟩

end AdminClient

end Minio.Admin.Uptime
