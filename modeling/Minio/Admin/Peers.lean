import Minio.NsLock.DebugLocks
import Mathlib.Data.List.Perm.Basic
/-!
# The admin peers

`makeAdminPeers` lists the nodes an admin request fans out to: this node first, then every
remote host of the endpoints once. `listPeerLocksInfo` asks every peer for its locks, weighs the
errors against a read quorum, and groups the locks of all peers by resource through a map.

* `makeAdminPeers_hosts`: the peers are this node, then the remote hosts in the order of their
  first occurrence, each once, all but `globalMinioAddr`.
* `listPeerLocksInfo_groups`: when the most frequent answer is no error, the result holds every
  lock report of the peers that answered, once: the reports of each resource together, in the
  order of the peers and of their answers, the resources in any order.

`GetRemotePeers`, `reduceErrs` and the peers' clients are not in the source: the peers' answers
and `reduceErrs`' verdict are inputs. A Go map is the list of its entries, and `range` over it
any order of them. The lines are those of `admin-rpc-client.go.orig`.
-/

namespace Minio.Admin.Peers

open Minio.NsLock.LockMap Minio.NsLock.DebugLocks

/-! ## `makeAdminPeers` -/

/-- An `adminPeer`: its address and whether it is this node. -/
structure AdminPeer where
  addr : String
  isLocal : Bool
  deriving DecidableEq, Repr

/-- The loop over `GetRemotePeers(endpoints)` (lines 268-289): a host not in `hostSet` joins it
and gets a remote peer. -/
def addRemotePeers : List String → List String → List AdminPeer
  | _, [] => []
  | hostSet, host :: hosts =>
    if host ∈ hostSet then addRemotePeers hostSet hosts
    else ⟨host, false⟩ :: addRemotePeers (host :: hostSet) hosts

/-- `makeAdminPeers(endpoints)` (lines 256-292). This node is `globalMinioAddr`, or `localAddr`,
its first IPv4 address with `globalMinioPort`, when `globalMinioHost` is empty; `remotePeers` is
`GetRemotePeers(endpoints)`. -/
def makeAdminPeers (globalMinioHost globalMinioAddr localAddr : String)
    (remotePeers : List String) : List AdminPeer :=
  let thisPeer := if globalMinioHost = "" then localAddr else globalMinioAddr
  ⟨thisPeer, true⟩ :: addRemotePeers [globalMinioAddr] remotePeers

/-- The loop adds each host outside `hostSet` once, in the order of first occurrence. -/
theorem addRemotePeers_spec (hostSet hosts : List String) :
    (∀ p ∈ addRemotePeers hostSet hosts, p.isLocal = false) ∧
      ((addRemotePeers hostSet hosts).map (·.addr)).Nodup ∧
      ((addRemotePeers hostSet hosts).map (·.addr)).Sublist hosts ∧
      ∀ host, host ∈ (addRemotePeers hostSet hosts).map (·.addr) ↔
        host ∈ hosts ∧ host ∉ hostSet := by
  induction hosts generalizing hostSet with
  | nil => simp [addRemotePeers]
  | cons host hosts ih =>
    by_cases hin : host ∈ hostSet
    · obtain ⟨hl, hn, hs, hm⟩ := ih hostSet
      simp only [addRemotePeers, if_pos hin]
      refine ⟨hl, hn, hs.cons _, fun h => ?_⟩
      rw [hm]
      by_cases he : h = host
      · subst he; simp [hin]
      · simp [he]
    · obtain ⟨hl, hn, hs, hm⟩ := ih (host :: hostSet)
      simp only [addRemotePeers, if_neg hin, List.map_cons, List.nodup_cons]
      refine ⟨fun p hp => ?_, ⟨fun h => ((hm host).mp h).2 (.head _), hn⟩, hs.cons₂ _, fun h => ?_⟩
      · rcases List.mem_cons.mp hp with rfl | hp
        · rfl
        · exact hl p hp
      · rw [List.mem_cons, hm]
        by_cases he : h = host
        · subst he; simp [hin]
        · simp [he]

/-- The loop is `eraseDups`' own loop, past the hosts it starts from. -/
theorem eraseDups_loop_eq (hosts : List String) :
    ∀ hostSet, List.eraseDups.loop hosts hostSet =
      hostSet.reverse ++ (addRemotePeers hostSet hosts).map (·.addr) := by
  induction hosts with
  | nil => simp [List.eraseDups.loop, addRemotePeers]
  | cons host hosts ih =>
    intro hostSet
    by_cases hin : host ∈ hostSet
    · simp [List.eraseDups.loop, List.elem_iff.mpr hin, addRemotePeers, hin, ih]
    · have helem : hostSet.elem host = false := by simpa [List.elem_iff] using hin
      simp [List.eraseDups.loop, helem, addRemotePeers, hin, ih]

/-- Starting from `hostSet ++ [addr]` is skipping `addr` from the start. -/
theorem addRemotePeers_filter (addr : String) (hosts : List String) :
    ∀ hostSet, addr ∉ hostSet →
      addRemotePeers hostSet (hosts.filter (· ≠ addr)) = addRemotePeers (hostSet ++ [addr]) hosts := by
  induction hosts with
  | nil => intro _ _; rfl
  | cons host hosts ih =>
    intro hostSet haddr
    by_cases he : host = addr
    · -- `addr` itself: dropped by the filter, skipped from the start
      subst he
      rw [List.filter_cons, if_neg (by simp), ih hostSet haddr]
      simp [addRemotePeers]
    · rw [List.filter_cons, if_pos (by simpa using he)]
      by_cases hin : host ∈ hostSet
      · rw [addRemotePeers, if_pos hin, ih hostSet haddr, addRemotePeers,
          if_pos (List.mem_append_left _ hin)]
      · have hnot : addr ∉ host :: hostSet := by simp [Ne.symm he, haddr]
        rw [addRemotePeers, if_neg hin, ih (host :: hostSet) hnot, addRemotePeers,
          if_neg (by simp [hin, he])]
        rfl

/-- The admin peers are this node, then the remote hosts in the order of their first
occurrence, each once, but `globalMinioAddr`: `GetRemotePeers`' hosts, `globalMinioAddr` removed,
duplicates erased. -/
theorem makeAdminPeers_hosts (globalMinioHost globalMinioAddr localAddr : String)
    (remotePeers : List String) :
    ∃ rest, makeAdminPeers globalMinioHost globalMinioAddr localAddr remotePeers =
        ⟨if globalMinioHost = "" then localAddr else globalMinioAddr, true⟩ :: rest ∧
      (∀ p ∈ rest, p.isLocal = false) ∧
      rest.map (·.addr) = (remotePeers.filter (· ≠ globalMinioAddr)).eraseDups ∧
      (rest.map (·.addr)).Nodup ∧ (rest.map (·.addr)).Sublist remotePeers ∧
      ∀ host, host ∈ rest.map (·.addr) ↔ host ∈ remotePeers ∧ host ≠ globalMinioAddr := by
  obtain ⟨hl, hn, hs, hm⟩ := addRemotePeers_spec [globalMinioAddr] remotePeers
  refine ⟨_, rfl, hl, ?_, hn, hs, fun host => by simpa using hm host⟩
  rw [List.eraseDups, eraseDups_loop_eq, addRemotePeers_filter _ _ [] (List.not_mem_nil _)]
  rfl

/-- Hosts `b, a, c, b` with `a` this node's address: the remote peers are `b` then `c`. -/
example : (makeAdminPeers "a" "a" "l" ["b", "a", "c", "b"]).map (·.addr) = ["a", "b", "c"] := by
  decide

/-! ## `listPeerLocksInfo` -/

/-- Why `listPeerLocksInfo` fails: the most frequent error, or `InsufficientReadQuorum{}`. -/
inductive PeerLocksErr where
  | err (msg : String)
  | insufficientReadQuorum
  deriving DecidableEq, Repr

/-- `errs[idx]` after a peer's `ListLocks`. -/
def answerErr : Except String (List VolumeLockInfo) → Option String
  | .error e => some e
  | .ok _ => none

/-- `allLocks[idx]` after a peer's `ListLocks`: `nil` for a peer that failed. -/
def answerLocks : Except String (List VolumeLockInfo) → List VolumeLockInfo
  | .error _ => []
  | .ok volLocks => volLocks

/-- The resource of a lock report: `nsParam{volume: lockInfo.Bucket, path: lockInfo.Object}`. -/
def paramOf (lockInfo : VolumeLockInfo) : NsParam := ⟨lockInfo.bucket, lockInfo.object⟩

/-- `paramLockMap[param] = append(paramLockMap[param], lockInfo)`. -/
def appendLock : List (NsParam × List VolumeLockInfo) → VolumeLockInfo →
    List (NsParam × List VolumeLockInfo)
  | [], lockInfo => [(paramOf lockInfo, [lockInfo])]
  | (param, volLocks) :: entries, lockInfo =>
    if param = paramOf lockInfo then (param, volLocks ++ [lockInfo]) :: entries
    else (param, volLocks) :: appendLock entries lockInfo

/-- `listPeerLocksInfo(peers, bucket, prefix, duration)` (lines 348-400), on the peers' answers to
`ListLocks`, this node's first. `reduceErrs` gives the count and the value of the most frequent
of the errors, `nil` among them; `mapOrder` is the order in which `range` visits
`paramLockMap`. -/
def listPeerLocksInfo (reduceErrs : List (Option String) → Nat × Option String)
    (mapOrder : List (NsParam × List VolumeLockInfo) → List (NsParam × List VolumeLockInfo))
    (answers : List (Except String (List VolumeLockInfo))) :
    Except PeerLocksErr (List VolumeLockInfo) :=
  match reduceErrs (answers.map answerErr) with
  | (errCount, some err) =>
    if errCount ≥ answers.length / 2 + 1 then .error (.err err) else .error .insufficientReadQuorum
  | (_, none) =>
    let paramLockMap := (answers.map answerLocks).foldl
      (fun paramLockMap nodeLocks => nodeLocks.foldl appendLock paramLockMap) []
    .ok ((mapOrder paramLockMap).flatMap Prod.snd)

/-- The reports of resource `param` among `l`. -/
def reportsOf (l : List VolumeLockInfo) (param : NsParam) : List VolumeLockInfo :=
  l.filter fun lockInfo => paramOf lockInfo = param

/-- Appending to the map of a list of distinct resources: to the entry of its resource, or in a
new entry at the end. -/
theorem appendLock_map (g : NsParam → List VolumeLockInfo) (lockInfo : VolumeLockInfo) :
    ∀ params : List NsParam, params.Nodup →
      appendLock (params.map fun param => (param, g param)) lockInfo =
        if paramOf lockInfo ∈ params then
          params.map fun param =>
            (param, if param = paramOf lockInfo then g param ++ [lockInfo] else g param)
        else (params.map fun param => (param, g param)) ++ [(paramOf lockInfo, [lockInfo])]
  | [], _ => rfl
  | param :: params, hnodup => by
    obtain ⟨hnot, hnodup⟩ := List.nodup_cons.mp hnodup
    by_cases hp : param = paramOf lockInfo
    · subst hp
      have hrest : ∀ q ∈ params, (if q = paramOf lockInfo then g q ++ [lockInfo] else g q) = g q :=
        fun q hq => if_neg fun h : q = paramOf lockInfo => hnot (by rw [← h]; exact hq)
      simp only [List.map_cons, appendLock, if_true, List.mem_cons, true_or]
      congr 1
      exact List.map_congr_left fun q hq => by rw [hrest q hq]
    · simp only [List.map_cons, appendLock, if_neg hp, appendLock_map g lockInfo params hnodup,
        List.mem_cons, Ne.symm hp, false_or]
      split <;> simp [hp]

/-- The map after the loop over `l`: one entry per resource, with its reports in order. -/
theorem foldl_appendLock (l : List VolumeLockInfo) :
    ∃ params : List NsParam, params.Nodup ∧
      (∀ param, param ∈ params ↔ ∃ lockInfo ∈ l, paramOf lockInfo = param) ∧
      l.foldl appendLock [] = params.map fun param => (param, reportsOf l param) := by
  induction l using List.reverseRecOn with
  | nil => exact ⟨[], List.nodup_nil, by simp, rfl⟩
  | append_singleton l lockInfo ih =>
    obtain ⟨params, hnodup, hmem, hmap⟩ := ih
    have hex : ∀ param, (∃ w ∈ l ++ [lockInfo], paramOf w = param) ↔
        (∃ w ∈ l, paramOf w = param) ∨ paramOf lockInfo = param := fun param => by
      simp [or_and_right, exists_or]
    have hreports : ∀ param, reportsOf (l ++ [lockInfo]) param =
        reportsOf l param ++ if paramOf lockInfo = param then [lockInfo] else [] := fun param => by
      simp only [reportsOf, List.filter_append, List.filter_cons, List.filter_nil, decide_eq_true_eq]
    rw [List.foldl_append, hmap, List.foldl_cons, List.foldl_nil, appendLock_map _ _ _ hnodup]
    by_cases hin : paramOf lockInfo ∈ params
    · -- an entry of the resource is there
      refine ⟨params, hnodup, fun param => ?_, ?_⟩
      · rw [hmem, hex]
        exact ⟨.inl, fun h => h.elim id fun h => (hmem _).mp (by rw [← h]; exact hin)⟩
      · rw [if_pos hin]
        refine List.map_congr_left fun param _ => ?_
        rw [hreports]
        by_cases hp : param = paramOf lockInfo <;> simp [hp, eq_comm]
    · -- the first report of the resource
      refine ⟨params ++ [paramOf lockInfo], List.nodup_append.mpr ⟨hnodup, List.nodup_singleton _,
        List.disjoint_singleton.mpr hin⟩, fun param => ?_, ?_⟩
      · rw [List.mem_append, List.mem_singleton, hmem, hex, eq_comm]
      · have hnone : reportsOf l (paramOf lockInfo) = [] := List.filter_eq_nil_iff.mpr
          fun w hw h => hin ((hmem _).mpr ⟨w, hw, of_decide_eq_true h⟩)
        rw [if_neg hin, List.map_append, List.map_singleton, hreports, hnone, if_pos rfl]
        congr 1
        refine List.map_congr_left fun param hp => ?_
        rw [hreports, if_neg fun h => hin (by rw [h]; exact hp), List.append_nil]

/-- No report is lost or repeated by an append to the map. -/
theorem appendLock_perm (lockInfo : VolumeLockInfo) :
    ∀ m : List (NsParam × List VolumeLockInfo),
      ((appendLock m lockInfo).flatMap Prod.snd).Perm (m.flatMap Prod.snd ++ [lockInfo])
  | [] => List.Perm.refl _
  | (param, volLocks) :: m => by
    simp only [appendLock]
    split
    · simp only [List.flatMap_cons, List.append_assoc]
      exact (List.perm_append_comm.append_left _)
    · simp only [List.flatMap_cons, List.append_assoc]
      exact (appendLock_perm lockInfo m).append_left _

/-- No report is lost or repeated by the loop of appends. -/
theorem foldl_appendLock_perm (l : List VolumeLockInfo) :
    ∀ m : List (NsParam × List VolumeLockInfo),
      ((l.foldl appendLock m).flatMap Prod.snd).Perm (m.flatMap Prod.snd ++ l) := by
  induction l with
  | nil => simp
  | cons lockInfo l ih =>
    intro m
    refine (ih _).trans ?_
    simpa using (appendLock_perm lockInfo m).append_right l

theorem flatMap_snd_of_reports (l : List VolumeLockInfo) :
    ∀ entries : List (NsParam × List VolumeLockInfo), (∀ e ∈ entries, e.2 = reportsOf l e.1) →
      entries.flatMap Prod.snd = (entries.map Prod.fst).flatMap (reportsOf l)
  | [], _ => rfl
  | e :: entries, h => by
    rw [List.flatMap_cons, List.map_cons, List.flatMap_cons, h e (.head _),
      flatMap_snd_of_reports l entries fun e' he' => h e' (.tail _ he')]

/-- When the most frequent of the peers' answers is no error, `listPeerLocksInfo` returns every
lock report of the peers that answered, each once: grouped by resource, the resources in the
order the map is visited, each resource's reports in the order of the peers and of their
answers. -/
theorem listPeerLocksInfo_groups (reduceErrs : List (Option String) → Nat × Option String)
    (answers : List (Except String (List VolumeLockInfo))) (errCount : Nat)
    (herr : reduceErrs (answers.map answerErr) = (errCount, none))
    (mapOrder : List (NsParam × List VolumeLockInfo) → List (NsParam × List VolumeLockInfo))
    (hperm : ∀ m, (mapOrder m).Perm m) :
    ∃ params : List NsParam, params.Nodup ∧
      (∀ param, param ∈ params ↔
        ∃ lockInfo ∈ (answers.map answerLocks).flatten, paramOf lockInfo = param) ∧
      listPeerLocksInfo reduceErrs mapOrder answers =
        .ok (params.flatMap (reportsOf (answers.map answerLocks).flatten)) ∧
      (params.flatMap (reportsOf (answers.map answerLocks).flatten)).Perm
        (answers.map answerLocks).flatten := by
  set all := (answers.map answerLocks).flatten
  have hfold : (answers.map answerLocks).foldl
      (fun paramLockMap nodeLocks => nodeLocks.foldl appendLock paramLockMap) [] =
      all.foldl appendLock [] := (List.foldl_flatten _ _ _).symm
  obtain ⟨params, hnodup, hmem, hmap⟩ := foldl_appendLock all
  -- the entries in the order `range` visits them
  have hentries : ∀ e ∈ mapOrder (all.foldl appendLock []), e.2 = reportsOf all e.1 := by
    intro e he
    rw [hmap] at he
    obtain ⟨param, -, rfl⟩ := List.mem_map.mp ((hperm _).mem_iff.mp he)
    rfl
  have hkeys : ((mapOrder (all.foldl appendLock [])).map Prod.fst).Perm params := by
    simpa [hmap, List.map_map, Function.comp_def] using (hperm (all.foldl appendLock [])).map Prod.fst
  have hgrouped : (mapOrder (all.foldl appendLock [])).flatMap Prod.snd =
      ((mapOrder (all.foldl appendLock [])).map Prod.fst).flatMap (reportsOf all) :=
    flatMap_snd_of_reports all _ hentries
  -- every report once, by the appends
  have hall : ((all.foldl appendLock []).flatMap Prod.snd).Perm all := by
    simpa using foldl_appendLock_perm all []
  refine ⟨_, hkeys.nodup_iff.mpr hnodup, fun param => (hkeys.mem_iff).trans (hmem param), ?_, ?_⟩
  · simp only [listPeerLocksInfo, herr, hfold, hgrouped]
  · rw [← hgrouped]
    exact ((hperm _).flatMap_right Prod.snd).trans hall

/-- This node and a peer report locks on `b/o`, the peer also on `b/p`, and a third peer fails. -/
def threeAnswers : List (Except String (List VolumeLockInfo)) :=
  [.ok [⟨"b", "o", 1, 0, 1, []⟩], .error "offline", .ok [⟨"b", "p", 1, 0, 1, []⟩, ⟨"b", "o", 2, 0, 2, []⟩]]

theorem listPeerLocksInfo_groups_three_peers :
    (fun _ => (2, none) : List (Option String) → Nat × Option String) (threeAnswers.map answerErr) =
      (2, none) ∧ (∀ m : List (NsParam × List VolumeLockInfo), (id m).Perm m) ∧
    ∃ params : List NsParam, params.Nodup ∧
      (∀ param, param ∈ params ↔
        ∃ lockInfo ∈ (threeAnswers.map answerLocks).flatten, paramOf lockInfo = param) ∧
      listPeerLocksInfo (fun _ => (2, none)) id threeAnswers =
        .ok (params.flatMap (reportsOf (threeAnswers.map answerLocks).flatten)) ∧
      (params.flatMap (reportsOf (threeAnswers.map answerLocks).flatten)).Perm
        (threeAnswers.map answerLocks).flatten :=
  ⟨rfl, fun _ => List.Perm.refl _,
    listPeerLocksInfo_groups _ threeAnswers 2 rfl id fun _ => List.Perm.refl _⟩

/-- The two reports on `b/o` come together, this node's first. -/
example : ((listPeerLocksInfo (fun _ => (2, none)) id threeAnswers).toOption.getD []).map
    (fun lockInfo => (lockInfo.object, lockInfo.locksOnObject)) = [("o", 1), ("o", 2), ("p", 1)] := by
  decide

end Minio.Admin.Peers
