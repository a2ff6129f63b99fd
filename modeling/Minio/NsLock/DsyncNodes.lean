import Mathlib.Data.List.Nodup
/-!
# `newDsyncNodes`

In a distributed setup every node votes in the `dsync` lock quorum through a list of lockers:
`newDsyncNodes` walks the endpoint list, makes one locker for each host the first time it sees
it, an in-process `localLocker` for the local host (also installed as `globalLockServer`) and
a lock RPC client for every other host, and returns the position of the local one as `myNode`.

`EndpointList` is not part of this repository; an endpoint is modelled by the two fields
`newDsyncNodes` reads. `xnet.ParseHost` and `NewLockRPCClient` are the environment: whether
each succeeds on a host. An error of either goes to `logger.FatalIf`, which ends the process;
the model returns `none` there. A locker is known by the host it was made for.
-/

namespace Minio.NsLock.DsyncNodes

/-- An endpoint: `endpoint.Host` and `endpoint.IsLocal`. -/
structure Endpoint where
  host : String
  isLocal : Bool
  deriving DecidableEq, Repr

/-- A `dsync.NetLocker` as `newDsyncNodes` makes it. -/
inductive NetLocker where
  /-- `&receiver.ll`, the in-process `localLocker` with `serverAddr` -/
  | localLocker (serverAddr : String)
  /-- `NewLockRPCClient(host)` -/
  | lockRPCClient (host : String)
  deriving DecidableEq, Repr

/-- The host a locker was made for. -/
def NetLocker.host : NetLocker → String
  | .localLocker serverAddr => serverAddr
  | .lockRPCClient host => host

/-- The locker runs in this process. -/
def NetLocker.isLocal : NetLocker → Bool
  | .localLocker _ => true
  | .lockRPCClient _ => false

/-- The loop of `newDsyncNodes` over the endpoints left, from `seenHosts`, `clnts`, `myNode` and
`globalLockServer` so far. -/
def newDsyncNodesLoop (parseHost newLockRPCClient : String → Bool) :
    List Endpoint → List String → List NetLocker → Int → Option NetLocker →
      Option (List NetLocker × Int × Option NetLocker)
  | [], _, clnts, myNode, globalLockServer => some (clnts, myNode, globalLockServer)
  | endpoint :: endpoints, seenHosts, clnts, myNode, globalLockServer =>
    if endpoint.host ∈ seenHosts then
      newDsyncNodesLoop parseHost newLockRPCClient endpoints seenHosts clnts myNode globalLockServer
    else if endpoint.isLocal then
      let locker := NetLocker.localLocker endpoint.host
      newDsyncNodesLoop parseHost newLockRPCClient endpoints (endpoint.host :: seenHosts)
        (clnts ++ [locker]) clnts.length (some locker)
    else if !parseHost endpoint.host then none
    else if !newLockRPCClient endpoint.host then none
    else
      newDsyncNodesLoop parseHost newLockRPCClient endpoints (endpoint.host :: seenHosts)
        (clnts ++ [.lockRPCClient endpoint.host]) myNode globalLockServer

/-- `newDsyncNodes(endpoints)`: `clnts`, `myNode` and the `globalLockServer` it leaves, or
`none` when `logger.FatalIf` ends the process. -/
def newDsyncNodes (parseHost newLockRPCClient : String → Bool) (globalLockServer : Option NetLocker)
    (endpoints : List Endpoint) : Option (List NetLocker × Int × Option NetLocker) :=
  newDsyncNodesLoop parseHost newLockRPCClient endpoints [] [] (-1) globalLockServer

/-! ## One locker per host -/

section Run

variable (parseHost newLockRPCClient : String → Bool) (endpoints : List Endpoint)

/-- What the loop keeps after the endpoints `pre`: the hosts seen are those of `pre`, `clnts`
holds one locker for each, in order of first occurrence in `endpoints`, the in-process one
exactly for local hosts, and `myNode` is `-1` until a local endpoint comes and is then the
position of its locker, which is `globalLockServer`. -/
structure LoopInv (pre : List Endpoint) (seenHosts : List String) (clnts : List NetLocker)
    (myNode : Int) (globalLockServer : Option NetLocker) : Prop where
  seen_iff : ∀ h, h ∈ seenHosts ↔ ∃ e ∈ pre, e.host = h
  nodup : (clnts.map NetLocker.host).Nodup
  mem_iff : ∀ h, h ∈ clnts.map NetLocker.host ↔ ∃ e ∈ pre, e.host = h
  ordered : (clnts.map NetLocker.host).Pairwise fun a b =>
    (endpoints.map (·.host)).indexOf a < (endpoints.map (·.host)).indexOf b
  isLocal_iff : ∀ l ∈ clnts, l.isLocal = true ↔ ∃ e ∈ pre, e.host = l.host ∧ e.isLocal = true
  myNode_spec : (myNode = -1 ∧ ∀ e ∈ pre, e.isLocal = false) ∨
    ∃ e ∈ pre, e.isLocal = true ∧ 0 ≤ myNode ∧ clnts[myNode.toNat]? = some (.localLocker e.host) ∧
      globalLockServer = some (.localLocker e.host)

theorem exists_mem_concat {pre : List Endpoint} {e : Endpoint} {P : Endpoint → Prop} :
    (∃ e' ∈ pre ++ [e], P e') ↔ (∃ e' ∈ pre, P e') ∨ P e := by
  simp only [List.mem_append, List.mem_singleton, or_and_right, exists_or, exists_eq_left]

theorem loopInv_nil (globalLockServer : Option NetLocker) :
    LoopInv endpoints [] [] [] (-1) globalLockServer :=
  ⟨fun _ => by simp, List.nodup_nil, fun _ => by simp, List.Pairwise.nil, fun _ h => (nomatch h),
    .inl ⟨rfl, fun _ h => nomatch h⟩⟩

variable {endpoints} {pre : List Endpoint} {seenHosts : List String} {clnts : List NetLocker}
  {myNode : Int} {globalLockServer : Option NetLocker} {e : Endpoint}

/-- An endpoint of a host already seen changes nothing, when a host's endpoints agree on
`IsLocal`. -/
theorem LoopInv.skip
    (hlocal : ∀ e₁ ∈ endpoints, ∀ e₂ ∈ endpoints, e₁.host = e₂.host → e₁.isLocal = e₂.isLocal)
    (hsub : ∀ e' ∈ pre, e' ∈ endpoints) (he : e ∈ endpoints)
    (hI : LoopInv endpoints pre seenHosts clnts myNode globalLockServer)
    (hs : e.host ∈ seenHosts) : LoopInv endpoints (pre ++ [e]) seenHosts clnts myNode globalLockServer := by
  obtain ⟨e₀, he₀, hh₀⟩ := (hI.seen_iff _).mp hs
  have hloc₀ : e₀.isLocal = e.isLocal := hlocal e₀ (hsub e₀ he₀) e he hh₀
  have hhost (h : String) : (∃ e' ∈ pre ++ [e], e'.host = h) ↔ ∃ e' ∈ pre, e'.host = h :=
    exists_mem_concat.trans (or_iff_left_of_imp fun h' => ⟨e₀, he₀, hh₀.trans h'⟩)
  refine ⟨fun h => (hI.seen_iff h).trans (hhost h).symm, hI.nodup,
    fun h => (hI.mem_iff h).trans (hhost h).symm, hI.ordered, fun l hl => ?_, ?_⟩
  · rw [hI.isLocal_iff l hl, exists_mem_concat]
    exact (or_iff_left_of_imp fun ⟨h₁, h₂⟩ => ⟨e₀, he₀, hh₀.trans h₁, hloc₀.trans h₂⟩).symm
  · rcases hI.myNode_spec with ⟨h₁, h₂⟩ | ⟨e', he', h⟩
    · refine .inl ⟨h₁, fun e' he' => ?_⟩
      rcases List.mem_append.mp he' with he' | he'
      · exact h₂ e' he'
      · rw [List.mem_singleton.mp he', ← hloc₀]; exact h₂ e₀ he₀
    · exact .inr ⟨e', List.mem_append_left _ he', h⟩

/-- An endpoint of a new host adds its locker, local or RPC, at the end. -/
theorem LoopInv.add {rest : List Endpoint} (hpre : endpoints = pre ++ e :: rest)
    (hI : LoopInv endpoints pre seenHosts clnts myNode globalLockServer) (hs : e.host ∉ seenHosts) :
    LoopInv endpoints (pre ++ [e]) (e.host :: seenHosts)
      (clnts ++ [if e.isLocal then .localLocker e.host else .lockRPCClient e.host])
      (if e.isLocal then clnts.length else myNode)
      (if e.isLocal then some (.localLocker e.host) else globalLockServer) := by
  set L : NetLocker := if e.isLocal then .localLocker e.host else .lockRPCClient e.host
  have hL : L.host = e.host := by simp only [L]; split <;> rfl
  have hLl : L.isLocal = e.isLocal := by simp only [L]; split <;> simp_all [NetLocker.isLocal]
  have hpre' : ¬∃ e' ∈ pre, e'.host = e.host := fun h => hs ((hI.seen_iff _).mpr h)
  have hnot : e.host ∉ clnts.map NetLocker.host := fun h => hpre' ((hI.mem_iff _).mp h)
  have hhost (h : String) : (∃ e' ∈ pre ++ [e], e'.host = h) ↔ (∃ e' ∈ pre, e'.host = h) ∨ h = e.host :=
    exists_mem_concat.trans (or_congr_right eq_comm)
  refine ⟨fun h => ?_, ?_, fun h => ?_, ?_, fun l hl => ?_, ?_⟩
  · rw [hhost, List.mem_cons, hI.seen_iff, or_comm]
  · rw [List.map_append, List.map_singleton, hL, List.nodup_append]
    exact ⟨hI.nodup, List.nodup_singleton _, List.disjoint_singleton.mpr hnot⟩
  · rw [hhost, List.map_append, List.map_singleton, hL, List.mem_append, List.mem_singleton, hI.mem_iff]
  · rw [List.map_append, List.map_singleton, hL, List.pairwise_append]
    refine ⟨hI.ordered, List.pairwise_singleton _ _, fun a ha b hb => ?_⟩
    obtain ⟨e', he', rfl⟩ := (hI.mem_iff a).mp ha
    have hmem : e'.host ∈ pre.map (·.host) := List.mem_map_of_mem _ he'
    have hnmem : e.host ∉ pre.map (·.host) := fun h => hpre' (by simpa using h)
    have hlt := List.indexOf_lt_length.mpr hmem
    rw [List.mem_singleton.mp hb, hpre, List.map_append, List.indexOf_append_of_mem hmem,
      List.indexOf_append_of_not_mem hnmem, List.map_cons, List.indexOf_cons_self]
    omega
  · rw [exists_mem_concat]
    rcases List.mem_append.mp hl with hl | hl
    · rw [hI.isLocal_iff l hl]
      exact (or_iff_left_of_imp fun ⟨h₁, _⟩ =>
        absurd (h₁ ▸ List.mem_map_of_mem NetLocker.host hl) hnot).symm
    · rw [List.mem_singleton.mp hl, hL, hLl]
      exact ⟨fun h => .inr ⟨rfl, h⟩, fun h => h.elim (fun ⟨e', he', h₁, _⟩ => absurd ⟨e', he', h₁⟩ hpre')
        And.right⟩
  · by_cases hloc : e.isLocal = true
    · simp only [L, hloc, if_true]
      refine .inr ⟨e, List.mem_append_right _ (List.mem_singleton_self e), hloc, by omega, ?_, rfl⟩
      rw [Int.toNat_ofNat, List.getElem?_concat_length]
    · simp only [L, hloc, Bool.false_eq_true, if_false]
      rcases hI.myNode_spec with ⟨h₁, h₂⟩ | ⟨e', he', hl', h₀, hget, hg⟩
      · refine .inl ⟨h₁, fun e' he' => ?_⟩
        rcases List.mem_append.mp he' with he' | he'
        · exact h₂ e' he'
        · rw [List.mem_singleton.mp he']; simpa using hloc
      · have hlen : myNode.toNat < clnts.length := by
          by_contra h; rw [List.getElem?_eq_none (by omega)] at hget; exact nomatch hget
        exact .inr ⟨e', List.mem_append_left _ he', hl', h₀, by rw [List.getElem?_append_left hlen, hget], hg⟩

variable (endpoints)

/-- From a state that keeps the invariant, the loop returns when every remote host parses and
gets its client, with the invariant over all the endpoints. -/
theorem newDsyncNodesLoop_spec
    (hlocal : ∀ e₁ ∈ endpoints, ∀ e₂ ∈ endpoints, e₁.host = e₂.host → e₁.isLocal = e₂.isLocal)
    (hdial : ∀ e ∈ endpoints, e.isLocal = false →
      parseHost e.host = true ∧ newLockRPCClient e.host = true) :
    ∀ (rest pre : List Endpoint) (seenHosts : List String) (clnts : List NetLocker) (myNode : Int)
      (globalLockServer : Option NetLocker), endpoints = pre ++ rest →
      LoopInv endpoints pre seenHosts clnts myNode globalLockServer →
      ∃ seenHosts' clnts' myNode' globalLockServer',
        newDsyncNodesLoop parseHost newLockRPCClient rest seenHosts clnts myNode globalLockServer =
          some (clnts', myNode', globalLockServer') ∧
        LoopInv endpoints endpoints seenHosts' clnts' myNode' globalLockServer'
  | [], pre, seenHosts, clnts, myNode, globalLockServer, hpre, hI =>
    ⟨seenHosts, clnts, myNode, globalLockServer, rfl, by
      rw [List.append_nil] at hpre; subst hpre; exact hI⟩
  | e :: rest, pre, seenHosts, clnts, myNode, globalLockServer, hpre, hI => by
    have he : e ∈ endpoints := hpre ▸ List.mem_append_right _ (List.mem_cons_self _ _)
    have hsub (e' : Endpoint) (h : e' ∈ pre) : e' ∈ endpoints := hpre ▸ List.mem_append_left _ h
    have hpre' : endpoints = (pre ++ [e]) ++ rest := by
      rw [hpre, List.append_assoc, List.singleton_append]
    rw [newDsyncNodesLoop]
    by_cases hs : e.host ∈ seenHosts
    · rw [if_pos hs]
      exact newDsyncNodesLoop_spec hlocal hdial rest _ _ _ _ _ hpre' (hI.skip hlocal hsub he hs)
    rw [if_neg hs]
    have hI' := hI.add hpre hs
    by_cases hloc : e.isLocal = true
    · simp only [hloc, if_true] at hI' ⊢
      exact newDsyncNodesLoop_spec hlocal hdial rest _ _ _ _ _ hpre' hI'
    · have hf : e.isLocal = false := by simpa using hloc
      obtain ⟨hp, hc⟩ := hdial e he hf
      simp only [hf, hp, hc, Bool.false_eq_true, if_false, Bool.not_true] at hI' ⊢
      exact newDsyncNodesLoop_spec hlocal hdial rest _ _ _ _ _ hpre' hI'

end Run

/-- When a host's endpoints agree on `IsLocal`, the local endpoints share one host, and every
remote host parses and gets its lock RPC client, `newDsyncNodes` returns one locker per
distinct host, in order of first occurrence: the in-process `localLocker` for the local host,
at position `myNode` and installed as `globalLockServer`, and an RPC client for every other;
`myNode` is `-1` exactly when no endpoint is local. -/
theorem newDsyncNodes_one_locker_per_host (parseHost newLockRPCClient : String → Bool)
    (globalLockServer : Option NetLocker) (endpoints : List Endpoint)
    (hlocal : ∀ e₁ ∈ endpoints, ∀ e₂ ∈ endpoints, e₁.host = e₂.host → e₁.isLocal = e₂.isLocal)
    (hone : ∀ e₁ ∈ endpoints, ∀ e₂ ∈ endpoints, e₁.isLocal = true → e₂.isLocal = true →
      e₁.host = e₂.host)
    (hdial : ∀ e ∈ endpoints, e.isLocal = false →
      parseHost e.host = true ∧ newLockRPCClient e.host = true) :
    ∃ clnts myNode globalLockServer',
      newDsyncNodes parseHost newLockRPCClient globalLockServer endpoints =
        some (clnts, myNode, globalLockServer') ∧
      (clnts.map NetLocker.host).Nodup ∧
      (∀ h, h ∈ clnts.map NetLocker.host ↔ ∃ e ∈ endpoints, e.host = h) ∧
      (clnts.map NetLocker.host).Pairwise (fun a b =>
        (endpoints.map (·.host)).indexOf a < (endpoints.map (·.host)).indexOf b) ∧
      (∀ l ∈ clnts, l.isLocal = true ↔ ∃ e ∈ endpoints, e.host = l.host ∧ e.isLocal = true) ∧
      (myNode = -1 ↔ ∀ e ∈ endpoints, e.isLocal = false) ∧
      ∀ e ∈ endpoints, e.isLocal = true → 0 ≤ myNode ∧
        clnts[myNode.toNat]? = some (.localLocker e.host) ∧
        globalLockServer' = some (.localLocker e.host) := by
  obtain ⟨_, clnts, myNode, globalLockServer', hrun, hI⟩ :=
    newDsyncNodesLoop_spec parseHost newLockRPCClient endpoints hlocal hdial endpoints [] [] [] (-1)
      globalLockServer rfl (loopInv_nil endpoints globalLockServer)
  refine ⟨clnts, myNode, globalLockServer', hrun, hI.nodup, hI.mem_iff, hI.ordered, hI.isLocal_iff,
    ?_, fun e he hl => ?_⟩
  · rcases hI.myNode_spec with ⟨h₁, h₂⟩ | ⟨e, he, hl, h₀, _⟩
    · exact iff_of_true h₁ h₂
    · exact iff_of_false (by omega) fun h => absurd (h e he) (by simp [hl])
  · rcases hI.myNode_spec with ⟨_, h₂⟩ | ⟨e', he', hl', h₀, hget, hg⟩
    · exact absurd (h₂ e he) (by simp [hl])
    · rw [hone e' he' e he hl' hl] at hget hg
      exact ⟨h₀, hget, hg⟩

/-- A local host and two remote hosts, each with repeated endpoints. -/
def threeHosts : List Endpoint :=
  [⟨"a:9000", true⟩, ⟨"b:9000", false⟩, ⟨"a:9000", true⟩, ⟨"c:9000", false⟩, ⟨"b:9000", false⟩]

theorem newDsyncNodes_one_locker_per_host_three_hosts :
    (∀ e₁ ∈ threeHosts, ∀ e₂ ∈ threeHosts, e₁.host = e₂.host → e₁.isLocal = e₂.isLocal) ∧
    (∀ e₁ ∈ threeHosts, ∀ e₂ ∈ threeHosts, e₁.isLocal = true → e₂.isLocal = true →
      e₁.host = e₂.host) ∧
    (∀ e ∈ threeHosts, e.isLocal = false →
      (fun _ => true : String → Bool) e.host = true ∧ (fun _ => true : String → Bool) e.host = true) ∧
    ∃ clnts myNode globalLockServer',
      newDsyncNodes (fun _ => true) (fun _ => true) none threeHosts =
        some (clnts, myNode, globalLockServer') ∧
      (clnts.map NetLocker.host).Nodup ∧
      (∀ h, h ∈ clnts.map NetLocker.host ↔ ∃ e ∈ threeHosts, e.host = h) ∧
      (clnts.map NetLocker.host).Pairwise (fun a b =>
        (threeHosts.map (·.host)).indexOf a < (threeHosts.map (·.host)).indexOf b) ∧
      (∀ l ∈ clnts, l.isLocal = true ↔ ∃ e ∈ threeHosts, e.host = l.host ∧ e.isLocal = true) ∧
      (myNode = -1 ↔ ∀ e ∈ threeHosts, e.isLocal = false) ∧
      ∀ e ∈ threeHosts, e.isLocal = true → 0 ≤ myNode ∧
        clnts[myNode.toNat]? = some (.localLocker e.host) ∧
        globalLockServer' = some (.localLocker e.host) :=
  have hlocal : ∀ e₁ ∈ threeHosts, ∀ e₂ ∈ threeHosts, e₁.host = e₂.host → e₁.isLocal = e₂.isLocal := by
    decide
  have hone : ∀ e₁ ∈ threeHosts, ∀ e₂ ∈ threeHosts, e₁.isLocal = true → e₂.isLocal = true →
      e₁.host = e₂.host := by decide
  have hdial : ∀ e ∈ threeHosts, e.isLocal = false →
      (fun _ => true : String → Bool) e.host = true ∧ (fun _ => true : String → Bool) e.host = true :=
    fun _ _ _ => ⟨rfl, rfl⟩
  ⟨hlocal, hone, hdial,
    newDsyncNodes_one_locker_per_host (fun _ => true) (fun _ => true) none threeHosts hlocal hone hdial⟩

example : newDsyncNodes (fun _ => true) (fun _ => true) none threeHosts =
    some ([.localLocker "a:9000", .lockRPCClient "b:9000", .lockRPCClient "c:9000"], 0,
      some (.localLocker "a:9000")) := rfl

/-- A remote host that `xnet.ParseHost` rejects ends the process, though the endpoints meet both
conditions on `IsLocal`. -/
theorem newDsyncNodes_unparsable_host_exits :
    (∀ e₁ ∈ [Endpoint.mk "a:9000" true, ⟨"b:bad", false⟩], ∀ e₂ ∈ [Endpoint.mk "a:9000" true, ⟨"b:bad", false⟩],
      e₁.host = e₂.host → e₁.isLocal = e₂.isLocal) ∧
    (∀ e₁ ∈ [Endpoint.mk "a:9000" true, ⟨"b:bad", false⟩], ∀ e₂ ∈ [Endpoint.mk "a:9000" true, ⟨"b:bad", false⟩],
      e₁.isLocal = true → e₂.isLocal = true → e₁.host = e₂.host) ∧
    newDsyncNodes (fun h => h != "b:bad") (fun _ => true) none
      [⟨"a:9000", true⟩, ⟨"b:bad", false⟩] = none :=
  ⟨by decide, by decide, rfl⟩

end Minio.NsLock.DsyncNodes
