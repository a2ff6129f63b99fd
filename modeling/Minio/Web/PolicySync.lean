import Minio.Web.Access
import Mathlib.Logic.Function.Basic
/-!
# Bucket policies across the nodes of a deployment

Every node of a distributed deployment keeps the bucket policies in memory (`globalPolicySys`)
and enforces them on anonymous requests; the object layer, which the nodes share, stores them.
The browser's `SetBucketPolicy`, served by any node, reads the bucket's stored policy and
computes the new one. When statements are left, it stores the new policy, sets it on its own
node, and sends it to every other node (`globalNotificationSys.SetBucketPolicy`), where
`peerRPCReceiver.SetBucketPolicy` sets it. When none is left, it deletes the stored policy and
removes it from its own node only: no other node is told.

No lock orders a call against the others. A call is a thread with a program counter
(`PolicyPc`): its checks and the read of the stored policy, the object layer's write, the local
`Set`, and one send to each peer are separate steps, and a server (`PolicyServer`) runs one
step of one call at a time, in any order.

* `policy_sync_run`: over any interleaving of the steps of any calls served by any nodes, with
  any lost messages, a node's policy for a bucket is always one the store held for the bucket
  after some prefix of the run. When the calls run one at a time and every message reaches
  every node, all nodes hold the stored policy of every bucket that has one. Two calls that
  overlap can leave every node on a policy the store no longer holds, every message delivered.
  A call that removes a bucket's policy clears it in the store and on the serving node only.

The policy library (`miniogopolicy.SetPolicy`, the conversions between a `policy.Policy` and its
statements, `IsValidBucketPolicy`), the object layer and `NotificationSys` are not in the
source: the handler takes the library as functions and the object layer's failures as inputs.
`NotificationSys.SetBucketPolicy` sends to each peer concurrently, and the handler waits for
every send; a send reaches its peer or is lost. A Go map is a function here. The lines of the
web handler are those of `gateway/b2/gateway-b2_test.go`.
-/

namespace Minio.Web.PolicySync

open Minio.Web.Access

variable {ι P S : Type}

/-- The policy library `SetBucketPolicy` calls, not in the source, for policies `P` and their
statements `S`. -/
structure PolicyLib (P S : Type) where
  /-- `miniogopolicy.BucketPolicy(policy).IsValidBucketPolicy()` -/
  isValidBucketPolicy : String → Bool
  /-- `PolicyToBucketAccessPolicy(bucketPolicy)`; `none` is the `nil` policy of a bucket with
  none stored -/
  policyToBucketAccessPolicy : Option P → Except String (List S)
  /-- `BucketAccessPolicyToPolicy(policyInfo)` -/
  bucketAccessPolicyToPolicy : List S → Except String P
  /-- `miniogopolicy.SetPolicy(statements, policyType, bucketName, prefix)` -/
  setPolicy : List S → String → String → String → List S

/-- A node: whether its object layer is initialized (`newObjectLayerFn() != nil`), and its
`globalPolicySys`, the policy of each bucket. -/
structure Node (P : Type) where
  objectLayer : Bool
  policies : String → Option P

/-- A deployment: the policies its object layer stores, and its nodes. -/
@[ext] structure Cluster (ι P : Type) where
  stored : String → Option P
  nodes : ι → Node P

/-- `peerRPCReceiver.SetBucketPolicy` (peer-rpc-server.go, lines 68-76) on a node. -/
def receiveSetBucketPolicy (node : Node P) (bucketName : String) (policy : P) :
    Node P × Option WebErr :=
  if !node.objectLayer then (node, some .serverNotInitialized)
  else ({ node with policies := Function.update node.policies bucketName (some policy) }, none)

/-- `SetBucketPolicyWebArgs` -/
structure SetBucketPolicyWebArgs where
  bucketName : String
  pathPrefix : String
  policy : String
  deriving DecidableEq

/-- The object layer's failures in one call: the error of `GetBucketPolicy` other than
`BucketPolicyNotFound`, and those of `DeleteBucketPolicy` and `SetBucketPolicy`. -/
structure PolicyFaults where
  getErr : Option String
  deleteErr : Option String
  setErr : Option String
  deriving DecidableEq

/-- A browser `SetBucketPolicy` call: the node that serves it, whether its token is the owner's
(`isHTTPRequestValid(r)`), the object layer's failures, the peers of the node's
`globalNotificationSys` and those a send reaches, and its arguments. -/
structure PolicyCall (ι : Type) where
  node : ι
  owner : Bool
  faults : PolicyFaults
  peers : List ι
  delivered : ι → Bool
  args : SetBucketPolicyWebArgs

/-- Where a call stands: at its start; about to store the new policy (`DeleteBucketPolicy` for
`none`); about to set it on its node (`globalPolicySys.Remove` for `none`); sending it to the
peers still `pending`; returned. -/
inductive PolicyPc (ι P : Type) where
  | start
  | write (policy : Option P)
  | setLocal (policy : Option P)
  | notify (policy : P) (pending : List ι)
  | returned (err : Option WebErr)
  deriving DecidableEq

/-- `globalPolicySys.Set(bucketName, policy)` on node `i`, `Remove` for `none`. -/
def Cluster.setLocal [DecidableEq ι] (c : Cluster ι P) (i : ι) (bucketName : String)
    (policy : Option P) : Cluster ι P :=
  let node := { c.nodes i with policies := Function.update (c.nodes i).policies bucketName policy }
  { c with nodes := Function.update c.nodes i node }

/-- The send to peer `j`: `peerRPCReceiver.SetBucketPolicy` runs there when the send
`arrives`. -/
def Cluster.deliver [DecidableEq ι] (c : Cluster ι P) (j : ι) (arrives : Bool)
    (bucketName : String) (policy : P) : Cluster ι P :=
  if arrives then
    { c with nodes := Function.update c.nodes j (receiveSetBucketPolicy (c.nodes j) bucketName policy).1 }
  else c

/-- One step of `SetBucketPolicy` (lines 1128-1191) for `call` standing at `pc`; a send goes to
peer `j` when `j` is pending. The first step makes the checks, reads the stored policy
(`GetBucketPolicy`) and computes the new one; each later step is one call to the object layer,
to `globalPolicySys`, or to one peer. -/
def policyStep [DecidableEq ι] (lib : PolicyLib P S) (call : PolicyCall ι) (c : Cluster ι P) :
    PolicyPc ι P → ι → Cluster ι P × PolicyPc ι P
  | .start, _ =>
    if !(c.nodes call.node).objectLayer then (c, .returned (some .serverNotInitialized))
    else if !call.owner then (c, .returned (some .authentication))
    else if !lib.isValidBucketPolicy call.args.policy then
      (c, .returned (some (.other ("Invalid policy type " ++ call.args.policy))))
    else match call.faults.getErr with
      | some e => (c, .returned (some (.other e)))
      | none =>
        match lib.policyToBucketAccessPolicy (c.stored call.args.bucketName) with
        | .error e => (c, .returned (some (.other e)))
        | .ok statements =>
          let statements :=
            lib.setPolicy statements call.args.policy call.args.bucketName call.args.pathPrefix
          if statements.isEmpty then (c, .write none)
          else match lib.bucketAccessPolicyToPolicy statements with
            | .error e => (c, .returned (some (.other e)))
            | .ok bucketPolicy => (c, .write (some bucketPolicy))
  | .write none, _ =>
    match call.faults.deleteErr with
    | some e => (c, .returned (some (.other e)))
    | none => ({ c with stored := Function.update c.stored call.args.bucketName none }, .setLocal none)
  | .write (some bucketPolicy), _ =>
    match call.faults.setErr with
    | some e => (c, .returned (some (.other e)))
    | none =>
      ({ c with stored := Function.update c.stored call.args.bucketName (some bucketPolicy) },
        .setLocal (some bucketPolicy))
  | .setLocal none, _ => (c.setLocal call.node call.args.bucketName none, .returned none)
  | .setLocal (some bucketPolicy), _ =>
    (c.setLocal call.node call.args.bucketName (some bucketPolicy), .notify bucketPolicy call.peers)
  | .notify bucketPolicy pending, j =>
    if j ∈ pending then
      (c.deliver j (call.delivered j) call.args.bucketName bucketPolicy,
        .notify bucketPolicy (pending.erase j))
    else if pending.isEmpty then (c, .returned none)
    else (c, .notify bucketPolicy pending)
  | .returned result, _ => (c, .returned result)

/-- A deployment serving calls: its cluster, and each call with where it stands. -/
structure PolicyServer (ι P : Type) where
  cluster : Cluster ι P
  calls : List (PolicyCall ι × PolicyPc ι P)

/-- Call `k` takes a step, sending to peer `j` if it is sending; there is no step without a call
`k`. -/
def PolicyServer.step [DecidableEq ι] (lib : PolicyLib P S) (s : PolicyServer ι P) (k : Nat)
    (j : ι) : PolicyServer ι P :=
  match s.calls[k]? with
  | none => s
  | some (call, pc) =>
    let r := policyStep lib call s.cluster pc j
    ⟨r.1, s.calls.set k (call, r.2)⟩

/-- A run: the steps of the schedule, in order. -/
def PolicyServer.run [DecidableEq ι] (lib : PolicyLib P S) (s : PolicyServer ι P)
    (sched : List (Nat × ι)) : PolicyServer ι P :=
  sched.foldl (fun s a => s.step lib a.1 a.2) s

/-- The steps of `call` alone from `pc`, each given the next peer. -/
def PolicyCall.runFrom [DecidableEq ι] (lib : PolicyLib P S) (call : PolicyCall ι)
    (c : Cluster ι P) (pc : PolicyPc ι P) (js : List ι) : Cluster ι P × PolicyPc ι P :=
  js.foldl (fun r j => policyStep lib call r.1 r.2 j) (c, pc)

/-- `call` run alone from its start until it returns: three steps to its local `Set`, one send
to each peer in the order of `peers`, and its return. -/
def PolicyCall.runAlone [DecidableEq ι] (lib : PolicyLib P S) (call : PolicyCall ι)
    (c : Cluster ι P) : Cluster ι P × PolicyPc ι P :=
  call.runFrom lib c .start ([call.node, call.node, call.node] ++ call.peers ++ [call.node])

/-! ## What a step does -/

section Step

variable [DecidableEq ι]

@[simp] theorem setLocal_stored (c : Cluster ι P) (i : ι) (b : String) (v : Option P) :
    (c.setLocal i b v).stored = c.stored := rfl

@[simp] theorem setLocal_objectLayer (c : Cluster ι P) (i j : ι) (b : String) (v : Option P) :
    ((c.setLocal i b v).nodes j).objectLayer = (c.nodes j).objectLayer := by
  simp only [Cluster.setLocal, Function.update_apply]
  split <;> simp_all

theorem setLocal_policies (c : Cluster ι P) (i j : ι) (b b' : String) (v : Option P) :
    ((c.setLocal i b v).nodes j).policies b' =
      if j = i ∧ b' = b then v else (c.nodes j).policies b' := by
  simp only [Cluster.setLocal, Function.update_apply]
  by_cases hj : j = i <;> by_cases hb : b' = b <;> simp [hj, hb]

@[simp] theorem deliver_stored (c : Cluster ι P) (j : ι) (arrives : Bool) (b : String) (p : P) :
    (c.deliver j arrives b p).stored = c.stored := by
  unfold Cluster.deliver; split <;> rfl

@[simp] theorem deliver_objectLayer (c : Cluster ι P) (j j' : ι) (arrives : Bool) (b : String)
    (p : P) : ((c.deliver j arrives b p).nodes j').objectLayer = (c.nodes j').objectLayer := by
  unfold Cluster.deliver receiveSetBucketPolicy
  by_cases hj : j' = j
  · subst hj; cases arrives <;> cases h : (c.nodes j').objectLayer <;> simp [h]
  · cases arrives <;> simp [hj]

theorem deliver_policies (c : Cluster ι P) (j j' : ι) (arrives : Bool) (b b' : String) (p : P) :
    ((c.deliver j arrives b p).nodes j').policies b' =
      if j' = j ∧ arrives = true ∧ (c.nodes j).objectLayer = true ∧ b' = b then some p
      else (c.nodes j').policies b' := by
  simp only [Cluster.deliver, receiveSetBucketPolicy, Function.update_apply]
  by_cases hj : j' = j
  · subst hj
    cases arrives <;> cases hl : (c.nodes j').objectLayer <;> by_cases hb : b' = b <;> simp [hl, hb]
  · cases arrives <;> simp [hj]

/-- The policy a call has stored and is setting on the nodes, from its write to the store until
it returns. -/
def PolicyPc.carried : PolicyPc ι P → Option (Option P)
  | .setLocal v => some v
  | .notify p _ => some (some p)
  | _ => none

variable (lib : PolicyLib P S) (call : PolicyCall ι)

/-- The first step returns, or goes on to the write with the cluster as it was. -/
theorem start_cases (c : Cluster ι P) (j : ι) :
    (∃ r, policyStep lib call c .start j = (c, .returned r)) ∨
      ∃ v, policyStep lib call c .start j = (c, .write v) := by
  simp only [policyStep]
  repeat (split; · exact .inl ⟨_, rfl⟩)
  split
  · exact .inr ⟨_, rfl⟩
  · split
    · exact .inl ⟨_, rfl⟩
    · exact .inr ⟨_, rfl⟩

/-- The write returns the object layer's error, or stores the policy. -/
theorem write_cases (c : Cluster ι P) (v : Option P) (j : ι) :
    (∃ r, policyStep lib call c (.write v) j = (c, .returned r)) ∨
      policyStep lib call c (.write v) j =
        ({ c with stored := Function.update c.stored call.args.bucketName v }, .setLocal v) := by
  rcases v with _ | p <;> simp only [policyStep] <;> split <;> simp

/-- What one step can do: nothing to the cluster; the write of the policy it computed to the
store; the local `Set` or `Remove` of the policy it carries; or one send of it. -/
theorem policyStep_cases (c : Cluster ι P) (pc : PolicyPc ι P) (j : ι) :
    ((policyStep lib call c pc j).1 = c ∧ ((policyStep lib call c pc j).2.carried = none ∨
        (policyStep lib call c pc j).2.carried = pc.carried)) ∨
      (∃ v, pc = .write v ∧ (policyStep lib call c pc j).2 = .setLocal v ∧
        (policyStep lib call c pc j).1 =
          { c with stored := Function.update c.stored call.args.bucketName v }) ∨
      (∃ v, pc.carried = some v ∧ ((policyStep lib call c pc j).2.carried = none ∨
          (policyStep lib call c pc j).2.carried = pc.carried) ∧
        (policyStep lib call c pc j).1 = c.setLocal call.node call.args.bucketName v) ∨
      (∃ p, pc.carried = some (some p) ∧ (policyStep lib call c pc j).2.carried = pc.carried ∧
        (policyStep lib call c pc j).1 =
          c.deliver j (call.delivered j) call.args.bucketName p) := by
  cases pc with
  | start =>
    -- the checks and the read change nothing
    rcases start_cases lib call c j with ⟨r, h⟩ | ⟨v, h⟩ <;> rw [h] <;> exact .inl ⟨rfl, .inl rfl⟩
  | write v =>
    rcases write_cases lib call c v j with ⟨r, h⟩ | h <;> rw [h]
    · exact .inl ⟨rfl, .inl rfl⟩
    · exact .inr (.inl ⟨v, rfl, rfl, rfl⟩)
  | setLocal v =>
    rcases v with _ | p
    · exact .inr (.inr (.inl ⟨none, rfl, .inl rfl, rfl⟩))
    · exact .inr (.inr (.inl ⟨some p, rfl, .inr rfl, rfl⟩))
  | notify p pending =>
    simp only [policyStep]
    split
    · exact .inr (.inr (.inr ⟨p, rfl, rfl, rfl⟩))
    · split
      · exact .inl ⟨rfl, .inl rfl⟩
      · exact .inl ⟨rfl, .inr rfl⟩
  | returned r => exact .inl ⟨rfl, .inl rfl⟩

theorem policyStep_objectLayer (c : Cluster ι P) (pc : PolicyPc ι P) (j j' : ι) :
    ((policyStep lib call c pc j).1.nodes j').objectLayer = (c.nodes j').objectLayer := by
  rcases policyStep_cases lib call c pc j with ⟨h, -⟩ | ⟨v, -, -, h⟩ | ⟨v, -, -, h⟩ | ⟨p, -, -, h⟩ <;>
    simp [h]

/-- A step leaves a node's policy for a bucket, or sets the one the call carries, for the call's
bucket. -/
theorem policyStep_policies (c : Cluster ι P) (pc : PolicyPc ι P) (j j' : ι) (b : String) :
    ((policyStep lib call c pc j).1.nodes j').policies b = (c.nodes j').policies b ∨
      (b = call.args.bucketName ∧
        pc.carried = some (((policyStep lib call c pc j).1.nodes j').policies b)) := by
  rcases policyStep_cases lib call c pc j with ⟨h, -⟩ | ⟨v, -, -, h⟩ | ⟨v, hv, -, h⟩ | ⟨p, hp, -, h⟩
  · exact .inl (by rw [h])
  · exact .inl (by rw [h])
  · rw [h, setLocal_policies]
    split
    · rename_i hjb; exact .inr ⟨hjb.2, hv⟩
    · exact .inl rfl
  · rw [h, deliver_policies]
    split
    · rename_i hjb; exact .inr ⟨hjb.2.2.2, hp⟩
    · exact .inl rfl

end Step

/-! ## Any interleaving: what a node holds was stored -/

section Interleaved

variable [DecidableEq ι] (lib : PolicyLib P S)

theorem run_append_singleton (s : PolicyServer ι P) (sched : List (Nat × ι)) (a : Nat × ι) :
    s.run lib (sched ++ [a]) = (s.run lib sched).step lib a.1 a.2 := by
  simp [PolicyServer.run, List.foldl_append]

/-- What a run keeps, dated by the prefixes of its schedule: every node's policy for a bucket,
and every policy a call carries, is one the store held for the bucket after some prefix. -/
def Dated (s₀ : PolicyServer ι P) (sched : List (Nat × ι)) : Prop :=
  (∀ j b, ∃ k ≤ sched.length,
    (s₀.run lib (sched.take k)).cluster.stored b = ((s₀.run lib sched).cluster.nodes j).policies b) ∧
  ∀ call pc, (call, pc) ∈ (s₀.run lib sched).calls → ∀ v, pc.carried = some v →
    ∃ k ≤ sched.length, (s₀.run lib (sched.take k)).cluster.stored call.args.bucketName = v

/-- A run that starts with the nodes holding the stored policies and no call past its start is
`Dated`. -/
theorem dated_nil (s₀ : PolicyServer ι P) (hagree : ∀ j, (s₀.cluster.nodes j).policies = s₀.cluster.stored)
    (hstart : ∀ x ∈ s₀.calls, x.2.carried = none) : Dated lib s₀ [] := by
  refine ⟨fun j b => ⟨0, le_rfl, by simp [PolicyServer.run, hagree]⟩, fun call pc h v hv => ?_⟩
  simp [PolicyServer.run, hstart _ h] at hv

/-- One more step keeps `Dated`: a value a step sets on a node is one its call carries, and a
call carries a value from the step that stored it. -/
theorem Dated.step {s₀ : PolicyServer ι P} {sched : List (Nat × ι)} (h : Dated lib s₀ sched)
    (a : Nat × ι) : Dated lib s₀ (sched ++ [a]) := by
  obtain ⟨hnodes, hcalls⟩ := h
  have htake : ∀ k ≤ sched.length, (sched ++ [a]).take k = sched.take k :=
    fun k hk => List.take_append_of_le_length hk
  have hlen : (sched ++ [a]).length = sched.length + 1 := by simp
  -- evidence dated by a prefix of `sched` dates the longer run too
  have hold : ∀ (b : String) (v : Option P), (∃ k ≤ sched.length,
      (s₀.run lib (sched.take k)).cluster.stored b = v) →
      ∃ k ≤ (sched ++ [a]).length, (s₀.run lib ((sched ++ [a]).take k)).cluster.stored b = v :=
    fun b v ⟨k, hk, hv⟩ => ⟨k, by omega, by rw [htake k hk, hv]⟩
  rw [Dated, run_append_singleton]
  simp only [PolicyServer.step]
  split
  · exact ⟨fun j b => hold _ _ (hnodes j b), fun call pc h v hv => hold _ _ (hcalls call pc h v hv)⟩
  rename_i call pc hk
  have hmem : (call, pc) ∈ (s₀.run lib sched).calls := List.getElem?_mem hk
  refine ⟨fun j b => ?_, fun call' pc' h v hv => ?_⟩
  · rcases policyStep_policies lib call _ pc a.2 j b with hb | ⟨rfl, hv⟩
    · rw [hb]; exact hold _ _ (hnodes j b)
    · exact hold _ _ (hcalls call pc hmem _ hv)
  · rcases List.mem_or_eq_of_mem_set h with h | h
    · exact hold _ _ (hcalls call' pc' h v hv)
    · -- the stepping call: it carries what it carried, or what it has just stored
      obtain ⟨rfl, rfl⟩ := Prod.mk.inj h
      rcases policyStep_cases lib call' (s₀.run lib sched).cluster pc a.2 with
        ⟨-, hc | hc⟩ | ⟨w, -, hpc, hst⟩ | ⟨w, -, hc | hc, -⟩ | ⟨p, -, hc, -⟩
      · rw [hc] at hv; cases hv
      · rw [hc] at hv; exact hold _ _ (hcalls call' pc hmem v hv)
      · rw [hpc] at hv
        cases hv
        refine ⟨sched.length + 1, by rw [hlen], ?_⟩
        rw [List.take_of_length_le (by rw [hlen]), run_append_singleton]
        simp [PolicyServer.step, hk, hst]
      · rw [hc] at hv; cases hv
      · rw [hc] at hv; exact hold _ _ (hcalls call' pc hmem v hv)
      · rw [hc] at hv; exact hold _ _ (hcalls call' pc hmem v hv)

theorem Dated.run {s₀ : PolicyServer ι P} (h : Dated lib s₀ []) :
    ∀ sched, Dated lib s₀ sched := by
  intro sched
  induction sched using List.reverseRecOn with
  | nil => exact h
  | append_singleton sched a ih => exact ih.step lib a

end Interleaved

/-! ## Calls one at a time -/

/-- What a call run alone that succeeds does: bucket `b`'s stored policy becomes `v`, and so does
node `i`'s; a policy that is set also reaches every other node its send reaches that has its
object layer. -/
def Cluster.commit [DecidableEq ι] (c : Cluster ι P) (i : ι) (reach : ι → Bool) (b : String)
    (v : Option P) : Cluster ι P where
  stored := Function.update c.stored b v
  nodes j :=
    if j = i ∨ (v.isSome && reach j && (c.nodes j).objectLayer) = true then
      { c.nodes j with policies := Function.update (c.nodes j).policies b v }
    else c.nodes j

section Alone

variable [DecidableEq ι] (lib : PolicyLib P S) (call : PolicyCall ι)

@[simp] theorem commit_stored (c : Cluster ι P) (i : ι) (reach : ι → Bool) (b : String)
    (v : Option P) : (c.commit i reach b v).stored = Function.update c.stored b v := rfl

@[simp] theorem commit_objectLayer (c : Cluster ι P) (i : ι) (reach : ι → Bool) (b : String)
    (v : Option P) (j : ι) : ((c.commit i reach b v).nodes j).objectLayer = (c.nodes j).objectLayer := by
  simp only [Cluster.commit]
  split <;> rfl

/-- A node's policy after a commit: `v` for bucket `b` on the nodes it reaches, else as before. -/
theorem commit_policies (c : Cluster ι P) (i : ι) (reach : ι → Bool) (b : String) (v : Option P)
    (j : ι) (b' : String) :
    ((c.commit i reach b v).nodes j).policies b' =
      if b' = b ∧ (j = i ∨ (v.isSome && reach j && (c.nodes j).objectLayer) = true) then v
      else (c.nodes j).policies b' := by
  simp only [Cluster.commit]
  by_cases hj : j = i ∨ (v.isSome && reach j && (c.nodes j).objectLayer) = true
  · by_cases hb : b' = b
    · rw [if_pos hj, if_pos ⟨hb, hj⟩, hb]
      exact Function.update_same _ _ _
    · rw [if_pos hj, if_neg fun h => hb h.1]
      exact Function.update_noteq hb _ _
  · rw [if_neg hj, if_neg fun h => hj h.2]

@[simp] theorem runFrom_nil (c : Cluster ι P) (pc : PolicyPc ι P) :
    call.runFrom lib c pc [] = (c, pc) := rfl

theorem runFrom_cons (c : Cluster ι P) (pc : PolicyPc ι P) (j : ι) (js : List ι) :
    call.runFrom lib c pc (j :: js) =
      call.runFrom lib (policyStep lib call c pc j).1 (policyStep lib call c pc j).2 js := rfl

theorem runFrom_append (c : Cluster ι P) (pc : PolicyPc ι P) (js ks : List ι) :
    call.runFrom lib c pc (js ++ ks) =
      call.runFrom lib (call.runFrom lib c pc js).1 (call.runFrom lib c pc js).2 ks := by
  simp [PolicyCall.runFrom, List.foldl_append]

theorem runFrom_returned (c : Cluster ι P) (r : Option WebErr) :
    ∀ js, call.runFrom lib c (.returned r) js = (c, .returned r)
  | [] => rfl
  | _ :: js => runFrom_returned c r js

/-- The sends to the peers `pending`, in their order, from a call sending to exactly them. -/
theorem runFrom_notify (p : P) :
    ∀ (pending : List ι) (c : Cluster ι P), call.runFrom lib c (.notify p pending) pending =
      (pending.foldl (fun c j => c.deliver j (call.delivered j) call.args.bucketName p) c,
        .notify p [])
  | [], _ => rfl
  | j :: pending, c => by
    rw [runFrom_cons]
    simp only [policyStep, List.mem_cons_self, if_true, List.erase_cons_head]
    exact runFrom_notify p pending _

theorem foldl_deliver_stored (b : String) (p : P) :
    ∀ (pending : List ι) (c : Cluster ι P),
      (pending.foldl (fun c j => c.deliver j (call.delivered j) b p) c).stored = c.stored
  | [], _ => rfl
  | j :: pending, c => by rw [List.foldl_cons, foldl_deliver_stored b p pending, deliver_stored]

theorem foldl_deliver_nodes (b : String) (p : P) :
    ∀ (pending : List ι) (c : Cluster ι P) (j : ι),
      (pending.foldl (fun c j => c.deliver j (call.delivered j) b p) c).nodes j =
        if j ∈ pending ∧ call.delivered j = true ∧ (c.nodes j).objectLayer = true then
          { c.nodes j with policies := Function.update (c.nodes j).policies b (some p) }
        else c.nodes j
  | [], c, j => by simp
  | j' :: pending, c, j => by
    rw [List.foldl_cons, foldl_deliver_nodes b p pending, deliver_objectLayer]
    simp only [Cluster.deliver, receiveSetBucketPolicy, Function.update_apply]
    by_cases hj : j = j'
    · subst hj
      cases call.delivered j <;> cases (c.nodes j).objectLayer <;> simp
    · cases call.delivered j' <;> simp [hj]

/-- A call run alone leaves the cluster as it was, or commits a policy for its bucket on its node
and on the peers its sends reach. -/
theorem runAlone_cases (c : Cluster ι P) :
    (call.runAlone lib c).1 = c ∨ ∃ v, (call.runAlone lib c).1 =
      c.commit call.node (fun j => decide (j ∈ call.peers) && call.delivered j)
        call.args.bucketName v := by
  have hsched : [call.node, call.node, call.node] ++ call.peers ++ [call.node] =
      call.node :: call.node :: call.node :: (call.peers ++ [call.node]) := rfl
  rw [PolicyCall.runAlone, hsched, runFrom_cons]
  rcases start_cases lib call c call.node with ⟨r, h⟩ | ⟨v, h⟩
  · exact .inl (by rw [h, runFrom_returned])
  rw [h, runFrom_cons]
  rcases write_cases lib call c v call.node with ⟨r, h⟩ | h
  · exact .inl (by rw [h, runFrom_returned])
  rw [h, runFrom_cons]
  right
  refine ⟨v, ?_⟩
  rcases v with _ | p
  · -- a removal: the store and the serving node
    simp only [policyStep, runFrom_returned]
    ext1
    · rfl
    · funext j
      simp only [Cluster.setLocal, Cluster.commit, Function.update_apply, Option.isSome_none,
        Bool.false_and, Bool.false_eq_true, or_false]
      split <;> simp_all
  · -- a new policy: the store, the serving node, and the peers each send reaches
    simp only [policyStep]
    rw [runFrom_append, runFrom_notify, runFrom_cons]
    simp only [policyStep, List.not_mem_nil, if_false, List.isEmpty_nil, if_true, runFrom_nil]
    ext1
    · rw [foldl_deliver_stored]; rfl
    · funext j
      rw [foldl_deliver_nodes]
      simp only [Cluster.setLocal, Cluster.commit, Function.update_apply, setLocal_objectLayer,
        Option.isSome_some, Bool.true_and, Bool.and_eq_true, decide_eq_true_eq]
      by_cases hj : j = call.node
      · subst hj; simp
      · simp [hj, and_assoc]

theorem runAlone_objectLayer (c : Cluster ι P) (j : ι) :
    ((call.runAlone lib c).1.nodes j).objectLayer = (c.nodes j).objectLayer := by
  rcases runAlone_cases lib call c with h | ⟨v, h⟩ <;> simp [h]

/-- The invariant of the deployments whose sends all arrive: every node holds the stored policy
of every bucket that has one. -/
def Agreed (c : Cluster ι P) : Prop :=
  ∀ b p, c.stored b = some p → ∀ j, (c.nodes j).policies b = some p

/-- A commit that reaches every node keeps `Agreed` when every node has its object layer. -/
theorem Agreed.commit {c : Cluster ι P} (hc : Agreed c) (hlayer : ∀ j, (c.nodes j).objectLayer = true)
    (i : ι) {reach : ι → Bool} (hreach : ∀ j, j ≠ i → reach j = true) (b : String) (v : Option P) :
    Agreed (c.commit i reach b v) := by
  intro b' p hp j
  simp only [commit_stored, Function.update_apply] at hp
  rw [commit_policies]
  by_cases hb : b' = b
  · subst hb
    rw [if_pos rfl] at hp
    subst hp
    by_cases hj : j = i
    · rw [if_pos ⟨rfl, .inl hj⟩]
    · rw [if_pos ⟨rfl, .inr (by simp [hreach j hj, hlayer j])⟩]
  · rw [if_neg hb] at hp
    rw [if_neg fun h => hb h.1]
    exact hc b' p hp j

/-- `Agreed` over calls run one at a time whose sends reach every other node. -/
theorem Agreed.runAlone_foldl (calls : List (PolicyCall ι))
    (hall : ∀ call ∈ calls, ∀ j, j ≠ call.node → j ∈ call.peers ∧ call.delivered j = true) :
    ∀ {c : Cluster ι P}, Agreed c → (∀ j, (c.nodes j).objectLayer = true) →
      Agreed (calls.foldl (fun c call => (call.runAlone lib c).1) c) := by
  induction calls with
  | nil => exact fun hc _ => hc
  | cons call calls ih =>
    intro c hc hlayer
    refine ih (fun call' h => hall call' (.tail _ h)) ?_
      fun j => (runAlone_objectLayer lib call c j).trans (hlayer j)
    show Agreed (call.runAlone lib c).1
    rcases runAlone_cases lib call c with h | ⟨v, h⟩
    · rw [h]; exact hc
    · rw [h]
      exact hc.commit hlayer _ (fun j hj => by simp [hall call (.head _) j hj]) _ _

end Alone

/-! ## The deployment over runs -/

/-- A library whose policies are their one canned statement, `none` removing it. -/
def cannedLib : PolicyLib String String where
  isValidBucketPolicy _ := true
  policyToBucketAccessPolicy p := .ok p.toList
  bucketAccessPolicyToPolicy s := .ok (String.join s)
  setPolicy _ policyType _ _ := if policyType = "none" then [] else [policyType]

/-- Two nodes with their object layers, no policy anywhere. -/
def twoNodes : Cluster (Fin 2) String := ⟨fun _ => none, fun _ => ⟨true, fun _ => none⟩⟩

/-- Node 0 sets `readonly` on bucket `b`, node 1 `writeonly`, each sending to the other. -/
def overlappingCalls : List (PolicyCall (Fin 2)) :=
  [⟨0, true, ⟨none, none, none⟩, [1], fun _ => true, ⟨"b", "", "readonly"⟩⟩,
   ⟨1, true, ⟨none, none, none⟩, [0], fun _ => true, ⟨"b", "", "writeonly"⟩⟩]

/-- Both calls read; node 0 stores, then node 1 stores, sets and sends; then node 0 sets and
sends. -/
def overlappingSchedule : List (Nat × Fin 2) :=
  [(0, 0), (1, 0), (0, 0), (1, 0), (1, 0), (1, 0), (1, 0), (0, 0), (0, 1), (0, 0)]

/-- Over any interleaving of the steps of any calls, with any failures and lost sends, from nodes
that hold the stored policies: every node's policy for a bucket is one the store held for it
after some prefix of the run. When the calls run one at a time, each sending to every other
node, and every node has its object layer, every node holds the stored policy of every bucket
that has one. Two calls that overlap, every send delivered, can end with both nodes on a policy
the store no longer holds. A call that removes a bucket's policy clears it in the store and on
its node and changes no other node. -/
theorem policy_sync_run [DecidableEq ι] (lib : PolicyLib P S) :
    (∀ (c₀ : Cluster ι P), (∀ j, (c₀.nodes j).policies = c₀.stored) →
      ∀ (calls : List (PolicyCall ι)) (sched : List (Nat × ι)) j b, ∃ k ≤ sched.length,
        (PolicyServer.run lib ⟨c₀, calls.map fun call => (call, .start)⟩ (sched.take k)).cluster.stored b =
          ((PolicyServer.run lib ⟨c₀, calls.map fun call => (call, .start)⟩ sched).cluster.nodes j).policies b) ∧
    (∀ (c₀ : Cluster ι P), (∀ j, (c₀.nodes j).policies = c₀.stored) →
      (∀ j, (c₀.nodes j).objectLayer = true) →
      ∀ calls : List (PolicyCall ι),
        (∀ call ∈ calls, ∀ j, j ≠ call.node → j ∈ call.peers ∧ call.delivered j = true) →
        ∀ b p, (calls.foldl (fun c call => (call.runAlone lib c).1) c₀).stored b = some p →
          ∀ j, ((calls.foldl (fun c call => (call.runAlone lib c).1) c₀).nodes j).policies b = some p) ∧
    ((∀ call ∈ overlappingCalls, ∀ j, j ≠ call.node → j ∈ call.peers ∧ call.delivered j = true) ∧
      (PolicyServer.run cannedLib ⟨twoNodes, overlappingCalls.map fun call => (call, .start)⟩
          overlappingSchedule).calls.map Prod.snd =
        overlappingCalls.map (fun _ => .returned none) ∧
      (PolicyServer.run cannedLib ⟨twoNodes, overlappingCalls.map fun call => (call, .start)⟩
          overlappingSchedule).cluster.stored "b" = some "writeonly" ∧
      ∀ j, ((PolicyServer.run cannedLib ⟨twoNodes, overlappingCalls.map fun call => (call, .start)⟩
          overlappingSchedule).cluster.nodes j).policies "b" = some "readonly") ∧
    (∀ (c : Cluster ι P) (call : PolicyCall ι) (statements : List S),
      (c.nodes call.node).objectLayer = true → call.owner = true →
      lib.isValidBucketPolicy call.args.policy = true → call.faults.getErr = none →
      call.faults.deleteErr = none →
      lib.policyToBucketAccessPolicy (c.stored call.args.bucketName) = .ok statements →
      lib.setPolicy statements call.args.policy call.args.bucketName call.args.pathPrefix = [] →
      (call.runAlone lib c).2 = .returned none ∧
        (call.runAlone lib c).1.stored call.args.bucketName = none ∧
        ((call.runAlone lib c).1.nodes call.node).policies call.args.bucketName = none ∧
        ∀ j, j ≠ call.node → (call.runAlone lib c).1.nodes j = c.nodes j) := by
  refine ⟨fun c₀ hagree calls sched j b => ?_, fun c₀ hagree hlayer calls hall =>
    Agreed.runAlone_foldl lib calls hall (fun b p hp j => (congrFun (hagree j) b).trans hp) hlayer,
    ⟨by decide, by decide, by decide, by decide⟩,
    fun c call statements hlayer howner hvalid hget hdelete hstmts hempty => ?_⟩
  · -- the dated invariant, from a start with no call past its first step
    have h0 := dated_nil lib ⟨c₀, calls.map fun call => (call, .start)⟩ hagree
      (by simp [PolicyPc.carried])
    exact (h0.run lib sched).1 j b
  · -- the removal branch: the store write, the local `Remove`, and no send
    have hsched : [call.node, call.node, call.node] ++ call.peers ++ [call.node] =
        call.node :: call.node :: call.node :: (call.peers ++ [call.node]) := rfl
    have hstart : policyStep lib call c .start call.node = (c, .write none) := by
      simp [policyStep, hlayer, howner, hvalid, hget, hstmts, hempty]
    rw [PolicyCall.runAlone, hsched, runFrom_cons, hstart, runFrom_cons]
    simp only [policyStep, hdelete, runFrom_cons, runFrom_returned]
    refine ⟨trivial, by simp, by simp [setLocal_policies], fun j hj => ?_⟩
    simp [Cluster.setLocal, Function.update_noteq hj]

/-- Two nodes enforce `readonly` on bucket `b`; node 0 removes it, every send delivered, and
node 1 still enforces it. -/
example :
    ((PolicyCall.runAlone cannedLib ⟨(0 : Fin 2), true, ⟨none, none, none⟩, [1], fun _ => true,
      ⟨"b", "", "none"⟩⟩ ⟨fun _ => some "readonly", fun _ => ⟨true, fun _ => some "readonly"⟩⟩).1.nodes
        1).policies "b" = some "readonly" := by
  decide

end Minio.Web.PolicySync
