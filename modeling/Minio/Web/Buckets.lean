import Minio.Web.Access
import Mathlib.Data.List.Nodup
/-!
# Buckets of a federated deployment

With DNS federation (`globalDNSConfig`), every bucket of a deployment has an entry in the
federation's DNS store. The browser's `MakeBucket` creates a bucket only when the store has no
entry for it, and then adds the entry, deleting the bucket again when the entry cannot be added.
`DeleteBucket` deletes the bucket, drops its notification and policy configuration, and then the
entry, creating the bucket again when the entry cannot be deleted.

* `federation_run`: over any run of `MakeBucket` and `DeleteBucket` calls whose compensating
  `DeleteBucket` succeeds, every bucket of the deployment keeps its DNS entry; a compensating
  deletion that fails leaves a bucket with no entry.

The object layer, the DNS store and `isReservedOrInvalidBucket` are not in the source: a call
takes their failures as inputs. The lines are those of `gateway/b2/gateway-b2_test.go`.
-/

namespace Minio.Web.Buckets

open Minio.Web.Access

/-- What `MakeBucket` and `DeleteBucket` read and write: the object layer's buckets, the buckets
with a notification configuration and with a policy, and the federation's DNS entries. -/
structure Deployment where
  buckets : List String
  notifications : List String
  policies : List String
  dns : List String
  deriving DecidableEq, Repr

/-- The failures of one call: the errors, if any, of the object layer's
`MakeBucketWithLocation` and `DeleteBucket` (each also fails when the bucket is, or is not,
there), and of the DNS store's `Get` (other than a missing entry), `Put` and `Delete`. -/
structure Faults where
  makeBucketErr : Option String
  deleteBucketErr : Option String
  dnsGetErr : Option String
  dnsPutErr : Option String
  dnsDeleteErr : Option String
  deriving DecidableEq, Repr

/-- `objectAPI.MakeBucketWithLocation` on the deployment. -/
def makeBucketWithLocation (faults : Faults) (d : Deployment) (bucket : String) :
    Except String Deployment :=
  if bucket ∈ d.buckets then .error "BucketExists"
  else match faults.makeBucketErr with
    | some e => .error e
    | none => .ok { d with buckets := bucket :: d.buckets }

/-- `objectAPI.DeleteBucket` on the deployment. -/
def deleteBucket (faults : Faults) (d : Deployment) (bucket : String) : Except String Deployment :=
  if bucket ∉ d.buckets then .error "BucketNotFound"
  else match faults.deleteBucketErr with
    | some e => .error e
    | none => .ok { d with buckets := d.buckets.erase bucket }

/-- `MakeBucket` (lines 329-369); `owner` is `isHTTPRequestValid(r)`, `invalid` is
`isReservedOrInvalidBucket`, and `dnsConfigured` is `globalDNSConfig != nil`. -/
def MakeBucket (invalid : String → Bool) (objectAPI owner dnsConfigured : Bool) (faults : Faults)
    (d : Deployment) (bucketName : String) : Deployment × Except WebErr Unit :=
  if !objectAPI then (d, .error .serverNotInitialized)
  else if !owner then (d, .error .authentication)
  else if invalid bucketName then (d, .error .invalidBucketName)
  else if dnsConfigured then
    match faults.dnsGetErr with
    | some e => (d, .error (.other e))
    | none =>
      if bucketName ∈ d.dns then (d, .error .bucketAlreadyExists)
      else match makeBucketWithLocation faults d bucketName with
        | .error e => (d, .error (.other e))
        | .ok d₁ =>
          match faults.dnsPutErr with
          | some e =>
            let d₂ := match deleteBucket faults d₁ bucketName with
              | .ok d₂ => d₂
              | .error _ => d₁
            (d₂, .error (.other e))
          | none => ({ d₁ with dns := bucketName :: d₁.dns }, .ok ())
  else match makeBucketWithLocation faults d bucketName with
    | .error e => (d, .error (.other e))
    | .ok d₁ => (d₁, .ok ())

/-- `DeleteBucket` (lines 377-414). -/
def DeleteBucket (objectAPI owner dnsConfigured : Bool) (faults : Faults) (d : Deployment)
    (bucketName : String) : Deployment × Except WebErr Unit :=
  if !objectAPI then (d, .error .serverNotInitialized)
  else if !owner then (d, .error .authentication)
  else match deleteBucket faults d bucketName with
    | .error e => (d, .error (.other e))
    | .ok d₁ =>
      let d₂ := { d₁ with notifications := d₁.notifications.erase bucketName
                          policies := d₁.policies.erase bucketName }
      if dnsConfigured then
        match faults.dnsDeleteErr with
        | some e =>
          let d₃ := match makeBucketWithLocation faults d₂ bucketName with
            | .ok d₃ => d₃
            | .error _ => d₂
          (d₃, .error (.other e))
        | none => ({ d₂ with dns := d₂.dns.erase bucketName }, .ok ())
      else (d₂, .ok ())

/-! ## Every bucket keeps its entry -/

/-- The federation's invariant: each bucket once, each with its DNS entry. -/
structure Inv (d : Deployment) : Prop where
  nodup : d.buckets.Nodup
  dns : ∀ bucket ∈ d.buckets, bucket ∈ d.dns

theorem makeBucketWithLocation_eq_ok {faults : Faults} {d d' : Deployment} {bucket : String}
    (h : makeBucketWithLocation faults d bucket = .ok d') :
    bucket ∉ d.buckets ∧ d' = { d with buckets := bucket :: d.buckets } := by
  unfold makeBucketWithLocation at h
  split at h
  · exact nomatch h
  · split at h
    · exact nomatch h
    · cases h
      exact ⟨‹_›, rfl⟩

theorem deleteBucket_eq_ok {faults : Faults} {d d' : Deployment} {bucket : String}
    (h : deleteBucket faults d bucket = .ok d') :
    bucket ∈ d.buckets ∧ d' = { d with buckets := d.buckets.erase bucket } := by
  unfold deleteBucket at h
  split at h
  · exact nomatch h
  · split at h
    · exact nomatch h
    · cases h
      exact ⟨by simpa using ‹¬bucket ∉ d.buckets›, rfl⟩

/-- Adding a bucket that has its entry keeps the invariant, when no entry is lost. -/
theorem Inv.add {d d' : Deployment} (hI : Inv d) {bucket : String} (hnew : bucket ∉ d.buckets)
    (hb : d'.buckets = bucket :: d.buckets) (hdns : bucket ∈ d'.dns)
    (hsub : ∀ b ∈ d.dns, b ∈ d'.dns) : Inv d' :=
  ⟨hb ▸ List.nodup_cons.mpr ⟨hnew, hI.nodup⟩, fun b hb' => by
    rw [hb] at hb'
    rcases List.mem_cons.mp hb' with rfl | hb'
    · exact hdns
    · exact hsub b (hI.dns b hb')⟩

/-- Removing a bucket keeps the invariant, with or without its entry. -/
theorem Inv.erase {d d' : Deployment} (hI : Inv d) {bucket : String}
    (hb : d'.buckets = d.buckets.erase bucket) (hdns : ∀ b ∈ d.dns, b ≠ bucket → b ∈ d'.dns) :
    Inv d' :=
  ⟨hb ▸ hI.nodup.erase _, fun b hb' => by
    rw [hb] at hb'
    have ⟨hne, hb''⟩ := (hI.nodup.mem_erase_iff).mp hb'
    exact hdns b (hI.dns b hb'') hne⟩

/-- `MakeBucket` keeps the invariant when its compensating deletion does not fail. -/
theorem Inv.makeBucket {d : Deployment} (hI : Inv d) (invalid : String → Bool)
    (objectAPI owner dnsConfigured : Bool) (faults : Faults) (bucketName : String)
    (hdns : dnsConfigured = true) (hrollback : faults.deleteBucketErr = none) :
    Inv (MakeBucket invalid objectAPI owner dnsConfigured faults d bucketName).1 := by
  subst hdns
  unfold MakeBucket
  split
  · exact hI
  split
  · exact hI
  split
  · exact hI
  simp only [if_true]
  cases faults.dnsGetErr with
  | some e => exact hI
  | none =>
    dsimp only
    split
    · exact hI
    cases hmake : makeBucketWithLocation faults d bucketName with
    | error e => exact hI
    | ok d₁ =>
      obtain ⟨hnew, rfl⟩ := makeBucketWithLocation_eq_ok hmake
      dsimp only
      cases faults.dnsPutErr with
      | none => exact hI.add hnew rfl (.head _) fun b hb => .tail _ hb
      | some e =>
        -- the compensating deletion takes the new bucket out again
        have hdel : deleteBucket faults { d with buckets := bucketName :: d.buckets } bucketName =
            .ok { d with buckets := (bucketName :: d.buckets).erase bucketName } := by
          simp [deleteBucket, hrollback]
        simp only [hdel, List.erase_cons_head]
        exact hI

/-- `DeleteBucket` keeps the invariant. -/
theorem Inv.deleteBucket {d : Deployment} (hI : Inv d) (objectAPI owner dnsConfigured : Bool)
    (faults : Faults) (bucketName : String) :
    Inv (DeleteBucket objectAPI owner dnsConfigured faults d bucketName).1 := by
  unfold DeleteBucket
  split
  · exact hI
  split
  · exact hI
  cases hdel : Minio.Web.Buckets.deleteBucket faults d bucketName with
  | error e => exact hI
  | ok d₁ =>
    obtain ⟨hmem, rfl⟩ := deleteBucket_eq_ok hdel
    dsimp only
    split
    · cases faults.dnsDeleteErr with
      | none => exact hI.erase rfl fun b hb hne => (List.mem_erase_of_ne hne).mpr hb
      | some e =>
        -- the compensating creation puts the bucket back, its entry still there
        dsimp only
        split
        · rename_i d₃ hmake
          obtain ⟨hnew, rfl⟩ := makeBucketWithLocation_eq_ok hmake
          exact (@Inv.erase d { d with buckets := d.buckets.erase bucketName } hI bucketName rfl
            fun b hb _ => hb).add hnew rfl (hI.dns _ hmem) fun b hb => hb
        · exact hI.erase rfl fun b hb _ => hb
    · exact hI.erase rfl fun b hb _ => hb

/-- A call of the browser's bucket handlers. -/
inductive BucketCall where
  | makeBucket (owner : Bool) (faults : Faults) (bucketName : String)
  | deleteBucket (owner : Bool) (faults : Faults) (bucketName : String)

/-- The deployment after a call. -/
def BucketCall.apply (invalid : String → Bool) (objectAPI dnsConfigured : Bool) :
    BucketCall → Deployment → Deployment
  | .makeBucket owner faults bucketName, d =>
    (MakeBucket invalid objectAPI owner dnsConfigured faults d bucketName).1
  | .deleteBucket owner faults bucketName, d =>
    (DeleteBucket objectAPI owner dnsConfigured faults d bucketName).1

/-- Whether a call's compensating deletion succeeds (`DeleteBucket` calls have none). -/
def BucketCall.rollbackOk : BucketCall → Bool
  | .makeBucket _ faults _ => faults.deleteBucketErr.isNone
  | .deleteBucket .. => true

/-- With DNS federation, over every run of calls from a deployment whose buckets all have their
entry, every bucket keeps its entry as long as the compensating deletions of `MakeBucket`
succeed; a `MakeBucket` whose entry cannot be added and whose compensating deletion fails leaves
its new bucket with no entry. -/
theorem federation_run (invalid : String → Bool) (objectAPI : Bool) :
    (∀ (calls : List BucketCall) (d : Deployment), Inv d →
      (∀ call ∈ calls, call.rollbackOk = true) →
      Inv (calls.foldl (fun d call => call.apply invalid objectAPI true d) d)) ∧
    ∀ (faults : Faults) (d : Deployment) (bucketName : String), objectAPI = true →
      invalid bucketName = false → faults.dnsGetErr = none → bucketName ∉ d.dns →
      bucketName ∉ d.buckets → faults.makeBucketErr = none → faults.dnsPutErr.isSome →
      faults.deleteBucketErr.isSome →
      bucketName ∈ (MakeBucket invalid objectAPI true true faults d bucketName).1.buckets ∧
      bucketName ∉ (MakeBucket invalid objectAPI true true faults d bucketName).1.dns := by
  refine ⟨fun calls => ?_, fun faults d bucketName hapi hvalid hget hdns hnew hmake hput hdel => ?_⟩
  · induction calls with
    | nil => exact fun d hI _ => hI
    | cons call calls ih =>
      intro d hI hok
      refine ih _ ?_ fun c hc => hok c (.tail _ hc)
      cases call with
      | makeBucket owner faults bucketName =>
        exact hI.makeBucket invalid objectAPI owner true faults bucketName rfl
          (Option.isNone_iff_eq_none.mp (hok _ (.head _)))
      | deleteBucket owner faults bucketName =>
        exact hI.deleteBucket objectAPI owner true faults bucketName
  · obtain ⟨e, hput⟩ := Option.isSome_iff_exists.mp hput
    obtain ⟨e', hdel⟩ := Option.isSome_iff_exists.mp hdel
    have hcreate : makeBucketWithLocation faults d bucketName =
        .ok { d with buckets := bucketName :: d.buckets } := by
      simp [makeBucketWithLocation, hnew, hmake]
    have hfail : deleteBucket faults { d with buckets := bucketName :: d.buckets } bucketName =
        .error e' := by
      simp [deleteBucket, hdel]
    simp [MakeBucket, hapi, hvalid, hget, hdns, hcreate, hput, hfail]

end Minio.Web.Buckets
