import Mathlib.Logic.Function.Basic
/-!
# The namespace lock map

A model of `nsLockMap` (`cmd/namespace-lock.go`): the map from `(volume, path)` to a
reference-counted `nsLock`, the two critical sections of `lock`, the critical section of
`unlock`, and `ForceUnlock`. An operation is one `lock`/`unlock` pair with a program
counter; a run is any interleaving of the steps of any number of operations, each step one
`lockMapMutex` critical section or one step of the RW primitive.

The RW primitive under an `nsLock` (`lsync.LRWMutex`, or `dsync.DRWMutex` when
`isDistXL`) is not part of this repository. It is modelled by a writer flag and a reader
count with the grant rule of a reader-writer lock: a write lock only when unheld, a read
lock only when no writer holds it. An acquire may instead time out at any point. The debug
map (`debugLockMap` and the `status*` helpers) only feeds instrumentation and is left out.
-/

namespace Minio.NsLock.LockMap

/-- `nsParam`: the name space resource. -/
structure NsParam where
  volume : String
  path : String
  deriving DecidableEq, Repr

/-- The state of an `nsLock`'s RW primitive. -/
structure RWState where
  writer : Bool
  readers : Nat
  deriving DecidableEq, Repr

/-- `GetLock` returns true: only on an unheld primitive. -/
def RWState.getLock (rw : RWState) : Option RWState :=
  if rw.writer = false ∧ rw.readers = 0 then some { rw with writer := true } else none

/-- `GetRLock` returns true: only when no writer holds the primitive. -/
def RWState.getRLock (rw : RWState) : Option RWState :=
  if rw.writer = false then some { rw with readers := rw.readers + 1 } else none

/-- `Unlock` on the primitive. -/
def RWState.unlock (rw : RWState) : RWState := { rw with writer := false }

/-- `RUnlock` on the primitive. -/
def RWState.rUnlock (rw : RWState) : RWState := { rw with readers := rw.readers - 1 }

/-- `nsLock`: the RW primitive and its reference count. The Go `uint` is an `Int` here, so
that decrementing zero gives a nonzero value as the wrap-around does; the code only ever
compares the count with zero. -/
structure NsLock where
  rw : RWState
  ref : Int
  deriving DecidableEq, Repr

/-- `nsLockMap`. `lockMap` maps a resource to a pointer into `locks`, the heap of `nsLock`
values, and `fresh` is the next unused pointer. `log` collects what `logger.LogIf`
reports. -/
structure NsLockMap where
  lockMap : NsParam → Option Nat
  locks : Nat → NsLock
  fresh : Nat
  log : List String

/-- `newNSLock`: an empty map. -/
def newNSLock : NsLockMap :=
  ⟨fun _ => none, fun _ => ⟨⟨false, 0⟩, 0⟩, 0, []⟩

namespace NsLockMap

/-- Replace the `nsLock` behind pointer `p`. -/
def setLock (n : NsLockMap) (p : Nat) (l : NsLock) : NsLockMap :=
  { n with locks := Function.update n.locks p l }

/-- `delete(n.lockMap, param)`. -/
def delete (n : NsLockMap) (param : NsParam) : NsLockMap :=
  { n with lockMap := Function.update n.lockMap param none }

@[simp] theorem setLock_lockMap (n : NsLockMap) (p : Nat) (l : NsLock) :
    (n.setLock p l).lockMap = n.lockMap := rfl
@[simp] theorem setLock_locks (n : NsLockMap) (p : Nat) (l : NsLock) :
    (n.setLock p l).locks = Function.update n.locks p l := rfl
@[simp] theorem setLock_fresh (n : NsLockMap) (p : Nat) (l : NsLock) :
    (n.setLock p l).fresh = n.fresh := rfl
@[simp] theorem setLock_log (n : NsLockMap) (p : Nat) (l : NsLock) :
    (n.setLock p l).log = n.log := rfl
@[simp] theorem delete_lockMap (n : NsLockMap) (q : NsParam) :
    (n.delete q).lockMap = Function.update n.lockMap q none := rfl
@[simp] theorem delete_locks (n : NsLockMap) (q : NsParam) : (n.delete q).locks = n.locks := rfl
@[simp] theorem delete_fresh (n : NsLockMap) (q : NsParam) : (n.delete q).fresh = n.fresh := rfl
@[simp] theorem delete_log (n : NsLockMap) (q : NsParam) : (n.delete q).log = n.log := rfl

/-- The first critical section of `lock` (lines 147-172): look the entry up, create it with
`ref: 0` when absent, and take a reference. Returns the pointer `nsLk`. -/
def lockEnter (n : NsLockMap) (param : NsParam) : NsLockMap × Nat :=
  match n.lockMap param with
  | some p => (n.setLock p { n.locks p with ref := (n.locks p).ref + 1 }, p)
  | none =>
    ({ n with lockMap := Function.update n.lockMap param (some n.fresh)
              locks := Function.update n.locks n.fresh ⟨⟨false, 0⟩, 1⟩
              fresh := n.fresh + 1 }, n.fresh)

/-- `nsLk.GetLock` or `nsLk.GetRLock` returning true. -/
def acquire (n : NsLockMap) (p : Nat) (readLock : Bool) : Option NsLockMap :=
  let l := n.locks p
  (if readLock then l.rw.getRLock else l.rw.getLock).map fun rw => n.setLock p { l with rw }

/-- The timeout critical section of `lock` (lines 181-199). It decrements its own `nsLk`
but deletes whatever `lockMap` holds for `param`. -/
def lockTimedOut (n : NsLockMap) (param : NsParam) (p : Nat) : NsLockMap :=
  let l := { n.locks p with ref := (n.locks p).ref - 1 }
  let n := n.setLock p l
  if l.ref = 0 then n.delete param else n

/-- The message `unlock` logs when it finds a zero reference count. -/
def refZeroMsg : String := "Namespace reference count cannot be 0"

/-- `unlock` (lines 210-241): it looks the entry up by `param`, not by the pointer its
caller's `lock` incremented. -/
def unlock (n : NsLockMap) (param : NsParam) (readLock : Bool) : NsLockMap :=
  match n.lockMap param with
  | none => n
  | some p =>
    let l := n.locks p
    let l := { l with rw := if readLock then l.rw.rUnlock else l.rw.unlock }
    let n := if l.ref = 0 then { n with log := n.log ++ [refZeroMsg] } else n
    let l := if l.ref ≠ 0 then { l with ref := l.ref - 1 } else l
    let n := n.setLock p l
    if l.ref = 0 then n.delete param else n

/-- `ForceUnlock` (lines 273-304): drop the entry from the map. -/
def forceUnlock (n : NsLockMap) (param : NsParam) : NsLockMap := n.delete param

end NsLockMap

/-- Where an operation stands in its `lock`/`unlock` pair. The pointer is its `nsLk`. -/
inductive Pc where
  | idle
  | blocked (p : Nat)
  | timedOut (p : Nat)
  | running (p : Nat)
  | done
  deriving DecidableEq, Repr

/-- The entry an operation points at between its `ref++` and its matching `ref--`. -/
def Pc.entry : Pc → Option Nat
  | .blocked p | .timedOut p | .running p => some p
  | .idle | .done => none

@[simp] theorem Pc.entry_idle : Pc.idle.entry = none := rfl
@[simp] theorem Pc.entry_done : Pc.done.entry = none := rfl
@[simp] theorem Pc.entry_blocked (p : Nat) : (Pc.blocked p).entry = some p := rfl
@[simp] theorem Pc.entry_timedOut (p : Nat) : (Pc.timedOut p).entry = some p := rfl
@[simp] theorem Pc.entry_running (p : Nat) : (Pc.running p).entry = some p := rfl

/-- `lock` returned true and `unlock` has not run yet. -/
def Pc.isRunning : Pc → Bool
  | .running _ => true
  | _ => false

/-- One operation: `lock(volume, path, ..., readLock, timeout)`, then `unlock` if it
returned true. -/
structure Op where
  param : NsParam
  readLock : Bool
  pc : Pc
  deriving DecidableEq, Repr

/-- One step of one operation. -/
inductive Action where
  /-- the first critical section of `lock` -/
  | lock
  /-- the RW primitive grants the lock -/
  | grant
  /-- the RW primitive's acquire times out -/
  | timeout
  /-- the timeout critical section of `lock` -/
  | cleanup
  /-- `unlock` -/
  | unlock
  deriving DecidableEq, Repr

/-- A step of operation `o` on the map: the new map and the operation's new counter. -/
def Op.step (n : NsLockMap) (o : Op) : Action → Option (NsLockMap × Pc)
  | .lock =>
    match o.pc with
    | .idle => let r := n.lockEnter o.param; some (r.1, .blocked r.2)
    | _ => none
  | .grant =>
    match o.pc with
    | .blocked p => (n.acquire p o.readLock).map (·, .running p)
    | _ => none
  | .timeout =>
    match o.pc with
    | .blocked p => some (n, .timedOut p)
    | _ => none
  | .cleanup =>
    match o.pc with
    | .timedOut p => some (n.lockTimedOut o.param p, .done)
    | _ => none
  | .unlock =>
    match o.pc with
    | .running _ => some (n.unlock o.param o.readLock, .done)
    | _ => none

/-- The lock map and the operations using it. -/
structure Sys where
  ns : NsLockMap
  ops : List Op

/-- A scheduling event: a step of operation `i`, or a `ForceUnlock` (as `ClearLocks`
issues). -/
inductive Event where
  | op (i : Nat) (a : Action)
  | forceUnlock (param : NsParam)
  deriving DecidableEq, Repr

/-- One event of a run; `none` when the event is not enabled. -/
def step (s : Sys) : Event → Option Sys
  | .op i a => do
    let o ← s.ops[i]?
    let r ← o.step s.ns a
    pure ⟨r.1, s.ops.set i { o with pc := r.2 }⟩
  | .forceUnlock param => some ⟨s.ns.forceUnlock param, s.ops⟩

/-- A run: the events in order, stopping at the first that is not enabled. -/
def run (s : Sys) : List Event → Option Sys
  | [] => some s
  | e :: es => (step s e).bind (run · es)

/-- Operations, each given by its resource and lock kind, none of them started. -/
def init (ops : List (NsParam × Bool)) : Sys :=
  ⟨newNSLock, ops.map fun o => ⟨o.1, o.2, .idle⟩⟩

theorem step_op_eq_some {s s' : Sys} {i : Nat} {a : Action} :
    step s (.op i a) = some s' ↔ ∃ o r, s.ops[i]? = some o ∧ o.step s.ns a = some r ∧
      s' = ⟨r.1, s.ops.set i { o with pc := r.2 }⟩ := by
  simp only [step, Option.bind_eq_bind, Option.bind_eq_some, Option.pure_def, Option.some.injEq]
  constructor
  · rintro ⟨o, ho, r, hr, rfl⟩; exact ⟨o, r, ho, hr, rfl⟩
  · rintro ⟨o, r, ho, hr, rfl⟩; exact ⟨o, ho, r, hr, rfl⟩

@[simp] theorem run_nil (s : Sys) : run s [] = some s := rfl

theorem run_cons (s : Sys) (e : Event) (es : List Event) :
    run s (e :: es) = (step s e).bind (run · es) := rfl

/-- No two operations hold conflicting locks on one resource: one writer, or only readers. -/
def Exclusive (ops : List Op) : Prop :=
  ∀ (i j : Nat) (oi oj : Op), i ≠ j → ops[i]? = some oi → ops[j]? = some oj → oi.param = oj.param →
    oi.pc.isRunning → oj.pc.isRunning → oi.readLock ∧ oj.readLock

/-! ## `ForceUnlock` and stale holders

`ForceUnlock` drops the entry of a resource while operations still point at it. Its comment
says that new operations then use a new mutex and proceed normally. But `unlock` finds its
entry by `(volume, path)`, not by the pointer its `lock` incremented, so a stale holder's
`unlock` releases, decrements and deletes the entry a later operation created. A third
operation then creates yet another entry and is granted the lock while the second still
holds it. The timeout section of `lock` deletes by `(volume, path)` in the same way. -/

/-- Three write locks on one object. The first is granted; `ClearLocks` force-unlocks the
object; the second locks and is granted on a new entry; the first unlocks, which releases
the second's entry and removes it from the map; the third locks and is granted on a third
entry. The second and the third, both begun after the `ForceUnlock`, then hold the write
lock together, and the second's primitive was released by the first. -/
theorem forceUnlock_stale_unlock_breaks_exclusion :
    ∃ s, run (init [(⟨"bucket", "object"⟩, false), (⟨"bucket", "object"⟩, false),
        (⟨"bucket", "object"⟩, false)])
      [.op 0 .lock, .op 0 .grant, .forceUnlock ⟨"bucket", "object"⟩, .op 1 .lock, .op 1 .grant,
        .op 0 .unlock, .op 2 .lock, .op 2 .grant] = some s ∧
    s.ops.map (·.pc) = [.done, .running 1, .running 2] ∧
    (s.ns.locks 1).rw.writer = false ∧ ¬ Exclusive s.ops := by
  refine ⟨_, rfl, by decide, by decide, fun h => ?_⟩
  have := h 1 2 _ _ (by decide) rfl rfl rfl rfl rfl
  exact absurd this.1 (by decide)

end Minio.NsLock.LockMap
