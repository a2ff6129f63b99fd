import Minio.NsLock.LockMap
import Mathlib.Data.List.Basic
/-!
# Reference counting and exclusion without `ForceUnlock`

Without `ForceUnlock`, the lock map is a function of the operations that use it: the entry
of `(volume, path)` exists exactly while some operation on it is between its `ref++` and
its matching `ref--`, every such operation points at that one entry, its reference count is
their number, and its RW primitive records exactly the operations running under it. `Inv`
says this; every step keeps it. With a reader-writer primitive this gives mutual exclusion,
and `unlock` never meets a zero reference count.
-/

namespace Minio.NsLock.RefCount

open Minio.NsLock.LockMap

/-- The operation is on `q` and holds a reference to its entry. -/
def Op.active (q : NsParam) (o : Op) : Bool := o.param = q && o.pc.entry.isSome

/-- The operation holds the write lock of `q`. -/
def Op.writing (q : NsParam) (o : Op) : Bool := o.param = q && !o.readLock && o.pc.isRunning

/-- The operation holds a read lock of `q`. -/
def Op.reading (q : NsParam) (o : Op) : Bool := o.param = q && o.readLock && o.pc.isRunning

/-- The entry of `q` as the operations determine it: the primitive held by the running
operations, and one reference per active operation. -/
def expected (ops : List Op) (q : NsParam) : NsLock :=
  ⟨⟨0 < ops.countP (Op.writing q), ops.countP (Op.reading q)⟩, ops.countP (Op.active q)⟩

/-- The invariant of the lock map along runs without `ForceUnlock`. -/
structure Inv (ns : NsLockMap) (ops : List Op) : Prop where
  mapped : ∀ o ∈ ops, ∀ p, o.pc.entry = some p → ns.lockMap o.param = some p
  entry : ∀ q p, ns.lockMap q = some p →
    ns.locks p = expected ops q ∧ 0 < ops.countP (Op.active q) ∧ p < ns.fresh
  inj : ∀ q q' p, ns.lockMap q = some p → ns.lockMap q' = some p → q = q'
  excl : ∀ q, ops.countP (Op.writing q) ≤ 1 ∧
    (ops.countP (Op.writing q) = 0 ∨ ops.countP (Op.reading q) = 0)
  log : ns.log = []

/-! ## Counting over the operation list -/

theorem countP_set_add {α : Type} {l : List α} {i : Nat} {a : α} (h : l[i]? = some a)
    (b : α) (p : α → Bool) :
    (l.set i b).countP p + (if p a then 1 else 0) = l.countP p + (if p b then 1 else 0) := by
  obtain ⟨hi, rfl⟩ := List.getElem?_eq_some_iff.mp h
  have := List.boole_getElem_le_countP p l i hi
  rw [List.countP_set p l i b hi]
  omega

theorem countP_set_of_eq {α : Type} {l : List α} {i : Nat} {a : α} (h : l[i]? = some a)
    {b : α} {p : α → Bool} (hab : p a = p b) : (l.set i b).countP p = l.countP p := by
  have := countP_set_add h b p
  rw [hab] at this
  omega

theorem countP_set_of_not {α : Type} {l : List α} {i : Nat} {a : α} (h : l[i]? = some a)
    {b : α} {p : α → Bool} (ha : p a = false) (hb : p b = false) :
    (l.set i b).countP p = l.countP p :=
  countP_set_of_eq h (ha.trans hb.symm)

theorem countP_set_le {α : Type} {l : List α} {i : Nat} {a : α} (h : l[i]? = some a)
    {b : α} {p : α → Bool} (hb : p b = false) : (l.set i b).countP p ≤ l.countP p := by
  have := countP_set_add h b p
  simp only [hb, Bool.false_eq_true, if_false, Nat.add_zero] at this
  split at this <;> omega

theorem two_le_countP {α : Type} {l : List α} {p : α → Bool} {i j : Nat} {a b : α}
    (hij : i ≠ j) (ha : l[i]? = some a) (hb : l[j]? = some b) (hpa : p a) (hpb : p b) :
    2 ≤ l.countP p := by
  induction l generalizing i j with
  | nil => simp at ha
  | cons x xs ih =>
    have pos : ∀ k c, xs[k]? = some c → p c → 0 < xs.countP p := fun k c hc hp =>
      List.countP_pos_iff.mpr ⟨c, List.getElem?_mem hc, hp⟩
    rw [List.countP_cons]
    cases i <;> cases j <;>
      simp only [List.getElem?_cons_zero, List.getElem?_cons_succ, Option.some.injEq] at ha hb
    · exact absurd rfl hij
    · have := pos _ _ hb hpb; subst ha; rw [if_pos hpa]; omega
    · have := pos _ _ ha hpa; subst hb; rw [if_pos hpb]; omega
    · have := ih (by omega) ha hb; split <;> omega

theorem writing_le_active (ops : List Op) (q : NsParam) :
    ops.countP (Op.writing q) ≤ ops.countP (Op.active q) :=
  List.countP_mono_left fun o _ => by
    cases h : o.pc <;> simp_all [Op.writing, Op.active, Pc.entry, Pc.isRunning]

theorem reading_le_active (ops : List Op) (q : NsParam) :
    ops.countP (Op.reading q) ≤ ops.countP (Op.active q) :=
  List.countP_mono_left fun o _ => by
    cases h : o.pc <;> simp_all [Op.writing, Op.reading, Op.active, Pc.entry, Pc.isRunning]

theorem countP_pos_of_mem {ops : List Op} {o : Op} {P : Op → Bool} (ho : o ∈ ops) (hP : P o) :
    0 < ops.countP P :=
  List.countP_pos_iff.mpr ⟨o, ho, hP⟩

theorem active_set_of_ne {ops : List Op} {i : Nat} {o : Op} (h : ops[i]? = some o)
    {q : NsParam} (hq : o.param ≠ q) (pc : Pc) :
    (ops.set i { o with pc }).countP (Op.active q) = ops.countP (Op.active q) :=
  countP_set_of_not h (by simp [Op.active, hq]) (by simp [Op.active, hq])

theorem holders_set_of_ne {ops : List Op} {i : Nat} {o : Op} (h : ops[i]? = some o)
    {q : NsParam} (hq : o.param ≠ q) (pc : Pc) :
    (ops.set i { o with pc }).countP (Op.writing q) = ops.countP (Op.writing q) ∧
    (ops.set i { o with pc }).countP (Op.reading q) = ops.countP (Op.reading q) :=
  ⟨countP_set_of_not h (by simp [Op.writing, hq]) (by simp [Op.writing, hq]),
    countP_set_of_not h (by simp [Op.reading, hq]) (by simp [Op.reading, hq])⟩

/-- A step of one operation leaves the entry expected for another resource alone. -/
theorem expected_set_of_ne {ops : List Op} {i : Nat} {o : Op} (h : ops[i]? = some o)
    {q : NsParam} (hq : o.param ≠ q) (pc : Pc) :
    expected (ops.set i { o with pc }) q = expected ops q := by
  simp only [expected, active_set_of_ne h hq, holders_set_of_ne h hq]

/-- A step between two counters that are not `running` keeps every lock holder. -/
theorem holders_set_of_not_running {ops : List Op} {i : Nat} {o : Op} (h : ops[i]? = some o)
    (ho : o.pc.isRunning = false) (pc : Pc) (hpc : pc.isRunning = false) (q : NsParam) :
    (ops.set i { o with pc }).countP (Op.writing q) = ops.countP (Op.writing q) ∧
    (ops.set i { o with pc }).countP (Op.reading q) = ops.countP (Op.reading q) :=
  ⟨countP_set_of_not h (by simp [Op.writing, ho]) (by simp [Op.writing, hpc]),
    countP_set_of_not h (by simp [Op.reading, ho]) (by simp [Op.reading, hpc])⟩

/-- Without an entry in the map, no operation on the resource holds a reference. -/
theorem active_zero_of_unmapped {s : Sys} (hs : Inv s.ns s.ops) {q : NsParam}
    (hq : s.ns.lockMap q = none) : s.ops.countP (Op.active q) = 0 := by
  refine List.countP_eq_zero.mpr fun o ho hact => ?_
  simp only [Op.active, Bool.and_eq_true, decide_eq_true_eq, Option.isSome_iff_exists] at hact
  obtain ⟨rfl, p, hp⟩ := hact
  simp [hs.mapped o ho p hp] at hq

/-! ## One step keeps the invariant -/

section Step

variable {s : Sys} {i : Nat} {o : Op}

theorem mem_set_cases {ops : List Op} {o' o'' : Op} (h : o'' ∈ ops.set i o') :
    o'' = o' ∨ o'' ∈ ops :=
  (List.mem_or_eq_of_mem_set h).symm

/-- The first critical section of `lock`. -/
theorem Inv.lock (hs : Inv s.ns s.ops) (hi : s.ops[i]? = some o) (hpc : o.pc = .idle) :
    Inv (s.ns.lockEnter o.param).1
      (s.ops.set i { o with pc := .blocked (s.ns.lockEnter o.param).2 }) := by
  have hA := countP_set_add hi { o with pc := .blocked (s.ns.lockEnter o.param).2 }
    (Op.active o.param)
  simp only [Op.active, hpc, Pc.entry, decide_True, Option.isSome_none, Option.isSome_some,
    Bool.and_false, Bool.and_true, if_true, Bool.false_eq_true, if_false, Nat.add_zero] at hA
  have hWR := holders_set_of_not_running hi (by simp [hpc, Pc.isRunning])
    (.blocked (s.ns.lockEnter o.param).2) rfl
  cases hm : s.ns.lockMap o.param with
  | some p =>
    simp only [NsLockMap.lockEnter, hm] at hA hWR ⊢
    refine ⟨fun o'' ho'' p'' he => ?_, fun q p'' hq => ?_, hs.inj, fun q => ?_, hs.log⟩
    · rcases mem_set_cases ho'' with rfl | ho''
      · simp_all [Pc.entry]
      · exact hs.mapped o'' ho'' p'' he
    · by_cases hq0 : o.param = q
      · subst hq0
        obtain rfl : p'' = p := by simp_all
        obtain ⟨hl, -, hf⟩ := hs.entry _ _ hm
        refine ⟨?_, by omega, hf⟩
        simp only [NsLockMap.setLock_locks, Function.update_same, hl, expected, (hWR _).1,
          (hWR _).2, NsLock.mk.injEq, true_and]
        omega
      · have hne : p'' ≠ p := fun h => hq0 (hs.inj _ _ _ hm (h ▸ hq))
        obtain ⟨hl, hpos, hf⟩ := hs.entry _ _ hq
        simp only [NsLockMap.setLock_locks, Function.update_noteq hne, expected_set_of_ne hi hq0]
        exact ⟨hl, by rwa [active_set_of_ne hi hq0], hf⟩
    · simpa only [hWR] using hs.excl q
  | none =>
    have h0 := active_zero_of_unmapped hs hm
    have hW0 := writing_le_active s.ops o.param
    have hR0 := reading_le_active s.ops o.param
    simp only [NsLockMap.lockEnter, hm] at hA hWR ⊢
    refine ⟨fun o'' ho'' p'' he => ?_, fun q p'' hq => ?_, fun q q' p'' hq hq' => ?_,
      fun q => by simpa only [hWR] using hs.excl q, hs.log⟩
    · rcases mem_set_cases ho'' with rfl | ho''
      · simp_all [Pc.entry]
      · have hmap := hs.mapped o'' ho'' p'' he
        have : o''.param ≠ o.param := fun h => by simp [h, hm] at hmap
        simpa [Function.update_noteq this] using hmap
    · by_cases hq0 : q = o.param
      · subst hq0
        simp only [Function.update_same, Option.some.injEq] at hq
        subst hq
        refine ⟨?_, by omega, by simp⟩
        simp only [Function.update_same, expected, (hWR _).1, (hWR _).2, NsLock.mk.injEq,
          RWState.mk.injEq]
        refine ⟨⟨by rw [eq_comm, decide_eq_false_iff_not]; omega, by omega⟩, by omega⟩
      · simp only [Function.update_noteq hq0] at hq
        obtain ⟨hl, hpos, hf⟩ := hs.entry _ _ hq
        simp only [Function.update_noteq (Nat.ne_of_lt hf), expected_set_of_ne hi (Ne.symm hq0),
          active_set_of_ne hi (Ne.symm hq0)]
        exact ⟨hl, hpos, by omega⟩
    · by_cases ha : q = o.param <;> by_cases hb : q' = o.param
      · rw [ha, hb]
      · subst ha
        simp only [Function.update_same, Option.some.injEq, Function.update_noteq hb] at hq hq'
        exact absurd (hs.entry _ _ hq').2.2 (by omega)
      · subst hb
        simp only [Function.update_same, Option.some.injEq, Function.update_noteq ha] at hq hq'
        exact absurd (hs.entry _ _ hq).2.2 (by omega)
      · simp only [Function.update_noteq ha, Function.update_noteq hb] at hq hq'
        exact hs.inj _ _ _ hq hq'

/-- The RW primitive grants the lock. -/
theorem Inv.grant {p : Nat} {ns' : NsLockMap} (hs : Inv s.ns s.ops) (hi : s.ops[i]? = some o)
    (hpc : o.pc = .blocked p) (h : s.ns.acquire p o.readLock = some ns') :
    Inv ns' (s.ops.set i { o with pc := .running p }) := by
  have hmp := hs.mapped o (List.getElem?_mem hi) p (by simp [hpc, Pc.entry])
  obtain ⟨hl, hpos, hf⟩ := hs.entry _ _ hmp
  have hA : (s.ops.set i { o with pc := .running p }).countP (Op.active o.param) =
      s.ops.countP (Op.active o.param) := countP_set_of_eq hi (by simp [Op.active, hpc, Pc.entry])
  have hW := countP_set_add hi { o with pc := .running p } (Op.writing o.param)
  have hR := countP_set_add hi { o with pc := .running p } (Op.reading o.param)
  simp only [Op.writing, Op.reading, hpc, Pc.isRunning, decide_True, Bool.and_false,
    Bool.and_true, Bool.false_eq_true, if_false, Nat.add_zero] at hW hR
  have hex := hs.excl o.param
  obtain ⟨rw', hrw, rfl⟩ : ∃ rw', (if o.readLock then (s.ns.locks p).rw.getRLock
      else (s.ns.locks p).rw.getLock) = some rw' ∧
        s.ns.setLock p { s.ns.locks p with rw := rw' } = ns' := by
    simpa [NsLockMap.acquire] using h
  obtain ⟨hnew, hex'⟩ :
      rw' = (expected (s.ops.set i { o with pc := .running p }) o.param).rw ∧
      ((s.ops.set i { o with pc := .running p }).countP (Op.writing o.param) ≤ 1 ∧
        ((s.ops.set i { o with pc := .running p }).countP (Op.writing o.param) = 0 ∨
          (s.ops.set i { o with pc := .running p }).countP (Op.reading o.param) = 0)) := by
    rw [hl] at hrw
    cases hr : o.readLock <;>
      simp only [hr, if_true, if_false, Bool.false_eq_true, Bool.not_false, Bool.not_true,
        decide_True, Bool.and_self, Bool.and_true, Bool.and_false, Nat.add_zero] at hrw hW hR <;>
      simp only [RWState.getLock, RWState.getRLock, expected, decide_eq_false_iff_not] at hrw <;>
      split at hrw <;> cases hrw <;>
      simp only [expected, RWState.mk.injEq, decide_eq_decide, true_eq_decide_iff] <;> omega
  refine ⟨fun o'' ho'' p'' he => ?_, fun q p'' hq => ?_, hs.inj, fun q => ?_, hs.log⟩
  · rcases mem_set_cases ho'' with rfl | ho''
    · simp_all [Pc.entry]
    · exact hs.mapped o'' ho'' p'' he
  · by_cases hq0 : o.param = q
    · subst hq0
      obtain rfl : p'' = p := by simp_all
      refine ⟨?_, by omega, hf⟩
      simp only [NsLockMap.setLock_locks, Function.update_same, hnew, hl, expected, hA]
    · have hne : p'' ≠ p := fun h => hq0 (hs.inj _ _ _ hmp (h ▸ hq))
      obtain ⟨hl', hpos', hf'⟩ := hs.entry _ _ hq
      simp only [NsLockMap.setLock_locks, Function.update_noteq hne, expected_set_of_ne hi hq0]
      exact ⟨hl', by rwa [active_set_of_ne hi hq0], hf'⟩
  · by_cases hq0 : o.param = q
    · exact hq0 ▸ hex'
    · simpa only [holders_set_of_ne hi hq0] using hs.excl q

/-- The RW primitive's acquire times out. -/
theorem Inv.timeout {p : Nat} (hs : Inv s.ns s.ops) (hi : s.ops[i]? = some o)
    (hpc : o.pc = .blocked p) : Inv s.ns (s.ops.set i { o with pc := .timedOut p }) := by
  have hA : ∀ q, (s.ops.set i { o with pc := .timedOut p }).countP (Op.active q) =
      s.ops.countP (Op.active q) := fun q =>
    countP_set_of_eq hi (by simp [Op.active, hpc, Pc.entry])
  have hWR := holders_set_of_not_running hi (by simp [hpc, Pc.isRunning])
    (.timedOut p) rfl
  refine ⟨fun o'' ho'' p'' he => ?_, fun q p'' hq => ?_, hs.inj,
    fun q => by simpa only [hWR] using hs.excl q, hs.log⟩
  · rcases mem_set_cases ho'' with rfl | ho''
    · exact hs.mapped o (List.getElem?_mem hi) p'' (by simp_all [Pc.entry])
    · exact hs.mapped o'' ho'' p'' he
  · simpa only [expected, hA, hWR] using hs.entry q p'' hq

/-- Drop one reference from entry `p`, leaving `rw` in its primitive, and remove the entry of
`param` from the map when no reference is left: how both the timeout section of `lock` and
`unlock` end. -/
def dropRef (n : NsLockMap) (param : NsParam) (p : Nat) (rw : RWState) : NsLockMap :=
  let l : NsLock := ⟨rw, (n.locks p).ref - 1⟩
  if l.ref = 0 then (n.setLock p l).delete param else n.setLock p l

theorem lockTimedOut_eq_dropRef (n : NsLockMap) (param : NsParam) (p : Nat) :
    n.lockTimedOut param p = dropRef n param p (n.locks p).rw := rfl

theorem unlock_eq_dropRef {n : NsLockMap} {param : NsParam} {p : Nat}
    (hp : n.lockMap param = some p) (h0 : (n.locks p).ref ≠ 0) (readLock : Bool) :
    n.unlock param readLock = dropRef n param p
      (if readLock then (n.locks p).rw.rUnlock else (n.locks p).rw.unlock) := by
  simp [NsLockMap.unlock, hp, h0, dropRef]

/-- An operation drops its reference to its own entry and leaves the map consistent. -/
theorem Inv.release {p : Nat} (hs : Inv s.ns s.ops) (hi : s.ops[i]? = some o)
    (hp : o.pc.entry = some p) {rw : RWState}
    (hrw : rw = (expected (s.ops.set i { o with pc := .done }) o.param).rw) :
    Inv (dropRef s.ns o.param p rw) (s.ops.set i { o with pc := .done }) := by
  have hmp := hs.mapped o (List.getElem?_mem hi) p hp
  obtain ⟨hl, -, hf⟩ := hs.entry _ _ hmp
  have hA := countP_set_add hi { o with pc := .done } (Op.active o.param)
  simp only [Op.active, hp, Pc.entry_done, decide_True, Option.isSome_none, Option.isSome_some,
    Bool.and_false, Bool.and_true, if_true, Bool.false_eq_true, if_false, Nat.add_zero] at hA
  have href : (s.ns.locks p).ref - 1 =
      ((s.ops.set i { o with pc := .done }).countP (Op.active o.param) : Int) := by
    rw [hl]; simp only [expected]; omega
  have hother : ∀ q p'' l, o.param ≠ q → s.ns.lockMap q = some p'' →
      Function.update s.ns.locks p l p'' = expected (s.ops.set i { o with pc := .done }) q ∧
      0 < (s.ops.set i { o with pc := .done }).countP (Op.active q) ∧ p'' < s.ns.fresh :=
    fun q p'' l hq0 hq => by
      have hne : p'' ≠ p := fun h => hq0 (hs.inj _ _ _ hmp (h ▸ hq))
      obtain ⟨hl', hpos', hf'⟩ := hs.entry _ _ hq
      rw [Function.update_noteq hne, expected_set_of_ne hi hq0, active_set_of_ne hi hq0]
      exact ⟨hl', hpos', hf'⟩
  have hex : ∀ q, (s.ops.set i { o with pc := .done }).countP (Op.writing q) ≤ 1 ∧
      ((s.ops.set i { o with pc := .done }).countP (Op.writing q) = 0 ∨
        (s.ops.set i { o with pc := .done }).countP (Op.reading q) = 0) := fun q => by
    have hW := countP_set_le hi (b := { o with pc := .done }) (p := Op.writing q)
      (by simp [Op.writing, Pc.isRunning])
    have hR := countP_set_le hi (b := { o with pc := .done }) (p := Op.reading q)
      (by simp [Op.reading, Pc.isRunning])
    have := hs.excl q
    omega
  have hmem : ∀ o'' ∈ s.ops.set i { o with pc := .done }, ∀ p'', o''.pc.entry = some p'' →
      o'' ∈ s.ops := fun o'' ho'' p'' he => by
    rcases mem_set_cases ho'' with rfl | ho''
    · simp at he
    · exact ho''
  dsimp only [dropRef]
  split
  · rename_i h0
    have h0' : (s.ops.set i { o with pc := .done }).countP (Op.active o.param) = 0 := by omega
    refine ⟨fun o'' ho'' p'' he => ?_, fun q p'' hq => ?_, fun q q' p'' hq hq' => ?_, hex, hs.log⟩
    · have hq0 : o''.param ≠ o.param := fun h => absurd
        (countP_pos_of_mem (P := Op.active o.param) ho'' (by simp [Op.active, h, he])) (by omega)
      simpa [Function.update_noteq hq0] using hs.mapped o'' (hmem o'' ho'' p'' he) p'' he
    · have hq0 : o.param ≠ q := by rintro rfl; simp at hq
      simp only [NsLockMap.delete_lockMap, NsLockMap.setLock_lockMap,
        Function.update_noteq (Ne.symm hq0)] at hq
      exact hother q p'' _ hq0 hq
    · simp only [NsLockMap.delete_lockMap, NsLockMap.setLock_lockMap, Function.update_apply] at hq hq'
      split at hq <;> split at hq' <;> first | cases hq | cases hq' | exact hs.inj _ _ _ hq hq'
  · rename_i h0
    refine ⟨fun o'' ho'' p'' he => hs.mapped o'' (hmem o'' ho'' p'' he) p'' he,
      fun q p'' hq => ?_, hs.inj, hex, hs.log⟩
    by_cases hq0 : o.param = q
    · subst hq0
      obtain rfl : p'' = p := by simp_all
      refine ⟨?_, by omega, hf⟩
      simp only [NsLockMap.setLock_locks, Function.update_same, hrw, href]
      rfl
    · exact hother q p'' _ hq0 hq

/-- The timeout critical section of `lock`. -/
theorem Inv.cleanup {p : Nat} (hs : Inv s.ns s.ops) (hi : s.ops[i]? = some o)
    (hpc : o.pc = .timedOut p) :
    Inv (s.ns.lockTimedOut o.param p) (s.ops.set i { o with pc := .done }) := by
  have hmp := hs.mapped o (List.getElem?_mem hi) p (by simp [hpc])
  have hWR := holders_set_of_not_running hi (by simp [hpc, Pc.isRunning])
    .done rfl
  rw [lockTimedOut_eq_dropRef]
  exact hs.release hi (by simp [hpc])
    (by simp only [(hs.entry _ _ hmp).1, expected, (hWR _).1, (hWR _).2])

/-- `unlock`, by an operation whose `lock` returned true. -/
theorem Inv.unlock {p : Nat} (hs : Inv s.ns s.ops) (hi : s.ops[i]? = some o)
    (hpc : o.pc = .running p) :
    Inv (s.ns.unlock o.param o.readLock) (s.ops.set i { o with pc := .done }) := by
  have hmp := hs.mapped o (List.getElem?_mem hi) p (by simp [hpc])
  obtain ⟨hl, hpos, -⟩ := hs.entry _ _ hmp
  rw [unlock_eq_dropRef hmp (by rw [hl]; simp only [expected]; omega)]
  refine hs.release hi (by simp [hpc]) ?_
  have hW := countP_set_add hi { o with pc := .done } (Op.writing o.param)
  have hR := countP_set_add hi { o with pc := .done } (Op.reading o.param)
  have hex := hs.excl o.param
  rw [hl]
  cases hr : o.readLock <;>
    simp only [Op.writing, Op.reading, hpc, hr, Pc.isRunning, decide_True, Bool.not_false,
      Bool.not_true, Bool.and_true, Bool.and_false, Bool.and_self, if_true, if_false,
      Bool.false_eq_true, Nat.add_zero] at hW hR ⊢ <;>
    simp only [expected, RWState.unlock, RWState.rUnlock, RWState.mk.injEq, decide_eq_decide,
      false_eq_decide_iff, true_and, and_true] <;>
    omega

/-- One step of one operation keeps the invariant. -/
theorem Inv.step {s s' : Sys} {i : Nat} {a : Action} (hs : Inv s.ns s.ops)
    (h : step s (.op i a) = some s') : Inv s'.ns s'.ops := by
  obtain ⟨o, r, hi, hr, rfl⟩ := step_op_eq_some.mp h
  cases a <;> cases hpc : o.pc <;> simp only [Op.step, hpc, reduceCtorEq] at hr
  · cases hr; exact hs.lock hi hpc
  · obtain ⟨ns', hacq, rfl⟩ := Option.map_eq_some'.mp hr; exact hs.grant hi hpc hacq
  · cases hr; exact hs.timeout hi hpc
  · cases hr; exact hs.cleanup hi hpc
  · cases hr; exact hs.unlock hi hpc

/-- Operations that have not started leave the map empty and consistent. -/
theorem inv_init (ops : List (NsParam × Bool)) : Inv (init ops).ns (init ops).ops := by
  refine ⟨fun o ho p he => ?_, fun q p hq => by simp [init, newNSLock] at hq,
    fun q q' p hq => by simp [init, newNSLock] at hq, fun q => ?_, rfl⟩
  · obtain ⟨_, _, rfl⟩ := List.mem_map.mp ho
    simp at he
  · have : (init ops).ops.countP (Op.writing q) = 0 :=
      List.countP_eq_zero.mpr fun o ho => by
        obtain ⟨_, _, rfl⟩ := List.mem_map.mp ho
        simp [Op.writing, Pc.isRunning]
    omega

/-- Every run without `ForceUnlock` keeps the invariant. -/
theorem Inv.run {s s' : Sys} (hs : Inv s.ns s.ops) {es : List (Nat × Action)}
    (h : run s (es.map fun e => .op e.1 e.2) = some s') : Inv s'.ns s'.ops := by
  induction es generalizing s with
  | nil => cases h; exact hs
  | cons e es ih =>
    rw [List.map_cons, run_cons] at h
    obtain ⟨t, ht, h⟩ := Option.bind_eq_some.mp h
    exact ih (hs.step ht) h

end Step

/-! ## Exclusion and the reference-count log -/

theorem Inv.exclusive {ns : NsLockMap} {ops : List Op} (hs : Inv ns ops) : Exclusive ops := by
  intro i j oi oj hij hi hj hq hri hrj
  have hex := hs.excl oi.param
  have wr : ∀ {k} {o : Op}, ops[k]? = some o → o.param = oi.param → o.pc.isRunning →
      (o.readLock = false → 0 < ops.countP (Op.writing oi.param)) ∧
      (o.readLock = true → 0 < ops.countP (Op.reading oi.param)) := fun hk hp hr =>
    ⟨fun h => countP_pos_of_mem (List.getElem?_mem hk) (by simp [Op.writing, hp, hr, h]),
      fun h => countP_pos_of_mem (List.getElem?_mem hk) (by simp [Op.reading, hp, hr, h])⟩
  have hwi := wr hi rfl hri
  have hwj := wr hj hq.symm hrj
  cases hoi : oi.readLock <;> cases hoj : oj.readLock
  · have := two_le_countP hij hi hj (p := Op.writing oi.param) (by simp [Op.writing, hoi, hri])
      (by simp [Op.writing, hq, hoj, hrj])
    omega
  · have := hwi.1 hoi; have := hwj.2 hoj; omega
  · have := hwi.2 hoi; have := hwj.1 hoj; omega
  · exact ⟨rfl, rfl⟩

/-- Along every interleaving of operations that each `lock` a resource and, only if that
returned true, `unlock` it once, with no `ForceUnlock`: the map has an entry for a resource
exactly while some operation on it is between its `ref++` and its `ref--`, the entry's count
is their number and they all point at it; no two operations hold conflicting locks; and
`unlock` never reports a zero count. -/
theorem lockMap_refcount_exclusive (ops : List (NsParam × Bool)) (es : List (Nat × Action))
    (s : Sys) (h : run (init ops) (es.map fun e => .op e.1 e.2) = some s) :
    (∀ q, (∃ p, s.ns.lockMap q = some p) ↔ ∃ o ∈ s.ops, o.param = q ∧ o.pc.entry.isSome) ∧
    (∀ q p, s.ns.lockMap q = some p →
      (s.ns.locks p).ref = s.ops.countP (Op.active q) ∧
      ∀ o ∈ s.ops, o.param = q → ∀ p', o.pc.entry = some p' → p' = p) ∧
    Exclusive s.ops ∧ s.ns.log = [] := by
  have hs := (inv_init ops).run h
  refine ⟨fun q => ⟨fun ⟨p, hq⟩ => ?_, fun ⟨o, ho, hq, he⟩ => ?_⟩, fun q p hq => ⟨?_, ?_⟩,
    hs.exclusive, hs.log⟩
  · obtain ⟨o, ho, hact⟩ := List.countP_pos_iff.mp (hs.entry q p hq).2.1
    simp only [Op.active, Bool.and_eq_true, decide_eq_true_eq] at hact
    exact ⟨o, ho, hact⟩
  · obtain ⟨p, hp⟩ := Option.isSome_iff_exists.mp he
    exact ⟨p, hq ▸ hs.mapped o ho p hp⟩
  · rw [(hs.entry q p hq).1]; rfl
  · rintro o ho rfl p' hp'
    have := hs.mapped o ho p' hp'
    rw [hq] at this
    exact (Option.some.inj this).symm

theorem lockMap_refcount_exclusive_two_readers :
    ∃ s, run (init [(⟨"bucket", "object"⟩, true), (⟨"bucket", "object"⟩, true)])
      ([(0, .lock), (1, .lock), (0, .grant), (1, .grant)].map fun e => .op e.1 e.2) = some s ∧
    ((∀ q, (∃ p, s.ns.lockMap q = some p) ↔ ∃ o ∈ s.ops, o.param = q ∧ o.pc.entry.isSome) ∧
    (∀ q p, s.ns.lockMap q = some p →
      (s.ns.locks p).ref = s.ops.countP (Op.active q) ∧
      ∀ o ∈ s.ops, o.param = q → ∀ p', o.pc.entry = some p' → p' = p) ∧
    Exclusive s.ops ∧ s.ns.log = []) :=
  ⟨_, rfl, lockMap_refcount_exclusive [(⟨"bucket", "object"⟩, true), (⟨"bucket", "object"⟩, true)]
    [(0, .lock), (1, .lock), (0, .grant), (1, .grant)] _ rfl⟩

end Minio.NsLock.RefCount
