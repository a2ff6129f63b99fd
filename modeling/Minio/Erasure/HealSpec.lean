import Minio.Erasure.Heal
import Mathlib.Tactic.Linarith
/-!
# What `HealFile` writes to the stale disks

Under the contract of its environment (`readConcurrent` returns the original per-disk streams
of at least `dataBlocks` disks, and decoding a stripe with at least `dataBlocks` original
shards restores every shard), `HealFile` appends to each stale disk chunk `i` of every block,
in order, until that disk's first failed append; it fails exactly when, at some block, no stale
disk still in play takes its append; and on success the checksum of each stale disk that took
every append is the digest of its whole original stream.

The proof goes disk by disk (`StaleSlot`, kept by one turn of the write loop and so by every
block), then block by block (`healBlocks_run`), with the stripe geometry of the source checked
against the layout of the spec: block `b` has `min blocksize (size - b * blocksize)` bytes and
its chunks `ceilFrac` of that over `dataBlocks`.
-/

namespace Minio.Erasure.HealSpec

open Minio.Erasure.Heal

/-! ## The stripe layout -/

/-- The length of block `b` of a file of `size` bytes cut in blocks of `blocksize`. -/
def blockLen (blocksize size : Int) (b : Nat) : Int := min blocksize (size - b * blocksize)

/-- Where chunk `b` starts on a disk: the chunk sizes of the blocks before it, each `ceilFrac` of
the block's length over `dataBlocks`. -/
def layoutStart (dataBlocks : Nat) (blocksize size : Int) (b : Nat) : Int :=
  ((List.range b).map fun c => ceilFrac (blockLen blocksize size c) dataBlocks).sum

/-- The block loop with block `b` sliced at its chunk range of the spec's per-disk layout,
`ceilFrac (blockLen b) dataBlocks` bytes from `layoutStart b`, in place of the running
`buffOffset`; the rest of its body is `healBlocks`'. -/
def layoutBlocks (env : HealEnv) (dataBlocks : Nat) (blocksize size : Int) (buffers : List Bytes) :
    List Nat → List DiskSlot → Except HealErr Unit × List DiskSlot
  | [], slots => (.ok (), slots)
  | b :: bs, slots =>
    match blockShards buffers (layoutStart dataBlocks blocksize size b)
        (ceilFrac (blockLen blocksize size b) dataBlocks) >>= fun blocks =>
          (env.decode blocks).mapError .decode with
    | .error e => (.error e, slots)
    | .ok blocks =>
      let r := writeBlock env.appendFile b blocks 0 slots
      if r.2 then layoutBlocks env dataBlocks blocksize size buffers bs r.1
      else (.error (.write (joinWriteErrors (r.1.map (·.writeErr)))), r.1)

section Geometry

variable {blocksize size : Int}

theorem ceilFrac_pos {n d : Int} (hd : 0 < d) (hn : 0 < n) : 0 < ceilFrac n d := by
  unfold ceilFrac
  rw [if_neg (by omega)]
  exact Int.le_ediv_of_mul_le hd (by omega)

/-- `numBlocks` is the number of whole blocks, and one more for a shorter last block. -/
theorem numBlocks_eq (hbs : 0 < blocksize) :
    numBlocks blocksize size = size / blocksize + if size % blocksize = 0 then 0 else 1 := by
  have h1 := Int.ediv_add_emod size blocksize
  have h2 := Int.emod_nonneg size (ne_of_gt hbs)
  have h3 := Int.emod_lt_of_pos size hbs
  unfold numBlocks ceilFrac
  rw [if_neg (by omega)]
  split_ifs with hr
  · rw [show size + blocksize - 1 = blocksize - 1 + blocksize * (size / blocksize) by omega,
      Int.add_mul_ediv_left _ _ (ne_of_gt hbs), Int.ediv_eq_zero_of_lt (by omega) (by omega)]
    omega
  · rw [show size + blocksize - 1 = size % blocksize - 1 + blocksize * (size / blocksize + 1) by
        linarith, Int.add_mul_ediv_left _ _ (ne_of_gt hbs),
      Int.ediv_eq_zero_of_lt (by omega) (by omega)]
    omega

/-- The source's chunk size at every block of the loop is the layout's: `ceilFrac` of the
block's length, which is positive. -/
theorem chunkSizeAt_eq (dataBlocks : Nat) (hbs : 0 < blocksize) (hsize : 0 ≤ size) {b : Nat}
    (hb : b < blockCount blocksize size) :
    chunkSizeAt dataBlocks blocksize size b = ceilFrac (blockLen blocksize size b) dataBlocks ∧
      0 < blockLen blocksize size b := by
  have hN : numBlocks blocksize size = _ := numBlocks_eq hbs
  have h1 := Int.ediv_add_emod size blocksize
  have h2 := Int.emod_nonneg size (ne_of_gt hbs)
  have h3 := Int.emod_lt_of_pos size hbs
  have hq : 0 ≤ size / blocksize := Int.ediv_nonneg hsize hbs.le
  have hb' : (b : Int) < numBlocks blocksize size := by unfold blockCount at hb; omega
  unfold chunkSizeAt lastChunkSize chunkSize blockLen
  by_cases hlast : (b : Int) = numBlocks blocksize size - 1
  · rw [if_pos hlast]
    by_cases hr : size % blocksize = 0
    · -- the last block is a whole block
      rw [if_pos hr] at hN
      rw [if_neg (not_not.mpr hr)]
      have hlen : size - b * blocksize = blocksize := by
        rw [show (b : Int) = size / blocksize - 1 by omega]; linarith
      rw [hlen, min_self]
      exact ⟨rfl, hbs⟩
    · -- the last block is shorter: its length is the remainder
      rw [if_neg hr] at hN
      rw [if_pos hr]
      have hlen : size - b * blocksize = size % blocksize := by
        rw [show (b : Int) = size / blocksize by omega]; linarith
      rw [hlen, min_eq_right h3.le]
      exact ⟨rfl, by omega⟩
  · -- a block before the last is a whole block
    rw [if_neg hlast]
    have hle : ((b : Int) + 1) * blocksize ≤ size / blocksize * blocksize :=
      Int.mul_le_mul_of_nonneg_right (by split_ifs at hN <;> omega) hbs.le
    rw [min_eq_left (by linarith)]
    exact ⟨rfl, hbs⟩

/-- `numBlocks` blocks cover the file, and all but the last lie wholly inside it. -/
theorem numBlocks_bounds (hbs : 0 < blocksize) (hsize : 0 ≤ size) :
    0 ≤ numBlocks blocksize size ∧ size ≤ numBlocks blocksize size * blocksize ∧
      (0 < size → (numBlocks blocksize size - 1) * blocksize < size) := by
  have h1 := Int.ediv_add_emod size blocksize
  have h2 := Int.emod_nonneg size (ne_of_gt hbs)
  have h3 := Int.emod_lt_of_pos size hbs
  have hq : 0 ≤ size / blocksize := Int.ediv_nonneg hsize hbs.le
  rw [numBlocks_eq hbs]
  split_ifs with hr
  · exact ⟨by omega, by linarith, fun _ => by linarith⟩
  · have hr' : 0 < size % blocksize := lt_of_le_of_ne h2 (Ne.symm hr)
    exact ⟨by omega, by linarith, fun _ => by linarith⟩

/-- Block `b` of the file is a whole block, but for the last, which holds the rest. -/
theorem blockLen_eq (hbs : 0 < blocksize) (hsize : 0 ≤ size) {b : Nat}
    (hb : b < blockCount blocksize size) :
    blockLen blocksize size b = if (b : Int) = numBlocks blocksize size - 1 then
      size - (numBlocks blocksize size - 1) * blocksize else blocksize := by
  obtain ⟨h0, hcover, hinside⟩ := numBlocks_bounds hbs hsize
  have hb' : (b : Int) < numBlocks blocksize size := by unfold blockCount at hb; omega
  have hpos : 0 < size := by
    rcases hsize.lt_or_eq with h | h
    · exact h
    · subst h
      rw [numBlocks_eq hbs] at hb'
      simp at hb'
      omega
  unfold blockLen
  split_ifs with hlast
  · rw [hlast]; exact min_eq_right (by linarith)
  · have hle : ((b : Int) + 1) * blocksize ≤ (numBlocks blocksize size - 1) * blocksize :=
      Int.mul_le_mul_of_nonneg_right (by omega) hbs.le
    exact min_eq_left (by linarith [hinside hpos])

/-- Before the last block, `buffOffset` is a whole number of chunks. -/
theorem offsetAt_of_le (dataBlocks : Nat) :
    ∀ b : Nat, (b : Int) ≤ numBlocks blocksize size - 1 →
      offsetAt dataBlocks blocksize size b = b * chunkSize dataBlocks blocksize
  | 0, _ => by simp [offsetAt]
  | b + 1, hb => by
    rw [offsetAt_succ, offsetAt_of_le dataBlocks b (by omega), chunkSizeAt, if_neg (by omega),
      Nat.cast_succ, Int.add_mul, Int.one_mul]

/-- `buffOffset` after the last block is `readLen`. -/
theorem offsetAt_blockCount (dataBlocks : Nat) (hbs : 0 < blocksize) (hsize : 0 ≤ size) :
    offsetAt dataBlocks blocksize size (blockCount blocksize size) =
      readLen dataBlocks blocksize size := by
  obtain ⟨h0, -, -⟩ := numBlocks_bounds hbs hsize
  have hN : (blockCount blocksize size : Int) = numBlocks blocksize size := by
    unfold blockCount; omega
  unfold readLen
  rcases Nat.eq_zero_or_eq_succ_pred (blockCount blocksize size) with hz | hs
  · -- an empty file: no block, and `readLen` is `0`
    have hsz : size = 0 := by
      rw [hz, Nat.cast_zero] at hN
      have := (numBlocks_bounds hbs hsize).2.1
      rw [← hN, zero_mul] at this
      omega
    subst hsz
    have hN0 : numBlocks blocksize 0 = 0 := by rw [numBlocks_eq hbs]; simp
    rw [hz, hN0, lastChunkSize, if_neg (by simp)]
    simp [offsetAt]
  · rw [hs, offsetAt_succ, offsetAt_of_le dataBlocks _ (by omega), chunkSizeAt,
      if_pos (by omega)]
    have : ((blockCount blocksize size - 1 : Nat) : Int) = numBlocks blocksize size - 1 := by
      omega
    rw [Nat.pred_eq_sub_one, this, Int.mul_comm]

/-- Up to block `b ≤ blockCount`, `buffOffset` is the layout's start of chunk `b` on a disk:
the chunk sizes `ceilFrac` of the blocks before it. -/
theorem offsetAt_eq_layout (dataBlocks : Nat) (hbs : 0 < blocksize) (hsize : 0 ≤ size) :
    ∀ b ≤ blockCount blocksize size,
      offsetAt dataBlocks blocksize size b = layoutStart dataBlocks blocksize size b
  | 0, _ => rfl
  | b + 1, hb => by
    rw [offsetAt_succ, offsetAt_eq_layout dataBlocks hbs hsize b (by omega),
      (chunkSizeAt_eq dataBlocks hbs hsize (by omega)).1, layoutStart, layoutStart,
      List.range_succ, List.map_append,
      List.sum_append, List.map_singleton, List.sum_singleton]

theorem ceilFrac_nonneg {n d : Int} (hn : 0 ≤ n) : 0 ≤ ceilFrac n d := by
  unfold ceilFrac
  split_ifs
  · exact le_rfl
  · exact Int.ediv_nonneg (by omega) (by omega)

/-- `buffOffset` only grows over the blocks of the loop. -/
theorem offsetAt_mono (dataBlocks : Nat) (hbs : 0 < blocksize) (hsize : 0 ≤ size) (b : Nat) :
    ∀ k, b + k ≤ blockCount blocksize size →
      offsetAt dataBlocks blocksize size b ≤ offsetAt dataBlocks blocksize size (b + k)
  | 0, _ => le_rfl
  | k + 1, hk => by
    have hc := chunkSizeAt_eq dataBlocks hbs hsize (show b + k < blockCount blocksize size by omega)
    rw [← Nat.add_assoc, offsetAt_succ, hc.1]
    have := ceilFrac_nonneg (d := dataBlocks) hc.2.le
    have := offsetAt_mono dataBlocks hbs hsize b k (by omega)
    omega

/-- The loop from block `b` on, entered with `buffOffset` at `offsetAt b`, is the layout's
loop: its running offset is the layout's start of each block. -/
theorem healBlocks_eq_layoutBlocks (dataBlocks : Nat) (hbs : 0 < blocksize) (hsize : 0 ≤ size)
    (env : HealEnv) (buffers : List Bytes) :
    ∀ (k b : Nat) (slots : List DiskSlot), b + k ≤ blockCount blocksize size →
      healBlocks env dataBlocks blocksize size buffers (List.range' b k)
          (offsetAt dataBlocks blocksize size b) slots =
        layoutBlocks env dataBlocks blocksize size buffers (List.range' b k) slots
  | 0, _, _, _ => rfl
  | k + 1, b, slots, hk => by
    have hb : b < blockCount blocksize size := by omega
    simp only [List.range'_succ, healBlocks, layoutBlocks]
    rw [← offsetAt_eq_layout dataBlocks hbs hsize b hb.le,
      ← (chunkSizeAt_eq dataBlocks hbs hsize hb).1, ← offsetAt_succ]
    rcases blockShards buffers (offsetAt dataBlocks blocksize size b)
        (chunkSizeAt dataBlocks blocksize size b) >>= fun blocks =>
          (env.decode blocks).mapError .decode with _ | blocks
    · rfl
    · dsimp only
      split
      · exact healBlocks_eq_layoutBlocks dataBlocks hbs hsize env buffers k (b + 1) _ (by omega)
      · rfl

/-- Slicing every non-empty buffer at `[off, off + csize)` cannot go out of range when those
buffers hold at least `off + csize` bytes. -/
theorem blockShards_ok {off csize : Int} (h0 : 0 ≤ off) (hc : 0 ≤ csize) :
    ∀ buffers : List Bytes, (∀ buf ∈ buffers, buf.length = 0 ∨ off + csize ≤ buf.length) →
      ∃ shards, blockShards buffers off csize = .ok shards
  | [], _ => ⟨[], rfl⟩
  | buf :: buffers, hlen => by
    obtain ⟨ys, hys⟩ := blockShards_ok h0 hc buffers fun b hb => hlen b (.tail _ hb)
    have hy : ∃ y, (if buf.length ≠ 0 then subslice buf off (off + csize) else .ok []) =
        (.ok y : Except HealErr Bytes) := by
      split
      · rename_i hne
        rcases hlen buf (.head _) with h | h
        · exact absurd h hne
        · exact ⟨_, if_pos ⟨h0, by omega, h⟩⟩
      · exact ⟨[], rfl⟩
    obtain ⟨y, hy⟩ := hy
    refine ⟨y :: ys, ?_⟩
    simp only [blockShards, List.mapM_cons] at hys ⊢
    rw [hy, hys]
    rfl

end Geometry

example : readLen 3 4 10 = 5 ∧ blockCount 4 10 = 3 := by decide

/-! ## One disk -/

section Disk

variable (appendFile : Nat → Nat → Option String) (orig : Nat → Nat → Bytes)

/-- No `AppendFile` to disk `i` failed at a block before `b`. -/
def AppendsOk (i b : Nat) : Prop := ∀ c < b, appendFile c i = none

instance (i b : Nat) : Decidable (AppendsOk appendFile i b) :=
  inferInstanceAs (Decidable (∀ c < b, appendFile c i = none))

theorem appendsOk_succ {i b : Nat} :
    AppendsOk appendFile i (b + 1) ↔ AppendsOk appendFile i b ∧ appendFile b i = none := by
  simp only [AppendsOk, Nat.lt_succ_iff_lt_or_eq, or_imp, forall_and, forall_eq]

/-- The first `b` chunks of disk `i`'s stream: chunk `i` of each block. -/
def streamPrefix (i b : Nat) : Bytes := ((List.range b).map fun c => orig c i).flatten

theorem streamPrefix_succ (i b : Nat) :
    streamPrefix orig i (b + 1) = streamPrefix orig i b ++ orig b i := by
  simp [streamPrefix, List.range_succ]

theorem streamPrefix_prefix (i : Nat) {b c : Nat} (h : b ≤ c) :
    streamPrefix orig i b <+: streamPrefix orig i c := by
  induction c, h using Nat.le_induction with
  | base => exact List.prefix_refl _
  | succ c _ ih => exact ih.trans (streamPrefix_succ orig i c ▸ List.prefix_append _ _)

/-- A slot as the initialization loop leaves it. -/
def SlotFresh (d : DiskSlot) : Prop :=
  d.writeErr = none ∧ d.hasher = (if d.stale then some [] else none) ∧ d.calls = [] ∧
    d.received = []

/-- What a stale disk's slot holds after the write loops of the blocks before `b`: a write
error exactly when an append failed, calls only at blocks no failure precedes, and, while no
append failed, the disk and its hasher hold the first `b` chunks of its stream. -/
structure StaleSlot (i b : Nat) (d : DiskSlot) : Prop where
  stale : d.stale = true
  err : d.writeErr = none ↔ AppendsOk appendFile i b
  calls : ∀ c ∈ d.calls, AppendsOk appendFile i c
  bytes : AppendsOk appendFile i b →
    d.received = streamPrefix orig i b ∧ d.hasher = some (streamPrefix orig i b)

/-- One turn of the write loop keeps `StaleSlot`, and succeeds exactly when no append to the
disk has failed up to this block. -/
theorem StaleSlot.write {i b : Nat} {d : DiskSlot} (h : StaleSlot appendFile orig i b d) :
    StaleSlot appendFile orig i (b + 1) (d.write b (appendFile b i) (orig b i)).1 ∧
      ((d.write b (appendFile b i) (orig b i)).2 = true ↔ AppendsOk appendFile i (b + 1)) := by
  have hb := appendsOk_succ appendFile (i := i) (b := b)
  unfold DiskSlot.write
  cases he : d.writeErr with
  | some e =>
    -- a disk that failed is skipped
    have hno : ¬AppendsOk appendFile i b := fun hok => by simp [h.err.mpr hok] at he
    simp only [h.stale, he, Option.isSome_some, Bool.not_true, Bool.or_true, if_true]
    exact ⟨⟨h.stale, by simp [he, hb, hno], h.calls, fun hok => absurd (hb.mp hok).1 hno⟩,
      by simp [hb, hno]⟩
  | none =>
    have hok := h.err.mp he
    cases ha : appendFile b i with
    | some e =>
      simp only [h.stale, Option.isSome_none, Bool.not_true, Bool.or_self, Bool.false_eq_true,
        if_false]
      refine ⟨⟨rfl, by simp [hb, ha], fun c hc => ?_, fun h' => by simp [hb, ha] at h'⟩,
        by simp [hb, ha]⟩
      rcases List.mem_append.mp hc with hc | hc
      · exact h.calls c hc
      · simp only [List.mem_singleton] at hc; exact hc ▸ hok
    | none =>
      simp only [h.stale, Option.isSome_none, Bool.not_true, Bool.or_self, Bool.false_eq_true,
        if_false]
      obtain ⟨hr, hh⟩ := h.bytes hok
      refine ⟨⟨rfl, by simp [hb, ha, hok], fun c hc => ?_, fun _ => ?_⟩, by simp [hb, ha, hok]⟩
      · rcases List.mem_append.mp hc with hc | hc
        · exact h.calls c hc
        · simp only [List.mem_singleton] at hc; exact hc ▸ hok
      · simp [hr, hh, streamPrefix_succ]

/-- Disk `i`'s slot after the write loops of the blocks before `b`, each given the original
stripe. -/
def slotAfter (i : Nat) (d : DiskSlot) : Nat → DiskSlot
  | 0 => d
  | b + 1 => ((slotAfter i d b).write b (appendFile b i) (orig b i)).1

theorem slotAfter_stale {i : Nat} {d : DiskSlot} (hs : d.stale = true) (hf : SlotFresh d) :
    ∀ b, StaleSlot appendFile orig i b (slotAfter appendFile orig i d b)
  | 0 => ⟨hs, by simp [slotAfter, hf.1, AppendsOk], by simp [slotAfter, hf.2.2.1],
      fun _ => ⟨hf.2.2.2, by simp [slotAfter, hf.2.1, hs, streamPrefix]⟩⟩
  | b + 1 => (StaleSlot.write appendFile orig (slotAfter_stale hs hf b)).1

theorem slotAfter_not_stale {i : Nat} {d : DiskSlot} (hs : d.stale = false) :
    ∀ b, slotAfter appendFile orig i d b = d
  | 0 => rfl
  | b + 1 => by simp [slotAfter, slotAfter_not_stale hs b, DiskSlot.write, hs]

/-- A turn of the write loop, on a slot as the blocks before `b` leave it, succeeds exactly when
the disk is stale and took every append up to this block. -/
theorem slotAfter_write_flag {i : Nat} {d : DiskSlot} (hf : SlotFresh d) (b : Nat) :
    ((slotAfter appendFile orig i d b).write b (appendFile b i) (orig b i)).2 = true ↔
      d.stale = true ∧ AppendsOk appendFile i (b + 1) := by
  cases hs : d.stale
  · simp [slotAfter_not_stale appendFile orig hs, DiskSlot.write, hs]
  · simpa using ((slotAfter_stale appendFile orig hs hf b).write appendFile orig).2

theorem staleSlot_init (i b : Nat) :
    StaleSlot appendFile orig i b (slotAfter appendFile orig i (DiskSlot.init true) b) :=
  slotAfter_stale appendFile orig rfl (by simp [SlotFresh, DiskSlot.init]) b

theorem slotAfter_init_false (i b : Nat) :
    slotAfter appendFile orig i (DiskSlot.init false) b = DiskSlot.init false :=
  slotAfter_not_stale appendFile orig rfl b

/-- A disk's checksum after the blocks before `b`: the digest of the first `b` chunks of its
stream when it is stale and took every append, none otherwise. -/
theorem slotAfter_checksum (alg : BitrotAlgorithm) (stale : Bool) (i b : Nat) :
    (slotAfter appendFile orig i (DiskSlot.init stale) b).checksum alg =
      if stale = true ∧ AppendsOk appendFile i b then some (alg.digest (streamPrefix orig i b))
      else none := by
  cases stale
  · rw [slotAfter_init_false]; simp [DiskSlot.checksum, DiskSlot.init]
  · have h := staleSlot_init appendFile orig i b
    by_cases hok : AppendsOk appendFile i b
    · simp [DiskSlot.checksum, h.stale, h.err.mpr hok, (h.bytes hok).2, hok]
    · simp only [DiskSlot.checksum, h.stale, Bool.true_and, true_and, hok, if_false]
      cases he : (slotAfter appendFile orig i (DiskSlot.init true) b).writeErr
      · exact absurd (h.err.mp he) hok
      · rfl

/-- A disk gets no `AppendFile` call after a failed one. -/
theorem slotAfter_calls (stale : Bool) (i b : Nat) :
    ∀ c ∈ (slotAfter appendFile orig i (DiskSlot.init stale) b).calls, AppendsOk appendFile i c := by
  cases stale
  · rw [slotAfter_init_false]; simp [DiskSlot.init]
  · exact (staleSlot_init appendFile orig i b).calls

end Disk

/-! ## The write loop of a block -/

section Block

variable (appendFile : Nat → Nat → Option String) (orig : Nat → Nat → Bytes)

/-- The slots from disk `i` on after the write loops of the blocks before `b`. -/
def slotsAfter (b : Nat) : Nat → List DiskSlot → List DiskSlot
  | _, [] => []
  | i, d :: ds => slotAfter appendFile orig i d b :: slotsAfter b (i + 1) ds

theorem slotsAfter_zero : ∀ (i : Nat) (ds : List DiskSlot), slotsAfter appendFile orig 0 i ds = ds
  | _, [] => rfl
  | i, d :: ds => by simp [slotsAfter, slotAfter, slotsAfter_zero (i + 1) ds]

theorem getElem?_slotsAfter (b : Nat) : ∀ (i j : Nat) (ds : List DiskSlot),
    (slotsAfter appendFile orig b i ds)[j]? = ds[j]?.map (slotAfter appendFile orig (i + j) · b)
  | _, _, [] => rfl
  | i, 0, d :: ds => by simp [slotsAfter]
  | i, j + 1, d :: ds => by
    simp [slotsAfter, getElem?_slotsAfter b (i + 1) j ds, show i + 1 + j = i + (j + 1) by omega]

/-- Some stale disk among `ds`, numbered from `i`, took every append up to block `b`. -/
def SomeLive (b i : Nat) (ds : List DiskSlot) : Prop :=
  ∃ j d, ds[j]? = some d ∧ d.stale = true ∧ AppendsOk appendFile (i + j) (b + 1)

theorem someLive_cons {b i : Nat} {d : DiskSlot} {ds : List DiskSlot} :
    SomeLive appendFile b i (d :: ds) ↔
      (d.stale = true ∧ AppendsOk appendFile i (b + 1)) ∨ SomeLive appendFile b (i + 1) ds := by
  constructor
  · rintro ⟨_ | j, d', hj, hs, hok⟩
    · simp only [List.getElem?_cons_zero, Option.some.injEq] at hj
      exact .inl ⟨hj ▸ hs, hok⟩
    · rw [List.getElem?_cons_succ] at hj
      exact .inr ⟨j, d', hj, hs, by rwa [Nat.add_right_comm, Nat.add_assoc]⟩
  · rintro (⟨hs, hok⟩ | ⟨j, d', hj, hs, hok⟩)
    · exact ⟨0, d, List.getElem?_cons_zero, hs, hok⟩
    · exact ⟨j + 1, d', by rwa [List.getElem?_cons_succ], hs,
        by rwa [Nat.add_right_comm, Nat.add_assoc] at hok⟩

/-- The write loop of block `b`, given the original stripe, moves every slot one block on, and
succeeds exactly when some stale disk took every append up to this block. -/
theorem writeBlock_slotsAfter (b : Nat) (blocks : List Bytes) :
    ∀ (i : Nat) (ds : List DiskSlot), (∀ d ∈ ds, SlotFresh d) →
      (∀ j < ds.length, blocks.getD (i + j) [] = orig b (i + j)) →
      (writeBlock appendFile b blocks i (slotsAfter appendFile orig b i ds)).1 =
          slotsAfter appendFile orig (b + 1) i ds ∧
        ((writeBlock appendFile b blocks i (slotsAfter appendFile orig b i ds)).2 = true ↔
          SomeLive appendFile b i ds)
  | _, [], _, _ => by simp [slotsAfter, writeBlock, SomeLive]
  | i, d :: ds, hf, hb => by
    obtain ⟨ih1, ih2⟩ := writeBlock_slotsAfter b blocks (i + 1) ds (fun d hd => hf d (.tail _ hd))
      fun j hj => by simpa [Nat.add_right_comm, Nat.add_assoc] using hb (j + 1) (by simp; omega)
    have hshard : blocks.getD i [] = orig b i := by simpa using hb 0 (by simp)
    simp only [slotsAfter, writeBlock, hshard, ih1, Bool.or_eq_true, someLive_cons,
      slotAfter_write_flag appendFile orig (hf d (.head _)), ih2]
    exact ⟨rfl, trivial⟩

end Block


/-! ## The block loop -/

theorem mapM_map_ok {α γ β ε : Type} (F : α → γ) (f : γ → Except ε β) (g : α → β) :
    ∀ l : List α, (∀ x ∈ l, f (F x) = .ok (g x)) → (l.map F).mapM f = .ok (l.map g)
  | [], _ => rfl
  | x :: l, h => by
    simp only [List.map_cons, List.mapM_cons, h x (.head _),
      mapM_map_ok F f g l fun y hy => h y (.tail _ hy)]
    rfl

section Loop

variable (env : HealEnv) (dataBlocks : Nat) (blocksize size : Int) (orig : Nat → Nat → Bytes)
  (got : Nat → Bool) (n : Nat)

/-- The contract of the environment for a file of `blockCount` blocks whose original stripe is
`orig`, over `n` disks: each chunk has the source's chunk size, which is positive; the read
buffers are the whole streams of the disks `got` and empty for the others, with at least
`dataBlocks` disks `got`; and decoding the shards of a block with at least `dataBlocks` of its
original chunks restores every chunk. -/
structure LoopContract (buffers : List Bytes) : Prop where
  sizes : ∀ b < blockCount blocksize size, ∀ i < n,
    ((orig b i).length : Int) = chunkSizeAt dataBlocks blocksize size b
  pos : ∀ b < blockCount blocksize size, 0 < chunkSizeAt dataBlocks blocksize size b
  buffers : buffers = (List.range n).map fun i =>
    if got i then streamPrefix orig i (blockCount blocksize size) else []
  quorum : dataBlocks ≤ ((List.range n).filter got).length
  decode : ∀ b < blockCount blocksize size, ∀ present : Nat → Bool,
    dataBlocks ≤ ((List.range n).filter present).length →
    env.decode ((List.range n).map fun i => if present i then orig b i else []) =
      .ok ((List.range n).map (orig b))

variable {env dataBlocks blocksize size orig got n} {buffers : List Bytes}

theorem LoopContract.streamPrefix_length
    (hc : LoopContract env dataBlocks blocksize size orig got n buffers) {i c : Nat} (hi : i < n)
    (hcN : c ≤ blockCount blocksize size) :
    ((streamPrefix orig i c).length : Int) = offsetAt dataBlocks blocksize size c := by
  induction c with
  | zero => rfl
  | succ c ih =>
    rw [streamPrefix_succ, List.length_append, Nat.cast_add, ih (by omega), offsetAt_succ,
      hc.sizes c (by omega) i hi]

/-- Slicing disk `i`'s stream at block `b`'s offset gives chunk `i` of block `b`. -/
theorem LoopContract.slice_stream
    (hc : LoopContract env dataBlocks blocksize size orig got n buffers) {i b : Nat} (hi : i < n)
    (hb : b < blockCount blocksize size) :
    (streamPrefix orig i (blockCount blocksize size)).length ≠ 0 ∧
      subslice (streamPrefix orig i (blockCount blocksize size)) (offsetAt dataBlocks blocksize size b)
        (offsetAt dataBlocks blocksize size b + chunkSizeAt dataBlocks blocksize size b) =
        .ok (orig b i) := by
  obtain ⟨rest, hrest⟩ := streamPrefix_prefix orig i (Nat.succ_le_of_lt hb)
  have hpre := hc.streamPrefix_length hi hb.le
  have hlen := hc.sizes b hb i hi
  have hpos := hc.pos b hb
  rw [← hrest, streamPrefix_succ, List.append_assoc]
  refine ⟨by rw [List.length_append, List.length_append]; omega, ?_⟩
  unfold subslice
  rw [if_pos (by simp; omega), ← hpre, Int.toNat_natCast, List.drop_left,
    show (↑(streamPrefix orig i b).length + chunkSizeAt dataBlocks blocksize size b -
      ↑(streamPrefix orig i b).length).toNat = (orig b i).length by omega, List.take_left]

/-- The shards of block `b`: chunk `i` of it for each disk `got`, an empty shard for the
others; decoding them restores the whole stripe. -/
theorem LoopContract.shards (hc : LoopContract env dataBlocks blocksize size orig got n buffers)
    {b : Nat} (hb : b < blockCount blocksize size) :
    (blockShards buffers (offsetAt dataBlocks blocksize size b)
        (chunkSizeAt dataBlocks blocksize size b) >>= fun blocks =>
      (env.decode blocks).mapError .decode) = .ok ((List.range n).map (orig b)) := by
  have hsh : blockShards buffers (offsetAt dataBlocks blocksize size b)
      (chunkSizeAt dataBlocks blocksize size b) =
      .ok ((List.range n).map fun i => if got i then orig b i else []) := by
    rw [blockShards, hc.buffers]
    refine mapM_map_ok _ _ _ _ fun i hi => ?_
    have hi : i < n := List.mem_range.mp hi
    cases got i
    · rfl
    · obtain ⟨hne, hs⟩ := hc.slice_stream hi hb
      simp only [if_true, ne_eq, hne, not_false_eq_true, hs]
  rw [hsh]
  show (env.decode _).mapError HealErr.decode = _
  rw [hc.decode b hb got hc.quorum]
  rfl

/-- The block loop from block `b` on, over `k` blocks, from the slots as the blocks before `b`
leave them: it stops after some block `m`, leaving the slots as the blocks before `m` leave
them; it succeeds exactly when at every block some stale disk took every append up to it, and
then it has run every block. -/
theorem LoopContract.run (hc : LoopContract env dataBlocks blocksize size orig got n buffers)
    {slots₀ : List DiskSlot} (hlen : slots₀.length = n) (hfresh : ∀ d ∈ slots₀, SlotFresh d) :
    ∀ (k b : Nat) {r : Except HealErr Unit} {slots : List DiskSlot},
      b + k ≤ blockCount blocksize size →
      healBlocks env dataBlocks blocksize size buffers (List.range' b k)
          (offsetAt dataBlocks blocksize size b) (slotsAfter env.appendFile orig b 0 slots₀) =
        (r, slots) →
      ∃ m, b ≤ m ∧ m ≤ b + k ∧ slots = slotsAfter env.appendFile orig m 0 slots₀ ∧
        (r = .ok () ↔ ∀ c, b ≤ c → c < b + k → SomeLive env.appendFile c 0 slots₀) ∧
        (r = .ok () → m = b + k)
  | 0, b, r, slots, _, h => by
    simp only [List.range'_zero, healBlocks, Prod.mk.injEq] at h
    obtain ⟨rfl, rfl⟩ := h
    exact ⟨b, le_rfl, le_rfl, rfl, by simp; omega, fun _ => rfl⟩
  | k + 1, b, r, slots, hk, h => by
    have hb : b < blockCount blocksize size := by omega
    obtain ⟨hw1, hw2⟩ := writeBlock_slotsAfter env.appendFile orig b
      ((List.range n).map (orig b)) 0 slots₀ hfresh fun j hj => by simp [← hlen, hj]
    simp only [List.range'_succ, healBlocks, hc.shards hb, hw1] at h
    split at h
    · -- some stale disk took the block: the loop goes on from the next block
      rename_i hlive
      rw [← offsetAt_succ] at h
      obtain ⟨m, hbm, hmk, hslots, hok, hend⟩ := hc.run hlen hfresh k (b + 1) (by omega) h
      refine ⟨m, by omega, by omega, hslots, hok.trans ⟨fun hall c hbc hck => ?_,
        fun hall c hbc hck => hall c (by omega) (by omega)⟩, fun hr => by rw [hend hr]; omega⟩
      rcases Nat.eq_or_lt_of_le hbc with rfl | hbc
      · exact hw2.mp hlive
      · exact hall c hbc (by omega)
    · -- no stale disk took the block: the call fails here
      rename_i hdead
      simp only [Prod.mk.injEq] at h
      obtain ⟨rfl, rfl⟩ := h
      refine ⟨b + 1, by omega, by omega, rfl, ⟨(fun h => nomatch h), fun hall => ?_⟩,
        fun h => nomatch h⟩
      exact absurd (hw2.mpr (hall b le_rfl (by omega))) hdead

end Loop

/-! ## `HealFile` -/

theorem getElem?_initSlots : ∀ (disks staleDisks : List Bool) (j : Nat),
    staleDisks.length = disks.length →
    (initSlots disks staleDisks)[j]? =
      if j < disks.length then some (DiskSlot.init (staleDisks.getD j false)) else none
  | [], _, _, _ => by simp [initSlots]
  | _ :: _, [], _, h => by simp at h
  | _ :: _, _ :: _, 0, _ => by simp [initSlots]
  | _ :: as, _ :: ss, j + 1, h => by
    simpa [initSlots] using getElem?_initSlots as ss j (by simpa using h)

section HealFile

variable (appendFile : Nat → Nat → Option String) (orig : Nat → Nat → Bytes)
  {disks staleDisks : List Bool}

/-- The slots `HealFile` starts from, moved on by the blocks before `m`: disk `i`'s is its
initial slot moved on. -/
theorem getElem?_slotsAfter_initSlots (hlen : staleDisks.length = disks.length) (m i : Nat) :
    (slotsAfter appendFile orig m 0 (initSlots disks staleDisks))[i]? =
      if i < disks.length then
        some (slotAfter appendFile orig i (DiskSlot.init (staleDisks.getD i false)) m)
      else none := by
  rw [getElem?_slotsAfter, getElem?_initSlots _ _ _ hlen]
  split_ifs <;> simp

/-- `HealFile` starts every disk's slot fresh. -/
theorem initSlots_fresh (hlen : staleDisks.length = disks.length) :
    ∀ d ∈ initSlots disks staleDisks, SlotFresh d := by
  intro d hd
  obtain ⟨j, hj⟩ := List.mem_iff_getElem?.mp hd
  rw [getElem?_initSlots _ _ _ hlen] at hj
  split_ifs at hj
  cases hj
  simp [SlotFresh, DiskSlot.init]

/-- A disk of `HealFile` gets an append only at blocks before which none of its appends failed. -/
theorem slotsAfter_initSlots_calls (hlen : staleDisks.length = disks.length) (m i : Nat)
    (d : DiskSlot) (hd : (slotsAfter appendFile orig m 0 (initSlots disks staleDisks))[i]? = some d) :
    ∀ c ∈ d.calls, AppendsOk appendFile i c := by
  rw [getElem?_slotsAfter_initSlots appendFile orig hlen] at hd
  split_ifs at hd
  cases hd
  exact slotAfter_calls appendFile orig _ i m

theorem someLive_initSlots (hlen : staleDisks.length = disks.length) (c : Nat) :
    SomeLive appendFile c 0 (initSlots disks staleDisks) ↔
      ∃ i < disks.length, staleDisks.getD i false = true ∧ AppendsOk appendFile i (c + 1) := by
  simp only [SomeLive, getElem?_initSlots _ _ _ hlen, Nat.zero_add]
  constructor
  · rintro ⟨j, d, hj, hs, hok⟩
    split_ifs at hj with hjn
    cases hj
    exact ⟨j, hjn, hs, hok⟩
  · rintro ⟨j, hjn, hs, hok⟩
    exact ⟨j, _, if_pos hjn, hs, hok⟩

end HealFile

/-- `HealFile`, for an available algorithm, a file of `size ≥ 0` bytes in blocks of
`blocksize ≥ 1` over `dataBlocks ≥ 1` data blocks, `staleDisks` aligned with `s.disks`, and any
pattern of `AppendFile` failures, when its environment keeps the contract: chunk `i` of block
`b` of the original stripe has `ceilFrac` of the block's length over `dataBlocks` bytes;
`readConcurrent` returns the whole original stream of each disk `got` and an empty buffer for
the others, with at least `dataBlocks` disks `got`; and decoding a block's shards with at least
`dataBlocks` original chunks restores every chunk. Then the call fails exactly when at some
block every stale disk still in play fails its append; a disk gets no append after a failed
one; and on success the checksum of a disk is set exactly when it is stale and took every
append, and then that disk holds its whole original stream and the checksum is its digest. -/
theorem healFile_heals_stale_disks (env : HealEnv) (s : ErasureStorage) (staleDisks : List Bool)
    (blocksize size : Int) (alg : BitrotAlgorithm) (orig : Nat → Nat → Bytes) (got : Nat → Bool)
    {res : Except HealErr ErasureFileInfo} {slots : List DiskSlot}
    (hsize : 0 ≤ size) (hblock : 0 < blocksize) (hdata : 0 < s.dataBlocks)
    (halg : alg.available = true) (hstale : staleDisks.length = s.disks.length)
    (hlayout : ∀ b < blockCount blocksize size, ∀ i < s.disks.length,
      ((orig b i).length : Int) = ceilFrac (blockLen blocksize size b) s.dataBlocks)
    (hread : env.readConcurrent (verifiers s.disks staleDisks)
        (readLen s.dataBlocks blocksize size) =
      .ok ((List.range s.disks.length).map fun i =>
        if got i then streamPrefix orig i (blockCount blocksize size) else []))
    (hquorum : s.dataBlocks ≤ ((List.range s.disks.length).filter got).length)
    (hdecode : ∀ b < blockCount blocksize size, ∀ present : Nat → Bool,
      s.dataBlocks ≤ ((List.range s.disks.length).filter present).length →
      env.decode ((List.range s.disks.length).map fun i => if present i then orig b i else []) =
        .ok ((List.range s.disks.length).map (orig b)))
    (h : healFile env s staleDisks blocksize size alg = (res, slots)) :
    ((∃ f, res = .ok f) ↔ ¬∃ b < blockCount blocksize size, ∀ i < s.disks.length,
        staleDisks.getD i false = true → AppendsOk env.appendFile i b →
          env.appendFile b i ≠ none) ∧
      (∀ i d, slots[i]? = some d → ∀ c ∈ d.calls, AppendsOk env.appendFile i c) ∧
      (∀ f, res = .ok f → f.size = size ∧ f.algorithm = alg ∧ ∀ i < s.disks.length,
        (staleDisks.getD i false = true ∧ AppendsOk env.appendFile i (blockCount blocksize size) →
          f.checksums[i]? =
            some (some (alg.digest (streamPrefix orig i (blockCount blocksize size)))) ∧
          slots[i]?.map (·.received) = some (streamPrefix orig i (blockCount blocksize size))) ∧
        (¬(staleDisks.getD i false = true ∧
            AppendsOk env.appendFile i (blockCount blocksize size)) →
          f.checksums[i]? = some none)) := by
  have hgeo {b} (hb : b < blockCount blocksize size) :=
    chunkSizeAt_eq s.dataBlocks hblock hsize hb
  have hc : LoopContract env s.dataBlocks blocksize size orig got s.disks.length _ :=
    ⟨fun b hb i hi => (hlayout b hb i hi).trans (hgeo hb).1.symm,
      fun b hb => (hgeo hb).1 ▸ ceilFrac_pos (by omega) (hgeo hb).2, rfl, hquorum, hdecode⟩
  unfold healFile at h
  simp only [halg, Bool.not_true, Bool.false_eq_true, if_false, hread] at h
  rcases hrun : healBlocks env s.dataBlocks blocksize size _
    (List.range (blockCount blocksize size)) 0 (initSlots s.disks staleDisks) with ⟨r, slots'⟩
  rw [hrun] at h
  rw [List.range_eq_range' (blockCount blocksize size), ← slotsAfter_zero env.appendFile orig 0
    (initSlots s.disks staleDisks)] at hrun
  obtain ⟨m, -, hmN, rfl, hok, hend⟩ := hc.run (by simp [initSlots, hstale])
    (initSlots_fresh hstale) _ 0
    (by omega) hrun
  have hlive : (∀ c, 0 ≤ c → c < 0 + blockCount blocksize size →
      SomeLive env.appendFile c 0 (initSlots s.disks staleDisks)) ↔
      ¬∃ b < blockCount blocksize size, ∀ i < s.disks.length, staleDisks.getD i false = true →
        AppendsOk env.appendFile i b → env.appendFile b i ≠ none := by
    simp only [someLive_initSlots env.appendFile hstale, appendsOk_succ, Nat.zero_le,
      Nat.zero_add, true_implies, not_exists, not_and, not_forall, Classical.not_imp, not_not,
      exists_prop]
  have hslot (i : Nat) := getElem?_slotsAfter_initSlots env.appendFile orig hstale m i
  have hcalls := slotsAfter_initSlots_calls env.appendFile orig hstale m
  rcases r with e | ⟨⟨⟩⟩
  · -- the loop failed at some block
    simp only [Prod.mk.injEq] at h
    obtain ⟨rfl, rfl⟩ := h
    exact ⟨⟨(fun ⟨_, hf⟩ => nomatch hf), fun hall => nomatch hok.mpr (hlive.mpr hall)⟩, hcalls,
      fun _ hf => nomatch hf⟩
  · -- the loop ran every block
    simp only [Prod.mk.injEq] at h
    obtain ⟨rfl, rfl⟩ := h
    have hm := hend rfl
    simp only [Nat.zero_add] at hm
    subst hm
    refine ⟨⟨fun _ => hlive.mp (hok.mp rfl), fun _ => ⟨_, rfl⟩⟩, hcalls, fun f hf => ?_⟩
    cases hf
    refine ⟨rfl, rfl, fun i hi => ⟨fun hst => ⟨?_, ?_⟩, fun hst => ?_⟩⟩
    · rw [List.getElem?_map, hslot, if_pos hi, Option.map_some', slotAfter_checksum, if_pos hst]
    · obtain ⟨h1, h2⟩ := hst
      simp only [hslot, hi, if_true, h1, Option.map_some']
      exact congrArg some ((staleSlot_init env.appendFile orig i _).bytes h2).1
    · rw [List.getElem?_map, hslot, if_pos hi, Option.map_some', slotAfter_checksum, if_neg hst]

/-- A mirror of one data block over two disks: every shard of a block is the block, and decoding
copies the first non-empty shard. -/
def mirrorDecode (blocks : List Bytes) : Except String (List Bytes) :=
  match blocks.find? (· ≠ []) with
  | some c => .ok (blocks.map fun _ => c)
  | none => .error "too few shards"

/-- A three-byte file in blocks of two, mirrored: both disks hold `[1, 2]` then `[3]`. -/
def mirrorStripe (b _ : Nat) : Bytes := if b = 0 then [1, 2] else [3]

/-- Disk 0 is read back whole; every append succeeds. -/
def mirrorEnv : HealEnv where
  readConcurrent _ _ := .ok [[1, 2, 3], []]
  decode := mirrorDecode
  appendFile _ _ := none

/-- Healing disk 1 of the mirror from disk 0. -/
theorem healFile_heals_mirror :
    ∃ res slots, healFile mirrorEnv ⟨[true, true], 1⟩ [false, true] 2 3 ⟨true, List.reverse⟩ =
        (res, slots) ∧
      ((∃ f, res = .ok f) ↔ ¬∃ b < blockCount 2 3, ∀ i < 2,
          [false, true].getD i false = true → AppendsOk mirrorEnv.appendFile i b →
            mirrorEnv.appendFile b i ≠ none) ∧
      (∀ i d, slots[i]? = some d → ∀ c ∈ d.calls, AppendsOk mirrorEnv.appendFile i c) ∧
      (∀ f, res = .ok f → f.size = 3 ∧ f.algorithm = ⟨true, List.reverse⟩ ∧ ∀ i < 2,
        ([false, true].getD i false = true ∧ AppendsOk mirrorEnv.appendFile i (blockCount 2 3) →
          f.checksums[i]? =
            some (some (List.reverse (streamPrefix mirrorStripe i (blockCount 2 3)))) ∧
          slots[i]?.map (·.received) = some (streamPrefix mirrorStripe i (blockCount 2 3))) ∧
        (¬([false, true].getD i false = true ∧
            AppendsOk mirrorEnv.appendFile i (blockCount 2 3)) →
          f.checksums[i]? = some none)) := by
  have hdecode : ∀ b < blockCount 2 3, ∀ present : Nat → Bool,
      1 ≤ ((List.range 2).filter present).length →
      mirrorDecode ((List.range 2).map fun i => if present i then mirrorStripe b i else []) =
        .ok ((List.range 2).map (mirrorStripe b)) := by
    intro b hb present hp
    have hb2 : b < 2 := hb
    cases h0 : present 0 <;> cases h1 : present 1 <;>
      simp [List.range_succ, h0, h1] at hp ⊢ <;> interval_cases b <;> rfl
  exact ⟨_, _, rfl, healFile_heals_stale_disks mirrorEnv ⟨[true, true], 1⟩ [false, true] 2 3
    ⟨true, List.reverse⟩ mirrorStripe (· = 0) (by decide) (by decide) (by decide) rfl rfl
    (by decide) rfl (by decide) hdecode rfl⟩

end Minio.Erasure.HealSpec
