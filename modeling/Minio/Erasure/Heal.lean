import Mathlib.Data.List.Range
import Mathlib.Tactic.IntervalCases
/-!
# `ErasureStorage.HealFile`

`HealFile` rebuilds the chunks of an erasure-coded file on the stale disks of an erasure set. It
computes the stripe geometry of the file from its size, the block size and the number of data
blocks, reads the per-disk streams of the disks that have a verifier, and then, block by block,
slices each stream at the block's offset, reconstructs the stripe, and appends each stale disk's
chunk to it, feeding the disk's bitrot hasher. A disk whose append fails gets no further
appends; the call fails at the first block where no stale disk's append succeeds. The result
holds a checksum for each stale disk that took every append.

`readConcurrent`, `ErasureDecodeDataAndParityBlocks`, `AppendFile`, `ceilFrac` and the bitrot
hashers are not in the source: they are modelled from the spec, the first three as the
environment of a call (`HealEnv`). The model keeps, for each disk, what the disk sees of the
call: the blocks of its `AppendFile` calls and the bytes of the ones that succeeded.
-/

namespace Minio.Erasure.Heal

/-- A byte string. -/
abbrev Bytes := List UInt8

/-- Modelled from the spec: `ceilFrac(n, d)`, the ceiling of `n / d`, the chunk size of `n`
bytes split over `d` data blocks; `0` when `d` is not positive. -/
def ceilFrac (numerator denominator : Int) : Int :=
  if denominator ≤ 0 then 0 else (numerator + denominator - 1) / denominator

/-- Modelled from the spec: a bitrot algorithm, whether it is `Available()`, and the checksum
its hasher's `Sum(nil)` returns after the bytes written to it. -/
structure BitrotAlgorithm where
  available : Bool
  digest : Bytes → Bytes

/-- An erasure set: which disks are present (`s.disks[i] != nil`), and `s.dataBlocks`. -/
structure ErasureStorage where
  disks : List Bool
  dataBlocks : Nat

/-- `ErasureFileInfo`: the size, the algorithm and one checksum per disk (`nil` is `none`). -/
structure ErasureFileInfo where
  size : Int
  algorithm : BitrotAlgorithm
  checksums : List (Option Bytes)

/-- Why `HealFile` fails. -/
inductive HealErr where
  | bitrotHashAlgoInvalid
  /-- `readConcurrent` returns an error -/
  | read (e : String)
  /-- `ErasureDecodeDataAndParityBlocks` returns an error -/
  | decode (e : String)
  /-- a slice expression out of range: a runtime panic -/
  | sliceBounds
  /-- no stale disk's append of a block succeeds; the message of `joinWriteErrors` -/
  | write (msg : String)
  deriving DecidableEq, Repr

/-- Modelled from the spec: what the environment of a call does. `readConcurrent` gets which
disks have a verifier and `readLen`, and returns one buffer per disk; `decode` fills the empty
shards of a stripe; `appendFile b i` is the error of the `AppendFile` of block `b` to disk `i`,
`none` when it succeeds. -/
structure HealEnv where
  readConcurrent : List Bool → Int → Except String (List Bytes)
  decode : List Bytes → Except String (List Bytes)
  appendFile : Nat → Nat → Option String

/-- What the call keeps for disk `i`: whether `staleDisks[i]` is set, `writeErrors[i]`, the bytes
written to `hashers[i]` (`none` while it is nil); and what the disk sees: the blocks of its
`AppendFile` calls, and the bytes its successful calls appended. -/
structure DiskSlot where
  stale : Bool
  writeErr : Option String
  hasher : Option Bytes
  calls : List Nat
  received : Bytes
  deriving DecidableEq, Repr

/-! ## Stripe geometry (lines 75-87 and 121-124) -/

section Geometry

variable (dataBlocks : Nat) (blocksize size : Int)

/-- `chunksize`: the chunk size of a whole block. -/
def chunkSize : Int := ceilFrac blocksize dataBlocks

/-- `numBlocks`. -/
def numBlocks : Int := ceilFrac size blocksize

/-- The iterations of the block loop. -/
def blockCount : Nat := (numBlocks blocksize size).toNat

/-- `lastChunkSize`: the chunk size of the last block. -/
def lastChunkSize : Int :=
  if size % blocksize ≠ 0 then ceilFrac (size % blocksize) dataBlocks
  else chunkSize dataBlocks blocksize

/-- `readLen`: how much `readConcurrent` reads of each disk. -/
def readLen : Int :=
  chunkSize dataBlocks blocksize * (numBlocks blocksize size - 1) +
    lastChunkSize dataBlocks blocksize size

/-- `csize` at block `b`. -/
def chunkSizeAt (b : Nat) : Int :=
  if (b : Int) = numBlocks blocksize size - 1 then lastChunkSize dataBlocks blocksize size
  else chunkSize dataBlocks blocksize

/-- `buffOffset` at block `b`: the chunk sizes of the blocks before it. -/
def offsetAt (b : Nat) : Int :=
  ((List.range b).map (chunkSizeAt dataBlocks blocksize size)).sum

theorem offsetAt_succ (b : Nat) :
    offsetAt dataBlocks blocksize size (b + 1) =
      offsetAt dataBlocks blocksize size b + chunkSizeAt dataBlocks blocksize size b := by
  simp [offsetAt, List.range_succ]

end Geometry

/-! ## The call -/

/-- `buf[lo:hi]`; out of range, it panics. -/
def subslice (buf : Bytes) (lo hi : Int) : Except HealErr Bytes :=
  if 0 ≤ lo ∧ lo ≤ hi ∧ hi ≤ buf.length then .ok ((buf.drop lo.toNat).take (hi - lo).toNat)
  else .error .sliceBounds

/-- The shards of a block before decoding (lines 115-130): each disk's buffer sliced at the
block's offset, and an empty shard for a disk whose buffer is empty. -/
def blockShards (buffers : List Bytes) (off csize : Int) : Except HealErr (List Bytes) :=
  buffers.mapM fun buf => if buf.length ≠ 0 then subslice buf off (off + csize) else .ok []

/-- One disk's turn in the write loop of block `b` (lines 139-148): a stale disk that has not
failed appends its shard, and on success writes it to its hasher. The flag is whether it
succeeded. -/
def DiskSlot.write (d : DiskSlot) (b : Nat) (err : Option String) (shard : Bytes) :
    DiskSlot × Bool :=
  if !d.stale || d.writeErr.isSome then (d, false)
  else match err with
    | some e => ({ d with writeErr := some e, calls := d.calls ++ [b] }, false)
    | none =>
      ({ d with hasher := d.hasher.map fun h => h ++ shard
                calls := d.calls ++ [b]
                received := d.received ++ shard }, true)

/-- The write loop of block `b` (lines 134-149) over the disks from `i` on. The flag is
`writeSucceeded`. -/
def writeBlock (appendFile : Nat → Nat → Option String) (b : Nat) (blocks : List Bytes) :
    Nat → List DiskSlot → List DiskSlot × Bool
  | _, [] => ([], false)
  | i, d :: ds =>
    let r := d.write b (appendFile b i) (blocks.getD i [])
    let rs := writeBlock appendFile b blocks (i + 1) ds
    (r.1 :: rs.1, r.2 || rs.2)

/-- `joinWriteErrors` (lines 178-188). -/
def joinWriteErrors (errs : List (Option String)) : String :=
  "all stale disks had write errors during healing: " ++
    ", ".intercalate (errs.enum.filterMap fun (i, e) =>
      e.map fun e => "disk " ++ toString (i + 1) ++ ": " ++ e)

/-- The block loop (lines 107-161) over the blocks `bs`, at offset `off` into the buffers. -/
def healBlocks (env : HealEnv) (dataBlocks : Nat) (blocksize size : Int) (buffers : List Bytes) :
    List Nat → Int → List DiskSlot → Except HealErr Unit × List DiskSlot
  | [], _, slots => (.ok (), slots)
  | b :: bs, off, slots =>
    let csize := chunkSizeAt dataBlocks blocksize size b
    match blockShards buffers off csize >>= fun blocks => (env.decode blocks).mapError .decode with
    | .error e => (.error e, slots)
    | .ok blocks =>
      let r := writeBlock env.appendFile b blocks 0 slots
      if r.2 then healBlocks env dataBlocks blocksize size buffers bs (off + csize) r.1
      else (.error (.write (joinWriteErrors (r.1.map (·.writeErr)))), r.1)

/-- A disk's slot before the block loop: a fresh hasher when the disk is stale. -/
def DiskSlot.init (stale : Bool) : DiskSlot :=
  ⟨stale, none, if stale then some [] else none, [], []⟩

/-- The initialization loop (lines 58-70), over `s.disks` with `staleDisks[i]`. -/
def initSlots (disks staleDisks : List Bool) : List DiskSlot :=
  List.zipWith (fun _ stale => DiskSlot.init stale) disks staleDisks

/-- The disks that get a verifier (lines 58-70): the present disks that are not stale. -/
def verifiers (disks staleDisks : List Bool) : List Bool :=
  List.zipWith (fun disk stale => !stale && disk) disks staleDisks

/-- `f.Checksums[i]` (lines 163-170): the hasher's sum for a stale disk with no write error. -/
def DiskSlot.checksum (alg : BitrotAlgorithm) (d : DiskSlot) : Option Bytes :=
  if d.stale && d.writeErr.isNone then d.hasher.map alg.digest else none

/-- `HealFile`: the result, and the disks' slots as the call leaves them. -/
def healFile (env : HealEnv) (s : ErasureStorage) (staleDisks : List Bool) (blocksize size : Int)
    (alg : BitrotAlgorithm) : Except HealErr ErasureFileInfo × List DiskSlot :=
  let slots := initSlots s.disks staleDisks
  if !alg.available then (.error .bitrotHashAlgoInvalid, slots)
  else match env.readConcurrent (verifiers s.disks staleDisks)
      (readLen s.dataBlocks blocksize size) with
    | .error e => (.error (.read e), slots)
    | .ok buffers =>
      match healBlocks env s.dataBlocks blocksize size buffers
          (List.range (blockCount blocksize size)) 0 slots with
      | (.error e, slots) => (.error e, slots)
      | (.ok (), slots) => (.ok ⟨size, alg, slots.map (·.checksum alg)⟩, slots)

end Minio.Erasure.Heal
