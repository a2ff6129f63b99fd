import Minio.Multipart.PartFile
import Minio.Multipart.Listing
import Mathlib.Data.List.AList
import Mathlib.Data.List.Sort
import Mathlib.Data.List.Dedup
/-!
# `ListObjectParts`

`ListObjectParts` stats the upload's `fs.json`, reads the upload-id directory, and keeps for each
part number the etag of a latest-modified part file bearing it (`partsMap`). It sorts the part
numbers, skips past `partNumberMarker` when that is not `0`, returns the next `maxParts` parts
with their modification times and sizes, and sets `IsTruncated` and `NextPartNumberMarker`.

The marker is skipped by scanning for a part that bears it: when no part does, the scan runs off
the end and the listing is empty, whatever parts follow the marker.

`fsStatFile` and `readDir` are not in this repository: `fsStatFile` is modelled as the
environment's `stat` of a name in the upload-id directory, `none` when it fails, with the cause
of the failure as `statErr`, and `readDir` as its listing, `none` when it fails. Go ranges over `partsMap` in an unspecified order;
the model takes that order as `mapOrder`, any permutation of the map's entries.
-/

namespace Minio.Multipart.ListParts

open Minio.Multipart.PartFile

/-- What `fsStatFile` reports that the listing reads: the modification time and the size. -/
structure FileStat where
  modTime : Int
  size : Int
  deriving DecidableEq, Repr

/-- A `PartInfo` as `ListObjectParts` returns it. -/
structure ListedPart where
  partNumber : Int
  etag : String
  lastModified : Int
  size : Int
  deriving DecidableEq, Repr

/-- `ListPartsInfo`, without the bucket and object names it echoes. -/
structure ListPartsInfo where
  uploadID : String
  maxParts : Int
  partNumberMarker : Int
  parts : List ListedPart
  isTruncated : Bool
  nextPartNumberMarker : Int
  deriving DecidableEq, Repr

/-- The causes of a failed `fsStatFile` that `ListObjectParts` tells apart. -/
inductive StatErr where
  | fileNotFound
  | fileAccessDenied
  | other
  deriving DecidableEq, Repr

/-- Why `ListObjectParts` fails. -/
inductive ListPartsErr where
  /-- `fs.json` of the upload is not found or not accessible: `InvalidUploadID{UploadID: uploadID}` -/
  | invalidUploadID (uploadID : String)
  /-- an entry that `decodePartFile` rejects: `errUnexpected` -/
  | unexpected
  /-- `fsStatFile` of a file fails, passed on by `toObjectErr` -/
  | statFailed (name : String)
  /-- `readDir` of the upload-id directory fails, passed on by `toObjectErr` -/
  | readDirFailed
  deriving DecidableEq, Repr

/-- The map from part number to etag. -/
abbrev PartsMap := AList fun _ : Int => String

/-- The scan of the upload-id directory (lines 392-418): each part number, with the etag of a
latest-modified file bearing it, the first one seen on a tie. -/
def scanParts (stat : String → Option FileStat) : List String → PartsMap →
    Except ListPartsErr PartsMap
  | [], partsMap => .ok partsMap
  | entry :: entries, partsMap =>
    if entry = fsMetaJSONFile then scanParts stat entries partsMap
    else match decodePartFile entry with
      | none => .error .unexpected
      | some (partNumber, etag1) =>
        match partsMap.lookup partNumber with
        | none => scanParts stat entries (partsMap.insert partNumber etag1)
        | some etag2 =>
          match stat (encodePartFile partNumber etag1), stat (encodePartFile partNumber etag2) with
          | some stat1, some stat2 =>
            scanParts stat entries
              (if stat2.modTime < stat1.modTime then partsMap.insert partNumber etag1 else partsMap)
          | none, _ => .error (.statFailed (encodePartFile partNumber etag1))
          | _, none => .error (.statFailed (encodePartFile partNumber etag2))

/-- `sort.SliceStable` of the parts by part number. -/
def sortParts (parts : List PartInfo) : List PartInfo :=
  parts.insertionSort fun a b => a.partNumber ≤ b.partNumber

/-- The marker loop (lines 424-432): how many parts it passes, up to and including the first
that bears `partNumberMarker`, or all of them. -/
def skipToMarker (partNumberMarker : Int) (parts : List PartInfo) : Nat :=
  Listing.skipPast (·.partNumber) partNumberMarker parts

/-- The stat loop over the returned parts (lines 447-454). -/
def statParts (stat : String → Option FileStat) (parts : List PartInfo) :
    Except ListPartsErr (List ListedPart) :=
  parts.mapM fun part =>
    match stat (encodePartFile part.partNumber part.etag) with
    | some st => .ok ⟨part.partNumber, part.etag, st.modTime, st.size⟩
    | none => .error (.statFailed (encodePartFile part.partNumber part.etag))

/-- `ListObjectParts(bucket, object, uploadID, partNumberMarker, maxParts)` (lines 361-455),
after its argument and bucket checks, on an upload-id directory that `readDir` lists. -/
def ListObjectParts (mapOrder : List PartInfo → List PartInfo) (stat : String → Option FileStat)
    (statErr : String → StatErr) (readDir : Option (List String)) (uploadID : String)
    (partNumberMarker maxParts : Int) : Except ListPartsErr ListPartsInfo := do
  if (stat fsMetaJSONFile).isNone then
    match statErr fsMetaJSONFile with
    | .fileNotFound | .fileAccessDenied => throw (.invalidUploadID uploadID)
    | .other => throw (.statFailed fsMetaJSONFile)
  let some entries := readDir | throw .readDirFailed
  let partsMap ← scanParts stat entries ∅
  let parts := sortParts (mapOrder (partsMap.entries.map fun p => ⟨p.1, p.2⟩))
  let i := if partNumberMarker ≠ 0 then skipToMarker partNumberMarker parts else 0
  let page := (parts.drop i).take maxParts.toNat
  let isTruncated := decide (i + page.length < parts.length)
  let nextPartNumberMarker := if isTruncated then (page.getLast?.map (·.partNumber)).getD 0 else 0
  let listed ← statParts stat page
  return ⟨uploadID, maxParts, partNumberMarker, listed, isTruncated, nextPartNumberMarker⟩

/-- An upload-id directory with parts 1 and 3, every file modified at time 0 and one byte long. -/
def twoParts : List String := [fsMetaJSONFile, "00001.a", "00003.b"]

/-- Listing after marker 2, which no part bears, returns nothing and says nothing remains,
though part 3 follows the marker. -/
theorem listObjectParts_absent_marker_lists_nothing :
    decodePartFile "00003.b" = some (3, "b") ∧ (2 : Int) < 3 ∧
      ∃ r, ListObjectParts id (fun _ => some ⟨0, 1⟩) (fun _ => .other) (some twoParts) "u" 2 10 =
          .ok r ∧
        r.parts = [] ∧ r.isTruncated = false :=
  ⟨by decide, by decide, _, rfl, rfl, rfl⟩

/-! ## The scan of the upload-id directory -/

section Scan

variable (stat : String → Option FileStat)

/-- The modification time `fsStatFile` reports for a name, `0` when it fails. -/
def modTimeOf (name : String) : Int := ((stat name).map (·.modTime)).getD 0

/-- The part number and etag an entry other than `fs.json` names. -/
def entryPart (entry : String) : Option (Int × String) :=
  if entry = fsMetaJSONFile then none else decodePartFile entry

/-- What the scan keeps after the entries `pre`: the part numbers of the map are those of `pre`,
each with the etag of a latest-modified file of `pre` bearing it. -/
structure ScanInv (pre : List String) (partsMap : PartsMap) : Prop where
  mem_iff : ∀ n, n ∈ partsMap ↔ ∃ entry ∈ pre, ∃ e, entryPart entry = some (n, e)
  lookup_spec : ∀ n e, partsMap.lookup n = some e →
    (∃ entry ∈ pre, entryPart entry = some (n, e)) ∧
    ∀ entry ∈ pre, ∀ e', entryPart entry = some (n, e') →
      modTimeOf stat (encodePartFile n e') ≤ modTimeOf stat (encodePartFile n e)

variable {stat}

theorem scanInv_nil : ScanInv stat [] ∅ :=
  ⟨fun n => iff_of_false (AList.not_mem_empty n) fun ⟨_, h, _⟩ => (nomatch h),
    fun n e h => by rw [AList.lookup_empty] at h; exact nomatch h⟩

/-- The invariant depends on the entries seen, not on their order. -/
theorem ScanInv.congr {pre pre' : List String} {partsMap : PartsMap}
    (h : ∀ entry, entry ∈ pre ↔ entry ∈ pre') (hI : ScanInv stat pre partsMap) :
    ScanInv stat pre' partsMap :=
  ⟨fun n => by simpa only [h] using hI.mem_iff n,
    fun n e hl => by simpa only [h] using hI.lookup_spec n e hl⟩

/-- An entry of part `n` keeps the invariant when the map changes only at `n`, holds `n`, and
holds there an etag of a latest-modified file bearing `n`. -/
theorem ScanInv.cons {pre : List String} {entry : String} {n : Int} {etag1 : String}
    {partsMap partsMap' : PartsMap} (hI : ScanInv stat pre partsMap)
    (he : entryPart entry = some (n, etag1))
    (hne : ∀ n', n' ≠ n → partsMap'.lookup n' = partsMap.lookup n') (hmem : n ∈ partsMap')
    (hn : ∀ e, partsMap'.lookup n = some e →
      (∃ x ∈ entry :: pre, entryPart x = some (n, e)) ∧
      ∀ x ∈ entry :: pre, ∀ e', entryPart x = some (n, e') →
        modTimeOf stat (encodePartFile n e') ≤ modTimeOf stat (encodePartFile n e)) :
    ScanInv stat (entry :: pre) partsMap' := by
  have hother {n' : Int} {e' : String} (h : n' ≠ n) : entryPart entry ≠ some (n', e') := fun h' =>
    h (Prod.mk.inj (Option.some.inj (he.symm.trans h'))).1.symm
  refine ⟨fun n' => ?_, fun n' e hl => ?_⟩
  · by_cases h : n' = n
    · subst h
      exact iff_of_true hmem ⟨entry, List.mem_cons_self _ _, etag1, he⟩
    · rw [← AList.lookup_isSome, hne n' h, AList.lookup_isSome, hI.mem_iff]
      simp only [List.mem_cons, or_and_right, exists_or, exists_eq_left]
      exact (or_iff_right fun ⟨e', h'⟩ => hother h h').symm
  · by_cases h : n' = n
    · subst h; exact hn e hl
    · rw [hne n' h] at hl
      obtain ⟨⟨x, hx, hxe⟩, hmax⟩ := hI.lookup_spec n' e hl
      refine ⟨⟨x, List.mem_cons_of_mem _ hx, hxe⟩, fun x hx e' hxe' => ?_⟩
      rcases List.mem_cons.mp hx with rfl | hx
      · exact absurd hxe' (hother h)
      · exact hmax x hx e' hxe'

/-- A part number seen for the first time goes into the map with its etag. -/
theorem ScanInv.insert_new {pre : List String} {entry : String} {n : Int} {etag1 : String}
    {partsMap : PartsMap} (hI : ScanInv stat pre partsMap) (he : entryPart entry = some (n, etag1))
    (hl : partsMap.lookup n = none) : ScanInv stat (entry :: pre) (partsMap.insert n etag1) := by
  refine hI.cons he (fun _ h => AList.lookup_insert_ne h) ((AList.mem_insert _).mpr (.inl rfl))
    fun e h => ?_
  rw [AList.lookup_insert, Option.some.injEq] at h
  subst h
  refine ⟨⟨entry, List.mem_cons_self _ _, he⟩, fun x hx e' hxe' => ?_⟩
  rcases List.mem_cons.mp hx with rfl | hx
  · rw [he, Option.some.injEq, Prod.mk.injEq] at hxe'
    rw [hxe'.2]
  · exact absurd ((hI.mem_iff n).mpr ⟨x, hx, e', hxe'⟩) (AList.lookup_eq_none.mp hl)

/-- A part number seen before keeps the etag of the later-modified of its two files, the one
already in the map on a tie. -/
theorem ScanInv.replace {pre : List String} {entry : String} {n : Int} {etag1 etag2 : String}
    {partsMap : PartsMap} {stat1 stat2 : FileStat} (hI : ScanInv stat pre partsMap)
    (he : entryPart entry = some (n, etag1)) (hl : partsMap.lookup n = some etag2)
    (h1 : stat (encodePartFile n etag1) = some stat1) (h2 : stat (encodePartFile n etag2) = some stat2) :
    ScanInv stat (entry :: pre)
      (if stat2.modTime < stat1.modTime then partsMap.insert n etag1 else partsMap) := by
  have ht1 : modTimeOf stat (encodePartFile n etag1) = stat1.modTime := by simp [modTimeOf, h1]
  have ht2 : modTimeOf stat (encodePartFile n etag2) = stat2.modTime := by simp [modTimeOf, h2]
  obtain ⟨⟨x₂, hx₂, hx₂e⟩, hmax⟩ := hI.lookup_spec n etag2 hl
  have hmem : n ∈ partsMap := AList.lookup_isSome.mp (by rw [hl]; rfl)
  split
  · rename_i hlt
    refine hI.cons he (fun _ h => AList.lookup_insert_ne h) ((AList.mem_insert _).mpr (.inl rfl))
      fun e h => ?_
    rw [AList.lookup_insert, Option.some.injEq] at h
    subst h
    refine ⟨⟨entry, List.mem_cons_self _ _, he⟩, fun x hx e' hxe' => ?_⟩
    rcases List.mem_cons.mp hx with rfl | hx
    · rw [he, Option.some.injEq, Prod.mk.injEq] at hxe'
      rw [hxe'.2]
    · have := hmax x hx e' hxe'
      omega
  · rename_i hge
    refine hI.cons he (fun _ _ => rfl) hmem fun e h => ?_
    rw [hl, Option.some.injEq] at h
    subst h
    refine ⟨⟨x₂, List.mem_cons_of_mem _ hx₂, hx₂e⟩, fun x hx e' hxe' => ?_⟩
    rcases List.mem_cons.mp hx with rfl | hx
    · rw [he, Option.some.injEq, Prod.mk.injEq] at hxe'
      rw [← hxe'.2]
      omega
    · exact hmax x hx e' hxe'

/-- `fs.json`, which names no part, leaves the invariant as it is. -/
theorem ScanInv.cons_none {pre : List String} {entry : String} {partsMap : PartsMap}
    (hI : ScanInv stat pre partsMap) (he : entryPart entry = none) :
    ScanInv stat (entry :: pre) partsMap :=
  ⟨fun n => by simpa [he] using hI.mem_iff n, fun n e hl => by simpa [he] using hI.lookup_spec n e hl⟩

/-- The scan returns when every entry but `fs.json` decodes and every part file it compares can
be stat'ed, with the invariant over all the entries. -/
theorem scanParts_spec : ∀ (rest pre : List String) (partsMap : PartsMap),
    (∀ x ∈ rest, x ≠ fsMetaJSONFile → (decodePartFile x).isSome) →
    (∀ x ∈ rest ++ pre, ∀ n e, entryPart x = some (n, e) → (stat (encodePartFile n e)).isSome) →
    ScanInv stat pre partsMap →
    ∃ partsMap', scanParts stat rest partsMap = .ok partsMap' ∧ ScanInv stat (rest ++ pre) partsMap'
  | [], _, partsMap, _, _, hI => ⟨partsMap, rfl, hI⟩
  | x :: rest, pre, partsMap, hdec, hstat, hI => by
    have hcongr (y : String) : y ∈ rest ++ x :: pre ↔ y ∈ x :: rest ++ pre := by
      simp only [List.mem_append, List.mem_cons, List.cons_append]
      exact or_left_comm
    have next (partsMap₁ : PartsMap) (hI₁ : ScanInv stat (x :: pre) partsMap₁) :
        ∃ partsMap', scanParts stat rest partsMap₁ = .ok partsMap' ∧
          ScanInv stat (x :: rest ++ pre) partsMap' :=
      let ⟨partsMap', hrun, hI'⟩ := scanParts_spec rest (x :: pre) partsMap₁
        (fun y hy => hdec y (List.mem_cons_of_mem _ hy))
        (fun y hy => hstat y ((hcongr y).mp hy)) hI₁
      ⟨partsMap', hrun, hI'.congr hcongr⟩
    have hx : x ∈ x :: rest ++ pre := List.mem_cons_self _ _
    rw [scanParts]
    by_cases hfs : x = fsMetaJSONFile
    · rw [if_pos hfs]
      exact next partsMap (hI.cons_none (by rw [entryPart, if_pos hfs]))
    rw [if_neg hfs]
    obtain ⟨⟨n, etag1⟩, hd⟩ := Option.isSome_iff_exists.mp (hdec x (List.mem_cons_self _ _) hfs)
    have he : entryPart x = some (n, etag1) := by rw [entryPart, if_neg hfs, hd]
    simp only [hd]
    cases hl : partsMap.lookup n with
    | none => exact next _ (hI.insert_new he hl)
    | some etag2 =>
      obtain ⟨stat1, h1⟩ := Option.isSome_iff_exists.mp (hstat x hx n etag1 he)
      obtain ⟨⟨x₂, hx₂, hx₂e⟩, _⟩ := hI.lookup_spec n etag2 hl
      obtain ⟨stat2, h2⟩ := Option.isSome_iff_exists.mp
        (hstat x₂ (List.mem_append_right _ hx₂) n etag2 hx₂e)
      simp only [h1, h2]
      exact next _ (hI.replace he hl h1 h2)

/-- The stat loop returns the page's parts, each with its file's time and size, when every
file can be stat'ed. -/
theorem statParts_spec : ∀ page : List PartInfo,
    (∀ p ∈ page, (stat (encodePartFile p.partNumber p.etag)).isSome) →
    ∃ listed, statParts stat page = .ok listed ∧
      listed.map (fun l => (l.partNumber, l.etag)) = page.map (fun p => (p.partNumber, p.etag)) ∧
      ∀ l ∈ listed, stat (encodePartFile l.partNumber l.etag) = some ⟨l.lastModified, l.size⟩
  | [], _ => ⟨[], rfl, rfl, fun _ h => nomatch h⟩
  | p :: page, h => by
    obtain ⟨st, hst⟩ := Option.isSome_iff_exists.mp (h p (List.mem_cons_self _ _))
    obtain ⟨listed, hrun, hmap, hl⟩ := statParts_spec page fun q hq => h q (List.mem_cons_of_mem _ hq)
    refine ⟨⟨p.partNumber, p.etag, st.modTime, st.size⟩ :: listed, ?_, by rw [List.map_cons, hmap]; rfl,
      fun l hl' => ?_⟩
    · have hrun' : statParts stat page = pure listed := hrun
      simp only [statParts, List.mapM_cons, hst] at hrun' ⊢
      simp only [hrun', pure_bind]
      rfl
    · rcases List.mem_cons.mp hl' with rfl | hl'
      · exact hst
      · exact hl l hl'

end Scan

/-! ## Pages of parts -/

/-- The part numbers the entries name, each once, in ascending order. -/
def partNumbers (entries : List String) : List Int :=
  ((entries.filterMap entryPart).map (·.1)).dedup.insertionSort (· ≤ ·)

/-- Where the page starts in the part numbers: at the first with marker `0`, and right after
the marker otherwise. -/
def markerStart (partNumberMarker : Int) (nums : List Int) : Nat :=
  if partNumberMarker = 0 then 0 else nums.indexOf partNumberMarker + 1

theorem mem_partNumbers {entries : List String} {n : Int} :
    n ∈ partNumbers entries ↔ ∃ entry ∈ entries, ∃ e, entryPart entry = some (n, e) := by
  rw [partNumbers, (List.perm_insertionSort _ _).mem_iff, List.mem_dedup]
  simp only [List.mem_map, List.mem_filterMap, Prod.exists, exists_and_right, exists_eq_right]
  constructor
  · rintro ⟨e, entry, hentry, he⟩
    exact ⟨entry, hentry, e, he⟩
  · rintro ⟨entry, hentry, e, he⟩
    exact ⟨e, entry, hentry, he⟩

theorem nodup_partNumbers (entries : List String) : (partNumbers entries).Nodup :=
  (List.perm_insertionSort _ _).nodup_iff.mpr (List.nodup_dedup _)

/-- The sorted parts are the map's entries in ascending order of part number, so their numbers
are the part numbers of the entries. -/
theorem sortParts_spec {mapOrder : List PartInfo → List PartInfo} {stat : String → Option FileStat}
    {entries : List String} {partsMap : PartsMap} (horder : ∀ parts, (mapOrder parts).Perm parts)
    (hI : ScanInv stat entries partsMap) :
    (sortParts (mapOrder (partsMap.entries.map fun p => ⟨p.1, p.2⟩))).map (·.partNumber) =
        partNumbers entries ∧
      ∀ p ∈ sortParts (mapOrder (partsMap.entries.map fun p => ⟨p.1, p.2⟩)),
        partsMap.lookup p.partNumber = some p.etag := by
  have hperm := (List.perm_insertionSort (fun a b : PartInfo => a.partNumber ≤ b.partNumber) _).trans
    (horder (partsMap.entries.map fun p => ⟨p.1, p.2⟩))
  haveI : IsTotal PartInfo fun a b => a.partNumber ≤ b.partNumber := ⟨fun _ _ => le_total _ _⟩
  haveI : IsTrans PartInfo fun a b => a.partNumber ≤ b.partNumber := ⟨fun _ _ _ => le_trans⟩
  refine ⟨?_, fun p hp => ?_⟩
  · have hkeys : ((partsMap.entries.map fun p => (⟨p.1, p.2⟩ : PartInfo)).map (·.partNumber)) =
        partsMap.keys := by rw [List.map_map]; rfl
    have hnums := hperm.map (·.partNumber)
    rw [hkeys] at hnums
    refine List.eq_of_perm_of_sorted (hnums.trans ((List.perm_ext_iff_of_nodup ?_ ?_).mpr fun n => ?_))
      (List.pairwise_map.mpr (List.sorted_insertionSort _ _)) (List.sorted_insertionSort _ _)
    · exact partsMap.nodupKeys
    · exact nodup_partNumbers entries
    · rw [← AList.mem_keys, hI.mem_iff, mem_partNumbers]
  · obtain ⟨s, hs, rfl⟩ := List.mem_map.mp (hperm.mem_iff.mp hp)
    exact AList.mem_lookup_iff.mpr hs

/-- For a directory whose entries other than `fs.json` all name parts and whose part files can
be stat'ed, and a marker that is `0` or a stored part number, `ListObjectParts` returns the next
`maxParts` part numbers after the marker in ascending order, each once, with the etag of a
latest-modified file bearing it and that file's time and size. `IsTruncated` says whether more
remain, and `NextPartNumberMarker` is then the last number returned; when no part number is
`0`, listing again from it starts right after the page. Go's map order is any permutation. -/
theorem listObjectParts_pages (mapOrder : List PartInfo → List PartInfo)
    (stat : String → Option FileStat) (statErr : String → StatErr) (entries : List String)
    (uploadID : String) (partNumberMarker maxParts : Int) (horder : ∀ parts, (mapOrder parts).Perm parts)
    (hmeta : (stat fsMetaJSONFile).isSome)
    (hdec : ∀ entry ∈ entries, entry ≠ fsMetaJSONFile → (decodePartFile entry).isSome)
    (hstat : ∀ entry ∈ entries, ∀ n e, entryPart entry = some (n, e) →
      (stat (encodePartFile n e)).isSome)
    (hmarker : partNumberMarker = 0 ∨ partNumberMarker ∈ partNumbers entries) :
    ∃ r, ListObjectParts mapOrder stat statErr (some entries) uploadID partNumberMarker maxParts =
        .ok r ∧
      r.parts.map (·.partNumber) = ((partNumbers entries).drop
        (markerStart partNumberMarker (partNumbers entries))).take maxParts.toNat ∧
      (∀ p ∈ r.parts, (∃ entry ∈ entries, entryPart entry = some (p.partNumber, p.etag)) ∧
        (∀ entry ∈ entries, ∀ e, entryPart entry = some (p.partNumber, e) →
          modTimeOf stat (encodePartFile p.partNumber e) ≤ p.lastModified) ∧
        stat (encodePartFile p.partNumber p.etag) = some ⟨p.lastModified, p.size⟩) ∧
      (r.isTruncated = true ↔ markerStart partNumberMarker (partNumbers entries) + maxParts.toNat <
        (partNumbers entries).length) ∧
      r.nextPartNumberMarker =
        (if r.isTruncated then ((r.parts.map (·.partNumber)).getLast?).getD 0 else 0) ∧
      ((∀ n ∈ partNumbers entries, n ≠ 0) → 0 < maxParts → r.isTruncated = true →
        markerStart r.nextPartNumberMarker (partNumbers entries) =
          markerStart partNumberMarker (partNumbers entries) + maxParts.toNat) := by
  obtain ⟨partsMap, hscan, hI⟩ := scanParts_spec entries [] ∅ hdec (by rwa [List.append_nil])
    scanInv_nil
  rw [List.append_nil] at hI
  obtain ⟨hnums, hlookup⟩ := sortParts_spec horder hI
  set parts := sortParts (mapOrder (partsMap.entries.map fun p => ⟨p.1, p.2⟩)) with hparts
  set nums := partNumbers entries
  set i := markerStart partNumberMarker nums
  set k := maxParts.toNat with hk
  have hlen : parts.length = nums.length := by rw [← hnums, List.length_map]
  have hi : i ≤ nums.length := by
    by_cases h : partNumberMarker = 0
    · rw [show i = 0 from if_pos h]; omega
    · rw [show i = _ from if_neg h]
      exact List.indexOf_lt_length.mpr (hmarker.resolve_left h)
  have hstart : (if partNumberMarker ≠ 0 then skipToMarker partNumberMarker parts else 0) = i := by
    by_cases h : partNumberMarker = 0
    · rw [if_neg (not_not.mpr h), show i = 0 from if_pos h]
    · rw [if_pos h, skipToMarker, Listing.skipPast_eq, hnums, if_pos (hmarker.resolve_left h),
        show i = _ from if_neg h]
  have hpage : ((parts.drop i).take k).map (·.partNumber) = (nums.drop i).take k := by
    rw [List.map_take, List.map_drop, hnums]
  have hpage_lookup (p : PartInfo) (hp : p ∈ (parts.drop i).take k) :
      partsMap.lookup p.partNumber = some p.etag :=
    hlookup p (List.mem_of_mem_drop (List.mem_of_mem_take hp))
  obtain ⟨listed, hrun, hmap, hlstat⟩ := statParts_spec ((parts.drop i).take k) fun p hp =>
    let ⟨⟨x, hx, hxe⟩, _⟩ := hI.lookup_spec _ _ (hpage_lookup p hp)
    hstat x hx _ _ hxe
  have hlisted : listed.map (·.partNumber) = ((parts.drop i).take k).map (·.partNumber) := by
    simpa only [List.map_map] using congrArg (List.map Prod.fst) hmap
  have htrunc : i + ((parts.drop i).take k).length < parts.length ↔ i + k < nums.length := by
    rw [Listing.length_page_lt_iff parts i k (hlen ▸ hi), hlen]
  have hmeta' : (stat fsMetaJSONFile).isNone = false := by
    cases h : stat fsMetaJSONFile <;> simp_all
  have hscan' : scanParts stat entries ∅ = pure partsMap := hscan
  have hrun' : statParts stat ((parts.drop i).take k) = pure listed := hrun
  simp only [ListObjectParts, hmeta', hscan', pure_bind, Bool.false_eq_true, if_false]
  rw [← hparts, ← hk, hstart, hrun', pure_bind]
  refine ⟨_, rfl, hlisted.trans hpage, fun l hl => ?_, decide_eq_true_iff.trans htrunc, ?_,
    fun h0 hpos htr => ?_⟩
  · -- a listed part is a part of the map, with the time and size of its file
    obtain ⟨p, hp, hpl⟩ :=
      List.mem_map.mp (hmap ▸ List.mem_map_of_mem (fun l : ListedPart => (l.partNumber, l.etag)) hl)
    obtain ⟨hn, he⟩ := Prod.mk.inj hpl
    have hlast : modTimeOf stat (encodePartFile l.partNumber l.etag) = l.lastModified := by
      rw [modTimeOf, hlstat l hl]; rfl
    obtain ⟨hex, hmax⟩ := hI.lookup_spec l.partNumber l.etag (by rw [← hn, ← he]; exact hpage_lookup p hp)
    exact ⟨hex, fun x hx e hxe => hlast ▸ hmax x hx e hxe, hlstat l hl⟩
  · simp only [hlisted, List.getLast?_map]
  · -- the next page starts right after this one
    have htr' : i + k < nums.length := htrunc.mp (of_decide_eq_true htr)
    obtain ⟨n, hlast, hidx⟩ := Listing.indexOf_last_page id nums i k (by omega) (by omega)
      (by rw [List.map_id]; exact nodup_partNumbers entries)
    have hnlast : (((parts.drop i).take k).getLast?.map (·.partNumber)) = some n := by
      rw [← List.getLast?_map, hpage, hlast]
    have hn0 : n ≠ 0 := h0 n (List.mem_of_mem_drop (List.mem_of_mem_take (List.mem_of_getLast?_eq_some hlast)))
    simp only [hnlast, Option.getD_some]
    rw [if_pos (decide_eq_true (htrunc.mpr htr')), markerStart, if_neg hn0]
    simpa only [List.map_id, id] using hidx

/-- Every file modified at time 0 and one byte long. -/
def oneByteFiles (_ : String) : Option FileStat := some ⟨0, 1⟩

theorem listObjectParts_pages_after_part_one :
    (∀ parts : List PartInfo, (id parts).Perm parts) ∧ (oneByteFiles fsMetaJSONFile).isSome ∧
    (∀ entry ∈ twoParts, entry ≠ fsMetaJSONFile → (decodePartFile entry).isSome) ∧
    (∀ entry ∈ twoParts, ∀ n e, entryPart entry = some (n, e) →
      (oneByteFiles (encodePartFile n e)).isSome) ∧
    ((1 : Int) = 0 ∨ (1 : Int) ∈ partNumbers twoParts) ∧
    ∃ r, ListObjectParts id oneByteFiles (fun _ => .other) (some twoParts) "u" (1 : Int) (10 : Int) =
        .ok r ∧
      r.parts.map (·.partNumber) = ((partNumbers twoParts).drop
        (markerStart (1 : Int) (partNumbers twoParts))).take (10 : Int).toNat ∧
      (∀ p ∈ r.parts, (∃ entry ∈ twoParts, entryPart entry = some (p.partNumber, p.etag)) ∧
        (∀ entry ∈ twoParts, ∀ e, entryPart entry = some (p.partNumber, e) →
          modTimeOf oneByteFiles (encodePartFile p.partNumber e) ≤ p.lastModified) ∧
        oneByteFiles (encodePartFile p.partNumber p.etag) = some ⟨p.lastModified, p.size⟩) ∧
      (r.isTruncated = true ↔ markerStart (1 : Int) (partNumbers twoParts) + (10 : Int).toNat <
        (partNumbers twoParts).length) ∧
      r.nextPartNumberMarker =
        (if r.isTruncated then ((r.parts.map (·.partNumber)).getLast?).getD 0 else 0) ∧
      ((∀ n ∈ partNumbers twoParts, n ≠ 0) → 0 < (10 : Int) → r.isTruncated = true →
        markerStart r.nextPartNumberMarker (partNumbers twoParts) =
          markerStart (1 : Int) (partNumbers twoParts) + (10 : Int).toNat) :=
  have hdec : ∀ entry ∈ twoParts, entry ≠ fsMetaJSONFile → (decodePartFile entry).isSome := by
    decide
  have hmarker : (1 : Int) = 0 ∨ (1 : Int) ∈ partNumbers twoParts := .inr (by decide)
  ⟨fun _ => List.Perm.refl _, rfl, hdec, fun _ _ _ _ _ => rfl, hmarker,
    listObjectParts_pages id oneByteFiles (fun _ => .other) twoParts "u" 1 10
      (fun _ => List.Perm.refl _) rfl
      hdec (fun _ _ _ _ _ => rfl) hmarker⟩

example : (ListObjectParts id (fun _ => some ⟨0, 1⟩) (fun _ => .other) (some twoParts) "u" 1 10).map
    (fun r => (r.parts.map (·.partNumber), r.isTruncated)) = .ok ([3], false) := rfl

end Minio.Multipart.ListParts
