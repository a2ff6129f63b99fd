import Minio.Multipart.Complete
/-!
# The bytes of an append record

What a record's file holds when every `AppendFile` of the runs that built it succeeded: the
bytes of the part files its `(number, etag)` entries name, in order. A `backgroundAppend` run
whose appends all succeed keeps this, provided every part file name of the upload-id
directory is the one `encodePartFile` gives the number and etag it decodes to; the run appends
the bytes of the entry it read and records the decoded pair.
-/

namespace Minio.Multipart.AppendRecord

open Minio.Multipart.PartFile Minio.Multipart.State Minio.Multipart.BackgroundAppend
  Minio.Multipart.Complete

/-- The bytes of the part file `encodePartFile(partNumber, etag)`, empty when it is missing. -/
def partBytes (d : UploadDir) (partNumber : Int) (etag : String) : Bytes :=
  (d.parts.lookup (encodePartFile partNumber etag)).getD []

/-- The bytes of a record's parts, in order. -/
def recordedBytes (d : UploadDir) (ps : List PartInfo) : Bytes :=
  (ps.map fun p => partBytes d p.partNumber p.etag).flatten

/-- The bytes of a claimed part list, in claimed order. -/
def claimedBytes (d : UploadDir) (parts : List CompletePart) : Bytes :=
  (parts.map fun p => partBytes d p.partNumber p.etag).flatten

/-- Every part file name of the directory is the name `encodePartFile` gives the number and
etag it decodes to. -/
def CanonicalNames (d : UploadDir) : Prop :=
  ∀ e ∈ d.parts.keys, ∀ n t, decodePartFile e = some (n, t) → e = encodePartFile n t

instance (d : UploadDir) : Decidable (CanonicalNames d) :=
  decidable_of_iff (∀ e ∈ d.parts.keys, ∀ p ∈ decodePartFile e, e = encodePartFile p.1 p.2)
    (by simp only [CanonicalNames, Option.mem_def, Prod.forall])

section Bytes

variable (d : UploadDir)

@[simp] theorem recordedBytes_nil : recordedBytes d [] = [] := rfl

@[simp] theorem recordedBytes_append (ps qs : List PartInfo) :
    recordedBytes d (ps ++ qs) = recordedBytes d ps ++ recordedBytes d qs := by
  simp [recordedBytes]

theorem recordedBytes_eq_claimedBytes {ps : List PartInfo} {cs : List CompletePart}
    (h : partsMatch ps cs) : recordedBytes d ps = claimedBytes d cs := by
  induction ps generalizing cs with
  | nil => cases cs <;> simp_all [partsMatch, claimedBytes]
  | cons p ps ih =>
    cases cs with
    | nil => simp [partsMatch] at h
    | cons c cs =>
      simp only [partsMatch, Bool.and_eq_true, beq_iff_eq] at h
      obtain ⟨⟨he, hn⟩, h⟩ := h
      simp [recordedBytes, claimedBytes, he, hn] at ih ⊢
      exact ih h

theorem claimedBytes_take_succ {parts : List CompletePart} {i : Nat} {p : CompletePart}
    (h : parts[i]? = some p) :
    claimedBytes d (parts.take (i + 1)) =
      claimedBytes d (parts.take i) ++ partBytes d p.partNumber p.etag := by
  simp [claimedBytes, List.take_succ, h]

theorem claimedBytes_take_of_le {parts : List CompletePart} {i : Nat} (h : parts.length ≤ i) :
    claimedBytes d (parts.take i) = claimedBytes d parts := by
  rw [List.take_of_length_le h]

end Bytes

/-! ## `backgroundAppend` runs whose appends succeed -/

/-- The loop appends to `fp`, and only there, the bytes of the parts it records. -/
theorem appendLoop_ok (d : UploadDir) (hd : CanonicalNames d) (fp : TmpName) :
    ∀ (es : List String) (rs : List AppendResult) (next : Int) (ps : List PartInfo)
      (tmp : TmpDir), (∀ e ∈ es, e = fsMetaJSONFile ∨ e ∈ d.parts.keys) → (∀ r ∈ rs, r = .ok) →
    ∃ new, (appendLoop d.parts fp es rs next ps tmp).1 = ps ++ new ∧
      ((appendLoop d.parts fp es rs next ps tmp).2.lookup fp).getD [] =
        (tmp.lookup fp).getD [] ++ recordedBytes d new ∧
      ∀ fp', fp' ≠ fp → (appendLoop d.parts fp es rs next ps tmp).2.lookup fp' = tmp.lookup fp'
  | [], _, _, ps, tmp, _, _ => ⟨[], by simp [appendLoop]⟩
  | e :: es, rs, next, ps, tmp, hes, hrs => by
    have ih := appendLoop_ok d hd fp es
    have hes' : ∀ e ∈ es, e = fsMetaJSONFile ∨ e ∈ d.parts.keys :=
      fun e h => hes e (List.mem_cons_of_mem _ h)
    unfold appendLoop
    split
    · exact ih rs next ps tmp hes' hrs
    split
    · exact ⟨[], by simp⟩
    rename_i partNumber etag hdec
    split
    · exact ih rs next ps tmp hes' hrs
    split
    · exact ⟨[], by simp⟩
    rename_i hfs _ hlt hgt
    have hpn : partNumber = next := by omega
    have hok : rs.headD .ok = .ok := by
      cases rs with
      | nil => rfl
      | cons r rs => exact hrs r (List.mem_cons_self r rs)
    have hname : e = encodePartFile next etag :=
      hpn ▸ hd e ((hes e (List.mem_cons_self e es)).resolve_left hfs) _ _ hdec
    obtain ⟨new, h1, h2, h3⟩ := ih rs.tail (next + 1) (ps ++ [⟨next, etag⟩])
      (tmp.insert fp ((tmp.lookup fp).getD [] ++ (d.parts.lookup e).getD [])) hes'
      (fun r h => hrs r (List.mem_of_mem_tail h))
    refine ⟨⟨next, etag⟩ :: new, ?_, ?_, fun fp' hne => ?_⟩ <;>
      simp only [hok, appendFile] at h1 h2 h3 ⊢
    · simpa using h1
    · rw [h2, AList.lookup_insert, Option.getD_some, hname]
      simp [recordedBytes, partBytes]
    · rw [h3 fp' hne, AList.lookup_insert_ne hne]

end Minio.Multipart.AppendRecord
