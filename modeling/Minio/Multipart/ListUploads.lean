import Minio.Multipart.Listing
import Mathlib.Data.List.Sort
/-!
# `ListMultipartUploads`

`ListMultipartUploads` reads the object's `SHA256(bucket/object)` directory, stats the `fs.json`
of every upload-id directory in it for the upload's initiated time, sorts the uploads by that
time, skips past `uploadIDMarker` when it is not empty, and returns uploads until the page holds
`maxUploads` of them. It then sets `IsTruncated`, and clears `NextKeyMarker` and
`NextUploadIDMarker` when nothing remains.

The page is cut by comparing its length with `maxUploads` after each upload is added, so a
`maxUploads` of `0` never cuts it: every upload after the marker is returned.

`readDir` and `fsStatFile` are not in this repository: they are modelled as the environment's
listing of the directory and `stat` of an upload's `fs.json` (its modification time, `none`
when it fails). `sort.Slice` is not stable; the model sorts by insertion, which orders uploads
with equal times one of the ways `sort.Slice` may.
-/

namespace Minio.Multipart.ListUploads

/-- `MultipartInfo`. -/
structure MultipartInfo where
  object : String
  uploadID : String
  initiated : Int
  deriving DecidableEq, Repr

/-- `ListMultipartsInfo`. -/
structure ListMultipartsInfo where
  keyMarker : String
  uploadIDMarker : String
  nextKeyMarker : String
  nextUploadIDMarker : String
  maxUploads : Int
  isTruncated : Bool
  uploads : List MultipartInfo
  prefix_ : String
  delimiter : String
  deriving DecidableEq, Repr

/-- What `readDir` of the object's multipart directory returns. -/
inductive ReadDirResult where
  | ok (names : List String)
  /-- `errFileNotFound`: no upload of the object was ever created -/
  | notFound
  /-- any other error -/
  | failed
  deriving DecidableEq, Repr

/-- Why `ListMultipartUploads` fails. -/
inductive ListUploadsErr where
  /-- `readDir` fails with an error other than `errFileNotFound` -/
  | readDirFailed
  /-- `fsStatFile` of the `fs.json` of an upload fails -/
  | statFailed (uploadID : String)
  deriving DecidableEq, Repr

/-- `strings.TrimSuffix(name, slashSeparator)`: `readDir` lists directories with a final `/`. -/
def trimSlash (name : String) : String :=
  ⟨if name.data.getLast? = some '/' then name.data.dropLast else name.data⟩

theorem trimSlash_append_slash (name : String) : trimSlash (name ++ "/") = name := by
  simp [trimSlash, String.append]

/-- The stat loop (lines 150-161): each upload with the modification time of its `fs.json`. -/
def statUploads (stat : String → Option Int) (object : String) (names : List String) :
    Except ListUploadsErr (List MultipartInfo) :=
  names.mapM fun name =>
    match stat (trimSlash name) with
    | some t => .ok ⟨object, trimSlash name, t⟩
    | none => .error (.statFailed (trimSlash name))

/-- `sort.Slice` of the uploads by initiated time. -/
def sortUploads (uploads : List MultipartInfo) : List MultipartInfo :=
  uploads.insertionSort fun a b => a.initiated ≤ b.initiated

/-- The marker loop (lines 168-180): how many uploads it passes, up to and including the first
with id `uploadIDMarker`, or all of them. -/
def skipPastMarker (uploadIDMarker : String) (uploads : List MultipartInfo) : Nat :=
  Listing.skipPast (·.uploadID) uploadIDMarker uploads

/-- The page loop (lines 181-188) from the uploads left, with the page built so far: it adds an
upload, then stops once the page holds `maxUploads`. -/
def fillPage (maxUploads : Int) : List MultipartInfo → List MultipartInfo → List MultipartInfo
  | page, [] => page
  | page, upload :: uploads =>
    if ((page ++ [upload]).length : Int) = maxUploads then page ++ [upload]
    else fillPage maxUploads (page ++ [upload]) uploads

/-- `ListMultipartUploads(bucket, object, keyMarker, uploadIDMarker, delimiter, maxUploads)`,
after its argument and bucket checks. -/
def ListMultipartUploads (readDir : ReadDirResult) (stat : String → Option Int)
    (object keyMarker uploadIDMarker delimiter : String) (maxUploads : Int) :
    Except ListUploadsErr ListMultipartsInfo := do
  let result : ListMultipartsInfo :=
    ⟨keyMarker, uploadIDMarker, object, "", maxUploads, false, [], object, delimiter⟩
  match readDir with
  | .notFound => return result
  | .failed => throw .readDirFailed
  | .ok names =>
    let uploads := sortUploads (← statUploads stat object names)
    let uploadIndex := if uploadIDMarker ≠ "" then skipPastMarker uploadIDMarker uploads else 0
    let page := fillPage maxUploads [] (uploads.drop uploadIndex)
    let isTruncated := decide (uploadIndex + page.length < uploads.length)
    let nextUploadIDMarker := (page.getLast?.map (·.uploadID)).getD ""
    if isTruncated then
      return { result with uploads := page, isTruncated, nextUploadIDMarker }
    else
      return { result with uploads := page, nextKeyMarker := "", nextUploadIDMarker := "" }

/-- Two uploads, `u1` initiated at time 1 and `u2` at time 2. -/
def twoUploads : List String := ["u1/", "u2/"]

/-- A page of at most `0` uploads returns both uploads, and says nothing remains; and an object
with no multipart directory gets an untruncated empty listing whose `NextKeyMarker` is the
object. -/
theorem listMultipartUploads_zero_max_lists_all :
    (∃ r, ListMultipartUploads (.ok twoUploads) (fun u => if u = "u1" then some 1 else some 2)
        "obj" "" "" "" 0 = .ok r ∧
      r.uploads.map (·.uploadID) = ["u1", "u2"] ∧ r.isTruncated = false) ∧
    ∃ r, ListMultipartUploads .notFound (fun _ => none) "obj" "" "" "" 1000 = .ok r ∧
      r.uploads = [] ∧ r.isTruncated = false ∧ r.nextKeyMarker = "obj" :=
  ⟨⟨_, rfl, by decide, rfl⟩, _, rfl, rfl, rfl, rfl⟩

/-! ## Pages of uploads -/

/-- Where the page starts in the sorted uploads: at the first without a marker, and right
after the upload the marker names. -/
def pageStart (uploadIDMarker : String) (uploads : List MultipartInfo) : Nat :=
  if uploadIDMarker = "" then 0 else (uploads.map (·.uploadID)).indexOf uploadIDMarker + 1

/-- With `maxUploads ≤ 0` the page loop never stops early. -/
theorem fillPage_of_nonpos {maxUploads : Int} (h : maxUploads ≤ 0) :
    ∀ page uploads : List MultipartInfo, fillPage maxUploads page uploads = page ++ uploads
  | page, [] => (List.append_nil page).symm
  | page, upload :: uploads => by
    rw [fillPage, if_neg (by rw [List.length_append, List.length_singleton]; omega),
      fillPage_of_nonpos h, List.append_assoc, List.singleton_append]

/-- From a page shorter than `maxUploads`, the page loop fills it up to `maxUploads`. -/
theorem fillPage_eq_take {maxUploads : Int} : ∀ page uploads : List MultipartInfo,
    (page.length : Int) < maxUploads →
      fillPage maxUploads page uploads = page ++ uploads.take (maxUploads.toNat - page.length)
  | page, [], _ => by rw [fillPage, List.take_nil, List.append_nil]
  | page, upload :: uploads, h => by
    rw [fillPage, show maxUploads.toNat - page.length = (maxUploads.toNat - page.length - 1) + 1 by
      omega, List.take_succ_cons, List.length_append, List.length_singleton]
    split
    · rename_i heq
      rw [show maxUploads.toNat - page.length - 1 = 0 by omega, List.take_zero]
    · rename_i hne
      have hlt : ((page ++ [upload]).length : Int) < maxUploads := by
        rw [List.length_append, List.length_singleton]; omega
      rw [fillPage_eq_take (page ++ [upload]) uploads hlt, List.length_append,
        List.length_singleton, List.append_assoc, List.singleton_append, Nat.sub_sub]

theorem page_length_lt_iff (s : Nat) (maxUploads : Int) (uploads : List MultipartInfo) :
    s + (if 0 < maxUploads then (uploads.drop s).take maxUploads.toNat else uploads.drop s).length <
        uploads.length ↔ 0 < maxUploads ∧ s + maxUploads.toNat < uploads.length := by
  split <;> simp only [List.length_take, List.length_drop] <;> omega

/-- The `fs.json` times of `twoUploads`. -/
def twoUploadTimes (uploadID : String) : Option Int := if uploadID = "u1" then some 1 else some 2

example : (ListMultipartUploads (.ok twoUploads) twoUploadTimes "obj" "" "" "" 1).map
    (fun r => (r.uploads.map (·.uploadID), r.isTruncated, r.nextUploadIDMarker)) =
      .ok (["u1"], true, "u1") := rfl

end Minio.Multipart.ListUploads
