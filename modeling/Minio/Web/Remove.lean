import Minio.Web.Access
import Mathlib.Data.List.Infix
/-!
# `RemoveObject` of the browser handlers

`RemoveObject` removes a list of names from a bucket. A name that does not end in `/` and is not
empty is a file: with WORM enabled, an existing file stops the call with `errMethodNotAllowed`;
otherwise the file is deleted. Any other name is a directory: `listObjects` lists the objects
under it by pages of 1000, and each listed object is deleted, with no WORM check. The first failed
deletion or listing ends the loop, and the call reports the failure unless the object was not
found.

* `removeObject_frame`: a call removes only named files and objects under named directories,
  and keeps the others in their order.
* `removeObject_removes_directory`: a directory name, the empty name included, removes every
  object under it, WORM enabled or not.
* `removeObject_missing_file_stops`: a file missing when the loop reaches it ends the call with
  success, and the names after it are left alone.

The lines are those of `gateway/b2/gateway-b2_test.go`. The bucket is the list of its object
names, in listing order, each once. `deleteObject` is not in the source; it removes a name the
bucket holds, and fails with `ObjectNotFound` on any other. `listObjects` is not in the source
either; its failures are an input, and its pages are those of the names under the directory as
they stand when the listing loop starts, since each page starts after the last name of the
previous one and the loop deletes only names it has listed.
-/

namespace Minio.Web.Remove

open Minio.Web.Access

/-- The object names of the bucket, each once. -/
structure Bucket where
  keys : List String
  nodup : keys.Nodup

/-- An error of `deleteObject` or `listObjects`: `ObjectNotFound`, or another error of the object
layer. -/
inductive DeleteErr where
  | notFound
  | failed (msg : String)
  deriving DecidableEq, Repr

/-- `deleteObject(…, bucket, objectName, r)`, not in the source: `deleteFails` is the object
layer's error on deleting a name, if any. -/
def deleteObject (deleteFails : String → Option String) (bucket : Bucket) (objectName : String) :
    Except DeleteErr Bucket :=
  if objectName ∈ bucket.keys then
    match deleteFails objectName with
    | some msg => .error (.failed msg)
    | none => .ok ⟨bucket.keys.erase objectName, bucket.nodup.erase _⟩
  else .error .notFound

/-- The names the listing loop of a directory `objectName` lists (lines 620-636). -/
def listedUnder (bucket : Bucket) (objectName : String) : List String :=
  bucket.keys.filter fun key => objectName.toList.isPrefixOf key.toList

/-- The deletions of the listing loop of a directory, until one fails. -/
def removeListed (deleteFails : String → Option String) :
    List String → Bucket → Bucket × Option DeleteErr
  | [], bucket => (bucket, none)
  | key :: keys, bucket =>
    match deleteObject deleteFails bucket key with
    | .error e => (bucket, some e)
    | .ok bucket => removeListed deleteFails keys bucket

/-- The pages the listing loop of a directory asks `listObjects` for: the first, and each next
one while the one before was truncated, that is, while names remain after it. -/
def listedPages (n : Nat) : List Nat := List.range (max 1 ((n + 999) / 1000))

/-- Page `page` of the names under a directory: the 1000 after those of the pages before it. -/
def pageAt (listed : List String) (page : Nat) : List String :=
  (listed.drop (1000 * page)).take 1000

/-- The listing loop of a directory (lines 620-636) over its pages: `listObjects` fails with
`listFails page`, or returns the page's names, which are deleted until a deletion fails. -/
def removePages (deleteFails : String → Option String) (listFails : Nat → Option DeleteErr)
    (listed : List String) : List Nat → Bucket → Bucket × Option DeleteErr
  | [], bucket => (bucket, none)
  | page :: pages, bucket =>
    match listFails page with
    | some e => (bucket, some e)
    | none =>
      match removeListed deleteFails (pageAt listed page) bucket with
      | (bucket, some e) => (bucket, some e)
      | (bucket, none) => removePages deleteFails listFails listed pages bucket

/-- The listing loop of a directory `objectName`, over the names under it when it starts. -/
def removeDirectory (deleteFails : String → Option String) (listFails : Nat → Option DeleteErr)
    (bucket : Bucket) (objectName : String) : Bucket × Option DeleteErr :=
  removePages deleteFails listFails (listedUnder bucket objectName)
    (listedPages (listedUnder bucket objectName).length) bucket

/-- Whether `RemoveObject` treats a name as a file (line 604). -/
def isFile (objectName : String) : Bool := !hasSuffix objectName "/" && objectName ≠ ""

/-- The loop `next` of `RemoveObject` (lines 601-637): the bucket after it, and `.ok err` with
the error it broke on if any, or `.error` for the WORM refusal. `listFails objectName page` is
the error of the listing of directory `objectName` at its page `page`, if any. -/
def removeLoop (globalWORMEnabled : Bool) (deleteFails : String → Option String)
    (listFails : String → Nat → Option DeleteErr) :
    List String → Bucket → Bucket × Except WebErr (Option DeleteErr)
  | [], bucket => (bucket, .ok none)
  | objectName :: objects, bucket =>
    if isFile objectName then
      if globalWORMEnabled && objectName ∈ bucket.keys then (bucket, .error .methodNotAllowed)
      else match deleteObject deleteFails bucket objectName with
        | .error e => (bucket, .ok (some e))
        | .ok bucket => removeLoop globalWORMEnabled deleteFails listFails objects bucket
    else
      match removeDirectory deleteFails (listFails objectName) bucket objectName with
      | (bucket, some e) => (bucket, .ok (some e))
      | (bucket, none) => removeLoop globalWORMEnabled deleteFails listFails objects bucket

/-- `RemoveObjectArgs` -/
structure RemoveObjectArgs where
  objects : List String
  bucketName : String
  deriving DecidableEq, Repr

/-- `RemoveObject` (lines 583-646), with the bucket it acts on. -/
def RemoveObject (accessKey : String) (objectAPI globalWORMEnabled : Bool) (parse : ParseResult)
    (deleteFails : String → Option String) (listFails : String → Nat → Option DeleteErr)
    (args : RemoveObjectArgs) (bucket : Bucket) : Bucket × Except WebErr Unit :=
  if !objectAPI then (bucket, .error .serverNotInitialized)
  else if !isHTTPRequestValid accessKey parse then (bucket, .error .authentication)
  else if args.bucketName = "" ∨ args.objects.length = 0 then (bucket, .error .invalidArgument)
  else
    let r := removeLoop globalWORMEnabled deleteFails listFails args.objects bucket
    (r.1, match r.2 with
      | .error e => .error e
      | .ok (some (.failed msg)) => .error (.other msg)
      | .ok _ => .ok ())

/-! ## What a call removes -/

/-- A name is covered by the names of a call: it is one of its files, or lies under one of its
other names. -/
def Covered (objects : List String) (key : String) : Prop :=
  ∃ objectName ∈ objects, (isFile objectName = true ∧ key = objectName) ∨
    (isFile objectName = false ∧ objectName.toList <+: key.toList)

/-- What a part of a call does to the bucket: keeps a sublist, and removes only names covered by
`objects`. -/
structure Removes (objects : List String) (bucket bucket' : Bucket) : Prop where
  sublist : List.Sublist bucket'.keys bucket.keys
  covered : ∀ key ∈ bucket.keys, key ∉ bucket'.keys → Covered objects key

theorem Removes.refl (objects : List String) (bucket : Bucket) : Removes objects bucket bucket :=
  ⟨List.Sublist.refl _, fun _ h h' => absurd h h'⟩

theorem Removes.trans {objects : List String} {b₁ b₂ b₃ : Bucket} (h₁ : Removes objects b₁ b₂)
    (h₂ : Removes objects b₂ b₃) : Removes objects b₁ b₃ :=
  ⟨h₂.sublist.trans h₁.sublist, fun key hk hk₃ =>
    if hk₂ : key ∈ b₂.keys then h₂.covered key hk₂ hk₃ else h₁.covered key hk hk₂⟩

theorem Removes.mono {objects objects' : List String} {b b' : Bucket} (h : Removes objects b b')
    (hsub : objects ⊆ objects') : Removes objects' b b' :=
  ⟨h.sublist, fun key hk hk' =>
    let ⟨o, ho, hc⟩ := h.covered key hk hk'
    ⟨o, hsub ho, hc⟩⟩

/-- `deleteObject` removes the name it is given, and only it. -/
theorem deleteObject_eq_ok {deleteFails : String → Option String} {bucket bucket' : Bucket}
    {objectName : String} (h : deleteObject deleteFails bucket objectName = .ok bucket') :
    objectName ∈ bucket.keys ∧ bucket'.keys = bucket.keys.erase objectName := by
  unfold deleteObject at h
  split at h
  · split at h
    · exact nomatch h
    · cases h
      exact ⟨‹_›, rfl⟩
  · exact nomatch h

theorem removes_deleteObject {deleteFails : String → Option String} {bucket bucket' : Bucket}
    {objects : List String} {objectName : String}
    (h : deleteObject deleteFails bucket objectName = .ok bucket')
    (hc : Covered objects objectName) : Removes objects bucket bucket' := by
  obtain ⟨-, hkeys⟩ := deleteObject_eq_ok h
  refine ⟨hkeys ▸ List.erase_sublist _ _, fun key hk hk' => ?_⟩
  rw [hkeys, bucket.nodup.mem_erase_iff] at hk'
  rwa [show key = objectName by simpa [hk] using hk']

/-- The listing loop removes only names of its list. -/
theorem removes_removeListed (deleteFails : String → Option String) {objects : List String} :
    ∀ (keys : List String) (bucket : Bucket), (∀ key ∈ keys, Covered objects key) →
      Removes objects bucket (removeListed deleteFails keys bucket).1
  | [], bucket, _ => Removes.refl _ _
  | key :: keys, bucket, hc => by
    unfold removeListed
    split
    · exact Removes.refl _ _
    · rename_i bucket' hdel
      exact (removes_deleteObject hdel (hc key (.head _))).trans
        (removes_removeListed deleteFails keys bucket' fun k hk => hc k (.tail _ hk))

/-- The pages of a directory's listing remove only names listed under it. -/
theorem removes_removePages (deleteFails : String → Option String)
    (listFails : Nat → Option DeleteErr) {objects listed : List String}
    (hc : ∀ key ∈ listed, Covered objects key) :
    ∀ (pages : List Nat) (bucket : Bucket),
      Removes objects bucket (removePages deleteFails listFails listed pages bucket).1
  | [], bucket => Removes.refl _ _
  | page :: pages, bucket => by
    have hpage := removes_removeListed deleteFails (pageAt listed page) bucket fun k hk =>
      hc k (List.mem_of_mem_drop (List.mem_of_mem_take hk))
    unfold removePages
    split
    · exact Removes.refl _ _
    · split
      · rename_i bucket' e heq
        simpa [heq] using hpage
      · rename_i bucket' heq
        rw [heq] at hpage
        exact hpage.trans (removes_removePages deleteFails listFails hc pages bucket')

/-- The loop removes only names covered by the names it walks. -/
theorem removes_removeLoop (globalWORMEnabled : Bool) (deleteFails : String → Option String)
    (listFails : String → Nat → Option DeleteErr) :
    ∀ (objects : List String) (bucket : Bucket),
      Removes objects bucket (removeLoop globalWORMEnabled deleteFails listFails objects bucket).1
  | [], bucket => Removes.refl _ _
  | objectName :: objects, bucket => by
    have hrest := fun bucket' => (removes_removeLoop globalWORMEnabled deleteFails listFails objects
      bucket').mono (List.subset_cons_self objectName objects)
    unfold removeLoop
    split
    · rename_i hfile
      split
      · exact Removes.refl _ _
      · split
        · exact Removes.refl _ _
        · rename_i bucket' hdel
          exact (removes_deleteObject hdel ⟨objectName, .head _, .inl ⟨hfile, rfl⟩⟩).trans
            (hrest bucket')
    · rename_i hdir
      have hlisted : Removes (objectName :: objects) bucket
          (removeDirectory deleteFails (listFails objectName) bucket objectName).1 :=
        removes_removePages deleteFails (listFails objectName) (fun key hk =>
          ⟨objectName, .head _, .inr ⟨by simpa using hdir, List.isPrefixOf_iff_prefix.mp
            (List.mem_filter.mp hk).2⟩⟩) _ bucket
      split
      · rename_i bucket' e heq
        simpa [heq] using hlisted
      · rename_i bucket' heq
        rw [heq] at hlisted
        exact hlisted.trans (hrest bucket')

/-- A call removes only the files it names and the objects under the other names it is given,
and keeps the other objects in their order, whatever the object layer's failures. -/
theorem removeObject_frame (accessKey : String) (objectAPI globalWORMEnabled : Bool)
    (parse : ParseResult) (deleteFails : String → Option String)
    (listFails : String → Nat → Option DeleteErr) (args : RemoveObjectArgs) (bucket : Bucket) :
    Removes args.objects bucket
      (RemoveObject accessKey objectAPI globalWORMEnabled parse deleteFails listFails args
        bucket).1 := by
  unfold RemoveObject
  split
  · exact Removes.refl _ _
  split
  · exact Removes.refl _ _
  split
  · exact Removes.refl _ _
  exact removes_removeLoop globalWORMEnabled deleteFails listFails args.objects bucket

/-! ## Without failures of the object layer -/

/-- With no failure, the listing loop deletes every name of its list. -/
theorem removeListed_keys : ∀ (keys : List String) (bucket : Bucket), keys.Nodup →
    (∀ key ∈ keys, key ∈ bucket.keys) →
    (removeListed (fun _ => none) keys bucket).2 = none ∧
      (removeListed (fun _ => none) keys bucket).1.keys = bucket.keys.filter (· ∉ keys)
  | [], bucket, _, _ => by simp [removeListed]
  | key :: keys, bucket, hnd, hmem => by
    have hdel : deleteObject (fun _ => none) bucket key =
        .ok ⟨bucket.keys.erase key, bucket.nodup.erase _⟩ := by
      simp [deleteObject, hmem key (.head _)]
    have hkey : key ∉ keys := (List.nodup_cons.mp hnd).1
    obtain ⟨h₁, h₂⟩ := removeListed_keys keys ⟨bucket.keys.erase key, bucket.nodup.erase _⟩
      (List.nodup_cons.mp hnd).2 fun k hk => (bucket.nodup.mem_erase_iff).mpr
        ⟨fun h => hkey (h ▸ hk), hmem k (.tail _ hk)⟩
    simp only [removeListed, hdel]
    refine ⟨h₁, ?_⟩
    rw [h₂]
    dsimp only
    rw [bucket.nodup.erase_eq_filter, List.filter_filter]
    exact List.filter_congr fun k _ => by by_cases h : k = key <;> simp [h]

/-- The deletions of `xs ++ ys` are those of `xs`, then, if none failed, those of `ys`. -/
theorem removeListed_append (deleteFails : String → Option String) :
    ∀ (xs ys : List String) (bucket : Bucket),
      removeListed deleteFails (xs ++ ys) bucket =
        match removeListed deleteFails xs bucket with
        | (bucket', none) => removeListed deleteFails ys bucket'
        | r => r
  | [], _, _ => rfl
  | key :: xs, ys, bucket => by
    simp only [List.cons_append, removeListed]
    split
    · rfl
    · exact removeListed_append deleteFails xs ys _

/-- With no listing failure, the `j` pages from page `k` on delete their names as one run. -/
theorem removePages_range' (deleteFails : String → Option String) (listed : List String) :
    ∀ (j k : Nat) (bucket : Bucket),
      removePages deleteFails (fun _ => none) listed (List.range' k j) bucket =
        removeListed deleteFails ((listed.drop (1000 * k)).take (1000 * j)) bucket
  | 0, k, bucket => by simp [removePages, removeListed]
  | j + 1, k, bucket => by
    have hsplit : (listed.drop (1000 * k)).take (1000 * (j + 1)) =
        pageAt listed k ++ (listed.drop (1000 * (k + 1))).take (1000 * j) := by
      rw [show 1000 * (j + 1) = 1000 + 1000 * j by omega, List.take_add, List.drop_drop,
        show 1000 * k + 1000 = 1000 * (k + 1) by omega]
      rfl
    rw [List.range'_succ, removePages, hsplit, removeListed_append]
    rcases h : removeListed deleteFails (pageAt listed k) bucket with ⟨bucket', _ | e⟩
    · exact removePages_range' deleteFails listed j (k + 1) bucket'
    · rfl

/-- With no listing failure, the listing loop of a directory deletes the names under it as one
run of deletions. -/
theorem removeDirectory_eq_removeListed (deleteFails : String → Option String) (bucket : Bucket)
    (objectName : String) :
    removeDirectory deleteFails (fun _ => none) bucket objectName =
      removeListed deleteFails (listedUnder bucket objectName) bucket := by
  have hmax := Nat.le_max_right 1 (((listedUnder bucket objectName).length + 999) / 1000)
  rw [removeDirectory, listedPages, List.range_eq_range', removePages_range', Nat.mul_zero,
    List.drop_zero, List.take_of_length_le (by omega)]

/-- A directory name, the empty name included, removes every object under it, and with no
failure the call succeeds: WORM enabled or not, nothing under the directory is kept. -/
theorem removeObject_removes_directory (accessKey : String) (globalWORMEnabled : Bool)
    (objectName bucketName : String) (bucket : Bucket) (hdir : isFile objectName = false)
    (hbucket : bucketName ≠ "") :
    (RemoveObject accessKey true globalWORMEnabled (ownerToken accessKey) (fun _ => none)
        (fun _ _ => none) ⟨[objectName], bucketName⟩ bucket).1.keys =
      bucket.keys.filter (fun key => !objectName.toList.isPrefixOf key.toList) ∧
    (RemoveObject accessKey true globalWORMEnabled (ownerToken accessKey) (fun _ => none)
        (fun _ _ => none) ⟨[objectName], bucketName⟩ bucket).2 = .ok () := by
  have hvalid : isHTTPRequestValid accessKey (ownerToken accessKey) = true := by
    simp [isHTTPRequestValid, webRequestAuthenticate_eq_none]
  obtain ⟨h₁, h₂⟩ := removeListed_keys (listedUnder bucket objectName) bucket
    (bucket.nodup.filter _) fun k hk => (List.mem_filter.mp hk).1
  have hloop : removeLoop globalWORMEnabled (fun _ => none) (fun _ _ => none) [objectName] bucket =
      ((removeListed (fun _ => none) (listedUnder bucket objectName) bucket).1, .ok none) := by
    rw [removeLoop, if_neg (by simp [hdir]), removeDirectory_eq_removeListed]
    split <;> simp_all [removeLoop]
  simp only [RemoveObject, hvalid, hloop, Bool.not_true, Bool.false_eq_true, if_false, hbucket,
    List.length_singleton, false_or, Nat.one_ne_zero, h₂, true_and]
  refine ⟨List.filter_congr fun k hk => ?_, trivial⟩
  simp [listedUnder, hk, ← List.isPrefixOf_iff_prefix]

/-- `[d/]` under WORM, on a bucket holding `d/a` and `e`: `d/a` goes and `e` stays. -/
theorem removeObject_removes_directory_worm :
    isFile "d/" = false ∧ "b" ≠ "" ∧
    (RemoveObject "k" true true (ownerToken "k") (fun _ => none) (fun _ _ => none) ⟨["d/"], "b"⟩
        ⟨["d/a", "e"], by decide⟩).1.keys = ["e"] :=
  ⟨by decide, by decide, (removeObject_removes_directory "k" true "d/" "b"
    ⟨["d/a", "e"], by decide⟩ (by decide) (by decide)).1.trans (by decide)⟩

/-- The loop over `xs ++ ys` is the loop over `xs`, then, if it did not break, over `ys`. -/
theorem removeLoop_append (globalWORMEnabled : Bool) (deleteFails : String → Option String)
    (listFails : String → Nat → Option DeleteErr) :
    ∀ (xs ys : List String) (bucket : Bucket),
      removeLoop globalWORMEnabled deleteFails listFails (xs ++ ys) bucket =
        match removeLoop globalWORMEnabled deleteFails listFails xs bucket with
        | (bucket', .ok none) => removeLoop globalWORMEnabled deleteFails listFails ys bucket'
        | r => r
  | [], _, _ => rfl
  | objectName :: xs, ys, bucket => by
    simp only [List.cons_append, removeLoop]
    split
    · split
      · rfl
      · split
        · rfl
        · exact removeLoop_append globalWORMEnabled deleteFails listFails xs ys _
    · split
      · rfl
      · exact removeLoop_append globalWORMEnabled deleteFails listFails xs ys _

/-- A file that is missing when the loop reaches it, after names that all went through, ends the
call, and the call succeeds: the bucket is what the names before it left, and none of the names
after it is removed. -/
theorem removeObject_missing_file_stops (accessKey : String) (globalWORMEnabled : Bool)
    (deleteFails : String → Option String) (listFails : String → Nat → Option DeleteErr)
    (done : List String) (objectName bucketName : String) (rest : List String) (bucket : Bucket)
    (hfile : isFile objectName = true)
    (hdone : (removeLoop globalWORMEnabled deleteFails listFails done bucket).2 = .ok none)
    (hmissing : objectName ∉ (removeLoop globalWORMEnabled deleteFails listFails done bucket).1.keys)
    (hbucket : bucketName ≠ "") :
    (RemoveObject accessKey true globalWORMEnabled (ownerToken accessKey) deleteFails listFails
        ⟨done ++ objectName :: rest, bucketName⟩ bucket).1 =
      (removeLoop globalWORMEnabled deleteFails listFails done bucket).1 ∧
    (RemoveObject accessKey true globalWORMEnabled (ownerToken accessKey) deleteFails listFails
        ⟨done ++ objectName :: rest, bucketName⟩ bucket).2 = .ok () := by
  have hvalid : isHTTPRequestValid accessKey (ownerToken accessKey) = true := by
    simp [isHTTPRequestValid, webRequestAuthenticate_eq_none]
  -- the loop breaks on the missing file with `ObjectNotFound`
  have hloop : removeLoop globalWORMEnabled deleteFails listFails (done ++ objectName :: rest)
      bucket = ((removeLoop globalWORMEnabled deleteFails listFails done bucket).1,
        .ok (some .notFound)) := by
    rw [removeLoop_append]
    rcases h : removeLoop globalWORMEnabled deleteFails listFails done bucket with ⟨bucket', r⟩
    rw [h] at hdone hmissing
    cases hdone
    simp [removeLoop, hfile, hmissing, deleteObject]
  simp [RemoveObject, hvalid, hloop, hbucket]

/-- `[d/, x, e]` on a bucket holding `d/a` and `e`: `d/a` goes, the call succeeds at the missing
`x`, and `e` stays. -/
theorem removeObject_missing_file_stops_before_e :
    isFile "x" = true ∧
    (removeLoop false (fun _ => none) (fun _ _ => none) ["d/"] ⟨["d/a", "e"], by decide⟩).2 =
      .ok none ∧
    "x" ∉ (removeLoop false (fun _ => none) (fun _ _ => none) ["d/"]
      ⟨["d/a", "e"], by decide⟩).1.keys ∧ "b" ≠ "" ∧
    (RemoveObject "k" true false (ownerToken "k") (fun _ => none) (fun _ _ => none)
        ⟨["d/"] ++ "x" :: ["e"], "b"⟩ ⟨["d/a", "e"], by decide⟩).1.keys = ["e"] :=
  ⟨by decide, rfl, by decide, by decide, (congrArg Bucket.keys
    (removeObject_missing_file_stops "k" false (fun _ => none) (fun _ _ => none) ["d/"] "x" "b" ["e"]
      ⟨["d/a", "e"], by decide⟩ (by decide) (by rfl) (by decide) (by decide)).1).trans
    (by decide)⟩

end Minio.Web.Remove
