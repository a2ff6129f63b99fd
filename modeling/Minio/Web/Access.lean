import Mathlib.Data.List.Basic
/-!
# Who the browser handlers serve

The web handlers of the browser UI authenticate a request by the JWT it carries. `ServerInfo`,
`MakeBucket`, `RemoveObject` and the other owner-only handlers call `isHTTPRequestValid`, which
admits exactly a token of the server's access key whose claims and signature are valid.
`ListObjects` and `Upload` read the token of the `Authorization` header. A bad token
(`errAuthentication`) is refused, while a missing token or a token of another access key makes
the request anonymous, served when the bucket policy allows it. `Download` and `DownloadZip`
read a `token` query parameter instead, and treat every token that is not the owner's as
anonymous.

* `web_access_owner_or_policy`: each handler serves a request only for the owner's token or
  when the policy allows the anonymous action it checks.
* `downloadZip_fetches_allowed`: `DownloadZip` checks the policy on the names it is given, but
  fetches every object listed under a directory name. Every fetched object is allowed when the
  policy allows whatever lies under an allowed name; otherwise a denied object can be fetched.

The handlers' lines are those of `gateway/b2/gateway-b2_test.go`, where the source holds them.
The JWT library, `IsAllowed` of the bucket policy, `pathJoin` and the object layer are not in
the source: the handlers take their verdicts as inputs.
-/

namespace Minio.Web.Access

/-- What parsing a request's JWT gives the handlers (`jwtreq.ParseFromRequestWithClaims` on the
`Authorization` header, `jwtgo.ParseWithClaims` on a `token` parameter): no token in the
request, another parse error (a bad signature, an unexpected signing method, a malformed
token), or a parsed token with whether its claims are `Valid()` (not expired), its `Valid`
flag, and its `Subject`. -/
inductive ParseResult where
  | noTokenInRequest
  | parseError
  | parsed (claimsValid valid : Bool) (subject : String)
  deriving DecidableEq, Repr

/-- The errors the handlers return. -/
inductive WebErr where
  | serverNotInitialized
  | authentication
  | noAuthToken
  | invalidAccessKeyID
  | changeCredNotAllowed
  | invalidBucketName
  | bucketAlreadyExists
  | invalidArgument
  | sizeUnspecified
  | methodNotAllowed
  /-- `ErrInternalError` -/
  | internalError
  /-- an error of the object layer or of the request's decoding, passed on -/
  | other (msg : String)
  deriving DecidableEq, Repr

/-! ## Authentication (jwt.go) -/

/-- `webRequestAuthenticate(req)` (jwt.go, lines 119-138), on the parse of the request's
`Authorization` header; `none` is `nil`. -/
def webRequestAuthenticate (accessKey : String) : ParseResult → Option WebErr
  | .noTokenInRequest => some .noAuthToken
  | .parseError => some .authentication
  | .parsed claimsValid valid subject =>
    if !claimsValid then some .authentication
    else if subject ≠ accessKey then some .invalidAccessKeyID
    else if !valid then some .authentication
    else none

/-- `isHTTPRequestValid(req)` (jwt.go, lines 112-114). -/
def isHTTPRequestValid (accessKey : String) (parse : ParseResult) : Bool :=
  (webRequestAuthenticate accessKey parse).isNone

/-- `isAuthTokenValid(tokenString)` (jwt.go, lines 95-110), on the parse of `tokenString`. -/
def isAuthTokenValid (accessKey tokenString : String) (parse : ParseResult) : Bool :=
  if tokenString = "" then false
  else match parse with
    | .parsed claimsValid valid subject => if !claimsValid then false else valid && subject == accessKey
    | _ => false

/-- The owner's token: parsed, with valid claims and signature, for the server's access key. -/
def ownerToken (accessKey : String) : ParseResult := .parsed true true accessKey

/-- `webRequestAuthenticate` passes exactly the owner's token. -/
theorem webRequestAuthenticate_eq_none (accessKey : String) (parse : ParseResult) :
    webRequestAuthenticate accessKey parse = none ↔ parse = ownerToken accessKey := by
  cases parse with
  | noTokenInRequest => simp [webRequestAuthenticate, ownerToken]
  | parseError => simp [webRequestAuthenticate, ownerToken]
  | parsed claimsValid valid subject =>
    cases claimsValid <;> cases valid <;> by_cases h : subject = accessKey <;>
      simp [webRequestAuthenticate, ownerToken, h]

/-- `isAuthTokenValid` passes exactly a non-empty owner's token. -/
theorem isAuthTokenValid_iff (accessKey tokenString : String) (parse : ParseResult) :
    isAuthTokenValid accessKey tokenString parse = true ↔
      tokenString ≠ "" ∧ parse = ownerToken accessKey := by
  unfold isAuthTokenValid
  split
  · simp_all
  · rename_i htok
    cases parse with
    | parsed claimsValid valid subject =>
      cases claimsValid <;> cases valid <;> simp [ownerToken, htok]
    | _ => simp [ownerToken, htok]

/-! ## The anonymous access checks -/

/-- The access check of `ListObjects` (lines 531-542) and `Upload` (lines 811-828), on the
result of `webRequestAuthenticate`: the owner passes, a bad token is refused, and any other
request passes when the policy allows the anonymous action. -/
def headerAccess (authErr : Option WebErr) (allowed : Bool) : Except WebErr Unit :=
  match authErr with
  | none => .ok ()
  | some authErr =>
    if authErr = .authentication then .error .authentication
    else if !allowed then .error .authentication
    else .ok ()

/-- The access check of `Download` (lines 886-897) and `DownloadZip` (lines 947-960): a request
whose `token` parameter is not valid passes when the policy allows the anonymous action. -/
def queryTokenAccess (tokenValid allowed : Bool) : Except WebErr Unit :=
  if !tokenValid && !allowed then .error .authentication else .ok ()

theorem headerAccess_ok {authErr : Option WebErr} {allowed : Bool}
    (h : headerAccess authErr allowed = .ok ()) :
    authErr = none ∨ (authErr ≠ some .authentication ∧ allowed = true) := by
  unfold headerAccess at h
  split at h
  · exact .inl rfl
  · split at h
    · exact nomatch h
    · split at h
      · exact nomatch h
      · simp_all

theorem queryTokenAccess_ok {tokenValid allowed : Bool}
    (h : queryTokenAccess tokenValid allowed = .ok ()) : tokenValid = true ∨ allowed = true := by
  cases tokenValid <;> cases allowed <;> simp_all [queryTokenAccess]

/-! ## The handlers -/

/-- An object of a `ListObjectsInfo`, with the fields `ListObjects` copies. -/
structure ObjectInfo where
  name : String
  modTime : Int
  size : Int
  contentType : String
  deriving DecidableEq, Repr

/-- `ListObjectsInfo`: a page of objects and of common prefixes. -/
structure ListObjectsInfo where
  isTruncated : Bool
  nextMarker : String
  objects : List ObjectInfo
  prefixes : List String
  deriving DecidableEq, Repr

/-- `WebObjectInfo` -/
structure WebObjectInfo where
  key : String
  lastModified : Int := 0
  size : Int := 0
  contentType : String := ""
  deriving DecidableEq, Repr

/-- `ListObjectsRep`, without `UIVersion`. -/
structure ListObjectsRep where
  objects : List WebObjectInfo
  nextMarker : String
  isTruncated : Bool
  writable : Bool
  deriving DecidableEq, Repr

/-- `ListObjects` (lines 503-565). `objectAPI` is whether the object layer is up; `readable`
and `writable` are the policy's verdicts on anonymous `GetObject` and `PutObject` at
`prefix + "/"`, and an anonymous request is refused when both are false; `listObjects` is the
page the object layer returns. An anonymous reply carries `writable`, the owner's `false`. -/
def ListObjects (accessKey : String) (objectAPI : Bool) (parse : ParseResult)
    (readable writable : Bool) (listObjects : Except String ListObjectsInfo) :
    Except WebErr ListObjectsRep :=
  if !objectAPI then .error .serverNotInitialized
  else
    let authErr := webRequestAuthenticate accessKey parse
    match headerAccess authErr (readable || writable) with
    | .error e => .error e
    | .ok () =>
      match listObjects with
      | .error e => .error (.other e)
      | .ok lo =>
        .ok { nextMarker := lo.nextMarker
              isTruncated := lo.isTruncated
              writable := authErr.isSome && writable
              objects := lo.objects.map (fun obj => ⟨obj.name, obj.modTime, obj.size, obj.contentType⟩) ++
                lo.prefixes.map fun p => { key := p } }

/-- What the object layer answers to an `Upload`: the request's `Content-Length`, whether the
metadata of its header cannot be extracted, the error of `hash.NewReader` if any, whether
`GetObjectInfo` finds the object, and the error of `PutObject` if any. -/
structure UploadEnv where
  contentLength : Int
  metadataErr : Bool
  hashReaderErr : Option String
  objectExists : Bool
  putObjectErr : Option String
  deriving DecidableEq, Repr

/-- `Upload` (lines 796-871): `.ok ()` is a `PutObject` that succeeded. `putAllowed` is the
policy's verdict on an anonymous `PutObject` of the object. -/
def Upload (accessKey : String) (objectAPI globalWORMEnabled : Bool) (parse : ParseResult)
    (putAllowed : Bool) (env : UploadEnv) : Except WebErr Unit :=
  if !objectAPI then .error .serverNotInitialized
  else
    match headerAccess (webRequestAuthenticate accessKey parse) putAllowed with
    | .error e => .error e
    | .ok () =>
      if env.contentLength < 0 then .error .sizeUnspecified
      else if env.metadataErr then .error .internalError
      else match env.hashReaderErr with
        | some e => .error (.other e)
        | none =>
          if globalWORMEnabled && env.objectExists then .error .methodNotAllowed
          else match env.putObjectErr with
            | some e => .error (.other e)
            | none => .ok ()

/-- `Download` (lines 874-911): `.ok ()` is the call of `GetObject`, whose errors the handler
does not report, the response being written already. `getAllowed` is the policy's verdict on an
anonymous `GetObject` of the object. -/
def Download (accessKey : String) (objectAPI : Bool) (token : String) (parse : ParseResult)
    (getAllowed : Bool) : Except WebErr Unit :=
  if !objectAPI then .error .serverNotInitialized
  else queryTokenAccess (isAuthTokenValid accessKey token parse) getAllowed

/-- `hasSuffix(s, suffix)`, not in the source: whether `s` ends with `suffix` (`strings.HasSuffix`;
the Windows case, which ignores case, is left out). -/
def hasSuffix (s suffix : String) : Bool := suffix.toList.isSuffixOf s.toList

/-- `DownloadZipArgs`: the names of files and directories (ending in `/`), relative to
`Prefix`, in bucket `BucketName`. -/
structure DownloadZipArgs where
  objects : List String
  pathPrefix : String
  bucketName : String
  deriving DecidableEq, Repr

/-- `DownloadZip` (lines 923-1020), returning the names of the objects it zips, in order (an
error of the object layer ends the response after a prefix of them). `decoded` is the JSON
decoding of the body; `isAllowed` the policy's verdict on an anonymous `GetObject`;
`listObjects p` the objects under `p`, over all the pages of the listing loop. -/
def DownloadZip (pathJoin : String → String → String) (accessKey : String) (objectAPI : Bool)
    (decoded : Except String DownloadZipArgs) (token : String) (parse : ParseResult)
    (isAllowed : String → Bool) (listObjects : String → List String) :
    Except WebErr (List String) :=
  if !objectAPI then .error .serverNotInitialized
  else match decoded with
    | .error e => .error (.other e)
    | .ok args =>
      match queryTokenAccess (isAuthTokenValid accessKey token parse)
          (args.objects.all fun object => isAllowed (pathJoin args.pathPrefix object)) with
      | .error e => .error e
      | .ok () =>
        .ok (args.objects.flatMap fun object =>
          if hasSuffix object "/" then listObjects (pathJoin args.pathPrefix object)
          else [pathJoin args.pathPrefix object])

/-- `Upload` succeeds exactly when the object layer is up, the request passes the access check,
its length is known, its metadata and body can be read, WORM does not forbid the write, and
`PutObject` succeeds. -/
theorem upload_eq_ok_iff (accessKey : String) (objectAPI globalWORMEnabled : Bool)
    (parse : ParseResult) (putAllowed : Bool) (env : UploadEnv) :
    Upload accessKey objectAPI globalWORMEnabled parse putAllowed env = .ok () ↔
      objectAPI = true ∧ headerAccess (webRequestAuthenticate accessKey parse) putAllowed = .ok () ∧
      0 ≤ env.contentLength ∧ env.metadataErr = false ∧ env.hashReaderErr = none ∧
      (globalWORMEnabled = true → env.objectExists = false) ∧ env.putObjectErr = none := by
  unfold Upload
  split <;> (repeat' split) <;> simp_all [Int.not_lt, Int.not_le]

/-- A `DownloadZip` that goes through decoded its arguments and passed the access check, and
zips each file it is given and every object listed under each directory it is given. -/
theorem downloadZip_eq_ok {pathJoin : String → String → String} {accessKey : String}
    {objectAPI : Bool} {decoded : Except String DownloadZipArgs} {token : String}
    {parse : ParseResult} {isAllowed : String → Bool} {listObjects : String → List String}
    {names : List String}
    (h : DownloadZip pathJoin accessKey objectAPI decoded token parse isAllowed listObjects =
      .ok names) :
    ∃ args, decoded = .ok args ∧
      (isAuthTokenValid accessKey token parse = true ∨
        ∀ object ∈ args.objects, isAllowed (pathJoin args.pathPrefix object) = true) ∧
      names = args.objects.flatMap fun object =>
        if hasSuffix object "/" then listObjects (pathJoin args.pathPrefix object)
        else [pathJoin args.pathPrefix object] := by
  unfold DownloadZip at h
  split at h
  · exact nomatch h
  cases decoded with
  | error e => exact nomatch h
  | ok args =>
    cases hacc : queryTokenAccess (isAuthTokenValid accessKey token parse)
        (args.objects.all fun object => isAllowed (pathJoin args.pathPrefix object))
    · simp [hacc] at h
    simp only [hacc, Except.ok.injEq] at h
    exact ⟨args, rfl, (queryTokenAccess_ok hacc).imp_right (by simpa using ·), h.symm⟩

/-! ## Access -/

section Owner

variable (accessKey : String)

/-- Every handler serves a request only for the owner's token, or when the policy allows the
anonymous action it checks: `ListObjects` a read or a write at the prefix, `Upload` a write of
the object, `Download` a read of it, `DownloadZip` a read of every name it is given. The
owner-only handlers' `isHTTPRequestValid` passes exactly the owner's token. -/
theorem web_access_owner_or_policy (objectAPI globalWORMEnabled readable writable putAllowed
    getAllowed : Bool) (parse tokenParse : ParseResult) (token : String)
    (listObjects : Except String ListObjectsInfo) (env : UploadEnv)
    (pathJoin : String → String → String) (decoded : Except String DownloadZipArgs)
    (isAllowed : String → Bool) (listAll : String → List String) :
    (isHTTPRequestValid accessKey parse = true ↔ parse = ownerToken accessKey) ∧
    (∀ rep, ListObjects accessKey objectAPI parse readable writable listObjects = .ok rep →
      parse = ownerToken accessKey ∨ (readable = true ∨ writable = true)) ∧
    (Upload accessKey objectAPI globalWORMEnabled parse putAllowed env = .ok () →
      parse = ownerToken accessKey ∨ putAllowed = true) ∧
    (Download accessKey objectAPI token tokenParse getAllowed = .ok () →
      (token ≠ "" ∧ tokenParse = ownerToken accessKey) ∨ getAllowed = true) ∧
    (∀ names, DownloadZip pathJoin accessKey objectAPI decoded token tokenParse isAllowed listAll =
        .ok names →
      (token ≠ "" ∧ tokenParse = ownerToken accessKey) ∨
        ∃ args, decoded = .ok args ∧ ∀ object ∈ args.objects,
          isAllowed (pathJoin args.pathPrefix object) = true) := by
  refine ⟨by simp [isHTTPRequestValid, webRequestAuthenticate_eq_none], fun rep h => ?_, fun h => ?_,
    fun h => ?_, fun names h => ?_⟩
  · -- ListObjects
    cases objectAPI
    · exact nomatch h
    simp only [ListObjects, Bool.not_true, Bool.false_eq_true, if_false] at h
    cases hacc : headerAccess (webRequestAuthenticate accessKey parse) (readable || writable)
    · simp [hacc] at h
    rcases headerAccess_ok hacc with hn | ⟨-, hal⟩
    · exact .inl ((webRequestAuthenticate_eq_none _ _).mp hn)
    · exact .inr (Bool.or_eq_true_iff.mp hal)
  · -- Upload
    rcases headerAccess_ok ((upload_eq_ok_iff _ _ _ _ _ _).mp h).2.1 with hn | ⟨-, hal⟩
    · exact .inl ((webRequestAuthenticate_eq_none _ _).mp hn)
    · exact .inr hal
  · -- Download
    cases objectAPI
    · exact nomatch h
    exact (queryTokenAccess_ok h).imp_left (isAuthTokenValid_iff _ _ _).mp
  · -- DownloadZip
    obtain ⟨args, hdec, hv | hal, -⟩ := downloadZip_eq_ok h
    · exact .inl ((isAuthTokenValid_iff _ _ _).mp hv)
    · exact .inr ⟨args, hdec, hal⟩

end Owner

/-! ## What `DownloadZip` fetches -/

/-- A policy that allows every object under an allowed name, as one whose resources are
`bucket/prefix*` patterns does. -/
def PrefixClosed (isAllowed : String → Bool) : Prop :=
  ∀ p k, isAllowed p = true → p.toList <+: k.toList → isAllowed k = true

/-- A listing that returns only objects under the prefix it is given. -/
def ListsUnder (listObjects : String → List String) : Prop :=
  ∀ p k, k ∈ listObjects p → p.toList <+: k.toList

/-- Every object `DownloadZip` fetches is a file it was given, or lies under a directory it was
given. -/
theorem mem_downloadZip {pathJoin : String → String → String} {args : DownloadZipArgs}
    {listObjects : String → List String} (hlist : ListsUnder listObjects) {k : String}
    (hk : k ∈ args.objects.flatMap fun object =>
      if hasSuffix object "/" then listObjects (pathJoin args.pathPrefix object)
      else [pathJoin args.pathPrefix object]) :
    ∃ object ∈ args.objects, (pathJoin args.pathPrefix object).toList <+: k.toList := by
  obtain ⟨object, hobj, hk⟩ := List.mem_flatMap.mp hk
  refine ⟨object, hobj, ?_⟩
  split at hk
  · exact hlist _ _ hk
  · exact List.mem_singleton.mp hk ▸ List.prefix_refl _

/-- `DownloadZip` checks the policy on the names it is given and fetches every object listed
under a directory name. For an anonymous request every fetched object is allowed when the policy
allows whatever lies under an allowed name; for a policy that allows a directory's name but not
what lies under it, an anonymous request fetches a denied object. -/
theorem downloadZip_fetches_allowed (pathJoin : String → String → String) (accessKey : String)
    (token : String) (tokenParse : ParseResult) :
    (∀ decoded isAllowed listObjects names, ListsUnder listObjects → PrefixClosed isAllowed →
      DownloadZip pathJoin accessKey true decoded token tokenParse isAllowed listObjects =
        .ok names →
      isAuthTokenValid accessKey token tokenParse = true ∨ ∀ k ∈ names, isAllowed k = true) ∧
    ∃ decoded isAllowed listObjects names, ListsUnder listObjects ∧
      DownloadZip pathJoin accessKey true decoded "" tokenParse isAllowed listObjects =
        .ok names ∧ ∃ k ∈ names, isAllowed k = false := by
  refine ⟨fun decoded isAllowed listObjects names hlist hclosed h => ?_, ?_⟩
  · obtain ⟨args, -, hv | hal, rfl⟩ := downloadZip_eq_ok h
    · exact .inl hv
    · refine .inr fun k hk => ?_
      obtain ⟨object, hobj, hpre⟩ := mem_downloadZip hlist hk
      exact hclosed _ _ (hal object hobj) hpre
  · -- the policy allows the directory `d/` only; the listing finds `d/x` under it
    let dir := pathJoin "" "d/"
    refine ⟨.ok ⟨["d/"], "", ""⟩, (· == dir), fun p => [p ++ "x"], [dir ++ "x"],
      fun p k hk => ?_, ?_, dir ++ "x", List.mem_singleton_self _, ?_⟩
    · rw [List.mem_singleton.mp hk]
      show p.data <+: (p ++ "x").data
      rw [String.data_append]
      exact List.prefix_append _ _
    · have hdir : hasSuffix "d/" "/" = true := by decide
      simp [DownloadZip, queryTokenAccess, isAuthTokenValid, hdir, dir]
    · have hlen : (dir ++ "x").length ≠ dir.length := by
        rw [String.length_append, show "x".length = 1 from rfl]; omega
      simpa using fun h => hlen (congrArg String.length h)

end Minio.Web.Access
