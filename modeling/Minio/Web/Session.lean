import Minio.Web.Access
/-!
# Browser sessions

`Login` checks the credentials it is given against the server's and returns a JWT for the
access key, signed with the server's secret key and valid for 24 hours. `SetAuth`, for the
owner, replaces the server's credentials, restores the old ones when they cannot be saved, and
returns a token for the new ones. A handler accepts a token as the owner's when its signature
verifies under the current secret key, it has not expired, and its subject is the current
access key.

* `login_token_accepted`: `Login` succeeds exactly for the server's credentials, and its token
  is accepted as the owner's until it expires, and refused from then on.
* `setAuth_rotates`: `SetAuth` changes the credentials only for the owner's request and only to
  the requested ones; a refused or failed call, or one with credentials from the environment
  or with WORM enabled, leaves them. After a change of secret every token signed before is
  refused. The token `SetAuth` returns lasts 100 years, the inter-node expiry, where `Login`'s
  lasts 24 hours.
* `urlToken_renewal`: a one-minute URL token from `CreateURLToken` is the owner's token for every
  owner-only handler until it expires, `GetAuth`, which returns the secret key, included; renewed
  through `CreateURLToken` at most a minute apart, it keeps the owner's access indefinitely.

The JWT library and `auth.CreateCredentials` are not in the source. The signature is taken as
ideal: a token verifies under a key exactly when it was signed with it. Times are Unix seconds.
The lines of the handlers are those of `gateway/b2/gateway-b2_test.go`.
-/

namespace Minio.Web.Session

open Minio.Web.Access

/-- `auth.Credentials` -/
structure Credentials where
  accessKey : String
  secretKey : String
  deriving DecidableEq, Repr

/-- `defaultJWTExpiry` (jwt.go, line 36), in seconds. -/
def defaultJWTExpiry : Int := 24 * 60 * 60

/-- `defaultInterNodeJWTExpiry` (jwt.go, line 39), in seconds. -/
def defaultInterNodeJWTExpiry : Int := 100 * 365 * 24 * 60 * 60

/-- A JWT the server signs: its `Subject`, its `ExpiresAt`, and the key of its signature. -/
structure Token where
  subject : String
  expiresAt : Int
  signingKey : String
  deriving DecidableEq, Repr

/-- `StandardClaims.VerifyExpiresAt(now, false)`: no expiry, or `now` not past it. -/
def notExpired (now : Int) (token : Token) : Bool := token.expiresAt = 0 || now ≤ token.expiresAt

/-- The parse of a request's token at time `now` under the server's credentials, with
`keyFuncCallback`: a signature made with another key, or an expired token, is a parse error. -/
def parseRequest (cred : Credentials) (now : Int) : Option Token → ParseResult
  | none => .noTokenInRequest
  | some token =>
    if token.signingKey = cred.secretKey ∧ notExpired now token then .parsed true true token.subject
    else .parseError

/-- `auth.CreateCredentials(accessKey, secretKey)`, not in the source: the credentials, unless
`validate` (its checks of the keys) reports an error. -/
def createCredentials (validate : String → String → Option String) (accessKey secretKey : String) :
    Except String Credentials :=
  match validate accessKey secretKey with
  | some e => .error e
  | none => .ok ⟨accessKey, secretKey⟩

/-- `authenticateJWT(accessKey, secretKey, expiry)` (jwt.go, lines 52-73) at time `now`. -/
def authenticateJWT (validate : String → String → Option String) (serverCred : Credentials)
    (now : Int) (accessKey secretKey : String) (expiry : Int) : Except WebErr Token :=
  match createCredentials validate accessKey secretKey with
  | .error e => .error (.other e)
  | .ok passedCredential =>
    if serverCred.accessKey ≠ passedCredential.accessKey then .error .invalidAccessKeyID
    else if serverCred ≠ passedCredential then .error .authentication
    else .ok ⟨accessKey, now + expiry, serverCred.secretKey⟩

/-- `Login` (lines 661-671): `authenticateWeb(username, password)`, the 24-hour token. -/
def Login (validate : String → String → Option String) (serverCred : Credentials) (now : Int)
    (username password : String) : Except WebErr Token :=
  authenticateJWT validate serverCred now username password defaultJWTExpiry

/-- `newAuthToken()` (jwt.go, lines 140-145): `authenticateNode` with the server's credentials;
`none` is the fatal exit of `CriticalIf` on an error. -/
def newAuthToken (validate : String → String → Option String) (serverCred : Credentials)
    (now : Int) : Option Token :=
  match authenticateJWT validate serverCred now serverCred.accessKey serverCred.secretKey
      defaultInterNodeJWTExpiry with
  | .ok token => some token
  | .error _ => none

/-- `SetAuthArgs` -/
structure SetAuthArgs where
  accessKey : String
  secretKey : String
  deriving DecidableEq, Repr

/-- What a successful `SetAuth` replies: the token for the new credentials, or the messages of
the peers that could not take them. -/
inductive SetAuthReply where
  | token (token : Option Token)
  | peerErrMsgs (msgs : List (String × String))
  deriving DecidableEq, Repr

/-- `SetAuth` (lines 707-749) on the server's credentials: `header` is the request's token,
`saveErr` the error of saving the config, and `peerErrs` the errors of the peers, by host. -/
def SetAuth (validate : String → String → Option String) (cred : Credentials) (now : Int)
    (header : Option Token) (globalIsEnvCreds globalWORMEnabled : Bool) (args : SetAuthArgs)
    (saveErr : Option String) (peerErrs : List (String × String)) :
    Credentials × Except WebErr SetAuthReply :=
  if !isHTTPRequestValid cred.accessKey (parseRequest cred now header) then
    (cred, .error .authentication)
  else if globalIsEnvCreds || globalWORMEnabled then (cred, .error .changeCredNotAllowed)
  else match createCredentials validate args.accessKey args.secretKey with
    | .error e => (cred, .error (.other e))
    | .ok creds =>
      match saveErr with
      | some e => (cred, .error (.other e))
      | none =>
        if peerErrs.isEmpty then (creds, .ok (.token (newAuthToken validate creds now)))
        else (creds, .ok (.peerErrMsgs (peerErrs.map fun (host, err) =>
          (host, "Unable to update credentials on server " ++ host ++ ": " ++ err))))

/-- `defaultURLJWTExpiry` (jwt.go, line 42), in seconds. -/
def defaultURLJWTExpiry : Int := 60

/-- `CreateURLToken` (lines 778-793): for the owner's request, `authenticateURL` with the server's
credentials, a token for one minute. -/
def CreateURLToken (validate : String → String → Option String) (cred : Credentials) (now : Int)
    (header : Option Token) : Except WebErr Token :=
  if !isHTTPRequestValid cred.accessKey (parseRequest cred now header) then .error .authentication
  else authenticateJWT validate cred now cred.accessKey cred.secretKey defaultURLJWTExpiry

/-- `GetAuth` (lines 760-770): the server's credentials, for the owner's request. -/
def GetAuth (cred : Credentials) (now : Int) (header : Option Token) : Except WebErr Credentials :=
  if !isHTTPRequestValid cred.accessKey (parseRequest cred now header) then .error .authentication
  else .ok cred

/-! ## Tokens -/

/-- A token signed with the current secret, for the current access key, is the owner's until it
expires, when its expiry is positive. -/
theorem webRequestAuthenticate_signed (cred : Credentials) (t : Int) (token : Token)
    (hkey : token.signingKey = cred.secretKey) (hsubject : token.subject = cred.accessKey)
    (hpos : 0 < token.expiresAt) :
    webRequestAuthenticate cred.accessKey (parseRequest cred t (some token)) = none ↔
      t ≤ token.expiresAt := by
  rw [webRequestAuthenticate_eq_none]
  by_cases ht : t ≤ token.expiresAt
  · simp [parseRequest, notExpired, hkey, hsubject, ht, ownerToken]
  · have h0 : token.expiresAt ≠ 0 := by omega
    simp [parseRequest, notExpired, hkey, ht, h0, ownerToken]

/-- A token signed with another key than the current secret is refused. -/
theorem webRequestAuthenticate_other_key (cred : Credentials) (t : Int) (token : Token)
    (hkey : token.signingKey ≠ cred.secretKey) :
    webRequestAuthenticate cred.accessKey (parseRequest cred t (some token)) =
      some .authentication := by
  simp [parseRequest, hkey, webRequestAuthenticate]

/-- `authenticateJWT` succeeds exactly for the server's credentials, with a token for them
signed with the server's secret. -/
theorem authenticateJWT_eq_ok (validate : String → String → Option String)
    (serverCred : Credentials) (now : Int) (accessKey secretKey : String) (expiry : Int)
    (token : Token) :
    authenticateJWT validate serverCred now accessKey secretKey expiry = .ok token ↔
      validate accessKey secretKey = none ∧ serverCred = ⟨accessKey, secretKey⟩ ∧
        token = ⟨serverCred.accessKey, now + expiry, serverCred.secretKey⟩ := by
  unfold authenticateJWT createCredentials
  cases hv : validate accessKey secretKey with
  | some e => simp
  | none =>
    by_cases hcred : serverCred = ⟨accessKey, secretKey⟩
    · subst hcred
      simp [eq_comm]
    · have : ¬(serverCred.accessKey = accessKey ∧ serverCred.secretKey = secretKey) := fun h =>
        hcred (by cases serverCred; simp_all)
      by_cases ha : serverCred.accessKey = accessKey <;> simp_all

/-- `Login` succeeds exactly for the server's credentials; its token is accepted as the
owner's up to 24 hours after the login, and refused from then on, while the credentials stay. -/
theorem login_token_accepted (validate : String → String → Option String) (cred : Credentials)
    (now : Int) (username password : String) (token : Token) (hnow : 0 ≤ now) :
    (Login validate cred now username password = .ok token ↔
      validate username password = none ∧ cred = ⟨username, password⟩ ∧
        token = ⟨cred.accessKey, now + defaultJWTExpiry, cred.secretKey⟩) ∧
    (Login validate cred now username password = .ok token → ∀ t,
      webRequestAuthenticate cred.accessKey (parseRequest cred t (some token)) = none ↔
        t ≤ now + defaultJWTExpiry) := by
  refine ⟨authenticateJWT_eq_ok _ _ _ _ _ _ _, fun h t => ?_⟩
  obtain ⟨-, -, rfl⟩ := (authenticateJWT_eq_ok _ _ _ _ _ _ _).mp h
  exact webRequestAuthenticate_signed cred t _ rfl rfl (by simp only [defaultJWTExpiry]; omega)

/-- Logging in at time 0 with the server's credentials: the token is the owner's at
`defaultJWTExpiry` seconds. -/
theorem login_token_accepted_at_expiry :
    (0 : Int) ≤ 0 ∧
    webRequestAuthenticate "admin" (parseRequest ⟨"admin", "password"⟩ defaultJWTExpiry
      (some ⟨"admin", defaultJWTExpiry, "password"⟩)) = none :=
  ⟨Int.le_refl 0, ((login_token_accepted (fun _ _ => none) ⟨"admin", "password"⟩ 0 "admin" "password"
    ⟨"admin", defaultJWTExpiry, "password"⟩ (Int.le_refl 0)).2 (by simp [Login, authenticateJWT,
    createCredentials]) defaultJWTExpiry).mpr (by simp)⟩

/-! ## Changing the credentials -/

section SetAuth

variable (validate : String → String → Option String) (cred : Credentials) (now : Int)
  (header : Option Token) (globalIsEnvCreds globalWORMEnabled : Bool) (args : SetAuthArgs)
  (saveErr : Option String) (peerErrs : List (String × String))

/-- How a `SetAuth` call ends: with an error and the credentials as they were, or, for the
owner's request without environment credentials or WORM, with credentials that pass validation
and are saved, with the requested credentials and the token for them or the peers' errors. -/
theorem setAuth_cases {cred' : Credentials} {r : Except WebErr SetAuthReply}
    (hset : SetAuth validate cred now header globalIsEnvCreds globalWORMEnabled args saveErr
      peerErrs = (cred', r)) :
    (cred' = cred ∧ ∃ e, r = .error e) ∨
    (parseRequest cred now header = ownerToken cred.accessKey ∧ globalIsEnvCreds = false ∧
      globalWORMEnabled = false ∧ validate args.accessKey args.secretKey = none ∧
      saveErr = none ∧ cred' = ⟨args.accessKey, args.secretKey⟩ ∧
      r = .ok (if peerErrs.isEmpty then .token (newAuthToken validate cred' now)
        else .peerErrMsgs (peerErrs.map fun (host, err) =>
          (host, "Unable to update credentials on server " ++ host ++ ": " ++ err)))) := by
  unfold SetAuth at hset
  cases hvalid : isHTTPRequestValid cred.accessKey (parseRequest cred now header)
  · simp only [hvalid, Bool.not_false, if_true] at hset
    obtain ⟨rfl, rfl⟩ := Prod.mk.inj hset
    exact .inl ⟨rfl, _, rfl⟩
  have howner : parseRequest cred now header = ownerToken cred.accessKey := by
    simpa [isHTTPRequestValid, webRequestAuthenticate_eq_none] using hvalid
  simp only [hvalid, Bool.not_true, Bool.false_eq_true, if_false] at hset
  cases globalIsEnvCreds <;> cases globalWORMEnabled <;>
    simp only [Bool.or_true, Bool.or_false, Bool.false_eq_true, if_true, if_false] at hset
  unfold createCredentials at hset
  cases hv : validate args.accessKey args.secretKey <;> cases saveErr <;>
    simp only [hv] at hset
  -- every refusal keeps the credentials and returns an error
  all_goals try (obtain ⟨rfl, rfl⟩ := Prod.mk.inj hset; exact .inl ⟨rfl, _, rfl⟩)
  refine .inr ⟨howner, rfl, rfl, rfl, rfl, ?_⟩
  split at hset <;> obtain ⟨rfl, rfl⟩ := Prod.mk.inj hset <;> simp [*]

/-- `SetAuth` changes the credentials only for the owner's request, without environment
credentials or WORM, and only to the requested ones once saved; a call that returns an error
leaves them. After a change of the secret key every token signed with the old one is refused.
A token it returns is signed with the new secret, accepted at once, and expires 100 years on. -/
theorem setAuth_rotates {cred' : Credentials} {r : Except WebErr SetAuthReply}
    (hset : SetAuth validate cred now header globalIsEnvCreds globalWORMEnabled args saveErr
      peerErrs = (cred', r)) (hnow : 0 ≤ now) :
    (cred' ≠ cred → parseRequest cred now header = ownerToken cred.accessKey ∧
      globalIsEnvCreds = false ∧ globalWORMEnabled = false ∧
      cred' = ⟨args.accessKey, args.secretKey⟩) ∧
    (∀ e, r = .error e → cred' = cred) ∧
    (cred'.secretKey ≠ cred.secretKey → ∀ token t, token.signingKey = cred.secretKey →
      webRequestAuthenticate cred'.accessKey (parseRequest cred' t (some token)) =
        some .authentication) ∧
    (∀ token, r = .ok (.token (some token)) →
      token = ⟨cred'.accessKey, now + defaultInterNodeJWTExpiry, cred'.secretKey⟩ ∧
      webRequestAuthenticate cred'.accessKey (parseRequest cred' now (some token)) = none) := by
  have hcases := setAuth_cases validate cred now header globalIsEnvCreds globalWORMEnabled args
    saveErr peerErrs hset
  refine ⟨fun hne => ?_, fun e he => ?_, fun hsec token t hkey => ?_, fun token hr => ?_⟩
  · obtain ⟨h, -⟩ | ⟨h₁, h₂, h₃, -, -, h₄, -⟩ := hcases
    · exact absurd h hne
    · exact ⟨h₁, h₂, h₃, h₄⟩
  · obtain ⟨h, -⟩ | ⟨-, -, -, -, -, -, hr⟩ := hcases
    · exact h
    · exact nomatch hr.symm.trans he
  · exact webRequestAuthenticate_other_key cred' t token (hkey ▸ fun h => hsec h.symm)
  · -- only the owner's saved change with no peer error replies with a token
    obtain ⟨-, hr'⟩ | ⟨-, -, -, hv, -, rfl, hr'⟩ := hcases
    · obtain ⟨e, rfl⟩ := hr'
      exact nomatch hr
    have htoken : newAuthToken validate ⟨args.accessKey, args.secretKey⟩ now =
        some ⟨args.accessKey, now + defaultInterNodeJWTExpiry, args.secretKey⟩ := by
      simp [newAuthToken, authenticateJWT, createCredentials, hv]
    by_cases hp : peerErrs.isEmpty
    · rw [hr', if_pos hp, htoken] at hr
      cases hr
      refine ⟨rfl, (webRequestAuthenticate_signed _ now _ rfl rfl ?_).mpr ?_⟩ <;>
        simp only [defaultInterNodeJWTExpiry] <;> omega
    · rw [hr', if_neg hp] at hr
      exact nomatch hr

end SetAuth

/-- The owner, logged in at time 0, changes the secret: the new token is accepted, and the
login's token is refused. -/
theorem setAuth_rotates_new_secret :
    SetAuth (fun _ _ => none) ⟨"admin", "password"⟩ 0 (some ⟨"admin", defaultJWTExpiry, "password"⟩)
        false false ⟨"admin", "secret12"⟩ none [] =
      (⟨"admin", "secret12"⟩,
        .ok (.token (some ⟨"admin", defaultInterNodeJWTExpiry, "secret12"⟩))) ∧
    (0 : Int) ≤ 0 ∧
    webRequestAuthenticate "admin" (parseRequest ⟨"admin", "secret12"⟩ 0
      (some ⟨"admin", defaultJWTExpiry, "password"⟩)) = some .authentication := by
  have hset : SetAuth (fun _ _ => none) ⟨"admin", "password"⟩ 0
      (some ⟨"admin", defaultJWTExpiry, "password"⟩) false false ⟨"admin", "secret12"⟩ none [] =
      (⟨"admin", "secret12"⟩,
        .ok (.token (some ⟨"admin", defaultInterNodeJWTExpiry, "secret12"⟩))) := by
    simp [SetAuth, isHTTPRequestValid, parseRequest, notExpired, webRequestAuthenticate,
      defaultJWTExpiry, createCredentials, newAuthToken, authenticateJWT]
  exact ⟨hset, Int.le_refl 0, (setAuth_rotates _ _ _ _ _ _ _ _ _ hset (Int.le_refl 0)).2.2.1
    (by decide) _ 0 rfl⟩

/-! ## URL tokens -/

/-- A holder of `token` calls `CreateURLToken` at each of `times` in turn, with the token it got
last in its `Authorization` header. -/
def renewURLToken (validate : String → String → Option String) (cred : Credentials)
    (token : Token) : List Int → Except WebErr Token
  | [] => .ok token
  | t :: times =>
    match CreateURLToken validate cred t (some token) with
    | .ok token' => renewURLToken validate cred token' times
    | .error e => .error e

/-- The URL token issued at `s`, for the server's credentials. -/
theorem urlToken_owner (validate : String → String → Option String) (cred : Credentials)
    (hvalid : validate cred.accessKey cred.secretKey = none) (s t : Int) (hs : 0 ≤ s)
    (hts : t ≤ s + defaultURLJWTExpiry) :
    GetAuth cred t (some ⟨cred.accessKey, s + defaultURLJWTExpiry, cred.secretKey⟩) = .ok cred ∧
      CreateURLToken validate cred t (some ⟨cred.accessKey, s + defaultURLJWTExpiry, cred.secretKey⟩) =
        .ok ⟨cred.accessKey, t + defaultURLJWTExpiry, cred.secretKey⟩ := by
  have howner : isHTTPRequestValid cred.accessKey
      (parseRequest cred t (some ⟨cred.accessKey, s + defaultURLJWTExpiry, cred.secretKey⟩)) := by
    rw [isHTTPRequestValid, Option.isNone_iff_eq_none,
      webRequestAuthenticate_signed cred t _ rfl rfl (by simp only [defaultURLJWTExpiry]; omega)]
    exact hts
  refine ⟨by simp [GetAuth, howner], ?_⟩
  simp only [CreateURLToken, howner, Bool.not_true, Bool.false_eq_true, if_false]
  exact (authenticateJWT_eq_ok _ _ _ _ _ _ _).mpr ⟨hvalid, rfl, rfl⟩

/-- Renewals at most a minute apart each get a fresh URL token: the last lasts a minute past the
last renewal. -/
theorem renewURLToken_chain (validate : String → String → Option String) (cred : Credentials)
    (hvalid : validate cred.accessKey cred.secretKey = none) :
    ∀ s (times : List Int), 0 ≤ s → times.Chain (fun s t => s ≤ t ∧ t ≤ s + defaultURLJWTExpiry) s →
      renewURLToken validate cred ⟨cred.accessKey, s + defaultURLJWTExpiry, cred.secretKey⟩ times =
        .ok ⟨cred.accessKey, times.getLast?.getD s + defaultURLJWTExpiry, cred.secretKey⟩
  | _, [], _, _ => rfl
  | s, t :: times, hs, hchain => by
    obtain ⟨⟨hst, hts⟩, hchain⟩ := List.chain_cons.mp hchain
    rw [renewURLToken, (urlToken_owner validate cred hvalid s t hs hts).2]
    simpa [List.getLast?_cons] using
      renewURLToken_chain validate cred hvalid t times (Int.le_trans hs hst) hchain

/-- A token `CreateURLToken` returns, meant to sit in a download link for a minute, is taken as
the owner's by every owner-only handler until that minute is over: `GetAuth` returns the credentials,
secret key included, to its holder, and `CreateURLToken` a fresh URL token. A holder that
renews it at most a minute apart keeps the owner's access for as long as it goes on. -/
theorem urlToken_renewal (validate : String → String → Option String) (cred : Credentials) :
    (∀ s t, validate cred.accessKey cred.secretKey = none → 0 ≤ s → t ≤ s + defaultURLJWTExpiry →
      GetAuth cred t (some ⟨cred.accessKey, s + defaultURLJWTExpiry, cred.secretKey⟩) = .ok cred ∧
      CreateURLToken validate cred t (some ⟨cred.accessKey, s + defaultURLJWTExpiry, cred.secretKey⟩) =
        .ok ⟨cred.accessKey, t + defaultURLJWTExpiry, cred.secretKey⟩) ∧
    ∀ s (times : List Int), validate cred.accessKey cred.secretKey = none → 0 ≤ s →
      times.Chain (fun s t => s ≤ t ∧ t ≤ s + defaultURLJWTExpiry) s →
      renewURLToken validate cred ⟨cred.accessKey, s + defaultURLJWTExpiry, cred.secretKey⟩ times =
        .ok ⟨cred.accessKey, times.getLast?.getD s + defaultURLJWTExpiry, cred.secretKey⟩ :=
  ⟨fun s t hvalid hs hts => urlToken_owner validate cred hvalid s t hs hts,
    fun s times hvalid => renewURLToken_chain validate cred hvalid s times⟩

/-- A URL token of time 0, renewed at seconds 50, 100 and 150, lasts until second 210. -/
example : renewURLToken (fun _ _ => none) ⟨"admin", "password"⟩ ⟨"admin", 60, "password"⟩
    [50, 100, 150] = .ok ⟨"admin", 210, "password"⟩ := rfl

end Minio.Web.Session
