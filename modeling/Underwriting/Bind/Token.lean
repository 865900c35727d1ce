import Underwriting.Bind.PolicyClient
import Underwriting.Lib.PyFloat

/-! # The token provider

`ClientCredentialsTokenProvider` of `app/bind/token.py`: a token is fetched with the
client-credentials grant and kept until shortly before it expires. The clock, the
token endpoint and the two cached fields are reached through calls.
-/

namespace Underwriting

open Interleaving (Prog)

/-- `_EXPIRY_SKEW_SECONDS` -/
def expirySkewSeconds : ℚ := 30

/-- `_DEFAULT_TTL_SECONDS`, as a default of `get` -/
def defaultTtlSeconds : Json := .float 300 "300.0"

/-- The arguments of `httpx.post`. -/
structure TokenRequest where
  url : String
  data : List (String × String)
  timeout : ℚ
  deriving DecidableEq

abbrev TokenResponse := PasResponse

/-- The fields that `token` changes: `_cached` and `_expires_at`. -/
structure TokenCache where
  cached : Option String := none
  expiresAt : PyFloat := .finite 0
  deriving DecidableEq

inductive TokenCall where
  /-- `time.monotonic()` -/
  | monotonic
  /-- `httpx.post(...)` -/
  | post (request : TokenRequest)
  | cached
  | expiresAt
  | setCached (token : String)
  | setExpiresAt (time : PyFloat)

def TokenReply : TokenCall → Type
  | .monotonic => ℚ
  | .post _ => TokenResponse
  | .cached => Option String
  | .expiresAt => PyFloat
  | .setCached _ | .setExpiresAt _ => Unit

abbrev TokenProgram := Prog TokenReply PyErr

/-- One call of the token provider. -/
def tokenCall (c : TokenCall) : TokenProgram (TokenReply c) := .perform c

/-- `float(value)`; an int that no double can hold overflows. -/
def floatOf : Json → Except PyErr PyFloat
  | .int n => if |(n : ℚ)| < PyFloat.limit then .ok (.finite n) else .error .overflow
  | .bool b => .ok (.finite (if b then 1 else 0))
  | .float value _ => .ok (.finite value)
  | .str text =>
      match PyFloat.parse text with
      | some value => .ok value
      | none => .error .value
  | .null | .arr _ | .obj _ => .error .type

structure ClientCredentialsTokenProvider where
  tokenUrl : String
  clientId : String
  clientSecret : String
  scope : String := "policy:write"
  timeoutSeconds : ℚ := 10

/-- What `resp.raise_for_status()` does is up to the HTTP client. -/
abbrev StatusCheck := TokenResponse → Except PyErr Unit

/-- The token and the lifetime that a response answers. -/
def readToken (raiseForStatus : StatusCheck) (resp : TokenResponse) : Except PyErr (String × PyFloat) := do
  raiseForStatus resp
  let body ← PolicyClient.json resp
  let accessToken ← item body "access_token"
  let ttl ← floatOf (← get body "expires_in" defaultTtlSeconds)
  return (accessToken.toText, ttl)

namespace ClientCredentialsTokenProvider

variable (self : ClientCredentialsTokenProvider) (raiseForStatus : StatusCheck)

def request : TokenRequest where
  url := self.tokenUrl
  data := [("grant_type", "client_credentials"), ("client_id", self.clientId),
    ("client_secret", self.clientSecret), ("scope", self.scope)]
  timeout := self.timeoutSeconds

/-- `token` from the post on. -/
def fetch (now : ℚ) : TokenProgram String := do
  let resp ← tokenCall (.post self.request)
  let (accessToken, ttl) ← Prog.ofExcept (readToken raiseForStatus resp)
  tokenCall (.setCached accessToken)
  tokenCall (.setExpiresAt ((PyFloat.finite now).add ttl))
  return accessToken

def token : TokenProgram String := do
  let now ← tokenCall .monotonic
  match ← tokenCall .cached with
  | some cached =>
      let expiresAt ← tokenCall .expiresAt
      if (PyFloat.finite now).lt (expiresAt.sub (.finite expirySkewSeconds)) then return cached
      else self.fetch raiseForStatus now
  | none => self.fetch raiseForStatus now

end ClientCredentialsTokenProvider

/-! ## One call -/

/-- What one call of `token` meets: the reading of the clock, and what a post comes to. -/
structure Visit where
  now : ℚ
  answer : Except PyErr TokenResponse

structure TokenWorld where
  cache : TokenCache
  posts : List TokenRequest

def Visit.serve (visit : Visit) (world : TokenWorld) : (c : TokenCall) → Except PyErr (TokenReply c) × TokenWorld
  | .monotonic => (.ok visit.now, world)
  | .post request => (visit.answer, { world with posts := world.posts ++ [request] })
  | .cached => (.ok world.cache.cached, world)
  | .expiresAt => (.ok world.cache.expiresAt, world)
  | .setCached token => (.ok (), { world with cache := { world.cache with cached := some token } })
  | .setExpiresAt time => (.ok (), { world with cache := { world.cache with expiresAt := time } })

/-- What a call of `token` returns or raises, and the posts it makes. -/
structure TokenOutcome where
  result : Except PyErr String
  posts : List TokenRequest

/-- The kept token, while it is good for more than the skew. -/
def TokenCache.Holds (cache : TokenCache) (now : ℚ) (token : String) : Prop :=
  cache.cached = some token ∧ (PyFloat.finite now).lt (cache.expiresAt.sub (.finite expirySkewSeconds))

namespace ClientCredentialsTokenProvider

variable (self : ClientCredentialsTokenProvider) (raiseForStatus : StatusCheck)

/-- One call of `token` and the cache after it. -/
def answer (cache : TokenCache) (visit : Visit) : TokenOutcome × TokenCache :=
  let (result, world) := (self.token raiseForStatus).runIn visit.serve ⟨cache, []⟩
  (⟨result, world.posts⟩, world.cache)

/-- The ways a call can go. -/
inductive Answered (cache : TokenCache) (visit : Visit) : TokenOutcome × TokenCache → Prop where
  | served {token} (holds : cache.Holds visit.now token) : Answered cache visit (⟨.ok token, []⟩, cache)
  | fetched {token lifetime} (stale : ∀ held, ¬cache.Holds visit.now held)
      (read : visit.answer >>= readToken raiseForStatus = .ok (token, lifetime)) :
      Answered cache visit (⟨.ok token, [self.request]⟩, ⟨some token, (PyFloat.finite visit.now).add lifetime⟩)
  | failed {err} (stale : ∀ held, ¬cache.Holds visit.now held)
      (read : visit.answer >>= readToken raiseForStatus = .error err) :
      Answered cache visit (⟨.error err, [self.request]⟩, cache)

variable {cache : TokenCache} {visit : Visit}

/-- A fetch sets both fields or none. -/
theorem fetch_cases (stale : ∀ held, ¬cache.Holds visit.now held) {result : Except PyErr String} {world : TokenWorld}
    (ran : (self.fetch raiseForStatus visit.now).runIn visit.serve ⟨cache, []⟩ = (result, world)) :
    self.Answered raiseForStatus cache visit (⟨result, world.posts⟩, world.cache) := by
  have posted : (tokenCall (.post self.request)).runIn visit.serve ⟨cache, []⟩ =
      (visit.answer, ⟨cache, [self.request]⟩) := Prog.runIn_perform _ _
  rw [fetch] at ran
  cases response : visit.answer with
  | error err =>
      rw [response] at posted
      cases (Prog.runIn_bind_error posted).symm.trans ran
      apply Answered.failed stale
      rw [response]
      rfl
  | ok resp =>
      rw [response] at posted
      rw [Prog.runIn_bind_ok posted] at ran
      have read : visit.answer >>= readToken raiseForStatus = readToken raiseForStatus resp := by
        rw [response]
        rfl
      cases granted : readToken raiseForStatus resp with
      | error err =>
          rw [granted] at ran
          cases ran
          exact .failed stale (read.trans granted)
      | ok =>
          rw [granted] at ran
          cases ran
          exact .fetched stale (read.trans granted)

theorem answer_cases (cache : TokenCache) (visit : Visit) :
    self.Answered raiseForStatus cache visit (self.answer raiseForStatus cache visit) := by
  rw [answer]
  generalize ran : (self.token raiseForStatus).runIn visit.serve ⟨cache, []⟩ = ended
  obtain ⟨result, world⟩ := ended
  obtain ⟨cached, expiresAt⟩ := cache
  cases cached with
  | none =>
      apply self.fetch_cases raiseForStatus ?_ ran
      rintro held ⟨same, -⟩
      cases same
  | some token =>
      change (ite ((PyFloat.finite visit.now).lt (expiresAt.sub (.finite expirySkewSeconds)) = true)
        (pure token) (self.fetch raiseForStatus visit.now)).runIn visit.serve _ = _ at ran
      split at ran
      · rename_i fresh
        cases ran
        exact .served ⟨rfl, fresh⟩
      · rename_i stale
        exact self.fetch_cases raiseForStatus (fun held holds => stale holds.2) ran

end ClientCredentialsTokenProvider

end Underwriting
