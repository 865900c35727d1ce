import Underwriting.Bind.HttpClient
import Underwriting.Machine.Steps

/-! # The service over its HTTP client

The write routes with the policy client's own calls in place of `policyService`: the
clock, the token endpoint and the policy service behind a URL. A thread holds its
transaction and, for the provider made for its request, a token cache. The policy
service sees HTTP requests, tokens included.
-/

namespace Underwriting

open Interleaving

/-- A policy service as an HTTP server, and what its own users do. -/
structure HttpPas (σ φ υ : Type) where
  serve : σ → HttpRequest → φ → Option (Except PyErr PasResponse × σ)
  act : σ → υ → σ

/-- What a thread keeps to itself. -/
structure StackSession where
  pending : Db
  cache : TokenCache

/-- What a request of the services comes to: an exception before it is sent, or the
    token it bears and what the policy service does. -/
abbrev Sending (φ : Type) := Except PyErr (String × φ)

inductive StackFate (φ : Type) where
  | service (fate : Fate (Sending φ))
  | monotonic (now : ℚ)
  /-- What a post to the token endpoint comes to. -/
  | token (answer : Except PyErr TokenResponse)
  /-- A field of the provider is read or set. -/
  | field
  | http (choice : φ)

section Definitions

variable {σ φ υ : Type} (client : HttpPolicyServiceClient) (raiseForStatus : StatusCheck) (H : HttpPas σ φ υ)

/-- The policy service as the services know it. -/
def HttpPolicyServiceClient.viaHttp : PasModel σ (Sending φ) υ where
  serve s request
    | .error err => some (.error err, s)
    | .ok (token, choice) =>
        H.serve s (client.requestOf request (HttpPolicyServiceClient.headersOf token)) choice
  act := H.act

/-- One call to the token provider's surroundings. -/
def handleToken (cache : TokenCache) : (c : TokenCall) → StackFate φ → Option (Except PyErr (TokenReply c) × TokenCache)
  | .monotonic, .monotonic now => some (.ok now, cache)
  | .post _, .token answer => some (answer, cache)
  | .cached, .field => some (.ok cache.cached, cache)
  | .expiresAt, .field => some (.ok cache.expiresAt, cache)
  | .setCached token, .field => some (.ok (), { cache with cached := some token })
  | .setExpiresAt time, .field => some (.ok (), { cache with expiresAt := time })
  | _, _ => none

def handleStack (w : World σ) (session : StackSession) :
    (c : StackCall) → StackFate φ → Option (Except PyErr (StackReply c) × World σ × StackSession)
  | .service (.policyService _), _ => none
  | .service c, .service fate =>
      (handle (client.viaHttp H) w session.pending c fate).map fun (answer, w, pending) =>
        (answer, w, { session with pending })
  | .client (.token c), fate =>
      (handleToken session.cache c fate).map fun (answer, cache) => (answer, w, { session with cache })
  | .client (.http request), .http choice =>
      (H.serve w.pas request choice).map fun (answer, pas) => (answer, { w with pas := pas }, session)
  | _, _ => none

def stack : Backend StackReply PyErr (World σ) StackSession (StackFate φ) (Env υ) where
  fresh := ⟨.empty, {}⟩
  handle := handleStack client H
  disturb := disturb (client.viaHttp H)

/-- One thread's calls of the provider move its own cache only. -/
theorem token_silent (c : TokenCall) : Silent (stack client H) StackSession.pending (.client (.token c)) := by
  intro world session fate answer world' session' handled
  obtain ⟨⟨_, cache⟩, _, same⟩ := Option.map_eq_some_iff.mp handled
  cases same
  exact ⟨rfl, rfl⟩

/-- A call that is not for the policy service goes to the world as it is. -/
theorem handleStack_service {w w' : World σ} {session session' : StackSession} {c : Call} {fate : StackFate φ}
    {answer : Except PyErr (Reply c)} (other : c.kind ≠ .policyService)
    (handled : handleStack client H w session (.service c) fate = some (answer, w', session')) :
    ∃ given, handle (client.viaHttp H) w session.pending c given = some (answer, w', session'.pending) := by
  have served : ∀ given, (handle (client.viaHttp H) w session.pending c given).map (fun (answer, w, pending) =>
      ((answer, w, { session with pending }) : Except PyErr (Reply c) × World σ × StackSession)) =
        some (answer, w', session') →
      handle (client.viaHttp H) w session.pending c given = some (answer, w', session'.pending) := by
    intro given found
    obtain ⟨⟨_, _, _⟩, inner, same⟩ := Option.map_eq_some_iff.mp found
    cases same
    exact inner
  cases fate with
  | service given =>
      refine ⟨given, served given ?_⟩
      cases c with
      | policyService => exact absurd rfl other
      | _ => exact handled
  | _ => cases c <;> cases handled

/-- A call of the services itself. -/
theorem service_realised {c : Call} (other : c.kind ≠ .policyService) :
    Realises (backend (client.viaHttp H)) (stack client H) StackSession.pending c (stackCall (.service c)) := by
  intro answer
  refine ⟨by cases answer <;> trivial, fun world session fate world' session' handled => ?_⟩
  cases answer with
  | ok value => exact handleStack_service client H other handled
  | error err => exact handleStack_service client H other handled

variable {client H} in
/-- A request is served as it is sent. -/
theorem http_realised (request : PasRequest) (token : String) :
    Realises (backend (client.viaHttp H)) (stack client H) StackSession.pending (.policyService request)
      (ofClient (clientCall (.http (client.requestOf request (HttpPolicyServiceClient.headersOf token))))) := by
  have served : ∀ {world session fate answer world' session'},
      handleStack client H world session
        (.client (.http (client.requestOf request (HttpPolicyServiceClient.headersOf token)))) fate =
          some (answer, world', session') →
      ∃ given, handle (client.viaHttp H) world session.pending (.policyService request) given =
        some (answer, world', session'.pending) := by
    intro world session fate answer world' session' handled
    cases fate with
    | http choice =>
        obtain ⟨⟨_, _⟩, found, same⟩ := Option.map_eq_some_iff.mp handled
        cases same
        refine ⟨.pas (.ok (token, choice)), Option.map_eq_some_iff.mpr ⟨_, found, rfl⟩⟩
    | _ => cases handled
  intro answer
  refine ⟨by cases answer <;> trivial, fun world session fate world' session' handled => ?_⟩
  cases answer with
  | ok value => exact served handled
  | error err => exact served handled

/-- The token provider is asked first, and may fail. -/
theorem httpx_realised (request : PasRequest) :
    Realises (backend (client.viaHttp H)) (stack client H) StackSession.pending (.policyService request)
      (client.impl raiseForStatus (.policyService request)) := by
  rw [HttpPolicyServiceClient.impl_policyService]
  refine realises_silent ?_ (fun token => ⟨rfl, http_realised request token⟩) ?_
  · exact Prog.calls_rename (Prog.calls_rename (Prog.calls_of_forall (token_silent client H) _))
  · exact fun err world session => ⟨.pas (.error err), rfl⟩

/-- The client's requests implement those of the services: the policy service does
    what it does for a request when the client's last call is answered. -/
def HttpPolicyServiceClient.stacked :
    Implementation (backend (client.viaHttp H)) (stack client H) StackSession.pending where
  impl := client.impl raiseForStatus
  calls c := by cases c <;> rfl
  realises c := by
    cases c with
    | policyService request => exact httpx_realised client raiseForStatus H request
    | _ => exact service_realised client H fun same => by cases same
  fresh := rfl
  disturb := rfl

/-- The routes over the client. -/
def stackRequests : Control StackReply PyErr Request (StackProgram Answer) :=
  programs (fun req => (route req).interpret (client.impl raiseForStatus)) .died

end Definitions

abbrev StackSys (σ : Type) := Sys StackReply Request (World σ) StackSession (StackProgram Answer)

end Underwriting
