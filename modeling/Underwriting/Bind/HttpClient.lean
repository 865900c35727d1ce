import Underwriting.Bind.Token
import Underwriting.Lib.Interpret

/-! # The policy client over its token provider

`HttpPolicyServiceClient` of `app/bind/policy_client.py` with the requests it sends:
their urls, bodies and headers. Every request asks the token provider for a token
first. `app/api/deps.py` makes a client and a provider for each request to the
service, so a provider's cache lives as long as one bind.
-/

namespace Underwriting

open Interleaving

inductive HttpMethod where
  | get | post
  deriving DecidableEq, Repr

/-- The arguments of `httpx.get` or `httpx.post`. -/
structure HttpRequest where
  method : HttpMethod
  url : String
  params : List (String × String) := []
  json : Option Json := none
  headers : List (String × String)
  timeout : ℚ

/-- What a client calls: its token provider, and the policy service. -/
inductive ClientCall where
  | token (c : TokenCall)
  | http (request : HttpRequest)

def ClientReply : ClientCall → Type
  | .token c => TokenReply c
  | .http _ => PasResponse

abbrev ClientProgram := Prog ClientReply PyErr

/-- One call of the client whose exception propagates. -/
def clientCall (c : ClientCall) : ClientProgram (ClientReply c) := .perform c

def ofToken {α : Type} (program : TokenProgram α) : ClientProgram α := program.rename .token fun _ reply => reply

structure HttpPolicyServiceClient where
  baseUrl : String
  tokenProvider : ClientCredentialsTokenProvider
  timeoutSeconds : ℚ

namespace HttpPolicyServiceClient

/-- `__init__`, with `base_url.rstrip("/")` -/
def init (baseUrl : String) (tokenProvider : ClientCredentialsTokenProvider) (timeoutSeconds : ℚ := 10) :
    HttpPolicyServiceClient where
  baseUrl := String.ofList (baseUrl.toList.reverse.dropWhile (· = '/')).reverse
  tokenProvider
  timeoutSeconds

variable (self : HttpPolicyServiceClient) (raiseForStatus : StatusCheck)

def headersOf (token : String) : List (String × String) := [("Authorization", "Bearer " ++ token)]

/-- `_headers` -/
def headers : ClientProgram (List (String × String)) := do
  let token ← ofToken (self.tokenProvider.token raiseForStatus)
  return headersOf token

/-- A call of `httpx`: its arguments are evaluated first, and the headers are one. -/
def httpx (request : List (String × String) → HttpRequest) : ClientProgram PasResponse := do
  let headers ← self.headers raiseForStatus
  clientCall (.http (request headers))

/-- The body of a create. -/
def createJson (req : CreatePolicyRequest) : Json :=
  .obj [("policy_number", .str req.policyNumber), ("holder_name", .str req.holderName),
    ("product_code", .str req.productCode), ("effective_date", .str req.effectiveDate),
    ("expiry_date", .str req.expiryDate)]

def postPolicies (req : CreatePolicyRequest) (headers : List (String × String)) : HttpRequest where
  method := .post
  url := self.baseUrl ++ "/v1/policies"
  json := some (createJson req)
  headers
  timeout := self.timeoutSeconds

def getPolicies (policyNumber : String) (headers : List (String × String)) : HttpRequest where
  method := .get
  url := self.baseUrl ++ "/v1/policies"
  params := [("policy_number", policyNumber)]
  headers
  timeout := self.timeoutSeconds

def postTransition (policyId action : String) (headers : List (String × String)) : HttpRequest where
  method := .post
  url := self.baseUrl ++ "/v1/policies/" ++ policyId ++ "/" ++ action
  headers
  timeout := self.timeoutSeconds

/-- `_resolve_existing` -/
def resolveExisting (policyNumber : String) : ClientProgram (Option PolicyClient.PolicyRef) := do
  let resp ← self.httpx raiseForStatus (self.getPolicies policyNumber)
  if resp.statusCode ≠ 200 then return none
  let body ← Prog.ofExcept (PolicyClient.json resp)
  let items ← Prog.ofExcept (match body with
    | .arr items => pure items
    | body => do iterate (← get body "items" (.arr [])))
  Prog.ofExcept (PolicyClient.findPolicy policyNumber items)

def createPolicy (req : CreatePolicyRequest) : ClientProgram PolicyClient.PolicyRef := do
  let resp ← self.httpx raiseForStatus (self.postPolicies req)
  if resp.statusCode = 201 then
    let body ← Prog.ofExcept (PolicyClient.json resp)
    Prog.ofExcept (PolicyClient.PolicyRef.ofBody body)
  else if resp.statusCode = 409 then
    match ← self.resolveExisting raiseForStatus req.policyNumber with
    | none => .raise (.policyAlreadyExists req.policyNumber)
    | some existing => return existing
  else .raise (PolicyClient.unexpected "create_policy" resp)

/-- `_transition` -/
def transition (policyId action : String) : ClientProgram Unit := do
  let resp ← self.httpx raiseForStatus (self.postTransition policyId action)
  if resp.statusCode ∉ [200, 201, 409] then .raise (PolicyClient.unexpected (action ++ " " ++ policyId) resp)

def submit (policyId : String) : ClientProgram Unit := self.transition raiseForStatus policyId "submit"

def activate (policyId : String) : ClientProgram Unit := self.transition raiseForStatus policyId "activate"

/-- The request as it is sent. -/
def requestOf : PasRequest → List (String × String) → HttpRequest
  | .create req => self.postPolicies req
  | .list policyNumber => self.getPolicies policyNumber
  | .transition policyId action => self.postTransition policyId action

end HttpPolicyServiceClient

/-! ## The whole stack -/

/-- The calls of a service whose policy client is the HTTP client. -/
inductive StackCall where
  | service (c : Call)
  | client (c : ClientCall)

def StackReply : StackCall → Type
  | .service c => Reply c
  | .client c => ClientReply c

abbrev StackProgram := Prog StackReply PyErr

/-- One call of the stack whose exception propagates. -/
def stackCall (c : StackCall) : StackProgram (StackReply c) := .perform c

def ofClient {α : Type} (program : ClientProgram α) : StackProgram α := program.rename .client fun _ reply => reply

namespace HttpPolicyServiceClient

variable (self : HttpPolicyServiceClient) (raiseForStatus : StatusCheck)

/-- What the services call, by what the stack calls for it. -/
def impl : (c : Call) → StackProgram (Reply c)
  | .policyService request => ofClient (self.httpx raiseForStatus (self.requestOf request))
  | c => stackCall (.service c)

/-! ## The methods -/

section Methods

variable {self raiseForStatus}

theorem ofClient_bind {α β : Type} (program : ClientProgram α) (next : α → ClientProgram β) :
    ofClient (program >>= next) = ofClient program >>= fun value => ofClient (next value) := Prog.rename_bind ..

theorem ofClient_ofExcept {α : Type} (result : Except PyErr α) :
    ofClient (Prog.ofExcept result) = (Prog.ofExcept result : StackProgram α) := by
  cases result <;> rfl

/-- A request is sent once the provider has a token. -/
theorem impl_policyService (request : PasRequest) : self.impl raiseForStatus (.policyService request) =
    ofClient (ofToken (self.tokenProvider.token raiseForStatus)) >>= fun token =>
      ofClient (clientCall (.http (self.requestOf request (headersOf token)))) :=
  (congrArg ofClient (Prog.bind_assoc ..)).trans (ofClient_bind ..)

/-- A request of the services is sent with its headers. -/
theorem interpret_httpx (request : PasRequest) : (Underwriting.httpx request).interpret (self.impl raiseForStatus) =
    ofClient (self.httpx raiseForStatus (self.requestOf request)) := Prog.interpret_perform ..

theorem ofExcept_bind {α β : Type} (result : Except PyErr α) (next : α → Except PyErr β) :
    (Prog.ofExcept (result >>= next) : StackProgram β) =
      Prog.ofExcept result >>= fun value => Prog.ofExcept (next value) := by
  cases result <;> rfl

theorem resolveExisting_implements (policyNumber : String) :
    (PolicyClient.resolveExisting policyNumber).interpret (self.impl raiseForStatus) =
      ofClient (self.resolveExisting raiseForStatus policyNumber) := by
  rw [PolicyClient.resolveExisting, Prog.interpret_bind, interpret_httpx, resolveExisting, ofClient_bind]
  refine congrArg _ (funext fun resp => ?_)
  rw [Prog.interpret_ofExcept, PolicyClient.readListed]
  by_cases found : resp.statusCode ≠ 200
  · rw [if_pos found, if_pos found]
    rfl
  · rw [if_neg found, if_neg found, ofExcept_bind, ofClient_bind, ofClient_ofExcept]
    refine congrArg _ (funext fun body => ?_)
    rw [ofClient_bind, ofClient_ofExcept]
    simp only [ofClient_ofExcept]
    cases body with
    | obj fields =>
        have assoc : (do iterate (← get (.obj fields) "items" (.arr [])) >>= PolicyClient.findPolicy policyNumber) =
            (do iterate (← get (.obj fields) "items" (.arr []))) >>= PolicyClient.findPolicy policyNumber :=
          (bind_assoc ..).symm
        exact (congrArg Prog.ofExcept assoc).trans (ofExcept_bind ..)
    | _ => exact ofExcept_bind ..

theorem createPolicy_implements (req : CreatePolicyRequest) :
    (PolicyClient.createPolicy req).interpret (self.impl raiseForStatus) =
      ofClient (self.createPolicy raiseForStatus req) := by
  rw [PolicyClient.createPolicy, Prog.interpret_bind, interpret_httpx, createPolicy, ofClient_bind]
  refine congrArg _ (funext fun resp => ?_)
  rw [Prog.interpret_bind, Prog.interpret_ofExcept, PolicyClient.readCreated]
  by_cases created : resp.statusCode = 201
  · rw [if_pos created, if_pos created, ofClient_bind, ofClient_ofExcept, ofExcept_bind, Prog.bind_assoc]
    refine congrArg _ (funext fun body => ?_)
    rw [ofClient_ofExcept]
    cases PolicyClient.PolicyRef.ofBody body <;> rfl
  · rw [if_neg created, if_neg created]
    by_cases conflict : resp.statusCode = 409
    · rw [if_pos conflict, if_pos conflict]
      change (PolicyClient.resolveExisting req.policyNumber >>= _).interpret _ = _
      rw [Prog.interpret_bind, resolveExisting_implements, ofClient_bind]
      refine congrArg _ (funext fun found => ?_)
      cases found <;> rfl
    · rw [if_neg conflict, if_neg conflict]
      rfl

theorem transition_implements (policyId action : String) :
    (PolicyClient.transition policyId action).interpret (self.impl raiseForStatus) =
      ofClient (self.transition raiseForStatus policyId action) := by
  rw [PolicyClient.transition, Prog.interpret_bind, interpret_httpx, transition, ofClient_bind]
  refine congrArg _ (funext fun resp => ?_)
  rw [Prog.interpret_ofExcept, PolicyClient.readTransition]
  by_cases taken : resp.statusCode ∈ [200, 201, 409]
  · rw [if_pos taken, if_neg (not_not.mpr taken)]
    rfl
  · rw [if_neg taken, if_pos taken]
    rfl

end Methods

end HttpPolicyServiceClient

end Underwriting
