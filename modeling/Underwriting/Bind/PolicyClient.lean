import Underwriting.Repositories

/-! # The policy client

`app/bind/policy_client.py`: `HttpPolicyServiceClient` at the level of HTTP
responses. A 409 on create is resolved through the list endpoint; a 409 on a
transition counts as success.
-/

namespace Underwriting.PolicyClient

open Interleaving (Prog)

/-- A reference to a policy in the policy service. -/
structure PolicyRef where
  id : String
  status : String
  deriving DecidableEq, Repr

/-- `resp.json()` -/
def json (resp : PasResponse) : Except PyErr Json :=
  match resp.body with
  | some body => .ok body
  | none => .error .value

theorem json_ok {resp : PasResponse} {body : Json} (decoded : json resp = .ok body) :
    resp.body = some body := by
  simp only [json] at decoded
  split at decoded
  · rename_i present
    cases decoded
    exact present
  · cases decoded

/-- `PolicyRef(id=str(body["id"]), status=str(body.get("status", "draft")))` -/
def PolicyRef.ofBody (body : Json) : Except PyErr PolicyRef := do
  let id ← item body "id"
  let status ← get body "status" (.str "draft")
  return ⟨id.toText, status.toText⟩

def unexpected (what : String) (resp : PasResponse) : PyErr :=
  .policyService (what ++ " → " ++ toString resp.statusCode ++ ": " ++ resp.text)

/-- The answer to a create: a policy, or `none` for a 409. -/
def readCreated (resp : PasResponse) : Except PyErr (Option PolicyRef) :=
  if resp.statusCode = 201 then do return some (← PolicyRef.ofBody (← json resp))
  else if resp.statusCode = 409 then .ok none
  else .error (unexpected "create_policy" resp)

/-- `for item in items: if item.get("policy_number") == policy_number: return ...` -/
def findPolicy (policyNumber : String) : List Json → Except PyErr (Option PolicyRef)
  | [] => .ok none
  | policy :: rest => do
      let number ← get policy "policy_number" .null
      if number.text? = some policyNumber then return some (← PolicyRef.ofBody policy)
      else findPolicy policyNumber rest

/-- The answer to the lookup: only the items of this one response are searched. -/
def readListed (policyNumber : String) (resp : PasResponse) : Except PyErr (Option PolicyRef) :=
  if resp.statusCode ≠ 200 then .ok none
  else do
    let items ← match ← json resp with
      | .arr items => pure items
      | body => iterate (← get body "items" (.arr []))
    findPolicy policyNumber items

def resolveExisting (policyNumber : String) : Program (Option PolicyRef) := do
  let resp ← httpx (.list policyNumber)
  .ofExcept (readListed policyNumber resp)

def createPolicy (req : CreatePolicyRequest) : Program PolicyRef := do
  let resp ← httpx (.create req)
  match ← Prog.ofExcept (readCreated resp) with
  | some created => return created
  | none =>
      match ← resolveExisting req.policyNumber with
      | some existing => return existing
      | none => .raise (.policyAlreadyExists req.policyNumber)

/-- A 409 is taken for a repeat of a transition that was made before. -/
def readTransition (policyId action : String) (resp : PasResponse) : Except PyErr Unit :=
  if resp.statusCode ∈ [200, 201, 409] then .ok () else .error (unexpected (action ++ " " ++ policyId) resp)

theorem transition_taken {policyId action : String} {resp : PasResponse} {done : Unit}
    (read : readTransition policyId action resp = .ok done) : resp.statusCode ∈ [200, 201, 409] := by
  by_contra refused
  cases (if_neg refused : readTransition policyId action resp = _).symm.trans read

def transition (policyId action : String) : Program Unit := do
  let resp ← httpx (.transition policyId action)
  .ofExcept (readTransition policyId action resp)

def submit (policyId : String) : Program Unit := transition policyId "submit"

def activate (policyId : String) : Program Unit := transition policyId "activate"

end Underwriting.PolicyClient
