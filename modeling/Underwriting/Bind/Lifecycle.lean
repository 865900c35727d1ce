import Underwriting.Bind.PolicyClient

/-! # A policy service with the documented lifecycle

The service the client is written against: unique policy numbers, 409 for a
duplicate create and for an illegal transition, and policies that go from draft
to submitted to active. Its own users may cancel a policy, which terminates it,
or suspend it while it is active. A request may also fail, with or without its
effect. How the list endpoint pages is a parameter.
-/

namespace Underwriting.Lifecycle

open PolicyClient

inductive Status where
  | draft | submitted | active | suspended | terminated
  deriving DecidableEq, Repr

def Status.value : Status → String
  | .draft => "draft"
  | .submitted => "submitted"
  | .active => "active"
  | .suspended => "suspended"
  | .terminated => "terminated"

/-- The legal transitions of the API. -/
def Status.next (status : Status) (action : String) : Option Status :=
  if status = .draft ∧ action = "submit" then some .submitted
  else if status = .submitted ∧ action = "activate" then some .active
  else none

structure Policy where
  id : String
  policyNumber : String
  holderName : String
  productCode : String
  effectiveDate : String
  expiryDate : String
  status : Status
  deriving DecidableEq, Repr

/-- The draft a create stores. -/
def Policy.ofRequest (req : CreatePolicyRequest) (id : String) : Policy where
  id := id
  policyNumber := req.policyNumber
  holderName := req.holderName
  productCode := req.productCode
  effectiveDate := req.effectiveDate
  expiryDate := req.expiryDate
  status := .draft

/-- The `PolicyResponse` of a policy. -/
def Policy.json (p : Policy) : Json := .obj [
  ("id", .str p.id), ("policy_number", .str p.policyNumber), ("holder_name", .str p.holderName),
  ("product_code", .str p.productCode), ("status", .str p.status.value),
  ("effective_date", .str p.effectiveDate), ("expiry_date", .str p.expiryDate)]

/-- What a client knows of a policy. -/
def Policy.ref (p : Policy) : PolicyRef := ⟨p.id, p.status.value⟩

/-- The listing of a store for a requested number: one response's items and the
    cursor of the next. -/
abbrev Paging := List Policy → String → List Policy × Option String

def listJson (listing : List Policy × Option String) : Json :=
  .obj (("items", .arr (listing.1.map Policy.json)) ::
    match listing.2 with
    | some cursor => [("next_cursor", .str cursor)]
    | none => [])

def problem (statusCode : ℕ) (title : String) : PasResponse :=
  ⟨statusCode, some (.obj [("title", .str title), ("status", .int statusCode)]), title⟩

/-- Change the status of some policies. -/
def restatus (f : Policy → Status) (store : List Policy) : List Policy :=
  store.map fun p => { p with status := f p }

/-- Give one policy a new status. -/
def moved (id : String) (status : Status) (p : Policy) : Status := if p.id = id then status else p.status

/-- A request that is served. A new id is one that no policy has. -/
def respond (paging : Paging) (store : List Policy) (newId : String) :
    PasRequest → Option (PasResponse × List Policy)
  | .create req =>
      if ∃ p ∈ store, p.policyNumber = req.policyNumber then some (problem 409 "Conflict", store)
      else if ∃ p ∈ store, p.id = newId then none
      else
        let policy := Policy.ofRequest req newId
        some (⟨201, some policy.json, ""⟩, store ++ [policy])
  | .list policyNumber => some (⟨200, some (listJson (paging store policyNumber)), ""⟩, store)
  | .transition policyId action =>
      match store.find? (·.id = policyId) with
      | none => some (problem 404 "Not Found", store)
      | some p =>
          match p.status.next action with
          | none => some (problem 409 "Conflict", store)
          | some status => some (⟨200, some (.obj []), ""⟩, restatus (moved policyId status) store)

/-- How a request ends: served, or with an error that may hide an effect. An
    error response is neither a success nor a 409. -/
inductive Reaction where
  | serve (newId : String)
  | fail (newId : String) (applied : Bool) (response : Option PasResponse)

def honestError : Option PasResponse → Bool
  | none => true
  | some resp => decide (resp.statusCode ∉ [200, 201, 409])

def errorOf : Option PasResponse → Except PyErr PasResponse
  | none => .error .outage
  | some resp => .ok resp

def serve (paging : Paging) (store : List Policy) (request : PasRequest) :
    Reaction → Option (Except PyErr PasResponse × List Policy)
  | .serve newId => (respond paging store newId request).map fun (resp, after) => (.ok resp, after)
  | .fail newId applied response =>
      if honestError response then
        (respond paging store newId request).map fun (_, after) =>
          (errorOf response, if applied then after else store)
      else none

/-- The service's own users. -/
inductive UserAct where
  | cancel (id : String)
  | suspend (id : String)

/-- The policy a user works on. -/
def UserAct.policyId : UserAct → String
  | .cancel id | .suspend id => id

def cancelled (id : String) (p : Policy) : Status :=
  if p.id = id then .terminated else p.status

def suspended (id : String) (p : Policy) : Status :=
  if p.id = id ∧ p.status = .active then .suspended else p.status

def act (store : List Policy) : UserAct → List Policy
  | .cancel id => restatus (cancelled id) store
  | .suspend id => restatus (suspended id) store

def model (paging : Paging) : PasModel (List Policy) Reaction UserAct where
  serve := serve paging
  act := act

/-! ## Listings -/

/-- The lookup finds the policy with the number whenever there is one. -/
def Exact (paging : Paging) : Prop :=
  ∀ store n, (paging store n).1.find? (·.policyNumber = n) = store.find? (·.policyNumber = n)

/-- The whole answer is the policy asked for. -/
def byNumber : Paging := fun store n => (store.filter (·.policyNumber = n), none)

theorem byNumber_exact : Exact byNumber := by
  intro store n
  simp [byNumber, List.find?_filter]

/-- The documented endpoint: it knows no such parameter, and answers with a page of at most
    twenty policies, in any order; only the last page has no cursor. -/
structure Documented (paging : Paging) : Prop where
  unfiltered : ∀ store n m, paging store n = paging store m
  bounded : ∀ store n, (paging store n).1.length ≤ 20
  stored : ∀ store n, ∀ p ∈ (paging store n).1, p ∈ store
  last : ∀ store n, (paging store n).2 = none → ∀ p ∈ store, p ∈ (paging store n).1

/-- The policies in the order of the store, so many a page. -/
def pagesOf (limit : ℕ) : Paging := fun store _ =>
  (store.take limit, if limit < store.length then some (toString limit) else none)

theorem pagesOf_documented {limit : ℕ} (bounded : limit ≤ 20) : Documented (pagesOf limit) where
  unfiltered store n m := rfl
  bounded store n := (List.length_take_le ..).trans bounded
  stored store n p listed := List.mem_of_mem_take listed
  last store n complete p member := by
    have short : store.length ≤ limit := by simpa [pagesOf] using complete
    simpa [pagesOf, List.take_of_length_le short] using member

/-! ## What the client reads -/

theorem ofBody_json (p : Policy) : PolicyRef.ofBody p.json = .ok p.ref := rfl

theorem findPolicy_json (n : String) (policies : List Policy) :
    findPolicy n (policies.map Policy.json) =
      .ok ((policies.find? (·.policyNumber = n)).map Policy.ref) := by
  induction policies with
  | nil => rfl
  | cons p rest ih =>
      have number : get p.json "policy_number" .null = .ok (.str p.policyNumber) := rfl
      simp only [List.map_cons, findPolicy, number, List.find?_cons, bind, Except.bind,
        Json.text?, Option.some.injEq]
      by_cases same : p.policyNumber = n
      · simp only [same, ↓reduceIte, ofBody_json, decide_true, Option.map_some]
        rfl
      · simp only [same, ↓reduceIte, decide_false, ih]

theorem readListed_listing (n : String) (listing : List Policy × Option String) :
    readListed n ⟨200, some (listJson listing), ""⟩ =
      .ok ((listing.1.find? (·.policyNumber = n)).map Policy.ref) := by
  rw [← findPolicy_json]
  rfl

end Underwriting.Lifecycle
