import Underwriting.Bind.PolicyClient
import Underwriting.Lib.Calendar
import Underwriting.Lib.Sha1
import Underwriting.Submission.Service

/-! # Bind use-cases

`app/bind/service.py`: create, submit and activate the policy, publish the event,
then record the Binding and its audit entry in one transaction.
-/

namespace Underwriting.BindService

open Interleaving (Prog)
open PolicyClient (PolicyRef)

def defaultTermDays : ℕ := 365

def productCodeByLob : List (String × String) := [
  (LineOfBusiness.commercialProperty.value, "COMM_PROP"),
  (LineOfBusiness.marine.value, "MARINE"),
  (LineOfBusiness.engineering.value, "ENGINEERING"),
  (LineOfBusiness.financialLines.value, "FIN_LINES")]

/-- The policy number of a quote: a slice of the SHA-1 of its id. -/
def policyNumberFor (quoteId : String) : String :=
  let bytes := (quoteId.toList.flatMap String.utf8EncodeChar).map UInt8.toNat
  "UW-" ++ Unicode.upper (String.ofList ((Sha1.hexdigest bytes).toList.take 12))

/-- A policy number has fifteen characters. -/
theorem policyNumberFor_fits (quoteId : String) : Varchar 64 (policyNumberFor quoteId) := by
  let bytes := (quoteId.toList.flatMap String.utf8EncodeChar).map UInt8.toNat
  let digits := (Sha1.hexdigest bytes).toList.take 12
  have ascii : ∀ c ∈ digits, c ≠ '\x00' ∧ c.toNat < 128 := fun c member =>
    Sha1.hexdigest_ascii (List.mem_of_mem_take member)
  have short : (Unicode.upper (String.ofList digits)).length ≤ (String.ofList digits).length :=
    Unicode.upper_length_le_iff.mpr fun c member =>
      Unicode.not_lengthened (ascii c (by rwa [String.toList_ofList] at member)).2
  have size : (String.ofList digits).length ≤ 12 := by
    rw [String.length_ofList]
    exact List.length_take_le ..
  have clean : '\x00' ∉ (Unicode.upper (String.ofList digits)).toList := by
    rw [Unicode.nul_mem_upper, String.toList_ofList]
    exact fun member => (ascii _ member).1 rfl
  constructor
  · change ("UW-" ++ Unicode.upper (String.ofList digits)).length ≤ 64
    rw [String.length_append]
    have three : "UW-".length = 3 := rfl
    omega
  · change '\x00' ∉ ("UW-" ++ Unicode.upper (String.ofList digits)).toList
    rw [String.toList_append, List.mem_append, not_or]
    exact ⟨by decide, clean⟩

def productCodeFor (lineOfBusiness : String) : String :=
  (productCodeByLob.lookup lineOfBusiness).getD (Unicode.upper lineOfBusiness)

/-- Cover starts at today's midnight. A date after the year 9999 raises. -/
def coverDates (now : ℕ) : Except PyErr (String × String) :=
  let effective := now / Calendar.microsPerDay
  let expiry := effective + defaultTermDays
  if expiry ≤ Calendar.lastDay then .ok (Calendar.midnightText effective, Calendar.midnightText expiry)
  else .error .overflow

def createRequest (submission : Submission) (counterpartyName policyNumber : String) (now : ℕ) :
    Except PyErr CreatePolicyRequest := do
  let (effectiveDate, expiryDate) ← coverDates now
  return {
    policyNumber := policyNumber
    holderName := counterpartyName
    productCode := productCodeFor submission.lineOfBusiness
    effectiveDate, expiryDate }

/-- What a request is made of. -/
theorem createRequest_ok {submission : Submission} {holder number : String} {now : ℕ} {req : CreatePolicyRequest}
    (made : createRequest submission holder number now = .ok req) :
    coverDates now = .ok (req.effectiveDate, req.expiryDate) ∧ req.policyNumber = number := by
  obtain ⟨⟨effective, expiry⟩, dated, rest⟩ := bind_ok made
  cases rest
  exact ⟨dated, rfl⟩

/-- Before the last date there is, a request can be made. -/
theorem request_made (submission : Submission) (counterpartyName policyNumber : String) {now : ℕ}
    (early : now / Calendar.microsPerDay + defaultTermDays ≤ Calendar.lastDay) :
    ∃ request, createRequest submission counterpartyName policyNumber now = .ok request ∧
      request.policyNumber = policyNumber := by
  have dates : coverDates now = .ok (Calendar.midnightText (now / Calendar.microsPerDay),
      Calendar.midnightText (now / Calendar.microsPerDay + defaultTermDays)) := if_pos early
  rw [createRequest, dates]
  exact ⟨_, rfl, rfl⟩

/-- The holder is the submission's counterparty. -/
def counterpartyName (submission : Submission) : Program String := do
  match ← Session.getCounterparty submission.counterpartyId with
  | some counterparty => return counterparty.name
  | none => return submission.counterpartyId

def eventOf (submission : Submission) (quote : Quote) (request : CreatePolicyRequest) : BoundRiskEvent where
  policyNumber := policyNumberFor quote.id
  submissionId := submission.id
  quoteId := quote.id
  premiumMinor := quote.premiumMinor
  currency := quote.currency
  productCode := request.productCode
  effectiveDate := request.effectiveDate
  expiryDate := request.expiryDate

/-- Any exception of the publisher is swallowed. -/
def publishBestEffort (event : BoundRiskEvent) : Program Bool :=
  Prog.handling (do publisherPublish event; return true) fun _ => return false

def newBinding (submission : Submission) (quote : Quote) (policyRef : PolicyRef) (eventPublished : Bool)
    (actor : String) : NewBinding where
  submissionId := submission.id
  quoteId := quote.id
  policyNumber := policyNumberFor quote.id
  pasPolicyId := policyRef.id
  status := "bound"
  eventPublished := eventPublished
  boundBy := actor

def boundEntry (submission : Submission) (quote : Quote) (policyRef : PolicyRef) (eventPublished : Bool)
    (actor : String) : NewAuditEntry where
  submissionId := submission.id
  action := "bind"
  actor := actor
  detail := .obj [
    ("policy_number", .str (policyNumberFor quote.id)), ("pas_policy_id", .str policyRef.id),
    ("quote_id", .str quote.id), ("premium_minor", .int quote.premiumMinor),
    ("currency", .str quote.currency), ("event_published", .bool eventPublished)]

def bindSubmission (submissionId actor : String) : Program Binding := do
  let submission ← SubmissionService.getSubmission submissionId
  match ← bindingsBySubmission submissionId with
  | some existing => return existing
  | none =>
      let some decision ← Session.latestDecision submissionId | .raise (.noAcceptedDecision submissionId)
      if decision.outcome ≠ Outcome.accept.value then .raise (.noAcceptedDecision submissionId)
      let some quote ← quotesLatestForSubmission submissionId | .raise (.noQuote submissionId)
      let counterpartyName ← counterpartyName submission
      let now ← datetimeNow
      let request ← Prog.ofExcept (createRequest submission counterpartyName (policyNumberFor quote.id) now)
      let policyRef ← PolicyClient.createPolicy request
      PolicyClient.submit policyRef.id
      PolicyClient.activate policyRef.id
      let eventPublished ← publishBestEffort (eventOf submission quote request)
      let binding ← bindingsAdd (newBinding submission quote policyRef eventPublished actor)
      let _ ← auditAppend (boundEntry submission quote policyRef eventPublished actor)
      Session.commit
      Session.refresh
      return binding

def latestBinding (submissionId : String) : Program (Option Binding) := bindingsBySubmission submissionId

end Underwriting.BindService
