import Underwriting.Appetite.Rules
import Underwriting.Repositories

/-! # Submission use-cases

`app/submission/service.py`: intake and assessment.
-/

namespace Underwriting

open Interleaving (Prog)

/-- A payload that `CounterpartyCreate` validates. -/
structure CounterpartyCreate where
  name : String
  country : String
  nameLength : 1 ≤ name.length ∧ name.length ≤ 255 := by decide
  countryLength : country.length = 2 := by decide

/-- A payload that `SubmissionCreate` validates. -/
structure SubmissionCreate where
  counterparty : CounterpartyCreate
  lineOfBusiness : LineOfBusiness
  tivEur : ℤ
  occupancy : Occupancy
  country : String
  postcode : String
  requestedCover : String
  brokerRef : Option String := none
  tivPositive : 0 < tivEur := by decide
  countryLength : country.length = 2 := by decide
  postcodeLength : 1 ≤ postcode.length ∧ postcode.length ≤ 16 := by decide
  coverLength : 1 ≤ requestedCover.length ∧ requestedCover.length ≤ 255 := by decide
  brokerRefLength : ∀ ref ∈ brokerRef, ref.length ≤ 64 := by decide

namespace SubmissionService

/-- The row written for a payload. -/
def newSubmission (payload : SubmissionCreate) (counterpartyId : String) : NewSubmission where
  counterpartyId := counterpartyId
  lineOfBusiness := payload.lineOfBusiness.value
  tivEur := payload.tivEur
  occupancy := payload.occupancy.value
  country := Unicode.upper payload.country
  postcode := payload.postcode
  requestedCover := payload.requestedCover
  brokerRef := payload.brokerRef

def createdEntry (submission : Submission) (actor : String) : NewAuditEntry where
  submissionId := submission.id
  action := "submission.created"
  actor := actor
  detail := .obj [("line_of_business", .str submission.lineOfBusiness), ("tiv_eur", .int submission.tivEur)]

def createSubmission (payload : SubmissionCreate) (actor : String) : Program Submission := do
  let cp ← counterpartiesAdd
    { name := payload.counterparty.name, country := Unicode.upper payload.counterparty.country }
  let submission ← Session.addSubmission (newSubmission payload cp.id)
  let _ ← auditAppend (createdEntry submission actor)
  Session.commit
  Session.refresh
  return submission

def getSubmission (submissionId : String) : Program Submission := do
  let some submission ← Session.getSubmission submissionId
    | .raise (.submissionNotFound submissionId)
  return submission

def factsOf (submission : Submission) : Appetite.SubmissionFacts where
  lineOfBusiness := submission.lineOfBusiness
  tivEur := submission.tivEur
  occupancy := submission.occupancy
  country := submission.country

/-- `assess(facts, spec_of(ruleset))` -/
def assessed (submission : Submission) (ruleset : AppetiteRuleset) : Except PyErr (Outcome × List ReasonCode) := do
  return Appetite.assess (factsOf submission) (← Appetite.RulesetSpec.fromRules ruleset.version ruleset.rules)

def newDecision (submission : Submission) (ruleset : AppetiteRuleset) (result : Outcome × List ReasonCode)
    (actor : String) : NewDecision where
  submissionId := submission.id
  outcome := result.1.value
  reasonCodes := result.2.map ReasonCode.value
  appetiteVersion := ruleset.version
  decidedBy := actor

def assessedEntry (submission : Submission) (ruleset : AppetiteRuleset) (result : Outcome × List ReasonCode)
    (actor : String) : NewAuditEntry where
  submissionId := submission.id
  action := "submission.assessed"
  actor := actor
  rulesetVersion := some ruleset.version
  outcome := some result.1.value
  detail := .obj [("reason_codes", .arr (result.2.map fun c => .str c.value))]

def assessSubmission (submissionId actor : String) : Program Decision := do
  let submission ← getSubmission submissionId
  let some ruleset ← appetiteCurrent | .raise .noRuleset
  let result ← Prog.ofExcept (assessed submission ruleset)
  let decision ← Session.addDecision (newDecision submission ruleset result actor)
  let _ ← auditAppend (assessedEntry submission ruleset result actor)
  Session.commit
  Session.refresh
  return decision

end SubmissionService

end Underwriting
