import Underwriting.Bind.Service
import Underwriting.Lib.Sequential
import Underwriting.Rating.Service

/-! # The write routes

`app/api/routes.py`: the four routes that write, with the exceptions each turns
into an HTTP answer. Any other exception leaves the route as it is.
-/

namespace Underwriting

open Interleaving (Prog Control programs)

/-- A request to a write route, by its actor. -/
inductive Request where
  | create (payload : SubmissionCreate) (actor : String)
  | assess (submissionId actor : String)
  | quote (submissionId actor : String)
  | bind (submissionId actor : String)

/-- The row a route answers with. -/
inductive Answer where
  | submission (row : Submission)
  | decision (row : Decision)
  | quote (row : Quote)
  | binding (row : Binding)

namespace Routes

def createSubmission (payload : SubmissionCreate) (actor : String) : Program Answer := do
  return .submission (← SubmissionService.createSubmission payload actor)

def assessFailure : PyErr → PyErr
  | .submissionNotFound _ => .http 404 "submission not found"
  | .noRuleset => .http 503 "no appetite ruleset available"
  | err => err

def assessSubmission (submissionId actor : String) : Program Answer := do
  if (← BindService.latestBinding submissionId).isSome then .raise (.http 409 "submission already bound")
  let decision ← (SubmissionService.assessSubmission submissionId actor).handling fun err => .raise (assessFailure err)
  return .decision decision

def quoteFailure : PyErr → PyErr
  | .submissionNotFound _ => .http 404 "submission not found"
  | .noDecision _ => .http 404 "submission has not been assessed"
  | .declinedRisk _ => .http 409 "a declined risk cannot be quoted"
  | .noRateTable => .http 503 "no rate table available"
  | err => err

def quoteSubmission (submissionId actor : String) : Program Answer := do
  if (← BindService.latestBinding submissionId).isSome then .raise (.http 409 "submission already bound")
  let quote ← (RatingService.quoteSubmission submissionId actor).handling fun err => .raise (quoteFailure err)
  return .quote quote

def bindFailure : PyErr → PyErr
  | .submissionNotFound _ => .http 404 "submission not found"
  | .noAcceptedDecision _ => .http 422 "only an accepted submission can be bound"
  | .noQuote _ => .http 422 "submission has no quote to bind"
  | .policyAlreadyExists _ => .http 409 "policy already exists in the policy service but could not be resolved"
  | err => err

def bindSubmission (submissionId actor : String) : Program Answer := do
  let binding ← (BindService.bindSubmission submissionId actor).handling fun err => .raise (bindFailure err)
  return .binding binding

end Routes

def route : Request → Program Answer
  | .create payload actor => Routes.createSubmission payload actor
  | .assess submissionId actor => Routes.assessSubmission submissionId actor
  | .quote submissionId actor => Routes.quoteSubmission submissionId actor
  | .bind submissionId actor => Routes.bindSubmission submissionId actor

/-- Requests run their routes; a dead thread is a raised `died`. -/
def requests : Control Reply PyErr Request (Program Answer) := programs route .died

end Underwriting
