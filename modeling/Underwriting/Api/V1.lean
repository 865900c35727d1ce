import Underwriting.Api.Auth
import Underwriting.Api.Routes
import Underwriting.Lib.Calls
import Underwriting.Submission.Inbox

/-! # The v1 endpoints

All ten endpoints of `app/api/routes.py` behind their scopes. The framework resolves
the dependencies of an endpoint first, its scope before the actor; an exception of
one of them is the answer, and the handler does not run.
-/

namespace Underwriting

open Interleaving (Prog Control Backend programs)

/-- The calls of the services and the queries that answer with lists. -/
inductive ApiCall where
  | service (c : Call)
  | read (c : ReadCall)

def ApiReply : ApiCall → Type
  | .service c => Reply c
  | .read c => ReadReply c

abbrev ApiProgram := Prog ApiReply PyErr

def ofService {α : Type} (program : Program α) : ApiProgram α := program.rename .service fun _ reply => reply

def ofReads {α : Type} (program : ReadProgram α) : ApiProgram α := program.rename .read fun _ reply => reply

/-- Query parameters of the inbox that validate. -/
structure ListQuery where
  outcome : Option Outcome := none
  limit : ℕ := 50
  offset : ℕ := 0
  limitBounds : 1 ≤ limit ∧ limit ≤ 200 := by decide
  offsetBound : offset ≤ 1000000 := by decide

/-- A well-formed request to an endpoint. -/
inductive V1 where
  | createSubmission (payload : SubmissionCreate)
  | listSubmissions (query : ListQuery)
  | assessSubmission (submissionId : String)
  | getSubmission (submissionId : String)
  | quoteSubmission (submissionId : String)
  | getQuote (submissionId : String)
  | bindSubmission (submissionId : String)
  | getBinding (submissionId : String)
  | listRateTables
  | getSubmissionAudit (submissionId : String)

/-- What the endpoints answer with. -/
inductive Response where
  | written (answer : Answer)
  | inbox (items : List SubmissionListItem)
  | detail (submission : Submission) (latestDecision : Option Decision)
  | quote (row : Quote)
  | binding (row : Binding)
  | rateTables (rows : List RateTable)
  | audit (entries : List AuditEntry)

namespace Routes

def notFound : PyErr → PyErr
  | .submissionNotFound _ => .http 404 "submission not found"
  | err => err

def existing (submissionId : String) : Program Submission :=
  (SubmissionService.getSubmission submissionId).handling fun err => .raise (notFound err)

def listSubmissions (query : ListQuery) : ReadProgram Response := do
  return .inbox (← SubmissionService.listSubmissions query.outcome query.limit query.offset)

def getSubmission (submissionId : String) : Program Response := do
  let submission ← existing submissionId
  let decision ← Session.latestDecision submissionId
  return .detail submission decision

def getQuote (submissionId : String) : Program Response := do
  let _ ← existing submissionId
  let some quote ← quotesLatestForSubmission submissionId | .raise (.http 404 "no quote for submission")
  return .quote quote

def getBinding (submissionId : String) : Program Response := do
  let _ ← existing submissionId
  let some binding ← BindService.latestBinding submissionId | .raise (.http 404 "submission is not bound")
  return .binding binding

def listRateTables : ReadProgram Response := do
  return .rateTables (← rateTablesListVersions)

def getSubmissionAudit (submissionId : String) : ApiProgram Response := do
  let _ ← ofService (existing submissionId)
  let entries ← ofReads (auditListForSubmission submissionId)
  return .audit entries

end Routes

namespace V1

/-- `dependencies=[_READ]` or `dependencies=[_WRITE]` -/
def requiredScope : V1 → String
  | .listSubmissions _ | .getSubmission _ | .getQuote _ | .getBinding _ | .listRateTables
  | .getSubmissionAudit _ => "underwriting:read"
  | .createSubmission _ | .assessSubmission _ | .quoteSubmission _ | .bindSubmission _ => "underwriting:write"

/-- A write route for its actor. -/
def written (program : Program Answer) : ApiProgram Response := do
  return .written (← ofService program)

/-- The handler of an endpoint, called with the actor if it depends on one. -/
def handler (actor : Except PyErr String) : V1 → Except PyErr (ApiProgram Response)
  | .createSubmission payload => do return written (Routes.createSubmission payload (← actor))
  | .listSubmissions query => return ofReads (Routes.listSubmissions query)
  | .assessSubmission sid => do return written (Routes.assessSubmission sid (← actor))
  | .getSubmission sid => return ofService (Routes.getSubmission sid)
  | .quoteSubmission sid => do return written (Routes.quoteSubmission sid (← actor))
  | .getQuote sid => return ofService (Routes.getQuote sid)
  | .bindSubmission sid => do return written (Routes.bindSubmission sid (← actor))
  | .getBinding sid => return ofService (Routes.getBinding sid)
  | .listRateTables => return ofReads Routes.listRateTables
  | .getSubmissionAudit sid => return Routes.getSubmissionAudit sid

end V1

/-- A request with its header `Authorization`, and PyJWT's verdicts while it is served. -/
structure ApiRequest where
  route : V1
  authorization : Option String
  decode : Decode

namespace Api

/-- The handler that runs, or the exception of a dependency. -/
def resolve (jwksUrl : String) (request : ApiRequest) : Except PyErr (ApiProgram Response) := do
  let _ ← Auth.requireScope request.decode jwksUrl request.route.requiredScope request.authorization
  request.route.handler (Auth.currentActor request.decode jwksUrl request.authorization)

def respond (jwksUrl : String) (request : ApiRequest) : ApiProgram Response :=
  match resolve jwksUrl request with
  | .ok handler => handler
  | .error err => .raise err

/-- Requests run their handlers; a dead thread is a raised `died`. -/
def requests (jwksUrl : String) : Control ApiReply PyErr ApiRequest (ApiProgram Response) :=
  programs (respond jwksUrl) .died

variable {σ φ υ : Type}

/-- One call of a handler; a query for a list is lost or read. -/
def handleApi (P : PasModel σ φ υ) (w : World σ) (pending : Db) :
    (c : ApiCall) → Fate φ → Option (Except PyErr (ApiReply c) × World σ × Db)
  | .service c, fate => handle P w pending c fate
  | .read _, .lost => some (.error .outage, w, pending)
  | .read c, .read pick => some (.ok (w.db.read pick c), w, pending)
  | .read _, _ => none

def backend (P : PasModel σ φ υ) : Backend ApiReply PyErr (World σ) Db (Fate φ) (Env υ) where
  fresh := .empty
  handle := handleApi P
  disturb := disturb P

end Api

end Underwriting
