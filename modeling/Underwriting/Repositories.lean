import Underwriting.Effects

/-! # Repositories and session

The repository methods and the session as programs: one call each, whose
exception propagates. `SqlCounterpartyRepository.add` stores the country in upper
case, which its caller `create_submission` shows.
-/

namespace Underwriting

/-- One call whose exception propagates. -/
def ask (c : Call) : Program (Reply c) := Interleaving.Prog.perform c

namespace Session

def getSubmission (id : String) : Program (Option Submission) := ask (.getSubmission id)

def getCounterparty (id : String) : Program (Option Counterparty) := ask (.getCounterparty id)

def addSubmission (new : NewSubmission) : Program Submission := ask (.addSubmission new)

def addDecision (new : NewDecision) : Program Decision := ask (.addDecision new)

def commit : Program Unit := ask .commit

/-- `session.refresh(row)` of a row just committed. -/
def refresh : Program Unit := ask .refresh

/-- `select(Decision) ... order_by(desc(decided_at)).limit(1)` -/
def latestDecision (submissionId : String) : Program (Option Decision) :=
  ask (.latestDecision submissionId)

end Session

def counterpartiesAdd (new : NewCounterparty) : Program Counterparty := ask (.addCounterparty new)

def appetiteCurrent : Program (Option AppetiteRuleset) := ask .currentRuleset

def rateTablesCurrent : Program (Option RateTable) := ask .currentRateTable

def quotesAdd (new : NewQuote) : Program Quote := ask (.addQuote new)

def quotesLatestForSubmission (submissionId : String) : Program (Option Quote) :=
  ask (.latestQuote submissionId)

def bindingsAdd (new : NewBinding) : Program Binding := ask (.addBinding new)

def bindingsBySubmission (submissionId : String) : Program (Option Binding) :=
  ask (.bindingBySubmission submissionId)

def auditAppend (new : NewAuditEntry) : Program AuditEntry := ask (.appendAudit new)

/-- `datetime.now(UTC)` -/
def datetimeNow : Program ℕ := ask .now

/-- One HTTP exchange with the policy service. -/
def httpx (request : PasRequest) : Program PasResponse := ask (.policyService request)

def publisherPublish (event : BoundRiskEvent) : Program Unit := ask (.publish event)

end Underwriting
