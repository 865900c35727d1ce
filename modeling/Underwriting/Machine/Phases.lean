import Underwriting.Api.Routes
import Underwriting.Lib.Refine

/-! # Program points of the write routes

Every route as the list of its program points: the call a point makes, and where
its answer leads. A point keeps what the request has read so far. `Leads` names
every way from one point to the next, so that an invariant of the points is proved
by cases on it. `routes` shows that the programs of `route` are exactly the
unfoldings of these points, so that runs of one are runs of the other.
-/

namespace Underwriting

open Interleaving
open PolicyClient (PolicyRef)

/-- What an assess has read before it writes. -/
structure AssessFile where
  submissionId : String
  actor : String
  submission : Submission
  ruleset : AppetiteRuleset
  result : Outcome × List ReasonCode

/-- What a quote has read before it writes. -/
structure QuoteFile where
  submissionId : String
  actor : String
  submission : Submission
  decision : Decision
  rateTable : RateTable
  breakdown : Rating.QuoteBreakdown

/-- What a bind has read before its external effects. -/
structure BindFile where
  submissionId : String
  actor : String
  submission : Submission
  decision : Decision
  quote : Quote

inductive Phase where
  | createCounterparty (payload : SubmissionCreate) (actor : String)
  | createSubmission (payload : SubmissionCreate) (actor : String) (cp : Counterparty)
  | createAudit (payload : SubmissionCreate) (actor : String) (cp : Counterparty) (row : Submission)
  | createCommit (payload : SubmissionCreate) (actor : String) (cp : Counterparty) (row : Submission)
      (entry : AuditEntry)
  | createRefresh (row : Submission)
  | assessGuard (submissionId actor : String)
  | assessSubmission (submissionId actor : String)
  | assessRuleset (submissionId actor : String) (submission : Submission)
  | assessInsert (file : AssessFile)
  | assessAudit (file : AssessFile) (row : Decision)
  | assessCommit (file : AssessFile) (row : Decision) (entry : AuditEntry)
  | assessRefresh (submissionId : String) (row : Decision)
  | quoteGuard (submissionId actor : String)
  | quoteSubmission (submissionId actor : String)
  | quoteDecision (submissionId actor : String) (submission : Submission)
  | quoteTable (submissionId actor : String) (submission : Submission) (decision : Decision)
  | quoteInsert (file : QuoteFile)
  | quoteAudit (file : QuoteFile) (row : Quote)
  | quoteCommit (file : QuoteFile) (row : Quote) (entry : AuditEntry)
  | quoteRefresh (submissionId : String) (row : Quote)
  | bindSubmission (submissionId actor : String)
  | bindCheck (submissionId actor : String) (submission : Submission)
  | bindDecision (submissionId actor : String) (submission : Submission)
  | bindQuote (submissionId actor : String) (submission : Submission) (decision : Decision)
  | bindHolder (file : BindFile)
  | bindClock (file : BindFile) (holder : String)
  | bindCreate (file : BindFile) (request : CreatePolicyRequest)
  | bindResolve (file : BindFile) (request : CreatePolicyRequest)
  | bindSubmit (file : BindFile) (request : CreatePolicyRequest) (policy : PolicyRef)
  | bindActivate (file : BindFile) (request : CreatePolicyRequest) (policy : PolicyRef)
  | bindPublish (file : BindFile) (request : CreatePolicyRequest) (policy : PolicyRef)
  | bindInsert (file : BindFile) (request : CreatePolicyRequest) (policy : PolicyRef) (published : Bool)
  | bindAudit (file : BindFile) (request : CreatePolicyRequest) (policy : PolicyRef) (published : Bool)
      (row : Binding)
  | bindCommit (file : BindFile) (request : CreatePolicyRequest) (policy : PolicyRef) (published : Bool)
      (row : Binding) (entry : AuditEntry)
  | bindRefresh (submissionId : String) (row : Binding)
  | ended (result : Except PyErr Answer)

namespace Phase

/-- Where an answer leads; a failure ends the request as its route answers it. -/
def onOk {α : Type} (failure : PyErr → PyErr) (next : α → Phase) : Except PyErr α → Phase
  | .ok value => next value
  | .error err => .ended (.error (failure err))

def failed (err : PyErr) : Phase := .ended (.error err)

/-- A point that makes one call. -/
def calling (c : Call) (failure : PyErr → PyErr) (next : Reply c → Phase) :
    Option ((c : Call) × (Except PyErr (Reply c) → Phase)) :=
  some ⟨c, onOk failure next⟩

open Routes SubmissionService RatingService BindService in
/-- The call of a point and where its answer leads. -/
def next : Phase → Option ((c : Call) × (Except PyErr (Reply c) → Phase))
  | .createCounterparty payload actor =>
      calling (.addCounterparty
        { name := payload.counterparty.name, country := Unicode.upper payload.counterparty.country }) id
        fun cp => .createSubmission payload actor cp
  | .createSubmission payload actor cp =>
      calling (.addSubmission (newSubmission payload cp.id)) id fun row => .createAudit payload actor cp row
  | .createAudit payload actor cp row =>
      calling (.appendAudit (createdEntry row actor)) id fun entry => .createCommit payload actor cp row entry
  | .createCommit _ _ _ row _ => calling .commit id fun _ => .createRefresh row
  | .createRefresh row => calling .refresh id fun _ => .ended (.ok (.submission row))
  | .assessGuard sid actor =>
      calling (.bindingBySubmission sid) id fun (found : Option Binding) =>
        if found.isSome then failed (.http 409 "submission already bound")
        else .assessSubmission sid actor
  | .assessSubmission sid actor =>
      calling (.getSubmission sid) assessFailure fun
        | some submission => .assessRuleset sid actor submission
        | none => failed (assessFailure (.submissionNotFound sid))
  | .assessRuleset sid actor submission =>
      calling .currentRuleset assessFailure fun
        | some ruleset =>
            onOk assessFailure (fun result => .assessInsert ⟨sid, actor, submission, ruleset, result⟩)
              (assessed submission ruleset)
        | none => failed (assessFailure .noRuleset)
  | .assessInsert file =>
      calling (.addDecision (newDecision file.submission file.ruleset file.result file.actor)) assessFailure
        fun row => .assessAudit file row
  | .assessAudit file row =>
      calling (.appendAudit (assessedEntry file.submission file.ruleset file.result file.actor)) assessFailure
        fun entry => .assessCommit file row entry
  | .assessCommit file row _ => calling .commit assessFailure fun _ => .assessRefresh file.submissionId row
  | .assessRefresh _ row => calling .refresh assessFailure fun _ => .ended (.ok (.decision row))
  | .quoteGuard sid actor =>
      calling (.bindingBySubmission sid) id fun (found : Option Binding) =>
        if found.isSome then failed (.http 409 "submission already bound")
        else .quoteSubmission sid actor
  | .quoteSubmission sid actor =>
      calling (.getSubmission sid) quoteFailure fun
        | some submission => .quoteDecision sid actor submission
        | none => failed (quoteFailure (.submissionNotFound sid))
  | .quoteDecision sid actor submission =>
      calling (.latestDecision sid) quoteFailure fun
        | some decision =>
            if decision.outcome = Outcome.decline.value then failed (quoteFailure (.declinedRisk sid))
            else .quoteTable sid actor submission decision
        | none => failed (quoteFailure (.noDecision sid))
  | .quoteTable sid actor submission decision =>
      calling .currentRateTable quoteFailure fun
        | some rateTable =>
            onOk quoteFailure
              (fun breakdown => .quoteInsert ⟨sid, actor, submission, decision, rateTable, breakdown⟩)
              (priced submission rateTable)
        | none => failed (quoteFailure .noRateTable)
  | .quoteInsert file =>
      calling (.addQuote (newQuote file.submission file.breakdown file.actor)) quoteFailure
        fun row => .quoteAudit file row
  | .quoteAudit file row =>
      calling (.appendAudit (quotedEntry file.submission file.rateTable file.breakdown file.actor)) quoteFailure
        fun entry => .quoteCommit file row entry
  | .quoteCommit file row _ => calling .commit quoteFailure fun _ => .quoteRefresh file.submissionId row
  | .quoteRefresh _ row => calling .refresh quoteFailure fun _ => .ended (.ok (.quote row))
  | .bindSubmission sid actor =>
      calling (.getSubmission sid) bindFailure fun
        | some submission => .bindCheck sid actor submission
        | none => failed (bindFailure (.submissionNotFound sid))
  | .bindCheck sid actor submission =>
      calling (.bindingBySubmission sid) bindFailure fun
        | some existing => .ended (.ok (.binding existing))
        | none => .bindDecision sid actor submission
  | .bindDecision sid actor submission =>
      calling (.latestDecision sid) bindFailure fun
        | some decision =>
            if decision.outcome ≠ Outcome.accept.value then failed (bindFailure (.noAcceptedDecision sid))
            else .bindQuote sid actor submission decision
        | none => failed (bindFailure (.noAcceptedDecision sid))
  | .bindQuote sid actor submission decision =>
      calling (.latestQuote sid) bindFailure fun
        | some quote => .bindHolder ⟨sid, actor, submission, decision, quote⟩
        | none => failed (bindFailure (.noQuote sid))
  | .bindHolder file =>
      calling (.getCounterparty file.submission.counterpartyId) bindFailure fun
        | some counterparty => .bindClock file counterparty.name
        | none => .bindClock file file.submission.counterpartyId
  | .bindClock file holder =>
      calling .now bindFailure fun now =>
        onOk bindFailure (fun request => .bindCreate file request)
          (createRequest file.submission holder (policyNumberFor file.quote.id) now)
  | .bindCreate file request =>
      calling (.policyService (.create request)) bindFailure fun resp =>
        onOk bindFailure
          (fun
            | some created => .bindSubmit file request created
            | none => .bindResolve file request)
          (PolicyClient.readCreated resp)
  | .bindResolve file request =>
      calling (.policyService (.list request.policyNumber)) bindFailure fun resp =>
        onOk bindFailure
          (fun
            | some existing => .bindSubmit file request existing
            | none => failed (bindFailure (.policyAlreadyExists request.policyNumber)))
          (PolicyClient.readListed request.policyNumber resp)
  | .bindSubmit file request policy =>
      calling (.policyService (.transition policy.id "submit")) bindFailure fun resp =>
        onOk bindFailure (fun _ => .bindActivate file request policy)
          (PolicyClient.readTransition policy.id "submit" resp)
  | .bindActivate file request policy =>
      calling (.policyService (.transition policy.id "activate")) bindFailure fun resp =>
        onOk bindFailure (fun _ => .bindPublish file request policy)
          (PolicyClient.readTransition policy.id "activate" resp)
  | .bindPublish file request policy =>
      -- an exception of the publisher is swallowed
      some ⟨.publish (eventOf file.submission file.quote request), fun
        | .ok _ => .bindInsert file request policy true
        | .error _ => .bindInsert file request policy false⟩
  | .bindInsert file request policy published =>
      calling (.addBinding (newBinding file.submission file.quote policy published file.actor)) bindFailure
        fun row => .bindAudit file request policy published row
  | .bindAudit file request policy published row =>
      calling (.appendAudit (boundEntry file.submission file.quote policy published file.actor)) bindFailure
        fun entry => .bindCommit file request policy published row entry
  | .bindCommit file _ _ _ row _ => calling .commit bindFailure fun _ => .bindRefresh file.submissionId row
  | .bindRefresh _ row => calling .refresh bindFailure fun _ => .ended (.ok (.binding row))
  | .ended _ => none

/-- A property that failures and accepted answers have holds of any answer. -/
@[elab_as_elim]
theorem onOk_elim {α : Type} {motive : Phase → Prop} {failure : PyErr → PyErr} {next : α → Phase}
    (answer : Except PyErr α) (raised : ∀ err, motive (.ended (.error err)))
    (passed : ∀ value, answer = .ok value → motive (next value)) : motive (onOk failure next answer) := by
  cases answer with
  | ok value => exact passed value rfl
  | error err => exact raised _

open SubmissionService RatingService BindService in
/-- Every way from a point to the next, with the tests on it. -/
inductive Leads : Phase → (c : Call) → Except PyErr (Reply c) → Phase → Prop where
  /-- A failure, or the answer of the request. -/
  | ended {ph c answer result} : Leads ph c answer (.ended result)
  | createCounterparty {payload actor cp} :
      Leads (.createCounterparty payload actor)
        (.addCounterparty { name := payload.counterparty.name, country := Unicode.upper payload.counterparty.country })
        (.ok cp) (.createSubmission payload actor cp)
  | createSubmission {payload actor cp row} :
      Leads (.createSubmission payload actor cp) (.addSubmission (newSubmission payload cp.id)) (.ok row)
        (.createAudit payload actor cp row)
  | createAudit {payload actor cp row entry} :
      Leads (.createAudit payload actor cp row) (.appendAudit (createdEntry row actor)) (.ok entry)
        (.createCommit payload actor cp row entry)
  | createCommit {payload actor cp row entry done} :
      Leads (.createCommit payload actor cp row entry) .commit (.ok done) (.createRefresh row)
  | assessGuard {sid actor} :
      Leads (.assessGuard sid actor) (.bindingBySubmission sid) (.ok none) (.assessSubmission sid actor)
  | assessSubmission {sid actor submission} :
      Leads (.assessSubmission sid actor) (.getSubmission sid) (.ok (some submission))
        (.assessRuleset sid actor submission)
  | assessRuleset {sid actor submission ruleset result} (made : assessed submission ruleset = .ok result) :
      Leads (.assessRuleset sid actor submission) .currentRuleset (.ok (some ruleset))
        (.assessInsert ⟨sid, actor, submission, ruleset, result⟩)
  | assessInsert {file row} :
      Leads (.assessInsert file) (.addDecision (newDecision file.submission file.ruleset file.result file.actor))
        (.ok row) (.assessAudit file row)
  | assessAudit {file row entry} :
      Leads (.assessAudit file row)
        (.appendAudit (assessedEntry file.submission file.ruleset file.result file.actor)) (.ok entry)
        (.assessCommit file row entry)
  | assessCommit {file row entry done} :
      Leads (.assessCommit file row entry) .commit (.ok done) (.assessRefresh file.submissionId row)
  | quoteGuard {sid actor} :
      Leads (.quoteGuard sid actor) (.bindingBySubmission sid) (.ok none) (.quoteSubmission sid actor)
  | quoteSubmission {sid actor submission} :
      Leads (.quoteSubmission sid actor) (.getSubmission sid) (.ok (some submission))
        (.quoteDecision sid actor submission)
  | quoteDecision {sid actor submission decision} (undeclined : decision.outcome ≠ Outcome.decline.value) :
      Leads (.quoteDecision sid actor submission) (.latestDecision sid) (.ok (some decision))
        (.quoteTable sid actor submission decision)
  | quoteTable {sid actor submission decision rateTable breakdown}
      (made : priced submission rateTable = .ok breakdown) :
      Leads (.quoteTable sid actor submission decision) .currentRateTable (.ok (some rateTable))
        (.quoteInsert ⟨sid, actor, submission, decision, rateTable, breakdown⟩)
  | quoteInsert {file row} :
      Leads (.quoteInsert file) (.addQuote (newQuote file.submission file.breakdown file.actor)) (.ok row)
        (.quoteAudit file row)
  | quoteAudit {file row entry} :
      Leads (.quoteAudit file row)
        (.appendAudit (quotedEntry file.submission file.rateTable file.breakdown file.actor)) (.ok entry)
        (.quoteCommit file row entry)
  | quoteCommit {file row entry done} :
      Leads (.quoteCommit file row entry) .commit (.ok done) (.quoteRefresh file.submissionId row)
  | bindSubmission {sid actor submission} :
      Leads (.bindSubmission sid actor) (.getSubmission sid) (.ok (some submission)) (.bindCheck sid actor submission)
  | bindCheck {sid actor submission} :
      Leads (.bindCheck sid actor submission) (.bindingBySubmission sid) (.ok none)
        (.bindDecision sid actor submission)
  | bindDecision {sid actor submission decision} (accepted : decision.outcome = Outcome.accept.value) :
      Leads (.bindDecision sid actor submission) (.latestDecision sid) (.ok (some decision))
        (.bindQuote sid actor submission decision)
  | bindQuote {sid actor submission decision quote} :
      Leads (.bindQuote sid actor submission decision) (.latestQuote sid) (.ok (some quote))
        (.bindHolder ⟨sid, actor, submission, decision, quote⟩)
  | bindHolder {file found} :
      Leads (.bindHolder file) (.getCounterparty file.submission.counterpartyId) (.ok found)
        (.bindClock file (Option.elim found file.submission.counterpartyId fun row => row.name))
  | bindClock {file holder now request}
      (made : createRequest file.submission holder (policyNumberFor file.quote.id) now = .ok request) :
      Leads (.bindClock file holder) .now (.ok now) (.bindCreate file request)
  | bindCreate {file request resp policy} (read : PolicyClient.readCreated resp = .ok (some policy)) :
      Leads (.bindCreate file request) (.policyService (.create request)) (.ok resp) (.bindSubmit file request policy)
  | bindConflict {file request resp} (read : PolicyClient.readCreated resp = .ok none) :
      Leads (.bindCreate file request) (.policyService (.create request)) (.ok resp) (.bindResolve file request)
  | bindResolve {file request resp policy}
      (read : PolicyClient.readListed request.policyNumber resp = .ok (some policy)) :
      Leads (.bindResolve file request) (.policyService (.list request.policyNumber)) (.ok resp)
        (.bindSubmit file request policy)
  | bindSubmit {file request policy resp done}
      (read : PolicyClient.readTransition policy.id "submit" resp = .ok done) :
      Leads (.bindSubmit file request policy) (.policyService (.transition policy.id "submit")) (.ok resp)
        (.bindActivate file request policy)
  | bindActivate {file request policy resp done}
      (read : PolicyClient.readTransition policy.id "activate" resp = .ok done) :
      Leads (.bindActivate file request policy) (.policyService (.transition policy.id "activate")) (.ok resp)
        (.bindPublish file request policy)
  | bindPublish {file request policy answer} :
      Leads (.bindPublish file request policy) (.publish (eventOf file.submission file.quote request)) answer
        (.bindInsert file request policy answer.toBool)
  | bindInsert {file request policy published row} :
      Leads (.bindInsert file request policy published)
        (.addBinding (newBinding file.submission file.quote policy published file.actor)) (.ok row)
        (.bindAudit file request policy published row)
  | bindAudit {file request policy published row entry} :
      Leads (.bindAudit file request policy published row)
        (.appendAudit (boundEntry file.submission file.quote policy published file.actor)) (.ok entry)
        (.bindCommit file request policy published row entry)
  | bindCommit {file request policy published row entry done} :
      Leads (.bindCommit file request policy published row entry) .commit (.ok done)
        (.bindRefresh file.submissionId row)

/-- A failure ends the request. -/
theorem leads_onOk {α : Type} {ph : Phase} {c : Call} {answer : Except PyErr (Reply c)} {failure : PyErr → PyErr}
    {next : α → Phase} {result : Except PyErr α} (passed : ∀ value, result = .ok value → Leads ph c answer (next value)) :
    Leads ph c answer (onOk failure next result) :=
  onOk_elim result (fun _ => .ended) passed

section Tests

variable {c : Call} {rest : Except PyErr (Reply c) → Phase} (answer : Except PyErr (Reply c))

theorem quoteDecision_leads {sid actor : String} {submission : Submission}
    (found : (Phase.quoteDecision sid actor submission).next = some ⟨c, rest⟩) :
    Leads (.quoteDecision sid actor submission) c answer (rest answer) := by
  cases found
  refine leads_onOk fun value answered => ?_
  subst answered
  cases value with
  | none => exact .ended
  | some decision =>
      dsimp only
      split
      · exact .ended
      · rename_i undeclined
        exact .quoteDecision undeclined

theorem bindDecision_leads {sid actor : String} {submission : Submission}
    (found : (Phase.bindDecision sid actor submission).next = some ⟨c, rest⟩) :
    Leads (.bindDecision sid actor submission) c answer (rest answer) := by
  cases found
  refine leads_onOk fun value answered => ?_
  subst answered
  cases value with
  | none => exact .ended
  | some decision =>
      dsimp only
      split
      · exact .ended
      · rename_i accepted
        exact .bindDecision (not_not.mp accepted)

theorem bindCreate_leads {file : BindFile} {request : CreatePolicyRequest}
    (found : (Phase.bindCreate file request).next = some ⟨c, rest⟩) :
    Leads (.bindCreate file request) c answer (rest answer) := by
  cases found
  refine leads_onOk fun resp answered => leads_onOk fun created read => ?_
  subst answered
  cases created with
  | none => exact .bindConflict read
  | some policy => exact .bindCreate read

theorem bindResolve_leads {file : BindFile} {request : CreatePolicyRequest}
    (found : (Phase.bindResolve file request).next = some ⟨c, rest⟩) :
    Leads (.bindResolve file request) c answer (rest answer) := by
  cases found
  refine leads_onOk fun resp answered => leads_onOk fun existing read => ?_
  subst answered
  cases existing with
  | none => exact .ended
  | some policy => exact .bindResolve read

end Tests

theorem leads_next {ph : Phase} {c : Call} {rest : Except PyErr (Reply c) → Phase}
    (found : ph.next = some ⟨c, rest⟩) (answer : Except PyErr (Reply c)) : Leads ph c answer (rest answer) := by
  cases ph
  case quoteDecision => exact quoteDecision_leads answer found
  case bindDecision => exact bindDecision_leads answer found
  case bindCreate => exact bindCreate_leads answer found
  case bindResolve => exact bindResolve_leads answer found
  all_goals cases found
  case bindPublish => cases answer <;> exact .bindPublish
  all_goals
    refine leads_onOk fun value answered => ?_
    subst answered
  case assessGuard | quoteGuard =>
    cases value with
    | none => constructor
    | some existing => exact .ended
  case assessSubmission | quoteSubmission | bindSubmission | bindQuote =>
    cases value with
    | none => exact .ended
    | some row => constructor
  case assessRuleset | quoteTable =>
    cases value with
    | none => exact .ended
    | some row =>
        refine leads_onOk fun result made => ?_
        constructor
        exact made
  case bindCheck =>
    cases value with
    | none => exact .bindCheck
    | some existing => exact .ended
  case bindHolder => cases value <;> exact .bindHolder
  case bindClock | bindSubmit | bindActivate =>
    refine leads_onOk fun result read => ?_
    constructor
    exact read
  all_goals constructor

/-- Calls still to come, at most. -/
def rank : Phase → ℕ
  | .ended _ => 0
  | .createRefresh _ | .assessRefresh _ _ | .quoteRefresh _ _ | .bindRefresh _ _ => 1
  | .createCommit .. | .assessCommit .. | .quoteCommit .. | .bindCommit .. => 2
  | .createAudit .. | .assessAudit .. | .quoteAudit .. | .bindAudit .. => 3
  | .createSubmission .. | .assessInsert _ | .quoteInsert _ | .bindInsert .. => 4
  | .createCounterparty .. | .assessRuleset .. | .quoteTable .. | .bindPublish .. => 5
  | .assessSubmission .. | .quoteDecision .. | .bindActivate .. => 6
  | .assessGuard .. | .quoteSubmission .. | .bindSubmit .. => 7
  | .quoteGuard .. | .bindResolve .. => 8
  | .bindCreate .. => 9
  | .bindClock .. => 10
  | .bindHolder _ => 11
  | .bindQuote .. => 12
  | .bindDecision .. => 13
  | .bindCheck .. => 14
  | .bindSubmission .. => 15

theorem rank_next {ph : Phase} {c rest} (found : ph.next = some ⟨c, rest⟩) (answer) :
    (rest answer).rank < ph.rank := by
  have leads := leads_next found answer
  generalize rest answer = ph' at leads ⊢
  cases leads with
  | ended =>
      cases ph with
      | ended => cases found
      | _ => exact Nat.succ_pos _
  | _ => simp only [rank, Nat.reduceLT]

/-- What a request answers once it has ended. -/
def result : Phase → Except PyErr Answer
  | .ended result => result
  | _ => .error .died

/-- The program that remains at a point. -/
def prog (ph : Phase) : Program Answer :=
  match _found : ph.next with
  | some ⟨c, rest⟩ => .call c fun answer => (rest answer).prog
  | none => .ofExcept ph.result
termination_by ph.rank
decreasing_by exact rank_next _found answer

theorem prog_call {ph : Phase} {c cont} {rest : Except PyErr (Reply c) → Program Answer}
    (found : ph.next = some ⟨c, cont⟩) (tail : ∀ answer, (cont answer).prog = rest answer) :
    ph.prog = .call c rest := by
  rw [prog]
  split
  · rename_i found'
    cases found.symm.trans found'
    exact congrArg _ (funext tail)
  · rename_i missing
    cases found.symm.trans missing

theorem prog_ended (result : Except PyErr Answer) : (ended result).prog = .ofExcept result := by
  rw [prog]
  rfl

/-- A step without a call, in a service under its route's handler. -/
theorem prog_onOk {α β : Type} {failure : PyErr → PyErr} {next : α → Phase} {rest : α → Program β}
    {last : β → Program Answer} (answer : Except PyErr α) (tail : ∀ value, (next value).prog =
      ((rest value).handling fun err => .raise (failure err)).bind last) :
    (onOk failure next answer).prog =
      (((Prog.ofExcept answer).bind rest).handling fun err => .raise (failure err)).bind last := by
  cases answer with
  | ok value => exact tail value
  | error err => exact prog_ended _

/-- The same inside a call of the client. -/
theorem prog_onOk_bind {α β γ : Type} {failure : PyErr → PyErr} {next : α → Phase} {inner : α → Program β}
    {rest : β → Program γ} {last : γ → Program Answer} (answer : Except PyErr α) (tail : ∀ value, (next value).prog =
      (((inner value).bind rest).handling fun err => .raise (failure err)).bind last) :
    (onOk failure next answer).prog =
      ((((Prog.ofExcept answer).bind inner).bind rest).handling fun err => .raise (failure err)).bind last := by
  cases answer with
  | ok value => exact tail value
  | error err => exact prog_ended _

theorem next_prog (ph : Phase) : ph.prog.next = ph.next.map (mapNext prog) := by
  cases found : ph.next with
  | none =>
      rw [prog]
      split
      · rename_i found'
        cases found.symm.trans found'
      · cases ph.result <;> rfl
  | some n =>
      obtain ⟨c, cont⟩ := n
      rw [prog_call found fun _ => rfl]
      rfl

/-- The first point of a request. -/
def start : Request → Phase
  | .create payload actor => .createCounterparty payload actor
  | .assess submissionId actor => .assessGuard submissionId actor
  | .quote submissionId actor => .quoteGuard submissionId actor
  | .bind submissionId actor => .bindSubmission submissionId actor

end Phase

/-- The routes as program points. -/
def points : Control Reply PyErr Request Phase where
  start := Phase.start
  next := Phase.next
  dead := .failed .died

namespace Phase

theorem create_prog (payload : SubmissionCreate) (actor : String) :
    (createCounterparty payload actor).prog = Routes.createSubmission payload actor := by
  refine prog_call rfl fun
    | .error _ => prog_ended _
    | .ok cp => prog_call rfl fun
      | .error _ => prog_ended _
      | .ok row => prog_call rfl fun
        | .error _ => prog_ended _
        | .ok entry => prog_call rfl fun
          | .error _ => prog_ended _
          | .ok _ => prog_call rfl fun
            | .error _ => prog_ended _
            | .ok _ => prog_ended _

theorem assess_prog (submissionId actor : String) :
    (assessGuard submissionId actor).prog = Routes.assessSubmission submissionId actor := by
  refine prog_call rfl fun
    | .error _ => prog_ended _
    | .ok (some _) => prog_ended _
    | .ok none => prog_call rfl fun
      | .error _ => prog_ended _
      | .ok none => prog_ended _
      | .ok (some submission) => prog_call rfl fun
        | .error _ => prog_ended _
        | .ok none => prog_ended _
        | .ok (some ruleset) => ?_
  exact prog_onOk (SubmissionService.assessed submission ruleset) fun result => prog_call rfl fun
    | .error _ => prog_ended _
    | .ok row => prog_call rfl fun
      | .error _ => prog_ended _
      | .ok entry => prog_call rfl fun
        | .error _ => prog_ended _
        | .ok _ => prog_call rfl fun
          | .error _ => prog_ended _
          | .ok _ => prog_ended _

theorem quote_prog (submissionId actor : String) :
    (quoteGuard submissionId actor).prog = Routes.quoteSubmission submissionId actor := by
  refine prog_call rfl fun
    | .error _ => prog_ended _
    | .ok (some _) => prog_ended _
    | .ok none => prog_call rfl fun
      | .error _ => prog_ended _
      | .ok none => prog_ended _
      | .ok (some submission) => prog_call rfl fun
        | .error _ => prog_ended _
        | .ok none => prog_ended _
        | .ok (some decision) => ?_
  change (if decision.outcome = Outcome.decline.value then _ else _ : Phase).prog =
    (Prog.handling (if decision.outcome = Outcome.decline.value then _ else _) _).bind _
  split
  · exact prog_ended _
  · refine prog_call rfl fun
      | .error _ => prog_ended _
      | .ok none => prog_ended _
      | .ok (some rateTable) => ?_
    exact prog_onOk (RatingService.priced submission rateTable) fun breakdown => prog_call rfl fun
      | .error _ => prog_ended _
      | .ok row => prog_call rfl fun
        | .error _ => prog_ended _
        | .ok entry => prog_call rfl fun
          | .error _ => prog_ended _
          | .ok _ => prog_call rfl fun
            | .error _ => prog_ended _
            | .ok _ => prog_ended _

/-- From the insert of the Binding on. -/
theorem insert_prog (file : BindFile) (request : CreatePolicyRequest) (policy : PolicyRef) (published : Bool) :
    (bindInsert file request policy published).prog =
      Prog.bind (Prog.handling (do
        let binding ← bindingsAdd (BindService.newBinding file.submission file.quote policy published file.actor)
        let _ ← auditAppend (BindService.boundEntry file.submission file.quote policy published file.actor)
        Session.commit
        Session.refresh
        return binding) fun err => .raise (Routes.bindFailure err)) fun binding => .ret (.binding binding) := by
  exact prog_call rfl fun
    | .error _ => prog_ended _
    | .ok row => prog_call rfl fun
      | .error _ => prog_ended _
      | .ok entry => prog_call rfl fun
        | .error _ => prog_ended _
        | .ok _ => prog_call rfl fun
          | .error _ => prog_ended _
          | .ok _ => prog_ended _

/-- From the submit on. -/
theorem submit_prog (file : BindFile) (request : CreatePolicyRequest) (policy : PolicyRef) :
    (bindSubmit file request policy).prog =
      Prog.bind (Prog.handling (do
        PolicyClient.submit policy.id
        PolicyClient.activate policy.id
        let eventPublished ← BindService.publishBestEffort
          (BindService.eventOf file.submission file.quote request)
        let binding ← bindingsAdd
          (BindService.newBinding file.submission file.quote policy eventPublished file.actor)
        let _ ← auditAppend (BindService.boundEntry file.submission file.quote policy eventPublished file.actor)
        Session.commit
        Session.refresh
        return binding) fun err => .raise (Routes.bindFailure err)) fun binding => .ret (.binding binding) := by
  refine prog_call rfl fun
    | .error _ => prog_ended _
    | .ok resp => ?_
  refine prog_onOk (PolicyClient.readTransition policy.id "submit" resp) fun _ => prog_call rfl fun
    | .error _ => prog_ended _
    | .ok resp => ?_
  exact prog_onOk (PolicyClient.readTransition policy.id "activate" resp) fun _ => prog_call rfl fun
    | .ok _ => insert_prog ..
    | .error _ => insert_prog ..

/-- From the clock on. -/
theorem clock_prog (file : BindFile) (holder : String) :
    (bindClock file holder).prog =
      Prog.bind (Prog.handling (do
        let now ← datetimeNow
        let request ← Prog.ofExcept
          (BindService.createRequest file.submission holder (BindService.policyNumberFor file.quote.id) now)
        let policy ← PolicyClient.createPolicy request
        PolicyClient.submit policy.id
        PolicyClient.activate policy.id
        let eventPublished ← BindService.publishBestEffort
          (BindService.eventOf file.submission file.quote request)
        let binding ← bindingsAdd
          (BindService.newBinding file.submission file.quote policy eventPublished file.actor)
        let _ ← auditAppend (BindService.boundEntry file.submission file.quote policy eventPublished file.actor)
        Session.commit
        Session.refresh
        return binding) fun err => .raise (Routes.bindFailure err)) fun binding => .ret (.binding binding) := by
  refine prog_call rfl fun
    | .error _ => prog_ended _
    | .ok now => ?_
  refine prog_onOk (BindService.createRequest file.submission holder (BindService.policyNumberFor file.quote.id) now)
    fun request => prog_call rfl fun
      | .error _ => prog_ended _
      | .ok resp => ?_
  refine prog_onOk_bind (PolicyClient.readCreated resp) fun
    | some policy => submit_prog file request policy
    | none => prog_call rfl fun
      | .error _ => prog_ended _
      | .ok resp => ?_
  exact prog_onOk_bind (PolicyClient.readListed request.policyNumber resp) fun
    | some policy => submit_prog file request policy
    | none => prog_ended _

theorem bind_prog (submissionId actor : String) :
    (bindSubmission submissionId actor).prog = Routes.bindSubmission submissionId actor := by
  refine prog_call rfl fun
    | .error _ => prog_ended _
    | .ok none => prog_ended _
    | .ok (some submission) => prog_call rfl fun
      | .error _ => prog_ended _
      | .ok (some _) => prog_ended _
      | .ok none => prog_call rfl fun
        | .error _ => prog_ended _
        | .ok none => prog_ended _
        | .ok (some decision) => ?_
  change (if decision.outcome ≠ Outcome.accept.value then _ else _ : Phase).prog =
    (Prog.handling (if decision.outcome ≠ Outcome.accept.value then _ else _) _).bind _
  split
  · exact prog_ended _
  · exact prog_call rfl fun
      | .error _ => prog_ended _
      | .ok none => prog_ended _
      | .ok (some quote) => prog_call rfl fun
        | .error _ => prog_ended _
        | .ok none => clock_prog ..
        | .ok (some _) => clock_prog ..

/-- The points of a request unfold to the program of its route. -/
theorem start_prog (req : Request) : (start req).prog = route req := by
  cases req with
  | create payload actor => exact create_prog payload actor
  | assess submissionId actor => exact assess_prog submissionId actor
  | quote submissionId actor => exact quote_prog submissionId actor
  | bind submissionId actor => exact bind_prog submissionId actor

end Phase

/-- Runs of the routes are runs of their program points. -/
def routes : points.Hom requests where
  map := Phase.prog
  start := Phase.start_prog
  next := Phase.next_prog
  dead := Phase.prog_ended _

end Underwriting
