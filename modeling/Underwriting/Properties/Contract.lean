import Underwriting.Bind.Contract
import Underwriting.Properties.Client

/-! # Every create keeps the contract

In every run, whatever is sent to create a policy is a `CreatePolicyRequest` of the
policy service's contract, for cover from the midnight of the day that the clock said it
was; and the event of a bound risk tells the policy and the cover that were asked for.
-/

namespace Underwriting.Contract

open Interleaving
open HttpPolicyServiceClient (createJson)
open Payload (textAt)

/-! ## What a bind calls -/

/-- The cover was dated by a reading of the clock on record. -/
def Dated (log : Log Reply) (req : CreatePolicyRequest) : Prop :=
  ∃ now, ⟨.now, now⟩ ∈ log ∧ BindService.coverDates now = .ok (req.effectiveDate, req.expiryDate)

/-- The policy of the event is the one the request asks for. -/
structure Announces (event : BoundRiskEvent) (req : CreatePolicyRequest) : Prop where
  policyNumber : event.policyNumber = req.policyNumber
  productCode : event.productCode = req.productCode
  effectiveDate : event.effectiveDate = req.effectiveDate
  expiryDate : event.expiryDate = req.expiryDate

/-- Creates are dated, and events are of a create that was answered. -/
def Faithful (log : Log Reply) : Call → Prop
  | .policyService (.create req) => Dated log req
  | .publish event => ∃ req resp, ⟨.policyService (.create req), resp⟩ ∈ log ∧ Announces event req
  | _ => True

/-- Neither a create nor a publish. -/
def Plain : Call → Prop
  | .policyService (.create _) | .publish _ => False
  | _ => True

theorem plain_faithful (log : Log Reply) (c : Call) (plain : Plain c) : Faithful log c := by
  unfold Plain at plain
  split at plain
  · exact plain.elim
  · exact plain.elim
  · rename_i uncreated unpublished
    unfold Faithful
    split
    · exact absurd rfl (uncreated _)
    · exact absurd rfl (unpublished _)
    · trivial

/-- Every answer is possible. -/
def Any (_ : Log Reply) (c : Call) (_ : Except PyErr (Reply c)) : Prop := True

section Calls

variable {α β : Type} {program : Program α} {next : α → Program β} {log : Log Reply}

theorem along_plain (calls : program.Calls Plain) : program.Along Any Faithful (fun log' _ => log <+: log') log :=
  Prog.along_calls plain_faithful calls log

/-- Plain calls, then what comes after a longer record. -/
theorem along_then (calls : program.Calls Plain)
    (after : ∀ log' value, log <+: log' → (next value).Along Any Faithful (fun _ _ => True) log') :
    (program >>= next).Along Any Faithful (fun _ _ => True) log :=
  Prog.Along.bind_ok ((along_plain calls).imp fun log' _ longer value _ => after log' value longer)

theorem along_of_plain (calls : program.Calls Plain) : program.Along Any Faithful (fun _ _ => True) log :=
  (along_plain calls).imp fun _ _ _ => trivial

end Calls

/-! ## The routes -/

section Routes

variable {log : Log Reply}

/-- The row, its audit entry, the commit and the refresh. -/
theorem recorded_plain {c : Call} (plain : Plain c) (entry : Reply c → NewAuditEntry) :
    (do
      let row ← ask c
      let _ ← auditAppend (entry row)
      Session.commit
      Session.refresh
      return row : Program (Reply c)).Calls Plain :=
  .bind (Prog.calls_perform plain) fun _ => .bind (Prog.calls_perform trivial) fun _ =>
    .bind (Prog.calls_perform trivial) fun _ => .bind (Prog.calls_perform trivial) fun _ => trivial

theorem submission_plain (submissionId : String) : (SubmissionService.getSubmission submissionId).Calls Plain := by
  refine .bind (Prog.calls_perform trivial) fun found => ?_
  cases found <;> trivial

theorem holder_plain (submission : Submission) : (BindService.counterpartyName submission).Calls Plain := by
  refine .bind (Prog.calls_perform trivial) fun found => ?_
  cases found <;> trivial

theorem transition_plain (policyId action : String) : (PolicyClient.transition policyId action).Calls Plain :=
  .bind (Prog.calls_perform trivial) fun _ => Prog.calls_ofExcept _

theorem create_plain (payload : SubmissionCreate) (actor : String) :
    (Routes.createSubmission payload actor).Calls Plain := by
  refine .bind (.bind (Prog.calls_perform trivial) fun cp => ?_) fun _ => trivial
  exact recorded_plain (c := .addSubmission _) trivial _

theorem assess_plain (submissionId actor : String) : (Routes.assessSubmission submissionId actor).Calls Plain := by
  refine .bind (Prog.calls_perform trivial) fun existing => ?_
  cases existing with
  | some existing => trivial
  | none =>
      refine .bind (.handling (.bind (submission_plain submissionId) fun submission => ?_) fun _ => trivial) fun _ => trivial
      refine .bind (Prog.calls_perform trivial) fun ruleset => ?_
      cases ruleset with
      | none => trivial
      | some ruleset => exact .bind (Prog.calls_ofExcept _) fun result => recorded_plain (c := .addDecision _) trivial _

theorem quote_plain (submissionId actor : String) : (Routes.quoteSubmission submissionId actor).Calls Plain := by
  refine .bind (Prog.calls_perform trivial) fun existing => ?_
  cases existing with
  | some existing => trivial
  | none =>
      refine .bind (.handling (.bind (submission_plain submissionId) fun submission => ?_) fun _ => trivial) fun _ => trivial
      refine .bind (Prog.calls_perform trivial) fun decision => ?_
      cases decision with
      | none => trivial
      | some decision =>
          change Prog.Calls _ (if decision.outcome = Outcome.decline.value then _ else _ : Program Quote)
          split
          · trivial
          · refine .bind (Prog.calls_perform trivial) fun rateTable => ?_
            cases rateTable with
            | none => trivial
            | some rateTable =>
                exact .bind (Prog.calls_ofExcept _) fun breakdown => recorded_plain (c := .addQuote _) trivial _

/-- A policy is only returned after its create was answered. -/
theorem createPolicy_along {req : CreatePolicyRequest} (dated : Dated log req) :
    (PolicyClient.createPolicy req).Along Any Faithful (fun log' result => ∀ policy, result = .ok policy →
      log <+: log' ∧ ∃ resp, ⟨.policyService (.create req), resp⟩ ∈ log') log := by
  refine ⟨dated, fun answer _ => ?_⟩
  cases answer with
  | error err => exact fun policy same => by cases same
  | ok resp =>
      refine (along_plain ?_).imp fun log' result longer policy _ =>
        ⟨(List.prefix_append ..).trans longer, resp, longer.subset (by simp [Log.after])⟩
      change Prog.Calls Plain (Prog.ofExcept (PolicyClient.readCreated resp) >>= _)
      refine .bind (Prog.calls_ofExcept _) fun created => ?_
      cases created with
      | some policy => trivial
      | none =>
          refine .bind (.bind (Prog.calls_perform trivial) fun _ => Prog.calls_ofExcept _) fun existing => ?_
          cases existing <;> trivial

theorem publish_along {event : BoundRiskEvent} (told : Faithful log (.publish event)) :
    (BindService.publishBestEffort event).Along Any Faithful (fun _ _ => True) log := by
  refine ⟨told, fun answer _ => ?_⟩
  cases answer <;> trivial

/-- After the clock was read, the policy is made, announced and recorded. -/
theorem issue_along (submission : Submission) (quote : Quote) (holder actor : String) {now : ℕ}
    (reading : ⟨.now, now⟩ ∈ log) :
    (do
      let request ← Prog.ofExcept (BindService.createRequest submission holder (BindService.policyNumberFor quote.id) now)
      let policyRef ← PolicyClient.createPolicy request
      PolicyClient.submit policyRef.id
      PolicyClient.activate policyRef.id
      let eventPublished ← BindService.publishBestEffort (BindService.eventOf submission quote request)
      let binding ← bindingsAdd (BindService.newBinding submission quote policyRef eventPublished actor)
      let _ ← auditAppend (BindService.boundEntry submission quote policyRef eventPublished actor)
      Session.commit
      Session.refresh
      return binding : Program Binding).Along Any Faithful (fun _ _ => True) log := by
  refine Prog.Along.bind_ok (Prog.along_ofExcept fun request made => ?_)
  obtain ⟨dated, number⟩ := BindService.createRequest_ok made
  refine Prog.Along.bind_ok ((createPolicy_along ⟨now, reading, dated⟩).imp fun log₁ result met policy same => ?_)
  obtain ⟨-, resp, created⟩ := met policy same
  refine along_then (transition_plain ..) fun log₂ _ longer => ?_
  refine along_then (transition_plain ..) fun log₃ _ longer' => ?_
  have told : Faithful log₃ (.publish (BindService.eventOf submission quote request)) :=
    ⟨request, resp, (longer.trans longer').subset created, ⟨number.symm, rfl, rfl, rfl⟩⟩
  refine Prog.Along.bind_ok ((publish_along told).imp fun log₄ _ _ published _ => ?_)
  exact along_of_plain (recorded_plain (c := .addBinding _) trivial _)

/-- The file is read, the clock, and then the policy is made, announced and recorded. -/
theorem service_along (submissionId actor : String) :
    (BindService.bindSubmission submissionId actor).Along Any Faithful (fun _ _ => True) log := by
  refine along_then (submission_plain submissionId) fun _ submission _ => ?_
  refine along_then (Prog.calls_perform trivial) fun _ existing _ => ?_
  cases existing with
  | some existing => trivial
  | none =>
      refine along_then (Prog.calls_perform trivial) fun _ decision _ => ?_
      cases decision with
      | none => trivial
      | some decision =>
          change Prog.Along _ _ _ (if decision.outcome ≠ Outcome.accept.value then _ else _ : Program Binding) _
          split
          · trivial
          · refine along_then (Prog.calls_perform trivial) fun _ quote _ => ?_
            cases quote with
            | none => trivial
            | some quote =>
                refine along_then (holder_plain submission) fun log holder _ => ⟨trivial, fun answer _ => ?_⟩
                cases answer with
                | error err => trivial
                | ok now =>
                    exact issue_along submission quote holder actor (by simp [Log.after])

theorem bind_along (submissionId actor : String) :
    (Routes.bindSubmission submissionId actor).Along Any Faithful (fun _ _ => True) log := by
  refine Prog.Along.bind_ok (Prog.Along.handling ((service_along submissionId actor).imp fun log' result _ => ?_))
  cases result with
  | ok binding => exact fun _ _ => trivial
  | error err => exact fun _ same => by cases same

theorem route_along (req : Request) : (route req).Along Any Faithful (fun _ _ => True) [] := by
  cases req with
  | create payload actor => exact along_of_plain (create_plain payload actor)
  | assess submissionId actor => exact along_of_plain (assess_plain submissionId actor)
  | quote submissionId actor => exact along_of_plain (quote_plain submissionId actor)
  | bind submissionId actor => exact bind_along submissionId actor

end Routes

/-! ## What the stack sends -/

/-- What a body and an event both tell. -/
def told : List String := ["policy_number", "product_code", "effective_date", "expiry_date"]

/-- `POST /v1/policies` -/
def IsCreate (client : HttpPolicyServiceClient) (request : HttpRequest) : Prop :=
  request.method = .post ∧ request.url = client.baseUrl ++ "/v1/policies"

/-- The creates are what is sent with a body, and a body keeps the contract, for cover
    dated by the clock; what is published was asked for in a request that was answered. -/
def Honours (client : HttpPolicyServiceClient) (log : Log StackReply) : StackCall → Prop
  | .client (.http request) => (IsCreate client request ↔ ∃ body, request.json = some body) ∧
      ∀ body, request.json = some body →
        createPolicyRequest.accepts body ∧ ∃ now, ⟨.service .now, now⟩ ∈ log ∧ ReadsCover body now
  | .service (.publish event) => ∃ request resp body, ⟨.client (.http request), resp⟩ ∈ log ∧
      request.json = some body ∧ ∀ key ∈ told, textAt body key = textAt event.toJson key
  | _ => True

section Stack

variable {client : HttpPolicyServiceClient} {raiseForStatus : StatusCheck} {log : Log Reply} {log' log'' : Log StackReply}

/-- The stack's record of a record of the services. -/
structure Related (client : HttpPolicyServiceClient) (log : Log Reply) (log' : Log StackReply) : Prop where
  clock : ∀ now, ⟨.now, now⟩ ∈ log → ⟨.service .now, now⟩ ∈ log'
  created : ∀ req resp, ⟨.policyService (.create req), resp⟩ ∈ log →
    ∃ headers, ⟨.client (.http (client.postPolicies req headers)), resp⟩ ∈ log'

theorem Related.longer (related : Related client log log') (longer : log' <+: log'') : Related client log log'' where
  clock now member := longer.subset (related.clock now member)
  created req resp member := by
    obtain ⟨headers, sent⟩ := related.created req resp member
    exact ⟨headers, longer.subset sent⟩

/-- A call of the services that is no request goes on both records. -/
theorem Related.service (related : Related client log log') {c : Call} (other : c.kind ≠ .policyService) (value : Reply c) :
    Related client (log ++ [⟨c, value⟩]) (log' ++ [⟨.service c, value⟩]) := by
  constructor
  · intro now member
    rcases List.mem_append.mp member with old | new
    · exact List.mem_append_left _ (related.clock now old)
    · cases List.mem_singleton.mp new
      exact List.mem_append_right _ (List.mem_singleton_self _)
  · intro req resp member
    rcases List.mem_append.mp member with old | new
    · obtain ⟨headers, sent⟩ := related.created req resp old
      exact ⟨headers, List.mem_append_left _ sent⟩
    · cases List.mem_singleton.mp new
      exact absurd rfl other

theorem Related.request (related : Related client log log') (request : PasRequest) (headers : List (String × String))
    (resp : PasResponse) : Related client (log ++ [⟨.policyService request, resp⟩])
      (log' ++ [⟨.client (.http (client.requestOf request headers)), resp⟩]) := by
  constructor
  · intro now member
    rcases List.mem_append.mp member with old | new
    · exact List.mem_append_left _ (related.clock now old)
    · cases List.mem_singleton.mp new
  · intro req answer member
    rcases List.mem_append.mp member with old | new
    · obtain ⟨headers, sent⟩ := related.created req answer old
      exact ⟨headers, List.mem_append_left _ sent⟩
    · cases List.mem_singleton.mp new
      exact ⟨headers, List.mem_append_right _ (List.mem_singleton_self _)⟩

/-- Every answer of the stack is possible. -/
def AnyStack (_ : Log StackReply) (c : StackCall) (_ : Except PyErr (StackReply c)) : Prop := True

/-- The calls of the token provider come first. -/
theorem along_provided (log' : Log StackReply) (program : TokenProgram String) :
    (ofClient (ofToken program)).Along AnyStack (Honours client) (fun log'' _ => log' <+: log'') log' := by
  refine Prog.along_calls (p := fun c => ∃ d, c = .client (.token d)) ?_ ?_ log'
  · rintro log c ⟨d, rfl⟩
    trivial
  · exact Prog.calls_rename (Prog.calls_rename (Prog.calls_of_forall (fun d => ⟨d, rfl⟩) program))

theorem isCreate_iff (request : PasRequest) (headers : List (String × String)) :
    IsCreate client (client.requestOf request headers) ↔ ∃ body, (client.requestOf request headers).json = some body := by
  cases request with
  | create req => exact ⟨fun _ => ⟨_, rfl⟩, fun _ => ⟨rfl, rfl⟩⟩
  | list number => exact ⟨fun create => (by cases create.1), fun ⟨_, sent⟩ => by cases sent⟩
  | transition policyId action =>
      refine ⟨fun create => ?_, fun ⟨_, sent⟩ => by cases sent⟩
      have lengths := congrArg String.length create.2
      have collection : "/v1/policies".length = 12 := by decide
      have item : "/v1/policies/".length = 13 := by decide
      simp only [HttpPolicyServiceClient.requestOf, HttpPolicyServiceClient.postTransition, String.length_append,
        collection, item] at lengths
      omega

theorem sent_honours (related : Related client log log') (request : PasRequest) (headers : List (String × String))
    (faithful : Faithful log (.policyService request)) :
    Honours client log' (.client (.http (client.requestOf request headers))) := by
  refine ⟨isCreate_iff request headers, fun body sent => ?_⟩
  cases request with
  | create req =>
      cases sent
      obtain ⟨now, reading, dated⟩ := faithful
      obtain ⟨starts, ends, effective, expiry, covers⟩ := coverDates_read dated
      exact ⟨createJson_accepted effective expiry, now, related.clock now reading, _, _, starts, ends, rfl, rfl, effective,
        expiry, covers⟩
  | list number => cases sent
  | transition policyId action => cases sent

/-- A call of the services itself. -/
theorem service_honours {c : Call} (other : c.kind ≠ .policyService) (related : Related client log log')
    (honoured : Honours client log' (.service c)) : (stackCall (.service c)).Along AnyStack (Honours client)
      (fun log' answer => Any log c answer ∧ Related client (log.after c answer) log') log' := by
  refine ⟨honoured, fun answer _ => ?_⟩
  cases answer with
  | error err => exact ⟨trivial, related⟩
  | ok value => exact ⟨trivial, related.service other value⟩

theorem published_honours {event : BoundRiskEvent} (related : Related client log log')
    (faithful : Faithful log (.publish event)) : Honours client log' (.service (.publish event)) := by
  obtain ⟨req, resp, member, announces⟩ := faithful
  obtain ⟨headers, sent⟩ := related.created req resp member
  refine ⟨_, resp, createJson req, sent, rfl, ?_⟩
  intro key shared
  simp only [told, List.mem_cons, List.not_mem_nil, or_false] at shared
  rcases shared with rfl | rfl | rfl | rfl
  · exact congrArg some announces.policyNumber.symm
  · exact congrArg some announces.productCode.symm
  · exact congrArg some announces.effectiveDate.symm
  · exact congrArg some announces.expiryDate.symm

/-- Where the services are faithful, the stack honours the contract. -/
theorem along_impl (c : Call) (log : Log Reply) (log' : Log StackReply) (related : Related client log log')
    (faithful : Faithful log c) : (client.impl raiseForStatus c).Along AnyStack (Honours client)
      (fun log' answer => Any log c answer ∧ Related client (log.after c answer) log') log' := by
  cases c with
  | policyService request =>
      rw [HttpPolicyServiceClient.impl_policyService]
      refine Prog.Along.bind ((along_provided log' _).imp fun log'' result longer => ?_)
      have related := related.longer longer
      cases result with
      | error err => exact ⟨trivial, related⟩
      | ok token =>
          refine ⟨sent_honours related request _ faithful, fun answer _ => ?_⟩
          cases answer with
          | error err => exact ⟨trivial, related⟩
          | ok resp => exact ⟨trivial, related.request request _ resp⟩
  | publish event => exact service_honours (by simp [Call.kind]) related (published_honours related faithful)
  | _ => exact service_honours (by simp [Call.kind]) related trivial

variable {σ φ υ : Type} {H : HttpPas σ φ υ}

/-- In every run, whatever is on its way to the policy service or the publisher, or has
    been answered, keeps the contract. -/
theorem contract_kept {w : World σ} {s : StackSys σ}
    (run : Run (stack client H) (stackRequests client raiseForStatus) anyStep ⟨w, []⟩ s) :
    ∀ t ∈ s.threads, (∀ c rest, t.ctl.next = some ⟨c, rest⟩ → Honours client t.log c) ∧
      ∀ before entry after, t.log = before ++ entry :: after → Honours client before entry.1 := by
  intro t member
  have along : t.Along AnyStack (Honours client) (fun _ _ => True) (fun _ _ => True) .died := by
    apply along_run (fun _ _ => ⟨trivial, trivial⟩) trivial ?_ run rfl t member
    intro req
    have empty : Related client [] [] := ⟨fun _ none => (nomatch none), fun _ _ none => nomatch none⟩
    exact ((route_along req).interpret along_impl empty).imp fun _ _ _ => trivial
  exact ⟨fun c rest next => along.coming next, along.behind⟩

end Stack

theorem bound_kept : ∃ s : StackSys ℕ, Client.refetched s ∧ ∀ t ∈ s.threads,
    (∀ c rest, t.ctl.next = some ⟨c, rest⟩ → Honours Client.pasClient t.log c) ∧
      ∀ before entry after, t.log = before ++ entry :: after → Honours Client.pasClient before entry.1 := by
  obtain ⟨s, run, checked⟩ := exists_run (stack Client.pasClient Client.counter)
    (stackRequests Client.pasClient Client.success) anyStep ⟨.initial 0, []⟩ Client.boundOver Client.refetched
    (by decide +kernel)
  exact ⟨s, checked, contract_kept run⟩

end Underwriting.Contract
