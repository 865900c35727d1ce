import Underwriting.Properties.Answered
import Underwriting.Properties.Current

/-! # Why a write is refused

A write route refuses a request for what one of its reads has found. So a refusal
was right at a moment since the request arrived, whatever other requests commit
meanwhile.
-/

namespace Underwriting.Refused

open Interleaving
open Answered (ClientErrors)
open Reads (Later)

variable {σ φ υ α : Type} {P : PasModel σ φ υ}

/-- One of the latest decisions of a submission. -/
def Newest (db : Db) (sid : String) (decision : Decision) : Prop :=
  decision ∈ db.decisionsOf sid ∧ ∀ d ∈ db.decisionsOf sid, d.latestKey ≤ decision.latestKey

/-- The submission that a request is about; a create has none yet. -/
def subject : Request → Option String
  | .create _ _ => none
  | .assess sid _ | .quote sid _ | .bind sid _ => some sid

/-- The refusals of the write routes, by the rows that justify them. -/
inductive Refusal (db : Db) : Request → ℕ → String → Prop where
  | missing {req sid} (asks : subject req = some sid) (unknown : ∀ row ∈ db.submissions, row.id ≠ sid) :
      Refusal db req 404 "submission not found"
  | assessFrozen {sid actor} (bound : db.Bound sid) : Refusal db (.assess sid actor) 409 "submission already bound"
  | quoteFrozen {sid actor} (bound : db.Bound sid) : Refusal db (.quote sid actor) 409 "submission already bound"
  | noRuleset {sid actor} (empty : db.rulesets = []) : Refusal db (.assess sid actor) 503 "no appetite ruleset available"
  | unassessed {sid actor} (empty : db.decisionsOf sid = []) :
      Refusal db (.quote sid actor) 404 "submission has not been assessed"
  | declined {sid actor decision} (latest : Newest db sid decision) (declined : decision.outcome = Outcome.decline.value) :
      Refusal db (.quote sid actor) 409 "a declined risk cannot be quoted"
  | noRateTable {sid actor} (empty : db.rateTables = []) : Refusal db (.quote sid actor) 503 "no rate table available"
  | undecided {sid actor} (empty : db.decisionsOf sid = []) :
      Refusal db (.bind sid actor) 422 "only an accepted submission can be bound"
  | unaccepted {sid actor decision} (latest : Newest db sid decision)
      (unaccepted : decision.outcome ≠ Outcome.accept.value) :
      Refusal db (.bind sid actor) 422 "only an accepted submission can be bound"
  | unquoted {sid actor} (empty : db.quotesOf sid = []) :
      Refusal db (.bind sid actor) 422 "submission has no quote to bind"
  | unresolved {sid actor} (free : ¬db.Bound sid) :
      Refusal db (.bind sid actor) 409 "policy already exists in the policy service but could not be resolved"

/-! ## What a service raises -/

/-- Why a service raises one of the exceptions that its route answers. -/
def Reason (sid : String) (db : Db) : PyErr → Prop
  | .submissionNotFound _ => ∀ row ∈ db.submissions, row.id ≠ sid
  | .noRuleset => db.rulesets = []
  | .noDecision _ => db.decisionsOf sid = []
  | .declinedRisk _ => ∃ decision, Newest db sid decision ∧ decision.outcome = Outcome.decline.value
  | .noRateTable => db.rateTables = []
  | .noAcceptedDecision _ =>
      db.decisionsOf sid = [] ∨ ∃ decision, Newest db sid decision ∧ decision.outcome ≠ Outcome.accept.value
  | .noQuote _ => db.quotesOf sid = []
  | .policyAlreadyExists _ => ¬db.Bound sid
  | .http _ _ => False
  | _ => True

/-- Exceptions that no route answers. -/
def Plain (err : PyErr) : Prop := err.foreign ∨ ∃ message, err = .rating message ∨ err = .policyService message

theorem Plain.reason {err : PyErr} (plain : Plain err) (sid : String) (db : Db) : Reason sid db err := by
  rcases plain with foreign | ⟨message, rfl | rfl⟩
  · cases err <;> trivial
  · trivial
  · trivial

/-- An exception that is raised has had its reason at a moment seen. -/
def Blames (sid : String) (past : List (World σ)) (w : World σ) (_ : Db) (result : Except PyErr α) : Prop :=
  ∀ err, result = .error err → ∃ w' ∈ past ++ [w], Reason sid w'.db err

section Services

variable {sid : String} {past : List (World σ)} {w : World σ} {pending : Db}

theorem blames_raise {err : PyErr} (reason : Reason sid w.db err) :
    (Prog.raise err : Program α).Watches (backend P) Later (Blames sid) past w pending := by
  intro err' same
  cases same
  exact ⟨w, by simp, reason⟩

theorem blames_read (client : ClientErrors P) {c : Call} (kind : c.kind = .query) {next : Reply c → Program α}
    (answered : ∀ w₁, Later w w₁ → ∀ pick reply, w₁.db.query pick c = some reply →
      (next reply).Watches (backend P) Later (Blames sid) (past ++ [w]) w₁ pending) :
    (ask c >>= next).Watches (backend P) Later (Blames sid) past w pending := by
  refine Prog.watches_ask (fun w₁ later fate reply w₂ session handled => ?_) fun w₁ _ fate err w₂ session handled => ?_
  · obtain ⟨rfl, rfl, pick, found⟩ := (handle_cases (P := P) handled).query kind rfl
    exact answered w₂ later pick reply found
  · intro err' same
    cases same
    exact ⟨w₂, by simp, Plain.reason (.inl (Answered.raised_foreign client _ _ _ _ _ _ _ handled)) ..⟩

/-- The submission, or that there is none. -/
theorem blames_submission (client : ClientErrors P) {next : Submission → Program α}
    (found : ∀ w₁, Later w w₁ → ∀ row, w₁.db.Has sid row →
      (next row).Watches (backend P) Later (Blames sid) (past ++ [w]) w₁ pending) :
    (SubmissionService.getSubmission sid >>= next).Watches (backend P) Later (Blames sid) past w pending := by
  rw [SubmissionService.getSubmission, Prog.bind_assoc]
  refine blames_read client rfl fun w₁ later pick reply read => ?_
  cases reply with
  | none =>
      refine blames_raise fun row member => ?_
      simpa using List.find?_eq_none.mp (Option.some.inj read) row member
  | some row => exact found w₁ later row (Phase.found_submission read)

/-- From here on only such exceptions are raised as have had their reason. -/
theorem blames_rest (client : ClientErrors P) {q : PyErr → Prop} {program : Program α} (raises : program.Raises q)
    (plain : ∀ err, err.foreign → q err) (known : ∀ err, q err → ∃ w' ∈ past ++ [w], Reason sid w'.db err) :
    program.Watches (backend P) Later (Blames sid) past w pending := by
  refine (Prog.watches_raises raises fun handled =>
    plain _ (Answered.raised_foreign client _ _ _ _ _ _ _ handled)).imp fun past' w' _ result met => ?_
  intro err raised
  obtain ⟨w₁, among, reason⟩ := known err (met.2 err raised)
  exact ⟨w₁, met.1.subset among, reason⟩

theorem blames_plain (client : ClientErrors P) {program : Program α} (raises : program.Raises Plain) :
    program.Watches (backend P) Later (Blames sid) past w pending :=
  blames_rest client raises (fun _ foreign => .inl foreign) fun _ plain => ⟨w, by simp, plain.reason _ _⟩

end Services

/-! ## The services -/

section Parts

variable {q : PyErr → Prop}

theorem recorded_raises {c : Call} {entry : Reply c → NewAuditEntry} :
    (do
      let row ← ask c
      let _ ← auditAppend (entry row)
      Session.commit
      Session.refresh
      return row : Program (Reply c)).Raises q :=
  .bind (Prog.raises_perform _) fun _ => .bind (Prog.raises_perform _) fun _ => .bind (Prog.raises_perform _) fun _ =>
    .bind (Prog.raises_perform _) fun _ => trivial

variable (covers : ∀ err, Plain err → q err)
include covers

theorem foreign_raises {op : Except PyErr α} (foreign : Foreign op) : (Prog.ofExcept op : Program α).Raises q :=
  Prog.raises_ofExcept fun err raised => covers err (.inl (foreign.only err raised))

theorem priced_raises (submission : Submission) (rateTable : RateTable) :
    (Prog.ofExcept (RatingService.priced submission rateTable) : Program _).Raises q := by
  by_cases rated : Answered.HasFactor submission rateTable
  · exact foreign_raises covers (priced_foreign rated)
  · obtain ⟨spec, built, unknown⟩ := Answered.not_hasFactor rated
    obtain ⟨message, raised⟩ := priced_unknown built unknown
    rw [raised]
    exact covers _ (.inr ⟨message, .inl rfl⟩)

/-- The statuses that a client does not handle are an error of the policy service. -/
theorem transition_raises (policyId action : String) : (PolicyClient.transition policyId action).Raises q := by
  refine .bind (Prog.raises_perform _) fun resp => ?_
  by_cases usual : resp.statusCode ∈ [200, 201, 409]
  · exact foreign_raises covers (Foreign.readTransition usual)
  · obtain ⟨message, raised⟩ := transition_unexpected policyId action usual
    rw [raised]
    exact covers _ (.inr ⟨message, .inr rfl⟩)

theorem createPolicy_raises (request : CreatePolicyRequest) (unresolved : q (.policyAlreadyExists request.policyNumber)) :
    (PolicyClient.createPolicy request).Raises q := by
  refine .bind (Prog.raises_perform _) fun resp => .bind ?_ fun created => ?_
  · by_cases usual : resp.statusCode ∈ [201, 409]
    · exact foreign_raises covers (Foreign.readCreated usual)
    · obtain ⟨message, raised⟩ := created_unexpected usual
      rw [raised]
      exact covers _ (.inr ⟨message, .inr rfl⟩)
  · cases created with
    | some policy => trivial
    | none =>
        refine .bind (.bind (Prog.raises_perform _) fun resp => foreign_raises covers (.readListed _ resp)) fun existing => ?_
        cases existing with
        | some policy => trivial
        | none => exact unresolved

/-- From the counterparty's name on. -/
theorem bound_raises {submission : Submission} {quote : Quote} {actor : String}
    (unresolved : ∀ number, q (.policyAlreadyExists number)) :
    (do
      let counterpartyName ← BindService.counterpartyName submission
      let now ← datetimeNow
      let request ← Prog.ofExcept
        (BindService.createRequest submission counterpartyName (BindService.policyNumberFor quote.id) now)
      let policyRef ← PolicyClient.createPolicy request
      PolicyClient.submit policyRef.id
      PolicyClient.activate policyRef.id
      let eventPublished ← BindService.publishBestEffort (BindService.eventOf submission quote request)
      let binding ← bindingsAdd (BindService.newBinding submission quote policyRef eventPublished actor)
      let _ ← auditAppend (BindService.boundEntry submission quote policyRef eventPublished actor)
      Session.commit
      Session.refresh
      return binding : Program Binding).Raises q := by
  refine .bind (.bind (Prog.raises_perform _) fun found => ?_) fun holder => ?_
  · cases found <;> trivial
  refine .bind (Prog.raises_perform _) fun now => .bind (foreign_raises covers (.createRequest ..)) fun request => ?_
  refine .bind (createPolicy_raises covers request (unresolved _)) fun policy => ?_
  refine .bind (transition_raises covers _ _) fun _ => .bind (transition_raises covers _ _) fun _ => ?_
  refine .bind (.handling (.bind (Prog.raises_perform _) fun _ => trivial) fun _ _ => trivial) fun published => ?_
  exact recorded_raises

end Parts

section Blamed

variable {past : List (World σ)} {w : World σ} {pending : Db}

theorem assess_blames (client : ClientErrors P) (sid actor : String) :
    (SubmissionService.assessSubmission sid actor).Watches (backend P) Later (Blames sid) past w pending := by
  refine blames_submission client fun w₁ _ submission has => blames_read client rfl fun w₂ _ pick reply read => ?_
  cases reply with
  | none => exact blames_raise (Latest.limitOne_eq_none.mp (Option.some.inj read))
  | some ruleset =>
      refine blames_plain client (.bind ?_ fun result => recorded_raises)
      exact foreign_raises (fun _ => id) (.assessed submission ruleset)

theorem quote_blames (client : ClientErrors P) (sid actor : String) :
    (RatingService.quoteSubmission sid actor).Watches (backend P) Later (Blames sid) past w pending := by
  refine blames_submission client fun w₁ _ submission has => blames_read client rfl fun w₂ _ pick reply read => ?_
  cases reply with
  | none => exact blames_raise (Latest.limitOne_eq_none.mp (Option.some.inj read))
  | some decision =>
      have newest := Latest.limitOne_top (Option.some.inj read)
      change Prog.Watches _ _ _ (if decision.outcome = Outcome.decline.value then _ else _ : Program Quote) _ _ _
      split
      · rename_i declined
        exact blames_raise ⟨decision, newest, declined⟩
      · refine blames_read client rfl fun w₃ _ pick reply read => ?_
        cases reply with
        | none => exact blames_raise (Latest.limitOne_eq_none.mp (Option.some.inj read))
        | some rateTable =>
            refine blames_plain client (.bind ?_ fun breakdown => recorded_raises)
            exact priced_raises (fun _ => id) submission rateTable

theorem bind_blames (client : ClientErrors P) (sid actor : String) :
    (BindService.bindSubmission sid actor).Watches (backend P) Later (Blames sid) past w pending := by
  refine blames_submission client fun w₁ _ submission has => blames_read client rfl fun w₂ _ pick reply read => ?_
  cases reply with
  | some existing => exact fun err raised => by cases raised
  | none =>
      have free := not_bound read
      refine blames_read client rfl fun w₃ _ pick reply read => ?_
      cases reply with
      | none => exact blames_raise (.inl (Latest.limitOne_eq_none.mp (Option.some.inj read)))
      | some decision =>
          have newest := Latest.limitOne_top (Option.some.inj read)
          change Prog.Watches _ _ _ (if decision.outcome ≠ Outcome.accept.value then _ else _ : Program Binding) _ _ _
          split
          · rename_i unaccepted
            exact blames_raise (.inr ⟨decision, newest, unaccepted⟩)
          · refine blames_read client rfl fun w₄ _ pick reply read => ?_
            cases reply with
            | none => exact blames_raise (Latest.limitOne_eq_none.mp (Option.some.inj read))
            | some quote =>
                refine blames_rest client (q := fun err => Plain err ∨ ∃ number, err = .policyAlreadyExists number)
                  (bound_raises (fun _ => .inl) fun number => .inr ⟨number, rfl⟩) (fun _ foreign => .inl (.inl foreign)) ?_
                rintro err (plain | ⟨number, rfl⟩)
                · exact ⟨w₄, by simp, plain.reason ..⟩
                · exact ⟨w₂, by simp, free⟩

end Blamed

/-! ## The routes -/

/-- An HTTP answer that is an error was right at a moment seen. -/
def Refuses (req : Request) (past : List (World σ)) (w : World σ) (_ : Db) (result : Except PyErr α) : Prop :=
  ∀ status detail, result = .error (.http status detail) → ∃ w' ∈ past ++ [w], Refusal w'.db req status detail

section Routes

variable {w : World σ}

/-- The `except` clauses of a route name what its service raises. -/
theorem refuses_of_blames {sid : String} {req : Request} {failure : PyErr → PyErr} {service : Program α}
    {wrap : α → Answer} {past : List (World σ)} {pending : Db}
    (clauses : ∀ db err status detail, Reason sid db err → failure err = .http status detail → Refusal db req status detail)
    (blames : service.Watches (backend P) Later (Blames sid) past w pending) :
    (do return wrap (← service.handling fun err => .raise (failure err)) : Program Answer).Watches (backend P) Later
      (Refuses req) past w pending := by
  refine Prog.Watches.bind (.handling (blames.imp fun past' w' _ result met => ?_))
  cases result with
  | ok value => exact fun status detail same => by cases same
  | error err =>
      intro status detail same
      obtain ⟨w₁, among, reason⟩ := met err rfl
      exact ⟨w₁, among, clauses w₁.db err status detail reason (Except.error.inj same)⟩

theorem refuses_guard (client : ClientErrors P) {sid : String} {req : Request} {next : Program Answer}
    (frozen : ∀ db : Db, db.Bound sid → Refusal db req 409 "submission already bound")
    (free : ∀ w₁, next.Watches (backend P) Later (Refuses req) [w] w₁ .empty) :
    (do
      if (← BindService.latestBinding sid).isSome then .raise (.http 409 "submission already bound")
      next).Watches (backend P) Later (Refuses req) [] w .empty := by
  refine Prog.watches_ask (fun w₁ later fate reply w₂ session handled => ?_) fun w₁ _ fate err w₂ session handled => ?_
  · obtain ⟨rfl, rfl, pick, read⟩ := (handle_cases (P := P) handled).query rfl rfl
    cases reply with
    | none => exact free w₂
    | some row =>
        intro status detail same
        cases same
        have found := Option.some.inj read
        exact ⟨w₂, by simp, frozen _ ⟨row, List.mem_of_find?_eq_some found, by simpa using List.find?_some found⟩⟩
  · intro status detail same
    cases same
    cases Answered.raised_foreign client _ _ _ _ _ _ _ handled

theorem create_refuses (client : ClientErrors P) (payload : SubmissionCreate) (actor : String) :
    (Routes.createSubmission payload actor).Watches (backend P) Later (Refuses (.create payload actor)) [] w .empty := by
  have raises : (Routes.createSubmission payload actor).Raises (·.foreign) :=
    .bind (.bind (Prog.raises_perform _) fun _ => .bind (Prog.raises_perform _) fun _ => .bind (Prog.raises_perform _)
      fun _ => .bind (Prog.raises_perform _) fun _ => .bind (Prog.raises_perform _) fun _ => trivial) fun _ => trivial
  refine (Prog.watches_raises raises fun handled =>
    Answered.raised_foreign client _ _ _ _ _ _ _ handled).imp fun _ _ _ result met => ?_
  rintro status detail rfl
  cases met.2 _ rfl

theorem assess_refuses (client : ClientErrors P) (sid actor : String) :
    (Routes.assessSubmission sid actor).Watches (backend P) Later (Refuses (.assess sid actor)) [] w .empty := by
  refine refuses_guard client (fun _ => .assessFrozen) fun w₁ => refuses_of_blames ?_ (assess_blames client sid actor)
  intro db err status detail reason answered
  cases err <;> cases answered
  case submissionNotFound => exact .missing rfl reason
  case noRuleset => exact .noRuleset reason
  case http => exact reason.elim

theorem quote_refuses (client : ClientErrors P) (sid actor : String) :
    (Routes.quoteSubmission sid actor).Watches (backend P) Later (Refuses (.quote sid actor)) [] w .empty := by
  refine refuses_guard client (fun _ => .quoteFrozen) fun w₁ => refuses_of_blames ?_ (quote_blames client sid actor)
  intro db err status detail reason answered
  cases err <;> cases answered
  case submissionNotFound => exact .missing rfl reason
  case noDecision => exact .unassessed reason
  case declinedRisk =>
    obtain ⟨decision, newest, declined⟩ := reason
    exact .declined newest declined
  case noRateTable => exact .noRateTable reason
  case http => exact reason.elim

theorem bind_refuses (client : ClientErrors P) (sid actor : String) :
    (Routes.bindSubmission sid actor).Watches (backend P) Later (Refuses (.bind sid actor)) [] w .empty := by
  refine refuses_of_blames ?_ (bind_blames client sid actor)
  intro db err status detail reason answered
  cases err <;> cases answered
  case submissionNotFound => exact .missing rfl reason
  case noAcceptedDecision =>
    rcases reason with empty | ⟨decision, newest, unaccepted⟩
    · exact .undecided empty
    · exact .unaccepted newest unaccepted
  case noQuote => exact .unquoted reason
  case policyAlreadyExists => exact .unresolved reason
  case http => exact reason.elim

theorem route_refuses (client : ClientErrors P) (req : Request) :
    (route req).Watches (backend P) Later (Refuses req) [] w .empty := by
  cases req with
  | create payload actor => exact create_refuses client payload actor
  | assess sid actor => exact assess_refuses client sid actor
  | quote sid actor => exact quote_refuses client sid actor
  | bind sid actor => exact bind_refuses client sid actor

end Routes

/-! ## Requests in a run -/

section Runs

variable {jwksUrl : String}

theorem respond_refuses (client : ClientErrors P) (request : ApiRequest) (w : World σ) :
    (Api.respond jwksUrl request).Watches (Api.backend P) Later (fun past w pending result =>
      ∀ req, Api.part jwksUrl request = some req → Refuses req past w pending result) [] w .empty := by
  cases part : Api.part jwksUrl request with
  | none => exact Prog.watches_of_forall fun _ _ _ _ req writes => by cases writes
  | some req =>
      rw [Api.respond_part part]
      refine Prog.Watches.bind ((Prog.Watches.rename (B := backend P) ?_ (route_refuses client req)).imp ?_)
      · intro w session c fate answer w' session' handled
        cases answer <;> exact handled
      · intro past w pending result met
        cases result with
        | ok answer => exact fun _ _ status detail same => by cases same
        | error err =>
            intro req' writes status detail same
            cases writes
            exact met status detail (congrArg Except.error (Except.error.inj same))

/-- What a refused write has seen since it arrived. -/
theorem refused_run (client : ClientErrors P) {s₀ s : ApiSys σ}
    (run : Run (Api.backend P) (Api.requests jwksUrl) anyStep s₀ s) {i : ℕ} {t : ApiThread}
    (at_i : s.threads[i]? = some t) (arrived : s₀.threads.length ≤ i) {req : Request}
    (writes : Api.part jwksUrl t.req = some req) {status : ℕ} {detail : String}
    (refused : t.ctl.outcome? = some (.error (.http status detail))) : ∃ worlds w,
      Moments (Api.backend P) (Api.requests jwksUrl) s₀ worlds s ∧ w ∈ worlds ∧ Refusal w.db req status detail := by
  have watching := watches_run (fun _ => .refl _) .trans Reads.step_later (respond_refuses client) run i t at_i arrived
  rcases watched watching refused with died | ⟨past, s₁, visits, since, met⟩
  · cases died
  · obtain ⟨w, among, refusal⟩ := met req writes status detail rfl
    exact ⟨_, w, visits.moments.after since, among, refusal⟩

/-- Where a write route refuses a request, the rows committed at some moment since the
    request arrived justify the status and the detail it answers with. -/
theorem refusals_justified (client : ClientErrors P) {s₀ s : ApiSys σ}
    (run : Run (Api.backend P) (Api.requests jwksUrl) anyStep s₀ s) {i : ℕ} {t : ApiThread}
    (at_i : s.threads[i]? = some t) (arrived : s₀.threads.length ≤ i) {req : Request}
    (writes : Api.part jwksUrl t.req = some req) {status : ℕ} {detail : String}
    (refused : t.ctl = .raise (.http status detail)) :
    ∃ s₁, Run (Api.backend P) (Api.requests jwksUrl) anyStep s₀ s₁ ∧
      Run (Api.backend P) (Api.requests jwksUrl) anyStep s₁ s ∧ Refusal s₁.world.db req status detail := by
  have ended : t.ctl.outcome? = some (.error (.http status detail)) := by rw [refused]; rfl
  obtain ⟨worlds, w, moments, among, refusal⟩ := refused_run client run at_i arrived writes ended
  obtain ⟨s₁, rfl, before, after⟩ := moments.mem among
  exact ⟨s₁, before, after, refusal⟩

end Runs

/-! ## A quote before the assessment -/

/-- `bob` asks for a quote of the file that he has created. -/
def hasty : List (Choice ApiRequest (Fate Lifecycle.Reaction) (Env Lifecycle.UserAct)) :=
  [.start (Endpoints.asked "bob" (.quoteSubmission "s"))] ++ [Scenario.read, Scenario.read, Scenario.read].map (.run 2)

/-- The request is a quote by `bob` that was refused as unassessed. -/
def isUnassessed (t : ApiThread) : Bool :=
  (match Api.part "jwks" t.req with
    | some (.quote sid actor) => sid == "s" && actor == "bob"
    | _ => false) &&
  (match t.ctl with
    | .raise (.http status detail) => status == 404 && detail == "submission has not been assessed"
    | _ => false)

theorem hasty_justified : ∃ s₀ s₁ s : ApiSys (List Lifecycle.Policy),
    Run Endpoints.apiService (Api.requests "jwks") anyStep s₀ s₁ ∧
      Run Endpoints.apiService (Api.requests "jwks") anyStep s₁ s ∧
      Refusal s₁.world.db (.quote "s" "bob") 404 "submission has not been assessed" := by
  obtain ⟨s₀, s, -, later, checked⟩ := exists_run_then Endpoints.apiService (Api.requests "jwks") anyStep anyStep
    ⟨.initial [], []⟩ Endpoints.opened hasty
    (fun s₀ s => s₀.threads.length == 2 && s.threads[2]?.any isUnassessed) (by decide +kernel)
  simp only [Bool.and_eq_true, beq_iff_eq, Option.any_eq_true] at checked
  obtain ⟨two, t, at_t, unassessed⟩ := checked
  simp only [isUnassessed, Bool.and_eq_true] at unassessed
  obtain ⟨asks, refused⟩ := unassessed
  split at asks
  · rename_i sid actor writes
    simp only [Bool.and_eq_true, beq_iff_eq] at asks
    obtain ⟨rfl, rfl⟩ := asks
    split at refused
    · rename_i status detail control
      simp only [Bool.and_eq_true, beq_iff_eq] at refused
      obtain ⟨rfl, rfl⟩ := refused
      obtain ⟨s₁, before, after, refusal⟩ :=
        refusals_justified (Answered.lifecycle_client _) later at_t (by omega) writes control
      exact ⟨s₀, s₁, s, before, after, refusal⟩
    · cases refused
  · cases asks

end Underwriting.Refused
