import Underwriting.Lib.History
import Underwriting.Lib.Traces
import Underwriting.Machine.Scenario
import Underwriting.Failures

/-! # Domain errors of the write routes are answered

The services raise the modules' own exceptions; each route answers those it names
with an HTTP status, always before its commit. Two of them no route names: a rating
error and an error of the policy service. They come of a table without a factor for
the occupancy, and of a status that the client does not handle, and of nothing else.
-/

namespace Underwriting.Answered

open Interleaving
open Prog (traces_ask traces_compute traces_ofExcept traces_perform)

variable {σ φ υ α : Type} {log : Log Reply} {failure : PyErr → PyErr}

/-! ## What is expected of the answers -/

/-- A status that the policy client handles. -/
def Usual : (c : Call) × Reply c → Prop
  | ⟨.policyService (.create _), resp⟩ => PasResponse.statusCode resp ∈ [201, 409]
  | ⟨.policyService (.transition _ _), resp⟩ => PasResponse.statusCode resp ∈ [200, 201, 409]
  | _ => True

/-- The table has a factor for the occupancy, if it can be read. -/
def HasFactor (submission : Submission) (rateTable : RateTable) : Prop :=
  ∀ spec, RatingService.specOf rateTable = .ok spec → (spec.occupancyFactors.lookup submission.occupancy).isSome

theorem not_hasFactor {submission : Submission} {rateTable : RateTable} (lacks : ¬HasFactor submission rateTable) :
    ∃ spec, RatingService.specOf rateTable = .ok spec ∧ spec.occupancyFactors.lookup submission.occupancy = none := by
  simp only [HasFactor, not_forall] at lacks
  obtain ⟨spec, built, missing⟩ := lacks
  exact ⟨spec, built, Option.not_isSome_iff_eq_none.mp missing⟩

/-- The policy service has answered with the statuses the client handles, and the
    submission is priced on a table with a factor for it. -/
structure Expected (log : Log Reply) : Prop where
  usual : ∀ entry ∈ log, Usual entry
  rated : ∀ sid submission rateTable, ⟨.getSubmission sid, some submission⟩ ∈ log →
    ⟨.currentRateTable, some rateTable⟩ ∈ log → HasFactor submission rateTable

/-- An exception that leaves a route is none of the modules', and an HTTP answer is a
    refusal or a service that is not ready. -/
structure Translated (err : PyErr) : Prop where
  answered : err.domain = false
  status : ∀ status detail, err = .http status detail → 400 ≤ status ∧ status < 500 ∨ status = 503

/-- Under a route's `except` clauses an exception is translated exactly if the answers
    were as expected, which they were if there is none. Nothing that the modules or the
    route raise comes after a commit. -/
def Lawful (failure : PyErr → PyErr) (log : Log Reply) : Except PyErr α → Prop
  | .ok _ => Expected log
  | .error err => (Translated (failure err) ↔ Expected log) ∧
      ((failure err).foreign = false → .commit ∉ log.map Sigma.fst)

/-! ## Records -/

/-- As expected so far, and nothing committed. -/
structure Clean (log : Log Reply) : Prop where
  expected : Expected log
  uncommitted : .commit ∉ log.map Sigma.fst

/-- The call has no part in what is expected, and commits nothing. -/
def neutral : Call → Bool
  | .getSubmission _ | .currentRateTable | .policyService (.create _) | .policyService (.transition _ _)
  | .commit => false
  | _ => true

theorem usual_neutral {c : Call} (plain : neutral c) (reply : Reply c) : Usual ⟨c, reply⟩ := by
  cases c with
  | policyService request =>
      cases request with
      | create | transition => cases plain
      | list => trivial
  | _ => trivial

theorem Expected.snoc (expected : Expected log) {c : Call} {reply : Reply c} (usual : Usual ⟨c, reply⟩)
    (unread : ∀ sid, c ≠ .getSubmission sid) (unpriced : c ≠ .currentRateTable) : Expected (log ++ [⟨c, reply⟩]) := by
  constructor
  · exact Lists.forall_mem_snoc expected.usual usual
  · intro sid submission rateTable read priced
    rcases List.mem_append.mp read with read | new
    · rcases List.mem_append.mp priced with priced | new
      · exact expected.rated sid submission rateTable read priced
      · exact absurd (congrArg Sigma.fst (List.mem_singleton.mp new)).symm unpriced
    · exact absurd (congrArg Sigma.fst (List.mem_singleton.mp new)).symm (unread sid)

/-- Before a table is read nothing can lack a factor. -/
theorem expected_unpriced (usual : ∀ entry ∈ log, Usual entry) (unpriced : .currentRateTable ∉ log.map Sigma.fst) :
    Expected log :=
  ⟨usual, fun _ _ _ _ priced => absurd (List.mem_map_of_mem priced) unpriced⟩

theorem Expected.neutral (expected : Expected log) {c : Call} (reply : Reply c) (plain : neutral c) :
    Expected (log ++ [⟨c, reply⟩]) := by
  apply expected.snoc (usual_neutral plain reply)
  · rintro sid rfl
    cases plain
  · rintro rfl
    cases plain

theorem Expected.commit (expected : Expected log) (reply : Reply .commit) : Expected (log ++ [⟨.commit, reply⟩]) :=
  expected.snoc trivial (fun _ same => nomatch same) fun same => nomatch same

theorem Clean.snoc (clean : Clean log) {c : Call} {reply : Reply c} (expected : Expected (log ++ [⟨c, reply⟩]))
    (uncommitted : c ≠ .commit) : Clean (log ++ [⟨c, reply⟩]) := by
  refine ⟨expected, ?_⟩
  rw [List.map_append, List.mem_append]
  rintro (old | new)
  · exact clean.uncommitted old
  · exact uncommitted (List.mem_singleton.mp new).symm

/-! ## Outcomes -/

/-- The clauses name exceptions of the modules only. -/
def Quiet (failure : PyErr → PyErr) : Prop := ∀ err, err.foreign → failure err = err

theorem quiet_id : Quiet id := fun _ _ => rfl

theorem quiet_assess : Quiet Routes.assessFailure := by
  intro err foreign
  cases err <;> first | rfl | cases foreign

theorem quiet_quote : Quiet Routes.quoteFailure := by
  intro err foreign
  cases err <;> first | rfl | cases foreign

theorem quiet_bind : Quiet Routes.bindFailure := by
  intro err foreign
  cases err <;> first | rfl | cases foreign

theorem lawful_foreign (quiet : Quiet failure) {err : PyErr} (foreign : err.foreign) (expected : Expected log) :
    Lawful failure log (.error err : Except PyErr α) := by
  rw [Lawful, quiet err foreign]
  constructor
  · refine iff_of_true ⟨?_, ?_⟩ expected
    · cases err <;> first | rfl | cases foreign
    · rintro status detail rfl
      cases foreign
  · intro own
    cases own.symm.trans foreign

/-- The clause answers before the commit. -/
theorem lawful_answered {err : PyErr} {status : ℕ} {detail : String} (clean : Clean log)
    (answer : failure err = .http status detail) (fits : 400 ≤ status ∧ status < 500 ∨ status = 503) :
    Lawful failure log (.error err : Except PyErr α) := by
  rw [Lawful, answer]
  refine ⟨iff_of_true ⟨rfl, ?_⟩ clean.expected, fun _ => clean.uncommitted⟩
  rintro status detail ⟨⟩
  exact fits

/-- No clause names the exception. -/
theorem lawful_escaped {err : PyErr} (domain : (failure err).domain = true) (unexpected : ¬Expected log)
    (uncommitted : .commit ∉ log.map Sigma.fst) : Lawful failure log (.error err : Except PyErr α) := by
  refine ⟨iff_of_false (fun translated => ?_) unexpected, fun _ => uncommitted⟩
  exact absurd translated.answered (by simp [domain])

/-! ## Services -/

/-- However the program goes, it is lawful. -/
abbrev Traced (failure : PyErr → PyErr) (program : Program α) (log : Log Reply) : Prop :=
  program.Traces (fun err => err.foreign) Expected (Lawful failure) log

theorem traced_ask {c : Call} {next : Reply c → Program α} (quiet : Quiet failure) (expected : Expected log)
    (answered : ∀ reply, Traced failure (next reply) (log ++ [⟨c, reply⟩])) :
    Traced failure ((Prog.perform c : Program (Reply c)) >>= next) log :=
  traces_ask expected (fun _ foreign => lawful_foreign quiet foreign expected) answered

/-- A neutral call before the commit. -/
theorem traced_neutral {c : Call} {next : Reply c → Program α} (quiet : Quiet failure) (clean : Clean log)
    (plain : neutral c)
    (answered : ∀ reply, Clean (log ++ [⟨c, reply⟩]) → Traced failure (next reply) (log ++ [⟨c, reply⟩])) :
    Traced failure ((Prog.perform c : Program (Reply c)) >>= next) log := by
  apply traced_ask quiet clean.expected
  intro reply
  apply answered reply (clean.snoc (clean.expected.neutral reply plain) ?_)
  rintro rfl
  cases plain

theorem traced_compute {β : Type} {op : Except PyErr β} {next : β → Program α} (quiet : Quiet failure)
    (expected : Expected log) (foreign : Foreign op) (answered : ∀ value, Traced failure (next value) log) :
    Traced failure ((Prog.ofExcept op : Program β) >>= next) log :=
  traces_compute (fun err raised => lawful_foreign quiet (foreign.only err raised) expected) fun value _ =>
    answered value

/-- A computation that raises. -/
theorem traced_raised {β : Type} {op : Except PyErr β} {next : β → Program α} {err : PyErr} (raised : op = .error err)
    (lawful : Lawful failure log (.error err : Except PyErr α)) :
    Traced failure ((Prog.ofExcept op : Program β) >>= next) log := by
  subst raised
  exact lawful

/-- `if refused: raise err` -/
theorem traced_unless {refused : Prop} [Decidable refused] {err : PyErr} {next : Unit → Program α}
    (lawful : refused → Lawful failure log (.error err : Except PyErr α))
    (passed : ¬refused → Traced failure (next ()) log) :
    Traced failure (if refused then (Prog.raise err : Program Unit) >>= next else next ()) log := by
  by_cases refuses : refused
  · rw [if_pos refuses]
    exact lawful refuses
  · rw [if_neg refuses]
    exact passed refuses

/-- The commit and the refresh, and then nothing but an answer. -/
theorem traced_closing {row : α} (quiet : Quiet failure) (expected : Expected log) :
    Traced failure (do Session.commit; Session.refresh; return row : Program α) log := by
  apply traced_ask quiet expected
  intro committed
  have expected' := expected.commit committed
  apply traced_ask quiet expected'
  intro refreshed
  exact expected'.neutral (c := .refresh) refreshed rfl

/-- A service under the clauses of its route. -/
theorem traced_route {service : Program α} {wrap : α → Answer} (traced : Traced failure service log) :
    Traced id (do
      let value ← service.handling fun err => .raise (failure err)
      return wrap value) log := by
  apply Prog.Traces.bind
  apply Prog.Traces.handling
  apply traced.imp
  intro log result lawful
  cases result with
  | ok value => exact lawful
  | error err => exact lawful

/-- A service whose exceptions pass through its route. -/
theorem traced_wrap {service : Program α} {wrap : α → Answer} (traced : Traced id service log) :
    Traced id (do return wrap (← service)) log := by
  apply Prog.Traces.bind
  apply traced.imp
  intro log result lawful
  cases result with
  | ok value => exact lawful
  | error err => exact lawful

theorem clean_nil : Clean [] := ⟨expected_unpriced (fun _ member => nomatch member) (by simp), by simp⟩

/-- Before a table is read, a submission may be. -/
theorem Clean.submission (clean : Clean log) (unpriced : .currentRateTable ∉ log.map Sigma.fst) {sid : String}
    {found : Option Submission} : Clean (log ++ [⟨.getSubmission sid, found⟩]) := by
  refine clean.snoc (expected_unpriced ?_ ?_) (fun same => nomatch same)
  · exact Lists.forall_mem_snoc clean.expected.usual trivial
  · rw [List.map_append, List.mem_append]
    rintro (old | new)
    · exact unpriced old
    · exact nomatch List.mem_singleton.mp new

/-- A submission that is not found is answered by 404, whatever comes after. -/
theorem traced_submission {sid detail : String} {next : Submission → Program α} (quiet : Quiet failure)
    (clean : Clean log) (unpriced : .currentRateTable ∉ log.map Sigma.fst)
    (answer : failure (.submissionNotFound sid) = .http 404 detail)
    (answered : ∀ submission, Clean (log ++ [⟨.getSubmission sid, some submission⟩]) →
      Traced failure (next submission) (log ++ [⟨.getSubmission sid, some submission⟩])) :
    Traced failure (SubmissionService.getSubmission sid >>= next) log := by
  apply Prog.Traces.bind
  apply traces_ask clean.expected
  · exact fun err foreign => lawful_foreign quiet foreign clean.expected
  · intro found
    have clean' : Clean (log ++ [⟨.getSubmission sid, found⟩]) := clean.submission unpriced
    cases found with
    | none =>
        change Lawful failure _ (.error _ : Except PyErr α)
        exact lawful_answered clean' answer (.inl (by decide))
    | some submission => exact answered submission clean'

/-- The guard of the routes that assess and quote. -/
theorem traced_guard {sid : String} {rest : Program Answer}
    (unbound : Clean [⟨.bindingBySubmission sid, none⟩] → Traced id rest [⟨.bindingBySubmission sid, none⟩]) :
    Traced id (do
      if (← BindService.latestBinding sid).isSome then .raise (.http 409 "submission already bound")
      rest) [] := by
  apply traced_neutral quiet_id clean_nil rfl
  intro bound clean
  cases bound with
  | none => exact unbound clean
  | some binding => exact lawful_answered clean rfl (.inl (by decide))

/-! ## Parts of a bind -/

theorem traced_holder {submission : Submission} {next : String → Program α} (quiet : Quiet failure)
    (clean : Clean log) (after : ∀ name log, Clean log → Traced failure (next name) log) :
    Traced failure (BindService.counterpartyName submission >>= next) log := by
  apply Prog.Traces.bind
  apply traces_ask clean.expected
  · exact fun err foreign => lawful_foreign quiet foreign clean.expected
  · intro found
    have clean' : Clean (log ++ [⟨.getCounterparty submission.counterpartyId, found⟩]) :=
      clean.snoc (clean.expected.neutral found rfl) fun same => nomatch same
    cases found with
    | none => exact after _ _ clean'
    | some counterparty => exact after _ _ clean'

theorem Clean.usual (clean : Clean log) {request : PasRequest} {resp : PasResponse}
    (usual : Usual ⟨.policyService request, resp⟩) : Clean (log ++ [⟨.policyService request, resp⟩]) :=
  clean.snoc (clean.expected.snoc usual (fun _ same => nomatch same) fun same => nomatch same) fun same => nomatch same

/-- An answer the client does not handle is unexpected from then on. -/
theorem lawful_unusual (clean : Clean log) {request : PasRequest} {resp : PasResponse} {err : PyErr}
    (domain : (failure err).domain = true) (unusual : ¬Usual ⟨.policyService request, resp⟩) :
    Lawful failure (log ++ [⟨.policyService request, resp⟩]) (.error err : Except PyErr α) := by
  apply lawful_escaped domain
  · intro expected
    exact unusual (expected.usual _ (List.mem_append_right _ (List.mem_singleton_self _)))
  · rw [List.map_append, List.mem_append]
    rintro (old | new)
    · exact clean.uncommitted old
    · exact nomatch List.mem_singleton.mp new

/-- A 409 on create is resolved or answered. -/
theorem traced_policy {request : CreatePolicyRequest} {detail : String} {next : PolicyClient.PolicyRef → Program α}
    (quiet : Quiet failure) (clean : Clean log)
    (answer : failure (.policyAlreadyExists request.policyNumber) = .http 409 detail)
    (escapes : ∀ message, (failure (.policyService message)).domain = true)
    (after : ∀ policy log, Clean log → Traced failure (next policy) log) :
    Traced failure (PolicyClient.createPolicy request >>= next) log := by
  apply Prog.Traces.bind
  apply traces_ask clean.expected
  · exact fun err foreign => lawful_foreign quiet foreign clean.expected
  intro resp
  by_cases usual : resp.statusCode ∈ [201, 409]
  · have clean' : Clean (log ++ [⟨.policyService (.create request), resp⟩]) := clean.usual usual
    apply traces_compute
    · intro err raised
      exact lawful_foreign quiet ((Foreign.readCreated usual).only err raised) clean'.expected
    intro found _
    cases found with
    | some created => exact after created _ clean'
    | none =>
        apply Prog.Traces.bind
        apply traces_ask clean'.expected
        · exact fun err foreign => lawful_foreign quiet foreign clean'.expected
        intro listed
        have clean'' : Clean (_ ++ [⟨.policyService (.list request.policyNumber), listed⟩]) := clean'.usual trivial
        apply traces_ofExcept
        cases read : PolicyClient.readListed request.policyNumber listed with
        | error err => exact lawful_foreign quiet ((Foreign.readListed _ _).only err read) clean''.expected
        | ok found =>
            cases found with
            | some existing => exact after existing _ clean''
            | none =>
                change Lawful failure _ (.error _ : Except PyErr α)
                exact lawful_answered clean'' answer (.inl (by decide))
  · obtain ⟨message, raised⟩ := created_unexpected usual
    simp only [raised]
    change Lawful failure _ (.error _ : Except PyErr α)
    exact lawful_unusual clean (escapes message) usual

theorem traced_transition {policyId action : String} {next : Unit → Program α} (quiet : Quiet failure)
    (clean : Clean log) (escapes : ∀ message, (failure (.policyService message)).domain = true)
    (after : ∀ log, Clean log → Traced failure (next ()) log) :
    Traced failure (PolicyClient.transition policyId action >>= next) log := by
  apply Prog.Traces.bind
  apply traces_ask clean.expected
  · exact fun err foreign => lawful_foreign quiet foreign clean.expected
  intro resp
  apply traces_ofExcept
  by_cases usual : resp.statusCode ∈ [200, 201, 409]
  · have clean' : Clean (log ++ [⟨.policyService (.transition policyId action), resp⟩]) := clean.usual usual
    cases read : PolicyClient.readTransition policyId action resp with
    | error err => exact lawful_foreign quiet ((Foreign.readTransition usual).only err read) clean'.expected
    | ok done => exact after _ clean'
  · obtain ⟨message, raised⟩ := transition_unexpected policyId action usual
    simp only [raised]
    exact lawful_unusual clean (escapes message) usual

/-- The publisher's exceptions are swallowed. -/
theorem traced_publish {event : BoundRiskEvent} {next : Bool → Program α} (clean : Clean log)
    (after : ∀ published log, Clean log → Traced failure (next published) log) :
    Traced failure (BindService.publishBestEffort event >>= next) log := by
  apply Prog.Traces.bind
  apply Prog.Traces.handling
  apply traces_ask clean.expected
  · exact fun _ _ => after false log clean
  · exact fun reply => after true _ (clean.snoc (clean.expected.neutral reply rfl) fun same => nomatch same)

/-! ## Routes -/

theorem traced_create (payload : SubmissionCreate) (actor : String) :
    Traced id (Routes.createSubmission payload actor) [] := by
  apply traced_wrap
  apply traced_neutral quiet_id clean_nil rfl
  intro counterparty clean
  apply traced_neutral quiet_id clean rfl
  intro submission clean
  apply traced_neutral quiet_id clean rfl
  intro entry clean
  exact traced_closing quiet_id clean.expected

theorem traced_assess (sid actor : String) : Traced id (Routes.assessSubmission sid actor) [] := by
  apply traced_guard
  intro clean
  apply traced_route
  apply traced_submission quiet_assess clean (by simp) rfl
  intro submission clean
  apply traced_neutral quiet_assess clean rfl
  intro found clean
  cases found with
  | none => exact lawful_answered clean rfl (.inr rfl)
  | some ruleset =>
      apply traced_compute quiet_assess clean.expected (.assessed submission ruleset)
      intro result
      apply traced_neutral quiet_assess clean rfl
      intro decision clean
      apply traced_neutral quiet_assess clean rfl
      intro entry clean
      exact traced_closing quiet_assess clean.expected

/-- What a quote has read up to the table. -/
def quoteReads (sid : String) (submission : Submission) (decision : Decision) (found : Option RateTable) : Log Reply :=
  [⟨.bindingBySubmission sid, none⟩, ⟨.getSubmission sid, some submission⟩, ⟨.latestDecision sid, some decision⟩,
    ⟨.currentRateTable, found⟩]

theorem usual_quoteReads {sid : String} {submission : Submission} {decision : Decision} {found : Option RateTable} :
    ∀ entry ∈ quoteReads sid submission decision found, Usual entry := by
  intro entry member
  simp only [quoteReads, List.mem_cons, List.not_mem_nil, or_false] at member
  rcases member with rfl | rfl | rfl | rfl <;> trivial

theorem uncommitted_quoteReads {sid : String} {submission : Submission} {decision : Decision}
    {found : Option RateTable} : .commit ∉ (quoteReads sid submission decision found).map Sigma.fst := by
  simp [quoteReads]

theorem clean_quoteReads_none {sid : String} {submission : Submission} {decision : Decision} :
    Clean (quoteReads sid submission decision none) := by
  refine ⟨⟨usual_quoteReads, ?_⟩, uncommitted_quoteReads⟩
  intro sid' submission' rateTable _ priced
  simp only [quoteReads, List.mem_cons, List.not_mem_nil, or_false] at priced
  rcases priced with same | same | same | same <;> cases same

theorem expected_quoteReads {sid : String} {submission : Submission} {decision : Decision} {rateTable : RateTable} :
    Expected (quoteReads sid submission decision (some rateTable)) ↔ HasFactor submission rateTable := by
  constructor
  · intro expected
    exact expected.rated sid submission rateTable (by simp [quoteReads]) (by simp [quoteReads])
  · intro factor
    refine ⟨usual_quoteReads, ?_⟩
    intro sid' submission' rateTable' read priced
    simp only [quoteReads, List.mem_cons, List.not_mem_nil, or_false] at read priced
    rcases read with same | same | same | same <;> cases same
    rcases priced with same | same | same | same <;> cases same
    exact factor

theorem traced_quote (sid actor : String) : Traced id (Routes.quoteSubmission sid actor) [] := by
  apply traced_guard
  intro clean
  apply traced_route
  apply traced_submission quiet_quote clean (by simp) rfl
  intro submission clean
  apply traced_neutral quiet_quote clean rfl
  intro found clean
  cases found with
  | none => exact lawful_answered clean rfl (.inl (by decide))
  | some decision =>
      apply traced_unless
      · exact fun _ => lawful_answered clean rfl (.inl (by decide))
      intro undeclined
      apply traced_ask quiet_quote clean.expected
      intro found
      change Traced _ _ (quoteReads sid submission decision found)
      cases found with
      | none => exact lawful_answered clean_quoteReads_none rfl (.inr rfl)
      | some rateTable =>
          by_cases factor : HasFactor submission rateTable
          · have clean : Clean (quoteReads sid submission decision (some rateTable)) :=
              ⟨expected_quoteReads.mpr factor, uncommitted_quoteReads⟩
            apply traced_compute quiet_quote clean.expected (priced_foreign factor)
            intro breakdown
            apply traced_neutral quiet_quote clean rfl
            intro quote clean
            apply traced_neutral quiet_quote clean rfl
            intro entry clean
            exact traced_closing quiet_quote clean.expected
          · obtain ⟨spec, built, unknown⟩ := not_hasFactor factor
            obtain ⟨message, raised⟩ := priced_unknown built unknown
            apply traced_raised raised
            apply lawful_escaped
            · rfl
            · exact fun expected => factor (expected_quoteReads.mp expected)
            · exact uncommitted_quoteReads

theorem traced_bind (sid actor : String) : Traced id (Routes.bindSubmission sid actor) [] := by
  apply traced_route
  apply traced_submission quiet_bind clean_nil (by simp) rfl
  intro submission clean
  apply traced_neutral quiet_bind clean rfl
  intro found clean
  cases found with
  | some existing => exact clean.expected
  | none =>
      apply traced_neutral quiet_bind clean rfl
      intro found clean
      cases found with
      | none => exact lawful_answered clean rfl (.inl (by decide))
      | some decision =>
          apply traced_unless
          · exact fun _ => lawful_answered clean rfl (.inl (by decide))
          intro accepted
          apply traced_neutral quiet_bind clean rfl
          intro found clean
          cases found with
          | none => exact lawful_answered clean rfl (.inl (by decide))
          | some quote =>
              apply traced_holder quiet_bind clean
              intro holder log clean
              apply traced_neutral quiet_bind clean rfl
              intro now clean
              apply traced_compute quiet_bind clean.expected (.createRequest submission holder _ now)
              intro request
              apply traced_policy quiet_bind clean rfl (fun _ => rfl)
              intro policy log clean
              apply traced_transition quiet_bind clean (fun _ => rfl)
              intro log clean
              apply traced_transition quiet_bind clean (fun _ => rfl)
              intro log clean
              apply traced_publish clean
              intro published log clean
              apply traced_neutral quiet_bind clean rfl
              intro binding clean
              apply traced_neutral quiet_bind clean rfl
              intro entry clean
              exact traced_closing quiet_bind clean.expected

theorem traced (req : Request) : Traced id (route req) [] := by
  cases req with
  | create payload actor => exact traced_create payload actor
  | assess sid actor => exact traced_assess sid actor
  | quote sid actor => exact traced_quote sid actor
  | bind sid actor => exact traced_bind sid actor

/-! ## Runs -/

variable {P : PasModel σ φ υ} {s₁ s₂ s : ProgSys σ} {i : ℕ} {fate : Fate φ}

/-- No step of the thread on the way here has changed the tables. -/
def Untouched (P : PasModel σ φ υ) (s₀ s : ProgSys σ) (i : ℕ) : Prop :=
  ∀ s₁ fate s₂, Run (backend P) requests anyStep s₀ s₁ → step (backend P) requests s₁ (.run i fate) = some s₂ →
    Run (backend P) requests anyStep s₂ s → s₂.world.db = s₁.world.db

/-- A request that raises is answered, and then it has changed nothing, unless what it
    raises comes from below the modules. -/
structure Settled (P : PasModel σ φ υ) (s₀ s : ProgSys σ) (i : ℕ) (err : PyErr) : Prop where
  translated : Translated err
  untouched : err.foreign = false → Untouched P s₀ s i

/-- Only a commit changes the tables, and it is on record. -/
theorem committed (moved : step (backend P) requests s₁ (.run i fate) = some s₂)
    (changed : s₂.world.db ≠ s₁.world.db) : ∃ t, s₂.threads[i]? = some t ∧ .commit ∈ t.done := by
  cases step_cases moved with
  | run at_i next handled =>
      rcases (handle_cases handled).db with same | ⟨rfl, succeeded, -, -⟩
      · exact absurd same changed
      · refine ⟨_, set_at at_i _, ?_⟩
        rw [Thread.done_answered, if_pos succeeded]
        exact List.mem_append_right _ (List.mem_singleton_self _)

theorem untouched_of_uncommitted {s₀ : ProgSys σ} {t : Thread Reply Request Db (Program Answer)}
    (at_i : s.threads[i]? = some t) (uncommitted : .commit ∉ t.done) : Untouched P s₀ s i := by
  intro s₁ fate s₂ _ moved after
  by_contra changed
  obtain ⟨u, at_u, made⟩ := record_stays after (committed moved changed)
  obtain rfl := Option.some.inj (at_i.symm.trans at_u)
  exact uncommitted made

/-- The HTTP client raises exceptions of its own. -/
def ClientErrors (P : PasModel σ φ υ) : Prop :=
  ∀ pas request choice err pas', P.serve pas request choice = some (.error err, pas') → err.foreign

theorem raised_foreign (client : ClientErrors P) (w : World σ) (pending : Db) (c : Call) (fate : Fate φ) (err : PyErr)
    (w' : World σ) (pending' : Db) (handled : handle P w pending c fate = some (.error err, w', pending')) :
    err.foreign := by
  generalize answered : (Except.error err : Except PyErr (Reply c)) = answer at handled
  cases handle_cases handled with
  | lost | refused | unfit | conflict =>
      cases answered
      rfl
  | read | insert | commit | now => cases answered
  | pas served =>
      subst answered
      exact client _ _ _ _ _ served
  | publish event copies raised =>
      cases raised <;> cases answered
      rfl

/-- In every run, a request that has ended is answered as it should be exactly if the
    rate table it read has a factor for its submission's occupancy and the policy service
    has answered it with the statuses that the client handles. -/
theorem domain_errors_answered {pas : σ} (client : ClientErrors P) {s : ProgSys σ}
    (run : Run (backend P) requests anyStep (idle (.initial pas)) s) {i : ℕ}
    {t : Thread Reply Request Db (Program Answer)} (at_i : s.threads[i]? = some t) (ended : ¬t.Live requests) :
    (∀ err, t.ctl = .raise err → Settled P (idle (.initial pas)) s i err) ↔ Expected t.log := by
  have tracing := traces_run (raised_foreign client) traced run rfl t (List.mem_of_getElem? at_i)
  cases control : t.ctl with
  | call c rest =>
      refine absurd ?_ ended
      rw [Thread.Live, control]
      rfl
  | ret value =>
      rcases tracing with lawful | ⟨raised, -⟩
      · rw [control] at lawful
        refine iff_of_true (fun err raised => ?_) lawful
        cases raised
      · cases control.symm.trans raised
  | raise err =>
      rcases tracing with lawful | ⟨died, expected⟩
      · rw [control] at lawful
        obtain ⟨translated, uncommitted⟩ := lawful
        rw [← translated]
        constructor
        · exact fun answered => (answered err rfl).translated
        · rintro translated err ⟨⟩
          exact ⟨translated, fun own => untouched_of_uncommitted at_i (uncommitted own)⟩
      · cases control.symm.trans died
        refine iff_of_true (fun err raised => ?_) expected
        cases raised
        refine ⟨⟨rfl, fun _ _ same => ?_⟩, fun own => ?_⟩
        · cases same
        · cases own

theorem lifecycle_client (paging : Lifecycle.Paging) : ClientErrors (Lifecycle.model paging) := by
  intro store request reaction err after served
  cases reaction with
  | serve newId =>
      obtain ⟨_, _, same⟩ := Option.map_eq_some_iff.mp served
      cases same
  | fail newId applied response =>
      simp only [Lifecycle.model, Lifecycle.serve] at served
      split at served
      · obtain ⟨_, _, same⟩ := Option.map_eq_some_iff.mp served
        cases response <;> cases same
        rfl
      · cases served

/-- The exception that a thread has ended with. -/
def raisedBy (t : Thread Reply Request Db (Program Answer)) : Option PyErr :=
  match t.ctl with
  | .raise err => some err
  | .ret _ | .call _ _ => none

theorem raisedBy_eq {t : Thread Reply Request Db (Program Answer)} {err : PyErr} (raised : raisedBy t = some err) :
    t.ctl = .raise err := by
  rw [raisedBy] at raised
  split at raised
  · rename_i control
    cases raised
    exact control
  · cases raised
  · cases raised

/-- A submission that was not assessed cannot be quoted. -/
theorem unassessed_quote : ∃ s t, Run Scenario.service requests anyStep Scenario.empty s ∧ s.threads[1]? = some t ∧
    raisedBy t = some (.http 404 "submission has not been assessed") ∧
    ((∀ err, t.ctl = .raise err → Settled (Lifecycle.model Lifecycle.byNumber) Scenario.empty s 1 err) ↔
      Expected t.log) := by
  obtain ⟨s, run, found⟩ := exists_run Scenario.service requests anyStep Scenario.empty
    (Scenario.intake ++ [.start Scenario.quote] ++ Scenario.drive 1 (List.replicate 3 Scenario.read))
    (fun s => s.threads[1]?.any fun t => raisedBy t == some (.http 404 "submission has not been assessed"))
    (by decide +kernel)
  obtain ⟨t, at_1, found⟩ := (Option.any_eq_true _ _).mp found
  have raised : raisedBy t = some (.http 404 "submission has not been assessed") := by simpa using found
  refine ⟨s, t, run, at_1, raised, domain_errors_answered (lifecycle_client _) run at_1 ?_⟩
  rw [Thread.Live, raisedBy_eq raised]
  exact Bool.false_ne_true

/-- A rate table without factors. -/
def factorless : Json := .obj [("base_rate_permille", .str "1.2"), ("occupancy_factors", .obj [])]

def unpriceable : Scenario.Script :=
  Scenario.intake ++ [.env (.rateTable ⟨2, factorless⟩ ⟨"u", 5⟩), .start Scenario.assess] ++
    Scenario.assessing 1 "d" 10 ++ Scenario.closing 1 ++ [.start Scenario.quote] ++
    Scenario.drive 2 (List.replicate 4 Scenario.read)

/-- A bind whose create the policy service answers with 500. -/
def refusedCreate : Scenario.Script :=
  Scenario.quoted ++ [.start Scenario.bind] ++ Scenario.opening 3 30 ++
    Scenario.drive 3 [.pas (.fail "p" false (some ⟨500, none, "internal error"⟩))]

/-- Nothing that the modules raise is an answer. -/
theorem unsettled {s₀ : ProgSys σ} {err : PyErr} (domain : err.domain = true) : ¬Settled P s₀ s i err :=
  fun settled => Bool.false_ne_true (settled.translated.answered.symm.trans domain)

/-- A quote that raises a rating error, and a bind that raises an error of the policy service. -/
theorem domain_errors_escape :
    (∃ s t, Run Scenario.service requests anyStep Scenario.empty s ∧ s.threads[2]? = some t ∧
      ∃ err, raisedBy t = some err ∧ err = .rating "no occupancy factor for 'office' in rate table v2" ∧
        ¬Settled (Lifecycle.model Lifecycle.byNumber) Scenario.empty s 2 err) ∧
    ∃ s t, Run Scenario.service requests anyStep Scenario.empty s ∧ s.threads[3]? = some t ∧
      ∃ err, raisedBy t = some err ∧ err = .policyService "create_policy → 500: internal error" ∧
        ¬Settled (Lifecycle.model Lifecycle.byNumber) Scenario.empty s 3 err := by
  constructor
  · obtain ⟨s, run, found⟩ := exists_run Scenario.service requests anyStep Scenario.empty unpriceable
      (fun s => s.threads[2]?.any fun t =>
        raisedBy t == some (.rating "no occupancy factor for 'office' in rate table v2")) (by decide +kernel)
    obtain ⟨t, at_2, found⟩ := (Option.any_eq_true _ _).mp found
    exact ⟨s, t, run, at_2, _, beq_iff_eq.mp found, rfl, unsettled rfl⟩
  · obtain ⟨s, run, found⟩ := exists_run Scenario.service requests anyStep Scenario.empty refusedCreate
      (fun s => s.threads[3]?.any fun t =>
        raisedBy t == some (.policyService "create_policy → 500: internal error")) (by decide +kernel)
    obtain ⟨t, at_3, found⟩ := (Option.any_eq_true _ _).mp found
    exact ⟨s, t, run, at_3, _, beq_iff_eq.mp found, rfl, unsettled rfl⟩

end Underwriting.Answered
