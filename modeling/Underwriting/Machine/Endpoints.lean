import Underwriting.Api.V1
import Underwriting.Lib.Embed
import Underwriting.Machine.Steps

/-! # The write routes within the API

Behind its scopes the API serves ten endpoints. The four that write run the write
routes, as the actor of their token; the other six, and every request that is
refused, ask queries only. So what holds of the store in all runs of the write
routes holds in all runs of the API.
-/

namespace Underwriting

open Interleaving

variable {σ φ υ : Type}

abbrev ApiThread := Thread ApiReply ApiRequest Db (ApiProgram Response)

abbrev ApiSys (σ : Type) := Sys ApiReply ApiRequest (World σ) Db (ApiProgram Response)

/-- The request to a write route that an endpoint makes as an actor. -/
def V1.request? (actor : String) : V1 → Option Request
  | .createSubmission payload => some (.create payload actor)
  | .assessSubmission sid => some (.assess sid actor)
  | .quoteSubmission sid => some (.quote sid actor)
  | .bindSubmission sid => some (.bind sid actor)
  | .listSubmissions _ | .getSubmission _ | .getQuote _ | .getBinding _ | .listRateTables
  | .getSubmissionAudit _ => none

namespace Api

/-- The request to a write route that a request comes to, once its scope and its
    actor are settled. -/
def part (jwksUrl : String) (request : ApiRequest) : Option Request :=
  match Auth.requireScope request.decode jwksUrl request.route.requiredScope request.authorization,
    Auth.currentActor request.decode jwksUrl request.authorization with
  | .ok _, .ok actor => request.route.request? actor
  | _, _ => none

/-- A query, for a row or for a list. -/
def Asks : ApiCall → Prop
  | .service c => c.kind = .query
  | .read _ => True

theorem asks_idle {P : PasModel σ φ υ} {c : ApiCall} (asks : Asks c) : Idle (backend P) c := by
  intro w session fate answer w' session' handled
  cases c with
  | service c => exact ((handle_cases handled).query_cases asks).1
  | read c => cases fate <;> cases handled <;> rfl

theorem ofService_asks {α : Type} {program : Program α} (calls : program.Calls fun c => c.kind = .query) :
    (ofService program).Calls Asks :=
  Prog.calls_rename calls

theorem ofReads_asks {α : Type} (program : ReadProgram α) : (ofReads program).Calls Asks :=
  Prog.calls_rename (Prog.calls_of_forall (fun _ => trivial) program)

theorem existing_asks (submissionId : String) : (Routes.existing submissionId).Calls fun c => c.kind = .query := by
  refine Prog.Calls.handling (Prog.Calls.bind (Prog.calls_perform rfl) fun found => ?_) fun _ => trivial
  cases found <;> trivial

/-- The handlers that write run a write route; the others ask queries only. -/
theorem handler_cases {actor : Except PyErr String} {endpoint : V1} {handler : ApiProgram Response}
    (called : endpoint.handler actor = .ok handler) :
    (∃ name req, actor = .ok name ∧ endpoint.request? name = some req ∧ handler = V1.written (route req)) ∨
      (∀ name, endpoint.request? name = none) ∧ handler.Calls Asks := by
  have writes : ∀ {program : String → Program Answer},
      (do return V1.written (program (← actor)) : Except PyErr (ApiProgram Response)) = .ok handler →
        ∃ name, actor = .ok name ∧ handler = V1.written (program name) := by
    intro program called
    obtain ⟨name, named, called⟩ := bind_ok called
    cases called
    exact ⟨name, named, rfl⟩
  cases endpoint with
  | createSubmission payload =>
      obtain ⟨name, named, rfl⟩ := writes called
      exact .inl ⟨name, .create payload name, named, rfl, rfl⟩
  | assessSubmission sid =>
      obtain ⟨name, named, rfl⟩ := writes called
      exact .inl ⟨name, .assess sid name, named, rfl, rfl⟩
  | quoteSubmission sid =>
      obtain ⟨name, named, rfl⟩ := writes called
      exact .inl ⟨name, .quote sid name, named, rfl, rfl⟩
  | bindSubmission sid =>
      obtain ⟨name, named, rfl⟩ := writes called
      exact .inl ⟨name, .bind sid name, named, rfl, rfl⟩
  | listSubmissions query =>
      cases called
      exact .inr ⟨fun _ => rfl, ofReads_asks _⟩
  | getSubmission sid =>
      cases called
      refine .inr ⟨fun _ => rfl, ofService_asks (.bind (existing_asks sid) fun _ => ?_)⟩
      exact .bind (Prog.calls_perform rfl) fun _ => trivial
  | getQuote sid =>
      cases called
      refine .inr ⟨fun _ => rfl, ofService_asks (.bind (existing_asks sid) fun _ => ?_)⟩
      refine .bind (Prog.calls_perform rfl) fun row => ?_
      cases row <;> trivial
  | getBinding sid =>
      cases called
      refine .inr ⟨fun _ => rfl, ofService_asks (.bind (existing_asks sid) fun _ => ?_)⟩
      refine .bind (Prog.calls_perform rfl) fun row => ?_
      cases row <;> trivial
  | listRateTables =>
      cases called
      exact .inr ⟨fun _ => rfl, ofReads_asks _⟩
  | getSubmissionAudit sid =>
      cases called
      refine .inr ⟨fun _ => rfl, .bind (ofService_asks (existing_asks sid)) fun _ => ?_⟩
      exact .bind (ofReads_asks _) fun _ => trivial

section Parts

variable {jwksUrl : String} {request : ApiRequest}

theorem part_of_resolve {handler : ApiProgram Response} (resolved : resolve jwksUrl request = .ok handler) :
    (∃ req, part jwksUrl request = some req ∧ handler = V1.written (route req)) ∨
      part jwksUrl request = none ∧ handler.Calls Asks := by
  obtain ⟨_, passed, called⟩ := bind_ok resolved
  rcases handler_cases called with ⟨name, req, named, writes, rfl⟩ | ⟨reads, asks⟩
  · exact .inl ⟨req, by simp only [part, passed, named, writes], rfl⟩
  · refine .inr ⟨?_, asks⟩
    simp only [part]
    split
    · exact reads _
    · rfl

theorem resolve_of_part {req : Request} (found : part jwksUrl request = some req) :
    ∃ handler, resolve jwksUrl request = .ok handler := by
  simp only [part] at found
  split at found
  · rename_i name actor passed named
    simp only [resolve, passed, named]
    cases endpoint : request.route <;> exact ⟨_, rfl⟩
  · cases found

theorem respond_part {req : Request} (found : part jwksUrl request = some req) :
    respond jwksUrl request = V1.written (route req) := by
  obtain ⟨handler, resolved⟩ := resolve_of_part found
  simp only [respond, resolved]
  rcases part_of_resolve resolved with ⟨req', found', rfl⟩ | ⟨missing, -⟩
  · rw [Option.some.inj (found.symm.trans found')]
  · cases found.symm.trans missing

theorem respond_asks (missing : part jwksUrl request = none) : (respond jwksUrl request).Calls Asks := by
  rw [respond]
  split
  · rename_i handler resolved
    rcases part_of_resolve resolved with ⟨req, found, -⟩ | ⟨-, asks⟩
    · cases found.symm.trans missing
    · exact asks
  · trivial

end Parts

/-- The write routes among the endpoints. -/
def embedding (P : PasModel σ φ υ) (jwksUrl : String) :
    Embedding (Underwriting.backend P) (backend P) route (respond jwksUrl) where
  call := .service
  reply _ reply := reply
  up := id
  down := id
  wrap := .written
  part := part jwksUrl
  fresh := rfl
  disturb := rfl
  serves := by
    intro w session c fate answer w' session' handled
    refine ⟨fate, ?_⟩
    cases answer <;> exact handled
  embeds {_ req} found := by
    have renamed : ((route req).translate ApiCall.service (fun _ reply => reply) id id : ApiProgram Answer) =
        ofService (route req) := Prog.translate_id ..
    rw [respond_part found, V1.written, ← renamed]
    rfl
  rests missing := (respond_asks missing).imp fun _ asks => (asks_idle asks).aside

/-- What there is of the write routes in a run of the API. -/
theorem writes_run {P : PasModel σ φ υ} {jwksUrl : String} {pas : σ} {s : ApiSys σ}
    (run : Run (backend P) (requests jwksUrl) anyStep ⟨.initial pas, []⟩ s) :
    ∃ r : ProgSys σ, Run (Underwriting.backend P) Underwriting.requests anyStep (idle (.initial pas)) r ∧
      (embedding P jwksUrl).Within r s :=
  Embedding.within_run run ⟨rfl, .nil⟩

/-- What holds of the store in every run of the write routes holds in every run of the API. -/
theorem invariant {P : PasModel σ φ υ} {jwksUrl : String} {pas : σ} {I : World σ → Prop}
    (holds : ∀ r : ProgSys σ, Run (Underwriting.backend P) Underwriting.requests anyStep (idle (.initial pas)) r →
      I r.world) {s : ApiSys σ} (run : Run (backend P) (requests jwksUrl) anyStep ⟨.initial pas, []⟩ s) : I s.world := by
  obtain ⟨r, reached, within⟩ := writes_run run
  exact within.world ▸ holds r reached

end Api

end Underwriting
