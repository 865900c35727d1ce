import Underwriting.Machine.Endpoints
import Underwriting.Machine.Scenario

/-! # The whole API

In every run of the ten endpoints behind their scopes the requests that pass to a
write route run that route, as the actor of their token, and nothing else touches
the store. What is proved of the write routes is so proved of the API.
-/

namespace Underwriting.Endpoints

open Interleaving

section Refinement

variable {σ φ υ : Type} {P : PasModel σ φ υ} {jwksUrl : String}

/-- A request to an endpoint beside the request to the write route it comes to. -/
structure Writes (jwksUrl : String) (t : ApiThread) (u : Thread Reply Request Db (Program Answer)) : Prop where
  request : Api.part jwksUrl t.req = some u.req
  session : t.session = u.session
  outcome : t.ctl.outcome? = u.ctl.outcome?.map (Except.map .written)

/-- Every run of the API is one of the write routes: with the same store, policies and
    events, and for each request that comes to a write route, in order, a request with
    the same transaction and outcome. The others only ever ask queries. -/
theorem api_refines {pas : σ} {s : ApiSys σ}
    (run : Run (Api.backend P) (Api.requests jwksUrl) anyStep ⟨.initial pas, []⟩ s) :
    ∃ r : ProgSys σ, Run (backend P) requests anyStep (idle (.initial pas)) r ∧ r.world = s.world ∧
      List.Forall₂ (Writes jwksUrl) (s.threads.filter fun t => (Api.part jwksUrl t.req).isSome) r.threads ∧
      ∀ t ∈ s.threads, Api.part jwksUrl t.req = none → t.ctl.Calls Api.Asks ∧ ∀ c ∈ t.done, Api.Asks c := by
  obtain ⟨r, reached, within⟩ := Api.writes_run run
  refine ⟨r, reached, within.world, within.threads.forall₂.imp ?_, fun t member free => ?_⟩
  · intro t u runs
    have same : (Api.embedding P jwksUrl).outcome = Except.map .written := by
      funext result
      cases result <;> rfl
    exact ⟨runs.part, runs.session, same ▸ runs.outcome⟩
  · have asks : ∀ req, (Api.respond jwksUrl req).Calls fun c => Api.part jwksUrl req = none → Api.Asks c := by
      intro req
      cases part : Api.part jwksUrl req with
      | none => exact (Api.respond_asks part).imp fun _ asks _ => asks
      | some writes => exact Prog.calls_of_forall (fun _ free => absurd free (Option.some_ne_none writes)) _
    obtain ⟨coming, made⟩ := calls_run asks run (fun _ member => absurd member List.not_mem_nil) t member
    exact ⟨coming.imp fun _ asks => asks free, fun c done => made c done free⟩

end Refinement

/-! ## Two tokens -/

/-- `ann` may read, `bob` may write. -/
def badges : Decode
  | "ann", _ => .ok [("scope", .str "underwriting:read"), ("sub", .str "ann")]
  | "bob", _ => .ok [("scope", .str "underwriting:write"), ("sub", .str "bob")]
  | _, _ => .error .invalid

def asked (token : String) (route : V1) : ApiRequest := ⟨route, some ("Bearer " ++ token), badges⟩

def apiService : Backend ApiReply PyErr (World (List Lifecycle.Policy)) Db (Fate Lifecycle.Reaction)
    (Env Lifecycle.UserAct) :=
  Api.backend (Lifecycle.model Lifecycle.byNumber)

/-- `bob` creates a file; `ann`'s token does not let her. -/
def opened : List (Choice ApiRequest (Fate Lifecycle.Reaction) (Env Lifecycle.UserAct)) :=
  [.start (asked "bob" (.createSubmission Scenario.payload)), .start (asked "ann" (.createSubmission Scenario.payload))] ++
    [Scenario.insert "c" 1, Scenario.insert "s" 2, Scenario.insert "created" 3, .commit, Scenario.read].map (.run 0)

theorem opened_refines : ∃ s : ApiSys (List Lifecycle.Policy), s.threads.length = 2 ∧ s.world.db.submissions.length = 1 ∧
    ∃ r : ProgSys (List Lifecycle.Policy), Run (backend (Lifecycle.model Lifecycle.byNumber)) requests anyStep
      (idle (.initial [])) r ∧ r.world = s.world ∧
      List.Forall₂ (Writes "jwks") (s.threads.filter fun t => (Api.part "jwks" t.req).isSome) r.threads := by
  obtain ⟨s, run, checked⟩ := exists_run apiService (Api.requests "jwks") anyStep ⟨.initial [], []⟩ opened
    (fun s => s.threads.length == 2 && s.world.db.submissions.length == 1) (by decide +kernel)
  obtain ⟨two, one⟩ := Bool.and_eq_true_iff.mp checked
  obtain ⟨r, reached, world, writes, -⟩ := api_refines run
  exact ⟨s, eq_of_beq two, eq_of_beq one, r, reached, world, writes⟩

end Underwriting.Endpoints
