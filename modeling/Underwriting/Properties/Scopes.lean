import Underwriting.Api.V1
import Underwriting.Lib.History
import Underwriting.Machine.Scenario
import Underwriting.Machine.Threads

/-! # Scopes are enforced

With auth on, the handler of an endpoint runs exactly if the bearer token verifies
and its scope claim has the word of the endpoint. Any other request is answered
without a call to anything. Every actor that gets on record comes from the verified
token of the request that wrote it.
-/

namespace Underwriting

open Interleaving

/-- The actor a request is made by. -/
def Request.actor : Request → String
  | .create _ actor | .assess _ actor | .quote _ actor | .bind _ actor => actor

/-- The actor an insert puts on record. -/
def Call.actor? : Call → Option String
  | .addDecision new => some new.decidedBy
  | .addQuote new => some new.createdBy
  | .addBinding new => some new.boundBy
  | .appendAudit new => some new.actor
  | _ => none

def ApiCall.actor? : ApiCall → Option String
  | .service c => c.actor?
  | .read _ => none

/-- All actors on record. -/
def Db.actors (db : Db) : List String :=
  db.decisions.map (·.decidedBy) ++ db.quotes.map (·.createdBy) ++ db.bindings.map (·.boundBy) ++
    db.audits.map (·.actor)

namespace Scopes

section Definitions

/-- The header is `Bearer ` and a token that verifies, with these claims. -/
def Verified (decode : Decode) (jwksUrl : String) (header : Option String) (claims : Claims) : Prop :=
  ∃ token, header = some ("Bearer " ++ token) ∧ decode token jwksUrl = .ok claims

/-- The scope claim is a text with this word. -/
def Grants (claims : Claims) (scope : String) : Prop :=
  ∃ text, claims.lookup "scope" = some (.str text) ∧ Unicode.IsWord scope.toList text.toList

def Admits (jwksUrl : String) (request : ApiRequest) : Prop :=
  ∃ claims, Verified request.decode jwksUrl request.authorization claims ∧
    Grants claims request.route.requiredScope

def HandlerRuns (jwksUrl : String) (request : ApiRequest) : Prop :=
  ∃ handler, Api.resolve jwksUrl request = .ok handler

/-- The claim is present and not empty. -/
def Present (claims : Claims) (key : String) (value : Json) : Prop := claims.lookup key = some value ∧ value.truthy

/-- The text of the first claim that is present and not empty, else `unknown`. -/
inductive FirstOf (claims : Claims) (keys : List String) : String → Prop where
  | claim {front key back value} (order : keys = front ++ key :: back)
      (skipped : ∀ k ∈ front, ∀ v, ¬ Present claims k v) (found : Present claims key value) :
      FirstOf claims keys value.toText
  | unknown (missing : ∀ k ∈ keys, ∀ v, ¬ Present claims k v) : FirstOf claims keys "unknown"

/-- The actor that the request's own verified token names. -/
def OwnActor (jwksUrl : String) (request : ApiRequest) (actor : String) : Prop :=
  ∃ claims, Verified request.decode jwksUrl request.authorization claims ∧
    FirstOf claims ["preferred_username", "email", "sub"] actor

end Definitions

/-! ## The two dependencies -/

section Dependencies

variable {decode : Decode} {jwksUrl required : String} {header : Option String} {claims : Claims}

theorem none_present {claims : Claims} {key : String} {rest : List String} (absent : ∀ v, ¬ Present claims key v)
    (later : ∀ k ∈ rest, ∀ v, ¬ Present claims k v) : ∀ k ∈ key :: rest, ∀ v, ¬ Present claims k v := by
  intro k member
  rcases List.mem_cons.mp member with rfl | deeper
  · exact absent
  · exact later k deeper

/-- A claim that is not present is skipped. -/
theorem FirstOf.skip {claims : Claims} {key actor : String} {rest : List String}
    (absent : ∀ v, ¬ Present claims key v) (first : FirstOf claims rest actor) :
    FirstOf claims (key :: rest) actor := by
  cases first with
  | claim order skipped found => exact .claim (congrArg (key :: ·) order) (none_present absent skipped) found
  | unknown missing => exact .unknown (none_present absent missing)

theorem FirstOf.head {claims : Claims} {key : String} {rest : List String} {value : Json}
    (found : Present claims key value) : FirstOf claims (key :: rest) value.toText := by
  have none_skipped : ∀ k ∈ ([] : List String), ∀ v, ¬ Present claims k v := fun _ member => nomatch member
  exact .claim rfl none_skipped found

theorem firstClaim_first (claims : Claims) (keys : List String) :
    FirstOf claims keys (Auth.firstClaim claims keys) := by
  induction keys with
  | nil => exact .unknown fun _ member => nomatch member
  | cons key rest ih =>
      rw [Auth.firstClaim]
      cases looked : claims.lookup key with
      | none =>
          apply FirstOf.skip ?_ ih
          exact fun v present => nomatch looked.symm.trans present.1
      | some value =>
          by_cases truthy : value.truthy
          · simp only [truthy, ↓reduceIte]
            exact .head ⟨looked, truthy⟩
          · simp only [truthy, Bool.false_eq_true, ↓reduceIte]
            apply FirstOf.skip ?_ ih
            intro v present
            obtain rfl := Option.some.inj (looked.symm.trans present.1)
            exact truthy present.2

/-- The words of the scope claim are the scopes it grants. -/
theorem mem_scopes_iff : required ∈ Auth.scopesFromClaims claims ↔ Grants claims required := by
  have empty : ¬ Unicode.IsWord required.toList "".toList := by
    rintro ⟨nonempty, -, before, after, same, -⟩
    have parts := List.append_eq_nil_iff.mp same.symm
    exact nonempty (List.append_eq_nil_iff.mp parts.1).2
  simp only [Auth.scopesFromClaims, Grants]
  cases looked : claims.lookup "scope" with
  | none =>
      simp only [Option.getD_none, Unicode.mem_split_iff, empty, reduceCtorEq, false_and, exists_false]
  | some value =>
      cases value with
      | str text => simp [Unicode.mem_split_iff]
      | _ => simp

theorem requireScope_ok (on : jwksUrl ≠ "") (verified : Verified decode jwksUrl header claims)
    (grants : Grants claims required) :
    Auth.requireScope decode jwksUrl required header = .ok (Auth.actorFromClaims claims) := by
  obtain ⟨token, same, decoded⟩ := verified
  have bearer := Auth.bearerToken_ok_iff.mpr same
  have granted := mem_scopes_iff.mpr grants
  simp only [Auth.requireScope, if_neg on, bearer, bind, Except.bind, decoded, if_pos granted]
  rfl

theorem verified_of_requireScope (on : jwksUrl ≠ "") {actor : String}
    (passed : Auth.requireScope decode jwksUrl required header = .ok actor) :
    ∃ claims, Verified decode jwksUrl header claims ∧ Grants claims required := by
  rw [Auth.requireScope, if_neg on] at passed
  obtain ⟨token, bearer, passed⟩ := bind_ok passed
  cases decoded : decode token jwksUrl with
  | error err =>
      rw [decoded] at passed
      cases err <;> cases passed
  | ok claims =>
      rw [decoded] at passed
      by_cases granted : required ∈ Auth.scopesFromClaims claims
      · exact ⟨claims, ⟨token, Auth.bearerToken_ok_iff.mp bearer, decoded⟩, mem_scopes_iff.mp granted⟩
      · cases (if_neg granted).symm.trans passed

/-- A scope that is not passed is answered with 401 or 403. -/
theorem requireScope_error (on : jwksUrl ≠ "") {err : PyErr}
    (refused : Auth.requireScope decode jwksUrl required header = .error err) :
    ∃ status detail, (status = 401 ∨ status = 403) ∧ err = .http status detail := by
  rw [Auth.requireScope, if_neg on] at refused
  cases bearer : Auth.bearerToken header with
  | error first =>
      rw [bearer] at refused
      obtain rfl : first = err := Except.error.inj refused
      exact ⟨401, _, .inl rfl, Auth.bearerToken_error bearer⟩
  | ok token =>
      simp only [bearer, bind, Except.bind] at refused
      cases decoded : decode token jwksUrl with
      | error failure =>
          rw [decoded] at refused
          cases failure <;> exact ⟨401, _, .inl rfl, (Except.error.inj refused).symm⟩
      | ok claims =>
          rw [decoded] at refused
          by_cases granted : required ∈ Auth.scopesFromClaims claims
          · cases (if_pos granted).symm.trans refused
          · exact ⟨403, _, .inr rfl, (Except.error.inj ((if_neg granted).symm.trans refused)).symm⟩

/-- The second dependency verifies the same token again. -/
theorem currentActor_ok (on : jwksUrl ≠ "") (verified : Verified decode jwksUrl header claims) :
    Auth.currentActor decode jwksUrl header = .ok (Auth.actorFromClaims claims) := by
  obtain ⟨token, same, decoded⟩ := verified
  have bearer := Auth.bearerToken_ok_iff.mpr same
  simp only [Auth.currentActor, if_neg on, bearer, bind, Except.bind, decoded]
  rfl

end Dependencies

/-! ## What the handlers record -/

section Records

/-- The call records no actor but this one. -/
def Records (actor : String) (c : Call) : Prop := ∀ a, c.actor? = some a → a = actor

/-- A point of a request records the request's actor. -/
theorem point_records {req : Request} {ph : Phase} (of : ph.Of req) {c rest} (found : ph.next = some ⟨c, rest⟩) :
    Records req.actor c := by
  intro a recorded
  cases ph <;> cases found <;> cases recorded <;> exact (congrArg Request.actor of).symm

theorem points_record {req : Request} : ∀ (n : ℕ) {ph : Phase}, ph.rank ≤ n → ph.Of req →
    ph.prog.Calls (Records req.actor)
  | n, ph, below, of => by
      cases found : ph.next with
      | none =>
          rw [Phase.prog]
          split
          · rename_i next
            cases next.symm.trans found
          · exact Prog.calls_ofExcept _
      | some next =>
          obtain ⟨c, rest⟩ := next
          rw [Phase.prog_call found fun _ => rfl]
          refine ⟨point_records of found, fun answer => ?_⟩
          have less := Phase.rank_next found answer
          cases n with
          | zero => omega
          | succ n => exact points_record n (by omega) (of.next (Phase.leads_next found answer))

/-- A write route records the actor it was called with. -/
theorem route_records (req : Request) : (route req).Calls (Records req.actor) := by
  have of : (Phase.start req).Of req := by cases req <;> rfl
  rw [← show (Phase.start req).prog = route req from Phase.start_prog req]
  exact points_record _ (Nat.le_refl _) of

theorem existing_records (submissionId actor : String) : (Routes.existing submissionId).Calls (Records actor) := by
  refine Prog.Calls.handling (Prog.Calls.bind ?_ fun found => ?_) fun _ => trivial
  · exact Prog.calls_perform fun a recorded => nomatch recorded
  · cases found <;> trivial

/-- The same of the calls of a handler. -/
def ApiRecords (actor : String) (c : ApiCall) : Prop := ∀ a, c.actor? = some a → a = actor

variable {α : Type} {actor : String}

theorem ofService_records {program : Program α} (calls : program.Calls (Records actor)) :
    (ofService program).Calls (ApiRecords actor) :=
  Prog.calls_rename calls

/-- Queries for lists record nobody. -/
theorem ofReads_records (program : ReadProgram α) : (ofReads program).Calls (ApiRecords actor) :=
  Prog.calls_rename (Prog.calls_of_forall (fun _ _ recorded => nomatch recorded) program)

theorem written_records (req : Request) : (V1.written (route req)).Calls (ApiRecords req.actor) :=
  Prog.Calls.bind (ofService_records (route_records req)) fun _ => trivial

/-- A handler that was called with an actor exists, and records this actor only. -/
theorem handler_records (actor : String) (endpoint : V1) :
    ∃ handler, endpoint.handler (.ok actor) = .ok handler ∧ handler.Calls (ApiRecords actor) := by
  have query : ∀ {c : Call}, c.actor? = none → (ask c).Calls (Records actor) := by
    intro c silent
    exact Prog.calls_perform fun a recorded => nomatch silent.symm.trans recorded
  cases endpoint with
  | createSubmission payload => exact ⟨_, rfl, written_records (.create payload actor)⟩
  | listSubmissions query => exact ⟨_, rfl, ofReads_records _⟩
  | assessSubmission sid => exact ⟨_, rfl, written_records (.assess sid actor)⟩
  | getSubmission sid =>
      exact ⟨_, rfl, ofService_records (.bind (existing_records sid actor) fun _ => .bind (query rfl) fun _ => trivial)⟩
  | quoteSubmission sid => exact ⟨_, rfl, written_records (.quote sid actor)⟩
  | getQuote sid =>
      refine ⟨_, rfl, ofService_records (.bind (existing_records sid actor) fun _ => .bind (query rfl) fun row => ?_)⟩
      cases row <;> trivial
  | bindSubmission sid => exact ⟨_, rfl, written_records (.bind sid actor)⟩
  | getBinding sid =>
      refine ⟨_, rfl, ofService_records (.bind (existing_records sid actor) fun _ => .bind (query rfl) fun row => ?_)⟩
      cases row <;> trivial
  | listRateTables => exact ⟨_, rfl, ofReads_records _⟩
  | getSubmissionAudit sid =>
      refine ⟨_, rfl, .bind (ofService_records (existing_records sid actor)) fun _ => ?_⟩
      exact .bind (ofReads_records _) fun _ => trivial

end Records

/-! ## Requests -/

section Requests

variable {jwksUrl : String} {request : ApiRequest}

/-- An admitted request reaches its handler, which records its own actor only. -/
theorem resolve_admitted (on : jwksUrl ≠ "") (admits : Admits jwksUrl request) :
    ∃ handler, Api.resolve jwksUrl request = .ok handler ∧
      handler.Calls fun c => ∀ a, c.actor? = some a → OwnActor jwksUrl request a := by
  obtain ⟨claims, verified, grants⟩ := admits
  obtain ⟨handler, called, records⟩ := handler_records (Auth.actorFromClaims claims) request.route
  refine ⟨handler, ?_, ?_⟩
  · simp only [Api.resolve, requireScope_ok on verified grants, currentActor_ok on verified]
    exact called
  · refine records.imp fun c recorded a at_a => ⟨claims, verified, ?_⟩
    rw [recorded a at_a]
    exact firstClaim_first claims Auth.actorKeys

theorem resolve_refused (on : jwksUrl ≠ "") (refused : ¬ Admits jwksUrl request) :
    ∃ status detail, (status = 401 ∨ status = 403) ∧ Api.resolve jwksUrl request = .error (.http status detail) := by
  cases scope : Auth.requireScope request.decode jwksUrl request.route.requiredScope request.authorization with
  | ok actor => exact absurd (verified_of_requireScope on scope) refused
  | error err =>
      obtain ⟨status, detail, code, rfl⟩ := requireScope_error on scope
      refine ⟨status, detail, code, ?_⟩
      simp only [Api.resolve, scope]
      rfl

/-- Whatever a request calls, it puts no actor on record but its own. -/
theorem respond_records (on : jwksUrl ≠ "") (request : ApiRequest) :
    (Api.respond jwksUrl request).Calls fun c => ∀ a, c.actor? = some a → OwnActor jwksUrl request a := by
  by_cases admits : Admits jwksUrl request
  · obtain ⟨handler, resolved, records⟩ := resolve_admitted on admits
    simp only [Api.respond, resolved]
    exact records
  · obtain ⟨status, detail, -, resolved⟩ := resolve_refused on admits
    simp only [Api.respond, resolved]
    trivial

theorem handlerRuns_iff (on : jwksUrl ≠ "") : HandlerRuns jwksUrl request ↔ Admits jwksUrl request := by
  constructor
  · rintro ⟨handler, resolved⟩
    by_contra refused
    obtain ⟨status, detail, -, failed⟩ := resolve_refused on refused
    cases resolved.symm.trans failed
  · intro admits
    obtain ⟨handler, resolved, -⟩ := resolve_admitted on admits
    exact ⟨handler, resolved⟩

end Requests

/-! ## Actors in the tables -/

section Actors

variable {σ φ υ : Type} {P : PasModel σ φ υ}

theorem mem_actors_append {db more : Db} {a : String} : a ∈ (db ++ more).actors ↔ a ∈ db.actors ∨ a ∈ more.actors := by
  simp only [Db.actors, Db.append_decisions, Db.append_quotes, Db.append_bindings, Db.append_audits, List.map_append,
    List.mem_append]
  tauto

theorem insertion_actors {c : Call} {stamp row added} (inserted : c.insertion stamp = some (row, added)) {a : String}
    (member : a ∈ added.actors) : c.actor? = some a := by
  cases c <;> cases inserted
  case addCounterparty | addSubmission => cases member
  all_goals exact congrArg some (List.mem_singleton.mp member).symm

/-- A call adds the actor it records to its transaction, or commits those that are there. -/
theorem handled_actors {w w' : World σ} {pending pending' : Db} {c : ApiCall} {fate : Fate φ}
    {answer : Except PyErr (ApiReply c)} (handled : Api.handleApi P w pending c fate = some (answer, w', pending')) :
    (∀ a ∈ pending'.actors, a ∈ pending.actors ∨ c.actor? = some a) ∧
      ∀ a ∈ w'.db.actors, a ∈ w.db.actors ∨ a ∈ pending.actors := by
  cases c with
  | service c =>
      have handled : handle P w pending c fate = some (answer, w', pending') := handled
      cases handle_cases handled with
      | insert inserted free =>
          refine ⟨fun a member => ?_, fun a => .inl⟩
          exact (mem_actors_append.mp member).imp_right (insertion_actors inserted)
      | commit free => exact ⟨fun a member => (nomatch member), fun a => mem_actors_append.mp⟩
      | conflict taken => exact ⟨fun a member => (nomatch member), fun a => .inl⟩
      | _ => exact ⟨fun a => .inl, fun a => .inl⟩
  | read c =>
      cases fate <;> cases handled <;> exact ⟨fun a => .inl, fun a => .inl⟩

theorem disturb_actors (w : World σ) (e : Env υ) : (disturb P w e).db.actors = w.db.actors := by
  rcases disturb_cases P w e with ⟨_, _, same⟩ | ⟨_, -, same⟩ <;> rw [same]
  simp [Db.actors]

abbrev ApiSys (σ : Type) := Sys ApiReply ApiRequest (World σ) Db (ApiProgram Response)

/-- No request under way. -/
def quiet (pas : σ) : ApiSys σ := ⟨.initial pas, []⟩

/-- Every actor in a table or a transaction is the own actor of a request. -/
structure Attributed (own : ApiRequest → String → Prop) (s : ApiSys σ) : Prop where
  pending : ∀ t ∈ s.threads, ∀ a ∈ t.session.actors, own t.req a
  stored : ∀ a ∈ s.world.db.actors, ∃ t ∈ s.threads, own t.req a

variable {jwksUrl : String} {own : ApiRequest → String → Prop} {s s' : ApiSys σ}
  {choice : Choice ApiRequest (Fate φ) (Env υ)}

theorem attributed_step (attributed : Attributed own s)
    (calls : ∀ t ∈ s.threads, t.ctl.Calls fun c => ∀ a, c.actor? = some a → own t.req a)
    (stepped : step (Api.backend P) (Api.requests jwksUrl) s choice = some s') : Attributed own s' := by
  have stays : ∀ {a}, (∃ t ∈ s.threads, own t.req a) → ∃ t ∈ s'.threads, own t.req a := by
    rintro a ⟨t, member, owned⟩
    obtain ⟨u, later, same⟩ := requests_step stepped member
    exact ⟨u, later, same ▸ owned⟩
  constructor
  · refine threads_step stepped attributed.pending ?start ?died ?moved
    case start => exact fun req _ a member => nomatch member
    case died => exact fun t _ a member => nomatch member
    case moved =>
      intro i fate t c rest answer session _ at_i next handled a member
      have running := List.mem_of_getElem? at_i
      rcases (handled_actors handled).1 a member with before | recorded
      · exact attributed.pending t running a before
      · exact calls_awaited (calls t running) (congrArg (Option.map Sigma.fst) next) a recorded
  · intro a member
    cases step_cases stepped with
    | start req => exact stays (attributed.stored a member)
    | run at_i next handled =>
        rcases (handled_actors handled).2 a member with before | committed
        · exact stays (attributed.stored a before)
        · have running := List.mem_of_getElem? at_i
          exact stays ⟨_, running, attributed.pending _ running a committed⟩
    | crash at_i live => exact stays (attributed.stored a member)
    | env e =>
        rw [show (Api.backend P).disturb s.world e = disturb P s.world e from rfl, disturb_actors] at member
        exact stays (attributed.stored a member)

theorem attributed_run (on : jwksUrl ≠ "") {pas : σ} {ok}
    (run : Run (Api.backend P) (Api.requests jwksUrl) ok (quiet pas) s) :
    Attributed (OwnActor jwksUrl) s := by
  refine run.invariant (I := Attributed (OwnActor jwksUrl))
    ⟨fun _ member => (nomatch member), fun _ member => nomatch member⟩ ?_
  intro s choice s' before attributed _ stepped
  refine attributed_step attributed (fun t member => ?_) stepped
  exact (calls_run (respond_records on) before (fun _ member => nomatch member) t member).1

end Actors

/-! ## Enforcement -/

/-- The request is answered with this error at once: it makes no call, so that
    neither the answer nor the store depends on the other, in any later state either. -/
def AnsweredWith (jwksUrl : String) (request : ApiRequest) (status : ℕ) (detail : String) : Prop :=
  ∀ {σ φ υ : Type} (P : PasModel σ φ υ) (s s' : ApiSys σ),
    step (Api.backend P) (Api.requests jwksUrl) s (.start request) = some s' →
      s'.world = s.world ∧ ∀ s'', Run (Api.backend P) (Api.requests jwksUrl) anyStep s' s'' →
        s''.threads[s.threads.length]? = some ⟨request, .raise (.http status detail), .empty, []⟩

theorem answeredWith_of_refused {jwksUrl : String} {request : ApiRequest} {status : ℕ} {detail : String}
    (resolved : Api.resolve jwksUrl request = .error (.http status detail)) :
    AnsweredWith jwksUrl request status detail := by
  intro σ φ υ P s s' started
  have refused : Api.respond jwksUrl request = .raise (.http status detail) := by
    simp only [Api.respond, resolved]
  obtain rfl := Option.some.inj started
  refine ⟨rfl, fun s'' run => ?_⟩
  refine ended_stays run (t := ⟨request, .raise (.http status detail), .empty, []⟩) ?_ Bool.false_ne_true
  rw [List.getElem?_append_right (Nat.le_refl _), Nat.sub_self]
  exact congrArg (fun ctl => some (Thread.mk request ctl Db.empty [])) refused

/-- With auth on, for every endpoint, header, claims and store: the handler runs
    exactly for an admitted request, any other is answered with 401 or 403 at once,
    and in every run every actor on record is the own actor of a request. -/
theorem scopes_enforced (jwksUrl : String) (on : jwksUrl ≠ "") :
    (∀ request, HandlerRuns jwksUrl request ↔ Admits jwksUrl request) ∧
      (∀ request, ¬ Admits jwksUrl request → ∃ status detail, (status = 401 ∨ status = 403) ∧
        AnsweredWith jwksUrl request status detail) ∧
      ∀ {σ φ υ : Type} (P : PasModel σ φ υ) (pas : σ) (s : ApiSys σ),
        Run (Api.backend P) (Api.requests jwksUrl) anyStep (quiet pas) s →
          (∀ t ∈ s.threads, ∀ c, (c ∈ t.done ∨ t.awaits (Api.requests jwksUrl) = some c) →
            ∀ a, c.actor? = some a → OwnActor jwksUrl t.req a) ∧
          ∀ a ∈ s.world.db.actors, ∃ t ∈ s.threads, OwnActor jwksUrl t.req a := by
  refine ⟨fun request => handlerRuns_iff on, fun request refused => ?_, fun P pas s run => ⟨?_, ?_⟩⟩
  · obtain ⟨status, detail, code, resolved⟩ := resolve_refused on refused
    exact ⟨status, detail, code, answeredWith_of_refused resolved⟩
  · rintro t member c (made | awaited)
    · exact (calls_run (respond_records on) run (fun _ member => nomatch member) t member).2 c made
    · exact calls_awaited (calls_run (respond_records on) run (fun _ member => nomatch member) t member).1 awaited
  · exact (attributed_run on run).stored

/-- Two tokens that verify: `ann` may read, `bob` may write. -/
def twoTokens : Decode
  | "ann", _ => .ok [("scope", .str "underwriting:read"), ("sub", .str "ann@ktayl")]
  | "bob", _ => .ok [("scope", .str "openid underwriting:write"), ("preferred_username", .str "bob@ktayl")]
  | _, _ => .error .invalid

def createAs (token : String) : ApiRequest :=
  ⟨.createSubmission Scenario.payload, some ("Bearer " ++ token), twoTokens⟩

theorem create_recorded : ∃ s, Run (Api.backend (Lifecycle.model Lifecycle.byNumber)) (Api.requests "jwks") anyStep
    (quiet []) s ∧ s.world.db.actors = ["bob@ktayl"] ∧
      (∀ request, HandlerRuns "jwks" request ↔ Admits "jwks" request) ∧
      ∀ a ∈ s.world.db.actors, ∃ t ∈ s.threads, OwnActor "jwks" t.req a := by
  have ⟨runs, _, recorded⟩ := scopes_enforced "jwks" (by decide)
  obtain ⟨s, run, found⟩ := exists_run (Api.backend (Lifecycle.model Lifecycle.byNumber)) (Api.requests "jwks") anyStep
    (quiet []) ([.start (createAs "ann"), .start (createAs "bob")] ++
      [Scenario.insert "c" 1, Scenario.insert "s" 2, Scenario.insert "created" 3, .commit, Scenario.read].map (.run 1))
    (fun s => s.world.db.actors == ["bob@ktayl"]) (by decide +kernel)
  exact ⟨s, run, beq_iff_eq.mp found, runs, (recorded _ _ s run).2⟩

end Scopes

end Underwriting
