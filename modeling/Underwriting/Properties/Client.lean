import Underwriting.Lib.Along
import Underwriting.Machine.Scenario
import Underwriting.Machine.Stack

/-! # The HTTP client under the services

The services over the HTTP client do what they do over a policy service that answers
them at once: the token calls in between are seen by nobody else. And every request
that is sent bears the token of the last grant of its own thread.
-/

namespace Underwriting.Client

open Interleaving
open HttpPolicyServiceClient (headersOf)
open Lifecycle (Reaction UserAct)

/-- A token that the endpoint granted, and the reading of the clock before it was asked. -/
structure Grant where
  asked : ℚ
  token : String
  lifetime : PyFloat

/-- The last reading of the clock and the last grant on a record. -/
structure Standing where
  now : Option ℚ := none
  grant : Option Grant := none

variable (raiseForStatus : StatusCheck)

def Standing.next (st : Standing) : (c : StackCall) × StackReply c → Standing
  | ⟨.client (.token .monotonic), now⟩ => { st with now := some now }
  | ⟨.client (.token (.post _)), resp⟩ =>
      match st.now, readToken raiseForStatus resp with
      | some now, .ok (token, lifetime) => { st with grant := some ⟨now, token, lifetime⟩ }
      | _, _ => st
  | _ => st

def standing (log : Log StackReply) : Standing := log.foldl (Standing.next raiseForStatus) {}

/-- The token is from the last grant, which was made for this call or is good for more than the skew. -/
def Ready (log : Log StackReply) (token : String) : Prop :=
  ∃ now grant, standing raiseForStatus log = ⟨some now, some grant⟩ ∧ token = grant.token ∧
    (now = grant.asked ∨ (PyFloat.finite (now - grant.asked)).lt (grant.lifetime.sub (.finite expirySkewSeconds)))

/-- Requests reach the policy service through the client only, and bear a token that is ready. -/
def Bears (log : Log StackReply) : StackCall → Prop
  | .client (.http request) => ∃ token, request.headers = headersOf token ∧ Ready raiseForStatus log token
  | .service (.policyService _) => False
  | _ => True

/-! ## The cache of a thread -/

def cacheNext (cache : TokenCache) : (c : StackCall) × StackReply c → TokenCache
  | ⟨.client (.token (.setCached token)), _⟩ => { cache with cached := some token }
  | ⟨.client (.token (.setExpiresAt time)), _⟩ => { cache with expiresAt := time }
  | _ => cache

def cacheOf (log : Log StackReply) : TokenCache := log.foldl cacheNext {}

/-- The answers of the fields and of the clock. -/
def Possible (log : Log StackReply) : (c : StackCall) → Except PyErr (StackReply c) → Prop
  | .client (.token .monotonic), answer => ∃ now, answer = .ok now
  | .client (.token .cached), answer => answer = .ok (cacheOf log).cached
  | .client (.token .expiresAt), answer => answer = .ok (cacheOf log).expiresAt
  | .client (.token (.setCached _)), answer => answer = .ok ()
  | .client (.token (.setExpiresAt _)), answer => answer = .ok ()
  | _, _ => True

def Tracks (session : StackSession) (log : Log StackReply) : Prop := session.cache = cacheOf log

/-- The cache holds what the last grant granted. -/
def Settled (log : Log StackReply) : Prop :=
  cacheOf log = match (standing raiseForStatus log).grant with
    | none => {}
    | some grant => ⟨some grant.token, (PyFloat.finite grant.asked).add grant.lifetime⟩

section Records

variable (log : Log StackReply) (entry : (c : StackCall) × StackReply c)

@[simp] theorem cacheOf_snoc : cacheOf (log ++ [entry]) = cacheNext (cacheOf log) entry := List.foldl_concat ..

@[simp] theorem standing_snoc :
    standing raiseForStatus (log ++ [entry]) = (standing raiseForStatus log).next raiseForStatus entry :=
  List.foldl_concat ..

end Records

variable {σ φ υ : Type} {client : HttpPolicyServiceClient} {H : HttpPas σ φ υ} {raiseForStatus}

/-- Only a call of the provider moves the cache of its thread. -/
theorem cache_kept {world world' : World σ} {session session' : StackSession} {c : StackCall} {fate : StackFate φ}
    {answer : Except PyErr (StackReply c)} (other : ∀ d, c ≠ .client (.token d))
    (handled : handleStack client H world session c fate = some (answer, world', session')) :
    session'.cache = session.cache := by
  cases c with
  | service c =>
      cases fate with
      | service given =>
          cases c with
          | policyService => cases handled
          | _ =>
              obtain ⟨_, _, same⟩ := Option.map_eq_some_iff.mp handled
              cases same
              rfl
      | _ => cases c <;> cases handled
  | client c =>
      cases c with
      | token d => exact absurd rfl (other d)
      | http request =>
          cases fate with
          | http choice =>
              obtain ⟨_, _, same⟩ := Option.map_eq_some_iff.mp handled
              cases same
              rfl
          | _ => cases handled

theorem token_possible {cache cache' : TokenCache} {log : Log StackReply} {d : TokenCall} {fate : StackFate φ}
    {answer : Except PyErr (StackReply (.client (.token d)))} (tracked : cache = cacheOf log)
    (handled : handleToken cache d fate = some (answer, cache')) :
    Possible log (.client (.token d)) answer ∧ cache' = cacheOf (log.after (.client (.token d)) answer) := by
  subst tracked
  cases d with
  | monotonic =>
      cases fate with
      | monotonic now =>
          cases handled
          exact ⟨⟨now, rfl⟩, by simp only [Log.after, cacheOf_snoc, cacheNext]⟩
      | _ => cases handled
  | post request =>
      cases fate with
      | token given =>
          cases handled
          refine ⟨trivial, ?_⟩
          cases answer with
          | ok resp => simp only [Log.after, cacheOf_snoc, cacheNext]
          | error err => rfl
      | _ => cases handled
  | _ =>
      cases fate with
      | field =>
          cases handled
          exact ⟨rfl, by simp only [Log.after, cacheOf_snoc, cacheNext]⟩
      | _ => cases handled

/-- A thread's record tells what its cache holds. -/
theorem possible_of {world world' : World σ} {session session' : StackSession} {log : Log StackReply} {c : StackCall}
    {fate : StackFate φ} {answer : Except PyErr (StackReply c)} (tracked : Tracks session log)
    (handled : handleStack client H world session c fate = some (answer, world', session')) :
    Possible log c answer ∧ Tracks session' (log.after c answer) := by
  have unmoved : (∀ d, c ≠ .client (.token d)) → Tracks session' (log.after c answer) := by
    intro other
    rw [Tracks, cache_kept other handled]
    cases answer with
    | error err => exact tracked
    | ok reply =>
        rw [Log.after, cacheOf_snoc, ← tracked]
        cases c with
        | service c => rfl
        | client c =>
            cases c with
            | token d => exact absurd rfl (other d)
            | http request => rfl
  cases c with
  | service c => exact ⟨trivial, unmoved fun d same => by cases same⟩
  | client c =>
      cases c with
      | http request => exact ⟨trivial, unmoved fun d same => by cases same⟩
      | token d =>
          obtain ⟨⟨_, cache⟩, asked, same⟩ := Option.map_eq_some_iff.mp handled
          cases same
          exact token_possible tracked asked

/-- What neither grants a token nor moves the cache. -/
theorem Settled.snoc {log : Log StackReply} (settled : Settled raiseForStatus log)
    {entry : (c : StackCall) × StackReply c} (kept : cacheNext (cacheOf log) entry = cacheOf log)
    (ungranted : ((standing raiseForStatus log).next raiseForStatus entry).grant =
      (standing raiseForStatus log).grant) :
    Settled raiseForStatus (log ++ [entry]) := by
  rw [Settled, cacheOf_snoc, standing_snoc, kept, ungranted]
  exact settled

/-- A token that is kept and not yet stale is ready. -/
theorem Settled.ready {log : Log StackReply} (settled : Settled raiseForStatus log) {now : ℚ} {token : String}
    (reading : (standing raiseForStatus log).now = some now) (holds : (cacheOf log).Holds now token) :
    Ready raiseForStatus log token := by
  obtain ⟨held, fresh⟩ := holds
  rw [Settled] at settled
  cases granted : (standing raiseForStatus log).grant with
  | none =>
      rw [settled, granted] at held
      cases held
  | some grant =>
      rw [granted] at settled
      rw [settled] at held fresh
      rw [PyFloat.lt_add_sub] at fresh
      refine ⟨now, grant, ?_, (Option.some.inj held).symm, .inr fresh⟩
      rw [← reading, ← granted]

/-! ## Along the token provider -/

/-- One call of the provider: its answer goes on record. -/
theorem along_ask {α : Type} {d : TokenCall} {next : TokenReply d → TokenProgram α}
    {post : Log StackReply → Except PyErr α → Prop} {log : Log StackReply}
    (replied : ∀ reply, Possible log (.client (.token d)) (.ok reply) →
      (ofClient (ofToken (next reply))).Along Possible (Bears raiseForStatus) post
        (log ++ [⟨.client (.token d), reply⟩]))
    (failed : ∀ err, Possible log (.client (.token d)) (.error err) → post log (.error err)) :
    (ofClient (ofToken (tokenCall d >>= next))).Along Possible (Bears raiseForStatus) post log := by
  refine ⟨trivial, fun answer arises => ?_⟩
  cases answer with
  | ok reply => exact replied reply arises
  | error err => exact failed err arises

/-- What a call of the provider leaves. -/
def Provided (raiseForStatus : StatusCheck) (log : Log StackReply) (result : Except PyErr String) : Prop :=
  Settled raiseForStatus log ∧ ∀ token, result = .ok token → Ready raiseForStatus log token

theorem along_fetch (provider : ClientCredentialsTokenProvider) {now : ℚ} {log : Log StackReply}
    (settled : Settled raiseForStatus log) (reading : (standing raiseForStatus log).now = some now) :
    (ofClient (ofToken (provider.fetch raiseForStatus now))).Along Possible (Bears raiseForStatus)
      (Provided raiseForStatus) log := by
  refine along_ask (fun resp _ => ?_) fun err _ => ⟨settled, fun token same => by cases same⟩
  have posted : standing raiseForStatus (log ++ [⟨.client (.token (.post provider.request)), resp⟩]) =
      match readToken raiseForStatus resp with
      | .ok (token, lifetime) => ⟨some now, some ⟨now, token, lifetime⟩⟩
      | .error _ => standing raiseForStatus log := by
    rw [standing_snoc, Standing.next, reading]
    cases readToken raiseForStatus resp <;> simp only [← reading]
  cases read : readToken raiseForStatus resp with
  | error err =>
      rw [read] at posted
      refine ⟨?_, fun token same => by cases same⟩
      rw [Settled, posted, cacheOf_snoc]
      exact settled
  | ok granted =>
      obtain ⟨token, lifetime⟩ := granted
      rw [read] at posted
      refine along_ask (fun first _ => ?_) fun err arises => by cases arises
      refine along_ask (fun second _ => ?_) fun err arises => by cases arises
      have stands : standing raiseForStatus (((log ++ [⟨.client (.token (.post provider.request)), resp⟩]) ++
          [⟨.client (.token (.setCached token)), first⟩]) ++
            [⟨.client (.token (.setExpiresAt ((PyFloat.finite now).add lifetime))), second⟩]) =
          ⟨some now, some ⟨now, token, lifetime⟩⟩ := by
        rw [standing_snoc, standing_snoc, posted]
        rfl
      constructor
      · rw [Settled, stands, cacheOf_snoc, cacheOf_snoc]
        rfl
      · intro held same
        cases same
        exact ⟨now, _, stands, rfl, .inl rfl⟩

theorem along_token (provider : ClientCredentialsTokenProvider) {log : Log StackReply}
    (settled : Settled raiseForStatus log) :
    (ofClient (ofToken (provider.token raiseForStatus))).Along Possible (Bears raiseForStatus)
      (Provided raiseForStatus) log := by
  refine along_ask (fun now _ => ?_) fun err arises => by obtain ⟨_, same⟩ := arises; cases same
  have settled : Settled raiseForStatus (log ++ [⟨.client (.token .monotonic), now⟩]) := settled.snoc rfl rfl
  have reading : (standing raiseForStatus (log ++ [⟨.client (.token .monotonic), now⟩])).now = some now := by
    rw [standing_snoc]
    rfl
  generalize log ++ [⟨.client (.token .monotonic), now⟩] = log at settled reading
  refine along_ask (fun cached found => ?_) fun err arises => by cases arises
  cases cached with
  | none =>
      exact along_fetch provider (settled.snoc rfl rfl) ((congrArg Standing.now (standing_snoc ..)).trans reading)
  | some token =>
      refine along_ask (fun expiresAt found' => ?_) fun err arises => by cases arises
      have stands : standing raiseForStatus ((log ++ [⟨.client (.token .cached), some token⟩]) ++
          [⟨.client (.token .expiresAt), expiresAt⟩]) = standing raiseForStatus log :=
        (standing_snoc ..).trans (standing_snoc ..)
      have settled' : Settled raiseForStatus ((log ++ [⟨.client (.token .cached), some token⟩]) ++
          [⟨.client (.token .expiresAt), expiresAt⟩]) := (settled.snoc rfl rfl).snoc rfl rfl
      by_cases fresh : (PyFloat.finite now).lt (PyFloat.sub expiresAt (.finite expirySkewSeconds)) = true
      · refine Eq.subst (motive := fun program => (ofClient (ofToken program)).Along Possible (Bears raiseForStatus)
          (Provided raiseForStatus) _) (if_pos fresh).symm ?_
        refine ⟨settled', fun held same => ?_⟩
        cases same
        have expires : expiresAt = (cacheOf (log ++ [⟨.client (.token .cached), some token⟩])).expiresAt :=
          Except.ok.inj found'
        rw [cacheOf_snoc] at expires
        rw [Ready, stands]
        exact settled.ready reading ⟨(Except.ok.inj found).symm, expires ▸ fresh⟩
      · refine Eq.subst (motive := fun program => (ofClient (ofToken program)).Along Possible (Bears raiseForStatus)
          (Provided raiseForStatus) _) (if_neg fresh).symm ?_
        exact along_fetch provider settled' ((congrArg Standing.now stands).trans reading)

/-- No call of the services moves the cache but by its token. -/
theorem along_impl (c : Call) {log : Log StackReply} (settled : Settled raiseForStatus log) :
    (client.impl raiseForStatus c).Along Possible (Bears raiseForStatus)
      (fun log _ => Settled raiseForStatus log) log := by
  cases c with
  | policyService request =>
      rw [HttpPolicyServiceClient.impl_policyService]
      refine Prog.Along.bind ((along_token _ settled).imp ?_)
      rintro log result ⟨settled, ready⟩
      cases result with
      | error err => exact settled
      | ok token =>
          refine ⟨⟨token, by cases request <;> rfl, ready token rfl⟩, fun answer _ => ?_⟩
          cases answer with
          | ok resp => exact settled.snoc rfl rfl
          | error err => exact settled
  | _ =>
      refine ⟨trivial, fun answer _ => ?_⟩
      cases answer with
      | ok reply => exact settled.snoc rfl rfl
      | error err => exact settled

/-- In every run, however the threads' token calls and requests interleave: each
    request that is on its way to the policy service, or has been answered by it, bears
    the token of the last grant of its own thread, made for this request or good for
    more than 30 s of its lifetime then. -/
theorem bears_run {w : World σ} {s : StackSys σ}
    (run : Run (stack client H) (stackRequests client raiseForStatus) anyStep ⟨w, []⟩ s) :
    ∀ t ∈ s.threads, (∀ c rest, t.ctl.next = some ⟨c, rest⟩ → Bears raiseForStatus t.log c) ∧
      ∀ before entry after, t.log = before ++ entry :: after → Bears raiseForStatus before entry.1 := by
  intro t member
  have along : t.Along Possible (Bears raiseForStatus) (fun log _ => Settled raiseForStatus log) Tracks .died := by
    apply along_run possible_of rfl ?_ run rfl t member
    exact fun req => Prog.along_interpret (fun c log settled => along_impl c settled) _ rfl
  exact ⟨fun c rest next => along.coming next, along.behind⟩

/-! ## A bind over the client -/

def provider : ClientCredentialsTokenProvider where
  tokenUrl := "https://auth/token"
  clientId := "uw"
  clientSecret := "secret"

def pasClient : HttpPolicyServiceClient := .init "https://pas/" provider

/-- A server that answers every request with the policy `p`, and counts them. -/
def counter : HttpPas ℕ Reaction UserAct where
  serve count _ _ := some (.ok ⟨201, some (.obj [("id", .str "p")]), ""⟩, count + 1)
  act count _ := count

def success : StatusCheck := fun resp =>
  if 200 ≤ resp.statusCode ∧ resp.statusCode < 300 then .ok () else .error .outage

def sent : Fate Reaction → Fate (Sending Reaction)
  | .lost => .lost
  | .read pick => .read pick
  | .stamp stamp => .stamp stamp
  | .commit => .commit
  | .clock time => .clock time
  | .pas choice => .pas (.ok ("", choice))
  | .publish copies raised => .publish copies raised

abbrev StackScript := List (Choice Request (StackFate Reaction) (Env UserAct))

def onStack (script : Scenario.Script) : StackScript :=
  script.map fun
    | .start req => .start req
    | .run i fate => .run i (.service (sent fate))
    | .crash i => .crash i
    | .env e => .env e

/-- The next calls of thread 3. -/
def calls (fates : List (StackFate Reaction)) : StackScript := fates.map (.run 3)

/-- A request with a token that is fetched for it. -/
def fetches (now : ℚ) (kept : List (StackFate Reaction)) (token : String) : StackScript :=
  let body : Json := .obj [("access_token", .str token), ("expires_in", .int 60)]
  calls ([.monotonic now, .field] ++ kept ++ [.token (.ok ⟨200, some body, ""⟩), .field, .field, .http (.serve "")])

/-- A request with the token that is kept. -/
def keeps (now : ℚ) : StackScript := calls [.monotonic now, .field, .field, .http (.serve "")]

/-- A bind whose token lasts for its create and its submit only. -/
def boundOver : StackScript :=
  onStack (Scenario.quoted ++ [.start Scenario.bind] ++ Scenario.opening 3 30) ++
    fetches 1000 [] "t1" ++ keeps 1029 ++ fetches 1030 [.field] "t2" ++
    onStack (Scenario.drive 3 [.publish 1 false] ++ Scenario.recording 3 "b" 31 ++ Scenario.closing 3)

/-- The `Authorization` of the requests that were answered. -/
def bearers (t : Thread StackReply Request StackSession (StackProgram Answer)) : List (List (String × String)) :=
  t.log.filterMap fun
    | ⟨.client (.http request), _⟩ => some request.headers
    | _ => none

/-- Thread 3 has made three requests, two with the first token. -/
def refetched (s : StackSys ℕ) : Bool :=
  s.world.pas == 3 && s.world.db.bindings.length == 1 &&
    (s.threads[3]?.map bearers == some [headersOf "t1", headersOf "t1", headersOf "t2"])

theorem refetched_bears : ∃ s : StackSys ℕ, refetched s ∧ ∀ t ∈ s.threads,
    (∀ c rest, t.ctl.next = some ⟨c, rest⟩ → Bears success t.log c) ∧
      ∀ before entry after, t.log = before ++ entry :: after → Bears success before entry.1 := by
  obtain ⟨s, run, checked⟩ := exists_run (stack pasClient counter) (stackRequests pasClient success) anyStep
    ⟨.initial 0, []⟩ boundOver refetched (by decide +kernel)
  exact ⟨s, checked, bears_run run⟩

/-! ## Refinement -/

/-- The client's methods are those of the services, with a token fetched or kept
    before every request. -/
structure Implements (client : HttpPolicyServiceClient) (raiseForStatus : StatusCheck) : Prop where
  createPolicy : ∀ req, (PolicyClient.createPolicy req).interpret (client.impl raiseForStatus) =
    ofClient (client.createPolicy raiseForStatus req)
  submit : ∀ policyId, (PolicyClient.submit policyId).interpret (client.impl raiseForStatus) =
    ofClient (client.submit raiseForStatus policyId)
  activate : ∀ policyId, (PolicyClient.activate policyId).interpret (client.impl raiseForStatus) =
    ofClient (client.activate raiseForStatus policyId)

/-- A thread of the services and the same thread over the client. -/
structure SameThread (u : Thread Reply Request Db (Program Answer))
    (t : Thread StackReply Request StackSession (StackProgram Answer)) : Prop where
  req : u.req = t.req
  pending : u.session = t.session.pending
  outcome : u.ctl.outcome? = t.ctl.outcome?

/-- Whatever the services over the HTTP client come to, in any interleaving of their
    calls, token calls included, the services come to over a policy service that
    answers each request at once. -/
theorem refines {w : World σ} {s : StackSys σ}
    (run : Run (stack client H) (stackRequests client raiseForStatus) anyStep ⟨w, []⟩ s) :
    Implements client raiseForStatus ∧ ∃ r : ProgSys σ, Run (backend (client.viaHttp H)) requests anyStep (idle w) r ∧
      r.world = s.world ∧ List.Forall₂ SameThread r.threads s.threads := by
  constructor
  · constructor
    · exact HttpPolicyServiceClient.createPolicy_implements
    · exact fun policyId => HttpPolicyServiceClient.transition_implements policyId "submit"
    · exact fun policyId => HttpPolicyServiceClient.transition_implements policyId "activate"
  · have start : LinkedSystems (backend (client.viaHttp H)) (stack client H) StackSession.pending
        (client.stacked raiseForStatus H).impl (idle w : ProgSys σ) ⟨w, []⟩ := ⟨rfl, .nil⟩
    have overClient : Run (stack client H) (implemented (client.stacked raiseForStatus H) route .died) anyStep
        ⟨w, []⟩ s := run
    obtain ⟨r, reached, linked⟩ := linked_run overClient start
    refine ⟨r, reached, linked.world, linked.threads.imp fun u t related => ?_⟩
    exact ⟨related.req, related.session, related.linked.ended⟩

theorem refetched_refines : ∃ (s : StackSys ℕ) (r : ProgSys ℕ), refetched s ∧
    Run (backend (pasClient.viaHttp counter)) requests anyStep (idle (.initial 0)) r ∧ r.world = s.world ∧
      List.Forall₂ SameThread r.threads s.threads := by
  obtain ⟨s, run, checked⟩ := exists_run (stack pasClient counter) (stackRequests pasClient success) anyStep
    ⟨.initial 0, []⟩ boundOver refetched (by decide +kernel)
  obtain ⟨-, r, reached, same⟩ := refines run
  exact ⟨s, r, checked, reached, same⟩

end Underwriting.Client
