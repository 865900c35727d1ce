import Underwriting.Machine.Steps

/-! # Requests under way

What conditions on runs say of the requests that are under way: whose they are,
what they have read, and which calls lie behind them. All of it is read off the
request and the log, never off the program point.
-/

namespace Underwriting

open Interleaving

/-- The submission a bind is for. -/
def Request.bindOf : Request → Option String
  | .bind submissionId _ => some submissionId
  | _ => none

/-- The submission an assess or a quote is for. -/
def Request.underwritingOf : Request → Option String
  | .assess submissionId _ | .quote submissionId _ => some submissionId
  | _ => none

/-- The submission a quote is for. -/
def Request.quoteOf : Request → Option String
  | .quote submissionId _ => some submissionId
  | _ => none

def Call.isCheck : Call → Bool
  | .bindingBySubmission _ => true
  | _ => false

def Call.isPublish : Call → Bool
  | .publish _ => true
  | _ => false

def Call.isCommit : Call → Bool
  | .commit => true
  | _ => false

def Call.isCreate : Call → Bool
  | .policyService (.create _) => true
  | _ => false

def Call.isActivate : Call → Bool
  | .policyService (.transition _ action) => action = "activate"
  | _ => false

section Threads

variable {K : Type}

/-- The request has made such a call, is still running and has not committed. -/
def InFlight (C : Control Reply PyErr Request K) (since : Call → Bool) (t : Thread Reply Request Db K) : Prop :=
  t.Live C ∧ t.done.any since = true ∧ t.done.any Call.isCommit = false

instance (C : Control Reply PyErr Request K) (since : Call → Bool) (t : Thread Reply Request Db K) :
    Decidable (InFlight C since t) :=
  inferInstanceAs (Decidable (t.Live C ∧ t.done.any since = true ∧ t.done.any Call.isCommit = false))

def decisionRead : (c : Call) × Reply c → Option Decision
  | ⟨.latestDecision _, found⟩ => found
  | _ => none

def quoteRead : (c : Call) × Reply c → Option Quote
  | ⟨.latestQuote _, found⟩ => found
  | _ => none

def clockRead : (c : Call) × Reply c → Option ℕ
  | ⟨.now, time⟩ => some time
  | _ => none

/-- The latest decisions a request was answered with. -/
def decisionsRead (t : Thread Reply Request Db K) : List Decision := t.log.filterMap decisionRead

/-- The latest quotes a request was answered with. -/
def quotesRead (t : Thread Reply Request Db K) : List Quote := t.log.filterMap quoteRead

/-- The times a request has read off the clock. -/
def clockReadings (t : Thread Reply Request Db K) : List ℕ := t.log.filterMap clockRead

end Threads

@[simp] theorem inFlight_map {since : Call → Bool} {t : PointThread} :
    InFlight requests since (t.map routes.map) ↔ InFlight points since t := by
  simp only [InFlight, Thread.live_map, Thread.done_map]

namespace Sound

variable {db : Db} {t : PointThread}

/-- A request whose point has an answer on record is under way since that call. -/
theorem inFlight (sound : Sound db t) {entry} (member : entry ∈ t.ctl.logged) {since : Call → Bool}
    (counts : since entry.1 = true) : InFlight points since t := by
  obtain ⟨live, opened⟩ := Phase.logged_live member
  refine ⟨live, ?_, ?_⟩
  · exact List.any_eq_true.mpr ⟨entry.1, List.mem_map_of_mem (sound.logged member), counts⟩
  · refine List.any_eq_false.mpr fun c made committed => opened (sound.uncommitted ?_)
    cases c <;> first | exact made | cases committed

theorem guarded_inFlight (sound : Sound db t) {sid} (guarded : t.ctl.guarded = some sid) :
    InFlight points Call.isCheck t :=
  sound.inFlight (Phase.logged_guarded guarded) rfl

theorem guarded_request (sound : Sound db t) {sid} (guarded : t.ctl.guarded = some sid) :
    t.req.underwritingOf = some sid := by
  have request := sound.request
  cases phase : t.ctl <;> rw [phase] at guarded request <;> cases guarded <;>
    exact congrArg Request.underwritingOf request

theorem published_inFlight (sound : Sound db t) {sid} (published : t.ctl.published = some sid) :
    InFlight points Call.isPublish t := by
  obtain ⟨event, member⟩ := Phase.logged_published published
  exact sound.inFlight member rfl

theorem published_request (sound : Sound db t) {sid} (published : t.ctl.published = some sid) :
    t.req.bindOf = some sid := by
  have request := sound.request
  obtain ⟨file, rfl, req, policy, phase | ⟨row, phase⟩ | ⟨row, entry, phase⟩⟩ := Phase.published_cases published <;>
    rw [phase] at request <;> exact congrArg Request.bindOf request

/-- Only binds publish, each for its own submission. -/
theorem publishes (sound : Sound db t) {event} {rest : Except PyErr (Reply (.publish event)) → Phase}
    (next : t.ctl.next = some ⟨.publish event, rest⟩) :
    t.req.bindOf = some event.submissionId ∧ (rest (.ok ())).published = some event.submissionId := by
  have fits := sound.kept.1
  have request := sound.request
  cases phase : t.ctl <;> rw [phase] at next fits request <;> cases next
  case bindPublish file req policy =>
    have owner : file.submission.id = file.submissionId := fits.1.has.2
    exact ⟨(congrArg Request.bindOf request).trans (congrArg some owner.symm), congrArg some owner.symm⟩

theorem decision_read (sound : Sound db t) (sid : String) {decision}
    (member : ⟨.latestDecision sid, some decision⟩ ∈ t.ctl.logged) : decision ∈ decisionsRead t :=
  List.mem_filterMap.mpr ⟨_, sound.logged member, rfl⟩

theorem quote_read (sound : Sound db t) (sid : String) {quote}
    (member : ⟨.latestQuote sid, some quote⟩ ∈ t.ctl.logged) : quote ∈ quotesRead t :=
  List.mem_filterMap.mpr ⟨_, sound.logged member, rfl⟩

end Sound

end Underwriting
