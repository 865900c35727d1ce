import Underwriting.Machine.Phases

/-! # What a thread knows

For each program point: the rows the request has read are committed, its
transaction holds exactly the rows it inserted, and the calls it must have made
are on record. All of it survives the steps of other threads, since committed
rows only accumulate.
-/

namespace Underwriting

open Interleaving
open PolicyClient (PolicyRef)

abbrev PointThread := Thread Reply Request Db Phase
abbrev PointSys (σ : Type) := Sys Reply Request (World σ) Db Phase

/-- The submission a request asked for. -/
def Db.Has (db : Db) (submissionId : String) (submission : Submission) : Prop :=
  submission ∈ db.submissions ∧ submission.id = submissionId

structure AssessFile.Read (file : AssessFile) (db : Db) : Prop where
  has : db.Has file.submissionId file.submission
  ruleset : file.ruleset ∈ db.rulesets
  assessed : SubmissionService.assessed file.submission file.ruleset = .ok file.result

structure QuoteFile.Read (file : QuoteFile) (db : Db) : Prop where
  has : db.Has file.submissionId file.submission
  decision : file.decision ∈ db.decisionsOf file.submissionId
  undeclined : file.decision.outcome ≠ Outcome.decline.value
  rateTable : file.rateTable ∈ db.rateTables
  priced : RatingService.priced file.submission file.rateTable = .ok file.breakdown

structure BindFile.Read (file : BindFile) (db : Db) : Prop where
  has : db.Has file.submissionId file.submission
  decision : file.decision ∈ db.decisionsOf file.submissionId
  accepted : file.decision.outcome = Outcome.accept.value
  quote : file.quote ∈ db.quotesOf file.submissionId

/-- The request was made from the file at some clock reading. -/
def BindFile.Requested (file : BindFile) (request : CreatePolicyRequest) : Prop :=
  ∃ holder now,
    BindService.createRequest file.submission holder (BindService.policyNumberFor file.quote.id) now = .ok request

namespace Phase

/-- The rows a point has read or inserted are what they should be. -/
def Fits (db : Db) : Phase → Prop
  | .createAudit payload _ cp row => row.toNewSubmission = SubmissionService.newSubmission payload cp.id
  | .createCommit payload actor cp row entry =>
      row.toNewSubmission = SubmissionService.newSubmission payload cp.id ∧
        entry.toNewAuditEntry = SubmissionService.createdEntry row actor
  | .assessRuleset sid _ submission => db.Has sid submission
  | .assessInsert file => file.Read db
  | .assessAudit file row =>
      file.Read db ∧
        row.toNewDecision = SubmissionService.newDecision file.submission file.ruleset file.result file.actor
  | .assessCommit file row entry =>
      file.Read db ∧
        row.toNewDecision = SubmissionService.newDecision file.submission file.ruleset file.result file.actor ∧
        entry.toNewAuditEntry =
          SubmissionService.assessedEntry file.submission file.ruleset file.result file.actor
  | .quoteDecision sid _ submission => db.Has sid submission
  | .quoteTable sid _ submission decision =>
      db.Has sid submission ∧ decision ∈ db.decisionsOf sid ∧ decision.outcome ≠ Outcome.decline.value
  | .quoteInsert file => file.Read db
  | .quoteAudit file row =>
      file.Read db ∧ row.toNewQuote = RatingService.newQuote file.submission file.breakdown file.actor
  | .quoteCommit file row entry =>
      file.Read db ∧ row.toNewQuote = RatingService.newQuote file.submission file.breakdown file.actor ∧
        entry.toNewAuditEntry =
          RatingService.quotedEntry file.submission file.rateTable file.breakdown file.actor
  | .bindCheck sid _ submission | .bindDecision sid _ submission => db.Has sid submission
  | .bindQuote sid _ submission decision =>
      db.Has sid submission ∧ decision ∈ db.decisionsOf sid ∧ decision.outcome = Outcome.accept.value
  | .bindHolder file | .bindClock file _ => file.Read db
  | .bindCreate file request | .bindResolve file request
  | .bindSubmit file request _ | .bindActivate file request _ | .bindPublish file request _
  | .bindInsert file request _ _ => file.Read db ∧ file.Requested request
  | .bindAudit file request policy published row =>
      (file.Read db ∧ file.Requested request) ∧
        row.toNewBinding = BindService.newBinding file.submission file.quote policy published file.actor
  | .bindCommit file request policy published row entry =>
      (file.Read db ∧ file.Requested request) ∧
        row.toNewBinding = BindService.newBinding file.submission file.quote policy published file.actor ∧
        entry.toNewAuditEntry =
          BindService.boundEntry file.submission file.quote policy published file.actor
  | _ => True

/-- The rows the transaction of a point has inserted. -/
def pending : Phase → Db
  | .createSubmission _ _ cp => { counterparties := [cp] }
  | .createAudit _ _ cp row => { counterparties := [cp], submissions := [row] }
  | .createCommit _ _ cp row entry => { counterparties := [cp], submissions := [row], audits := [entry] }
  | .assessAudit _ row => { decisions := [row] }
  | .assessCommit _ row entry => { decisions := [row], audits := [entry] }
  | .quoteAudit _ row => { quotes := [row] }
  | .quoteCommit _ row entry => { quotes := [row], audits := [entry] }
  | .bindAudit _ _ _ _ row => { bindings := [row] }
  | .bindCommit _ _ _ _ row entry => { bindings := [row], audits := [entry] }
  | _ => .empty

/-- The request a point belongs to. -/
def Of (req : Request) : Phase → Prop
  | .createCounterparty payload actor | .createSubmission payload actor _ | .createAudit payload actor _ _
  | .createCommit payload actor _ _ _ => req = .create payload actor
  | .createRefresh _ => ∃ payload actor, req = .create payload actor
  | .assessGuard sid actor | .assessSubmission sid actor | .assessRuleset sid actor _ => req = .assess sid actor
  | .assessInsert file | .assessAudit file _ | .assessCommit file _ _ => req = .assess file.submissionId file.actor
  | .assessRefresh sid _ => ∃ actor, req = .assess sid actor
  | .quoteGuard sid actor | .quoteSubmission sid actor | .quoteDecision sid actor _
  | .quoteTable sid actor _ _ => req = .quote sid actor
  | .quoteInsert file | .quoteAudit file _ | .quoteCommit file _ _ => req = .quote file.submissionId file.actor
  | .quoteRefresh sid _ => ∃ actor, req = .quote sid actor
  | .bindSubmission sid actor | .bindCheck sid actor _ | .bindDecision sid actor _
  | .bindQuote sid actor _ _ => req = .bind sid actor
  | .bindHolder file | .bindClock file _ | .bindCreate file _ | .bindResolve file _ | .bindSubmit file _ _
  | .bindActivate file _ _ | .bindPublish file _ _ | .bindInsert file _ _ _ | .bindAudit file _ _ _ _
  | .bindCommit file _ _ _ _ _ => req = .bind file.submissionId file.actor
  | .bindRefresh sid _ => ∃ actor, req = .bind sid actor
  | .ended _ => True

/-- The reads of a bind. -/
def reads (file : BindFile) : List ((c : Call) × Reply c) :=
  [⟨.bindingBySubmission file.submissionId, none⟩, ⟨.latestDecision file.submissionId, some file.decision⟩,
    ⟨.latestQuote file.submissionId, some file.quote⟩]

/-- Calls a thread at this point must have made, with the answers it got; only
    those are listed that conditions on runs ask for. -/
def logged : Phase → List ((c : Call) × Reply c)
  | .assessSubmission sid _ | .assessRuleset sid _ _ | .quoteSubmission sid _ | .quoteDecision sid _ _
  | .quoteTable sid _ _ _ | .bindDecision sid _ _ => [⟨.bindingBySubmission sid, none⟩]
  | .assessInsert file | .assessAudit file _ | .assessCommit file _ _ =>
      [⟨.bindingBySubmission file.submissionId, none⟩]
  | .quoteInsert file | .quoteAudit file _ | .quoteCommit file _ _ =>
      [⟨.bindingBySubmission file.submissionId, none⟩]
  | .bindQuote sid _ _ decision => [⟨.bindingBySubmission sid, none⟩, ⟨.latestDecision sid, some decision⟩]
  | .bindHolder file | .bindClock file _ | .bindCreate file _ | .bindResolve file _ | .bindSubmit file _ _
  | .bindActivate file _ _ | .bindPublish file _ _ => reads file
  | .bindInsert file request _ published | .bindAudit file request _ published _
  | .bindCommit file request _ published _ _ =>
      reads file ++
        if published then [⟨.publish (BindService.eventOf file.submission file.quote request), ()⟩] else []
  | _ => []

/-- The submission that an assess or a quote under way has found unbound. -/
def guarded : Phase → Option String
  | .assessSubmission sid _ | .assessRuleset sid _ _ | .quoteSubmission sid _ | .quoteDecision sid _ _
  | .quoteTable sid _ _ _ => some sid
  | .assessInsert file | .assessAudit file _ | .assessCommit file _ _ => some file.submissionId
  | .quoteInsert file | .quoteAudit file _ | .quoteCommit file _ _ => some file.submissionId
  | _ => none

/-- The submission whose event a bind under way has published. -/
def published : Phase → Option String
  | .bindInsert file _ _ true | .bindAudit file _ _ true _ | .bindCommit file _ _ true _ _ =>
      some file.submissionId
  | _ => none

/-- Nothing is left to commit. -/
def Closed : Phase → Prop
  | .createRefresh _ | .assessRefresh _ _ | .quoteRefresh _ _ | .bindRefresh _ _ | .ended _ => True
  | _ => False

variable {db db' : Db} {ph ph' : Phase} {c : Call} {rest : Except PyErr (Reply c) → Phase}
  {answer : Except PyErr (Reply c)}

theorem has_grows {sid submission} (has : db.Has sid submission) (grown : db.Grows db') : db'.Has sid submission :=
  ⟨grown.submission has.1, has.2⟩

theorem decisionsOf_grows {sid decision} (member : decision ∈ db.decisionsOf sid) (grown : db.Grows db') :
    decision ∈ db'.decisionsOf sid :=
  Db.mem_decisionsOf.mpr ⟨grown.decision (Db.mem_decisionsOf.mp member).1, (Db.mem_decisionsOf.mp member).2⟩

theorem quotesOf_grows {sid quote} (member : quote ∈ db.quotesOf sid) (grown : db.Grows db') :
    quote ∈ db'.quotesOf sid :=
  Db.mem_quotesOf.mpr ⟨grown.quote (Db.mem_quotesOf.mp member).1, (Db.mem_quotesOf.mp member).2⟩

theorem assess_grows {file : AssessFile} (read : file.Read db) (grown : db.Grows db') : file.Read db' :=
  ⟨has_grows read.has grown, grown.ruleset read.ruleset, read.assessed⟩

theorem quote_grows {file : QuoteFile} (read : file.Read db) (grown : db.Grows db') : file.Read db' :=
  ⟨has_grows read.has grown, decisionsOf_grows read.decision grown, read.undeclined,
    grown.rateTable read.rateTable, read.priced⟩

theorem bind_grows {file : BindFile} (read : file.Read db) (grown : db.Grows db') : file.Read db' :=
  ⟨has_grows read.has grown, decisionsOf_grows read.decision grown, read.accepted,
    quotesOf_grows read.quote grown⟩

theorem Fits.grows (fits : ph.Fits db) (grown : db.Grows db') : ph.Fits db' := by
  cases ph with
  | assessRuleset | quoteDecision | bindCheck | bindDecision => exact has_grows fits grown
  | assessInsert => exact assess_grows fits grown
  | assessAudit | assessCommit => exact ⟨assess_grows fits.1 grown, fits.2⟩
  | quoteTable | bindQuote => exact ⟨has_grows fits.1 grown, decisionsOf_grows fits.2.1 grown, fits.2.2⟩
  | quoteInsert => exact quote_grows fits grown
  | quoteAudit | quoteCommit => exact ⟨quote_grows fits.1 grown, fits.2⟩
  | bindHolder | bindClock => exact bind_grows fits grown
  | bindCreate | bindResolve | bindSubmit | bindActivate | bindPublish | bindInsert =>
      exact ⟨bind_grows fits.1 grown, fits.2⟩
  | bindAudit | bindCommit => exact ⟨⟨bind_grows fits.1.1 grown, fits.1.2⟩, fits.2⟩
  | _ => exact fits

theorem Of.next {req : Request} (of : ph.Of req) (leads : Leads ph c answer ph') : ph'.Of req := by
  cases leads with
  | ended => trivial
  | createCommit => exact ⟨_, _, of⟩
  | assessCommit | quoteCommit | bindCommit => exact ⟨_, of⟩
  | _ => exact of

/-- The record of a point is kept, extended by the answer just given, or dropped. -/
theorem logged_next (leads : Leads ph c answer ph') :
    ph'.logged = ph.logged ∨ (∃ value, answer = .ok value ∧ ph'.logged = ph.logged ++ [⟨c, value⟩]) ∨
      ph'.logged = [] := by
  cases leads with
  | ended | createCommit | assessCommit | quoteCommit | bindCommit => exact .inr (.inr rfl)
  | assessGuard | quoteGuard | bindCheck | bindDecision | bindQuote => exact .inr (.inl ⟨_, rfl, rfl⟩)
  | @bindPublish file request policy answer =>
      cases answer with
      | ok value => exact .inr (.inl ⟨value, rfl, rfl⟩)
      | error err => exact .inl (List.append_nil _)
  | _ => exact .inl rfl

/-- A guard is passed when it finds no Binding. -/
theorem guarded_next (leads : Leads ph c answer ph') {sid : String} (guarded : ph'.guarded = some sid) :
    ph.guarded = some sid ∨
      (⟨c, answer⟩ : (c : Call) × Except PyErr (Reply c)) = ⟨.bindingBySubmission sid, .ok none⟩ := by
  cases leads with
  | assessGuard | quoteGuard =>
      cases guarded
      exact .inr rfl
  | ended | assessCommit | quoteCommit => cases guarded
  | _ => exact .inl guarded

/-- The three points between a publish and its commit. -/
theorem published_cases {sid : String} (published : ph.published = some sid) : ∃ file : BindFile,
    file.submissionId = sid ∧ ∃ request policy,
      ph = .bindInsert file request policy true ∨ (∃ row, ph = .bindAudit file request policy true row) ∨
        ∃ row entry, ph = .bindCommit file request policy true row entry := by
  cases ph <;> try cases published
  case bindInsert file request policy sent =>
    cases sent <;> cases published
    exact ⟨file, rfl, request, policy, .inl rfl⟩
  case bindAudit file request policy sent row =>
    cases sent <;> cases published
    exact ⟨file, rfl, request, policy, .inr (.inl ⟨row, rfl⟩)⟩
  case bindCommit file request policy sent row entry =>
    cases sent <;> cases published
    exact ⟨file, rfl, request, policy, .inr (.inr ⟨row, entry, rfl⟩)⟩

/-- After it has published a bind goes on to its commit, unless a call fails. -/
theorem published_next (found : ph.next = some ⟨c, rest⟩) {sid : String} (published : ph.published = some sid)
    (value : Reply c) : (rest (.ok value)).published = some sid ∨
      c = .commit ∧ ∃ row ∈ ph.pending.bindings, ∀ db, ph.Fits db → row.submissionId = sid := by
  obtain ⟨file, rfl, request, policy, rfl | ⟨row, rfl⟩ | ⟨row, entry, rfl⟩⟩ := published_cases published
  · cases found
    exact .inl rfl
  · cases found
    exact .inl rfl
  · cases found
    refine .inr ⟨rfl, row, List.mem_singleton_self _, fun db fits => ?_⟩
    exact (congrArg NewBinding.submissionId fits.2.1).trans fits.1.1.has.2

theorem closed_next (leads : Leads ph c answer ph') :
    (ph.Closed → ph'.Closed) ∧ (c = .commit → ph'.Closed) := by
  cases leads with
  | ended | createCommit | assessCommit | quoteCommit | bindCommit => exact ⟨fun _ => trivial, fun _ => trivial⟩
  | _ => exact ⟨False.elim, fun same => nomatch same⟩

/-- Only a live request with something to commit is on record. -/
theorem logged_live {entry} (member : entry ∈ ph.logged) : ph.next.isSome ∧ ¬ ph.Closed := by
  cases ph <;> first
    | exact ⟨rfl, id⟩
    | cases member

theorem logged_guarded {sid} (guarded : ph.guarded = some sid) : ⟨.bindingBySubmission sid, none⟩ ∈ ph.logged := by
  cases ph <;> cases guarded <;> exact List.mem_singleton_self _

theorem logged_published {sid} (published : ph.published = some sid) :
    ∃ event, ⟨.publish event, ()⟩ ∈ ph.logged := by
  obtain ⟨file, -, request, policy, rfl | ⟨row, rfl⟩ | ⟨row, entry, rfl⟩⟩ := published_cases published <;>
    exact ⟨_, List.mem_append_right _ (List.mem_singleton_self _)⟩

/-- A point fits, and unless it ended its transaction is as the point says. -/
def Kept (db pending : Db) (ph : Phase) : Prop := ph.Fits db ∧ ((∃ r, ph = .ended r) ∨ pending = ph.pending)

theorem kept_ended (db pending : Db) (r) : Kept db pending (.ended r) := ⟨trivial, .inl ⟨r, rfl⟩⟩

variable {σ φ υ : Type} {P : PasModel σ φ υ} {w w' : World σ} {pending' : Db} {fate : Fate φ}

theorem found_submission {sid pick submission}
    (read : w.db.query pick (.getSubmission sid) = some (some submission)) : w.db.Has sid submission := by
  have found := Option.some.inj read
  exact ⟨List.mem_of_find?_eq_some found, by simpa using List.find?_some found⟩

theorem found_decision {sid pick decision}
    (read : w.db.query pick (.latestDecision sid) = some (some decision)) :
    decision ∈ w.db.decisionsOf sid :=
  (Latest.limitOne_top (Option.some.inj read)).1

theorem found_quote {sid pick quote} (read : w.db.query pick (.latestQuote sid) = some (some quote)) :
    quote ∈ w.db.quotesOf sid :=
  (Latest.limitOne_top (Option.some.inj read)).1

/-- An inserted row is what the point has made. -/
theorem Fits.inserted (fits : ph.Fits w.db) (leads : Leads ph c answer ph') (kind : c.kind = .insert)
    (handled : Handled P w ph.pending c fate answer w' pending') : Kept w'.db pending' ph' := by
  cases leads with
  | ended => exact kept_ended _ _ _
  | createCounterparty =>
      obtain ⟨stamp, added, -, inserted, rfl, rfl, -⟩ := handled.inserted rfl rfl
      cases inserted
      exact ⟨trivial, .inr rfl⟩
  | createSubmission =>
      obtain ⟨stamp, added, -, inserted, rfl, rfl, -⟩ := handled.inserted rfl rfl
      cases inserted
      exact ⟨rfl, .inr rfl⟩
  | createAudit | assessInsert | quoteInsert | bindInsert =>
      obtain ⟨stamp, added, -, inserted, rfl, rfl, -⟩ := handled.inserted rfl rfl
      cases inserted
      exact ⟨⟨fits, rfl⟩, .inr rfl⟩
  | assessAudit | quoteAudit | bindAudit =>
      obtain ⟨stamp, added, -, inserted, rfl, rfl, -⟩ := handled.inserted rfl rfl
      cases inserted
      exact ⟨⟨fits.1, fits.2, rfl⟩, .inr rfl⟩
  | _ => cases kind

/-- A row that was read is committed. -/
theorem Fits.read (fits : ph.Fits w.db) (leads : Leads ph c answer ph') (kind : c.kind = .query)
    (handled : Handled P w ph.pending c fate answer w' pending') : Kept w'.db pending' ph' := by
  cases leads with
  | ended => exact kept_ended _ _ _
  | assessGuard | quoteGuard =>
      obtain ⟨rfl, rfl, -⟩ := handled.query rfl rfl
      exact ⟨trivial, .inr rfl⟩
  | assessSubmission | quoteSubmission | bindSubmission =>
      obtain ⟨rfl, rfl, pick, read⟩ := handled.query rfl rfl
      exact ⟨found_submission read, .inr rfl⟩
  | assessRuleset assessed =>
      obtain ⟨rfl, rfl, pick, read⟩ := handled.query rfl rfl
      exact ⟨⟨fits, (Latest.limitOne_top (Option.some.inj read)).1, assessed⟩, .inr rfl⟩
  | quoteDecision undeclined =>
      obtain ⟨rfl, rfl, pick, read⟩ := handled.query rfl rfl
      exact ⟨⟨fits, found_decision read, undeclined⟩, .inr rfl⟩
  | quoteTable priced =>
      obtain ⟨rfl, rfl, pick, read⟩ := handled.query rfl rfl
      exact ⟨⟨fits.1, fits.2.1, fits.2.2, (Latest.limitOne_top (Option.some.inj read)).1, priced⟩, .inr rfl⟩
  | bindCheck | bindHolder =>
      obtain ⟨rfl, rfl, -⟩ := handled.query rfl rfl
      exact ⟨fits, .inr rfl⟩
  | bindDecision accepted =>
      obtain ⟨rfl, rfl, pick, read⟩ := handled.query rfl rfl
      exact ⟨⟨fits, found_decision read, accepted⟩, .inr rfl⟩
  | bindQuote =>
      obtain ⟨rfl, rfl, pick, read⟩ := handled.query rfl rfl
      exact ⟨⟨fits.1, fits.2.1, fits.2.2, found_quote read⟩, .inr rfl⟩
  | _ => cases kind

/-- The answer to a call keeps what the thread knows. -/
theorem Fits.next (fits : ph.Fits w.db) (leads : Leads ph c answer ph')
    (handled : Handled P w ph.pending c fate answer w' pending') : Kept w'.db pending' ph' := by
  by_cases query : c.kind = .query
  · exact fits.read leads query handled
  by_cases insert : c.kind = .insert
  · exact fits.inserted leads insert handled
  cases leads with
  | ended => exact kept_ended _ _ _
  | createCommit | assessCommit | quoteCommit | bindCommit =>
      obtain ⟨rfl, rfl, -⟩ := handled.committed rfl
      exact ⟨trivial, .inr rfl⟩
  | bindClock drawn =>
      obtain ⟨rfl, rfl⟩ := handled.clock rfl
      exact ⟨⟨fits, _, _, drawn⟩, .inr rfl⟩
  | bindCreate | bindConflict | bindResolve | bindSubmit | bindActivate =>
      obtain ⟨failed, -, -⟩ | ⟨choice, pas, -, -, rfl, rfl⟩ := handled.served
      · cases failed
      · exact ⟨fits, .inr rfl⟩
  | bindPublish =>
      obtain ⟨copies, raised, rfl, rfl, rfl, rfl⟩ := handled.published
      exact ⟨fits, .inr rfl⟩
  | _ => first | exact absurd rfl query | exact absurd rfl insert

end Phase

end Underwriting
