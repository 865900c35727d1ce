import Mathlib.Tactic.Abel
import Mathlib.Algebra.Order.Group.Multiset
import Underwriting.Lib.Ledger
import Underwriting.Machine.Milestones
import Underwriting.Machine.Rows
import Underwriting.Machine.Scenario

/-! # Every write exactly once

The rows of the store are those that committed requests have inserted, each once: a
request that was refused, failed or died before its commit has left nothing, and one
that was answered has left all its rows.
-/

namespace Underwriting.Ledger

open Interleaving

/-- A row of a table that the requests write. -/
inductive Row where
  | counterparty (row : Counterparty)
  | submission (row : Submission)
  | decision (row : Decision)
  | quote (row : Quote)
  | binding (row : Binding)
  | audit (row : AuditEntry)

def rows (db : Db) : Multiset Row :=
  (db.counterparties.map Row.counterparty : Multiset Row) + (db.submissions.map Row.submission : Multiset Row) +
    (db.decisions.map Row.decision : Multiset Row) + (db.quotes.map Row.quote : Multiset Row) +
      (db.bindings.map Row.binding : Multiset Row) + (db.audits.map Row.audit : Multiset Row)

section Tables

variable {db : Db}

theorem submission_rows {row : Submission} : .submission row ∈ rows db ↔ row ∈ db.submissions := by
  simp [rows]

theorem decision_rows {row : Decision} : .decision row ∈ rows db ↔ row ∈ db.decisions := by
  simp [rows]

theorem quote_rows {row : Quote} : .quote row ∈ rows db ↔ row ∈ db.quotes := by
  simp [rows]

theorem binding_rows {row : Binding} : .binding row ∈ rows db ↔ row ∈ db.bindings := by
  simp [rows]

end Tables

/-- The row that an answered insert has made. -/
def rowOf : (c : Call) × Reply c → Option Row
  | ⟨.addCounterparty _, row⟩ => some (.counterparty row)
  | ⟨.addSubmission _, row⟩ => some (.submission row)
  | ⟨.addDecision _, row⟩ => some (.decision row)
  | ⟨.addQuote _, row⟩ => some (.quote row)
  | ⟨.addBinding _, row⟩ => some (.binding row)
  | ⟨.appendAudit _, row⟩ => some (.audit row)
  | _ => none

def inserted (log : List ((c : Call) × Reply c)) : Multiset Row := log.filterMap rowOf

/-- The rows a thread has inserted, once it has committed. -/
def written {K : Type} (t : Thread Reply Request Db K) : Multiset Row :=
  if t.done.any Call.isCommit then inserted t.log else 0

theorem rows_append (db more : Db) : rows (db ++ more) = rows db + rows more := by
  simp only [rows, Db.append_counterparties, Db.append_submissions, Db.append_decisions, Db.append_quotes,
    Db.append_bindings, Db.append_audits, List.map_append, ← Multiset.coe_add]
  abel

theorem inserted_snoc (log : List ((c : Call) × Reply c)) (entry : (c : Call) × Reply c) :
    inserted (log ++ [entry]) = inserted log + ((rowOf entry).toList : Multiset Row) := by
  rw [inserted, List.filterMap_append, ← Multiset.coe_add]
  rfl

/-- An insert puts the row it answers with into the transaction. -/
theorem rows_insertion {c : Call} {stamp : Stamp} {row : Reply c} {added : Db}
    (inserts : c.insertion stamp = some (row, added)) : rows added = ((rowOf ⟨c, row⟩).toList : Multiset Row) := by
  cases c <;> cases inserts <;> rfl

theorem any_commit {K : Type} {t : Thread Reply Request Db K} :
    t.done.any Call.isCommit = true ↔ .commit ∈ t.done := by
  rw [List.any_eq_true]
  constructor
  · rintro ⟨c, made, commits⟩
    cases c <;> first | exact made | cases commits
  · exact fun made => ⟨_, made, rfl⟩

/-! ## One thread -/

/-- Until it commits, a thread's transaction holds what the thread has inserted. -/
def Tallied (t : PointThread) : Prop := ¬t.ctl.Closed → rows t.session = inserted t.log

section Answers

variable {σ φ υ : Type} {P : PasModel σ φ υ} {w w' : World σ} {t : PointThread} {c : Call}
  {rest : Except PyErr (Reply c) → Phase} {fate : Fate φ} {answer : Except PyErr (Reply c)} {session : Db}

/-- After its commit a thread does nothing but refresh. -/
theorem refreshes {ph : Phase} (closed : ph.Closed) (next : ph.next = some ⟨c, rest⟩) : c = .refresh := by
  cases ph <;> cases next <;> first | rfl | cases closed

theorem inserted_answered {value : Reply c} : inserted (t.answered c rest (.ok value) session).log =
    inserted t.log + ((rowOf ⟨c, value⟩).toList : Multiset Row) := inserted_snoc ..

/-- What an answer adds to a thread's session is what it adds to its record. -/
theorem session_answered (handled : Handled P w t.session c fate answer w' session) (other : c ≠ .commit)
    (tallied : rows t.session = inserted t.log) : rows session = inserted (t.answered c rest answer session).log := by
  have plain : ∀ value : Reply c, rowOf ⟨c, value⟩ = none →
      rows t.session = inserted (t.answered c rest (.ok value) t.session).log := by
    intro value none
    rw [inserted_answered, none, ← tallied]
    exact (add_zero _).symm
  cases handled with
  | lost | refused | unfit => exact tallied
  | @read _ pick value found => exact plain value (by cases c <;> first | rfl | cases found)
  | insert inserts free => rw [inserted_answered, rows_append, tallied, rows_insertion inserts]
  | commit | conflict => exact absurd rfl other
  | now time => exact plain time rfl
  | @pas request choice answer pas served =>
      cases answer with
      | ok resp => exact plain resp rfl
      | error err => exact tallied
  | publish event copies raised =>
      cases raised with
      | false => exact plain () rfl
      | true => exact tallied

theorem Tallied.answered (tallied : Tallied t) (next : t.ctl.next = some ⟨c, rest⟩)
    (handled : Handled P w t.session c fate answer w' session) :
    Tallied (t.answered c rest answer session) := by
  intro opened
  have closed := Phase.closed_next (Phase.leads_next next answer)
  refine session_answered handled (fun same => opened (closed.2 same)) (tallied ?_)
  exact fun before => opened (closed.1 before)

theorem Tallied.committing (tallied : Tallied t) {rest : Except PyErr (Reply .commit) → Phase}
    (next : t.ctl.next = some ⟨.commit, rest⟩) : rows t.session = inserted t.log :=
  tallied fun closed => by cases refreshes closed next

/-- Only the answer to a commit puts it on record. -/
theorem done_other (other : c ≠ .commit) : .commit ∈ (t.answered c rest answer session).done ↔ .commit ∈ t.done := by
  rw [Thread.done_answered, List.mem_append, or_iff_left]
  split
  · exact fun last => other (List.mem_singleton.mp last).symm
  · exact List.not_mem_nil

/-- What is on record stays there. -/
theorem recorded (made : .commit ∈ t.done) {row : Row} (member : row ∈ inserted t.log) :
    .commit ∈ (t.answered c rest answer session).done ∧ row ∈ inserted (t.answered c rest answer session).log := by
  rw [Thread.done_answered]
  refine ⟨List.mem_append_left _ made, ?_⟩
  cases answer with
  | ok value => exact inserted_answered ▸ Multiset.mem_add.mpr (.inl member)
  | error err => exact member

/-- An answered commit. -/
theorem recorded_commit {rest : Except PyErr (Reply .commit) → Phase} (done : Reply .commit) :
    .commit ∈ (t.answered .commit rest (.ok done) session).done ∧
      inserted (t.answered .commit rest (.ok done) session).log = inserted t.log := by
  rw [Thread.done_answered_ok, inserted_answered]
  exact ⟨List.mem_append_right _ (List.mem_singleton_self _), add_zero _⟩

theorem written_of_not_mem {K : Type} {t : Thread Reply Request Db K} (uncommitted : .commit ∉ t.done) :
    written t = 0 := if_neg fun made => uncommitted (any_commit.mp made)

theorem written_of_mem {K : Type} {t : Thread Reply Request Db K} (committed : .commit ∈ t.done) :
    written t = inserted t.log := if_pos (any_commit.mpr committed)

/-- What a refresh puts on record is no row. -/
theorem inserted_refresh {rest : Except PyErr (Reply .refresh) → Phase} {answer : Except PyErr (Reply .refresh)} :
    inserted (t.answered .refresh rest answer session).log = inserted t.log := by
  cases answer with
  | ok done => exact inserted_answered.trans (add_zero _)
  | error err => rfl

/-- What the store gains the thread has written. -/
theorem written_answered (sound : Sound w.db t) (tallied : Tallied t) (next : t.ctl.next = some ⟨c, rest⟩)
    (handled : Handled P w t.session c fate answer w' session) :
    rows w'.db + written t = rows w.db + written (t.answered c rest answer session) := by
  by_cases commits : c = .commit
  · subst commits
    have uncommitted : .commit ∉ t.done := fun made => by cases refreshes (sound.uncommitted made) next
    rw [written_of_not_mem uncommitted, add_zero]
    cases answer with
    | error err =>
        have same : w'.db = w.db := handled.db.resolve_right fun ⟨_, succeeded, _⟩ => by cases succeeded
        have unwritten : written (t.answered .commit rest (.error err) session) = 0 := written_of_not_mem uncommitted
        rw [same, unwritten, add_zero]
    | ok done =>
        obtain ⟨rfl, -⟩ := handled.committed rfl
        have same : inserted (t.answered .commit rest (.ok done) session).log = inserted t.log :=
          (recorded_commit done).2
        rw [written_of_mem (recorded_commit done).1, same, rows_append, tallied.committing next]
  · have same : w'.db = w.db := handled.db.resolve_right fun ⟨made, _⟩ => commits made
    rw [same]
    by_cases made : .commit ∈ t.done
    · obtain rfl := refreshes (sound.uncommitted made) next
      rw [written_of_mem made, written_of_mem ((done_other commits).mpr made), inserted_refresh]
    · rw [written_of_not_mem made, written_of_not_mem (mt (done_other commits).mp made)]

end Answers

/-! ## What a thread has done -/

/-- All that a request writes: its row and the entry for it. -/
def Whole : Request → Multiset Row → Prop
  | .create _ _, written => ∃ cp row entry, row.counterpartyId = cp.id ∧ entry.submissionId = row.id ∧
      written = {.counterparty cp, .submission row, .audit entry}
  | .assess sid _, written => ∃ row entry, row.submissionId = sid ∧ entry.submissionId = sid ∧
      written = {.decision row, .audit entry}
  | .quote sid _, written => ∃ row entry, row.submissionId = sid ∧ entry.submissionId = sid ∧
      written = {.quote row, .audit entry}
  | .bind sid _, written => ∃ row entry, row.submissionId = sid ∧ entry.submissionId = sid ∧
      written = {.binding row, .audit entry}

/-- The row that is answered. -/
def answeredRow : Answer → Row
  | .submission row => .submission row
  | .decision row => .decision row
  | .quote row => .quote row
  | .binding row => .binding row

/-- The row a request that has committed is about to answer with, or has answered with. -/
def owed : Phase → Option Row
  | .createRefresh row => some (.submission row)
  | .assessRefresh _ row => some (.decision row)
  | .quoteRefresh _ row => some (.quote row)
  | .bindRefresh _ row => some (.binding row)
  | .ended (.ok answer) => some (answeredRow answer)
  | _ => none

/-- A bind of a bound submission answers with its Binding. -/
def Existing (db : Db) (req : Request) (row : Row) : Prop :=
  ∃ sid actor binding, req = .bind sid actor ∧ row = .binding binding ∧ binding ∈ db.bindings ∧
    binding.submissionId = sid

/-- What is known of a thread's writes. -/
structure Booked (db : Db) (t : PointThread) : Prop where
  whole : .commit ∈ t.done → Whole t.req (inserted t.log)
  answered : ∀ row, owed t.ctl = some row → .commit ∈ t.done ∧ row ∈ inserted t.log ∨
    t.ctl.next = none ∧ .commit ∉ t.done ∧ Existing db t.req row
  refused : ∀ status detail, t.ctl = .ended (.error (.http status detail)) → .commit ∉ t.done

section Points

variable {ph : Phase} {c : Call} {rest : Except PyErr (Reply c) → Phase} {answer : Except PyErr (Reply c)}

/-- A transaction that is about to commit holds all that its request writes. -/
theorem whole_pending {db : Db} {req : Request} {rest : Except PyErr (Reply .commit) → Phase} (fits : ph.Fits db)
    (request : ph.Of req) (next : ph.next = some ⟨.commit, rest⟩) : Whole req (rows ph.pending) := by
  rcases Phase.commits_cases next with ⟨payload, actor, cp, row, entry, rfl⟩ | ⟨file, row, entry, rfl⟩ |
    ⟨file, row, entry, rfl⟩ | ⟨file, request, policy, published, row, entry, rfl⟩
  · obtain ⟨written, copied⟩ := fits
    obtain rfl : req = .create payload actor := request
    exact ⟨cp, row, entry, congrArg (·.counterpartyId) written, congrArg (·.submissionId) copied, rfl⟩
  · obtain ⟨read, written, copied⟩ := fits
    obtain rfl : req = .assess file.submissionId file.actor := request
    exact ⟨row, entry, read.owner written, (congrArg (·.submissionId) copied).trans read.has.2, rfl⟩
  · obtain ⟨read, written, copied⟩ := fits
    obtain rfl : req = .quote file.submissionId file.actor := request
    exact ⟨row, entry, read.owner written, (congrArg (·.submissionId) copied).trans read.has.2, rfl⟩
  · obtain ⟨⟨read, -⟩, written, copied⟩ := fits
    obtain rfl : req = .bind file.submissionId file.actor := by assumption
    exact ⟨row, entry, read.owner written, (congrArg (·.submissionId) copied).trans read.has.2, rfl⟩

/-- How a row comes to be owed: by a commit, by the refresh after it, or by the check
    of a bind that finds a Binding. -/
def Owes (ph : Phase) (c : Call) (answer : Except PyErr (Reply c)) (ph' : Phase) : Prop :=
  ∀ row, owed ph' = some row →
    (⟨c, answer⟩ : (c : Call) × Except PyErr (Reply c)) = ⟨.commit, .ok ()⟩ ∧ row ∈ rows ph.pending ∨
      owed ph = some row ∨ ∃ sid actor submission binding, ph = .bindCheck sid actor submission ∧
        (⟨c, answer⟩ : (c : Call) × Except PyErr (Reply c)) = ⟨.bindingBySubmission sid, .ok (some binding)⟩ ∧
          ph' = .ended (.ok (.binding binding)) ∧ row = .binding binding

theorem owes_none {ph' : Phase} (nothing : owed ph' = none) : Owes ph c answer ph' :=
  fun row owes => by cases nothing.symm.trans owes

theorem owes_next (next : ph.next = some ⟨c, rest⟩) : Owes ph c answer (rest answer) := by
  cases ph <;> cases next
  case bindPublish => cases answer <;> exact owes_none rfl
  all_goals
    refine Phase.onOk_elim answer (fun _ => owes_none rfl) fun value answered => ?_
    subst answered
  case createCommit | assessCommit | quoteCommit | bindCommit =>
    rintro row ⟨⟩
    exact .inl ⟨rfl, by simp [Phase.pending, rows]⟩
  case createRefresh | assessRefresh | quoteRefresh | bindRefresh =>
    rintro row ⟨⟩
    exact .inr (.inl rfl)
  case bindCheck =>
    cases value with
    | none => exact owes_none rfl
    | some binding =>
        rintro row ⟨⟩
        exact .inr (.inr ⟨_, _, _, binding, rfl, rfl, rfl, rfl⟩)
  case assessGuard | quoteGuard | assessSubmission | quoteSubmission | bindSubmission | bindQuote | bindHolder =>
    cases value <;> exact owes_none rfl
  case assessRuleset | quoteTable =>
    cases value with
    | none => exact owes_none rfl
    | some found =>
        apply Phase.onOk_elim
        · exact fun _ => owes_none rfl
        · exact fun _ _ => owes_none rfl
  case quoteDecision | bindDecision =>
    cases value with
    | none => exact owes_none rfl
    | some decision =>
        dsimp only
        split <;> exact owes_none rfl
  case bindClock | bindSubmit | bindActivate =>
    exact Phase.onOk_elim _ (fun _ => owes_none rfl) fun _ _ => owes_none rfl
  case bindCreate | bindResolve =>
    apply Phase.onOk_elim
    · exact fun _ => owes_none rfl
    · intro found _
      cases found <;> exact owes_none rfl
  all_goals exact owes_none rfl

/-- A refresh ends a request with an answer, or with the failure as it is. -/
theorem refresh_ends {rest : Except PyErr (Reply .refresh) → Phase} (next : ph.next = some ⟨.refresh, rest⟩) :
    (∀ done, ∃ result, rest (.ok done) = .ended (.ok result)) ∧ rest (.error .outage) = .ended (.error .outage) := by
  cases ph <;> cases next <;> exact ⟨fun _ => ⟨_, rfl⟩, rfl⟩

end Points

section Booking

variable {σ φ υ : Type} {P : PasModel σ φ υ} {w w' : World σ} {t : PointThread} {c : Call}
  {rest : Except PyErr (Reply c) → Phase} {fate : Fate φ} {answer : Except PyErr (Reply c)} {session : Db}

theorem Booked.start (db : Db) (req : Request) : Booked db ⟨req, points.start req, .empty, []⟩ := by
  refine ⟨fun made => absurd made List.not_mem_nil, ?_, fun _ _ _ => List.not_mem_nil⟩
  cases req <;> exact fun row owes => by cases owes

theorem Booked.died {db : Db} (booked : Booked db t) : Booked db (t.died points.dead .empty) :=
  ⟨booked.whole, (fun row owes => by cases owes), fun status detail same => by cases same⟩

theorem Booked.grows {db db' : Db} (booked : Booked db t) (grown : db.Grows db') : Booked db' t := by
  refine ⟨booked.whole, fun row owes => ?_, booked.refused⟩
  rcases booked.answered row owes with made | ⟨ended, unmade, sid, actor, binding, bind, same, member, owner⟩
  · exact .inl made
  · exact .inr ⟨ended, unmade, sid, actor, binding, bind, same, grown.binding member, owner⟩

/-- What a commit puts on record is whole, and a refresh adds no row to it. -/
theorem whole_next (booked : Booked w.db t) (sound : Sound w.db t) (tallied : Tallied t)
    (next : t.ctl.next = some ⟨c, rest⟩) (made : .commit ∈ (t.answered c rest answer session).done) :
    Whole t.req (inserted (t.answered c rest answer session).log) := by
  by_cases commits : c = .commit
  · subst commits
    cases answer with
    | error err => exact absurd (sound.uncommitted made) fun closed => by cases refreshes closed next
    | ok done =>
        have whole := whole_pending sound.kept.1 sound.request next
        rw [← sound.session next, tallied.committing next] at whole
        have same : inserted (t.answered .commit rest (.ok done) session).log = inserted t.log :=
          (recorded_commit done).2
        rw [same]
        exact whole
  · have before := (done_other commits).mp made
    obtain rfl := refreshes (sound.uncommitted before) next
    rw [inserted_refresh]
    exact booked.whole before

/-- The check of a bind has found a Binding, and the bind has not committed. -/
theorem existing_next (sound : Sound w.db t) {sid actor : String} {submission : Submission} {binding : Binding}
    (point : t.ctl = .bindCheck sid actor submission)
    (handled : Handled P w t.session (.bindingBySubmission sid) fate (.ok (some binding)) w' session) :
    .commit ∉ t.done ∧ Existing w'.db t.req (.binding binding) := by
  have request := sound.request
  rw [point] at request
  have uncommitted : .commit ∉ t.done := fun made => by
    have closed := sound.uncommitted made
    rw [point] at closed
    exact closed
  obtain ⟨-, -, pick, read⟩ := handled.query rfl rfl
  have found : w.db.bindings.find? (·.submissionId = sid) = some binding := Option.some.inj read
  refine ⟨uncommitted, sid, actor, binding, request, rfl, ?_, ?_⟩
  · exact handled.grows.binding (List.mem_of_find?_eq_some found)
  · simpa using List.find?_some found

theorem answered_next (booked : Booked w.db t) (sound : Sound w.db t) (tallied : Tallied t)
    (next : t.ctl.next = some ⟨c, rest⟩) (handled : Handled P w t.session c fate answer w' session) {row : Row}
    (owes : owed (rest answer) = some row) :
    .commit ∈ (t.answered c rest answer session).done ∧ row ∈ inserted (t.answered c rest answer session).log ∨
      (rest answer).next = none ∧ .commit ∉ (t.answered c rest answer session).done ∧ Existing w'.db t.req row := by
  rcases owes_next next row owes with
    ⟨same, member⟩ | owed | ⟨sid, actor, submission, binding, point, same, ended, rfl⟩
  · cases same
    left
    rw [← sound.session next, tallied.committing next] at member
    have same : inserted (t.answered .commit rest (.ok ()) session).log = inserted t.log := (recorded_commit ()).2
    refine ⟨(recorded_commit ()).1, ?_⟩
    rw [same]
    exact member
  · rcases booked.answered row owed with ⟨made, member⟩ | ⟨ended, -⟩
    · exact .inl (recorded made member)
    · cases ended.symm.trans next
  · cases same
    obtain ⟨uncommitted, existing⟩ := existing_next sound point handled
    have unmade : .commit ∉ (t.answered _ rest (.ok (some binding)) session).done :=
      mt (done_other fun same => by cases same).mp uncommitted
    exact .inr ⟨congrArg Phase.next ended, unmade, existing⟩

/-- Nothing is refused after a commit. -/
theorem refused_next (sound : Sound w.db t) (next : t.ctl.next = some ⟨c, rest⟩)
    (handled : Handled P w t.session c fate answer w' session) {status : ℕ} {detail : String}
    (same : rest answer = .ended (.error (.http status detail))) :
    .commit ∉ (t.answered c rest answer session).done := by
  by_cases made : .commit ∈ t.done
  · obtain rfl := refreshes (sound.uncommitted made) next
    obtain ⟨answers, fails⟩ := refresh_ends next
    obtain ⟨-, -, ⟨-, rfl⟩ | ⟨pick, done, rfl, -⟩⟩ := handled.query_cases rfl
    · cases fails.symm.trans same
    · obtain ⟨result, ended⟩ := answers done
      cases ended.symm.trans same
  · by_cases commits : c = .commit
    · subst commits
      cases answer with
      | error err => exact made
      | ok done =>
          rcases Phase.commits_cases next with ⟨_, _, _, _, _, point⟩ | ⟨_, _, _, point⟩ | ⟨_, _, _, point⟩ |
            ⟨_, _, _, _, _, _, point⟩ <;> rw [point] at next <;> cases next <;> cases same
    · exact mt (done_other commits).mp made

theorem Booked.next (booked : Booked w.db t) (sound : Sound w.db t) (tallied : Tallied t)
    (next : t.ctl.next = some ⟨c, rest⟩) (handled : Handled P w t.session c fate answer w' session) :
    Booked w'.db (t.answered c rest answer session) :=
  ⟨whole_next booked sound tallied next, fun _ => answered_next booked sound tallied next handled,
    fun _ _ => refused_next sound next handled⟩

end Booking

/-! ## Runs -/

/-- A program that has ended is an ended point. -/
theorem ended_of_prog {ph : Phase} {result : Except PyErr Answer} (ended : ph.prog = .ofExcept result) :
    ph = .ended result := by
  have stopped : ph.prog.next = none := by
    rw [ended]
    cases result <;> rfl
  rw [Phase.next_prog, Option.map_eq_none_iff] at stopped
  cases ph <;> cases stopped
  case ended given =>
    rw [Phase.prog_ended] at ended
    cases given <;> cases result <;> cases ended <;> rfl

section Runs

variable {σ φ υ : Type} {P : PasModel σ φ υ}

/-- New versions of rules are none of the requests' rows. -/
theorem rows_disturb (w : World σ) (e : Env υ) : rows (disturb P w e).db = rows w.db := by
  rcases disturb_cases P w e with ⟨rulesets, rateTables, same⟩ | ⟨_, -, same⟩
  · rw [same, rows_append]
    exact add_zero _
  · rw [same]

/-- The books of a state: its rows by the threads that wrote them. -/
structure Books (s : PointSys σ) : Prop where
  balanced : Balanced (fun w : World σ => rows w.db) written s
  threads : ∀ t ∈ s.threads, Tallied t ∧ Booked s.world.db t

theorem Books.step {s s' : PointSys σ} {choice} (books : Books s) (sound : AllSound s)
    (stepped : step (backend P) points s choice = some s') : Books s' := by
  constructor
  · refine balanced_step books.balanced stepped (fun _ => rfl) (fun _ _ => rfl) (rows_disturb s.world) ?_
    intro fate t c rest answer world session member next handled
    exact written_answered (sound t member) (books.threads t member).1 next (handle_cases handled)
  · have grown := step_grows stepped
    refine threads_step stepped ?others ?start ?died ?moved
    case others => exact fun t member => ⟨(books.threads t member).1, (books.threads t member).2.grows grown⟩
    case start => exact fun req _ => ⟨fun _ => rfl, .start _ req⟩
    case died =>
      intro t member
      exact ⟨fun opened => absurd trivial opened, ((books.threads t member).2.grows grown).died⟩
    case moved =>
      intro i fate t c rest answer session _ at_i next handled
      have member := List.mem_of_getElem? at_i
      obtain ⟨tallied, booked⟩ := books.threads t member
      exact ⟨tallied.answered next (handle_cases handled),
        booked.next (sound t member) tallied next (handle_cases handled)⟩

theorem books_run {pas : σ} {ok} {s : PointSys σ} (run : Run (backend P) points ok (idle (.initial pas)) s) :
    Books s := by
  apply points_invariant (I := Books) run keyed_empty
  · exact ⟨rfl, fun _ member => absurd member List.not_mem_nil⟩
  · exact fun s choice s' sound _ books _ stepped => books.step sound stepped

/-- What a thread has written is in the store. -/
theorem Books.stored {s : PointSys σ} (books : Books s) {t : PointThread} (member : t ∈ s.threads) {row : Row}
    (made : row ∈ written t) : row ∈ rows s.world.db := by
  obtain ⟨front, back, split⟩ := List.append_of_mem member
  have sum : rows s.world.db = (front.map written).sum + (written t + (back.map written).sum) := by
    rw [show rows s.world.db = _ from books.balanced, split, List.map_append, List.sum_append, List.map_cons,
      List.sum_cons]
  rw [sum]
  exact Multiset.mem_add.mpr (.inr (Multiset.mem_add.mpr (.inl made)))

/-- The row a request answers with is in the store. -/
theorem answered_stored {pas : σ} {s : ProgSys σ} (run : Run (backend P) requests anyStep (idle (.initial pas)) s)
    {t : Thread Reply Request Db (Program Answer)} (member : t ∈ s.threads) {answer : Answer}
    (ended : t.ctl = .ret answer) : answeredRow answer ∈ rows s.world.db := by
  obtain ⟨s, lifted, rfl⟩ := lift_idle run
  have books := books_run lifted
  obtain ⟨u, at_u, rfl⟩ := List.mem_map.mp member
  have point : u.ctl = .ended (.ok answer) := ended_of_prog ended
  have owes : owed u.ctl = some (answeredRow answer) := by rw [point]; rfl
  rcases (books.threads u at_u).2.answered _ owes with ⟨made, inserted⟩ | ⟨-, -, sid, actor, binding, -, same, stored, -⟩
  · exact books.stored at_u ((written_of_mem made).symm ▸ inserted)
  · rw [same]
    exact binding_rows.mpr stored

/-- What the store and the requests say of each other. -/
structure Accounted (s : ProgSys σ) : Prop where
  once : rows s.world.db = (s.threads.map written).sum
  whole : ∀ t ∈ s.threads, written t = 0 ∨ Whole t.req (written t)
  answered : ∀ t ∈ s.threads, ∀ answer, t.ctl = .ret answer → answeredRow answer ∈ written t ∨
    written t = 0 ∧ Existing s.world.db t.req (answeredRow answer)
  refused : ∀ t ∈ s.threads, ∀ status detail, t.ctl = .raise (.http status detail) → written t = 0

/-- In every run, however the requests interleave, fail or die: the rows of the store
    are the rows of the requests that committed, each once; a request writes all its
    rows or none; one that is answered has written the row it answers with, or is a
    bind that found its Binding; and one that is refused has written nothing. -/
theorem writes_accounted {pas : σ} {s : ProgSys σ} (run : Run (backend P) requests anyStep (idle (.initial pas)) s) :
    Accounted s := by
  obtain ⟨s, lifted, rfl⟩ := lift_idle run
  have books := books_run lifted
  have placed : ∀ t ∈ (s.map routes.map).threads, ∃ u ∈ s.threads, t = u.map routes.map := by
    intro t member
    obtain ⟨u, at_u, rfl⟩ := List.mem_map.mp member
    exact ⟨u, at_u, rfl⟩
  constructor
  · refine books.balanced.trans ?_
    rw [Sys.map, List.map_map]
    rfl
  · intro t member
    obtain ⟨u, at_u, rfl⟩ := placed t member
    by_cases made : .commit ∈ u.done
    · refine .inr ?_
      rw [written_of_mem (t := u.map routes.map) made]
      exact (books.threads u at_u).2.whole made
    · exact .inl (written_of_not_mem (t := u.map routes.map) made)
  · intro t member answer ended
    obtain ⟨u, at_u, rfl⟩ := placed t member
    have point : u.ctl = .ended (.ok answer) := ended_of_prog ended
    have owes : owed u.ctl = some (answeredRow answer) := by rw [point]; rfl
    rcases (books.threads u at_u).2.answered _ owes with ⟨made, member⟩ | ⟨-, unmade, existing⟩
    · refine .inl ?_
      rw [written_of_mem (t := u.map routes.map) made]
      exact member
    · exact .inr ⟨written_of_not_mem (t := u.map routes.map) unmade, existing⟩
  · intro t member status detail ended
    obtain ⟨u, at_u, rfl⟩ := placed t member
    have point : u.ctl = .ended (.error (.http status detail)) :=
      ended_of_prog ended
    exact written_of_not_mem (t := u.map routes.map) ((books.threads u at_u).2.refused status detail point)

end Runs

/-- A bound file, a second bind of it, an assess that is refused, and a create that
    dies with its rows flushed. -/
def busy : Scenario.Script :=
  Scenario.bound ++ [.start Scenario.bind] ++ Scenario.drive 4 [Scenario.read, Scenario.read] ++
    [.start Scenario.assess] ++ Scenario.drive 5 [Scenario.read] ++ [.start (.create Scenario.payload "bob")] ++
    Scenario.drive 6 [Scenario.insert "c'" 50, Scenario.insert "s'" 51] ++ [.crash 6]

theorem busy_accounted : ∃ s, Run Scenario.service requests anyStep Scenario.empty s ∧ s.threads.length = 7 ∧
    (s.threads.map written).sum.card = 9 ∧ Accounted s := by
  obtain ⟨s, run, checked⟩ := exists_run Scenario.service requests anyStep Scenario.empty busy
    (fun s => s.threads.length == 7 && (s.threads.map written).sum.card == 9) (by decide +kernel)
  obtain ⟨seven, nine⟩ := Bool.and_eq_true_iff.mp checked
  exact ⟨s, run, eq_of_beq seven, eq_of_beq nine, writes_accounted run⟩

end Underwriting.Ledger
