import Underwriting.Machine.Milestones
import Underwriting.Machine.Rows
import Underwriting.Machine.Scenario
import Underwriting.Reads

/-! # After a bind

A committed Binding ends the work on its submission. Requests on it that are begun
afterwards make one or two queries and stop: a bind answers with that Binding, an
assess or a quote is refused. The file stays as it is, whatever happens elsewhere.
-/

namespace Underwriting

open Interleaving

/-- The submission whose file a request works on. -/
def Request.fileOf : Request → Option String
  | .assess submissionId _ | .quote submissionId _ | .bind submissionId _ => some submissionId
  | .create _ _ => none

namespace Terminal

section Definitions

variable {σ φ υ : Type}

/-- Requests on the submission move only if they were begun after the first `begun`
    ones; everything else may happen. Without `faults` the database answers them and
    none of them dies. -/
def Afterwards (faults : Bool) (submissionId : String) (begun : ℕ) (s : ProgSys σ) :
    Choice Request (Fate φ) (Env υ) → Prop
  | .run i fate => ∀ t ∈ s.threads[i]?, t.req.fileOf = some submissionId → begun ≤ i ∧ (fate.isLost → faults)
  | .crash i => ∀ t ∈ s.threads[i]?, t.req.fileOf = some submissionId → begun ≤ i → faults
  | .start _ | .env _ => True

instance (faults : Bool) (sid : String) (begun : ℕ) (s : ProgSys σ) (choice : Choice Request (Fate φ) (Env υ)) :
    Decidable (Afterwards faults sid begun s choice) :=
  match choice with
  | .run i fate => inferInstanceAs (Decidable (∀ t ∈ s.threads[i]?, t.req.fileOf = some sid →
      begun ≤ i ∧ (fate.isLost → faults)))
  | .crash i => inferInstanceAs (Decidable (∀ t ∈ s.threads[i]?, t.req.fileOf = some sid → begun ≤ i → faults))
  | .start _ | .env _ => .isTrue trivial

/-- The submission has the same rows, in the same order. -/
structure SameFile (submissionId : String) (before after : Db) : Prop where
  decisions : after.decisionsOf submissionId = before.decisionsOf submissionId
  quotes : after.quotesOf submissionId = before.quotesOf submissionId
  bindings : after.bindingsOf submissionId = before.bindingsOf submissionId
  audits : after.auditsOf submissionId = before.auditsOf submissionId

/-- Whatever the request has called or calls next is a query. -/
def QueriesOnly (t : Thread Reply Request Db (Program Answer)) : Prop :=
  (∀ c ∈ t.done, c.kind = .query) ∧ ∀ c, t.awaits requests = some c → c.kind = .query

/-- What a request on a bound submission answers. -/
def answerTo (b : Binding) : Request → Except PyErr Answer
  | .bind _ _ => .ok (.binding b)
  | _ => .error (.http 409 "submission already bound")

/-- The queries it takes. -/
def lookups : Request → ℕ
  | .bind _ _ => 2
  | _ => 1

/-- The request has its answer, or it can make its next query and then needs fewer. -/
def Answers (P : PasModel σ φ υ) (b : Binding) (s : ProgSys σ) (i : ℕ)
    (t : Thread Reply Request Db (Program Answer)) : Prop :=
  t.ctl = .ofExcept (answerTo b t.req) ∨
    (t.done.length < lookups t.req ∧ ∀ pick, (step (backend P) requests s (.run i (.read pick))).isSome)

end Definitions

/-! ## Nothing is added to the file -/

namespace SameFile

variable {sid : String} {before after more : Db}

theorem refl (sid : String) (db : Db) : SameFile sid db db := ⟨rfl, rfl, rfl, rfl⟩

/-- Rows that have none of the submission change nothing of its file. -/
theorem append (same : SameFile sid before after) (nothing : SameFile sid .empty more) :
    SameFile sid before (after ++ more) := by
  refine ⟨?_, ?_, ?_, ?_⟩
  · rw [Db.decisionsOf_append, nothing.decisions, same.decisions]
    exact List.append_nil _
  · rw [Db.quotesOf_append, nothing.quotes, same.quotes]
    exact List.append_nil _
  · rw [Db.bindingsOf_append, nothing.bindings, same.bindings]
    exact List.append_nil _
  · rw [Db.auditsOf_append, nothing.audits, same.audits]
    exact List.append_nil _

end SameFile

theorem filter_elsewhere {Row : Type} {owner : Row → String} {row : Row} {sid : String} (other : owner row ≠ sid) :
    [row].filter (owner · = sid) = [] :=
  List.filter_eq_nil_iff.mpr fun _ member same => other (List.mem_singleton.mp member ▸ of_decide_eq_true same)

/-- A request on another submission, and a create, commit no row of this one. -/
theorem commits_elsewhere {db : Db} {ph : Phase} {req : Request} {sid : String} {rest} (fits : ph.Fits db)
    (of : ph.Of req) (next : ph.next = some ⟨.commit, rest⟩) (keyed : (db ++ ph.pending).Keyed)
    (known : ∃ submission ∈ db.submissions, submission.id = sid) (other : req.fileOf ≠ some sid) :
    SameFile sid .empty ph.pending := by
  rcases Phase.commits_cases next with ⟨payload, actor, cp, row, entry, rfl⟩ | ⟨file, row, entry, rfl⟩ |
    ⟨file, row, entry, rfl⟩ | ⟨file, request, policy, published, row, entry, rfl⟩
  · obtain ⟨-, written⟩ := fits
    have fresh : row.id ≠ sid := by
      obtain ⟨submission, member, rfl⟩ := known
      have nodup := keyed.submissionId
      rw [Db.append_submissions, List.map_append, List.nodup_append] at nodup
      exact fun same => nodup.2.2 _ (List.mem_map_of_mem member) _ (List.mem_singleton_self _) same.symm
    have owner : entry.submissionId = row.id := congrArg NewAuditEntry.submissionId written
    exact ⟨rfl, rfl, rfl, filter_elsewhere (owner ▸ fresh)⟩
  · obtain ⟨read, written, entered⟩ := fits
    have elsewhere : file.submissionId ≠ sid := fun same => other (by rw [show req = _ from of, ← same]; rfl)
    have owner : entry.submissionId = file.submissionId :=
      (congrArg NewAuditEntry.submissionId entered).trans read.has.2
    exact ⟨filter_elsewhere (read.owner written ▸ elsewhere), rfl, rfl, filter_elsewhere (owner ▸ elsewhere)⟩
  · obtain ⟨read, written, entered⟩ := fits
    have elsewhere : file.submissionId ≠ sid := fun same => other (by rw [show req = _ from of, ← same]; rfl)
    have owner : entry.submissionId = file.submissionId :=
      (congrArg NewAuditEntry.submissionId entered).trans read.has.2
    exact ⟨rfl, filter_elsewhere (read.owner written ▸ elsewhere), rfl, filter_elsewhere (owner ▸ elsewhere)⟩
  · obtain ⟨⟨read, -⟩, written, entered⟩ := fits
    have elsewhere : file.submissionId ≠ sid := fun same => other (by rw [show req = _ from of, ← same]; rfl)
    have owner : entry.submissionId = file.submissionId :=
      (congrArg NewAuditEntry.submissionId entered).trans read.has.2
    exact ⟨rfl, rfl, filter_elsewhere (read.owner written ▸ elsewhere), filter_elsewhere (owner ▸ elsewhere)⟩

/-! ## Requests that turn back -/

/-- Where a request on the bound submission can be, and what it has called. -/
inductive Turning (b : Binding) (faults : Bool) : Request → Phase → List Call → Prop where
  | assess (actor) : Turning b faults (.assess b.submissionId actor) (.assessGuard b.submissionId actor) []
  | quote (actor) : Turning b faults (.quote b.submissionId actor) (.quoteGuard b.submissionId actor) []
  | bind (actor) : Turning b faults (.bind b.submissionId actor) (.bindSubmission b.submissionId actor) []
  | check (actor submission) : Turning b faults (.bind b.submissionId actor)
      (.bindCheck b.submissionId actor submission) [.getSubmission b.submissionId]
  | answered {req done} (queries : ∀ c ∈ done, Call.kind c = .query) :
      Turning b faults req (.ended (answerTo b req)) done
  | failed {req done err} (fault : faults) (queries : ∀ c ∈ done, Call.kind c = .query) :
      Turning b faults req (.ended (.error err)) done

namespace Turning

variable {b : Binding} {faults : Bool} {req : Request} {ph : Phase} {done : List Call}

theorem start (file : req.fileOf = some b.submissionId) : Turning b faults req (Phase.start req) [] := by
  cases req <;> cases file
  case assess actor => exact .assess actor
  case quote actor => exact .quote actor
  case bind actor => exact .bind actor

theorem done_queries (turning : Turning b faults req ph done) : ∀ c ∈ done, c.kind = .query := by
  cases turning with
  | assess | quote | bind => exact fun _ member => nomatch member
  | check =>
      intro c member
      rw [List.mem_singleton.mp member]
      rfl
  | answered queries => exact queries
  | failed _ queries => exact queries

theorem next_query (turning : Turning b faults req ph done) {c rest} (next : ph.next = some ⟨c, rest⟩) :
    c.kind = .query := by
  cases turning <;> cases next <;> rfl

variable {σ φ υ : Type} {P : PasModel σ φ υ} {w w' : World σ} {pending pending' : Db} {c : Call}
  {rest : Except PyErr (Reply c) → Phase} {fate : Fate φ} {answer : Except PyErr (Reply c)}

/-- One query of such a request. -/
theorem next (turning : Turning b faults req ph done) (keyed : w.db.Keyed) (member : b ∈ w.db.bindings)
    (known : ∃ submission ∈ w.db.submissions, submission.id = b.submissionId) (found : ph.next = some ⟨c, rest⟩)
    (handled : Handled P w pending c fate answer w' pending') (lossless : fate.isLost → faults) :
    Turning b faults req (rest answer) (done ++ if answer.toBool then [c] else []) := by
  have kind := turning.next_query found
  have queries : ∀ called ∈ done ++ [c], called.kind = .query := Lists.forall_mem_snoc turning.done_queries kind
  have looked_up : w.db.bindings.find? (·.submissionId = b.submissionId) = some b := Db.find?_key keyed.boundOnce member
  obtain ⟨-, -, ⟨lost, rfl⟩ | ⟨pick, value, rfl, read⟩⟩ := handled.query_cases kind
  · have before := turning.done_queries
    have ended : ∃ err, rest (.error .outage) = .ended (.error err) := by
      cases turning <;> cases found <;> exact ⟨_, rfl⟩
    obtain ⟨err, ended⟩ := ended
    rw [ended]
    exact .failed (lossless lost) ((List.append_nil done).symm ▸ before)
  · cases turning with
    | assess | quote =>
        cases found
        obtain rfl : value = some b := (Option.some.inj read).symm.trans looked_up
        exact .answered queries
    | bind actor =>
        cases found
        obtain ⟨submission, stored, named⟩ := known
        have present : (w.db.submissions.find? (·.id = b.submissionId)).isSome :=
          List.find?_isSome.mpr ⟨submission, stored, decide_eq_true named⟩
        obtain ⟨row, at_row⟩ := Option.isSome_iff_exists.mp present
        obtain rfl : value = some row := (Option.some.inj read).symm.trans at_row
        exact .check actor row
    | check actor submission =>
        cases found
        obtain rfl : value = some b := (Option.some.inj read).symm.trans looked_up
        exact .answered queries
    | answered | failed => cases found

end Turning

/-! ## Runs after a bind -/

section Runs

variable {σ φ υ : Type} {P : PasModel σ φ υ} {s s' : PointSys σ} {choice : Choice Request (Fate φ) (Env υ)}
  {b : Binding} {faults : Bool} {begun : ℕ}

/-- The Binding and its submission are stored. -/
structure Filed (b : Binding) (db : Db) : Prop where
  binding : b ∈ db.bindings
  submission : ∃ submission ∈ db.submissions, submission.id = b.submissionId

theorem Filed.grows {db db' : Db} (filed : Filed b db) (grown : db.Grows db') : Filed b db' := by
  obtain ⟨binding, submission, stored, named⟩ := filed
  exact ⟨grown.binding binding, submission, grown.submission stored, named⟩

/-- All requests on the submission that were begun afterwards turn back. -/
def AllTurning (b : Binding) (faults : Bool) (begun : ℕ) (s : PointSys σ) : Prop :=
  ∀ i t, s.threads[i]? = some t → begun ≤ i → t.req.fileOf = some b.submissionId →
    Turning b faults t.req t.ctl t.done

theorem turning_step (turning : AllTurning b faults begun s) (keyed : s.world.db.Keyed) (filed : Filed b s.world.db)
    (allowed : Afterwards faults b.submissionId begun (s.map routes.map) choice)
    (stepped : step (backend P) points s choice = some s') : AllTurning b faults begun s' := by
  refine threads_step_at stepped turning ?start ?died ?moved
  case start => exact fun req _ _ file => .start file
  case died =>
    rintro i t rfl at_i - later file
    have fault := allowed _ (Sys.thread_map routes.map at_i) file later
    exact .failed fault (turning i t at_i later file).done_queries
  case moved =>
    rintro i fate t c rest answer session rfl at_i next handled later file
    obtain ⟨-, lossless⟩ := allowed _ (Sys.thread_map routes.map at_i) file
    rw [Thread.done_answered]
    exact (turning i t at_i later file).next keyed filed.binding filed.submission next (handle_cases handled) lossless

/-- A step adds no row of the submission: whoever commits works on another one. -/
theorem same_file_step (sound : AllSound s) (turning : AllTurning b faults begun s) (filed : Filed b s.world.db)
    (allowed : Afterwards faults b.submissionId begun (s.map routes.map) choice)
    (stepped : step (backend P) points s choice = some s') : SameFile b.submissionId s.world.db s'.world.db := by
  cases db_step sound stepped with
  | same kept => exact kept ▸ .refl _ _
  | rules rulesets rateTables chosen world threads keyed =>
      rw [world]
      exact (SameFile.refl _ _).append ⟨rfl, rfl, rfl, rfl⟩
  | @commit i t rest chosen at_i next world threads keyed =>
      subst chosen
      have known := sound t (List.mem_of_getElem? at_i)
      rw [world] at keyed ⊢
      have other : t.req.fileOf ≠ some b.submissionId := by
        intro file
        have later := (allowed _ (Sys.thread_map routes.map at_i) file).1
        cases (turning i t at_i later file).next_query next
      exact (SameFile.refl _ _).append
        (commits_elsewhere known.kept.1 known.request next keyed filed.submission other)

/-- A bound submission keeps its file, and the later requests on it turn back. -/
theorem terminal_run {s₀ : PointSys σ} (sound : AllSound s₀) (keyed : s₀.world.db.Keyed) (filed : Filed b s₀.world.db)
    (run : Run (backend P) points (fun s choice => Afterwards faults b.submissionId s₀.threads.length
      (s.map routes.map) choice) s₀ s) :
    SameFile b.submissionId s₀.world.db s.world.db ∧ AllTurning b faults s₀.threads.length s := by
  refine run.invariant (I := fun s => SameFile b.submissionId s₀.world.db s.world.db ∧
    AllTurning b faults s₀.threads.length s) ⟨.refl _ _, ?initial⟩ ?preserved
  case initial =>
    intro i t at_i later
    exact absurd (List.getElem?_eq_some_iff.mp at_i).1 (Nat.not_lt.mpr later)
  case preserved =>
    intro s choice s' before ⟨same, turning⟩ allowed stepped
    have filed := filed.grows (run_grows before)
    have keyed := keyed_run before sound keyed
    have step := same_file_step (.run before sound) turning filed allowed stepped
    refine ⟨⟨?_, ?_, ?_, ?_⟩, turning_step turning keyed filed allowed stepped⟩
    · exact step.decisions.trans same.decisions
    · exact step.quotes.trans same.quotes
    · exact step.bindings.trans same.bindings
    · exact step.audits.trans same.audits

/-- A query can be made whenever it is a thread's turn. -/
theorem query_enabled {i : ℕ} {t : PointThread} {c : Call} {rest : Except PyErr (Reply c) → Phase}
    (at_i : s.threads[i]? = some t) (next : t.ctl.next = some ⟨c, rest⟩) (kind : c.kind = .query) (pick : ℕ) :
    (step (backend P) points s (.run i (.read pick))).isSome := by
  obtain ⟨value, found⟩ := Option.isSome_iff_exists.mp (query_isSome kind s.world.db pick)
  simp only [step, at_i, points, next, backend, handle, found, Option.map_some, Option.isSome_some]

theorem Turning.queriesOnly {t : PointThread} (turning : Turning b faults t.req t.ctl t.done) :
    QueriesOnly (t.map routes.map) := by
  constructor
  · intro c made
    rw [Thread.done_map] at made
    exact turning.done_queries c made
  · intro c awaited
    rw [Thread.awaits_map] at awaited
    obtain ⟨⟨c, rest⟩, next, rfl⟩ := Option.map_eq_some_iff.mp awaited
    exact turning.next_query next

theorem Turning.answers {i : ℕ} {t : PointThread} (turning : Turning b faults t.req t.ctl t.done)
    (at_i : s.threads[i]? = some t) (reliable : faults = false) :
    Answers P b (s.map routes.map) i (t.map routes.map) := by
  have enabled : ∀ {c rest}, t.ctl.next = some ⟨c, rest⟩ → ∀ pick,
      (step (backend P) requests (s.map routes.map) (.run i (.read pick))).isSome := by
    intro c rest next pick
    rw [step_map, Option.isSome_map]
    exact query_enabled at_i next (turning.next_query next) pick
  rw [Answers, Thread.done_map]
  generalize phase : t.ctl = ph, request : t.req = req, made : t.done = done at turning
  cases turning with
  | assess | quote | bind | check =>
      refine .inr ⟨?_, enabled (congrArg Phase.next phase)⟩
      simp only [Thread.map, request, lookups, List.length_nil, List.length_cons]
      omega
  | answered queries =>
      refine .inl ?_
      change t.ctl.prog = _
      rw [phase, Phase.prog_ended]
      exact congrArg (fun req => Prog.ofExcept (answerTo b req)) request.symm
  | failed fault => cases reliable.symm.trans fault

end Runs

variable {σ φ υ : Type} {P : PasModel σ φ υ}

/-- From any reachable state in which a submission is bound, whatever happens next
    apart from requests on it that were already under way: its rows stay as they are,
    and every request on it that is begun from then on makes queries only. If the
    database answers them, they end after one or two: a bind returns that Binding,
    an assess or a quote is refused. -/
theorem bound_is_terminal {pas : σ} {s₀ s : ProgSys σ} {faults : Bool}
    (reached : Run (backend P) requests anyStep (idle (.initial pas)) s₀) {b : Binding}
    (member : b ∈ s₀.world.db.bindings)
    (run : Run (backend P) requests (Afterwards faults b.submissionId s₀.threads.length) s₀ s) :
    SameFile b.submissionId s₀.world.db s.world.db ∧
      ∀ i t, s₀.threads.length ≤ i → s.threads[i]? = some t → t.req.fileOf = some b.submissionId →
        QueriesOnly t ∧ (faults = false → Answers P b s i t) := by
  obtain ⟨s₀, before, rfl⟩ := lift_idle reached
  obtain ⟨s, after, rfl⟩ := Run.lift routes run
  have filed : Filed b s₀.world.db := by
    obtain ⟨file, policy, published, read, written⟩ := (sourced_run before).bindings b member
    exact ⟨member, file.submission, read.has.1, read.has.2.trans (read.owner written).symm⟩
  have begun : (s₀.map routes.map).threads.length = s₀.threads.length := List.length_map _
  rw [begun] at after ⊢
  obtain ⟨same, turning⟩ := terminal_run (.run before (.idle _)) (keyed_initial before) filed after
  refine ⟨same, fun i t later found file => ?_⟩
  obtain ⟨t, at_i, rfl⟩ := Sys.thread_of_map routes.map found
  have turned := turning i t at_i later file
  exact ⟨turned.queriesOnly, fun reliable => turned.answers at_i reliable⟩

/-- After the bind: an assess, a quote and a bind, with new rules in between. -/
def afterwards : Scenario.Script :=
  [.start Scenario.assess, .start Scenario.quote, .env (.ruleset ⟨2, .obj []⟩ ⟨"r2", 40⟩), .start Scenario.bind] ++
    Scenario.drive 4 [Scenario.read] ++ [.env (.rateTable ⟨2, .obj []⟩ ⟨"t2", 41⟩)] ++
    Scenario.drive 6 [Scenario.read] ++ Scenario.drive 5 [Scenario.read] ++ Scenario.drive 6 [Scenario.read]

theorem bound_then_asked : ∃ s₀ s b, Run Scenario.service requests anyStep Scenario.empty s₀ ∧
    b ∈ s₀.world.db.bindings ∧ b.submissionId = "s" ∧
    (s.threads.drop s₀.threads.length).map (fun t => (t.req.fileOf, t.done.length)) =
      [(some "s", 1), (some "s", 1), (some "s", 2)] ∧
    SameFile b.submissionId s₀.world.db s.world.db ∧
      ∀ i t, s₀.threads.length ≤ i → s.threads[i]? = some t → t.req.fileOf = some b.submissionId →
        QueriesOnly t ∧ (false = false → Answers (Lifecycle.model Lifecycle.byNumber) b s i t) := by
  obtain ⟨s₀, s, bound, asked, found⟩ := exists_run_then Scenario.service requests anyStep (Afterwards false "s" 4)
    Scenario.empty Scenario.bound afterwards (fun s₀ s => s₀.threads.length == 4 &&
      s₀.world.db.bindings.any (·.submissionId == "s") && (s.threads.drop s₀.threads.length).map
        (fun t => (t.req.fileOf, t.done.length)) == [(some "s", 1), (some "s", 1), (some "s", 2)]) (by decide +kernel)
  simp only [Bool.and_eq_true, beq_iff_eq, List.any_eq_true] at found
  obtain ⟨⟨four, b, member, named⟩, done⟩ := found
  rw [← named, ← four] at asked
  exact ⟨s₀, s, b, bound, member, named, done, bound_is_terminal bound member asked⟩

end Terminal

end Underwriting
