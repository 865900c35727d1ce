import Underwriting.Machine.Steps

/-! # Where rows come from

Every decision, quote and Binding of a reachable state was written by its own
route from rows that were committed before, and those rows are still there.
-/

namespace Underwriting

open Interleaving

/-- The decision assesses a submission against a stored ruleset. -/
def Db.Assessed (db : Db) (row : Decision) : Prop :=
  ∃ file : AssessFile, file.Read db ∧
    row.toNewDecision = SubmissionService.newDecision file.submission file.ruleset file.result file.actor

/-- The quote prices a submission against a stored rate table. -/
def Db.Priced (db : Db) (row : Quote) : Prop :=
  ∃ file : QuoteFile, file.Read db ∧
    row.toNewQuote = RatingService.newQuote file.submission file.breakdown file.actor

/-- The Binding records a stored quote of its submission. -/
def Db.Recorded (db : Db) (row : Binding) : Prop :=
  ∃ (file : BindFile) (policy : PolicyClient.PolicyRef) (published : Bool), file.Read db ∧
    row.toNewBinding = BindService.newBinding file.submission file.quote policy published file.actor

section Owners

variable {db : Db}

theorem AssessFile.Read.owner {file : AssessFile} (read : file.Read db) {row : Decision}
    (written : row.toNewDecision =
      SubmissionService.newDecision file.submission file.ruleset file.result file.actor) :
    row.submissionId = file.submissionId :=
  (congrArg NewDecision.submissionId written).trans read.has.2

theorem QuoteFile.Read.owner {file : QuoteFile} (read : file.Read db) {row : Quote}
    (written : row.toNewQuote = RatingService.newQuote file.submission file.breakdown file.actor) :
    row.submissionId = file.submissionId :=
  (congrArg NewQuote.submissionId written).trans read.has.2

theorem BindFile.Read.owner {file : BindFile} (read : file.Read db) {row : Binding} {policy published}
    (written : row.toNewBinding = BindService.newBinding file.submission file.quote policy published file.actor) :
    row.submissionId = file.submissionId :=
  (congrArg NewBinding.submissionId written).trans read.has.2

end Owners

structure Db.Sourced (db : Db) : Prop where
  decisions : ∀ row ∈ db.decisions, db.Assessed row
  quotes : ∀ row ∈ db.quotes, db.Priced row
  bindings : ∀ row ∈ db.bindings, db.Recorded row

namespace Phase

variable {ph : Phase} {rest : Except PyErr (Reply .commit) → Phase}

/-- Only an assess commits a decision. -/
theorem commits_decision {row} (next : ph.next = some ⟨.commit, rest⟩) (member : row ∈ ph.pending.decisions) :
    ∃ file entry, ph = .assessCommit file row entry := by
  rcases commits_cases next with ⟨_, _, _, _, _, rfl⟩ | ⟨file, row', entry, rfl⟩ | ⟨_, _, _, rfl⟩ |
    ⟨_, _, _, _, _, _, rfl⟩
  · cases member
  · obtain rfl := List.mem_singleton.mp member
    exact ⟨file, entry, rfl⟩
  · cases member
  · cases member

/-- Only a quote request commits a quote. -/
theorem commits_quote {row} (next : ph.next = some ⟨.commit, rest⟩) (member : row ∈ ph.pending.quotes) :
    ∃ file entry, ph = .quoteCommit file row entry := by
  rcases commits_cases next with ⟨_, _, _, _, _, rfl⟩ | ⟨_, _, _, rfl⟩ | ⟨file, row', entry, rfl⟩ |
    ⟨_, _, _, _, _, _, rfl⟩
  · cases member
  · cases member
  · obtain rfl := List.mem_singleton.mp member
    exact ⟨file, entry, rfl⟩
  · cases member

/-- Only a bind commits a Binding. -/
theorem commits_binding {row} (next : ph.next = some ⟨.commit, rest⟩) (member : row ∈ ph.pending.bindings) :
    ∃ file request policy published entry, ph = .bindCommit file request policy published row entry := by
  rcases commits_cases next with ⟨_, _, _, _, _, rfl⟩ | ⟨_, _, _, rfl⟩ | ⟨_, _, _, rfl⟩ |
    ⟨file, request, policy, published, row', entry, rfl⟩
  · cases member
  · cases member
  · cases member
  · obtain rfl := List.mem_singleton.mp member
    exact ⟨file, request, policy, published, entry, rfl⟩

/-- A transaction that passed no guard of the submission commits no decision and no
    quote of it. -/
theorem commits_nothing {db : Db} {sid : String} (fits : ph.Fits db) (next : ph.next = some ⟨.commit, rest⟩)
    (free : ph.guarded ≠ some sid) : ph.pending.decisionsOf sid = [] ∧ ph.pending.quotesOf sid = [] := by
  constructor
  · refine List.filter_eq_nil_iff.mpr fun row member owned => free ?_
    obtain ⟨file, entry, rfl⟩ := commits_decision next member
    exact congrArg some ((fits.1.owner fits.2.1).symm.trans (of_decide_eq_true owned))
  · refine List.filter_eq_nil_iff.mpr fun row member owned => free ?_
    obtain ⟨file, entry, rfl⟩ := commits_quote next member
    exact congrArg some ((fits.1.owner fits.2.1).symm.trans (of_decide_eq_true owned))

end Phase

section Guards

variable {db : Db} {sid : String} {σ φ υ : Type} {P : PasModel σ φ υ} {w w' : World σ} {ph : Phase}
  {pending pending' : Db} {c : Call} {rest : Except PyErr (Reply c) → Phase} {fate : Fate φ}
  {answer : Except PyErr (Reply c)}

theorem not_bound {pick} (read : db.query pick (.bindingBySubmission sid) = some none) : ¬ db.Bound sid := by
  rintro ⟨b, member, same⟩
  have missing := List.find?_eq_none.mp (Option.some.inj read) b member
  exact missing (by simpa using same)

/-- A guarded submission is unbound when its guard is passed, and a request that has
    passed its guard binds nothing itself. -/
theorem unbound_next (unbound : ∀ sid, ph.guarded = some sid → ¬ w.db.Bound sid)
    (next : ph.next = some ⟨c, rest⟩) (handled : Handled P w pending c fate answer w' pending') :
    ∀ sid, (rest answer).guarded = some sid → ¬ w'.db.Bound sid := by
  intro sid guarded
  have leads := Phase.leads_next next answer
  have same : w'.db = w.db := by
    refine handled.db.resolve_right fun ⟨commits, _⟩ => ?_
    have closed := (Phase.closed_next leads).2 commits
    exact (Phase.logged_live (Phase.logged_guarded guarded)).2 closed
  rw [same]
  rcases Phase.guarded_next leads guarded with before | passed
  · exact unbound sid before
  · cases passed
    obtain ⟨-, -, pick, read⟩ := handled.query rfl rfl
    exact not_bound read

end Guards

namespace Db

variable {db db' : Db}

theorem Assessed.grows {row} (known : db.Assessed row) (grown : db.Grows db') : db'.Assessed row := by
  obtain ⟨file, read, written⟩ := known
  exact ⟨file, Phase.assess_grows read grown, written⟩

theorem Priced.grows {row} (known : db.Priced row) (grown : db.Grows db') : db'.Priced row := by
  obtain ⟨file, read, written⟩ := known
  exact ⟨file, Phase.quote_grows read grown, written⟩

theorem Recorded.grows {row} (known : db.Recorded row) (grown : db.Grows db') : db'.Recorded row := by
  obtain ⟨file, policy, published, read, written⟩ := known
  exact ⟨file, policy, published, Phase.bind_grows read grown, written⟩

/-- Rows stay sourced when sourced rows join them. -/
theorem Sourced.append {more : Db} (sourced : db.Sourced) (decisions : ∀ row ∈ more.decisions, db.Assessed row)
    (quotes : ∀ row ∈ more.quotes, db.Priced row) (bindings : ∀ row ∈ more.bindings, db.Recorded row) :
    (db ++ more).Sourced := by
  have grown := Grows.append db more
  refine ⟨fun row member => ?_, fun row member => ?_, fun row member => ?_⟩
  · exact ((List.mem_append.mp member).elim (sourced.decisions row) (decisions row)).grows grown
  · exact ((List.mem_append.mp member).elim (sourced.quotes row) (quotes row)).grows grown
  · exact ((List.mem_append.mp member).elim (sourced.bindings row) (bindings row)).grows grown

end Db

section Runs

variable {σ φ υ : Type} {P : PasModel σ φ υ} {s s' : PointSys σ} {choice : Choice Request (Fate φ) (Env υ)}

/-- Steps keep the decisions and quotes of a submission that nobody has found unbound. -/
theorem rows_kept (sound : AllSound s) (stepped : step (backend P) points s choice = some s') {sid : String}
    (free : ∀ t ∈ s.threads, t.ctl.guarded ≠ some sid) :
    s'.world.db.decisionsOf sid = s.world.db.decisionsOf sid ∧ s'.world.db.quotesOf sid = s.world.db.quotesOf sid := by
  cases db_step sound stepped with
  | same kept => rw [kept]; exact ⟨rfl, rfl⟩
  | rules rulesets rateTables chosen world threads keyed =>
      rw [world]
      exact ⟨(Db.decisionsOf_append ..).trans (List.append_nil _), (Db.quotesOf_append ..).trans (List.append_nil _)⟩
  | commit chosen at_i next world threads keyed =>
      have member := List.mem_of_getElem? at_i
      obtain ⟨decisions, quotes⟩ := Phase.commits_nothing (sound _ member).kept.1 next (free _ member)
      rw [world]
      refine ⟨(Db.decisionsOf_append ..).trans ?_, (Db.quotesOf_append ..).trans ?_⟩
      · rw [decisions, List.append_nil]
      · rw [quotes, List.append_nil]

theorem sourced_step (sound : AllSound s) (sourced : s.world.db.Sourced)
    (stepped : step (backend P) points s choice = some s') : s'.world.db.Sourced := by
  cases db_step sound stepped with
  | same kept => exact kept ▸ sourced
  | rules rulesets rateTables chosen world threads keyed =>
      rw [world]
      exact sourced.append (fun _ member => nomatch member) (fun _ member => nomatch member)
        (fun _ member => nomatch member)
  | commit chosen at_i next world threads keyed =>
      have fits := (sound _ (List.mem_of_getElem? at_i)).kept.1
      rw [world]
      refine sourced.append ?_ ?_ ?_
      · intro row member
        obtain ⟨file, entry, same⟩ := Phase.commits_decision next member
        rw [same] at fits
        exact ⟨file, fits.1, fits.2.1⟩
      · intro row member
        obtain ⟨file, entry, same⟩ := Phase.commits_quote next member
        rw [same] at fits
        exact ⟨file, fits.1, fits.2.1⟩
      · intro row member
        obtain ⟨file, request, policy, published, entry, same⟩ := Phase.commits_binding next member
        rw [same] at fits
        exact ⟨file, policy, published, fits.1.1, fits.2.1⟩

theorem sourced_run {pas : σ} {ok} (run : Run (backend P) points ok (idle (.initial pas)) s) :
    s.world.db.Sourced := by
  refine points_invariant (I := fun s => s.world.db.Sourced) run keyed_empty ?_ ?_
  · refine ⟨?_, ?_, ?_⟩ <;> exact fun _ member => nomatch member
  · exact fun s choice s' sound _ sourced _ stepped => sourced_step sound sourced stepped

end Runs

end Underwriting
