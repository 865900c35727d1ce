import Mathlib.Algebra.Order.Group.Multiset
import Mathlib.Tactic.Abel
import Underwriting.Machine.Scenario

/-! # The audit trail mirrors the rows

Every business row has exactly one audit entry with its data copied, and there is
no other entry. Each commit adds a row together with its entry, so the
correspondence of the committed rows is extended by that of the transaction.
-/

namespace Underwriting.Audit

open Interleaving

/-- The entry of a submission; the row does not name its actor. -/
def CreatedBy (row : Submission) (entry : AuditEntry) : Prop :=
  ∃ actor, entry.toNewAuditEntry = {
    submissionId := row.id
    action := "submission.created"
    actor := actor
    detail := .obj [("line_of_business", .str row.lineOfBusiness), ("tiv_eur", .int row.tivEur)] }

def AssessedBy (row : Decision) (entry : AuditEntry) : Prop :=
  entry.toNewAuditEntry = {
    submissionId := row.submissionId
    action := "submission.assessed"
    actor := row.decidedBy
    rulesetVersion := some row.appetiteVersion
    outcome := some row.outcome
    detail := .obj [("reason_codes", .arr (row.reasonCodes.map .str))] }

def QuotedBy (row : Quote) (entry : AuditEntry) : Prop :=
  entry.toNewAuditEntry = {
    submissionId := row.submissionId
    action := "quote"
    actor := row.createdBy
    rulesetVersion := some row.rateTableVersion
    detail := .obj [("premium_minor", .int row.premiumMinor), ("currency", .str row.currency)] }

/-- The entry of a Binding takes the premium from the bound quote. -/
def BoundBy (quotes : List Quote) (row : Binding) (entry : AuditEntry) : Prop :=
  ∃ quote ∈ quotes, quote.id = row.quoteId ∧ entry.toNewAuditEntry = {
    submissionId := row.submissionId
    action := "bind"
    actor := row.boundBy
    detail := .obj [
      ("policy_number", .str row.policyNumber), ("pas_policy_id", .str row.pasPolicyId),
      ("quote_id", .str row.quoteId), ("premium_minor", .int quote.premiumMinor),
      ("currency", .str quote.currency), ("event_published", .bool row.eventPublished)] }

/-- The audit entries of a submission are its rows' entries, one for each row. -/
def Mirrored (quotes : List Quote) (db : Db) (sid : String) : Prop :=
  ∃ created assessed quoted bound : List AuditEntry,
    (db.audits.filter (·.submissionId = sid)).Perm (created ++ assessed ++ quoted ++ bound) ∧
    List.Forall₂ CreatedBy (db.submissions.filter (·.id = sid)) created ∧
    List.Forall₂ AssessedBy (db.decisionsOf sid) assessed ∧
    List.Forall₂ QuotedBy (db.quotesOf sid) quoted ∧
    List.Forall₂ (BoundBy quotes) (db.bindings.filter (·.submissionId = sid)) bound

variable {quotes quotes' : List Quote} {db more : Db} {sid : String}

theorem forall₂_append {α β : Type} {R : α → β → Prop} {xs xs' : List α} {ys ys' : List β}
    (first : List.Forall₂ R xs ys) (second : List.Forall₂ R xs' ys') :
    List.Forall₂ R (xs ++ xs') (ys ++ ys') := by
  induction first with
  | nil => exact second
  | cons related _ ih => exact .cons related ih

theorem Mirrored.append (mirrored : Mirrored quotes db sid) (added : Mirrored quotes more sid) :
    Mirrored quotes (db ++ more) sid := by
  obtain ⟨c, a, q, b, perm, created, assessed, quoted, bound⟩ := mirrored
  obtain ⟨c', a', q', b', perm', created', assessed', quoted', bound'⟩ := added
  refine ⟨c ++ c', a ++ a', q ++ q', b ++ b', ?_, ?_, ?_, ?_, ?_⟩
  · simp only [Db.append_audits, List.filter_append]
    refine (perm.append perm').trans (Multiset.coe_eq_coe.mp ?_)
    simp only [← Multiset.coe_add]
    abel
  · simpa only [Db.append_submissions, List.filter_append] using forall₂_append created created'
  · simpa only [Db.decisionsOf_append] using forall₂_append assessed assessed'
  · simpa only [Db.quotesOf_append] using forall₂_append quoted quoted'
  · simpa only [Db.append_bindings, List.filter_append] using forall₂_append bound bound'

theorem Mirrored.grows (mirrored : Mirrored quotes db sid) (subset : quotes ⊆ quotes') :
    Mirrored quotes' db sid := by
  obtain ⟨c, a, q, b, perm, created, assessed, quoted, bound⟩ := mirrored
  refine ⟨c, a, q, b, perm, created, assessed, quoted, bound.imp ?_⟩
  rintro row entry ⟨quote, member, same⟩
  exact ⟨quote, subset member, same⟩

/-- Rules have no entries. -/
theorem mirrored_rules (rulesets rateTables) : Mirrored quotes { rulesets, rateTables } sid :=
  ⟨[], [], [], [], .nil, .nil, .nil, .nil, .nil⟩

theorem assessedBy_written {submission ruleset result actor} {row : Decision} {entry : AuditEntry}
    (written : row.toNewDecision = SubmissionService.newDecision submission ruleset result actor)
    (copied : entry.toNewAuditEntry = SubmissionService.assessedEntry submission ruleset result actor) :
    AssessedBy row entry := by
  obtain ⟨new, stamp⟩ := row
  obtain rfl : new = _ := written
  simpa only [AssessedBy, SubmissionService.newDecision, SubmissionService.assessedEntry, List.map_map,
    Function.comp_def] using copied

theorem quotedBy_written {submission rateTable breakdown actor} {row : Quote} {entry : AuditEntry}
    (written : row.toNewQuote = RatingService.newQuote submission breakdown actor)
    (copied : entry.toNewAuditEntry = RatingService.quotedEntry submission rateTable breakdown actor)
    (version : breakdown.rateTableVersion = rateTable.version) : QuotedBy row entry := by
  obtain ⟨new, stamp⟩ := row
  obtain rfl : new = _ := written
  simpa only [QuotedBy, RatingService.newQuote, RatingService.quotedEntry, version] using copied

theorem boundBy_written {submission policy published actor} {quote : Quote} {row : Binding} {entry : AuditEntry}
    (known : quote ∈ quotes)
    (written : row.toNewBinding = BindService.newBinding submission quote policy published actor)
    (copied : entry.toNewAuditEntry = BindService.boundEntry submission quote policy published actor) :
    BoundBy quotes row entry := by
  obtain ⟨new, stamp⟩ := row
  obtain rfl : new = _ := written
  exact ⟨quote, known, rfl, copied⟩

/-- A transaction about to commit holds a row and its entry. -/
theorem mirrored_pending {db : Db} {ph : Phase} {rest} (fits : ph.Fits db) (next : ph.next = some ⟨.commit, rest⟩) :
    Mirrored (db ++ ph.pending).quotes ph.pending sid := by
  rcases Phase.commits_cases next with ⟨payload, actor, cp, row, entry, rfl⟩ | ⟨file, row, entry, rfl⟩ |
    ⟨file, row, entry, rfl⟩ | ⟨file, request, policy, published, row, entry, rfl⟩
  · obtain ⟨-, copied⟩ := fits
    have owner : entry.submissionId = row.id := congrArg (·.submissionId) copied
    by_cases same : row.id = sid
    · exact ⟨[entry], [], [], [], by simp [Phase.pending, owner, same],
        by simpa [Phase.pending, same] using ⟨actor, copied⟩, .nil, .nil, .nil⟩
    · exact ⟨[], [], [], [], by simp [Phase.pending, owner, same], by simp [Phase.pending, same], .nil, .nil, .nil⟩
  · obtain ⟨-, written, copied⟩ := fits
    have mirror := assessedBy_written written copied
    have owner : entry.submissionId = row.submissionId := congrArg (·.submissionId) mirror
    by_cases same : row.submissionId = sid
    · exact ⟨[], [entry], [], [], by simp [Phase.pending, owner, same], .nil,
        by simpa [Phase.pending, Db.decisionsOf, same] using mirror, .nil, .nil⟩
    · exact ⟨[], [], [], [], by simp [Phase.pending, owner, same], .nil,
        by simp [Phase.pending, Db.decisionsOf, same], .nil, .nil⟩
  · obtain ⟨read, written, copied⟩ := fits
    have mirror := quotedBy_written written copied (RatingService.priced_version read.priced)
    have owner : entry.submissionId = row.submissionId := congrArg (·.submissionId) mirror
    by_cases same : row.submissionId = sid
    · exact ⟨[], [], [entry], [], by simp [Phase.pending, owner, same], .nil, .nil,
        by simpa [Phase.pending, Db.quotesOf, same] using mirror, .nil⟩
    · exact ⟨[], [], [], [], by simp [Phase.pending, owner, same], .nil, .nil,
        by simp [Phase.pending, Db.quotesOf, same], .nil⟩
  · obtain ⟨⟨read, -⟩, written, copied⟩ := fits
    have known : file.quote ∈ db.quotes ++ ([] : List Quote) :=
      List.mem_append_left _ (Db.mem_quotesOf.mp read.quote).1
    have mirror := boundBy_written known written copied
    have owner : entry.submissionId = row.submissionId := by
      obtain ⟨_, _, _, same⟩ := mirror
      exact congrArg (·.submissionId) same
    by_cases same : row.submissionId = sid
    · exact ⟨[], [], [], [entry], by simp [Phase.pending, owner, same], .nil, .nil, .nil,
        by simpa [Phase.pending, same] using mirror⟩
    · exact ⟨[], [], [], [], by simp [Phase.pending, owner, same], .nil, .nil, .nil,
        by simp [Phase.pending, same]⟩

theorem mirrored_step {σ φ υ : Type} {P : PasModel σ φ υ} {s s' : PointSys σ} {choice} (sound : AllSound s)
    (mirrored : Mirrored s.world.db.quotes s.world.db sid)
    (stepped : step (backend P) points s choice = some s') :
    Mirrored s'.world.db.quotes s'.world.db sid := by
  cases db_step sound stepped with
  | same kept => exact kept ▸ mirrored
  | commit chosen at_i next world threads keyed =>
      rw [world]
      have fits := (sound _ (List.mem_of_getElem? at_i)).kept.1
      exact (mirrored.grows (List.subset_append_left _ _)).append (mirrored_pending fits next)
  | rules rulesets rateTables chosen world threads keyed =>
      rw [world]
      exact (mirrored.grows (List.subset_append_left _ _)).append (mirrored_rules rulesets rateTables)

theorem mirrored_run {σ φ υ : Type} {P : PasModel σ φ υ} {pas : σ} {ok} {s : PointSys σ}
    (run : Run (backend P) points ok (idle (.initial pas)) s) (sid : String) :
    Mirrored s.world.db.quotes s.world.db sid := by
  refine points_invariant (I := fun s => Mirrored s.world.db.quotes s.world.db sid) run keyed_empty ?_ ?_
  · exact ⟨[], [], [], [], .nil, .nil, .nil, .nil, .nil⟩
  · exact fun s choice s' sound _ mirrored _ stepped => mirrored_step sound mirrored stepped

theorem filter_le_one {α : Type} {key : α → String} {rows : List α} (nodup : (rows.map key).Nodup) (value : String) :
    (rows.filter (key · = value)).length ≤ 1 := by
  have once := List.nodup_iff_count_le_one.mp nodup value
  rwa [List.count_eq_countP, List.countP_map, List.countP_eq_length_filter] at once

variable {σ φ υ : Type} {P : PasModel σ φ υ}

/-- In every reachable state the audit entries of every submission correspond one to
    one with its rows, whatever the requests, their order and their failures. -/
theorem audit_mirrors_rows {pas : σ} {s : ProgSys σ}
    (run : Run (backend P) requests anyStep (idle (.initial pas)) s) (sid : String) :
    Mirrored s.world.db.quotes s.world.db sid ∧
      (s.world.db.submissions.filter (·.id = sid)).length ≤ 1 ∧
      (s.world.db.bindings.filter (·.submissionId = sid)).length ≤ 1 := by
  obtain ⟨s, lifted, rfl⟩ := lift_idle run
  have keyed : s.world.db.Keyed := keyed_initial lifted
  exact ⟨mirrored_run lifted sid, filter_le_one keyed.submissionId sid, filter_le_one keyed.boundOnce sid⟩

theorem audit_mirrors_bound_file : ∃ s, Run Scenario.service requests anyStep Scenario.empty s ∧
    s.world.db.audits.length = 4 ∧ Mirrored s.world.db.quotes s.world.db "s" := by
  obtain ⟨s, run, four⟩ := exists_run Scenario.service requests anyStep Scenario.empty Scenario.bound
    (fun s => s.world.db.audits.length == 4) (by decide +kernel)
  exact ⟨s, run, by simpa using four, (audit_mirrors_rows run "s").1⟩

end Underwriting.Audit
