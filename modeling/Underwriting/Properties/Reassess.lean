import Underwriting.Properties.Workflow

/-! # Every decision is replayable

A decision stores the version of the ruleset it was taken under. Assessing the
stored submission against that version gives back the outcome and the reasons,
in every reachable state: submissions and rulesets are never changed, and their
keys are unique.
-/

namespace Underwriting.Reassess

open Interleaving

/-- The stored columns that are assessed. -/
def storedFacts (submission : Submission) : Appetite.SubmissionFacts where
  lineOfBusiness := submission.lineOfBusiness
  tivEur := submission.tivEur
  occupancy := submission.occupancy
  country := submission.country

/-- Assess the stored columns of the submission against the recorded version. -/
def reassess (db : Db) (decision : Decision) : Option (Except PyErr (Outcome × List ReasonCode)) := do
  let ruleset ← Workflow.getVersion db decision.appetiteVersion
  let submission ← db.submissions.find? (·.id = decision.submissionId)
  return do
    let spec ← Appetite.RulesetSpec.fromRules ruleset.version ruleset.rules
    return Appetite.assess (storedFacts submission) spec

/-- The stored outcome and reason codes are those of an assessment. -/
structure Stores (decision : Decision) (result : Outcome × List ReasonCode) : Prop where
  outcome : decision.outcome = result.1.value
  reasonCodes : decision.reasonCodes = result.2.map ReasonCode.value

/-- A decision written from stored rows is reproduced by them. -/
theorem reassess_assessed {db : Db} (keyed : db.Keyed) {decision : Decision} (known : db.Assessed decision) :
    ∃ result, reassess db decision = some (.ok result) ∧ Stores decision result := by
  obtain ⟨file, read, written⟩ := known
  obtain ⟨new, stamp⟩ := decision
  obtain rfl : new = _ := written
  have ruleset : Workflow.getVersion db file.ruleset.version = some file.ruleset :=
    Db.find?_key keyed.rulesetVersion read.ruleset
  have submission : db.submissions.find? (·.id = file.submission.id) = some file.submission :=
    Db.find?_key keyed.submissionId read.has.1
  refine ⟨file.result, ?_, rfl, rfl⟩
  have assessed : SubmissionService.assessed file.submission file.ruleset =
      (Appetite.RulesetSpec.fromRules file.ruleset.version file.ruleset.rules).bind
        fun spec => .ok (Appetite.assess (storedFacts file.submission) spec) := rfl
  change (Workflow.getVersion db file.ruleset.version).bind (fun ruleset =>
    (db.submissions.find? (·.id = file.submission.id)).bind fun submission =>
      some ((Appetite.RulesetSpec.fromRules ruleset.version ruleset.rules).bind
        fun spec => .ok (Appetite.assess (storedFacts submission) spec))) = _
  simp only [ruleset, submission, Option.bind_some, ← assessed, read.assessed]

variable {σ φ υ : Type} {P : PasModel σ φ υ}

/-- Every decision of every reachable state is reproduced by its own ruleset. -/
theorem decision_replayable {pas : σ} {s : ProgSys σ}
    (run : Run (backend P) requests anyStep (idle (.initial pas)) s) :
    ∀ decision ∈ s.world.db.decisions,
      ∃ result, reassess s.world.db decision = some (.ok result) ∧ Stores decision result := by
  obtain ⟨s, lifted, rfl⟩ := lift_idle run
  intro decision member
  exact reassess_assessed (keyed_initial lifted) ((sourced_run lifted).decisions decision member)

/-- A ruleset under which the scenarios' submission is declined. -/
def stricter : Json := .obj [("allowed_lobs", .arr []), ("max_tiv_eur", .int 1),
  ("excluded_occupancies", .arr [.str Occupancy.office.value]), ("sanctioned_countries", .arr [.str "fr"])]

/-- A second assessment after the stricter ruleset was added. -/
def reassessed : Scenario.Script :=
  Scenario.quoted ++ [.env (.ruleset ⟨2, stricter⟩ ⟨"r2", 30⟩), .start Scenario.assess] ++
    Scenario.assessing 3 "d2" 40 ++ Scenario.closing 3

theorem reassessed_replayable : ∃ s, Run Scenario.service requests anyStep Scenario.empty s ∧
    s.world.db.decisions.map (·.reasonCodes) =
      [["WITHIN_APPETITE"], ["SANCTIONED_COUNTRY", "EXCLUDED_OCCUPANCY"]] ∧
    ∀ decision ∈ s.world.db.decisions,
      ∃ result, reassess s.world.db decision = some (.ok result) ∧ Stores decision result := by
  obtain ⟨s, run, reasons⟩ := exists_run Scenario.service requests anyStep Scenario.empty reassessed
    (fun s => s.world.db.decisions.map (·.reasonCodes) ==
      [["WITHIN_APPETITE"], ["SANCTIONED_COUNTRY", "EXCLUDED_OCCUPANCY"]]) (by decide +kernel)
  exact ⟨s, run, by simpa using reasons, decision_replayable run⟩

end Underwriting.Reassess
