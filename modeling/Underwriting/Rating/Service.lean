import Underwriting.Rating.Engine
import Underwriting.Submission.Service

/-! # Rating use-cases

`app/rating/service.py`: a quote is gated by the latest decision, priced against
the current rate table and stored with the facts it was priced on.
-/

namespace Underwriting.RatingService

open Interleaving (Prog)
open Rating

/-- The flags are derived from fields the submission has. -/
def factsOf (submission : Submission) : RatingFacts where
  tivEur := submission.tivEur
  occupancy := submission.occupancy
  flags :=
    (if submission.tivEur > highTivThresholdEur then {"high_tiv"} else ∅) ∪
    (if Unicode.contains "sprinkler" (Unicode.lower submission.requestedCover) then {"sprinklered"} else ∅)

theorem factsOf_neutral (submission : Submission) : (factsOf submission).commercialAdjustment.eq .one = .ok true := by
  change Decimal.one.eq .one = .ok true
  decide

/-- `asdict(item)` -/
def lineItemJson (item : LineItem) : Json := .obj [
  ("label", item.label), ("kind", item.kind), ("value", .str item.value),
  ("running_subtotal_minor", .int item.runningSubtotalMinor), ("stage", .str item.stage)]

def breakdownJson (breakdown : QuoteBreakdown) : Json := .arr (breakdown.lineItems.map lineItemJson)

/-- The quote manifest: the exact facts that were priced. -/
def factsJson (facts : RatingFacts) : Json := .obj [
  ("tiv_eur", .int facts.tivEur), ("occupancy", .str facts.occupancy),
  ("flags", .arr ((facts.flags.sort (· ≤ ·)).map .str)),
  ("commercial_adjustment", .str facts.commercialAdjustment.str)]

/-- `spec_of(rate_table)` -/
def specOf (rateTable : RateTable) : Except PyErr RateTableSpec :=
  RateTableSpec.fromRules rateTable.version rateTable.rules

/-- `rate(facts, spec_of(rate_table))`, in Python's default decimal context. -/
def priced (submission : Submission) (rateTable : RateTable) : Except PyErr QuoteBreakdown := do
  rate .standard (factsOf submission) (← specOf rateTable)

theorem priced_version {submission : Submission} {rateTable : RateTable} {breakdown}
    (priced : priced submission rateTable = .ok breakdown) : breakdown.rateTableVersion = rateTable.version := by
  obtain ⟨spec, built, rated⟩ := bind_ok priced
  exact (rate_labels rated).1.trans (RateTableSpec.fromRules_version built)

def newQuote (submission : Submission) (breakdown : QuoteBreakdown) (actor : String) : NewQuote where
  submissionId := submission.id
  premiumMinor := breakdown.premiumMinor
  currency := breakdown.currency
  rateTableVersion := breakdown.rateTableVersion
  breakdown := breakdownJson breakdown
  createdBy := actor
  purePremiumMinor := some breakdown.purePremiumMinor
  technicalPremiumMinor := some breakdown.technicalPremiumMinor
  commercialPremiumMinor := some breakdown.commercialPremiumMinor
  taxesMinor := some breakdown.taxesMinor
  facts := some (factsJson (factsOf submission))

def quotedEntry (submission : Submission) (rateTable : RateTable) (breakdown : QuoteBreakdown) (actor : String) :
    NewAuditEntry where
  submissionId := submission.id
  action := "quote"
  actor := actor
  rulesetVersion := some rateTable.version
  detail := .obj [("premium_minor", .int breakdown.premiumMinor), ("currency", .str breakdown.currency)]

def quoteSubmission (submissionId actor : String) : Program Quote := do
  let submission ← SubmissionService.getSubmission submissionId
  let some decision ← Session.latestDecision submissionId | .raise (.noDecision submissionId)
  if decision.outcome = Outcome.decline.value then .raise (.declinedRisk submissionId)
  let some rateTable ← rateTablesCurrent | .raise .noRateTable
  let breakdown ← Prog.ofExcept (priced submission rateTable)
  let quote ← quotesAdd (newQuote submission breakdown actor)
  let _ ← auditAppend (quotedEntry submission rateTable breakdown actor)
  Session.commit
  Session.refresh
  return quote

end Underwriting.RatingService
