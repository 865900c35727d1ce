import Underwriting.Machine.Rows
import Underwriting.Machine.Scenario

/-! # Every quote is replayable

A quote stores the facts it was priced on and the version of its rate table.
Decoding the facts and rating them against that version gives back everything
the quote stores, in every reachable state: versions are unique and a stored
table is never changed.
-/

namespace Underwriting.Replay

open Interleaving
open Rating RatingService

/-- Read the quote manifest back into the facts that were priced. -/
def decodeFacts (stored : Json) : Option RatingFacts :=
  match stored.field? "tiv_eur", stored.field? "occupancy", stored.field? "flags",
      stored.field? "commercial_adjustment" with
  | some (.int tivEur), some (.str occupancy), some (.arr flags), some (.str adjustment) =>
      match flags.mapM Json.text?, Decimal.parse adjustment with
      | some names, some commercialAdjustment =>
          some { tivEur, occupancy, flags := names.toFinset, commercialAdjustment }
      | _, _ => none
  | _, _, _, _ => none

/-- `RateTableRepository.get_version` -/
def getVersion (db : Db) (version : ℤ) : Option RateTable := db.rateTables.find? (·.version = version)

/-- Rate the decoded facts against the recorded version. -/
def replay (db : Db) (quote : Quote) : Option (Except PyErr QuoteBreakdown) := do
  let rateTable ← getVersion db quote.rateTableVersion
  let facts ← decodeFacts (← quote.facts)
  return do rate .standard facts (← specOf rateTable)

/-- A stored item has the five fields of a line item, by name. -/
def Carries (stored : Json) (item : LineItem) : Prop :=
  stored = .obj [("label", item.label), ("kind", item.kind), ("value", .str item.value),
    ("running_subtotal_minor", .int item.runningSubtotalMinor), ("stage", .str item.stage)]

/-- The stored premiums and currency are those of a breakdown, and its line items
    are stored one by one. -/
structure Stores (quote : Quote) (breakdown : QuoteBreakdown) : Prop where
  premium : quote.premiumMinor = breakdown.premiumMinor
  pure : quote.purePremiumMinor = some breakdown.purePremiumMinor
  technical : quote.technicalPremiumMinor = some breakdown.technicalPremiumMinor
  commercial : quote.commercialPremiumMinor = some breakdown.commercialPremiumMinor
  taxes : quote.taxesMinor = some breakdown.taxesMinor
  currency : quote.currency = breakdown.currency
  breakdown : ∃ items, quote.breakdown = .arr items ∧ List.Forall₂ Carries items breakdown.lineItems

/-- The facts of a submission that has no commercial adjustment. -/
structure Priceable (submission : Submission) (facts : RatingFacts) : Prop where
  tivEur : facts.tivEur = submission.tivEur
  occupancy : facts.occupancy = submission.occupancy
  flags : ∀ flag, flag ∈ facts.flags ↔ flag = "high_tiv" ∧ submission.tivEur > 500000000 ∨
    flag = "sprinklered" ∧ Unicode.contains "sprinkler" (Unicode.lower submission.requestedCover)
  commercialAdjustment : facts.commercialAdjustment = .one

theorem priceable (submission : Submission) : Priceable submission (RatingService.factsOf submission) := by
  refine ⟨rfl, rfl, fun flag => ?_, rfl⟩
  simp only [RatingService.factsOf, highTivThresholdEur, Finset.mem_union]
  refine or_congr ?_ ?_
  · by_cases high : submission.tivEur > 500000000 <;> simp [high]
  · by_cases named : Unicode.contains "sprinkler" (Unicode.lower submission.requestedCover) <;> simp [named]

theorem carries_items (breakdown : QuoteBreakdown) :
    ∃ items, breakdownJson breakdown = .arr items ∧ List.Forall₂ Carries items breakdown.lineItems := by
  refine ⟨breakdown.lineItems.map lineItemJson, rfl, List.forall₂_map_left_iff.mpr ?_⟩
  exact List.forall₂_same.mpr fun item _ => rfl

theorem mapM_text (names : List String) : (names.map Json.str).mapM Json.text? = some names := by
  induction names with
  | nil => rfl
  | cons name rest ih =>
      simp only [List.map_cons, List.mapM_cons, ih, Json.text?, Option.bind_eq_bind, Option.bind_some,
        Option.pure_def]

/-- The manifest keeps the facts, as far as text keeps the adjustment. -/
theorem decodeFacts_factsJson (facts : RatingFacts)
    (printed : Decimal.parse facts.commercialAdjustment.str = some facts.commercialAdjustment) :
    decodeFacts (factsJson facts) = some facts := by
  have flags : ((facts.flags.sort (· ≤ ·)).map Json.str).mapM Json.text? = some (facts.flags.sort (· ≤ ·)) :=
    mapM_text _
  simp only [decodeFacts, factsJson, Json.field?, List.lookup_cons, List.lookup_nil]
  simp [flags, printed]

theorem getVersion_member {db : Db} (keyed : db.Keyed) {rateTable} (member : rateTable ∈ db.rateTables) :
    getVersion db rateTable.version = some rateTable :=
  Db.find?_key keyed.rateTableVersion member

variable {σ φ υ : Type} {P : PasModel σ φ υ}

/-- Every quote of every reachable state is reproduced by its own manifest. -/
theorem quote_replayable {pas : σ} {s : ProgSys σ}
    (run : Run (backend P) requests anyStep (idle (.initial pas)) s) :
    ∀ quote ∈ s.world.db.quotes,
      ∃ breakdown, replay s.world.db quote = some (.ok breakdown) ∧ Stores quote breakdown := by
  obtain ⟨s, lifted, rfl⟩ := lift_idle run
  intro quote member
  obtain ⟨file, read, written⟩ := (sourced_run lifted).quotes quote member
  obtain ⟨new, stamp⟩ := quote
  obtain rfl : new = _ := written
  have version : getVersion s.world.db file.breakdown.rateTableVersion = some file.rateTable :=
    priced_version read.priced ▸ getVersion_member (keyed_initial lifted) read.rateTable
  have facts : decodeFacts (factsJson (factsOf file.submission)) = some (factsOf file.submission) :=
    decodeFacts_factsJson _ (show Decimal.parse Decimal.one.str = some Decimal.one by decide)
  refine ⟨file.breakdown, ?_, rfl, rfl, rfl, rfl, rfl, rfl, carries_items file.breakdown⟩
  change (getVersion s.world.db file.breakdown.rateTableVersion).bind _ = _
  simp only [version, Option.bind_some]
  change (decodeFacts (factsJson (factsOf file.submission))).bind _ = _
  simp only [facts, Option.bind_some]
  exact congrArg some read.priced

/-- A second quote after the second rate table was added. -/
def requoted : Scenario.Script :=
  Scenario.quoted ++ [.env (.rateTable ⟨2, v2Rules⟩ ⟨"t2", 30⟩), .start Scenario.quote] ++
    Scenario.quoting 3 "q2" 40 ++ Scenario.closing 3

theorem requote_replayable : ∃ s, Run Scenario.service requests anyStep Scenario.empty s ∧
    s.world.db.quotes.map (·.premiumMinor) = [50, 5069] ∧
    ∀ quote ∈ s.world.db.quotes,
      ∃ breakdown, replay s.world.db quote = some (.ok breakdown) ∧ Stores quote breakdown := by
  obtain ⟨s, run, premiums⟩ := exists_run Scenario.service requests anyStep Scenario.empty requoted
    (fun s => s.world.db.quotes.map (·.premiumMinor) == [50, 5069]) (by decide +kernel)
  exact ⟨s, run, by simpa using premiums, quote_replayable run⟩

end Underwriting.Replay
