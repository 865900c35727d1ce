import Underwriting.Rating.Items
import Underwriting.Rating.Seeds

/-! # The loading stack never disturbs the loss cost

A table without its loading stack prices the loss cost alone. Its price exists
whenever the full one does, has the same items up to the first that is not of the
loss cost, and every amount it reports is the pure premium.
-/

namespace Underwriting

open Rating

/-- The table with every other parameter at its default. -/
def Rating.RateTableSpec.lossCostOnly (table : RateTableSpec) : RateTableSpec where
  version := table.version
  baseRatePermille := table.baseRatePermille
  occupancyFactors := table.occupancyFactors
  adjustments := table.adjustments

def Rating.RatingFacts.neutral (facts : RatingFacts) : RatingFacts := { facts with commercialAdjustment := .one }

namespace Compatible

variable {ctx : DecimalContext} {facts : RatingFacts} {table : RateTableSpec} {breakdown : QuoteBreakdown}

/-- The price of the loss cost alone. -/
structure LossCostOf (breakdown lossCost : QuoteBreakdown) : Prop where
  items : lossCost.lineItems = breakdown.lineItems.filter fun item => item.stage = "loss_cost"
  initial : lossCost.lineItems <+: breakdown.lineItems
  pure : lossCost.purePremiumMinor = breakdown.purePremiumMinor
  technical : lossCost.technicalPremiumMinor = breakdown.purePremiumMinor
  commercial : lossCost.commercialPremiumMinor = breakdown.purePremiumMinor
  premium : lossCost.premiumMinor = breakdown.purePremiumMinor
  taxes : lossCost.taxesMinor = 0

/-- Default loadings, tax and fee are all skipped. -/
theorem stages_neutral (ctx : DecimalContext) (facts : RatingFacts) (table : RateTableSpec) (trail : Trail) :
    technical ctx table.lossCostOnly trail = .ok trail ∧
    commercial ctx facts.neutral table.lossCostOnly trail = .ok trail ∧ fee ctx table.lossCostOnly trail = .ok trail ∧
    ipt ctx table.lossCostOnly trail.subtotal trail = .ok trail := by
  have skipped : ∀ name : String, load ctx trail (name, .zero) = .ok trail := fun _ => rfl
  refine ⟨?_, rfl, rfl, rfl⟩
  simp only [technical, RateTableSpec.lossCostOnly, List.foldlM_cons, List.foldlM_nil, skipped, bind, Except.bind]
  rfl

/-- The trail begins with the items of the loss cost and has no other of them. -/
theorem lossCost_initial {stages : Stages} (built : stages.Built ctx facts table breakdown) :
    ∃ rest, breakdown.lineItems = stages.pure.items ++ rest ∧
      (∀ item ∈ stages.pure.items, item.stage = "loss_cost") ∧ ∀ item ∈ rest, item.stage ≠ "loss_cost" := by
  obtain ⟨base, first, cost, load, adjustment, fee, tax, itemised⟩ := built.itemised
  refine ⟨load ++ adjustment ++ (fee ++ tax), ?_, itemised.pure ▸ itemised.costs, ?_⟩
  · rw [itemised.items, itemised.pure]
    simp only [List.append_assoc]
  · intro item member
    simp only [List.mem_append] at member
    have stage : item.stage = "technical" ∨ item.stage = "commercial" ∨ item.stage = "taxes" := by
      rcases member with (loaded | adjusted) | charged
      · exact .inl (itemised.loaded.named item loaded)
      · exact .inr (.inl (itemised.adjusted.named item adjusted))
      · exact .inr (.inr (itemised.charges item (List.mem_append.mpr charged)))
    rcases stage with named | named | named <;> rw [named] <;> decide

/-- For every table and all facts that are priced, the table without its loading
    stack prices the loss cost, and nothing else. -/
theorem loss_cost_undisturbed (priced : rate ctx facts table = .ok breakdown) :
    ∃ lossCost, rate ctx facts.neutral table.lossCostOnly = .ok lossCost ∧ LossCostOf breakdown lossCost := by
  obtain ⟨stages, built⟩ := rate_built priced
  obtain ⟨technical, commercial, charged, final⟩ := stages_neutral ctx facts table stages.pure
  have pure : lossCost ctx facts.neutral table.lossCostOnly stages.occupancyFactor = .ok stages.pure := built.pure
  have factor : table.lossCostOnly.occupancyFactors.lookup facts.neutral.occupancy = some stages.occupancyFactor :=
    built.factor
  have shown := built.purePremium
  have alone := rate_of_stages ⟨stages.occupancyFactor, stages.pure, stages.pure, stages.pure, stages.pure, stages.pure⟩
    factor pure shown technical shown commercial shown charged final shown
  obtain ⟨rest, items, cost, other⟩ := lossCost_initial built
  refine ⟨_, alone, ?_, ⟨rest, items.symm⟩, rfl, rfl, rfl, rfl, sub_self _⟩
  have kept : stages.pure.items.filter (fun item => item.stage = "loss_cost") = stages.pure.items :=
    List.filter_eq_self.mpr fun item member => decide_eq_true (cost item member)
  have dropped : rest.filter (fun item => item.stage = "loss_cost") = [] :=
    List.filter_eq_nil_iff.mpr fun item member => by simpa using other item member
  rw [items, List.filter_append, kept, dropped, List.append_nil]

/-- A shop with a sprinkler and a commercial discount. -/
def discountedShop : RatingFacts where
  tivEur := 600000000
  occupancy := Occupancy.retail.value
  flags := {"high_tiv", "sprinklered"}
  commercialAdjustment := .finite false 9 (-1)

theorem loss_cost_of_discounted : ∃ breakdown lossCost, rate .standard discountedShop (v2Spec 2) = .ok breakdown ∧
    breakdown.lineItems.map (·.runningSubtotalMinor) =
      [300000, 330000, 363000, 344850, 396578, 420372, 437187, 393468, 398468, 433880] ∧
    rate .standard discountedShop.neutral (v2Spec 2).lossCostOnly = .ok lossCost ∧ LossCostOf breakdown lossCost := by
  have shown : (rate .standard discountedShop (v2Spec 2)).map (·.lineItems.map (·.runningSubtotalMinor)) =
      .ok [300000, 330000, 363000, 344850, 396578, 420372, 437187, 393468, 398468, 433880] := by decide +kernel
  obtain ⟨breakdown, priced, same⟩ := map_ok shown
  obtain ⟨lossCost, alone, of⟩ := loss_cost_undisturbed priced
  exact ⟨breakdown, lossCost, priced, same, alone, of⟩

end Compatible

end Underwriting
