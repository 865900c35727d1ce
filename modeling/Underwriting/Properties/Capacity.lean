import Underwriting.Properties.Band
import Underwriting.Rating.Ceilings
import Underwriting.Rating.Service

/-! # No risk overflows the pricing

Both seeded tables are affordable: their ceilings, computed for each occupancy, are
in the range of the column. So every risk that its column holds is priced, under
every adjustment in the band, and the quote fits its columns.
-/

namespace Underwriting.Capacity

open Rating RatingService

/-- The `BigInteger` columns of `quote`. -/
structure QuoteFits (row : NewQuote) : Prop where
  premium : Bigint row.premiumMinor
  pure : ∀ minor ∈ row.purePremiumMinor, Bigint minor
  technical : ∀ minor ∈ row.technicalPremiumMinor, Bigint minor
  commercial : ∀ minor ∈ row.commercialPremiumMinor, Bigint minor
  taxes : ∀ minor ∈ row.taxesMinor, Bigint minor

theorem bigint_of_inColumn {minor : ℤ} (inColumn : InColumn minor) : Bigint minor := by
  obtain ⟨nonneg, less⟩ := inColumn
  exact ⟨by omega, less⟩

theorem quoteFits_newQuote {breakdown : QuoteBreakdown} (inRange : InRange breakdown) (submission : Submission)
    (actor : String) : QuoteFits (newQuote submission breakdown actor) := by
  refine ⟨bigint_of_inColumn inRange.premium, ?_, ?_, ?_, ?_⟩
  · rintro _ ⟨⟩
    exact bigint_of_inColumn inRange.pure
  · rintro _ ⟨⟩
    exact bigint_of_inColumn inRange.technical
  · rintro _ ⟨⟩
    exact bigint_of_inColumn inRange.commercial
  · rintro _ ⟨⟩
    exact bigint_of_inColumn inRange.taxes

/-! ## The seeded tables -/

theorem seedFactors_nonneg : ∀ entry ∈ seedFactors, entry.2.IsFinite ∧ 0 ≤ entry.2.toRat := by
  decide +kernel

theorem seedAdjustments_nonneg : ∀ adj ∈ [highTivLoading, sprinkleredDiscount],
    adj.appliesWhen.hashable ∧ adj.factor.IsFinite ∧ 0 ≤ adj.factor.toRat := by
  decide +kernel

/-- Half a thousandth. -/
theorem seedRate : ∃ permille, (Decimal.finite false 5 (-1)).div .standard (.ofInt 1000) = .ok permille ∧
    permille.IsFinite ∧ 0 ≤ permille.toRat :=
  ⟨.finite false 5 (-4), by decide, by decide, by decide +kernel⟩

theorem affordable_v1 : Affordable (v1Spec 1) where
  base := seedRate
  occupancies := seedFactors_nonneg
  adjustments := seedAdjustments_nonneg
  loadings := by
    intro loading member
    simp only [RateTableSpec.loadings, v1Spec, List.mem_cons, List.not_mem_nil, or_false] at member
    rcases member with rfl | rfl | rfl <;> exact ⟨.one, by decide, by decide⟩
  minimum := ⟨by decide, by decide +kernel⟩
  maximum := by decide
  tax := ⟨by decide, .zero, by decide⟩
  limit := by decide +kernel

theorem affordable_v2 : Affordable (v2Spec 2) where
  base := seedRate
  occupancies := seedFactors_nonneg
  adjustments := seedAdjustments_nonneg
  loadings := by
    intro loading member
    simp only [RateTableSpec.loadings, v2Spec, List.mem_cons, List.not_mem_nil, or_false] at member
    rcases member with rfl | rfl | rfl
    · exact ⟨.finite false 115 (-2), by decide, by decide⟩
    · exact ⟨.finite false 106 (-2), by decide, by decide⟩
    · exact ⟨.finite false 104 (-2), by decide, by decide⟩
  minimum := ⟨by decide, by decide +kernel⟩
  maximum := by decide
  tax := ⟨by decide, .finite false 900 (-2), by decide⟩
  limit := by decide +kernel

/-- Under either seeded table, every risk in the range of its column is priced for every
    adjustment in the band, no amount leaves the range, and the quote fits its columns. -/
theorem storable_risk_priced {rules : Json} {version : ℤ} {table : RateTableSpec} {facts : RatingFacts}
    (seed : rules = v1Rules ∨ rules = v2Rules) (built : RateTableSpec.fromRules version rules = .ok table)
    (least : 1 ≤ facts.tivEur) (range : facts.tivEur ≤ 2 ^ 63 - 1) (known : Band.HasFactor facts table)
    (band : Band.InBand facts table) :
    ∃ breakdown, rate .standard facts table = .ok breakdown ∧ InRange breakdown ∧
      ∀ submission actor, QuoteFits (newQuote submission breakdown actor) := by
  have affordable : Affordable table := by
    rcases seed with rfl | rfl
    · obtain rfl := Except.ok.inj ((fromRules_v1 version).symm.trans built)
      exact affordable_v1.renumber version
    · obtain rfl := Except.ok.inj ((fromRules_v2 version).symm.trans built)
      exact affordable_v2.renumber version
  obtain ⟨occupancyFactor, found⟩ := Option.isSome_iff_exists.mp known
  obtain ⟨breakdown, priced, inRange⟩ := rate_affordable affordable (by omega) (by omega) found band.1 band.2
  exact ⟨breakdown, priced, inRange, quoteFits_newQuote inRange⟩

/-- The dearest risk that its column holds, with an adjustment of 28 digits. -/
def summit : RatingFacts where
  tivEur := 2 ^ 63 - 1
  occupancy := Occupancy.fireworksManufacturing.value
  flags := {"high_tiv"}
  commercialAdjustment := .finite false 1149999999999999999999999999 (-27)

theorem summit_priced : ∃ breakdown, rate .standard summit (v2Spec 2) = .ok breakdown ∧
    breakdown.premiumMinor = 24184385353051843 ∧ InRange breakdown ∧
    ∀ submission actor, QuoteFits (newQuote submission breakdown actor) := by
  have known : Band.HasFactor summit (v2Spec 2) := rfl
  have low : summit.commercialAdjustment.lt (v2Spec 2).commercialAdjustmentMin = .ok false := by decide
  have high : (v2Spec 2).commercialAdjustmentMax.lt summit.commercialAdjustment = .ok false := by decide
  obtain ⟨breakdown, priced, fits⟩ :=
    storable_risk_priced (.inr rfl) (fromRules_v2 2) (by decide) (by decide) known ⟨low, high⟩
  have shown : (rate .standard summit (v2Spec 2)).map (·.premiumMinor) = .ok 24184385353051843 := by decide +kernel
  rw [priced] at shown
  exact ⟨breakdown, priced, Except.ok.inj shown, fits⟩

end Underwriting.Capacity
