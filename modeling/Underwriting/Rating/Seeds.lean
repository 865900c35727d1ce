import Underwriting.Rating.Engine

/-! # The seeded rate tables

The payloads of the two seeded versions, read into typed values.
-/

namespace Underwriting.Rating

/-- The occupancy factors of both versions. -/
def seedFactors : List (String × Decimal) := [
  (Occupancy.office.value, .finite false 10 (-1)), (Occupancy.retail.value, .finite false 11 (-1)),
  (Occupancy.warehouse.value, .finite false 125 (-2)), (Occupancy.lightManufacturing.value, .finite false 15 (-1)),
  (Occupancy.fireworksManufacturing.value, .finite false 30 (-1))]

def highTivLoading : Adjustment :=
  ⟨"high_tiv_loading", "loading", .finite false 110 (-2), "high_tiv"⟩

def sprinkleredDiscount : Adjustment :=
  ⟨"sprinklered_discount", "discount", .finite false 95 (-2), "sprinklered"⟩

def v1Spec (version : ℤ) : RateTableSpec where
  version
  baseRatePermille := .finite false 5 (-1)
  occupancyFactors := seedFactors
  adjustments := [highTivLoading, sprinkleredDiscount]

def v2Spec (version : ℤ) : RateTableSpec where
  version
  baseRatePermille := .finite false 5 (-1)
  occupancyFactors := seedFactors
  adjustments := [highTivLoading, sprinkleredDiscount]
  expenseLoading := .finite false 15 (-2)
  riskMargin := .finite false 6 (-2)
  catProvision := .finite false 4 (-2)
  commercialAdjustmentMin := .finite false 85 (-2)
  commercialAdjustmentMax := .finite false 115 (-2)
  iptRate := .finite false 9 (-2)
  fixedFeesMinor := 5000

theorem fromRules_v1 (version : ℤ) : RateTableSpec.fromRules version v1Rules = .ok (v1Spec version) := by
  rfl

theorem fromRules_v2 (version : ℤ) : RateTableSpec.fromRules version v2Rules = .ok (v2Spec version) := by
  rfl

end Underwriting.Rating
