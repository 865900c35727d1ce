import Underwriting.Rating.Exact
import Underwriting.Rating.Seeds
import Underwriting.Rating.Service

/-! # Rounded once, to the exact cent

The exact amounts of the stages, as rational numbers, against what the default
context makes of them under the seeded rate tables. Every operation but the last
sum is exact over the whole range of insured values. The last sum keeps 28
digits, and a premium that falls short of half a cent by no more than half a unit
of its last digit is rounded up to it, and then up again.
-/

namespace Underwriting.Cents

open Rating RatingService
open Decimal (Rounds toRat_ofInt)

/-! ## The exact amounts -/

/-- The factors of the adjustments that apply. -/
def applicable (facts : RatingFacts) (table : RateTableSpec) : List ℚ :=
  (table.adjustments.filter fun adj => applies facts.flags adj.appliesWhen = .ok true).map (·.factor.toRat)

def exactPure (facts : RatingFacts) (table : RateTableSpec) (occupancyFactor : Decimal) : ℚ :=
  table.baseRatePermille.toRat / 1000 * facts.tivEur * occupancyFactor.toRat * (applicable facts table).prod

def exactTechnical (facts : RatingFacts) (table : RateTableSpec) (occupancyFactor : Decimal) : ℚ :=
  exactPure facts table occupancyFactor * (1 + table.expenseLoading.toRat) * (1 + table.riskMargin.toRat) *
    (1 + table.catProvision.toRat)

/-- The neutral adjustment leaves the technical amount. -/
def exactCommercial : RatingFacts → RateTableSpec → Decimal → ℚ := exactTechnical

def exactPremium (facts : RatingFacts) (table : RateTableSpec) (occupancyFactor : Decimal) : ℚ :=
  exactCommercial facts table occupancyFactor + table.fixedFeesMinor +
    table.iptRate.toRat * exactCommercial facts table occupancyFactor

/-- Every reported premium is the exact amount of its stage, rounded half-up. -/
structure RoundedOnce (facts : RatingFacts) (table : RateTableSpec) (occupancyFactor : Decimal)
    (breakdown : QuoteBreakdown) : Prop where
  pure : breakdown.purePremiumMinor = Rounding.halfUp (exactPure facts table occupancyFactor)
  technical : breakdown.technicalPremiumMinor = Rounding.halfUp (exactTechnical facts table occupancyFactor)
  commercial : breakdown.commercialPremiumMinor = Rounding.halfUp (exactCommercial facts table occupancyFactor)
  premium : breakdown.premiumMinor = Rounding.halfUp (exactPremium facts table occupancyFactor)

/-- The unit of the last of 28 digits. -/
def ulp (x : ℚ) : ℚ := 10 ^ (Int.log 10 |x| + 1 - 28)

/-- The number is below half a cent, by no more than half a unit of its last digit. -/
def FallsShort (x : ℚ) : Prop := ∃ n : ℤ, (n : ℚ) + 1 / 2 - ulp x / 2 ≤ x ∧ x < n + 1 / 2

/-! ## The seeded tables -/

/-- What both versions share. -/
structure Seeded (table : RateTableSpec) : Prop where
  base : table.baseRatePermille = .finite false 5 (-1)
  factors : table.occupancyFactors = seedFactors
  adjustments : table.adjustments = [highTivLoading, sprinkleredDiscount]

/-- The occupancy factors in hundredths. -/
def occupancyPcts : List ℕ := [100, 110, 125, 150, 300]

theorem seedFactors_pct {occupancy : String} {factor : Decimal}
    (found : seedFactors.lookup occupancy = some factor) :
    factor.IsFinite ∧ ∃ n ∈ occupancyPcts, factor.toRat = n / 100 := by
  have member := lookup_mem found
  simp only [seedFactors, List.mem_cons, List.not_mem_nil, or_false, Prod.mk.injEq] at member
  rcases member with ⟨-, rfl⟩ | ⟨-, rfl⟩ | ⟨-, rfl⟩ | ⟨-, rfl⟩ | ⟨-, rfl⟩
  · exact ⟨trivial, 100, by decide, by norm_num [Decimal.toRat, Decimal.sign]⟩
  · exact ⟨trivial, 110, by decide, by norm_num [Decimal.toRat, Decimal.sign]⟩
  · exact ⟨trivial, 125, by decide, by norm_num [Decimal.toRat, Decimal.sign]⟩
  · exact ⟨trivial, 150, by decide, by norm_num [Decimal.toRat, Decimal.sign]⟩
  · exact ⟨trivial, 300, by decide, by norm_num [Decimal.toRat, Decimal.sign]⟩

def highPct (flags : Finset String) : ℕ := if "high_tiv" ∈ flags then 110 else 100

def sprinkleredPct (flags : Finset String) : ℕ := if "sprinklered" ∈ flags then 95 else 100

/-- Every subtotal up to the tax fits, whichever steps are left out. -/
theorem fits_seeds : ∀ n ∈ occupancyPcts, Fits (5 * n) 6 ∧ ∀ h ∈ [110, 100], Fits (5 * n * h) 8 ∧
    ∀ s ∈ [95, 100], Fits (5 * n * h * s) 10 ∧ Fits (5 * n * h * s * 115) 12 ∧
      Fits (5 * n * h * s * 115 * 106) 14 ∧ Fits (5 * n * h * s * 115 * 106 * 104) 16 ∧
      Fits (5 * n * h * s * 115 * 106 * 104 * 9) 18 := by
  decide +kernel

theorem highPct_mem (flags : Finset String) : highPct flags ∈ [110, 100] := by
  simp only [highPct]
  split <;> decide

theorem sprinkleredPct_mem (flags : Finset String) : sprinkleredPct flags ∈ [95, 100] := by
  simp only [sprinkleredPct]
  split <;> decide

section Pricing

variable {facts : RatingFacts} {table : RateTableSpec} {factor : Decimal} {n : ℕ}

/-- The pure premium per unit of insured value, in units of the tenth decimal. -/
def pureCoefficient (n : ℕ) (flags : Finset String) : ℕ := 5 * n * highPct flags * sprinkleredPct flags

theorem exactPure_seeded (seeded : Seeded table) (value : factor.toRat = n / 100) :
    exactPure facts table factor = facts.tivEur * pureCoefficient n facts.flags / 10 ^ 10 := by
  have high : applies facts.flags highTivLoading.appliesWhen = .ok (decide ("high_tiv" ∈ facts.flags)) := rfl
  have sprinklered : applies facts.flags sprinkleredDiscount.appliesWhen =
      .ok (decide ("sprinklered" ∈ facts.flags)) := rfl
  have loading : highTivLoading.factor.toRat = 110 / 100 := by
    norm_num [highTivLoading, Decimal.toRat, Decimal.sign]
  have discount : sprinkleredDiscount.factor.toRat = 95 / 100 := by
    norm_num [sprinkleredDiscount, Decimal.toRat, Decimal.sign]
  have base : table.baseRatePermille.toRat = 5 / 10 := by
    norm_num [seeded.base, Decimal.toRat, Decimal.sign]
  simp only [exactPure, applicable, seeded.adjustments, List.filter_cons, List.filter_nil, high, sprinklered,
    Except.ok.injEq, decide_eq_true_eq, base, value, pureCoefficient, highPct, sprinkleredPct]
  split_ifs <;>
    simp only [List.map_cons, List.map_nil, List.prod_cons, List.prod_nil, loading, discount] <;> push_cast <;> ring

section Steps

variable {tivEur : ℤ} {p q : ℕ} {trail : Trail} (flags : Finset String) (insurable : Insurable tivEur)
  (amount : Amount tivEur p q trail.subtotal)
include insurable amount

theorem highTivLoading_exact (fits : Fits (p * 110) (q + 2)) :
    ∃ next, adjust .standard flags trail highTivLoading = .ok next ∧
      Amount tivEur (p * highPct flags) (q + 2) next.subtotal := by
  have gate : applies flags highTivLoading.appliesWhen = .ok (decide ("high_tiv" ∈ flags)) := rfl
  have factor : highTivLoading.factor.toRat = (110 : ℕ) / 100 := by
    norm_num [highTivLoading, Decimal.toRat, Decimal.sign]
  have adjusted := adjust_exact gate trivial factor fits insurable amount
  simpa only [highPct, decide_eq_true_eq] using adjusted

theorem sprinkleredDiscount_exact (fits : Fits (p * 95) (q + 2)) :
    ∃ next, adjust .standard flags trail sprinkleredDiscount = .ok next ∧
      Amount tivEur (p * sprinkleredPct flags) (q + 2) next.subtotal := by
  have gate : applies flags sprinkleredDiscount.appliesWhen = .ok (decide ("sprinklered" ∈ flags)) := rfl
  have factor : sprinkleredDiscount.factor.toRat = (95 : ℕ) / 100 := by
    norm_num [sprinkleredDiscount, Decimal.toRat, Decimal.sign]
  have adjusted := adjust_exact gate trivial factor fits insurable amount
  simpa only [sprinkleredPct, decide_eq_true_eq] using adjusted

end Steps

/-- The base premium is half a thousandth of the insured value. -/
theorem base_exact {tivEur : ℤ} (insurable : Insurable tivEur) :
    ∃ d, Decimal.mul .standard (.finite false 5 (-4)) (.ofInt tivEur) = .ok d ∧ Amount tivEur 5 4 d := by
  have finite : Decimal.IsFinite (.finite false 5 (-4)) := trivial
  have finite' : (Decimal.ofInt tivEur).IsFinite := trivial
  refine Amount.of_product finite finite' ?_ (by decide +kernel) insurable
  rw [toRat_ofInt]
  norm_num [Decimal.toRat, Decimal.sign]
  ring

theorem lossCost_seeded (seeded : Seeded table) (insurable : Insurable facts.tivEur) (finite : factor.IsFinite)
    (member : n ∈ occupancyPcts) (value : factor.toRat = n / 100) :
    ∃ next, lossCost .standard facts table factor = .ok next ∧
      Amount facts.tivEur (pureCoefficient n facts.flags) 10 next.subtotal := by
  obtain ⟨fits, fits'⟩ := fits_seeds n member
  obtain ⟨fitsHigh, fits''⟩ := fits' (highPct facts.flags) (highPct_mem _)
  have permille : (Decimal.finite false 5 (-1)).div .standard (.ofInt 1000) = .ok (.finite false 5 (-4)) := by decide
  obtain ⟨base, product, amount⟩ := base_exact insurable
  obtain ⟨trail, appended, amount⟩ := amount.append (by decide +kernel) insurable ⟨base, []⟩ "base_rate" "base"
    (table.baseRatePermille.str ++ "‰ of TIV") "loss_cost"
  obtain ⟨occupied, product', amount⟩ := amount.mul finite value fits insurable
  obtain ⟨trail', appended', amount⟩ := amount.append fits insurable trail ("occupancy_factor:" ++ facts.occupancy)
    "factor" ("×" ++ factor.str) "loss_cost"
  obtain ⟨loaded, adjusted, amount⟩ := highTivLoading_exact facts.flags insurable amount (fits' 110 (by decide)).1
  obtain ⟨next, adjusted', amount⟩ := sprinkleredDiscount_exact facts.flags insurable amount (fits'' 95 (by decide)).1
  refine ⟨next, ?_, amount⟩
  simp only [lossCost, seeded.base, seeded.adjustments, permille, product, signaled, Except.mapError, bind, Except.bind,
    seeded.base ▸ appended, product', appended', List.foldlM_cons, List.foldlM_nil, adjusted, adjusted']
  rfl

/-! ## Version 2 -/

theorem hundredths (n : ℕ) : Decimal.toRat (.finite false n (-2)) = n / 100 := by
  norm_num [Decimal.toRat, Decimal.sign, div_eq_mul_inv]

theorem loading_exact {tivEur : ℤ} {p q : ℕ} {trail : Trail} (name : String) (pct n : ℕ)
    (positive : Decimal.zero.lt (.finite false pct (-2)) = .ok true)
    (sum : Decimal.one.add .standard (.finite false pct (-2)) = .ok (.finite false n (-2)))
    (fits : Fits (p * n) (q + 2)) (insurable : Insurable tivEur) (amount : Amount tivEur p q trail.subtotal) :
    ∃ next, load .standard trail (name, .finite false pct (-2)) = .ok next ∧
      Amount tivEur (p * n) (q + 2) next.subtotal :=
  load_exact positive sum trivial (hundredths n) fits insurable amount

/-- The technical premium of version 2, in units of the sixteenth decimal. -/
def technicalCoefficient (n : ℕ) (flags : Finset String) : ℕ := pureCoefficient n flags * 115 * 106 * 104

theorem fits_technical (member : n ∈ occupancyPcts) (flags : Finset String) :
    Fits (technicalCoefficient n flags) 16 ∧ Fits (technicalCoefficient n flags * 9) 18 := by
  obtain ⟨-, fits⟩ := (fits_seeds n member).2 (highPct flags) (highPct_mem _)
  obtain ⟨-, -, -, fits, fits'⟩ := fits (sprinkleredPct flags) (sprinkleredPct_mem _)
  exact ⟨fits, fits'⟩

theorem technical_v2 (version : ℤ) (insurable : Insurable facts.tivEur) (member : n ∈ occupancyPcts) {trail : Trail}
    (amount : Amount facts.tivEur (pureCoefficient n facts.flags) 10 trail.subtotal) :
    ∃ next, technical .standard (v2Spec version) trail = .ok next ∧
      Amount facts.tivEur (technicalCoefficient n facts.flags) 16 next.subtotal := by
  obtain ⟨-, fits⟩ := (fits_seeds n member).2 (highPct facts.flags) (highPct_mem _)
  obtain ⟨-, fits₁, fits₂, fits₃, -⟩ := fits (sprinkleredPct facts.flags) (sprinkleredPct_mem _)
  obtain ⟨_, loaded₁, amount₁⟩ :=
    loading_exact "expense_loading" 15 115 (by decide) (by decide) fits₁ insurable amount
  obtain ⟨_, loaded₂, amount₂⟩ := loading_exact "risk_margin" 6 106 (by decide) (by decide) fits₂ insurable amount₁
  obtain ⟨next, loaded₃, amount₃⟩ :=
    loading_exact "cat_provision" 4 104 (by decide) (by decide) fits₃ insurable amount₂
  refine ⟨next, ?_, amount₃⟩
  simp only [technical, v2Spec, List.foldlM_cons, List.foldlM_nil, loaded₁, loaded₂, loaded₃, bind, Except.bind]
  rfl

/-- The fee is added exactly, and the tax after it with one rounding. -/
theorem charges_v2 (version : ℤ) {tivEur : ℤ} {p : ℕ} {trail : Trail} (insurable : Insurable tivEur)
    (amount : Amount tivEur p 16 trail.subtotal) (fits : Fits p 16) (fits' : Fits (p * 9) 18) :
    ∃ charged final, fee .standard (v2Spec version) trail = .ok charged ∧
      ipt .standard (v2Spec version) trail.subtotal charged = .ok final ∧
      Rounds .standard (trail.amount + 5000 + 9 / 100 * trail.amount) final.subtotal := by
  have nonneg : 0 ≤ trail.amount := by
    rw [Trail.amount, amount.value]
    exact insurable.nonneg p 16
  have le : trail.amount ≤ 10 ^ 20 := by
    rw [Trail.amount, amount.value]
    exact fits.le insurable
  have finite : (Decimal.ofInt 5000).IsFinite := trivial
  have fees : (Decimal.ofInt 5000).toRat = 5000 := by norm_num
  obtain ⟨sum, charged, added, appended, rounds⟩ := add_exact amount.finite finite
    (add_nonneg nonneg (by norm_num)) (by rw [fees]; exact (add_le_add_left le 5000).trans (by norm_num))
    trail "policy_fee" "fee" ("+" ++ toString (5000 : ℤ) ++ " minor") "taxes"
  have whole : charged.subtotal.toRat = trail.amount + 5000 := by
    have few : 5000 * 10 ^ 16 < 10 ^ 20 := by norm_num
    have digits := Rounding.round_eq_self (by decide) (by decide) (fits.digits_add insurable few)
    rw [rounds.value, fees, Trail.amount, amount.value]
    exact_mod_cast digits
  have nine : (Decimal.finite false 9 (-2)).IsFinite := trivial
  obtain ⟨tax, product, taxed⟩ := amount.mul nine (hundredths 9) fits' insurable
  have tax_value : tax.toRat = 9 / 100 * trail.amount := by
    rw [taxed.value, Trail.amount, amount.value]
    push_cast
    ring
  have nonneg' : 0 ≤ charged.subtotal.toRat + tax.toRat := by
    rw [whole, tax_value]
    linarith
  have le' : charged.subtotal.toRat + tax.toRat ≤ 10 ^ 22 := by
    rw [whole, tax_value]
    linarith
  have percent : (Decimal.finite false 9 (-2)).mul .standard (.ofInt 100) = .ok (.finite false 900 (-2)) := by decide
  obtain ⟨sum', final, added', appended', rounds'⟩ := add_exact rounds.settled.finite taxed.finite nonneg' le'
    charged "ipt" "tax" ("+" ++ (Decimal.finite false 900 (-2)).str ++ "% of commercial premium") "taxes"
  rw [whole, tax_value] at rounds'
  refine ⟨charged, final, ?_, ?_, rounds'⟩
  · simp only [fee, v2Spec, signaled, added, Except.mapError, bind, Except.bind]
    exact appended
  · have positive : Decimal.zero.lt (.finite false 9 (-2)) = .ok true := by decide
    simp only [ipt, v2Spec, positive, signaled, product, added', percent, Except.mapError, bind, Except.bind]
    exact appended'

/-! ## The reported premiums -/

/-- The subtotal is this number, and small enough to be shown. -/
structure Holds (trail : Trail) (x : ℚ) : Prop where
  finite : trail.subtotal.IsFinite
  value : trail.amount = x
  rounded : DecimalContext.standard.round x = x
  nonneg : 0 ≤ x
  le : x ≤ 10 ^ 20

namespace Holds

theorem of_amount {tivEur : ℤ} {p q : ℕ} {trail : Trail} {x : ℚ} (amount : Amount tivEur p q trail.subtotal)
    (fits : Fits p q) (insurable : Insurable tivEur) (same : x = tivEur * p / 10 ^ q) : Holds trail x where
  finite := amount.finite
  value := amount.value.trans same.symm
  rounded := same ▸ fits.rounded insurable
  nonneg := same ▸ insurable.nonneg p q
  le := same ▸ fits.le insurable

theorem rounds {trail : Trail} {x : ℚ} (holds : Holds trail x) : Rounds .standard x trail.subtotal := by
  have value : trail.subtotal.toRat = x := holds.value
  refine ⟨⟨holds.finite, ?_⟩, ?_⟩
  · rw [value, holds.rounded]
  · rw [value, holds.rounded]

theorem shown {trail : Trail} {x : ℚ} (holds : Holds trail x) :
    ∃ minor, toMinor .standard trail.subtotal = .ok minor ∧ minor = Rounding.halfUp x := by
  have value : trail.subtotal.toRat = x := holds.value
  have nonneg := holds.nonneg
  have le := holds.le.trans (by norm_num : (10 : ℚ) ^ 20 ≤ 10 ^ 22)
  rw [← value] at nonneg le ⊢
  exact Rating.shown holds.finite nonneg le

end Holds

/-- What a pricing reports of its stages, when the last of them rounds. -/
theorem rate_shows {pure technical charged final : Trail} {x y z : ℚ}
    (neutral : facts.commercialAdjustment.eq .one = .ok true)
    (found : table.occupancyFactors.lookup facts.occupancy = some factor)
    (priced₁ : lossCost .standard facts table factor = .ok pure)
    (priced₂ : Rating.technical .standard table pure = .ok technical)
    (priced₃ : fee .standard table technical = .ok charged)
    (priced₄ : ipt .standard table technical.subtotal charged = .ok final)
    (holds₁ : Holds pure x) (holds₂ : Holds technical y) (rounds : Rounds .standard z final.subtotal)
    (nonneg : 0 ≤ z) (le : z ≤ 10 ^ 22) :
    ∃ breakdown, rate .standard facts table = .ok breakdown ∧
      breakdown.purePremiumMinor = Rounding.halfUp x ∧ breakdown.technicalPremiumMinor = Rounding.halfUp y ∧
      breakdown.commercialPremiumMinor = Rounding.halfUp y ∧
      breakdown.premiumMinor = Rounding.halfUp (DecimalContext.standard.round z) := by
  obtain ⟨_, shown₁, pure_value⟩ := holds₁.shown
  obtain ⟨_, shown₂, technical_value⟩ := holds₂.shown
  have rounded := DecimalContext.round_nonneg DecimalContext.standard_keeps nonneg
  have rounded' := round_le le
  rw [← rounds.value] at rounded rounded'
  obtain ⟨_, shown₃, premium_value⟩ := shown rounds.settled.finite rounded rounded'
  rw [rounds.value] at premium_value
  have adjusted : commercial .standard facts table technical = .ok technical := commercial_neutral neutral
  have priced := rate_of_stages ⟨factor, pure, technical, technical, charged, final⟩ found priced₁ shown₁
    priced₂ shown₂ adjusted shown₂ priced₃ priced₄ shown₃
  exact ⟨_, priced, pure_value, technical_value, technical_value, premium_value⟩

/-- The stages are exact, and the premium is the exact one rounded to the context. -/
structure Shown (facts : RatingFacts) (table : RateTableSpec) (factor : Decimal) (breakdown : QuoteBreakdown) :
    Prop where
  pure : breakdown.purePremiumMinor = Rounding.halfUp (exactPure facts table factor)
  technical : breakdown.technicalPremiumMinor = Rounding.halfUp (exactTechnical facts table factor)
  commercial : breakdown.commercialPremiumMinor = Rounding.halfUp (exactCommercial facts table factor)
  premium : breakdown.premiumMinor = Rounding.halfUp (DecimalContext.standard.round (exactPremium facts table factor))
  positive : 1 / 10 ^ 10 ≤ exactPremium facts table factor
  bounded : exactPremium facts table factor ≤ 10 ^ 21

theorem fits_pure (member : n ∈ occupancyPcts) (flags : Finset String) : Fits (pureCoefficient n flags) 10 := by
  obtain ⟨-, fits⟩ := (fits_seeds n member).2 (highPct flags) (highPct_mem _)
  exact (fits (sprinkleredPct flags) (sprinkleredPct_mem _)).1

theorem pureCoefficient_pos (member : n ∈ occupancyPcts) (flags : Finset String) : 1 ≤ pureCoefficient n flags := by
  have positive : ∀ n ∈ occupancyPcts, ∀ h ∈ [110, 100], ∀ s ∈ [95, 100], 1 ≤ 5 * n * h * s := by decide
  exact positive n member _ (highPct_mem flags) _ (sprinkleredPct_mem flags)

theorem exactPremium_v1 (version : ℤ) (facts : RatingFacts) (factor : Decimal) :
    exactPremium facts (v1Spec version) factor = exactPure facts (v1Spec version) factor := by
  simp [exactPremium, exactCommercial, exactTechnical, v1Spec]

theorem exactTechnical_v1 (version : ℤ) (facts : RatingFacts) (factor : Decimal) :
    exactTechnical facts (v1Spec version) factor = exactPure facts (v1Spec version) factor := by
  simp [exactTechnical, v1Spec]

theorem exactTechnical_v2 (version : ℤ) (value : factor.toRat = n / 100) :
    exactTechnical facts (v2Spec version) factor =
      facts.tivEur * technicalCoefficient n facts.flags / 10 ^ 16 := by
  have seeded : Seeded (v2Spec version) := ⟨rfl, rfl, rfl⟩
  rw [exactTechnical, exactPure_seeded seeded value, technicalCoefficient]
  simp only [v2Spec, hundredths]
  push_cast
  ring

theorem exactPremium_v2 (version : ℤ) (facts : RatingFacts) (factor : Decimal) :
    exactPremium facts (v2Spec version) factor = exactTechnical facts (v2Spec version) factor + 5000 +
      9 / 100 * exactTechnical facts (v2Spec version) factor := by
  simp only [exactPremium, exactCommercial, v2Spec, hundredths]
  norm_num

variable (version : ℤ) (neutral : facts.commercialAdjustment.eq .one = .ok true)
  (insurable : Insurable facts.tivEur) (found : seedFactors.lookup facts.occupancy = some factor)
include neutral insurable found

theorem rate_v1 : ∃ breakdown, rate .standard facts (v1Spec version) = .ok breakdown ∧
    Shown facts (v1Spec version) factor breakdown := by
  obtain ⟨finite, n, member, value⟩ := seedFactors_pct found
  have seeded : Seeded (v1Spec version) := ⟨rfl, rfl, rfl⟩
  have same : exactPure facts (v1Spec version) factor = _ := exactPure_seeded seeded value
  obtain ⟨pure, priced, amount⟩ := lossCost_seeded seeded insurable finite member value
  have holds := Holds.of_amount amount (fits_pure member facts.flags) insurable same
  obtain ⟨breakdown, rated, shown₁, shown₂, shown₃, shown₄⟩ :=
    rate_shows neutral found priced rfl rfl rfl holds holds holds.rounds holds.nonneg (holds.le.trans (by norm_num))
  refine ⟨breakdown, rated, shown₁, ?_, ?_, ?_, ?_, ?_⟩
  · rwa [exactTechnical_v1]
  · rwa [exactCommercial, exactTechnical_v1]
  · rwa [exactPremium_v1]
  · have tiv : (1 : ℚ) ≤ facts.tivEur := by exact_mod_cast insurable.positive
    have coefficient : (1 : ℚ) ≤ pureCoefficient n facts.flags := by exact_mod_cast pureCoefficient_pos member _
    rw [exactPremium_v1, same]
    gcongr
    nlinarith
  · rw [exactPremium_v1]
    exact holds.le.trans (by norm_num)

theorem rate_v2 : ∃ breakdown, rate .standard facts (v2Spec version) = .ok breakdown ∧
    Shown facts (v2Spec version) factor breakdown := by
  obtain ⟨finite, n, member, value⟩ := seedFactors_pct found
  have seeded : Seeded (v2Spec version) := ⟨rfl, rfl, rfl⟩
  have same : exactPure facts (v2Spec version) factor = _ := exactPure_seeded seeded value
  have same' : exactTechnical facts (v2Spec version) factor = _ := exactTechnical_v2 version value
  obtain ⟨fits, fits'⟩ := fits_technical member facts.flags
  obtain ⟨pure, priced, amount⟩ := lossCost_seeded seeded insurable finite member value
  obtain ⟨technical, priced', amount'⟩ := technical_v2 version insurable member amount
  obtain ⟨charged, final, priced₃, priced₄, rounds⟩ := charges_v2 version insurable amount' fits fits'
  have holds := Holds.of_amount amount (fits_pure member facts.flags) insurable same
  have holds' := Holds.of_amount amount' fits insurable same'
  rw [holds'.value, ← exactPremium_v2] at rounds
  have premium := exactPremium_v2 version facts factor
  have nonneg := holds'.nonneg
  have le := holds'.le
  obtain ⟨breakdown, rated, shown₁, shown₂, shown₃, shown₄⟩ :=
    rate_shows neutral found priced priced' priced₃ priced₄ holds holds' rounds (by linarith) (by linarith)
  exact ⟨breakdown, rated, shown₁, shown₂, shown₃, shown₄, by linarith, by linarith⟩

end Pricing

/-- Within the range of premiums the last digit kept is far behind the point. -/
theorem lastDigit_premium {x : ℚ} (positive : 1 / 10 ^ 10 ≤ x) (bounded : x ≤ 10 ^ 21) :
    Rounding.lastDigit 10 28 (-999999 - (28 : ℕ) + 1) x = Int.log 10 |x| + 1 - 28 ∧
      Int.log 10 |x| + 1 - 28 ≤ -2 := by
  have above : 0 < x := lt_of_lt_of_le (by norm_num) positive
  have lower : (-10 : ℤ) ≤ Int.log 10 x := by
    rw [← Int.zpow_le_iff_le_log (by decide) above]
    exact le_trans (by norm_num) positive
  have upper : Int.log 10 x < 22 := by
    rw [← Int.lt_zpow_iff_log_lt (by decide) above]
    exact lt_of_le_of_lt bounded (by norm_num)
  rw [abs_of_pos above, Rounding.lastDigit, abs_of_pos above]
  push_cast
  constructor <;> omega

/-- A seeded pricing rounds once exactly if its premium does not fall short of half a cent. -/
theorem rounded_once_iff {rules : Json} {version : ℤ} {table : RateTableSpec} {submission : Submission}
    {factor : Decimal} (seed : rules = v1Rules ∨ rules = v2Rules)
    (built : RateTableSpec.fromRules version rules = .ok table)
    (least : 1 ≤ submission.tivEur) (range : submission.tivEur ≤ 2 ^ 63 - 1)
    (found : table.occupancyFactors.lookup submission.occupancy = some factor) :
    (∃ breakdown, rate .standard (factsOf submission) table = .ok breakdown ∧
      RoundedOnce (factsOf submission) table factor breakdown) ↔
    ¬ FallsShort (exactPremium (factsOf submission) table factor) := by
  have insurable : Insurable (factsOf submission).tivEur := ⟨least, by change submission.tivEur < _; omega⟩
  have neutral := factsOf_neutral submission
  obtain ⟨breakdown, priced, shown⟩ : ∃ breakdown, rate .standard (factsOf submission) table = .ok breakdown ∧
      Shown (factsOf submission) table factor breakdown := by
    rcases seed with rfl | rfl
    · obtain rfl := Except.ok.inj ((fromRules_v1 version).symm.trans built)
      exact rate_v1 version neutral insurable found
    · obtain rfl := Except.ok.inj ((fromRules_v2 version).symm.trans built)
      exact rate_v2 version neutral insurable found
  obtain ⟨last, fine⟩ := lastDigit_premium shown.positive shown.bounded
  have nonneg : 0 ≤ exactPremium (factsOf submission) table factor := le_trans (by norm_num) shown.positive
  have twice := Decimal.halfUp_round_eq_iff (by decide) nonneg last fine
  refine Iff.trans ?_ twice
  constructor
  · rintro ⟨other, priced', once⟩
    obtain rfl := Except.ok.inj (priced.symm.trans priced')
    exact shown.premium.symm.trans once.premium
  · intro same
    exact ⟨breakdown, priced, shown.pure, shown.technical, shown.commercial, shown.premium.trans same⟩

/-- A premium that keeps a hundredth of a cent's distance below each half cent. -/
theorem not_fallsShort {x : ℚ} (positive : 1 / 10 ^ 10 ≤ x) (bounded : x ≤ 10 ^ 21)
    (clear : ∀ n : ℤ, x < n + 1 / 2 → x < n + 1 / 2 - 1 / 100) : ¬ FallsShort x := by
  rintro ⟨n, near, below⟩
  have fine : ulp x ≤ 10 ^ (-2 : ℤ) := zpow_le_zpow_right₀ (by norm_num) (lastDigit_premium positive bounded).2
  have far := clear n below
  norm_num at fine
  linarith

/-- A sprinklered shop near the end of the column's range. -/
def vault : Submission where
  counterpartyId := "c"
  lineOfBusiness := LineOfBusiness.commercialProperty.value
  tivEur := 9223369844162282487
  occupancy := Occupancy.retail.value
  country := "FR"
  postcode := "75001"
  requestedCover := "fire, sprinklers"
  brokerRef := none
  id := "s"
  time := 0

/-- An office of a hundred thousand euros. -/
def suite : Submission where
  counterpartyId := "c"
  lineOfBusiness := LineOfBusiness.commercialProperty.value
  tivEur := 10000000
  occupancy := Occupancy.office.value
  country := "FR"
  postcode := "75001"
  requestedCover := "fire"
  brokerRef := none
  id := "s"
  time := 0

theorem exactPremium_suite : exactPremium (factsOf suite) (v2Spec 2) (.finite false 10 (-1)) = 11909292 / 10 ^ 3 := by
  have value : Decimal.toRat (.finite false 10 (-1)) = (100 : ℕ) / 100 := by
    norm_num [Decimal.toRat, Decimal.sign]
  have coefficient : technicalCoefficient 100 (factsOf suite).flags = 6338800000000 := by decide +kernel
  rw [exactPremium_v2, exactTechnical_v2 2 value, coefficient]
  norm_num [factsOf, suite]

theorem suite_clear : ¬ FallsShort (exactPremium (factsOf suite) (v2Spec 2) (.finite false 10 (-1))) := by
  rw [exactPremium_suite]
  refine not_fallsShort (by norm_num) (by norm_num) fun n below => ?_
  have above : 11908 < n := by exact_mod_cast (by linarith : (11908 : ℚ) < n)
  have least : (11909 : ℚ) ≤ n := by exact_mod_cast above
  linarith

/-- The suite is priced to the cent; the vault is, if and only if its premium does not fall short. -/
theorem vault_rounded_once_iff :
    (∃ breakdown, rate .standard (factsOf suite) (v2Spec 2) = .ok breakdown ∧
      RoundedOnce (factsOf suite) (v2Spec 2) (.finite false 10 (-1)) breakdown) ∧
    ((∃ breakdown, rate .standard (factsOf vault) (v2Spec 2) = .ok breakdown ∧
      RoundedOnce (factsOf vault) (v2Spec 2) (.finite false 11 (-1)) breakdown) ↔
    ¬ FallsShort (exactPremium (factsOf vault) (v2Spec 2) (.finite false 11 (-1)))) :=
  ⟨(rounded_once_iff (.inr rfl) (fromRules_v2 2) (by decide) (by decide) rfl).mpr suite_clear,
    rounded_once_iff (.inr rfl) (fromRules_v2 2) (by decide) (by decide) rfl⟩

theorem exactPremium_vault : exactPremium (factsOf vault) (v2Spec 2) (.finite false 11 (-1)) =
    73254135321219804999999999998 / 10 ^ 13 := by
  have value : Decimal.toRat (.finite false 11 (-1)) = (110 : ℕ) / 100 := by
    norm_num [Decimal.toRat, Decimal.sign]
  have coefficient : technicalCoefficient 110 (factsOf vault).flags = 7286450600000 := by decide +kernel
  rw [exactPremium_v2, exactTechnical_v2 2 value, coefficient]
  norm_num [factsOf, vault]

/-- The last of its 28 digits is rounded up to half a cent, and the half cent up. -/
theorem vault_rounded_twice : ¬ ∃ breakdown, rate .standard (factsOf vault) (v2Spec 2) = .ok breakdown ∧
    RoundedOnce (factsOf vault) (v2Spec 2) (.finite false 11 (-1)) breakdown := by
  rintro ⟨breakdown, priced, once⟩
  have shown : (rate .standard (factsOf vault) (v2Spec 2)).map (·.premiumMinor) = .ok 7325413532121981 := by
    decide +kernel
  rw [priced] at shown
  have premium : breakdown.premiumMinor = 7325413532121981 := Except.ok.inj shown
  have rounded := once.premium
  rw [premium, exactPremium_vault] at rounded
  norm_num [Rounding.halfUp] at rounded

end Underwriting.Cents
