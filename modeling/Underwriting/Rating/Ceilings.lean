import Underwriting.Lib.Lists
import Underwriting.Rating.Exact

/-! # Ceilings

How high a subtotal can get, whatever is rounded on the way. A whole number of few
digits is its own rounding, so an amount that is exactly at most a ceiling is so
after rounding, and is shown as at most the ceiling. The ceiling of a rate table
is computed from its factors alone; where it is in the range of the column, every
risk in the range of the column is priced.
-/

namespace Underwriting.Rating

open Decimal

/-- Eurocents that a column holds. -/
def InColumn (minor : ℤ) : Prop := 0 ≤ minor ∧ minor < 2 ^ 63

/-- The decimal is from 0 up to the ceiling. -/
structure AtMost (ceiling : ℕ) (d : Decimal) : Prop where
  settled : d.Settled .standard
  nonneg : 0 ≤ d.toRat
  le : d.toRat ≤ ceiling

/-- The subtotal is at most the ceiling, and everything shown so far is in range. -/
structure Capped (ceiling : ℕ) (trail : Trail) : Prop where
  atMost : AtMost ceiling trail.subtotal
  items : ∀ item ∈ trail.items, InColumn item.runningSubtotalMinor

section Operations

variable {a b d : Decimal} {x : ℚ} {ceiling : ℕ} (limit : ceiling < 2 ^ 63)
include limit

theorem natCast_le_power : (ceiling : ℚ) ≤ 10 ^ 22 := by
  have upper : (ceiling : ℚ) < 2 ^ 63 := by exact_mod_cast limit
  exact upper.le.trans (by norm_num)

theorem round_natCast : DecimalContext.standard.round (ceiling : ℚ) = ceiling := by
  apply Rounding.round_eq_self (by decide) (by decide)
  refine ⟨ceiling, 0, ?_, by decide, by simp⟩
  have digits : (2 : ℤ) ^ 63 < (10 : ℕ) ^ 28 := by norm_num
  rw [Nat.abs_cast]
  exact lt_trans (by exact_mod_cast limit) digits

theorem AtMost.of_rounds (rounds : Rounds .standard x d) (nonneg : 0 ≤ x) (le : x ≤ ceiling) : AtMost ceiling d := by
  refine ⟨rounds.settled, ?_, ?_⟩
  · rw [rounds.value]
    exact DecimalContext.round_nonneg DecimalContext.standard_keeps nonneg
  · rw [rounds.value, ← round_natCast limit]
    exact DecimalContext.round_mono DecimalContext.standard_keeps le

theorem mul_atMost (finite : a.IsFinite) (finite' : b.IsFinite) (nonneg : 0 ≤ a.toRat * b.toRat)
    (le : a.toRat * b.toRat ≤ ceiling) : ∃ d, a.mul .standard b = .ok d ∧ AtMost ceiling d := by
  obtain ⟨d, product⟩ : ∃ d, a.mul .standard b = .ok d :=
    mul_exists (by decide : (-999999 : ℤ) < 999999) finite finite' (in_range nonneg (le.trans (natCast_le_power limit)))
  exact ⟨d, product, .of_rounds limit (mul_rounds DecimalContext.standard_keeps finite finite' product) nonneg le⟩

theorem add_atMost (finite : a.IsFinite) (finite' : b.IsFinite) (nonneg : 0 ≤ a.toRat + b.toRat)
    (le : a.toRat + b.toRat ≤ ceiling) : ∃ d, a.add .standard b = .ok d ∧ AtMost ceiling d := by
  obtain ⟨d, sum⟩ : ∃ d, a.add .standard b = .ok d :=
    add_exists (by decide : (-999999 : ℤ) < 999999) finite finite' (in_range nonneg (le.trans (natCast_le_power limit)))
  exact ⟨d, sum, .of_rounds limit (add_rounds DecimalContext.standard_keeps finite finite' sum) nonneg le⟩

/-- What is shown is in the range of the column. -/
theorem AtMost.shown (atMost : AtMost ceiling d) : ∃ minor, toMinor .standard d = .ok minor ∧ InColumn minor := by
  obtain ⟨minor, shown, value⟩ :=
    Rating.shown atMost.settled.finite atMost.nonneg (atMost.le.trans (natCast_le_power limit))
  refine ⟨minor, shown, value ▸ Rounding.halfUp_nonneg atMost.nonneg, ?_⟩
  have whole := Rounding.halfUp_le atMost.le atMost.nonneg
  omega

theorem AtMost.append (atMost : AtMost ceiling d) {trail : Trail} {before : ℕ} (capped : Capped before trail)
    (label kind : Json) (value stage : String) :
    ∃ next, trail.append .standard label kind value d stage = .ok next ∧ Capped ceiling next := by
  obtain ⟨minor, shown, inColumn⟩ := atMost.shown limit
  refine ⟨⟨d, trail.items ++ [⟨label, kind, value, minor, stage⟩]⟩, ?_, atMost, ?_⟩
  · simp only [Trail.append, shown]
    rfl
  · exact Lists.forall_mem_snoc capped.items inColumn

end Operations

/-- Nothing is shown at first. -/
theorem AtMost.start {d : Decimal} {ceiling : ℕ} (atMost : AtMost ceiling d) : Capped ceiling ⟨d, []⟩ :=
  ⟨atMost, fun _ member => absurd member List.not_mem_nil⟩

theorem Capped.mono {ceiling ceiling' : ℕ} {trail : Trail} (capped : Capped ceiling trail) (le : ceiling ≤ ceiling') :
    Capped ceiling' trail :=
  ⟨⟨capped.atMost.settled, capped.atMost.nonneg, capped.atMost.le.trans (by exact_mod_cast le)⟩, capped.items⟩

/-! ## Steps -/

/-- The ceiling after a step that may apply the factor. -/
def raise (ceiling : ℕ) (factor : ℚ) : ℕ := max ceiling ⌈ceiling * factor⌉₊

def raiseAll (ceiling : ℕ) (factors : List ℚ) : ℕ := factors.foldl raise ceiling

theorem le_raise (ceiling : ℕ) (factor : ℚ) : ceiling ≤ raise ceiling factor := le_max_left ..

theorem mul_le_raise (ceiling : ℕ) (factor : ℚ) : (ceiling : ℚ) * factor ≤ raise ceiling factor :=
  (Nat.le_ceil _).trans (by exact_mod_cast le_max_right ..)

theorem le_raiseAll (ceiling : ℕ) (factors : List ℚ) : ceiling ≤ raiseAll ceiling factors := by
  induction factors generalizing ceiling with
  | nil => exact le_refl _
  | cons factor rest ih => exact (le_raise ceiling factor).trans (ih _)

/-- If every step keeps to its ceiling, so do all of them. -/
theorem foldlM_capped {α : Type} {step : Trail → α → Except PyErr Trail} {factor : α → ℚ} {steps : List α}
    (each : ∀ a ∈ steps, ∀ {ceiling trail}, Capped ceiling trail → raise ceiling (factor a) < 2 ^ 63 →
      ∃ next, step trail a = .ok next ∧ Capped (raise ceiling (factor a)) next)
    {ceiling : ℕ} {trail : Trail} (capped : Capped ceiling trail)
    (limit : raiseAll ceiling (steps.map factor) < 2 ^ 63) :
    ∃ next, steps.foldlM step trail = .ok next ∧ Capped (raiseAll ceiling (steps.map factor)) next := by
  induction steps generalizing ceiling trail with
  | nil => exact ⟨trail, rfl, capped⟩
  | cons a rest ih =>
      have first : raise ceiling (factor a) < 2 ^ 63 := (le_raiseAll _ (rest.map factor)).trans_lt limit
      obtain ⟨mid, stepped, capped⟩ := each a List.mem_cons_self capped first
      obtain ⟨next, folded, capped⟩ := ih (fun a member => each a (List.mem_cons_of_mem _ member)) capped limit
      refine ⟨next, ?_, capped⟩
      rw [List.foldlM_cons, stepped]
      exact folded

theorem applies_hashable (flags : Finset String) {gate : Json} (hashable : gate.hashable) :
    ∃ applied, applies flags gate = .ok applied := by
  cases gate with
  | null | str => exact ⟨_, rfl⟩
  | arr | obj => cases hashable
  | bool | int | float => exact ⟨false, rfl⟩

/-- `1 + pct`, as the context rounds it. -/
def loadingFactor (pct : Decimal) : ℚ :=
  match Decimal.one.add .standard pct with
  | .ok factor => factor.toRat
  | .error _ => 1

section Steps

variable {ceiling ceiling' : ℕ} {trail : Trail} {facts : RatingFacts} {table : RateTableSpec}
  (capped : Capped ceiling trail)
include capped

/-- A factor that applies. -/
theorem Capped.times {factor : Decimal} (finite : factor.IsFinite) (nonneg : 0 ≤ factor.toRat)
    (le : ceiling * factor.toRat ≤ ceiling') (limit : ceiling' < 2 ^ 63) (label kind : Json) (value stage : String) :
    ∃ subtotal next, trail.subtotal.mul .standard factor = .ok subtotal ∧
      trail.append .standard label kind value subtotal stage = .ok next ∧ Capped ceiling' next := by
  have le' : trail.subtotal.toRat * factor.toRat ≤ ceiling' :=
    (mul_le_mul_of_nonneg_right capped.atMost.le nonneg).trans le
  obtain ⟨subtotal, product, atMost⟩ :=
    mul_atMost limit capped.atMost.settled.finite finite (mul_nonneg capped.atMost.nonneg nonneg) le'
  obtain ⟨next, appended, capped⟩ := atMost.append limit capped label kind value stage
  exact ⟨subtotal, next, product, appended, capped⟩

theorem adjust_capped {flags : Finset String} {adj : Adjustment} (hashable : adj.appliesWhen.hashable)
    (finite : adj.factor.IsFinite) (nonneg : 0 ≤ adj.factor.toRat) (limit : raise ceiling adj.factor.toRat < 2 ^ 63) :
    ∃ next, adjust .standard flags trail adj = .ok next ∧ Capped (raise ceiling adj.factor.toRat) next := by
  obtain ⟨applied, gate⟩ := applies_hashable flags hashable
  cases applied with
  | false =>
      refine ⟨trail, ?_, capped.mono (le_raise ..)⟩
      simp only [adjust, gate]
      rfl
  | true =>
      obtain ⟨subtotal, next, product, appended, capped⟩ :=
        capped.times finite nonneg (mul_le_raise ..) limit adj.name adj.kind ("×" ++ adj.factor.str) "loss_cost"
      refine ⟨next, ?_, capped⟩
      simp only [adjust, gate, product, signaled, Except.mapError, bind, Except.bind]
      exact appended

theorem load_capped {name : String} {pct factor : Decimal} (sum : Decimal.one.add .standard pct = .ok factor)
    (finite : factor.IsFinite) (limit : raise ceiling (loadingFactor pct) < 2 ^ 63) :
    ∃ next, load .standard trail (name, pct) = .ok next ∧ Capped (raise ceiling (loadingFactor pct)) next := by
  obtain ⟨-, finite', rounds⟩ := add_spec DecimalContext.standard_keeps sum finite
  have sign := lt_value finite_zero finite'
  rw [toRat_zero] at sign
  by_cases positive : 0 < pct.toRat
  · have same : loadingFactor pct = factor.toRat := by rw [loadingFactor, sum]
    have nonneg : 0 ≤ factor.toRat := by
      rw [rounds.value, toRat_one]
      exact DecimalContext.round_nonneg DecimalContext.standard_keeps (by linarith)
    obtain ⟨subtotal, next, product, appended, capped⟩ := capped.times finite nonneg (same ▸ mul_le_raise ..) limit
      name "loading" ("×" ++ factor.str) "technical"
    refine ⟨next, ?_, capped⟩
    simp only [load, sign, positive, decide_true, sum, product, signaled, Except.mapError, bind, Except.bind]
    exact appended
  · rw [decide_eq_false positive] at sign
    refine ⟨trail, ?_, capped.mono (le_raise ..)⟩
    simp only [load, sign]
    rfl

/-- An adjustment in the band is at most its upper end. -/
theorem commercial_capped (low : facts.commercialAdjustment.lt table.commercialAdjustmentMin = .ok false)
    (high : table.commercialAdjustmentMax.lt facts.commercialAdjustment = .ok false)
    (finite : table.commercialAdjustmentMin.IsFinite) (finite' : table.commercialAdjustmentMax.IsFinite)
    (nonneg : 0 ≤ table.commercialAdjustmentMin.toRat)
    (limit : raise ceiling table.commercialAdjustmentMax.toRat < 2 ^ 63) :
    ∃ next, commercial .standard facts table trail = .ok next ∧
      Capped (raise ceiling table.commercialAdjustmentMax.toRat) next := by
  have number := finite_of_between finite finite' low high
  have least := le_of_lt_false number finite low
  have most := le_of_lt_false finite' number high
  have one := eq_value number finite_one
  by_cases neutral : facts.commercialAdjustment.toRat = Decimal.one.toRat
  · rw [decide_eq_true neutral] at one
    exact ⟨trail, commercial_neutral one, capped.mono (le_raise ..)⟩
  · rw [decide_eq_false neutral] at one
    have le : ceiling * facts.commercialAdjustment.toRat ≤ raise ceiling table.commercialAdjustmentMax.toRat :=
      (mul_le_mul_of_nonneg_left most (Nat.cast_nonneg _)).trans (mul_le_raise ..)
    have discount := lt_value number finite_one
    obtain ⟨subtotal, next, product, appended, capped⟩ := capped.times number (nonneg.trans least) le limit
      "commercial_adjustment"
      (if decide (facts.commercialAdjustment.toRat < Decimal.one.toRat) then "discount" else "loading")
      ("×" ++ facts.commercialAdjustment.str) "commercial"
    refine ⟨next, ?_, capped⟩
    simp only [commercial, one, low, high, product, discount, signaled, Except.mapError, bind, Except.bind]
    exact appended

theorem fee_capped (limit : ceiling + table.fixedFeesMinor.toNat < 2 ^ 63) :
    ∃ next, fee .standard table trail = .ok next ∧ Capped (ceiling + table.fixedFeesMinor.toNat) next := by
  by_cases positive : table.fixedFeesMinor > 0
  · have amount : ((Decimal.ofInt table.fixedFeesMinor).toRat : ℚ) = table.fixedFeesMinor.toNat := by
      rw [toRat_ofInt]
      exact_mod_cast (Int.toNat_of_nonneg positive.le).symm
    have nonneg : 0 ≤ trail.subtotal.toRat + (Decimal.ofInt table.fixedFeesMinor).toRat := by
      rw [amount]
      exact add_nonneg capped.atMost.nonneg (Nat.cast_nonneg _)
    have le : trail.subtotal.toRat + (Decimal.ofInt table.fixedFeesMinor).toRat ≤
        (ceiling + table.fixedFeesMinor.toNat : ℕ) := by
      rw [amount, Nat.cast_add]
      exact add_le_add_left capped.atMost.le _
    obtain ⟨subtotal, sum, atMost⟩ := add_atMost limit capped.atMost.settled.finite (finite_ofInt _) nonneg le
    obtain ⟨next, appended, capped⟩ := atMost.append limit capped "policy_fee" "fee"
      ("+" ++ toString table.fixedFeesMinor ++ " minor") "taxes"
    refine ⟨next, ?_, capped⟩
    simp only [fee, positive, ↓reduceIte, sum, signaled, Except.mapError, bind, Except.bind]
    exact appended
  · refine ⟨trail, ?_, capped.mono (Nat.le_add_right ..)⟩
    simp only [fee, positive, ↓reduceIte]
    rfl

theorem ipt_capped {precise percent : Decimal} {base : ℕ} (atMost : AtMost base precise)
    (finite : table.iptRate.IsFinite) (printed : table.iptRate.mul .standard (.ofInt 100) = .ok percent)
    (limit : ceiling + ⌈base * table.iptRate.toRat⌉₊ < 2 ^ 63) :
    ∃ next, ipt .standard table precise trail = .ok next ∧ Capped (ceiling + ⌈base * table.iptRate.toRat⌉₊) next := by
  have sign := lt_value finite_zero finite
  rw [toRat_zero] at sign
  by_cases positive : 0 < table.iptRate.toRat
  · have le : precise.toRat * table.iptRate.toRat ≤ ⌈base * table.iptRate.toRat⌉₊ :=
      (mul_le_mul_of_nonneg_right atMost.le positive.le).trans (Nat.le_ceil _)
    obtain ⟨tax, product, levied⟩ := mul_atMost ((Nat.le_add_left ..).trans_lt limit) atMost.settled.finite finite
      (mul_nonneg atMost.nonneg positive.le) le
    have le' : trail.subtotal.toRat + tax.toRat ≤ (ceiling + ⌈base * table.iptRate.toRat⌉₊ : ℕ) := by
      rw [Nat.cast_add]
      exact add_le_add capped.atMost.le levied.le
    obtain ⟨subtotal, sum, atMost⟩ := add_atMost limit capped.atMost.settled.finite levied.settled.finite
      (add_nonneg capped.atMost.nonneg levied.nonneg) le'
    obtain ⟨next, appended, capped⟩ := atMost.append limit capped "ipt" "tax"
      ("+" ++ percent.str ++ "% of commercial premium") "taxes"
    rw [decide_eq_true positive] at sign
    refine ⟨next, ?_, capped⟩
    simp only [ipt, sign, product, sum, printed, signaled, Except.mapError, bind, Except.bind]
    exact appended
  · rw [decide_eq_false positive] at sign
    refine ⟨trail, ?_, capped.mono (Nat.le_add_right ..)⟩
    simp only [ipt, sign]
    rfl

end Steps

/-! ## Tables -/

namespace RateTableSpec

/-- The base rate for one eurocent, as the context rounds it. -/
def permille (table : RateTableSpec) : ℚ :=
  match table.baseRatePermille.div .standard (.ofInt 1000) with
  | .ok permille => permille.toRat
  | .error _ => 0

variable (table : RateTableSpec) (occupancyFactor : Decimal)

def pureCeiling : ℕ :=
  raiseAll (raise ⌈table.permille * 2 ^ 63⌉₊ occupancyFactor.toRat) (table.adjustments.map (·.factor.toRat))

/-- The loading stack, in the order in which it is applied. -/
def loadings : List (String × Decimal) :=
  [("expense_loading", table.expenseLoading), ("risk_margin", table.riskMargin), ("cat_provision", table.catProvision)]

def technicalCeiling : ℕ :=
  raiseAll (table.pureCeiling occupancyFactor) (table.loadings.map fun loading => loadingFactor loading.2)

def commercialCeiling : ℕ := raise (table.technicalCeiling occupancyFactor) table.commercialAdjustmentMax.toRat

def chargedCeiling : ℕ := table.commercialCeiling occupancyFactor + table.fixedFeesMinor.toNat

/-- No subtotal of a risk in the range of the column is above this. -/
def ceiling : ℕ :=
  table.chargedCeiling occupancyFactor + ⌈table.commercialCeiling occupancyFactor * table.iptRate.toRat⌉₊

end RateTableSpec

/-- The table is made of numbers, no factor of it is negative, and what it adds and
    multiplies keeps to the range of the column. -/
structure Affordable (table : RateTableSpec) : Prop where
  base : ∃ permille, table.baseRatePermille.div .standard (.ofInt 1000) = .ok permille ∧ permille.IsFinite ∧
    0 ≤ permille.toRat
  occupancies : ∀ entry ∈ table.occupancyFactors, entry.2.IsFinite ∧ 0 ≤ entry.2.toRat
  adjustments : ∀ adj ∈ table.adjustments, adj.appliesWhen.hashable ∧ adj.factor.IsFinite ∧ 0 ≤ adj.factor.toRat
  loadings : ∀ loading ∈ table.loadings, ∃ factor, Decimal.one.add .standard loading.2 = .ok factor ∧ factor.IsFinite
  minimum : table.commercialAdjustmentMin.IsFinite ∧ 0 ≤ table.commercialAdjustmentMin.toRat
  maximum : table.commercialAdjustmentMax.IsFinite
  tax : table.iptRate.IsFinite ∧ ∃ percent, table.iptRate.mul .standard (.ofInt 100) = .ok percent
  limit : ∀ entry ∈ table.occupancyFactors, table.ceiling entry.2 < 2 ^ 63

/-- The number of the version does not matter. -/
theorem Affordable.renumber {table : RateTableSpec} (affordable : Affordable table) (version : ℤ) :
    Affordable { table with version } where
  base := affordable.base
  occupancies := affordable.occupancies
  adjustments := affordable.adjustments
  loadings := affordable.loadings
  minimum := affordable.minimum
  maximum := affordable.maximum
  tax := affordable.tax
  limit := affordable.limit

/-- Every amount of the price is in the range of the column. -/
structure InRange (breakdown : QuoteBreakdown) : Prop where
  pure : InColumn breakdown.purePremiumMinor
  technical : InColumn breakdown.technicalPremiumMinor
  commercial : InColumn breakdown.commercialPremiumMinor
  premium : InColumn breakdown.premiumMinor
  taxes : InColumn breakdown.taxesMinor
  items : ∀ item ∈ breakdown.lineItems, InColumn item.runningSubtotalMinor

section Tables

variable {facts : RatingFacts} {table : RateTableSpec} {occupancyFactor : Decimal} (affordable : Affordable table)
include affordable

theorem adjustments_capped (flags : Finset String) {ceiling : ℕ} {trail : Trail} (capped : Capped ceiling trail)
    (limit : raiseAll ceiling (table.adjustments.map (·.factor.toRat)) < 2 ^ 63) :
    ∃ next, table.adjustments.foldlM (adjust .standard flags) trail = .ok next ∧
      Capped (raiseAll ceiling (table.adjustments.map (·.factor.toRat))) next := by
  refine foldlM_capped ?_ capped limit
  intro adj member ceiling trail capped limit
  obtain ⟨hashable, finite, nonneg⟩ := affordable.adjustments adj member
  exact adjust_capped capped hashable finite nonneg limit

theorem lossCost_capped (member : (facts.occupancy, occupancyFactor) ∈ table.occupancyFactors)
    (nonneg : 0 ≤ facts.tivEur) (range : facts.tivEur < 2 ^ 63)
    (limit : table.pureCeiling occupancyFactor < 2 ^ 63) :
    ∃ next, lossCost .standard facts table occupancyFactor = .ok next ∧
      Capped (table.pureCeiling occupancyFactor) next := by
  obtain ⟨permille, quotient, finite, permille_nonneg⟩ := affordable.base
  obtain ⟨finite', factor_nonneg⟩ := affordable.occupancies _ member
  have same : table.permille = permille.toRat := by rw [RateTableSpec.permille, quotient]
  have occupied := (le_raiseAll _ (table.adjustments.map (·.factor.toRat))).trans_lt limit
  have opened := (le_raise _ occupancyFactor.toRat).trans_lt occupied
  have insured : (0 : ℚ) ≤ facts.tivEur := by exact_mod_cast nonneg
  have base_nonneg : 0 ≤ permille.toRat * (Decimal.ofInt facts.tivEur).toRat := by
    rw [toRat_ofInt]
    exact mul_nonneg permille_nonneg insured
  have base_le : permille.toRat * (Decimal.ofInt facts.tivEur).toRat ≤ ⌈table.permille * 2 ^ 63⌉₊ := by
    have upper : (facts.tivEur : ℚ) ≤ 2 ^ 63 := by exact_mod_cast range.le
    rw [toRat_ofInt, same]
    exact (mul_le_mul_of_nonneg_left upper permille_nonneg).trans (Nat.le_ceil _)
  obtain ⟨base, product, atMost⟩ := mul_atMost opened finite (finite_ofInt _) base_nonneg base_le
  obtain ⟨trail, appended, capped⟩ := atMost.append opened atMost.start "base_rate" "base"
    (table.baseRatePermille.str ++ "‰ of TIV") "loss_cost"
  obtain ⟨subtotal, trail', product', appended', capped⟩ := capped.times finite' factor_nonneg (mul_le_raise ..)
    occupied ("occupancy_factor:" ++ facts.occupancy) "factor" ("×" ++ occupancyFactor.str) "loss_cost"
  obtain ⟨next, adjusted, capped⟩ := adjustments_capped affordable facts.flags capped limit
  refine ⟨next, ?_, capped⟩
  simp only [lossCost, quotient, product, product', appended, appended', signaled, Except.mapError, bind, Except.bind]
  exact adjusted

theorem technical_capped {trail : Trail} (capped : Capped (table.pureCeiling occupancyFactor) trail)
    (limit : table.technicalCeiling occupancyFactor < 2 ^ 63) :
    ∃ next, technical .standard table trail = .ok next ∧ Capped (table.technicalCeiling occupancyFactor) next := by
  change ∃ next, table.loadings.foldlM (load .standard) trail = .ok next ∧ _
  refine foldlM_capped ?_ capped limit
  intro loading member ceiling trail capped limit
  obtain ⟨factor, sum, finite⟩ := affordable.loadings loading member
  exact load_capped capped sum finite limit

theorem charges_capped {trail : Trail} (capped : Capped (table.commercialCeiling occupancyFactor) trail)
    (limit : table.ceiling occupancyFactor < 2 ^ 63) :
    ∃ charged final, fee .standard table trail = .ok charged ∧
      ipt .standard table trail.subtotal charged = .ok final ∧ Capped (table.ceiling occupancyFactor) final := by
  obtain ⟨finite, percent, printed⟩ := affordable.tax
  obtain ⟨charged, fees, capped'⟩ := fee_capped capped ((Nat.le_add_right ..).trans_lt limit)
  obtain ⟨final, taxed, capped'⟩ := ipt_capped capped' capped.atMost finite printed limit
  exact ⟨charged, final, fees, taxed, capped'⟩

theorem ceilings_limited {occupancy : String} (member : (occupancy, occupancyFactor) ∈ table.occupancyFactors) :
    table.pureCeiling occupancyFactor < 2 ^ 63 ∧ table.technicalCeiling occupancyFactor < 2 ^ 63 ∧
      table.commercialCeiling occupancyFactor < 2 ^ 63 ∧ table.ceiling occupancyFactor < 2 ^ 63 := by
  have limit := affordable.limit _ member
  have commercial : table.commercialCeiling occupancyFactor < 2 ^ 63 :=
    ((Nat.le_add_right ..).trans (Nat.le_add_right ..)).trans_lt limit
  have technical : table.technicalCeiling occupancyFactor < 2 ^ 63 := (le_raise ..).trans_lt commercial
  exact ⟨(le_raiseAll ..).trans_lt technical, technical, commercial, limit⟩

/-- An affordable table prices every risk in the range of the column, for every
    adjustment in its band, and no amount leaves that range. -/
theorem rate_affordable (nonneg : 0 ≤ facts.tivEur) (range : facts.tivEur < 2 ^ 63)
    (found : table.occupancyFactors.lookup facts.occupancy = some occupancyFactor)
    (low : facts.commercialAdjustment.lt table.commercialAdjustmentMin = .ok false)
    (high : table.commercialAdjustmentMax.lt facts.commercialAdjustment = .ok false) :
    ∃ breakdown, rate .standard facts table = .ok breakdown ∧ InRange breakdown := by
  have member := lookup_mem found
  obtain ⟨limit₁, limit₂, limit₃, limit⟩ := ceilings_limited affordable member
  obtain ⟨pure, priced₁, capped₁⟩ := lossCost_capped affordable member nonneg range limit₁
  obtain ⟨technical, priced₂, capped₂⟩ := technical_capped affordable capped₁ limit₂
  obtain ⟨commercial, priced₃, capped₃⟩ := commercial_capped capped₂ low high affordable.minimum.1 affordable.maximum
    affordable.minimum.2 limit₃
  obtain ⟨charged, final, priced₄, priced₅, capped₄⟩ := charges_capped affordable capped₃ limit
  obtain ⟨pureMinor, shown₁, inColumn₁⟩ := capped₁.atMost.shown limit₁
  obtain ⟨technicalMinor, shown₂, inColumn₂⟩ := capped₂.atMost.shown limit₂
  obtain ⟨commercialMinor, shown₃, inColumn₃⟩ := capped₃.atMost.shown limit₃
  obtain ⟨premiumMinor, shown₄, inColumn₄⟩ := capped₄.atMost.shown limit
  have raised := toMinor_mono shown₃ shown₄
    (charges_raise DecimalContext.standard_keeps capped₃.atMost.settled capped₃.atMost.nonneg priced₄ priced₅)
  refine ⟨_, rate_of_stages ⟨occupancyFactor, pure, technical, commercial, charged, final⟩ found priced₁ shown₁ priced₂
    shown₂ priced₃ shown₃ priced₄ priced₅ shown₄, inColumn₁, inColumn₂, inColumn₃, inColumn₄, ?_, capped₄.items⟩
  have least := inColumn₃.1
  have most := inColumn₄.2
  constructor <;> simp only <;> omega

end Tables

end Underwriting.Rating
