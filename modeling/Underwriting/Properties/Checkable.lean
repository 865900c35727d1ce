import Underwriting.Rating.Items
import Underwriting.Rating.Seeds

/-! # Each displayed amount can be checked from the one before it

With exact arithmetic the displayed amounts are independent roundings of one
running value, each within half a cent of it. So what an item prints and the
amount before it give the next amount up to the two half cents, the first of them
multiplied as the value is. Only the tax is not on the amount before it: it is on
the commercial premium.
-/

namespace Underwriting.Checkable

open Rating
open Decimal (Rounds nonneg_of_lt_false mul_spec add_spec toRat_ofInt)

variable {facts : RatingFacts} {table : RateTableSpec} {breakdown : QuoteBreakdown}

/-- The factors of all three stages. -/
inductive Factor (facts : RatingFacts) (table : RateTableSpec) : String → Decimal → Prop where
  | cost {stage factor} (named : stage = "loss_cost") (use : CostFactor facts table factor) :
      Factor facts table stage factor
  | load {stage factor} (named : stage = "technical") (use : LoadingFactor .exact table factor) :
      Factor facts table stage factor
  | adjustment {stage factor} (named : stage = "commercial") (use : BandFactor facts table factor) :
      Factor facts table stage factor

/-- The amount of an item, from what it prints and the amount before it. -/
inductive Checks (facts : RatingFacts) (table : RateTableSpec) (commercialPremiumMinor : ℤ) (prev item : LineItem) :
    Prop where
  | factor {factor} (use : Factor facts table item.stage factor) (value : item.value = "×" ++ factor.str)
      (near : |(item.runningSubtotalMinor : ℚ) - factor.toRat * prev.runningSubtotalMinor| ≤ (1 + factor.toRat) / 2)
  | fee (kind : item.kind = .str "fee") (value : item.value = "+" ++ toString table.fixedFeesMinor ++ " minor")
      (exactly : item.runningSubtotalMinor = prev.runningSubtotalMinor + table.fixedFeesMinor)
  | tax {percent} (kind : item.kind = .str "tax") (printed : table.iptRate.mul .exact (.ofInt 100) = .ok percent)
      (value : item.value = "+" ++ percent.str ++ "% of commercial premium")
      (near : |(item.runningSubtotalMinor : ℚ) - prev.runningSubtotalMinor -
        table.iptRate.toRat * commercialPremiumMinor| ≤ 1 + table.iptRate.toRat / 2)

/-- A finite decimal that is not negative. -/
structure Amount (d : Decimal) : Prop where
  finite : d.IsFinite
  nonneg : 0 ≤ d.toRat

theorem exact_keeps : DecimalContext.exact.Keeps := trivial

theorem exact_unit : DecimalContext.exact.round 1 = 1 := rfl

section Steps

variable {commercialPremiumMinor : ℤ} {before after factor : Decimal} {item : LineItem} {items added : List LineItem}

/-- Two half cents, the first of them scaled. -/
theorem near_product {x f : ℚ} (nonneg : 0 ≤ f) :
    |(Rounding.halfUp (x * f) : ℚ) - f * Rounding.halfUp x| ≤ (1 + f) / 2 := by
  have after := Rounding.abs_halfUp_sub_le (x * f)
  have before := Rounding.abs_halfUp_sub_le x
  rw [abs_le] at after before ⊢
  constructor <;> nlinarith

/-- Two half cents, and the half cent of the amount that is taxed. -/
theorem near_tax {x c r : ℚ} (nonneg : 0 ≤ r) :
    |(Rounding.halfUp (x + c * r) : ℚ) - Rounding.halfUp x - r * Rounding.halfUp c| ≤ 1 + r / 2 := by
  have after := Rounding.abs_halfUp_sub_le (x + c * r)
  have before := Rounding.abs_halfUp_sub_le x
  have taxed := Rounding.abs_halfUp_sub_le c
  rw [abs_le] at after before taxed ⊢
  constructor <;> nlinarith

theorem walk_times {used : Decimal → Prop} {stage : String}
    (factors : ∀ {factor : Decimal}, used factor → factor.IsFinite → 0 ≤ factor.toRat ∧ Factor facts table stage factor)
    (walk : Walk (Checks facts table commercialPremiumMinor) items before)
    (multiplied : Multiplied .exact stage used before added after) (amount : Amount before) :
    Walk (Checks facts table commercialPremiumMinor) (items ++ added) after ∧ Amount after := by
  apply walk.multiplied multiplied amount
  intro before after factor item amount use times
  obtain ⟨-, finite, rounds⟩ := times.rounds exact_keeps
  obtain ⟨nonneg, of⟩ := factors use finite
  have value : after.toRat = before.toRat * factor.toRat := rounds.value
  refine ⟨⟨rounds.settled.finite, value ▸ mul_nonneg amount.nonneg nonneg⟩, fun prev shown => ?_⟩
  refine .factor (times.named ▸ of) times.value ?_
  rw [(toMinor_value times.shown).2, value, shown]
  exact near_product nonneg

theorem walk_fee (walk : Walk (Checks facts table commercialPremiumMinor) items before)
    (fee : FeeItems .exact table before after added) (amount : Amount before) :
    Walk (Checks facts table commercialPremiumMinor) (items ++ added) after ∧ Amount after := by
  cases fee with
  | none free same =>
      rw [List.append_nil, same]
      exact ⟨walk, amount⟩
  | fee positive sum kind value named shown =>
      obtain ⟨-, -, rounds⟩ := add_spec exact_keeps sum (toMinor_value shown).1
      have sum : after.toRat = before.toRat + table.fixedFeesMinor := by
        rw [← toRat_ofInt]
        exact rounds.value
      have positive' : (0 : ℚ) ≤ table.fixedFeesMinor := by exact_mod_cast positive.le
      refine ⟨walk.append shown fun prev before_shown => .fee kind value ?_, rounds.settled.finite, ?_⟩
      · rw [(toMinor_value shown).2, sum, before_shown]
        exact Rounding.halfUp_add_int amount.nonneg positive.le
      · rw [sum]
        exact add_nonneg amount.nonneg positive'

theorem walk_tax {precise : Decimal} (premium : commercialPremiumMinor = Rounding.halfUp precise.toRat)
    (walk : Walk (Checks facts table commercialPremiumMinor) items before)
    (tax : TaxItems .exact table precise before after added) :
    Walk (Checks facts table commercialPremiumMinor) (items ++ added) after := by
  cases tax with
  | none free same =>
      rw [List.append_nil, same]
      exact walk
  | tax positive product sum printed kind value named shown =>
      obtain ⟨-, finite, rounds⟩ := add_spec exact_keeps sum (toMinor_value shown).1
      obtain ⟨-, finite', rounds'⟩ := mul_spec exact_keeps product finite
      have sum : after.toRat = before.toRat + precise.toRat * table.iptRate.toRat := by
        rw [← show _ = precise.toRat * table.iptRate.toRat from rounds'.value]
        exact rounds.value
      have rate : 0 < table.iptRate.toRat := by
        have above := positive.symm.trans (Decimal.lt_value trivial finite')
        rwa [Except.ok.injEq, eq_comm, decide_eq_true_iff, Decimal.toRat_zero] at above
      refine walk.append shown fun prev before_shown => .tax kind printed value ?_
      rw [(toMinor_value shown).2, sum, before_shown, premium]
      exact near_tax rate.le

theorem base_amount (nonnegative : Nonnegative table) (tiv : 0 ≤ facts.tivEur)
    (opened : BaseItem .exact facts table before item) : Amount before := by
  obtain ⟨permille, quotient, product⟩ := opened.product
  obtain ⟨finite, -, rounds⟩ := mul_spec exact_keeps product (toMinor_value opened.shown).1
  have rate : 0 ≤ permille.toRat :=
    Decimal.div_nonneg exact_keeps quotient finite (nonneg_of_lt_false nonnegative.base)
  refine ⟨rounds.settled.finite, ?_⟩
  rw [rounds.value, toRat_ofInt]
  exact mul_nonneg rate (by exact_mod_cast tiv)

end Steps

/-- In exact arithmetic and for every table without negative factors, each item of a
    price checks against the one before it. -/
theorem items_check (nonnegative : Nonnegative table) (tiv : 0 ≤ facts.tivEur)
    (priced : rate .exact facts table = .ok breakdown) :
    breakdown.lineItems.IsChain (Checks facts table breakdown.commercialPremiumMinor) := by
  obtain ⟨stages, built⟩ := rate_built priced
  obtain ⟨base, first, cost, load, adjustment, fee, tax, itemised⟩ := built.itemised
  have amount := base_amount nonnegative tiv itemised.opened
  obtain ⟨walk, amount⟩ := walk_times (fun use finite => ⟨use.nonneg nonnegative finite, .cost rfl use⟩)
    (Walk.first itemised.opened.shown) itemised.priced amount
  obtain ⟨walk, amount⟩ := walk_times
    (fun use finite => ⟨zero_le_one.trans (use.one_le exact_keeps exact_unit finite), .load rfl use⟩)
    walk itemised.loaded amount
  obtain ⟨walk, amount⟩ := walk_times (fun use finite => ⟨use.nonneg nonnegative finite, .adjustment rfl use⟩)
    walk itemised.adjusted amount
  obtain ⟨walk, -⟩ := walk_fee walk itemised.charged amount
  have walk := walk_tax (toMinor_value built.commercialPremium).2 walk itemised.taxed
  rw [itemised.items]
  exact walk.chain

/-- A shop with a sprinkler and a commercial discount. -/
def loadedShop : RatingFacts where
  tivEur := 600000123
  occupancy := Occupancy.retail.value
  flags := {"high_tiv", "sprinklered"}
  commercialAdjustment := .finite false 9 (-1)

theorem v2_nonnegative : Nonnegative (v2Spec 2) := ⟨by decide, by decide, by decide, by decide⟩

theorem items_check_v2 : ∃ breakdown, rate .exact loadedShop (v2Spec 2) = .ok breakdown ∧
    breakdown.lineItems.map (·.runningSubtotalMinor) =
      [300000, 330000, 363000, 344850, 396578, 420372, 437187, 393468, 398468, 433881] ∧
    breakdown.lineItems.IsChain (Checks loadedShop (v2Spec 2) breakdown.commercialPremiumMinor) := by
  have shown : (rate .exact loadedShop (v2Spec 2)).map (·.lineItems.map (·.runningSubtotalMinor)) =
      .ok [300000, 330000, 363000, 344850, 396578, 420372, 437187, 393468, 398468, 433881] := by decide +kernel
  obtain ⟨breakdown, priced, same⟩ := map_ok shown
  exact ⟨breakdown, priced, same, items_check v2_nonnegative (by decide) priced⟩

end Underwriting.Checkable
