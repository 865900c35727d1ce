import Underwriting.Rating.Items
import Underwriting.Rating.Seeds

/-! # The order of the stages

Without negative factors no amount is negative. A loading is at least one and a
charge is at least zero, so the subtotals of the technical stage and of the taxes
never fall, and rounding keeps the order of the amounts at the boundaries. What
the table says of loadings, tax and fee does not matter, for a negative one is
skipped.
-/

namespace Underwriting.StageOrder

open Rating
open Decimal (Rounds le_of_lt_false nonneg_of_lt_false mul_spec add_spec toRat_ofInt toRat_one)

variable {ctx : DecimalContext} {facts : RatingFacts} {table : RateTableSpec} {breakdown : QuoteBreakdown}

/-- Inside a stage that only adds, the next subtotal is no less. -/
def Rises (prev item : LineItem) : Prop :=
  item.stage = "technical" ∨ item.stage = "taxes" → prev.runningSubtotalMinor ≤ item.runningSubtotalMinor

/-- The amounts of a price are in order. -/
structure Ordered (facts : RatingFacts) (breakdown : QuoteBreakdown) : Prop where
  pure : 0 ≤ breakdown.purePremiumMinor
  technical : breakdown.purePremiumMinor ≤ breakdown.technicalPremiumMinor
  discount : Decimal.one.lt facts.commercialAdjustment = .ok false →
    breakdown.commercialPremiumMinor ≤ breakdown.technicalPremiumMinor
  loading : facts.commercialAdjustment.lt .one = .ok false →
    breakdown.technicalPremiumMinor ≤ breakdown.commercialPremiumMinor
  premium : breakdown.commercialPremiumMinor ≤ breakdown.premiumMinor
  taxes : 0 ≤ breakdown.taxesMinor
  rising : breakdown.lineItems.IsChain Rises

/-- A number of the context that is at least another. -/
structure AtLeast (ctx : DecimalContext) (least : ℚ) (d : Decimal) : Prop where
  settled : d.Settled ctx
  le : least ≤ d.toRat

section Steps

variable {least : ℚ} {before after factor : Decimal} {item : LineItem} {items added : List LineItem}

theorem shown_mono {prev : LineItem} (le : before.toRat ≤ after.toRat)
    (shown : toMinor ctx after = .ok item.runningSubtotalMinor)
    (before_shown : prev.runningSubtotalMinor = Rounding.halfUp before.toRat) :
    prev.runningSubtotalMinor ≤ item.runningSubtotalMinor := by
  rw [before_shown, (toMinor_value shown).2]
  exact Rounding.halfUp_mono le

variable (keeps : ctx.Keeps)
include keeps

/-- A settled number is its own rounding, so what is exactly more stays no less. -/
theorem AtLeast.rounds {x : ℚ} (atLeast : AtLeast ctx least before) (more : before.toRat ≤ x)
    (rounds : Rounds ctx x after) : before.toRat ≤ after.toRat ∧ AtLeast ctx least after := by
  have raised := Rounds.le_of_settled keeps atLeast.settled more rounds
  exact ⟨raised, rounds.settled, atLeast.le.trans raised⟩

theorem nonneg_times {stage : String} (nonneg : AtLeast ctx 0 before) (factor_nonneg : 0 ≤ factor.toRat)
    (times : Times ctx stage before after factor item) : AtLeast ctx 0 after := by
  obtain ⟨-, -, rounds⟩ := times.rounds keeps
  refine ⟨rounds.settled, ?_⟩
  rw [rounds.value]
  exact DecimalContext.round_nonneg keeps (mul_nonneg nonneg.le factor_nonneg)

/-- Multiplications by factors that are not negative, in a stage that may fall. -/
theorem walk_nonneg {used : Decimal → Prop} {stage : String} (falls : stage ≠ "technical" ∧ stage ≠ "taxes")
    (factors : ∀ {factor : Decimal}, used factor → factor.IsFinite → 0 ≤ factor.toRat)
    (walk : Walk Rises items before) (multiplied : Multiplied ctx stage used before added after)
    (nonneg : AtLeast ctx 0 before) : Walk Rises (items ++ added) after ∧ AtLeast ctx 0 after := by
  apply walk.multiplied multiplied nonneg
  intro before after factor item nonneg use times
  have finite := (times.rounds keeps).2.1
  refine ⟨nonneg_times keeps nonneg (factors use finite) times, fun prev _ => ?_⟩
  rintro (named | named)
  · exact absurd (times.named.symm.trans named) falls.1
  · exact absurd (times.named.symm.trans named) falls.2

/-- Loadings never lower the subtotal. -/
theorem walk_loaded (unit : ctx.round 1 = 1) (walk : Walk Rises items before)
    (multiplied : Multiplied ctx "technical" (LoadingFactor ctx table) before added after) (least_nonneg : 0 ≤ least)
    (atLeast : AtLeast ctx least before) : Walk Rises (items ++ added) after ∧ AtLeast ctx least after := by
  apply walk.multiplied multiplied atLeast
  intro before after factor item atLeast use times
  obtain ⟨-, finite, rounds⟩ := times.rounds keeps
  have raised : before.toRat ≤ before.toRat * factor.toRat :=
    le_mul_of_one_le_right (least_nonneg.trans atLeast.le) (use.one_le keeps unit finite)
  obtain ⟨le, atLeast'⟩ := atLeast.rounds keeps raised rounds
  exact ⟨atLeast', fun prev before_shown _ => shown_mono le times.shown before_shown⟩

theorem walk_fee (walk : Walk Rises items before) (fee : FeeItems ctx table before after added)
    (atLeast : AtLeast ctx least before) : Walk Rises (items ++ added) after ∧ AtLeast ctx least after := by
  cases fee with
  | none free same =>
      rw [List.append_nil, same]
      exact ⟨walk, atLeast⟩
  | fee positive sum kind value named shown =>
      obtain ⟨-, -, rounds⟩ := add_spec keeps sum (toMinor_value shown).1
      rw [toRat_ofInt] at rounds
      have positive' : (0 : ℚ) < table.fixedFeesMinor := by exact_mod_cast positive
      obtain ⟨le, atLeast'⟩ := atLeast.rounds keeps (by linarith) rounds
      exact ⟨walk.append shown fun prev before_shown _ => shown_mono le shown before_shown, atLeast'⟩

theorem walk_tax {precise : Decimal} (nonneg : 0 ≤ precise.toRat) (walk : Walk Rises items before)
    (tax : TaxItems ctx table precise before after added) (atLeast : AtLeast ctx least before) :
    Walk Rises (items ++ added) after ∧ AtLeast ctx least after := by
  cases tax with
  | none free same =>
      rw [List.append_nil, same]
      exact ⟨walk, atLeast⟩
  | tax positive product sum printed kind value named shown =>
      obtain ⟨-, finite, rounds⟩ := add_spec keeps sum (toMinor_value shown).1
      obtain ⟨-, finite', rounds'⟩ := mul_spec keeps product finite
      have rate : 0 ≤ table.iptRate.toRat := by
        have above := positive.symm.trans (Decimal.lt_value trivial finite')
        rw [Except.ok.injEq, eq_comm, decide_eq_true_iff, Decimal.toRat_zero] at above
        exact above.le
      have tax_nonneg := DecimalContext.round_nonneg keeps (mul_nonneg nonneg rate)
      rw [← rounds'.value] at tax_nonneg
      obtain ⟨le, atLeast'⟩ := atLeast.rounds keeps (by linarith) rounds
      exact ⟨walk.append shown fun prev before_shown _ => shown_mono le shown before_shown, atLeast'⟩

theorem base_nonneg (nonnegative : Nonnegative table) (tiv : 0 ≤ facts.tivEur)
    (opened : BaseItem ctx facts table before item) : AtLeast ctx 0 before := by
  obtain ⟨permille, quotient, product⟩ := opened.product
  obtain ⟨finite, -, rounds⟩ := mul_spec keeps product (toMinor_value opened.shown).1
  have rate : 0 ≤ permille.toRat := Decimal.div_nonneg keeps quotient finite (nonneg_of_lt_false nonnegative.base)
  refine ⟨rounds.settled, ?_⟩
  rw [rounds.value, toRat_ofInt]
  exact DecimalContext.round_nonneg keeps (mul_nonneg rate (by exact_mod_cast tiv))

/-- The commercial amount is on the side of the technical one that the adjustment says. -/
theorem commercial_side {trail next : Trail} (nonneg : AtLeast ctx 0 trail.subtotal)
    (adjusted : commercial ctx facts table trail = .ok next) :
    (Decimal.one.lt facts.commercialAdjustment = .ok false → next.amount ≤ trail.amount) ∧
      (facts.commercialAdjustment.lt .one = .ok false → trail.amount ≤ next.amount) := by
  rcases commercial_amount keeps adjusted with ⟨-, rfl⟩ | ⟨-, -, finite, rounds⟩
  · exact ⟨fun _ => le_refl _, fun _ => le_refl _⟩
  · have rounded : ctx.round trail.amount = trail.amount := nonneg.settled.rounded
    have next_amount : next.amount = ctx.round (trail.amount * facts.commercialAdjustment.toRat) := rounds.value
    have unit : Decimal.one.IsFinite := trivial
    constructor
    · intro discount
      have factor := le_of_lt_false unit finite discount
      rw [toRat_one] at factor
      have lowered : trail.amount * facts.commercialAdjustment.toRat ≤ trail.amount :=
        mul_le_of_le_one_right nonneg.le factor
      have mono := DecimalContext.round_mono keeps lowered
      rwa [rounded, ← next_amount] at mono
    · intro loading
      have factor := le_of_lt_false finite unit loading
      rw [toRat_one] at factor
      have raised : trail.amount ≤ trail.amount * facts.commercialAdjustment.toRat :=
        le_mul_of_one_le_right nonneg.le factor
      have mono := DecimalContext.round_mono keeps raised
      rwa [rounded, ← next_amount] at mono

end Steps

theorem standard_unit : DecimalContext.standard.round 1 = 1 :=
  Rounding.round_eq_self (by decide) (by decide) ⟨1, 0, by decide, by decide, by norm_num⟩

/-- For every table without negative factors, whatever its loadings, tax and fee, the
    amounts of a price are in order. -/
theorem stages_ordered (nonnegative : Nonnegative table) (tiv : 0 ≤ facts.tivEur)
    (priced : rate .standard facts table = .ok breakdown) : Ordered facts breakdown := by
  have keeps := DecimalContext.standard_keeps
  obtain ⟨stages, built⟩ := rate_built priced
  obtain ⟨base, first, cost, load, adjustment, fee, tax, itemised⟩ := built.itemised
  have base_nonneg := base_nonneg keeps nonnegative tiv itemised.opened
  obtain ⟨walk, pure⟩ := walk_nonneg keeps (by decide) (CostFactor.nonneg nonnegative)
    (Walk.first itemised.opened.shown) itemised.priced base_nonneg
  obtain ⟨walk, technical⟩ := walk_loaded keeps standard_unit walk itemised.loaded pure.le ⟨pure.settled, le_refl _⟩
  have technical_nonneg : AtLeast .standard 0 stages.technical.subtotal :=
    ⟨technical.settled, pure.le.trans technical.le⟩
  obtain ⟨walk, commercial⟩ := walk_nonneg keeps (by decide) (BandFactor.nonneg nonnegative) walk itemised.adjusted
    technical_nonneg
  obtain ⟨walk, charged⟩ := walk_fee keeps walk itemised.charged ⟨commercial.settled, le_refl _⟩
  obtain ⟨walk, final⟩ := walk_tax keeps commercial.le walk itemised.taxed charged
  obtain ⟨discount, loading⟩ := commercial_side keeps technical_nonneg built.commercial
  have premium : breakdown.commercialPremiumMinor ≤ breakdown.premiumMinor :=
    toMinor_mono built.commercialPremium built.premium final.le
  refine ⟨?pure, ?technical, ?discount, ?loading, premium, ?taxes, ?rising⟩
  case pure =>
    rw [(toMinor_value built.purePremium).2]
    exact Rounding.halfUp_nonneg pure.le
  case technical => exact toMinor_mono built.purePremium built.technicalPremium technical.le
  case discount => exact fun below => toMinor_mono built.commercialPremium built.technicalPremium (discount below)
  case loading => exact fun above => toMinor_mono built.technicalPremium built.commercialPremium (loading above)
  case taxes =>
    rw [built.taxes]
    omega
  case rising =>
    rw [itemised.items]
    exact walk.chain

/-- A table with a negative margin and a negative tax, and a discount on it. -/
def rebated : RateTableSpec :=
  { v2Spec 3 with riskMargin := .finite true 6 (-2), iptRate := .finite true 9 (-2) }

def discounted : RatingFacts where
  tivEur := 100000000
  occupancy := Occupancy.office.value
  flags := ∅
  commercialAdjustment := .finite false 9 (-1)

theorem rebated_nonnegative : Nonnegative rebated := ⟨by decide, by decide, by decide, by decide⟩

theorem stages_ordered_rebated : ∃ breakdown, rate .standard discounted rebated = .ok breakdown ∧
    breakdown.lineItems.map (·.runningSubtotalMinor) = [50000, 50000, 57500, 59800, 53820, 58820] ∧
    Ordered discounted breakdown := by
  have shown : (rate .standard discounted rebated).map (·.lineItems.map (·.runningSubtotalMinor)) =
      .ok [50000, 50000, 57500, 59800, 53820, 58820] := by decide +kernel
  obtain ⟨breakdown, priced, same⟩ := map_ok shown
  exact ⟨breakdown, priced, same, stages_ordered rebated_nonnegative (by decide) priced⟩

end Underwriting.StageOrder
