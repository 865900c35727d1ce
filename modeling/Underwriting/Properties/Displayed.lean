import Underwriting.Lib.DecimalText
import Underwriting.Rating.Items
import Underwriting.Rating.Seeds

/-! # The printed steps determine the price

Every number a price is made from is printed, and read back from its text as it
was. So two runs from one insured value that print the same steps go through the
same subtotals, stage by stage, up to the taxes. Of the tax rate only the
percentage is printed, which is all of a rate with few enough digits, unless the
rate is too small to move any cent.
-/

namespace Underwriting.Displayed

open Rating
open Decimal (Settled mul_spec add_spec toRat_ofInt str_injective)

variable {ctx : DecimalContext} {facts facts' : RatingFacts} {table table' : RateTableSpec}
  {breakdown breakdown' : QuoteBreakdown} {stage : String} {x y y' : Decimal} {items items' : List LineItem}
  {item item' : LineItem}

/-- What an item prints of its step. -/
structure Driver where
  stage : String
  kind : Json
  value : String

def driver (item : LineItem) : Driver := ⟨item.stage, item.kind, item.value⟩

/-- All amounts of two prices are the same. -/
structure SameAmounts (breakdown breakdown' : QuoteBreakdown) : Prop where
  subtotals : breakdown.lineItems.map (·.runningSubtotalMinor) = breakdown'.lineItems.map (·.runningSubtotalMinor)
  pure : breakdown.purePremiumMinor = breakdown'.purePremiumMinor
  technical : breakdown.technicalPremiumMinor = breakdown'.technicalPremiumMinor
  commercial : breakdown.commercialPremiumMinor = breakdown'.commercialPremiumMinor
  premium : breakdown.premiumMinor = breakdown'.premiumMinor
  taxes : breakdown.taxesMinor = breakdown'.taxesMinor

/-- At most that many significant digits. -/
def Significant (digits : ℕ) (d : Decimal) : Prop := ∃ m e : ℤ, |m| < 10 ^ digits ∧ d.toRat = m * 10 ^ e

/-! ## One multiplicative stage -/

theorem shown_same {minor minor' : ℤ} (shown : toMinor ctx x = .ok minor) (shown' : toMinor ctx x = .ok minor') :
    minor = minor' :=
  Except.ok.inj (shown.symm.trans shown')

/-- By induction on the chain: equal factors take equal subtotals to equal ones. -/
theorem multiplied_determined (keeps : ctx.Keeps) {used used' : Decimal → Prop}
    (multiplied : Multiplied ctx stage used x items y) (multiplied' : Multiplied ctx stage used' x items' y')
    (same : items.map driver = items'.map driver) :
    y = y' ∧ items.map (·.runningSubtotalMinor) = items'.map (·.runningSubtotalMinor) := by
  induction multiplied generalizing items' with
  | refl =>
      cases multiplied' with
      | refl => exact ⟨rfl, rfl⟩
      | head => cases same
  | @head before mid after factor item rest times use _ ih =>
      cases multiplied' with
      | refl => cases same
      | @head _ mid' after' factor' item' rest' times' use' multiplied' =>
          obtain ⟨printed, same⟩ := List.cons.inj same
          have value : item.value = item'.value := congrArg Driver.value printed
          rw [times.value, times'.value, String.append_right_inj] at value
          obtain ⟨-, finite, -⟩ := times.rounds keeps
          obtain ⟨-, finite', -⟩ := times'.rounds keeps
          obtain rfl : factor = factor' := str_injective finite finite' value
          obtain rfl : mid = mid' := Except.ok.inj (times.product.symm.trans times'.product)
          obtain ⟨after, minors⟩ := ih multiplied' same
          refine ⟨after, ?_⟩
          rw [List.map_cons, List.map_cons, minors, shown_same times.shown times'.shown]

theorem multiplied_settled (keeps : ctx.Keeps) {used : Decimal → Prop}
    (multiplied : Multiplied ctx stage used x items y) (settled : x.Settled ctx) : y.Settled ctx := by
  induction multiplied with
  | refl => exact settled
  | head times use _ ih => exact ih (times.rounds keeps).2.2.settled

theorem base_determined (keeps : ctx.Keeps) (tiv : facts.tivEur = facts'.tivEur)
    (opened : BaseItem ctx facts table x item) (opened' : BaseItem ctx facts' table' y item')
    (same : driver item = driver item') :
    x = y ∧ item.runningSubtotalMinor = item'.runningSubtotalMinor ∧ x.Settled ctx := by
  have value : item.value = item'.value := congrArg Driver.value same
  rw [opened.value, opened'.value, String.append_left_inj] at value
  obtain ⟨permille, quotient, product⟩ := opened.product
  obtain ⟨permille', quotient', product'⟩ := opened'.product
  obtain ⟨finite, -, rounds⟩ := mul_spec keeps product (toMinor_value opened.shown).1
  obtain ⟨finite', -, -⟩ := mul_spec keeps product' (toMinor_value opened'.shown).1
  have rate : table.baseRatePermille = table'.baseRatePermille :=
    str_injective (Decimal.div_finite quotient finite) (Decimal.div_finite quotient' finite') value
  rw [rate] at quotient
  obtain rfl : permille = permille' := Except.ok.inj (quotient.symm.trans quotient')
  rw [tiv] at product
  obtain rfl : x = y := Except.ok.inj (product.symm.trans product')
  exact ⟨rfl, shown_same opened.shown opened'.shown, rounds.settled⟩

/-! ## The charges -/

theorem positive_printed {a b : ℤ} (positive : 0 < a) (positive' : 0 < b) (same : toString a = toString b) :
    a = b := by
  obtain ⟨n, rfl⟩ := Int.eq_ofNat_of_zero_le positive.le
  obtain ⟨m, rfl⟩ := Int.eq_ofNat_of_zero_le positive'.le
  have digits := congrArg (fun text => Decimal.digitsValue text.toList) same
  have value : ∀ k : ℕ, Decimal.digitsValue (toString (k : ℤ)).toList = k := Decimal.digitsValue_toString
  rw [value, value] at digits
  exact congrArg _ digits

theorem fee_determined (fee : FeeItems ctx table x y items) (fee' : FeeItems ctx table' x y' items')
    (same : items.map driver = items'.map driver) :
    y = y' ∧ items.map (·.runningSubtotalMinor) = items'.map (·.runningSubtotalMinor) := by
  cases fee with
  | none free unchanged =>
      cases fee' with
      | none free' unchanged' => exact ⟨unchanged.trans unchanged'.symm, rfl⟩
      | fee => cases same
  | @fee item positive sum kind value named shown =>
      cases fee' with
      | none => cases same
      | @fee item' positive' sum' kind' value' named' shown' =>
          have printed : item.value = item'.value := congrArg Driver.value (List.cons.inj same).1
          rw [value, value', String.append_left_inj, String.append_right_inj] at printed
          have amount : table.fixedFeesMinor = table'.fixedFeesMinor := positive_printed positive positive' printed
          rw [amount] at sum
          obtain rfl : y = y' := Except.ok.inj (sum.symm.trans sum')
          refine ⟨rfl, ?_⟩
          rw [List.map_singleton, List.map_singleton, shown_same shown shown']

theorem fee_settled (keeps : ctx.Keeps) (fee : FeeItems ctx table x y items) (settled : x.Settled ctx) :
    y.Settled ctx := by
  cases fee with
  | none free same => exact same ▸ settled
  | fee positive sum kind value named shown => exact (add_spec keeps sum (toMinor_value shown).1).2.2.settled

/-- At most one fee, then at most one tax: their kinds keep them apart. -/
theorem charges_split {fee fee' tax tax' : List LineItem} {c c' z z' w w' : Decimal}
    (charged : FeeItems ctx table x y fee) (charged' : FeeItems ctx table' z z' fee')
    (taxed : TaxItems ctx table c y w tax) (taxed' : TaxItems ctx table' c' z' w' tax')
    (same : (fee ++ tax).map driver = (fee' ++ tax').map driver) :
    fee.map driver = fee'.map driver ∧ tax.map driver = tax'.map driver := by
  have apart : ∀ {item item' : LineItem}, item.kind = .str "fee" → item'.kind = .str "tax" →
      driver item ≠ driver item' := by
    intro item item' kind kind' printed
    have same : item.kind = item'.kind := congrArg Driver.kind printed
    rw [kind, kind'] at same
    exact absurd (Json.str.inj same) (by decide)
  cases charged with
  | none =>
      cases charged' with
      | none => exact ⟨rfl, same⟩
      | fee positive' sum' kind' =>
          cases taxed with
          | none => cases same
          | tax positive product sum printed kind => exact absurd (List.cons.inj same).1.symm (apart kind' kind)
  | fee positive sum kind =>
      cases charged' with
      | none =>
          cases taxed' with
          | none => cases same
          | tax positive' product' sum' printed' kind' => exact absurd (List.cons.inj same).1 (apart kind kind')
      | fee =>
          obtain ⟨first, rest⟩ := List.cons.inj same
          exact ⟨congrArg (fun d => [d]) first, rest⟩

/-- A rate with few enough digits is its percentage, or has no digit that matters. -/
theorem rate_shown {rate percent : Decimal} (significant : Significant 28 rate) (finite : percent.IsFinite)
    (printed : rate.mul .standard (.ofInt 100) = .ok percent) :
    percent.toRat = rate.toRat * 100 ∨ |rate.toRat| < 10 ^ (-100 : ℤ) ∧ |percent.toRat| < 10 ^ (-100 : ℤ) := by
  obtain ⟨-, -, rounds⟩ := mul_spec DecimalContext.standard_keeps printed finite
  have value : percent.toRat = Rounding.round 10 28 (-999999 - (28 : ℕ) + 1) (rate.toRat * 100) := by
    rw [rounds.value, toRat_ofInt]
    rfl
  obtain ⟨m, e, digits, rate_value⟩ := significant
  by_cases representable : -999999 - (28 : ℕ) + 1 ≤ e + 2
  · left
    rw [value]
    apply Rounding.round_eq_self (by decide) (by decide)
    refine ⟨m, e + 2, digits, representable, ?_⟩
    rw [rate_value, zpow_add₀ (by norm_num)]
    norm_num
    ring
  · right
    have small : |rate.toRat| < 10 ^ (-110 : ℤ) := by
      have digits' : |(m : ℚ)| < 10 ^ (28 : ℤ) := by exact_mod_cast digits
      have positive : (0 : ℚ) < 10 ^ e := by positivity
      rw [rate_value, abs_mul, abs_of_pos positive]
      calc
        |(m : ℚ)| * 10 ^ e < 10 ^ (28 : ℤ) * 10 ^ e := mul_lt_mul_of_pos_right digits' positive
        _ = 10 ^ (28 + e) := (zpow_add₀ (by norm_num) 28 e).symm
        _ ≤ 10 ^ (-110 : ℤ) := zpow_le_zpow_right₀ (by norm_num) (by omega)
    have doubled : |Rounding.round 10 28 (-999999 - (28 : ℕ) + 1) (rate.toRat * 100)| ≤ 2 * |rate.toRat * 100| :=
      Rounding.abs_round_le (by decide) (by decide) _
    rw [← value, abs_mul, abs_of_pos (show (0 : ℚ) < 100 by norm_num)] at doubled
    have room : (10 : ℚ) ^ (-110 : ℤ) * 1000 ≤ 10 ^ (-100 : ℤ) := by norm_num
    constructor <;> linarith [abs_nonneg rate.toRat]

/-- A rate that small moves no cent. -/
theorem tiny_tax {c : Decimal} {rate : ℚ} (settled : x.Settled .standard) (bounded : |c.toRat| < 10 ^ 28)
    (tiny : |rate| < 10 ^ (-100 : ℤ)) :
    Rounding.halfUp (DecimalContext.standard.round (x.toRat + DecimalContext.standard.round (c.toRat * rate))) =
      Rounding.halfUp x.toRat := by
  have member : x.toRat ∈ Rounding.Digits ℚ 10 28 (-999999 - (28 : ℕ) + 1) := by
    rw [← settled.rounded]
    exact Rounding.round_mem (by decide) (by decide) _
  have doubled : |DecimalContext.standard.round (c.toRat * rate)| ≤ 2 * |c.toRat * rate| :=
    Rounding.abs_round_le (by decide) (by decide) _
  apply Rounding.halfUp_round_add (by decide) (by decide) member
  rw [abs_mul] at doubled
  have product : |c.toRat| * |rate| ≤ 10 ^ 28 * 10 ^ (-100 : ℤ) :=
    mul_le_mul bounded.le tiny.le (abs_nonneg _) (by positivity)
  calc
    2 * |DecimalContext.standard.round (c.toRat * rate)| ≤ 4 * (10 ^ 28 * 10 ^ (-100 : ℤ)) := by linarith
    _ < ((10 : ℕ) : ℚ) ^ (-3 - ((28 : ℕ) : ℤ)) := by norm_num

/-- Rates that print the same percentage give the same cents. -/
theorem tax_same {c rate rate' percent : Decimal} (settled : x.Settled .standard) (bounded : |c.toRat| < 10 ^ 28)
    (significant : Significant 28 rate) (significant' : Significant 28 rate') (finite : percent.IsFinite)
    (printed : rate.mul .standard (.ofInt 100) = .ok percent)
    (printed' : rate'.mul .standard (.ofInt 100) = .ok percent) :
    Rounding.halfUp (DecimalContext.standard.round
        (x.toRat + DecimalContext.standard.round (c.toRat * rate.toRat))) =
      Rounding.halfUp (DecimalContext.standard.round
        (x.toRat + DecimalContext.standard.round (c.toRat * rate'.toRat))) := by
  have shrink : ∀ {rate : Decimal}, percent.toRat = rate.toRat * 100 → |percent.toRat| < 10 ^ (-100 : ℤ) →
      |rate.toRat| < 10 ^ (-100 : ℤ) := by
    intro rate exactly tiny
    rw [exactly, abs_mul, abs_of_pos (show (0 : ℚ) < 100 by norm_num)] at tiny
    linarith [abs_nonneg rate.toRat]
  rcases rate_shown significant finite printed with exactly | ⟨tiny, percent_tiny⟩
  · rcases rate_shown significant' finite printed' with exactly' | ⟨tiny', percent_tiny⟩
    · rw [show rate.toRat = rate'.toRat by linarith]
    · rw [tiny_tax settled bounded (shrink exactly percent_tiny), tiny_tax settled bounded tiny']
  · rcases rate_shown significant' finite printed' with exactly' | ⟨tiny', -⟩
    · rw [tiny_tax settled bounded tiny, tiny_tax settled bounded (shrink exactly' percent_tiny)]
    · rw [tiny_tax settled bounded tiny, tiny_tax settled bounded tiny']

theorem tax_determined {c : Decimal} (settled : x.Settled .standard) (bounded : |c.toRat| < 10 ^ 28)
    (significant : Significant 28 table.iptRate) (significant' : Significant 28 table'.iptRate)
    (taxed : TaxItems .standard table c x y items) (taxed' : TaxItems .standard table' c x y' items')
    (same : items.map driver = items'.map driver) :
    Rounding.halfUp y.toRat = Rounding.halfUp y'.toRat ∧
      items.map (·.runningSubtotalMinor) = items'.map (·.runningSubtotalMinor) := by
  have keeps := DecimalContext.standard_keeps
  cases taxed with
  | none free unchanged =>
      cases taxed' with
      | none free' unchanged' => exact ⟨by rw [unchanged, unchanged'], rfl⟩
      | tax => cases same
  | @tax item tax percent positive product sum printed kind value named shown =>
      cases taxed' with
      | none => cases same
      | @tax item' tax' percent' positive' product' sum' printed' kind' value' named' shown' =>
          obtain ⟨-, finite, rounds⟩ := add_spec keeps sum (toMinor_value shown).1
          obtain ⟨-, finite', rounds'⟩ := add_spec keeps sum' (toMinor_value shown').1
          obtain ⟨-, rate_finite, tax_rounds⟩ := mul_spec keeps product finite
          obtain ⟨-, rate_finite', tax_rounds'⟩ := mul_spec keeps product' finite'
          have hundred : (Decimal.ofInt 100).IsFinite := trivial
          have percent_finite := (Decimal.mul_rounds keeps rate_finite hundred printed).settled.finite
          have percent_finite' := (Decimal.mul_rounds keeps rate_finite' hundred printed').settled.finite
          have text : item.value = item'.value := congrArg Driver.value (List.cons.inj same).1
          rw [value, value', String.append_left_inj, String.append_right_inj] at text
          obtain rfl : percent = percent' := str_injective percent_finite percent_finite' text
          have final : Rounding.halfUp y.toRat = Rounding.halfUp y'.toRat := by
            rw [rounds.value, rounds'.value, tax_rounds.value, tax_rounds'.value]
            exact tax_same settled bounded significant significant' percent_finite printed printed'
          refine ⟨final, ?_⟩
          rw [List.map_singleton, List.map_singleton, (toMinor_value shown).2, (toMinor_value shown').2, final]

/-! ## The whole price -/

/-- The items of one stage. -/
def ofStage (stage : String) (items : List LineItem) : List LineItem := items.filter fun item => item.stage = stage

theorem ofStage_driver (stage : String) (items : List LineItem) :
    (items.map driver).filter (fun d => d.stage = stage) = (ofStage stage items).map driver := by
  rw [List.filter_map]
  rfl

/-- The stages of the items tell the parts of a trail apart. -/
theorem stages_apart {stages : Stages} {base : Decimal} {first : LineItem}
    {cost load adjustment fee tax : List LineItem}
    (itemised : Itemised ctx facts table breakdown stages base first cost load adjustment fee tax) :
    ofStage "loss_cost" breakdown.lineItems = first :: cost ∧ ofStage "technical" breakdown.lineItems = load ∧
    ofStage "commercial" breakdown.lineItems = adjustment ∧ ofStage "taxes" breakdown.lineItems = fee ++ tax := by
  have parts : ∀ {stage : String} {items : List LineItem}, (∀ item ∈ items, item.stage = stage) →
      ∀ stage', ofStage stage' items = if stage = stage' then items else [] := by
    intro stage items named stage'
    simpa only [ofStage, decide_eq_true_eq] using filter_block named fun s => s = stage'
  have split : ∀ stage, ofStage stage breakdown.lineItems = ofStage stage (first :: cost) ++ ofStage stage load ++
      ofStage stage adjustment ++ ofStage stage (fee ++ tax) := by
    intro stage
    rw [itemised.items, List.append_assoc _ fee]
    simp only [ofStage, List.filter_append]
  simp only [split, parts itemised.costs, parts itemised.loaded.named, parts itemised.adjusted.named,
    parts itemised.charges]
  simp

/-- Two trails that print the same steps do so part by part. -/
theorem parts_printed {stages stages' : Stages} {base base' : Decimal} {first first' : LineItem}
    {cost cost' load load' adjustment adjustment' fee fee' tax tax' : List LineItem}
    (itemised : Itemised ctx facts table breakdown stages base first cost load adjustment fee tax)
    (itemised' : Itemised ctx facts' table' breakdown' stages' base' first' cost' load' adjustment' fee' tax')
    (printed : breakdown.lineItems.map driver = breakdown'.lineItems.map driver) :
    driver first = driver first' ∧ cost.map driver = cost'.map driver ∧ load.map driver = load'.map driver ∧
      adjustment.map driver = adjustment'.map driver ∧ (fee ++ tax).map driver = (fee' ++ tax').map driver := by
  obtain ⟨costs, loads, adjustments, charges⟩ := stages_apart itemised
  obtain ⟨costs', loads', adjustments', charges'⟩ := stages_apart itemised'
  have part : ∀ stage,
      (ofStage stage breakdown.lineItems).map driver = (ofStage stage breakdown'.lineItems).map driver :=
    fun stage => by rw [← ofStage_driver, printed, ofStage_driver]
  have opening := part "loss_cost"
  rw [costs, costs', List.map_cons, List.map_cons] at opening
  obtain ⟨same_first, same_cost⟩ := List.cons.inj opening
  refine ⟨same_first, same_cost, ?_, ?_, ?_⟩
  · rw [← loads, part, loads']
  · rw [← adjustments, part, adjustments']
  · rw [← charges, part, charges']

/-- For any two runs from one insured value, on any tables and facts, whose tax rates have
    at most 28 significant digits: if they print the same steps, all amounts are the same. -/
theorem trail_determines_price (tiv : facts.tivEur = facts'.tivEur) (significant : Significant 28 table.iptRate)
    (significant' : Significant 28 table'.iptRate) (priced : rate .standard facts table = .ok breakdown)
    (priced' : rate .standard facts' table' = .ok breakdown')
    (printed : breakdown.lineItems.map driver = breakdown'.lineItems.map driver) :
    SameAmounts breakdown breakdown' := by
  have keeps := DecimalContext.standard_keeps
  obtain ⟨stages, built⟩ := rate_built priced
  obtain ⟨stages', built'⟩ := rate_built priced'
  obtain ⟨base, first, cost, load, adjustment, fee, tax, itemised⟩ := built.itemised
  obtain ⟨base', first', cost', load', adjustment', fee', tax', itemised'⟩ := built'.itemised
  obtain ⟨opening, costs, loads, adjustments, charges⟩ := parts_printed itemised itemised' printed
  obtain ⟨fees, taxes⟩ := charges_split itemised.charged itemised'.charged itemised.taxed itemised'.taxed charges
  obtain ⟨same_base, first_minor, base_settled⟩ := base_determined keeps tiv itemised.opened itemised'.opened opening
  have priced_same := itemised'.priced
  rw [← same_base] at priced_same
  obtain ⟨pure, cost_minors⟩ := multiplied_determined keeps itemised.priced priced_same costs
  have loaded_same := itemised'.loaded
  rw [← pure] at loaded_same
  obtain ⟨technical, load_minors⟩ := multiplied_determined keeps itemised.loaded loaded_same loads
  have adjusted_same := itemised'.adjusted
  rw [← technical] at adjusted_same
  obtain ⟨commercial, adjustment_minors⟩ := multiplied_determined keeps itemised.adjusted adjusted_same adjustments
  have charged_same := itemised'.charged
  rw [← commercial] at charged_same
  obtain ⟨charged, fee_minors⟩ := fee_determined itemised.charged charged_same fees
  have settled : stages.charged.subtotal.Settled .standard :=
    fee_settled keeps itemised.charged (multiplied_settled keeps itemised.adjusted
      (multiplied_settled keeps itemised.loaded (multiplied_settled keeps itemised.priced base_settled)))
  have taxed_same := itemised'.taxed
  rw [← commercial, ← charged] at taxed_same
  have bounded : |stages.commercial.subtotal.toRat| < 10 ^ 28 := by
    obtain ⟨shown, quantized, -⟩ := bind_ok built.commercialPremium
    exact Decimal.quantizeUnit_lt (signaled_ok quantized)
  obtain ⟨final, tax_minors⟩ := tax_determined settled bounded significant significant' itemised.taxed taxed_same taxes
  have commercial_minor : breakdown.commercialPremiumMinor = breakdown'.commercialPremiumMinor :=
    shown_same built.commercialPremium (commercial ▸ built'.commercialPremium)
  have premium_minor : breakdown.premiumMinor = breakdown'.premiumMinor := by
    rw [(toMinor_value built.premium).2, (toMinor_value built'.premium).2, final]
  refine ⟨?subtotals, ?pure, ?technical, commercial_minor, premium_minor, ?taxes⟩
  case subtotals =>
    rw [itemised.items, itemised'.items]
    simp only [List.map_append, List.map_cons, first_minor, cost_minors, load_minors, adjustment_minors, fee_minors,
      tax_minors]
  case pure => exact shown_same built.purePremium (pure ▸ built'.purePremium)
  case technical => exact shown_same built.technicalPremium (technical ▸ built'.technicalPremium)
  case taxes => rw [built.taxes, built'.taxes, commercial_minor, premium_minor]

def office : RatingFacts where
  tivEur := 123456789
  occupancy := Occupancy.office.value
  flags := ∅
  commercialAdjustment := .finite false 9 (-1)

def shop : RatingFacts := { office with occupancy := Occupancy.retail.value, flags := {"sprinklered"} }

/-- A table that prices a shop as version 2 prices an office. -/
def shopTable : RateTableSpec :=
  { v2Spec 7 with
    occupancyFactors := [(Occupancy.retail.value, .finite false 10 (-1))]
    adjustments := [highTivLoading]
    commercialAdjustmentMin := .finite false 5 (-1) }

theorem trail_determines_office_price : ∃ breakdown breakdown', rate .standard office (v2Spec 2) = .ok breakdown ∧
    rate .standard shop shopTable = .ok breakdown' ∧ SameAmounts breakdown breakdown' := by
  have printed : (rate .standard office (v2Spec 2)).map (·.lineItems.map driver) =
      (rate .standard shop shopTable).map (·.lineItems.map driver) := by rfl
  obtain ⟨breakdown, priced⟩ : ∃ breakdown, rate .standard office (v2Spec 2) = .ok breakdown := ⟨_, rfl⟩
  obtain ⟨breakdown', priced'⟩ : ∃ breakdown, rate .standard shop shopTable = .ok breakdown := ⟨_, rfl⟩
  rw [priced, priced'] at printed
  have significant : Significant 28 (v2Spec 2).iptRate :=
    ⟨9, -2, by decide, by norm_num [v2Spec, Decimal.toRat, Decimal.sign]⟩
  have significant' : Significant 28 shopTable.iptRate := significant
  have tiv : office.tivEur = shop.tivEur := rfl
  exact ⟨breakdown, breakdown', priced, priced', trail_determines_price tiv significant significant' priced priced'
    (Except.ok.inj printed)⟩

end Underwriting.Displayed
