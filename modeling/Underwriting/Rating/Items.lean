import Underwriting.Rating.Amounts

/-! # What the items of a trail print

Every item prints the driver of its step. A price has a base, then a chain of
multiplications through three stages, each by the factor its item prints, and at
most two charges. What holds of consecutive items is proved once along such a
chain.
-/

namespace Underwriting.Rating

open Decimal

variable {ctx : DecimalContext} {facts : RatingFacts} {table : RateTableSpec} {flags : Finset String}
  {trail next : Trail} {stage : String} {breakdown : QuoteBreakdown}

/-! ## Multiplications -/

/-- The factors of the loss cost. -/
inductive CostFactor (facts : RatingFacts) (table : RateTableSpec) : Decimal → Prop where
  | occupancy {factor} (found : table.occupancyFactors.lookup facts.occupancy = some factor) :
      CostFactor facts table factor
  | adjustment {adj} (member : adj ∈ table.adjustments) (applied : applies facts.flags adj.appliesWhen = .ok true) :
      CostFactor facts table adj.factor

/-- The factors of the technical stage: one and a loading that is positive. -/
inductive LoadingFactor (ctx : DecimalContext) (table : RateTableSpec) : Decimal → Prop where
  | loading {pct factor} (member : pct ∈ [table.expenseLoading, table.riskMargin, table.catProvision])
      (positive : Decimal.zero.lt pct = .ok true) (sum : Decimal.one.add ctx pct = .ok factor) :
      LoadingFactor ctx table factor

/-- The factor of the commercial stage: an adjustment that is not neutral, inside the band. -/
inductive BandFactor (facts : RatingFacts) (table : RateTableSpec) : Decimal → Prop where
  | adjustment (differs : facts.commercialAdjustment.eq .one = .ok false)
      (low : facts.commercialAdjustment.lt table.commercialAdjustmentMin = .ok false)
      (high : table.commercialAdjustmentMax.lt facts.commercialAdjustment = .ok false) :
      BandFactor facts table facts.commercialAdjustment

/-- The item multiplies the subtotal by the factor it prints. -/
structure Times (ctx : DecimalContext) (stage : String) (before after factor : Decimal) (item : LineItem) : Prop where
  product : before.mul ctx factor = .ok after
  value : item.value = "×" ++ factor.str
  named : item.stage = stage
  shown : toMinor ctx after = .ok item.runningSubtotalMinor

/-- A chain of multiplications of one stage. -/
inductive Multiplied (ctx : DecimalContext) (stage : String) (used : Decimal → Prop) :
    Decimal → List LineItem → Decimal → Prop where
  | refl (subtotal) : Multiplied ctx stage used subtotal [] subtotal
  | head {before mid after factor item items} (first : Times ctx stage before mid factor item) (use : used factor)
      (rest : Multiplied ctx stage used mid items after) :
      Multiplied ctx stage used before (item :: items) after

namespace Multiplied

variable {used : Decimal → Prop} {x y z : Decimal} {items items' : List LineItem}

theorem single {factor : Decimal} {item : LineItem} (first : Times ctx stage x y factor item) (use : used factor) :
    Multiplied ctx stage used x [item] y :=
  .head first use (.refl y)

theorem trans (first : Multiplied ctx stage used x items y) (second : Multiplied ctx stage used y items' z) :
    Multiplied ctx stage used x (items ++ items') z := by
  induction first with
  | refl => exact second
  | head times use _ ih => exact .head times use (ih second)

theorem named (multiplied : Multiplied ctx stage used x items y) : ∀ item ∈ items, item.stage = stage := by
  induction multiplied with
  | refl => exact fun _ member => nomatch member
  | head first _ _ ih =>
      intro item member
      rcases List.mem_cons.mp member with rfl | later
      · exact first.named
      · exact ih item later

end Multiplied

/-- The steps between two trails are multiplications. -/
def Multiplies (ctx : DecimalContext) (stage : String) (used : Decimal → Prop) (trail next : Trail) : Prop :=
  ∃ added, next.items = trail.items ++ added ∧ Multiplied ctx stage used trail.subtotal added next.subtotal

namespace Multiplies

variable {used : Decimal → Prop} {mid : Trail}

theorem refl (trail : Trail) : Multiplies ctx stage used trail trail :=
  ⟨[], (List.append_nil _).symm, .refl _⟩

theorem trans (first : Multiplies ctx stage used trail mid) (second : Multiplies ctx stage used mid next) :
    Multiplies ctx stage used trail next := by
  obtain ⟨added, items, chain⟩ := first
  obtain ⟨added', items', chain'⟩ := second
  refine ⟨added ++ added', ?_, chain.trans chain'⟩
  rw [items', items, List.append_assoc]

end Multiplies

theorem append_item {label kind : Json} {value : String} {subtotal : Decimal}
    (appended : trail.append ctx label kind value subtotal stage = .ok next) :
    next.subtotal = subtotal ∧ ∃ minor, toMinor ctx subtotal = .ok minor ∧
      next.items = trail.items ++ [⟨label, kind, value, minor, stage⟩] := by
  obtain ⟨minor, shown, made⟩ := bind_ok appended
  cases made
  exact ⟨rfl, minor, shown, rfl⟩

/-- An appended product is one multiplication. -/
theorem multiplies_append {used : Decimal → Prop} {label kind : Json} {factor subtotal : Decimal} (use : used factor)
    (product : trail.subtotal.mul ctx factor = .ok subtotal)
    (appended : trail.append ctx label kind ("×" ++ factor.str) subtotal stage = .ok next) :
    Multiplies ctx stage used trail next := by
  obtain ⟨rfl, minor, shown, items⟩ := append_item appended
  exact ⟨_, items, .single ⟨product, rfl, rfl, shown⟩ use⟩

theorem adjust_multiplies {adj : Adjustment} (member : adj ∈ table.adjustments)
    (adjusted : adjust ctx facts.flags trail adj = .ok next) :
    Multiplies ctx "loss_cost" (CostFactor facts table) trail next := by
  obtain ⟨gated, gate, adjusted⟩ := bind_ok adjusted
  cases gated with
  | false =>
      cases adjusted
      exact .refl _
  | true =>
      obtain ⟨subtotal, product, appended⟩ := bind_ok adjusted
      exact multiplies_append (.adjustment member gate) (signaled_ok product) appended

theorem load_multiplies {loading : String × Decimal}
    (member : loading.2 ∈ [table.expenseLoading, table.riskMargin, table.catProvision])
    (loaded : load ctx trail loading = .ok next) :
    Multiplies ctx "technical" (LoadingFactor ctx table) trail next := by
  obtain ⟨name, pct⟩ := loading
  obtain ⟨positive, sign, loaded⟩ := bind_ok loaded
  cases positive with
  | false =>
      cases loaded
      exact .refl _
  | true =>
      obtain ⟨factor, sum, loaded⟩ := bind_ok loaded
      obtain ⟨subtotal, product, appended⟩ := bind_ok loaded
      have use : LoadingFactor ctx table factor := .loading member (signaled_ok sign) (signaled_ok sum)
      exact multiplies_append use (signaled_ok product) appended

theorem technical_multiplies (priced : technical ctx table trail = .ok next) :
    Multiplies ctx "technical" (LoadingFactor ctx table) trail next := by
  apply foldlM_ok Multiplies.refl Multiplies.trans ?_ priced
  intro loading member before after loaded
  apply load_multiplies ?_ loaded
  simp only [List.mem_cons, List.not_mem_nil, or_false] at member ⊢
  rcases member with rfl | rfl | rfl
  · exact .inl rfl
  · exact .inr (.inl rfl)
  · exact .inr (.inr rfl)

theorem commercial_multiplies (adjusted : commercial ctx facts table trail = .ok next) :
    Multiplies ctx "commercial" (BandFactor facts table) trail next := by
  rcases commercial_cases adjusted with ⟨-, rfl⟩ | ⟨one, low, high, subtotal, kind, product, appended⟩
  · exact .refl _
  · exact multiplies_append (.adjustment one low high) product appended

/-! ## The base and the charges -/

/-- The first item prints the base rate. -/
structure BaseItem (ctx : DecimalContext) (facts : RatingFacts) (table : RateTableSpec) (base : Decimal)
    (item : LineItem) : Prop where
  product : ∃ permille, table.baseRatePermille.div ctx (.ofInt 1000) = .ok permille ∧
    permille.mul ctx (.ofInt facts.tivEur) = .ok base
  value : item.value = table.baseRatePermille.str ++ "‰ of TIV"
  named : item.stage = "loss_cost"
  shown : toMinor ctx base = .ok item.runningSubtotalMinor

theorem lossCost_items {occupancyFactor : Decimal}
    (factor : table.occupancyFactors.lookup facts.occupancy = some occupancyFactor)
    (priced : lossCost ctx facts table occupancyFactor = .ok next) :
    ∃ base first added, BaseItem ctx facts table base first ∧ next.items = first :: added ∧
      Multiplied ctx "loss_cost" (CostFactor facts table) base added next.subtotal := by
  obtain ⟨permille, quotient, priced⟩ := bind_ok priced
  obtain ⟨amount, product, priced⟩ := bind_ok priced
  obtain ⟨base, appended, priced⟩ := bind_ok priced
  obtain ⟨amount', product', priced⟩ := bind_ok priced
  obtain ⟨factored, appended', adjusted⟩ := bind_ok priced
  obtain ⟨rfl, minor, shown, items⟩ := append_item appended
  have occupied : Multiplies ctx "loss_cost" (CostFactor facts table) base factored :=
    multiplies_append (.occupancy factor) (signaled_ok product') appended'
  have adjusted : Multiplies ctx "loss_cost" (CostFactor facts table) factored next :=
    foldlM_ok Multiplies.refl Multiplies.trans (fun _ member => adjust_multiplies member) adjusted
  obtain ⟨added, items', chain⟩ := occupied.trans adjusted
  rw [items] at items'
  have opened : BaseItem ctx facts table base.subtotal
      ⟨"base_rate", "base", table.baseRatePermille.str ++ "‰ of TIV", minor, "loss_cost"⟩ :=
    ⟨⟨permille, signaled_ok quotient, signaled_ok product⟩, rfl, rfl, shown⟩
  exact ⟨base.subtotal, _, added, opened, items', chain⟩

/-- No fee is charged, or one item adds the fee it prints. -/
inductive FeeItems (ctx : DecimalContext) (table : RateTableSpec) (before after : Decimal) : List LineItem → Prop where
  | none (free : table.fixedFeesMinor ≤ 0) (same : after = before) : FeeItems ctx table before after []
  | fee {item} (positive : 0 < table.fixedFeesMinor)
      (sum : before.add ctx (.ofInt table.fixedFeesMinor) = .ok after) (kind : item.kind = .str "fee")
      (value : item.value = "+" ++ toString table.fixedFeesMinor ++ " minor") (named : item.stage = "taxes")
      (shown : toMinor ctx after = .ok item.runningSubtotalMinor) : FeeItems ctx table before after [item]

/-- No tax is charged, or one item adds the tax on the commercial premium and prints its rate. -/
inductive TaxItems (ctx : DecimalContext) (table : RateTableSpec) (precise before after : Decimal) :
    List LineItem → Prop where
  | none (free : Decimal.zero.lt table.iptRate = .ok false) (same : after = before) :
      TaxItems ctx table precise before after []
  | tax {item tax percent} (positive : Decimal.zero.lt table.iptRate = .ok true)
      (product : precise.mul ctx table.iptRate = .ok tax) (sum : before.add ctx tax = .ok after)
      (printed : table.iptRate.mul ctx (.ofInt 100) = .ok percent) (kind : item.kind = .str "tax")
      (value : item.value = "+" ++ percent.str ++ "% of commercial premium") (named : item.stage = "taxes")
      (shown : toMinor ctx after = .ok item.runningSubtotalMinor) : TaxItems ctx table precise before after [item]

theorem FeeItems.taxed {before after : Decimal} {items : List LineItem} (fee : FeeItems ctx table before after items) :
    ∀ item ∈ items, item.stage = "taxes" := by
  intro item member
  cases fee with
  | none => cases member
  | fee positive sum kind value named shown =>
      rw [List.mem_singleton.mp member]
      exact named

theorem TaxItems.taxed {precise before after : Decimal} {items : List LineItem}
    (tax : TaxItems ctx table precise before after items) : ∀ item ∈ items, item.stage = "taxes" := by
  intro item member
  cases tax with
  | none => cases member
  | tax positive product sum printed kind value named shown =>
      rw [List.mem_singleton.mp member]
      exact named

theorem fee_items (charged : fee ctx table trail = .ok next) :
    ∃ added, next.items = trail.items ++ added ∧ FeeItems ctx table trail.subtotal next.subtotal added := by
  simp only [fee] at charged
  split at charged
  · rename_i positive
    obtain ⟨subtotal, sum, appended⟩ := bind_ok charged
    obtain ⟨rfl, minor, shown, items⟩ := append_item appended
    exact ⟨_, items, .fee positive (signaled_ok sum) rfl rfl rfl shown⟩
  · rename_i none
    cases charged
    exact ⟨[], (List.append_nil _).symm, .none (not_lt.mp none) rfl⟩

theorem ipt_items {precise : Decimal} (taxed : ipt ctx table precise trail = .ok next) :
    ∃ added, next.items = trail.items ++ added ∧ TaxItems ctx table precise trail.subtotal next.subtotal added := by
  obtain ⟨positive, sign, taxed⟩ := bind_ok taxed
  cases positive with
  | false =>
      cases taxed
      exact ⟨[], (List.append_nil _).symm, .none (signaled_ok sign) rfl⟩
  | true =>
      obtain ⟨tax, product, taxed⟩ := bind_ok taxed
      obtain ⟨subtotal, sum, taxed⟩ := bind_ok taxed
      obtain ⟨percent, printed, appended⟩ := bind_ok taxed
      obtain ⟨rfl, minor, shown, items⟩ := append_item appended
      exact ⟨_, items,
        .tax (signaled_ok sign) (signaled_ok product) (signaled_ok sum) (signaled_ok printed) rfl rfl rfl shown⟩

/-- The items of a price, stage by stage. -/
structure Itemised (ctx : DecimalContext) (facts : RatingFacts) (table : RateTableSpec) (breakdown : QuoteBreakdown)
    (stages : Stages) (base : Decimal) (first : LineItem) (cost load adjustment fee tax : List LineItem) : Prop where
  opened : BaseItem ctx facts table base first
  pure : stages.pure.items = first :: cost
  priced : Multiplied ctx "loss_cost" (CostFactor facts table) base cost stages.pure.subtotal
  loaded : Multiplied ctx "technical" (LoadingFactor ctx table) stages.pure.subtotal load
    stages.technical.subtotal
  adjusted : Multiplied ctx "commercial" (BandFactor facts table) stages.technical.subtotal adjustment
    stages.commercial.subtotal
  charged : FeeItems ctx table stages.commercial.subtotal stages.charged.subtotal fee
  taxed : TaxItems ctx table stages.commercial.subtotal stages.charged.subtotal stages.final.subtotal tax
  items : breakdown.lineItems = first :: cost ++ load ++ adjustment ++ fee ++ tax

theorem Stages.Built.itemised {stages : Stages} (built : stages.Built ctx facts table breakdown) :
    ∃ base first cost load adjustment fee tax,
      Itemised ctx facts table breakdown stages base first cost load adjustment fee tax := by
  obtain ⟨base, first, cost, opened, items₁, chain₁⟩ := lossCost_items built.factor built.pure
  obtain ⟨load, items₂, chain₂⟩ := technical_multiplies built.technical
  obtain ⟨adjustment, items₃, chain₃⟩ := commercial_multiplies built.commercial
  obtain ⟨fee, items₄, charged⟩ := fee_items built.charged
  obtain ⟨tax, items₅, taxed⟩ := ipt_items built.final
  refine ⟨base, first, cost, load, adjustment, fee, tax, opened, items₁, chain₁, chain₂, chain₃, charged, taxed, ?_⟩
  rw [built.items, items₅, items₄, items₃, items₂, items₁]

section Named

variable {stages : Stages} {base : Decimal} {first : LineItem} {cost load adjustment fee tax : List LineItem}

theorem Itemised.costs (itemised : Itemised ctx facts table breakdown stages base first cost load adjustment fee tax) :
    ∀ item ∈ first :: cost, item.stage = "loss_cost" := by
  intro item member
  rcases List.mem_cons.mp member with rfl | later
  · exact itemised.opened.named
  · exact itemised.priced.named item later

theorem Itemised.charges
    (itemised : Itemised ctx facts table breakdown stages base first cost load adjustment fee tax) :
    ∀ item ∈ fee ++ tax, item.stage = "taxes" := by
  intro item member
  rcases List.mem_append.mp member with charged | taxed
  · exact itemised.charged.taxed item charged
  · exact itemised.taxed.taxed item taxed

end Named

/-! ## Consecutive items -/

/-- Consecutive items are related, and the last one shows the subtotal. -/
structure Walk (R : LineItem → LineItem → Prop) (items : List LineItem) (subtotal : Decimal) : Prop where
  chain : items.IsChain R
  shows : ∃ item ∈ items.getLast?, item.runningSubtotalMinor = Rounding.halfUp subtotal.toRat

namespace Walk

variable {R : LineItem → LineItem → Prop} {x y : Decimal} {items added : List LineItem} {item : LineItem}

theorem first (shown : toMinor ctx x = .ok item.runningSubtotalMinor) : Walk R [item] x where
  chain := List.isChain_singleton item
  shows := ⟨item, rfl, (toMinor_value shown).2⟩

theorem append (walk : Walk R items x) (shown : toMinor ctx y = .ok item.runningSubtotalMinor)
    (related : ∀ prev : LineItem, prev.runningSubtotalMinor = Rounding.halfUp x.toRat → R prev item) :
    Walk R (items ++ [item]) y := by
  obtain ⟨last, found, shows⟩ := walk.shows
  refine ⟨List.isChain_append.mpr ⟨walk.chain, List.isChain_singleton item, ?_⟩, item, ?_, (toMinor_value shown).2⟩
  · intro prev at_end next at_head
    obtain rfl := Option.some.inj (found.symm.trans at_end)
    obtain rfl := Option.some.inj at_head
    exact related last shows
  · rw [List.getLast?_append_of_ne_nil _ (List.cons_ne_nil _ _)]
    rfl

/-- What one multiplication keeps and relates, a chain of them does. -/
theorem multiplied {used P : Decimal → Prop} (walk : Walk R items x)
    (multiplied : Multiplied ctx stage used x added y) (start : P x)
    (step : ∀ {before after factor item}, P before → used factor → Times ctx stage before after factor item →
      P after ∧ ∀ prev : LineItem, prev.runningSubtotalMinor = Rounding.halfUp before.toRat → R prev item) :
    Walk R (items ++ added) y ∧ P y := by
  induction multiplied generalizing items with
  | refl =>
      rw [List.append_nil]
      exact ⟨walk, start⟩
  | @head before mid after factor item rest times use _ ih =>
      obtain ⟨held, related⟩ := step start use times
      have further := ih (walk.append times.shown related) held
      rwa [List.append_assoc, List.singleton_append] at further

end Walk

/-! ## Factors that are not negative -/

/-- No factor of the table is negative; the loadings, the tax and the fee may be. -/
structure Nonnegative (table : RateTableSpec) : Prop where
  base : table.baseRatePermille.lt .zero = .ok false
  occupancies : ∀ entry ∈ table.occupancyFactors, entry.2.lt .zero = .ok false
  adjustments : ∀ adj ∈ table.adjustments, adj.factor.lt .zero = .ok false
  minimum : table.commercialAdjustmentMin.lt .zero = .ok false

theorem Times.rounds (keeps : ctx.Keeps) {before after factor : Decimal} {item : LineItem}
    (times : Times ctx stage before after factor item) :
    before.IsFinite ∧ factor.IsFinite ∧ Rounds ctx (before.toRat * factor.toRat) after :=
  mul_spec keeps times.product (toMinor_value times.shown).1

/-- A loading never lowers, as far as the context keeps 1. -/
theorem LoadingFactor.one_le (keeps : ctx.Keeps) (unit : ctx.round 1 = 1) {factor : Decimal}
    (use : LoadingFactor ctx table factor) (finite : factor.IsFinite) : 1 ≤ factor.toRat := by
  cases use with
  | @loading pct _ member positive sum =>
      obtain ⟨-, finite', rounds⟩ := add_spec keeps sum finite
      have above := positive.symm.trans (lt_value trivial finite')
      rw [Except.ok.injEq, eq_comm, decide_eq_true_iff, toRat_zero] at above
      have mono : ctx.round 1 ≤ ctx.round (Decimal.one.toRat + pct.toRat) := by
        apply DecimalContext.round_mono keeps
        rw [toRat_one]
        linarith
      rw [rounds.value]
      rwa [unit] at mono

theorem BandFactor.nonneg (nonnegative : Nonnegative table) {factor : Decimal}
    (use : BandFactor facts table factor) (finite : factor.IsFinite) : 0 ≤ factor.toRat := by
  cases use with
  | adjustment differs low high =>
      have minimum := nonnegative.minimum
      cases least : table.commercialAdjustmentMin with
      | finite s c e =>
          rw [least] at low minimum
          have finite' : (Decimal.finite s c e).IsFinite := trivial
          exact (nonneg_of_lt_false minimum finite').trans (le_of_lt_false finite finite' low)
      | infinity s =>
          rw [least] at low minimum
          cases adjustment : facts.commercialAdjustment with
          | finite =>
              rw [adjustment] at low
              cases s with
              | false => cases low
              | true => cases minimum
          | infinity | nan =>
              rw [adjustment] at finite
              exact finite.elim
      | nan =>
          rw [least] at minimum
          cases minimum

theorem CostFactor.nonneg (nonnegative : Nonnegative table) {factor : Decimal}
    (use : CostFactor facts table factor) (finite : factor.IsFinite) : 0 ≤ factor.toRat := by
  apply nonneg_of_lt_false ?_ finite
  cases use with
  | occupancy found => exact nonnegative.occupancies _ (lookup_mem found)
  | adjustment member applied => exact nonnegative.adjustments _ member

end Underwriting.Rating
