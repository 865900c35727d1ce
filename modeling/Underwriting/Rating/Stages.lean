import Underwriting.Rating.Engine

/-! # What the stages of a pricing do

Each step of the engine either leaves the trail as it is or moves the subtotal
and appends one item, of the step's stage, that shows the new subtotal. A price
that was returned has the trails of all its stages behind it.
-/

namespace Underwriting.Rating

theorem signaled_ok {α : Type} {op : Except DecimalSignal α} {value : α} (succeeds : signaled op = .ok value) :
    op = .ok value := by
  cases op with
  | ok v =>
      cases succeeds
      rfl
  | error signal => cases succeeds

theorem map_ok {ε α β : Type} {op : Except ε α} {f : α → β} {result : β} (mapped : op.map f = .ok result) :
    ∃ value, op = .ok value ∧ f value = result := by
  cases op with
  | ok value => exact ⟨value, rfl, Except.ok.inj mapped⟩
  | error err => cases mapped

theorem lookup_mem {α β : Type} [BEq α] [LawfulBEq α] {entries : List (α × β)} {key : α} {value : β}
    (found : entries.lookup key = some value) : (key, value) ∈ entries := by
  obtain ⟨before, after, same, -⟩ := List.lookup_eq_some_iff.mp found
  rw [same]
  exact List.mem_append_right _ List.mem_cons_self

/-- What every step of a fold may do, the fold may do. -/
theorem foldlM_ok {ε α β : Type} {R : β → β → Prop} (refl : ∀ b : β, R b b)
    (trans : ∀ {b c d : β}, R b c → R c d → R b d) {f : β → α → Except ε β} {items : List α}
    (step : ∀ a ∈ items, ∀ {b c : β}, f b a = .ok c → R b c) {b c : β}
    (folded : items.foldlM f b = .ok c) : R b c := by
  induction items generalizing b with
  | nil =>
      cases folded
      exact refl _
  | cons a rest ih =>
      obtain ⟨mid, first, later⟩ := bind_ok folded
      have rest := ih (fun a' member => step a' (List.mem_cons_of_mem _ member)) later
      exact trans (step a List.mem_cons_self first) rest

/-- Two folds over the same items stay related if their steps do. -/
theorem foldlM_ok₂ {ε α β γ : Type} {R : β → γ → Prop} {f : β → α → Except ε β} {g : γ → α → Except ε γ}
    {items : List α} {b b' : β} {c c' : γ}
    (step : ∀ a ∈ items, ∀ {b b' : β} {c c' : γ}, R b c → f b a = .ok b' → g c a = .ok c' → R b' c')
    (related : R b c) (folded : items.foldlM f b = .ok b') (folded' : items.foldlM g c = .ok c') : R b' c' := by
  induction items generalizing b c with
  | nil =>
      cases folded
      cases folded'
      exact related
  | cons a rest ih =>
      obtain ⟨mid, first, later⟩ := bind_ok folded
      obtain ⟨mid', first', later'⟩ := bind_ok folded'
      have related' := step a List.mem_cons_self related first first'
      exact ih (fun a member => step a (List.mem_cons_of_mem _ member)) related' later later'

variable {ctx : DecimalContext} {facts : RatingFacts} {table : RateTableSpec} {flags : Finset String}
  {trail next : Trail} {stage : String} {breakdown : QuoteBreakdown}

/-! ## Items -/

/-- One item of the stage is new, and shows the new subtotal. -/
def Appended (ctx : DecimalContext) (stage : String) (trail next : Trail) : Prop :=
  ∃ item : LineItem, next.items = trail.items ++ [item] ∧ item.stage = stage ∧
    toMinor ctx next.subtotal = .ok item.runningSubtotalMinor

theorem append_ok {label kind : Json} {value : String} {subtotal : Decimal}
    (appended : trail.append ctx label kind value subtotal stage = .ok next) :
    next.subtotal = subtotal ∧ Appended ctx stage trail next := by
  obtain ⟨minor, shown, made⟩ := bind_ok appended
  cases made
  exact ⟨rfl, _, rfl, rfl, shown⟩

/-- Some steps of one stage: what they added, the last of it showing where they led. -/
structure Grown (ctx : DecimalContext) (stage : String) (trail next : Trail) (added : List LineItem) : Prop where
  items : next.items = trail.items ++ added
  named : ∀ item ∈ added, item.stage = stage
  shown : ∀ item ∈ added.getLast?, toMinor ctx next.subtotal = .ok item.runningSubtotalMinor
  still : added = [] → next = trail

namespace Grown

theorem refl (trail : Trail) : Grown ctx stage trail trail [] where
  items := (List.append_nil _).symm
  named := by simp
  shown := by simp
  still _ := rfl

theorem trans {mid : Trail} {added added' : List LineItem} (first : Grown ctx stage trail mid added)
    (second : Grown ctx stage mid next added') : Grown ctx stage trail next (added ++ added') where
  items := by rw [second.items, first.items, List.append_assoc]
  named item member := (List.mem_append.mp member).elim (first.named item) (second.named item)
  shown := by
    by_cases nothing : added' = []
    · rw [second.still nothing, nothing, List.append_nil]
      exact first.shown
    · rw [List.getLast?_append_of_ne_nil _ nothing]
      exact second.shown
  still nothing := by
    obtain ⟨none, none'⟩ := List.append_eq_nil_iff.mp nothing
    exact (second.still none').trans (first.still none)

end Grown

theorem Appended.grown (appended : Appended ctx stage trail next) : ∃ added, Grown ctx stage trail next added := by
  obtain ⟨item, items, named, shown⟩ := appended
  refine ⟨[item], items, ?_, ?_, by simp⟩
  · simpa using named
  · simpa using shown

/-! ## Steps -/

theorem adjust_ok {adj : Adjustment} (adjusted : adjust ctx flags trail adj = .ok next) :
    applies flags adj.appliesWhen = .ok false ∧ next = trail ∨
    applies flags adj.appliesWhen = .ok true ∧ trail.subtotal.mul ctx adj.factor = .ok next.subtotal ∧
      Appended ctx "loss_cost" trail next := by
  obtain ⟨gated, gate, adjusted⟩ := bind_ok adjusted
  cases gated with
  | false =>
      cases adjusted
      exact .inl ⟨gate, rfl⟩
  | true =>
      obtain ⟨subtotal, product, appended⟩ := bind_ok adjusted
      obtain ⟨rfl, shown⟩ := append_ok appended
      exact .inr ⟨gate, signaled_ok product, shown⟩

/-- The steps before the adjustments. -/
theorem lossCost_ok {occupancyFactor : Decimal} (priced : lossCost ctx facts table occupancyFactor = .ok next) :
    ∃ permille base factored, table.baseRatePermille.div ctx (.ofInt 1000) = .ok permille ∧
      permille.mul ctx (.ofInt facts.tivEur) = .ok base.subtotal ∧
      Appended ctx "loss_cost" ⟨base.subtotal, []⟩ base ∧
      base.subtotal.mul ctx occupancyFactor = .ok factored.subtotal ∧ Appended ctx "loss_cost" base factored ∧
      table.adjustments.foldlM (adjust ctx facts.flags) factored = .ok next := by
  obtain ⟨permille, quotient, priced⟩ := bind_ok priced
  obtain ⟨amount, product, priced⟩ := bind_ok priced
  obtain ⟨base, appended, priced⟩ := bind_ok priced
  obtain ⟨amount', product', priced⟩ := bind_ok priced
  obtain ⟨factored, appended', adjusted⟩ := bind_ok priced
  obtain ⟨rfl, shown⟩ := append_ok appended
  obtain ⟨rfl, shown'⟩ := append_ok appended'
  exact ⟨permille, base, factored, signaled_ok quotient, signaled_ok product, shown, signaled_ok product', shown',
    adjusted⟩

theorem load_ok {name : String} {pct : Decimal} (loaded : load ctx trail (name, pct) = .ok next) :
    Decimal.zero.lt pct = .ok false ∧ next = trail ∨
    ∃ factor, Decimal.zero.lt pct = .ok true ∧ Decimal.one.add ctx pct = .ok factor ∧
      trail.subtotal.mul ctx factor = .ok next.subtotal ∧ Appended ctx "technical" trail next := by
  obtain ⟨positive, sign, loaded⟩ := bind_ok loaded
  cases positive with
  | false =>
      cases loaded
      exact .inl ⟨signaled_ok sign, rfl⟩
  | true =>
      obtain ⟨factor, sum, loaded⟩ := bind_ok loaded
      obtain ⟨subtotal, product, appended⟩ := bind_ok loaded
      obtain ⟨rfl, shown⟩ := append_ok appended
      exact .inr ⟨factor, signaled_ok sign, signaled_ok sum, signaled_ok product, shown⟩

/-- A neutral adjustment passes; another one is in the band and multiplies. -/
theorem commercial_cases (adjusted : commercial ctx facts table trail = .ok next) :
    facts.commercialAdjustment.eq .one = .ok true ∧ next = trail ∨
    facts.commercialAdjustment.eq .one = .ok false ∧
      facts.commercialAdjustment.lt table.commercialAdjustmentMin = .ok false ∧
      table.commercialAdjustmentMax.lt facts.commercialAdjustment = .ok false ∧
      ∃ subtotal kind, trail.subtotal.mul ctx facts.commercialAdjustment = .ok subtotal ∧
        trail.append ctx "commercial_adjustment" kind ("×" ++ facts.commercialAdjustment.str) subtotal "commercial" =
          .ok next := by
  obtain ⟨neutral, one, adjusted⟩ := bind_ok adjusted
  cases neutral with
  | true =>
      cases adjusted
      exact .inl ⟨signaled_ok one, rfl⟩
  | false =>
      obtain ⟨below, low, adjusted⟩ := bind_ok adjusted
      cases below with
      | true => cases adjusted
      | false =>
          obtain ⟨above, high, adjusted⟩ := bind_ok adjusted
          cases above with
          | true => cases adjusted
          | false =>
              obtain ⟨subtotal, product, adjusted⟩ := bind_ok adjusted
              obtain ⟨discount, -, appended⟩ := bind_ok adjusted
              exact .inr ⟨signaled_ok one, signaled_ok low, signaled_ok high, subtotal, _, signaled_ok product,
                appended⟩

theorem commercial_ok (adjusted : commercial ctx facts table trail = .ok next) :
    facts.commercialAdjustment.eq .one = .ok true ∧ next = trail ∨
    facts.commercialAdjustment.eq .one = .ok false ∧
      facts.commercialAdjustment.lt table.commercialAdjustmentMin = .ok false ∧
      table.commercialAdjustmentMax.lt facts.commercialAdjustment = .ok false ∧
      trail.subtotal.mul ctx facts.commercialAdjustment = .ok next.subtotal ∧
      Appended ctx "commercial" trail next := by
  rcases commercial_cases adjusted with neutral | ⟨one, low, high, subtotal, kind, product, appended⟩
  · exact .inl neutral
  · obtain ⟨rfl, shown⟩ := append_ok appended
    exact .inr ⟨one, low, high, product, shown⟩

/-- A neutral adjustment passes, whatever the band. -/
theorem commercial_neutral (neutral : facts.commercialAdjustment.eq .one = .ok true) :
    commercial ctx facts table trail = .ok trail := by
  simp only [commercial, neutral]
  rfl

theorem fee_ok (charged : fee ctx table trail = .ok next) :
    table.fixedFeesMinor ≤ 0 ∧ next = trail ∨
    0 < table.fixedFeesMinor ∧ trail.subtotal.add ctx (.ofInt table.fixedFeesMinor) = .ok next.subtotal ∧
      Appended ctx "taxes" trail next := by
  simp only [fee] at charged
  split at charged
  · rename_i positive
    obtain ⟨subtotal, sum, appended⟩ := bind_ok charged
    obtain ⟨rfl, shown⟩ := append_ok appended
    exact .inr ⟨positive, signaled_ok sum, shown⟩
  · rename_i none
    cases charged
    exact .inl ⟨not_lt.mp none, rfl⟩

theorem ipt_ok {commercialPrecise : Decimal} (taxed : ipt ctx table commercialPrecise trail = .ok next) :
    Decimal.zero.lt table.iptRate = .ok false ∧ next = trail ∨
    ∃ tax, Decimal.zero.lt table.iptRate = .ok true ∧ commercialPrecise.mul ctx table.iptRate = .ok tax ∧
      trail.subtotal.add ctx tax = .ok next.subtotal ∧ Appended ctx "taxes" trail next := by
  obtain ⟨positive, sign, taxed⟩ := bind_ok taxed
  cases positive with
  | false =>
      cases taxed
      exact .inl ⟨signaled_ok sign, rfl⟩
  | true =>
      obtain ⟨tax, product, taxed⟩ := bind_ok taxed
      obtain ⟨subtotal, sum, taxed⟩ := bind_ok taxed
      obtain ⟨percent, -, appended⟩ := bind_ok taxed
      obtain ⟨rfl, shown⟩ := append_ok appended
      exact .inr ⟨tax, signaled_ok sign, signaled_ok product, signaled_ok sum, shown⟩

/-! ## Growth -/

section Growth

variable {added : List LineItem}

/-- The last item of the trail shows its subtotal. -/
def Shows (ctx : DecimalContext) (trail : Trail) : Prop :=
  ∃ item ∈ trail.items.getLast?, toMinor ctx trail.subtotal = .ok item.runningSubtotalMinor

theorem Shows.grown (shows : Shows ctx trail) (grown : Grown ctx stage trail next added) : Shows ctx next := by
  by_cases nothing : added = []
  · rw [grown.still nothing]
    exact shows
  · have last := List.getLast?_eq_some_getLast nothing
    refine ⟨added.getLast nothing, ?_, grown.shown _ last⟩
    rw [grown.items, List.getLast?_append_of_ne_nil _ nothing]
    exact last

/-- A boundary amount is what the last item shows. -/
theorem Shows.minor (shows : Shows ctx trail) {minor : ℤ} (rounded : toMinor ctx trail.subtotal = .ok minor) :
    trail.items.getLast?.map (·.runningSubtotalMinor) = some minor := by
  obtain ⟨item, last, shown⟩ := shows
  rw [last, Option.map_some, Except.ok.inj (shown.symm.trans rounded)]

theorem adjust_grown {adj : Adjustment} (adjusted : adjust ctx flags trail adj = .ok next) :
    ∃ added, Grown ctx "loss_cost" trail next added := by
  rcases adjust_ok adjusted with ⟨-, rfl⟩ | ⟨-, -, appended⟩
  · exact ⟨[], .refl _⟩
  · exact appended.grown

theorem load_grown {loading : String × Decimal} (loaded : load ctx trail loading = .ok next) :
    ∃ added, Grown ctx "technical" trail next added := by
  rcases load_ok loaded with ⟨-, rfl⟩ | ⟨_, -, -, -, appended⟩
  · exact ⟨[], .refl _⟩
  · exact appended.grown

/-- The steps of a fold are steps of one stage. -/
theorem foldlM_grown {α : Type} {f : Trail → α → Except PyErr Trail} {steps : List α}
    (step : ∀ {before : Trail} {a : α} {after : Trail}, f before a = .ok after →
      ∃ added, Grown ctx stage before after added)
    (folded : steps.foldlM f trail = .ok next) : ∃ added, Grown ctx stage trail next added := by
  refine foldlM_ok (R := fun before after => ∃ added, Grown ctx stage before after added) ?_ ?_ (fun _ _ => step) folded
  · exact fun before => ⟨[], .refl before⟩
  · rintro _ _ _ ⟨added, first⟩ ⟨added', second⟩
    exact ⟨added ++ added', first.trans second⟩

/-- The first stage always has an item. -/
theorem lossCost_grown {occupancyFactor : Decimal} (priced : lossCost ctx facts table occupancyFactor = .ok next) :
    Shows ctx next ∧ ∀ item ∈ next.items, item.stage = "loss_cost" := by
  obtain ⟨_, base, factored, -, -, ⟨item, items, named, shown⟩, -, appended, adjusted⟩ := lossCost_ok priced
  obtain ⟨added, grown⟩ := appended.grown
  obtain ⟨added', grown'⟩ := foldlM_grown adjust_grown adjusted
  have whole := grown.trans grown'
  have shows : Shows ctx base := ⟨item, by rw [items]; rfl, shown⟩
  refine ⟨shows.grown whole, ?_⟩
  rw [whole.items, items]
  intro other member
  rcases List.mem_append.mp member with first | later
  · rwa [List.mem_singleton.mp first]
  · exact whole.named other later

theorem technical_grown (priced : technical ctx table trail = .ok next) :
    ∃ added, Grown ctx "technical" trail next added :=
  foldlM_grown load_grown priced

theorem commercial_grown (adjusted : commercial ctx facts table trail = .ok next) :
    ∃ added, Grown ctx "commercial" trail next added := by
  rcases commercial_ok adjusted with ⟨-, rfl⟩ | ⟨-, -, -, -, appended⟩
  · exact ⟨[], .refl _⟩
  · exact appended.grown

theorem fee_grown (charged : fee ctx table trail = .ok next) : ∃ added, Grown ctx "taxes" trail next added := by
  rcases fee_ok charged with ⟨-, rfl⟩ | ⟨-, -, appended⟩
  · exact ⟨[], .refl _⟩
  · exact appended.grown

theorem ipt_grown {commercialPrecise : Decimal} (taxed : ipt ctx table commercialPrecise trail = .ok next) :
    ∃ added, Grown ctx "taxes" trail next added := by
  rcases ipt_ok taxed with ⟨-, rfl⟩ | ⟨_, -, -, -, appended⟩
  · exact ⟨[], .refl _⟩
  · exact appended.grown

end Growth

/-! ## Stages -/

/-- The trails at the stage boundaries. -/
structure Stages where
  occupancyFactor : Decimal
  pure : Trail
  technical : Trail
  commercial : Trail
  charged : Trail
  final : Trail

/-- The breakdown was made from these stages. -/
structure Stages.Built (ctx : DecimalContext) (facts : RatingFacts) (table : RateTableSpec)
    (stages : Stages) (breakdown : QuoteBreakdown) : Prop where
  factor : table.occupancyFactors.lookup facts.occupancy = some stages.occupancyFactor
  pure : lossCost ctx facts table stages.occupancyFactor = .ok stages.pure
  purePremium : toMinor ctx stages.pure.subtotal = .ok breakdown.purePremiumMinor
  technical : Rating.technical ctx table stages.pure = .ok stages.technical
  technicalPremium : toMinor ctx stages.technical.subtotal = .ok breakdown.technicalPremiumMinor
  commercial : Rating.commercial ctx facts table stages.technical = .ok stages.commercial
  commercialPremium : toMinor ctx stages.commercial.subtotal = .ok breakdown.commercialPremiumMinor
  charged : fee ctx table stages.commercial = .ok stages.charged
  final : ipt ctx table stages.commercial.subtotal stages.charged = .ok stages.final
  premium : toMinor ctx stages.final.subtotal = .ok breakdown.premiumMinor
  taxes : breakdown.taxesMinor = breakdown.premiumMinor - breakdown.commercialPremiumMinor
  items : breakdown.lineItems = stages.final.items

/-- A price that was returned has stages behind it. -/
theorem rate_built (priced : rate ctx facts table = .ok breakdown) :
    ∃ stages : Stages, stages.Built ctx facts table breakdown := by
  simp only [rate] at priced
  split at priced
  · rename_i occupancyFactor factor
    obtain ⟨pure, priced₁, priced⟩ := bind_ok priced
    obtain ⟨purePremium, shown₁, priced⟩ := bind_ok priced
    obtain ⟨technical, priced₂, priced⟩ := bind_ok priced
    obtain ⟨technicalPremium, shown₂, priced⟩ := bind_ok priced
    obtain ⟨commercial, priced₃, priced⟩ := bind_ok priced
    obtain ⟨commercialPremium, shown₃, priced⟩ := bind_ok priced
    obtain ⟨charged, priced₄, priced⟩ := bind_ok priced
    obtain ⟨final, priced₅, priced⟩ := bind_ok priced
    obtain ⟨premium, shown₄, made⟩ := bind_ok priced
    cases made
    exact ⟨⟨occupancyFactor, pure, technical, commercial, charged, final⟩,
      factor, priced₁, shown₁, priced₂, shown₂, priced₃, shown₃, priced₄, priced₅, shown₄, rfl, rfl⟩
  · cases priced

/-- Stages that return make a price. -/
theorem rate_of_stages (stages : Stages) {pure technical commercial premium : ℤ}
    (factor : table.occupancyFactors.lookup facts.occupancy = some stages.occupancyFactor)
    (priced₁ : lossCost ctx facts table stages.occupancyFactor = .ok stages.pure)
    (shown₁ : toMinor ctx stages.pure.subtotal = .ok pure)
    (priced₂ : Rating.technical ctx table stages.pure = .ok stages.technical)
    (shown₂ : toMinor ctx stages.technical.subtotal = .ok technical)
    (priced₃ : Rating.commercial ctx facts table stages.technical = .ok stages.commercial)
    (shown₃ : toMinor ctx stages.commercial.subtotal = .ok commercial)
    (priced₄ : fee ctx table stages.commercial = .ok stages.charged)
    (priced₅ : ipt ctx table stages.commercial.subtotal stages.charged = .ok stages.final)
    (shown₄ : toMinor ctx stages.final.subtotal = .ok premium) :
    rate ctx facts table = .ok {
      rateTableVersion := table.version
      premiumMinor := premium
      currency := "EUR"
      lineItems := stages.final.items
      purePremiumMinor := pure
      technicalPremiumMinor := technical
      commercialPremiumMinor := commercial
      taxesMinor := premium - commercial } := by
  simp only [rate, factor, priced₁, shown₁, priced₂, shown₂, priced₃, shown₃, priced₄, priced₅, shown₄, bind,
    Except.bind]
  rfl

/-- A block passes as a whole or not at all. -/
theorem filter_block {items : List LineItem} {stage : String} (named : ∀ item ∈ items, item.stage = stage)
    (passes : String → Bool) :
    (items.filter fun item => passes item.stage) = if passes stage then items else [] := by
  split
  · rename_i passing
    exact List.filter_eq_self.mpr fun item member => by rwa [named item member]
  · rename_i stopped
    exact List.filter_eq_nil_iff.mpr fun item member => by rwa [named item member]

end Underwriting.Rating
