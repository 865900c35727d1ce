import Underwriting.Properties.Replay
import Underwriting.Rating.Stages

/-! # The staged trail reconciles

The items of a returned price stand in the order of their stages, and every
boundary amount is what the last item before that boundary shows. A stored quote
carries the amounts and items of such a price.
-/

namespace Underwriting.Reconcile

open Interleaving
open Rating RatingService

/-- The stages of a build-up, in their order. -/
def stages : List String := ["loss_cost", "technical", "commercial", "taxes"]

/-- The running subtotal of the last item whose stage passes. -/
def lastShown (items : List LineItem) (passes : String → Bool) : Option ℤ :=
  (items.filter fun item => passes item.stage).getLast?.map (·.runningSubtotalMinor)

/-- Every boundary amount is the subtotal of the right item. -/
structure Reconciles (breakdown : QuoteBreakdown) : Prop where
  named : ∀ item ∈ breakdown.lineItems, item.stage ∈ stages
  ordered : breakdown.lineItems.Pairwise fun earlier later => stages.idxOf earlier.stage ≤ stages.idxOf later.stage
  pure : lastShown breakdown.lineItems (· = "loss_cost") = some breakdown.purePremiumMinor
  technical : lastShown breakdown.lineItems (fun stage => stage = "loss_cost" ∨ stage = "technical") =
    some breakdown.technicalPremiumMinor
  commercial : lastShown breakdown.lineItems (· ≠ "taxes") = some breakdown.commercialPremiumMinor
  premium : breakdown.lineItems.getLast?.map (·.runningSubtotalMinor) = some breakdown.premiumMinor
  taxes : breakdown.taxesMinor = breakdown.premiumMinor - breakdown.commercialPremiumMinor
  untaxed : (∀ item ∈ breakdown.lineItems, item.stage ≠ "taxes") → breakdown.taxesMinor = 0

/-- The items of a price, stage by stage. -/
structure Blocks (breakdown : QuoteBreakdown) (cost load adjustment tax : List LineItem) : Prop where
  items : breakdown.lineItems = cost ++ load ++ adjustment ++ tax
  costs : ∀ item ∈ cost, item.stage = "loss_cost"
  loadings : ∀ item ∈ load, item.stage = "technical"
  adjusted : ∀ item ∈ adjustment, item.stage = "commercial"
  taxed : ∀ item ∈ tax, item.stage = "taxes"
  pure : cost.getLast?.map (·.runningSubtotalMinor) = some breakdown.purePremiumMinor
  technical : (cost ++ load).getLast?.map (·.runningSubtotalMinor) = some breakdown.technicalPremiumMinor
  commercial : (cost ++ load ++ adjustment).getLast?.map (·.runningSubtotalMinor) =
    some breakdown.commercialPremiumMinor
  premium : breakdown.lineItems.getLast?.map (·.runningSubtotalMinor) = some breakdown.premiumMinor

section Pricing

variable {ctx : DecimalContext} {facts : RatingFacts} {table : RateTableSpec} {breakdown : QuoteBreakdown}

theorem blocks {stages : Stages} (built : stages.Built ctx facts table breakdown) :
    ∃ cost load adjustment tax, Blocks breakdown cost load adjustment tax := by
  obtain ⟨shows, named⟩ := lossCost_grown built.pure
  obtain ⟨technical, grown₂⟩ := technical_grown built.technical
  obtain ⟨commercial, grown₃⟩ := commercial_grown built.commercial
  obtain ⟨fees, charged⟩ := fee_grown built.charged
  obtain ⟨tax, taxed⟩ := ipt_grown built.final
  have grown₄ := charged.trans taxed
  have shows₂ := shows.grown grown₂
  have shows₃ := shows₂.grown grown₃
  have shows₄ := shows₃.grown grown₄
  have items₂ : stages.technical.items = stages.pure.items ++ technical := grown₂.items
  have items₃ : stages.commercial.items = stages.pure.items ++ technical ++ commercial := items₂ ▸ grown₃.items
  have items₄ : breakdown.lineItems = stages.pure.items ++ technical ++ commercial ++ (fees ++ tax) := by
    rw [built.items, grown₄.items, items₃]
  refine ⟨stages.pure.items, technical, commercial, fees ++ tax,
    items₄, named, grown₂.named, grown₃.named, grown₄.named, ?_, ?_, ?_, ?_⟩
  · exact shows.minor built.purePremium
  · exact items₂ ▸ shows₂.minor built.technicalPremium
  · exact items₃ ▸ shows₃.minor built.commercialPremium
  · exact built.items ▸ shows₄.minor built.premium

/-- Items of one stage stand before items of the same or a later one. -/
theorem stage_le {items items' : List LineItem} {stage stage' : String} (named : ∀ item ∈ items, item.stage = stage)
    (named' : ∀ item ∈ items', item.stage = stage') (le : stages.idxOf stage ≤ stages.idxOf stage') :
    ∀ earlier ∈ items, ∀ later ∈ items', stages.idxOf earlier.stage ≤ stages.idxOf later.stage := by
  intro earlier member later member'
  rwa [named earlier member, named' later member']

theorem pairwise_block {items : List LineItem} {stage : String} (named : ∀ item ∈ items, item.stage = stage) :
    items.Pairwise fun earlier later => stages.idxOf earlier.stage ≤ stages.idxOf later.stage :=
  List.pairwise_of_forall_mem_list fun earlier member later member' =>
    stage_le named named le_rfl earlier member later member'

namespace Blocks

variable {cost load adjustment tax : List LineItem} (blocks : Blocks breakdown cost load adjustment tax)
include blocks

theorem lastShown (passes : String → Bool) : lastShown breakdown.lineItems passes =
    ((if passes "loss_cost" then cost else []) ++ (if passes "technical" then load else []) ++
      (if passes "commercial" then adjustment else []) ++ if passes "taxes" then tax else []).getLast?.map
        (·.runningSubtotalMinor) := by
  simp only [Reconcile.lastShown, blocks.items, List.filter_append, filter_block blocks.costs,
    filter_block blocks.loadings, filter_block blocks.adjusted, filter_block blocks.taxed]

theorem member {item : LineItem} (member : item ∈ breakdown.lineItems) :
    item ∈ cost ∧ item.stage = "loss_cost" ∨ item ∈ load ∧ item.stage = "technical" ∨
      item ∈ adjustment ∧ item.stage = "commercial" ∨ item ∈ tax ∧ item.stage = "taxes" := by
  rw [blocks.items] at member
  simp only [List.mem_append, or_assoc] at member
  rcases member with first | second | third | last
  · exact .inl ⟨first, blocks.costs item first⟩
  · exact .inr (.inl ⟨second, blocks.loadings item second⟩)
  · exact .inr (.inr (.inl ⟨third, blocks.adjusted item third⟩))
  · exact .inr (.inr (.inr ⟨last, blocks.taxed item last⟩))

theorem ordered :
    breakdown.lineItems.Pairwise fun earlier later => stages.idxOf earlier.stage ≤ stages.idxOf later.stage := by
  rw [blocks.items]
  simp only [List.pairwise_append, List.mem_append, or_imp, forall_and]
  refine ⟨⟨⟨pairwise_block blocks.costs, pairwise_block blocks.loadings, ?_⟩,
    pairwise_block blocks.adjusted, ?_, ?_⟩, pairwise_block blocks.taxed, ⟨?_, ?_⟩, ?_⟩
  · exact stage_le blocks.costs blocks.loadings (by decide)
  · exact stage_le blocks.costs blocks.adjusted (by decide)
  · exact stage_le blocks.loadings blocks.adjusted (by decide)
  · exact stage_le blocks.costs blocks.taxed (by decide)
  · exact stage_le blocks.loadings blocks.taxed (by decide)
  · exact stage_le blocks.adjusted blocks.taxed (by decide)

theorem reconciles (difference : breakdown.taxesMinor = breakdown.premiumMinor - breakdown.commercialPremiumMinor) :
    Reconciles breakdown where
  named item member := by
    rcases blocks.member member with ⟨-, named⟩ | ⟨-, named⟩ | ⟨-, named⟩ | ⟨-, named⟩ <;> rw [named] <;> decide
  ordered := blocks.ordered
  pure := by
    rw [blocks.lastShown]
    simpa using blocks.pure
  technical := by
    rw [blocks.lastShown]
    simpa using blocks.technical
  commercial := by
    rw [blocks.lastShown]
    simpa using blocks.commercial
  premium := blocks.premium
  taxes := difference
  untaxed none := by
    have nothing : tax = [] := List.eq_nil_iff_forall_not_mem.mpr fun item member =>
      none item (blocks.items ▸ List.mem_append_right _ member) (blocks.taxed item member)
    have last := blocks.premium
    rw [blocks.items, nothing, List.append_nil, blocks.commercial, Option.some_inj] at last
    rw [difference, last, sub_self]

end Blocks

theorem rate_reconciles (priced : rate ctx facts table = .ok breakdown) : Reconciles breakdown := by
  obtain ⟨stages, built⟩ := rate_built priced
  obtain ⟨_, _, _, _, blocks⟩ := blocks built
  exact blocks.reconciles built.taxes

end Pricing

variable {σ φ υ : Type} {P : PasModel σ φ υ}

/-- Every returned price reconciles, and every stored quote is such a price of its submission. -/
theorem trail_reconciles {pas : σ} {s : ProgSys σ}
    (run : Run (backend P) requests anyStep (idle (.initial pas)) s) :
    (∀ ctx facts table breakdown, rate ctx facts table = .ok breakdown → Reconciles breakdown) ∧
    ∀ quote ∈ s.world.db.quotes, ∃ submission ∈ s.world.db.submissions, ∃ rateTable ∈ s.world.db.rateTables,
      ∃ breakdown, submission.id = quote.submissionId ∧ priced submission rateTable = .ok breakdown ∧
        Replay.Stores quote breakdown ∧ Reconciles breakdown := by
  refine ⟨fun _ _ _ _ => rate_reconciles, ?_⟩
  obtain ⟨s, lifted, rfl⟩ := lift_idle run
  intro quote member
  obtain ⟨file, read, written⟩ := (sourced_run lifted).quotes quote member
  obtain ⟨new, stamp⟩ := quote
  obtain rfl : new = _ := written
  obtain ⟨spec, -, rated⟩ := bind_ok read.priced
  exact ⟨file.submission, read.has.1, file.rateTable, read.rateTable, file.breakdown, rfl, read.priced,
    ⟨rfl, rfl, rfl, rfl, rfl, rfl, Replay.carries_items file.breakdown⟩, rate_reconciles rated⟩

theorem requoted_reconciles : ∃ s, Run Scenario.service requests anyStep Scenario.empty s ∧
    s.world.db.quotes.map (·.taxesMinor) = [some 0, some 5006] ∧
    (∀ ctx facts table breakdown, rate ctx facts table = .ok breakdown → Reconciles breakdown) ∧
    ∀ quote ∈ s.world.db.quotes, ∃ submission ∈ s.world.db.submissions, ∃ rateTable ∈ s.world.db.rateTables,
      ∃ breakdown, submission.id = quote.submissionId ∧ priced submission rateTable = .ok breakdown ∧
        Replay.Stores quote breakdown ∧ Reconciles breakdown := by
  obtain ⟨s, run, taxes⟩ := exists_run Scenario.service requests anyStep Scenario.empty Replay.requoted
    (fun s => s.world.db.quotes.map (·.taxesMinor) == [some 0, some 5006]) (by decide +kernel)
  exact ⟨s, run, by simpa using taxes, trail_reconciles run⟩

end Underwriting.Reconcile
