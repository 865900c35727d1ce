import Mathlib.Data.Finset.Sort
import Mathlib.Data.String.Basic
import Underwriting.Enums
import Underwriting.Errors
import Underwriting.Lib.Text

/-! # The rating engine

`app/rating/engine.py`: a rate table's payload as a typed value, and the staged
build-up of a premium (loss cost, technical, commercial, taxes) with one line
item for each step. Amounts are eurocents; the subtotal is a decimal that is
rounded only for display and at the stage boundaries.
-/

namespace Underwriting.Rating

instance : Coe String Json := ⟨.str⟩

/-- A named loading or discount, gated by a flag unless `appliesWhen` is null. The
    payload is not checked: what stands under a key is carried as it is. -/
structure Adjustment where
  name : Json
  kind : Json
  factor : Decimal
  appliesWhen : Json

/-- The payload of a rate table; the loading stack is neutral unless given. -/
structure RateTableSpec where
  version : ℤ
  baseRatePermille : Decimal
  occupancyFactors : List (String × Decimal)
  adjustments : List Adjustment
  expenseLoading : Decimal := .zero
  riskMargin : Decimal := .zero
  catProvision : Decimal := .zero
  commercialAdjustmentMin : Decimal := .one
  commercialAdjustmentMax : Decimal := .one
  iptRate : Decimal := .zero
  fixedFeesMinor : ℤ := 0

def factorsOf : Json → Except PyErr (List (String × Decimal))
  | .obj fields => fields.mapM fun (occupancy, factor) => return (occupancy, ← decimalOf factor)
  | _ => .error .attribute

def adjustmentOf (a : Json) : Except PyErr Adjustment := do
  let name ← item a "name"
  let kind ← item a "kind"
  let factor ← decimalOf (← item a "factor")
  let appliesWhen ← get a "applies_when" .null
  return { name, kind, factor, appliesWhen }

def RateTableSpec.fromRules (version : ℤ) (rules : Json) : Except PyErr RateTableSpec := do
  let dec (key default : String) : Except PyErr Decimal := do decimalOf (← get rules key default)
  return {
    version := version
    baseRatePermille := ← decimalOf (← item rules "base_rate_permille")
    occupancyFactors := ← factorsOf (← item rules "occupancy_factors")
    adjustments := ← (← iterate (← get rules "adjustments" (.arr []))).mapM adjustmentOf
    expenseLoading := ← dec "expense_loading" "0"
    riskMargin := ← dec "risk_margin" "0"
    catProvision := ← dec "cat_provision" "0"
    commercialAdjustmentMin := ← dec "commercial_adjustment_min" "1"
    commercialAdjustmentMax := ← dec "commercial_adjustment_max" "1"
    iptRate := ← dec "ipt_rate" "0"
    fixedFeesMinor := ← intOf (← get rules "fixed_fees_minor" (.int 0)) }

theorem RateTableSpec.fromRules_version {version : ℤ} {rules : Json} {spec}
    (built : RateTableSpec.fromRules version rules = .ok spec) : spec.version = version := by
  simp only [fromRules] at built
  repeat obtain ⟨_, -, built⟩ := bind_ok built
  cases built
  rfl

/-- The facts the engine needs from a submission. -/
structure RatingFacts where
  tivEur : ℤ
  occupancy : String
  flags : Finset String
  commercialAdjustment : Decimal := .one
  deriving DecidableEq

/-- One step of the build-up. -/
structure LineItem where
  label : Json
  kind : Json
  value : String
  runningSubtotalMinor : ℤ
  stage : String := "loss_cost"

/-- The explainable result of pricing. -/
structure QuoteBreakdown where
  rateTableVersion : ℤ
  premiumMinor : ℤ
  currency : String
  lineItems : List LineItem
  purePremiumMinor : ℤ := 0
  technicalPremiumMinor : ℤ := 0
  commercialPremiumMinor : ℤ := 0
  taxesMinor : ℤ := 0

/-- A signal of the decimal context, raised. -/
def signaled {α : Type} : Except DecimalSignal α → Except PyErr α := Except.mapError .decimal

section Pricing

variable (ctx : DecimalContext)

/-- Round to a whole eurocent, half-up. -/
def toMinor (amount : Decimal) : Except PyErr ℤ := do
  match (← signaled (amount.quantizeUnit ctx)).toInt? with
  | some minor => return minor
  | none => throw .value

/-- The subtotal so far and the line items that led to it. -/
structure Trail where
  subtotal : Decimal
  items : List LineItem

/-- `subtotal = ...; items.append(LineItem(...))`. -/
def Trail.append (trail : Trail) (label kind : Json) (value : String) (subtotal : Decimal) (stage : String) :
    Except PyErr Trail := do
  let runningSubtotalMinor ← toMinor ctx subtotal
  return ⟨subtotal, trail.items ++ [⟨label, kind, value, runningSubtotalMinor, stage⟩]⟩

/-- `adj.applies_when is None or adj.applies_when in facts.flags`. -/
def applies (flags : Finset String) : Json → Except PyErr Bool
  | .null => .ok true
  | .str flag => .ok (flag ∈ flags)
  | gate => if gate.hashable then .ok false else .error .type

def adjust (flags : Finset String) (trail : Trail) (adj : Adjustment) : Except PyErr Trail := do
  if ← applies flags adj.appliesWhen then
    let subtotal ← signaled (trail.subtotal.mul ctx adj.factor)
    trail.append ctx adj.name adj.kind ("×" ++ adj.factor.str) subtotal "loss_cost"
  else return trail

/-- The pure premium: base rate, occupancy factor, then the ordered adjustments. -/
def lossCost (facts : RatingFacts) (table : RateTableSpec) (occupancyFactor : Decimal) : Except PyErr Trail := do
  let permille ← signaled (table.baseRatePermille.div ctx (.ofInt 1000))
  let base ← signaled (permille.mul ctx (.ofInt facts.tivEur))
  let trail ← Trail.append ctx ⟨base, []⟩ "base_rate" "base" (table.baseRatePermille.str ++ "‰ of TIV") base "loss_cost"
  let subtotal ← signaled (trail.subtotal.mul ctx occupancyFactor)
  let trail ← trail.append ctx ("occupancy_factor:" ++ facts.occupancy) "factor"
    ("×" ++ occupancyFactor.str) subtotal "loss_cost"
  table.adjustments.foldlM (adjust ctx facts.flags) trail

/-- One technical loading, skipped unless positive. -/
def load (trail : Trail) (loading : String × Decimal) : Except PyErr Trail := do
  let (name, pct) := loading
  if ← signaled (Decimal.zero.lt pct) then
    let factor ← signaled (Decimal.one.add ctx pct)
    let subtotal ← signaled (trail.subtotal.mul ctx factor)
    trail.append ctx name "loading" ("×" ++ factor.str) subtotal "technical"
  else return trail

def technical (table : RateTableSpec) (trail : Trail) : Except PyErr Trail :=
  [("expense_loading", table.expenseLoading), ("risk_margin", table.riskMargin),
    ("cat_provision", table.catProvision)].foldlM (load ctx) trail

def outOfBand (cadj : Decimal) (table : RateTableSpec) : PyErr :=
  .rating ("commercial adjustment " ++ cadj.str ++ " outside the authorised band [" ++
    table.commercialAdjustmentMin.str ++ ", " ++ table.commercialAdjustmentMax.str ++ "] (rate table v" ++
    toString table.version ++ ") — refer to the CUO")

/-- The commercial adjustment; a neutral one is not looked at further. -/
def commercial (facts : RatingFacts) (table : RateTableSpec) (trail : Trail) : Except PyErr Trail := do
  let cadj := facts.commercialAdjustment
  if ← signaled (cadj.eq .one) then return trail
  if ← signaled (cadj.lt table.commercialAdjustmentMin) then throw (outOfBand cadj table)
  if ← signaled (table.commercialAdjustmentMax.lt cadj) then throw (outOfBand cadj table)
  let subtotal ← signaled (trail.subtotal.mul ctx cadj)
  let discount ← signaled (cadj.lt .one)
  trail.append ctx "commercial_adjustment" (if discount then "discount" else "loading")
    ("×" ++ cadj.str) subtotal "commercial"

def fee (table : RateTableSpec) (trail : Trail) : Except PyErr Trail := do
  if table.fixedFeesMinor > 0 then
    let subtotal ← signaled (trail.subtotal.add ctx (.ofInt table.fixedFeesMinor))
    trail.append ctx "policy_fee" "fee" ("+" ++ toString table.fixedFeesMinor ++ " minor") subtotal "taxes"
  else return trail

/-- Premium tax, on the commercial premium and never on the fee. -/
def ipt (table : RateTableSpec) (commercialPrecise : Decimal) (trail : Trail) : Except PyErr Trail := do
  if ← signaled (Decimal.zero.lt table.iptRate) then
    let ipt ← signaled (commercialPrecise.mul ctx table.iptRate)
    let subtotal ← signaled (trail.subtotal.add ctx ipt)
    let percent ← signaled (table.iptRate.mul ctx (.ofInt 100))
    trail.append ctx "ipt" "tax" ("+" ++ percent.str ++ "% of commercial premium") subtotal "taxes"
  else return trail

/-- Price a risk against a rate table. -/
def rate (facts : RatingFacts) (table : RateTableSpec) : Except PyErr QuoteBreakdown := do
  let some occupancyFactor := table.occupancyFactors.lookup facts.occupancy
    | throw (.rating ("no occupancy factor for " ++ Json.reprText facts.occupancy ++ " in rate table v" ++
        toString table.version))
  let pure ← lossCost ctx facts table occupancyFactor
  let purePremiumMinor ← toMinor ctx pure.subtotal
  let technical ← technical ctx table pure
  let technicalPremiumMinor ← toMinor ctx technical.subtotal
  let commercial ← commercial ctx facts table technical
  let commercialPremiumMinor ← toMinor ctx commercial.subtotal
  let final ← ipt ctx table commercial.subtotal (← fee ctx table commercial)
  let premiumMinor ← toMinor ctx final.subtotal
  return {
    rateTableVersion := table.version
    premiumMinor
    currency := "EUR"
    lineItems := final.items
    purePremiumMinor, technicalPremiumMinor, commercialPremiumMinor
    taxesMinor := premiumMinor - commercialPremiumMinor }

theorem rate_labels {ctx : DecimalContext} {facts table breakdown} (priced : rate ctx facts table = .ok breakdown) :
    breakdown.rateTableVersion = table.version ∧ breakdown.currency = "EUR" := by
  simp only [rate] at priced
  split at priced
  · repeat obtain ⟨_, -, priced⟩ := bind_ok priced
    cases priced
    exact ⟨rfl, rfl⟩
  · cases priced

end Pricing

/-- The seed rate table. -/
def v1Rules : Json := .obj v1Fields
where
  v1Fields : List (String × Json) := [
    ("base_rate_permille", "0.5"),
    ("occupancy_factors", .obj [
      (Occupancy.office.value, "1.0"), (Occupancy.retail.value, "1.1"), (Occupancy.warehouse.value, "1.25"),
      (Occupancy.lightManufacturing.value, "1.5"), (Occupancy.fireworksManufacturing.value, "3.0")]),
    ("adjustments", .arr [
      .obj [("name", "high_tiv_loading"), ("kind", "loading"), ("factor", "1.10"), ("applies_when", "high_tiv")],
      .obj [("name", "sprinklered_discount"), ("kind", "discount"), ("factor", "0.95"),
        ("applies_when", "sprinklered")]])]

/-- The rules of version 1 with the loading stack. -/
def v2Rules : Json := .obj (v1Rules.v1Fields ++ loadingStack)
where
  loadingStack : List (String × Json) := [
    ("expense_loading", "0.15"), ("risk_margin", "0.06"), ("cat_provision", "0.04"),
    ("commercial_adjustment_min", "0.85"), ("commercial_adjustment_max", "1.15"),
    ("ipt_rate", "0.09"), ("fixed_fees_minor", .int 5000)]

/-- Five million euros; a risk of exactly this value is not loaded. -/
def highTivThresholdEur : ℤ := 500000000

end Underwriting.Rating
