import Underwriting.Appetite.Rules

/-! # Tightening the appetite never relaxes a decision

Every rule that a submission trips, it trips against a tighter ruleset and with a
larger insured value, so each tier of the assessment only gains reasons. What the
decline tier hides is the referral reasons, but then the outcome is worse.
-/

namespace Underwriting.Tighten

open Appetite

variable {submission : SubmissionFacts} {ruleset ruleset' : RulesetSpec} {tivEur : ℤ}

/-- Accept, then refer, then decline. -/
def severity : Outcome → ℕ
  | .accept => 0
  | .refer => 1
  | .decline => 2

/-- The second ruleset allows nothing that the first does not. -/
structure Tighter (ruleset ruleset' : RulesetSpec) : Prop where
  sanctioned : ruleset.sanctionedCountries ⊆ ruleset'.sanctionedCountries
  excluded : ruleset.excludedOccupancies ⊆ ruleset'.excludedOccupancies
  allowed : ruleset'.allowedLobs ⊆ ruleset.allowedLobs
  maxTiv : ruleset'.maxTivEur ≤ ruleset.maxTivEur

/-- The second decision is no milder, and gives every reason for the same refusal. -/
structure NoMilder (first second : Outcome × List ReasonCode) : Prop where
  outcome : severity first.1 ≤ severity second.1
  reasons : first.1 = second.1 → first.1 ≠ .accept → first.2 ⊆ second.2

/-- The codes of the one set are those of the other, in any letter case. -/
structure Recoded (codes codes' : Finset String) : Prop where
  kept : ∀ code ∈ codes, ∃ code' ∈ codes', Unicode.Recased code code'
  only : ∀ code' ∈ codes', ∃ code ∈ codes, Unicode.Recased code code'

/-- A tripped rule gives its reason. -/
theorem tripped_mono {p q : Prop} [Decidable p] [Decidable q] {reason : ReasonCode} (implies : p → q) :
    (if p then [reason] else []) ⊆ (if q then [reason] else []) := by
  by_cases tripped : p
  · rw [if_pos tripped, if_pos (implies tripped)]
    exact List.Subset.refl _
  · rw [if_neg tripped]
    exact List.nil_subset _

theorem append_mono {first first' second second' : List ReasonCode} (left : first ⊆ first')
    (right : second ⊆ second') : first ++ second ⊆ first' ++ second' := by
  apply List.append_subset.mpr
  constructor
  · exact List.subset_append_of_subset_left _ left
  · exact List.subset_append_of_subset_right _ right

theorem declineReasons_mono (tighter : Tighter ruleset ruleset') :
    declineReasons submission ruleset ⊆ declineReasons { submission with tivEur := tivEur } ruleset' := by
  apply append_mono
  · apply tripped_mono
    intro sanctioned
    exact Finset.image_subset_image tighter.sanctioned sanctioned
  · apply tripped_mono
    intro excluded
    exact tighter.excluded excluded

theorem referReasons_mono (tighter : Tighter ruleset ruleset') (more : submission.tivEur ≤ tivEur) :
    referReasons submission ruleset ⊆ referReasons { submission with tivEur := tivEur } ruleset' := by
  apply append_mono
  · apply tripped_mono
    intro outside allowed
    exact outside (tighter.allowed allowed)
  · apply tripped_mono
    intro above
    exact lt_of_le_of_lt tighter.maxTiv (lt_of_lt_of_le above more)

/-- An assessment goes by the first tier that has reasons. -/
inductive Decided (submission : SubmissionFacts) (ruleset : RulesetSpec) : Outcome × List ReasonCode → Prop where
  | decline (some_reason : declineReasons submission ruleset ≠ []) :
      Decided submission ruleset (.decline, declineReasons submission ruleset)
  | refer (none : declineReasons submission ruleset = []) (some_reason : referReasons submission ruleset ≠ []) :
      Decided submission ruleset (.refer, referReasons submission ruleset)
  | accept (none : declineReasons submission ruleset = []) (none' : referReasons submission ruleset = []) :
      Decided submission ruleset (.accept, [.withinAppetite])

theorem assess_decided (submission : SubmissionFacts) (ruleset : RulesetSpec) :
    Decided submission ruleset (assess submission ruleset) := by
  rw [assess]
  split
  · exact .decline ‹_›
  · rename_i clean
    split
    · exact .refer (not_not.mp clean) ‹_›
    · exact .accept (not_not.mp clean) (not_not.mp ‹_›)

/-- No tier of the second has lost a reason, so its first tier with reasons is none that
    is milder. -/
theorem decided_mono {submission' : SubmissionFacts} {first second : Outcome × List ReasonCode}
    (declines : declineReasons submission ruleset ⊆ declineReasons submission' ruleset')
    (refers : referReasons submission ruleset ⊆ referReasons submission' ruleset')
    (decided : Decided submission ruleset first) (decided' : Decided submission' ruleset' second) :
    NoMilder first second := by
  have lost : ∀ {reasons reasons' : List ReasonCode}, reasons ⊆ reasons' → reasons ≠ [] → reasons' ≠ [] := by
    rintro reasons _ kept some_reason rfl
    exact some_reason (List.subset_nil.mp kept)
  cases decided with
  | decline some_reason =>
      cases decided' with
      | decline => exact ⟨le_refl _, fun _ _ => declines⟩
      | refer none | accept none => exact absurd none (lost declines some_reason)
  | refer none some_reason =>
      cases decided' with
      | decline => exact ⟨Nat.le_succ _, nofun⟩
      | refer => exact ⟨le_refl _, fun _ _ => refers⟩
      | accept none' none'' => exact absurd none'' (lost refers some_reason)
  | accept => exact ⟨Nat.zero_le _, fun _ refused => absurd rfl refused⟩

theorem sanctioned_recased {country country' : String} {codes codes' : Finset String}
    (recased : Unicode.Recased country country') (recoded : Recoded codes codes') :
    Unicode.upper country' ∈ codes'.image Unicode.upper ↔ Unicode.upper country ∈ codes.image Unicode.upper := by
  have images : codes'.image Unicode.upper = codes.image Unicode.upper := by
    ext upper
    simp only [Finset.mem_image]
    constructor
    · rintro ⟨code', member, rfl⟩
      obtain ⟨code, member', recased⟩ := recoded.only code' member
      exact ⟨code, member', (Unicode.upper_recased recased).symm⟩
    · rintro ⟨code, member, rfl⟩
      obtain ⟨code', member', recased⟩ := recoded.kept code member
      exact ⟨code', member', Unicode.upper_recased recased⟩
  rw [images, Unicode.upper_recased recased]

/-- Against a tighter ruleset and with no smaller insured value no decision is milder, and
    the letter case of country codes does not matter. -/
theorem tightening_never_relaxes :
    (∀ (submission : SubmissionFacts) (ruleset ruleset' : RulesetSpec) (tivEur : ℤ), Tighter ruleset ruleset' →
      submission.tivEur ≤ tivEur →
      NoMilder (assess submission ruleset) (assess { submission with tivEur := tivEur } ruleset')) ∧
    ∀ (submission : SubmissionFacts) (ruleset : RulesetSpec) (country : String) (codes : Finset String),
      Unicode.Recased submission.country country → Recoded ruleset.sanctionedCountries codes →
      assess { submission with country := country } { ruleset with sanctionedCountries := codes } =
        assess submission ruleset := by
  constructor
  · intro submission ruleset ruleset' tivEur tighter more
    exact decided_mono (declineReasons_mono tighter) (referReasons_mono tighter more)
      (assess_decided submission ruleset)
      (assess_decided _ ruleset')
  · intro submission ruleset country codes recased recoded
    have declines : declineReasons { submission with country := country }
        { ruleset with sanctionedCountries := codes } = declineReasons submission ruleset := by
      simp only [declineReasons, sanctioned_recased recased recoded]
    rw [assess, assess, declines]
    rfl

def standing : RulesetSpec where
  version := 1
  allowedLobs := {LineOfBusiness.commercialProperty.value, LineOfBusiness.marine.value}
  maxTivEur := 1000000000
  excludedOccupancies := {Occupancy.fireworksManufacturing.value}
  sanctionedCountries := {"KP", "IR"}

def cautious : RulesetSpec :=
  { standing with allowedLobs := {LineOfBusiness.commercialProperty.value}, maxTivEur := 500000000 }

def cargo : SubmissionFacts where
  lineOfBusiness := LineOfBusiness.marine.value
  tivEur := 2000000000
  occupancy := Occupancy.warehouse.value
  country := "FR"

theorem tightening_never_relaxes_cargo :
    assess cargo standing = (.refer, [.tivAboveAuthority]) ∧
    assess { cargo with tivEur := 2500000000 } cautious = (.refer, [.lobOutOfAppetite, .tivAboveAuthority]) ∧
    NoMilder (assess cargo standing) (assess { cargo with tivEur := 2500000000 } cautious) ∧
    assess { cargo with country := "fr" } { standing with sanctionedCountries := {"kp", "iR"} } =
      assess cargo standing := by
  have tighter : Tighter standing cautious := ⟨by decide, by decide, by decide, by decide⟩
  have recoded : Recoded standing.sanctionedCountries {"kp", "iR"} := by
    have codes : Unicode.Recased "KP" "kp" ∧ Unicode.Recased "IR" "iR" := by
      simp [Unicode.Recased, Unicode.RecasedChar]
    constructor
    · intro code member
      simp only [standing, Finset.mem_insert, Finset.mem_singleton] at member
      rcases member with rfl | rfl
      · exact ⟨"kp", by decide, codes.1⟩
      · exact ⟨"iR", by decide, codes.2⟩
    · intro code member
      simp only [Finset.mem_insert, Finset.mem_singleton] at member
      rcases member with rfl | rfl
      · exact ⟨"KP", by decide, codes.1⟩
      · exact ⟨"IR", by decide, codes.2⟩
  refine ⟨by decide, by decide, ?_, ?_⟩
  · exact tightening_never_relaxes.1 cargo standing cautious 2500000000 tighter (by decide)
  · apply tightening_never_relaxes.2 cargo standing "fr" {"kp", "iR"} ?_ recoded
    simp [Unicode.Recased, Unicode.RecasedChar, cargo]

end Underwriting.Tighten
