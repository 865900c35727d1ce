import Underwriting.Lib.Calls
import Underwriting.Machine.Scenario
import Underwriting.Submission.Service

/-! # What intake writes, and the columns it goes to

Intake checks the length of a country code and writes its upper case, it bounds the
insured value below only, and it checks neither the actor nor the characters of a text.
So a validated payload fits its columns exactly as far as the value is in the range of
the column, no character of a country code has more than one in upper case, no text has
a U+0000, and the actor is short enough.
-/

namespace Underwriting.Columns

open Interleaving (Prog)
open SubmissionService

/-- Every insert that intake can come to fits. -/
def Storable (payload : SubmissionCreate) (actor : String) : Prop := (createSubmission payload actor).Calls Call.Fits

/-- What the checks of the payload leave open, and the actor. -/
structure Bounded (payload : SubmissionCreate) (actor : String) : Prop where
  tivEur : payload.tivEur < 2 ^ 63
  counterparty : ∀ c ∈ payload.counterparty.country.toList, ¬Unicode.Lengthened c
  country : ∀ c ∈ payload.country.toList, ¬Unicode.Lengthened c
  texts : ∀ text ∈ [payload.counterparty.name, payload.counterparty.country, payload.country, payload.postcode,
    payload.requestedCover], '\x00' ∉ text.toList
  brokerRef : ∀ ref ∈ payload.brokerRef, '\x00' ∉ ref.toList
  actor : actor.length ≤ 128 ∧ '\x00' ∉ actor.toList

variable {payload : SubmissionCreate} {actor : String}

def newCounterparty (payload : SubmissionCreate) : NewCounterparty where
  name := payload.counterparty.name
  country := Unicode.upper payload.counterparty.country

theorem created_fits {submission : Submission} : (createdEntry submission actor).Fits ↔ Varchar 128 actor := by
  have action : Varchar 64 "submission.created" := by decide
  exact ⟨fun fits => fits.actor, fun actor => ⟨action, actor, fun _ none => nomatch none⟩⟩

/-- The inserts of intake, whatever ids the rows get. -/
theorem storable_iff : Storable payload actor ↔
    (newCounterparty payload).Fits ∧ (∀ id, (newSubmission payload id).Fits) ∧ Varchar 128 actor := by
  constructor
  · intro calls
    obtain ⟨counterparty, calls⟩ := Prog.calls_perform_bind.mp calls
    have rows := fun id => Prog.calls_perform_bind.mp
      (calls { toNewCounterparty := newCounterparty payload, id := id, time := 0 })
    have entry := (rows "").2 { toNewSubmission := newSubmission payload "", id := "", time := 0 }
    exact ⟨counterparty, fun id => (rows id).1, created_fits.mp (Prog.calls_perform_bind.mp entry).1⟩
  · rintro ⟨counterparty, submission, short⟩
    apply Prog.calls_perform_bind.mpr
    refine ⟨counterparty, fun cp => Prog.calls_perform_bind.mpr ⟨submission cp.id, fun row => ?_⟩⟩
    refine Prog.calls_perform_bind.mpr ⟨created_fits.mpr short, fun entry => ?_⟩
    -- what is left inserts nothing
    exact Prog.Calls.bind (Prog.calls_perform trivial) fun _ =>
      Prog.Calls.bind (Prog.calls_perform trivial) fun _ => trivial

theorem upper_fits {country : String} (length : country.length = 2) : Varchar 2 (Unicode.upper country) ↔
    (∀ c ∈ country.toList, ¬Unicode.Lengthened c) ∧ '\x00' ∉ country.toList := by
  rw [← Unicode.upper_length_le_iff, length, ← Unicode.nul_mem_upper, Varchar]

/-- A bounded payload makes rows that fit. -/
theorem Bounded.fits (bounded : Bounded payload actor) :
    (newCounterparty payload).Fits ∧ ∀ id, (newSubmission payload id).Fits := by
  have clean := bounded.texts
  simp only [List.forall_mem_cons, List.not_mem_nil, false_imp_iff, implies_true, and_true] at clean
  obtain ⟨name, counterparty, country, postcode, cover⟩ := clean
  have positive := payload.tivPositive
  have low : -2 ^ 63 ≤ payload.tivEur := by omega
  refine ⟨⟨⟨payload.counterparty.nameLength.2, name⟩, ?_⟩, fun id => ⟨payload.lineOfBusiness.value_fits,
    ⟨low, bounded.tivEur⟩, payload.occupancy.value_fits, ?_, ⟨payload.postcodeLength.2, postcode⟩,
    ⟨payload.coverLength.2, cover⟩, fun ref given => ⟨payload.brokerRefLength ref given, bounded.brokerRef ref given⟩⟩⟩
  · exact (upper_fits payload.counterparty.countryLength).mpr ⟨bounded.counterparty, counterparty⟩
  · exact (upper_fits payload.countryLength).mpr ⟨bounded.country, country⟩

/-- A validated payload can be stored if and only if its insured value is in the range of
    the column, no character of its country codes is lengthened in upper case, none of its
    texts has a U+0000, and the actor fits its column. -/
theorem storable_iff_bounded (payload : SubmissionCreate) (actor : String) :
    Storable payload actor ↔ Bounded payload actor := by
  rw [storable_iff]
  constructor
  · rintro ⟨counterparty, submission, short⟩
    have row := submission ""
    have upper := (upper_fits payload.counterparty.countryLength).mp counterparty.country
    have upper' := (upper_fits payload.countryLength).mp row.country
    refine ⟨row.tivEur.2, upper.1, upper'.1, ?_, fun ref given => (row.brokerRef ref given).2, short⟩
    simp only [List.forall_mem_cons, List.not_mem_nil, false_imp_iff, implies_true, and_true]
    exact ⟨counterparty.name.2, upper.2, upper'.2, row.postcode.2, row.requestedCover.2⟩
  · exact fun bounded => ⟨bounded.fits.1, bounded.fits.2, bounded.actor⟩

/-- Two letters that are four in upper case. -/
def sharp : SubmissionCreate := { Scenario.payload with country := "ßß", countryLength := by decide }

/-- One eurocent more than the column holds. -/
def immense : SubmissionCreate :=
  { Scenario.payload with tivEur := 2 ^ 63, tivPositive := by decide }

/-- A postcode that no text column holds. -/
def blank : SubmissionCreate :=
  { Scenario.payload with postcode := "\x00", postcodeLength := by decide }

theorem sharp_not_storable : ¬Storable sharp "underwriter" ∧ ¬Storable immense "underwriter" ∧
    ¬Storable blank "underwriter" := by
  refine ⟨fun storable => ?_, fun storable => ?_, fun storable => ?_⟩
  · have lengthened := (storable_iff.mp storable).2.1 ""
    exact absurd lengthened.country (by decide)
  · have wide := (storable_iff.mp storable).2.1 ""
    exact absurd wide.tivEur (by decide)
  · have unprintable := (storable_iff.mp storable).2.1 ""
    exact absurd unprintable.postcode (by decide)

end Underwriting.Columns
