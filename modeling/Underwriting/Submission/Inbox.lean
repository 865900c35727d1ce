import Mathlib.Data.List.Forall2
import Underwriting.Reads

/-! # The workbench inbox

`list_submissions` of `app/submission/service.py` with the items of
`app/submission/schemas.py` it builds: the inbox query, the bound submissions among
its rows, and one validated item for each row.
-/

namespace Underwriting

open Interleaving (Prog)

/-- `Enum(value)`: the member with that value. -/
def enumOf {E : Type} (members : List E) (value : E → String) (text : String) : Except PyErr E :=
  match members.find? (value · = text) with
  | some member => .ok member
  | none => .error .value

def LineOfBusiness.ofValue : String → Except PyErr LineOfBusiness :=
  enumOf [.commercialProperty, .marine, .engineering, .financialLines] LineOfBusiness.value

def Occupancy.ofValue : String → Except PyErr Occupancy :=
  enumOf [.office, .retail, .warehouse, .lightManufacturing, .fireworksManufacturing] Occupancy.value

def Outcome.ofValue : String → Except PyErr Outcome := enumOf [.accept, .refer, .decline] Outcome.value

section Enums

variable {E : Type} {members : List E} {value : E → String} {text : String}

theorem enumOf_ok {member : E} (found : enumOf members value text = .ok member) : value member = text := by
  simp only [enumOf] at found
  split at found
  · rename_i first at_first
    cases found
    simpa using List.find?_some at_first
  · cases found

theorem exists_enumOf {member : E} (known : member ∈ members) (named : value member = text) :
    ∃ found, enumOf members value text = .ok found := by
  have some_member : (members.find? (value · = text)).isSome :=
    List.find?_isSome.mpr ⟨member, known, decide_eq_true named⟩
  obtain ⟨found, at_found⟩ := Option.isSome_iff_exists.mp some_member
  exact ⟨found, by simp only [enumOf, at_found]⟩

theorem LineOfBusiness.ofValue_value (lob : LineOfBusiness) : ∃ found, ofValue lob.value = .ok found :=
  exists_enumOf (by cases lob <;> decide) rfl

theorem Occupancy.ofValue_value (occupancy : Occupancy) : ∃ found, ofValue occupancy.value = .ok found :=
  exists_enumOf (by cases occupancy <;> decide) rfl

theorem Outcome.ofValue_value (outcome : Outcome) : ∃ found, ofValue outcome.value = .ok found :=
  exists_enumOf (by cases outcome <;> decide) rfl

end Enums

/-- A loop that may raise gives one item for each of its rows. -/
theorem mapM_ok_iff {ε α β : Type} {f : α → Except ε β} {rows : List α} {items : List β} :
    rows.mapM f = .ok items ↔ List.Forall₂ (fun row item => f row = .ok item) rows items := by
  induction rows generalizing items with
  | nil =>
      rw [List.mapM_nil, List.forall₂_nil_left_iff]
      exact ⟨fun done => (Except.ok.inj done).symm, fun done => done ▸ rfl⟩
  | cons row rest ih =>
      rw [List.mapM_cons]
      constructor
      · intro mapped
        obtain ⟨item, made, mapped⟩ := bind_ok mapped
        obtain ⟨others, mappedRest, done⟩ := bind_ok mapped
        cases done
        exact .cons made (ih.mp mappedRest)
      · intro each
        cases each with
        | cons made others => rw [made, show _ = Except.ok _ from ih.mpr others]; rfl

structure SubmissionRead where
  id : String
  counterpartyId : String
  lineOfBusiness : LineOfBusiness
  tivEur : ℤ
  occupancy : Occupancy
  country : String
  postcode : String
  requestedCover : String
  brokerRef : Option String
  createdAt : ℕ

structure SubmissionListItem extends SubmissionRead where
  latestOutcome : Option Outcome := none
  bound : Bool := false

/-- `model_validate(submission)`: a text that is no member of its enum is refused. -/
def SubmissionRead.modelValidate (submission : Submission) : Except PyErr SubmissionRead := do
  let lineOfBusiness ← LineOfBusiness.ofValue submission.lineOfBusiness
  let occupancy ← Occupancy.ofValue submission.occupancy
  return {
    id := submission.id
    counterpartyId := submission.counterpartyId
    lineOfBusiness
    tivEur := submission.tivEur
    occupancy
    country := submission.country
    postcode := submission.postcode
    requestedCover := submission.requestedCover
    brokerRef := submission.brokerRef
    createdAt := submission.time }

namespace SubmissionService

/-- `Outcome(decision.outcome) if decision is not None else None` -/
def latestOutcome : Option Decision → Except PyErr (Option Outcome)
  | some decision => do return some (← Outcome.ofValue decision.outcome)
  | none => .ok none

/-- One pass of the loop that builds the items. -/
def listItem (boundIds : List String) (row : Submission × Option Decision) : Except PyErr SubmissionListItem := do
  let item ← SubmissionRead.modelValidate row.1
  let latestOutcome ← latestOutcome row.2
  return { item with latestOutcome, bound := row.1.id ∈ boundIds }

def listSubmissions (outcome : Option Outcome) (limit offset : ℕ) : ReadProgram (List SubmissionListItem) := do
  let rows ← Session.inbox outcome limit offset
  let ids := rows.map fun row => row.1.id
  let boundIds ← if ids.isEmpty then pure [] else Session.boundAmong ids
  Prog.ofExcept (rows.mapM (listItem boundIds))

/-- A page of a store is built from its rows and the ids of those that are bound. -/
theorem runWith_listSubmissions {db : Db} {pick limit offset : ℕ} {outcome : Option Outcome}
    {rows : List (Submission × Option Decision)}
    (found : ((db.inboxOrdered outcome pick).drop offset).take limit = rows) :
    (listSubmissions outcome limit offset).runWith (fun c => .ok (db.read pick c)) =
      rows.mapM (listItem (db.read pick (.boundAmong (rows.map fun row => row.1.id)))) := by
  have read : (db.read pick (.inbox outcome limit offset) : List (Submission × Option Decision)) = rows := found
  rw [listSubmissions, Prog.runWith_bind, runWith_inbox, read]
  cases rows with
  | nil => rfl
  | cons first rest =>
      change Prog.runWith _ (Session.boundAmong _ >>= _) = _
      rw [Prog.runWith_bind, runWith_boundAmong]
      exact Prog.runWith_ofExcept _

theorem listItem_ok {boundIds : List String} {row : Submission × Option Decision} {item : SubmissionListItem}
    (built : listItem boundIds row = .ok item) :
    SubmissionRead.modelValidate row.1 = .ok item.toSubmissionRead ∧ latestOutcome row.2 = .ok item.latestOutcome ∧
      item.bound = decide (row.1.id ∈ boundIds) := by
  obtain ⟨read, validated, built⟩ := bind_ok built
  obtain ⟨outcome, shown, built⟩ := bind_ok built
  cases built
  exact ⟨validated, shown, rfl⟩

theorem exists_listItem {row : Submission × Option Decision} {read : SubmissionRead} {outcome : Option Outcome}
    (validated : SubmissionRead.modelValidate row.1 = .ok read) (shown : latestOutcome row.2 = .ok outcome)
    (boundIds : List String) : ∃ item, listItem boundIds row = .ok item := by
  refine ⟨{ read with latestOutcome := outcome, bound := row.1.id ∈ boundIds }, ?_⟩
  simp only [listItem, validated, shown]
  rfl

theorem latestOutcome_ok {found : Option Decision} {outcome : Option Outcome}
    (shown : latestOutcome found = .ok outcome) : outcome.map Outcome.value = found.map (·.outcome) := by
  cases found with
  | none =>
      cases shown
      rfl
  | some decision =>
      obtain ⟨outcome, known, shown⟩ := bind_ok shown
      cases shown
      exact congrArg some (enumOf_ok known)

end SubmissionService

/-- The submissions that validate are those with values of the two enums. -/
theorem modelValidate_iff {submission : Submission} :
    (∃ read, SubmissionRead.modelValidate submission = .ok read) ↔
      (∃ lob : LineOfBusiness, lob.value = submission.lineOfBusiness) ∧
        ∃ occupancy : Occupancy, occupancy.value = submission.occupancy := by
  constructor
  · rintro ⟨read, validated⟩
    obtain ⟨lob, knownLob, validated⟩ := bind_ok validated
    obtain ⟨occupancy, knownOccupancy, -⟩ := bind_ok validated
    exact ⟨⟨lob, enumOf_ok knownLob⟩, occupancy, enumOf_ok knownOccupancy⟩
  · rintro ⟨⟨lob, sameLob⟩, occupancy, sameOccupancy⟩
    obtain ⟨lob', knownLob⟩ := lob.ofValue_value
    obtain ⟨occupancy', knownOccupancy⟩ := occupancy.ofValue_value
    simp only [SubmissionRead.modelValidate, ← sameLob, ← sameOccupancy, knownLob, knownOccupancy]
    exact ⟨_, rfl⟩

/-- The fields of a `SubmissionRead` are the columns, the enums by their values. -/
structure SubmissionRead.Copies (read : SubmissionRead) (row : Submission) : Prop where
  id : read.id = row.id
  counterpartyId : read.counterpartyId = row.counterpartyId
  lineOfBusiness : read.lineOfBusiness.value = row.lineOfBusiness
  tivEur : read.tivEur = row.tivEur
  occupancy : read.occupancy.value = row.occupancy
  country : read.country = row.country
  postcode : read.postcode = row.postcode
  requestedCover : read.requestedCover = row.requestedCover
  brokerRef : read.brokerRef = row.brokerRef
  createdAt : read.createdAt = row.time

theorem modelValidate_ok {submission : Submission} {read : SubmissionRead}
    (validated : SubmissionRead.modelValidate submission = .ok read) : read.Copies submission := by
  obtain ⟨lob, knownLob, validated⟩ := bind_ok validated
  obtain ⟨occupancy, knownOccupancy, validated⟩ := bind_ok validated
  cases validated
  exact ⟨rfl, rfl, enumOf_ok knownLob, rfl, enumOf_ok knownOccupancy, rfl, rfl, rfl, rfl, rfl⟩

theorem modelValidate_id {submission : Submission} {read : SubmissionRead}
    (validated : SubmissionRead.modelValidate submission = .ok read) : read.id = submission.id :=
  (modelValidate_ok validated).id

/-- An item that is not built is one of a text that is no member of its enum. -/
theorem listItem_error {boundIds : List String} {row : Submission × Option Decision} {err : PyErr}
    (failed : SubmissionService.listItem boundIds row = .error err) : err = .value := by
  have unknown : ∀ {E : Type} {members : List E} {value : E → String} {text : String} {err : PyErr},
      enumOf members value text = .error err → err = .value := by
    intro E members value text err failed
    simp only [enumOf] at failed
    split at failed <;> cases failed
    rfl
  rcases bind_error failed with failed | ⟨read, -, failed⟩
  · rcases bind_error failed with failed | ⟨lob, -, failed⟩
    · exact unknown failed
    · rcases bind_error failed with failed | ⟨occupancy, -, failed⟩
      · exact unknown failed
      · cases failed
  · rcases bind_error failed with failed | ⟨outcome, -, failed⟩
    · cases found : row.2 with
      | none =>
          rw [found] at failed
          cases failed
      | some decision =>
          rw [found] at failed
          rcases bind_error failed with failed | ⟨outcome, -, failed⟩
          · exact unknown failed
          · cases failed
    · cases failed

end Underwriting
