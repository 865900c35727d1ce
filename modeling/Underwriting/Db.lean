import Mathlib.Data.List.Dedup
import Underwriting.Lib.Json

/-! # The tables

The rows of the models under `app/*/models.py`, each as the values its insert
gives (`New...`) and the stamp the column defaults add: a random id and the
clock's time. Rows are only ever inserted. Foreign keys are not modelled: a
parent row is read before its child is inserted, and nothing is deleted.
-/

namespace Underwriting

/-- The defaults `_uuid()` and `_now()` of a row; times are microseconds. -/
structure Stamp where
  id : String
  time : ℕ

structure NewCounterparty where
  name : String
  country : String

structure Counterparty extends NewCounterparty, Stamp

structure NewSubmission where
  counterpartyId : String
  lineOfBusiness : String
  tivEur : ℤ
  occupancy : String
  country : String
  postcode : String
  requestedCover : String
  brokerRef : Option String

structure Submission extends NewSubmission, Stamp

structure NewDecision where
  submissionId : String
  outcome : String
  reasonCodes : List String
  appetiteVersion : ℤ
  decidedBy : String

structure Decision extends NewDecision, Stamp

structure NewQuote where
  submissionId : String
  premiumMinor : ℤ
  currency : String
  rateTableVersion : ℤ
  breakdown : Json
  createdBy : String
  purePremiumMinor : Option ℤ
  technicalPremiumMinor : Option ℤ
  commercialPremiumMinor : Option ℤ
  taxesMinor : Option ℤ
  facts : Option Json

structure Quote extends NewQuote, Stamp

structure NewBinding where
  submissionId : String
  quoteId : String
  policyNumber : String
  pasPolicyId : String
  status : String
  eventPublished : Bool
  boundBy : String

structure Binding extends NewBinding, Stamp

structure NewAuditEntry where
  submissionId : String
  action : String
  actor : String
  rulesetVersion : Option ℤ := none
  outcome : Option String := none
  detail : Json

structure AuditEntry extends NewAuditEntry, Stamp

structure NewVersion where
  version : ℤ
  rules : Json

structure AppetiteRuleset extends NewVersion, Stamp

structure RateTable extends NewVersion, Stamp

/-- All rows, each table in the order of its commits. -/
@[ext]
structure Db where
  counterparties : List Counterparty := []
  submissions : List Submission := []
  decisions : List Decision := []
  quotes : List Quote := []
  bindings : List Binding := []
  audits : List AuditEntry := []
  rulesets : List AppetiteRuleset := []
  rateTables : List RateTable := []

namespace Db

def empty : Db := {}

def append (db more : Db) : Db where
  counterparties := db.counterparties ++ more.counterparties
  submissions := db.submissions ++ more.submissions
  decisions := db.decisions ++ more.decisions
  quotes := db.quotes ++ more.quotes
  bindings := db.bindings ++ more.bindings
  audits := db.audits ++ more.audits
  rulesets := db.rulesets ++ more.rulesets
  rateTables := db.rateTables ++ more.rateTables

instance : Append Db := ⟨append⟩

section Tables

variable (db more : Db)

@[simp] theorem append_counterparties :
    (db ++ more).counterparties = db.counterparties ++ more.counterparties := rfl
@[simp] theorem append_submissions : (db ++ more).submissions = db.submissions ++ more.submissions := rfl
@[simp] theorem append_decisions : (db ++ more).decisions = db.decisions ++ more.decisions := rfl
@[simp] theorem append_quotes : (db ++ more).quotes = db.quotes ++ more.quotes := rfl
@[simp] theorem append_bindings : (db ++ more).bindings = db.bindings ++ more.bindings := rfl
@[simp] theorem append_audits : (db ++ more).audits = db.audits ++ more.audits := rfl
@[simp] theorem append_rulesets : (db ++ more).rulesets = db.rulesets ++ more.rulesets := rfl
@[simp] theorem append_rateTables : (db ++ more).rateTables = db.rateTables ++ more.rateTables := rfl

@[simp] theorem append_empty : db ++ empty = db := by
  apply Db.ext <;> exact List.append_nil _

theorem append_assoc (last : Db) : db ++ more ++ last = db ++ (more ++ last) := by
  apply Db.ext <;> exact List.append_assoc ..

end Tables

/-- The primary keys and unique columns of every table. -/
structure Keyed (db : Db) : Prop where
  counterpartyId : (db.counterparties.map (·.id)).Nodup
  submissionId : (db.submissions.map (·.id)).Nodup
  decisionId : (db.decisions.map (·.id)).Nodup
  quoteId : (db.quotes.map (·.id)).Nodup
  bindingId : (db.bindings.map (·.id)).Nodup
  auditId : (db.audits.map (·.id)).Nodup
  rulesetId : (db.rulesets.map (·.id)).Nodup
  rateTableId : (db.rateTables.map (·.id)).Nodup
  boundOnce : (db.bindings.map (·.submissionId)).Nodup
  policyNumber : (db.bindings.map (·.policyNumber)).Nodup
  rulesetVersion : (db.rulesets.map (·.version)).Nodup
  rateTableVersion : (db.rateTables.map (·.version)).Nodup

instance (db : Db) : Decidable db.Keyed :=
  decidable_of_iff
    ((db.counterparties.map (·.id)).Nodup ∧ (db.submissions.map (·.id)).Nodup ∧
      (db.decisions.map (·.id)).Nodup ∧ (db.quotes.map (·.id)).Nodup ∧ (db.bindings.map (·.id)).Nodup ∧
      (db.audits.map (·.id)).Nodup ∧ (db.rulesets.map (·.id)).Nodup ∧ (db.rateTables.map (·.id)).Nodup ∧
      (db.bindings.map (·.submissionId)).Nodup ∧ (db.bindings.map (·.policyNumber)).Nodup ∧
      (db.rulesets.map (·.version)).Nodup ∧ (db.rateTables.map (·.version)).Nodup)
    ⟨fun ⟨a, b, c, d, e, f, g, h, i, j, k, l⟩ => ⟨a, b, c, d, e, f, g, h, i, j, k, l⟩,
      fun ⟨a, b, c, d, e, f, g, h, i, j, k, l⟩ => ⟨a, b, c, d, e, f, g, h, i, j, k, l⟩⟩

/-- Later content of the same store. -/
def Grows (before after : Db) : Prop := ∃ added, after = before ++ added

theorem Grows.refl (db : Db) : db.Grows db := ⟨empty, (append_empty db).symm⟩

theorem Grows.append (db more : Db) : db.Grows (db ++ more) := ⟨more, rfl⟩

theorem Grows.trans {a b c : Db} (first : a.Grows b) (second : b.Grows c) : a.Grows c := by
  obtain ⟨x, rfl⟩ := first
  obtain ⟨y, rfl⟩ := second
  exact ⟨x ++ y, append_assoc a x y⟩

section Grown

variable {before after : Db} (grown : before.Grows after)
include grown

theorem Grows.submission {row} (member : row ∈ before.submissions) : row ∈ after.submissions := by
  obtain ⟨added, rfl⟩ := grown
  exact List.mem_append_left _ member

theorem Grows.decision {row} (member : row ∈ before.decisions) : row ∈ after.decisions := by
  obtain ⟨added, rfl⟩ := grown
  exact List.mem_append_left _ member

theorem Grows.quote {row} (member : row ∈ before.quotes) : row ∈ after.quotes := by
  obtain ⟨added, rfl⟩ := grown
  exact List.mem_append_left _ member

theorem Grows.binding {row} (member : row ∈ before.bindings) : row ∈ after.bindings := by
  obtain ⟨added, rfl⟩ := grown
  exact List.mem_append_left _ member

theorem Grows.ruleset {row} (member : row ∈ before.rulesets) : row ∈ after.rulesets := by
  obtain ⟨added, rfl⟩ := grown
  exact List.mem_append_left _ member

theorem Grows.rateTable {row} (member : row ∈ before.rateTables) : row ∈ after.rateTables := by
  obtain ⟨added, rfl⟩ := grown
  exact List.mem_append_left _ member

theorem Grows.audit {row} (member : row ∈ before.audits) : row ∈ after.audits := by
  obtain ⟨added, rfl⟩ := grown
  exact List.mem_append_left _ member

end Grown

/-- With a unique key the lookup by a row's key finds the row. -/
theorem find?_key {Row Key : Type} [DecidableEq Key] {key : Row → Key} {rows : List Row} {row : Row}
    (nodup : (rows.map key).Nodup) (member : row ∈ rows) : rows.find? (key · = key row) = some row := by
  cases found : rows.find? (key · = key row) with
  | none => exact absurd (List.find?_eq_none.mp found row member) (by simp)
  | some other =>
      have same : key other = key row := by simpa using List.find?_some found
      exact congrArg some (List.inj_on_of_nodup_map nodup (List.mem_of_find?_eq_some found) member same)

/-- A row with a new key may be added. -/
theorem nodup_snoc {Row Key : Type} {key : Row → Key} {rows : List Row} {row : Row} (nodup : (rows.map key).Nodup)
    (fresh : key row ∉ rows.map key) : ((rows ++ [row]).map key).Nodup := by
  rw [List.map_append, List.nodup_append]
  refine ⟨nodup, List.nodup_singleton _, fun old member new last => ?_⟩
  rw [List.mem_singleton.mp last]
  rintro rfl
  exact fresh member

/-- Nothing else has a row's unique key. -/
theorem filter_key {Row Key : Type} [DecidableEq Key] {key : Row → Key} {rows : List Row} {row : Row}
    (nodup : (rows.map key).Nodup) (member : row ∈ rows) : rows.filter (key · = key row) = [row] := by
  induction rows with
  | nil => cases member
  | cons first rest ih =>
      obtain ⟨other, nodup⟩ := List.nodup_cons.mp nodup
      rcases List.mem_cons.mp member with rfl | later
      · have none_left : rest.filter (key · = key row) = [] :=
          List.filter_eq_nil_iff.mpr fun r found same => other (of_decide_eq_true same ▸ List.mem_map_of_mem found)
        simp only [List.filter_cons, decide_true, ↓reduceIte, none_left]
      · have different : key first ≠ key row := fun same => other (same ▸ List.mem_map_of_mem later)
        simp only [List.filter_cons, different, decide_false, Bool.false_eq_true, ↓reduceIte, ih nodup later]

section Uniqueness

variable {db : Db} (keyed : db.Keyed)
include keyed

theorem Keyed.quote_eq {q q'} (member : q ∈ db.quotes) (member' : q' ∈ db.quotes) (same : q.id = q'.id) :
    q = q' :=
  List.inj_on_of_nodup_map keyed.quoteId member member' same

theorem Keyed.submission_eq {s s'} (member : s ∈ db.submissions) (member' : s' ∈ db.submissions)
    (same : s.id = s'.id) : s = s' :=
  List.inj_on_of_nodup_map keyed.submissionId member member' same

end Uniqueness

/-! ## Rows of one submission -/

def decisionsOf (db : Db) (submissionId : String) : List Decision :=
  db.decisions.filter (·.submissionId = submissionId)

def quotesOf (db : Db) (submissionId : String) : List Quote :=
  db.quotes.filter (·.submissionId = submissionId)

def bindingsOf (db : Db) (submissionId : String) : List Binding :=
  db.bindings.filter (·.submissionId = submissionId)

def Bound (db : Db) (submissionId : String) : Prop := ∃ b ∈ db.bindings, b.submissionId = submissionId

instance (db : Db) (submissionId : String) : Decidable (db.Bound submissionId) :=
  inferInstanceAs (Decidable (∃ b ∈ db.bindings, b.submissionId = submissionId))

theorem Bound.grows {db db' : Db} {sid : String} (bound : db.Bound sid) (grown : db.Grows db') : db'.Bound sid := by
  obtain ⟨b, member, owner⟩ := bound
  exact ⟨b, grown.binding member, owner⟩

theorem mem_decisionsOf {db : Db} {sid d} : d ∈ db.decisionsOf sid ↔ d ∈ db.decisions ∧ d.submissionId = sid := by
  simp only [decisionsOf, List.mem_filter, decide_eq_true_eq]

theorem mem_quotesOf {db : Db} {sid q} : q ∈ db.quotesOf sid ↔ q ∈ db.quotes ∧ q.submissionId = sid := by
  simp only [quotesOf, List.mem_filter, decide_eq_true_eq]

theorem decisionsOf_append (db more : Db) (sid : String) :
    (db ++ more).decisionsOf sid = db.decisionsOf sid ++ more.decisionsOf sid :=
  List.filter_append ..

theorem quotesOf_append (db more : Db) (sid : String) :
    (db ++ more).quotesOf sid = db.quotesOf sid ++ more.quotesOf sid :=
  List.filter_append ..

theorem bindingsOf_append (db more : Db) (sid : String) :
    (db ++ more).bindingsOf sid = db.bindingsOf sid ++ more.bindingsOf sid :=
  List.filter_append ..

end Db

end Underwriting
