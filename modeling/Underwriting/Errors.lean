import Underwriting.Lib.Decimal
import Underwriting.Lib.Json

/-! # Exceptions

Everything a request may raise: the exceptions the modules define, the
`HTTPException` a route turns some of them into, and what Python, the database
driver and the HTTP client raise below them. A process that dies raises nothing;
`died` marks a thread which no longer runs.
-/

namespace Underwriting

inductive PyErr where
  | submissionNotFound (submissionId : String)
  | noRuleset
  | noDecision (submissionId : String)
  | declinedRisk (submissionId : String)
  | noRateTable
  | rating (message : String)
  | noAcceptedDecision (submissionId : String)
  | noQuote (submissionId : String)
  | policyAlreadyExists (policyNumber : String)
  | policyService (message : String)
  /-- `HTTPException`, the answer a route chose. -/
  | http (status : ℕ) (detail : String)
  /-- A unique constraint refused a row. -/
  | integrity
  /-- `DataError`: a value does not fit its column. -/
  | data
  /-- The database, the policy service or the token endpoint failed. -/
  | outage
  | decimal (signal : DecimalSignal)
  | value | type | key (name : String) | attribute | overflow
  | died
  deriving DecidableEq, Repr

/-- A sequence succeeds only if its first part does. -/
theorem bind_ok {ε α β : Type} {first : Except ε α} {next : α → Except ε β} {result}
    (succeeded : first >>= next = .ok result) : ∃ value, first = .ok value ∧ next value = .ok result := by
  cases first with
  | ok value => exact ⟨value, rfl, succeeded⟩
  | error err => cases succeeded

/-! ## Conversions that raise -/

/-- Underscores may stand between two digits. -/
def digitRun : Bool → List Char → Bool
  | afterDigit, [] => afterDigit
  | afterDigit, c :: rest =>
      if Decimal.isDigit c then digitRun true rest else c = '_' && afterDigit && digitRun false rest

/-- `int(text)`, for no more digits than the interpreter converts. -/
def intOfText (text : String) : Except PyErr ℤ :=
  match Unicode.asciiText? text.toList with
  | none => .error .value
  | some ascii =>
      let (neg, body) := Decimal.splitSign (Unicode.stripWith Unicode.isBlank ascii)
      let digits := body.filter (· ≠ '_')
      if digitRun false body ∧ digits.length ≤ 4300 then
        let magnitude : ℤ := Decimal.digitsValue digits
        .ok (if neg then -magnitude else magnitude)
      else .error .value

/-- `int(value)`. -/
def intOf : Json → Except PyErr ℤ
  | .int n => .ok n
  | .bool b => .ok (if b then 1 else 0)
  | .float value _ => .ok (Int.tdiv value.num value.den)
  | .str text => intOfText text
  | .null | .arr _ | .obj _ => .error .type

/-- `Decimal(str(value))`. -/
def decimalOf (value : Json) : Except PyErr Decimal :=
  match Decimal.parse value.toText with
  | some d => .ok d
  | none => .error (.decimal .invalidOperation)

/-- `value[key]`. -/
def item (value : Json) (key : String) : Except PyErr Json :=
  match value.field? key with
  | some found => .ok found
  | none => .error (if value.isObj then .key key else .type)

/-- `value.get(key, fallback)`. -/
def get (value : Json) (key : String) (fallback : Json) : Except PyErr Json :=
  if value.isObj then .ok (value.getD key fallback) else .error .attribute

/-- What a `for` loop over the value visits. -/
def iterate (value : Json) : Except PyErr (List Json) :=
  match value.items? with
  | some items => .ok items
  | none => .error .type

/-- Only a dict has items by name. -/
theorem item_ok {value found : Json} {key : String} (taken : item value key = .ok found) :
    ∃ fields, value = .obj fields ∧ fields.lookup key = some found := by
  simp only [item] at taken
  split at taken
  · rename_i looked
    cases taken
    cases value with
    | obj fields => exact ⟨fields, rfl, looked⟩
    | _ => cases looked
  · cases taken

/-! ## Exceptions from below -/

/-- Raised below the modules, by Python, the database driver or the HTTP client. -/
def PyErr.foreign : PyErr → Bool
  | .integrity | .data | .outage | .decimal _ | .value | .type | .key _ | .attribute | .overflow | .died => true
  | _ => false

/-- The exceptions the modules define. -/
def PyErr.domain : PyErr → Bool
  | .http _ _ => false
  | err => !err.foreign

theorem bind_error {ε α β : Type} {op : Except ε α} {next : α → Except ε β} {err : ε}
    (failed : op >>= next = .error err) : op = .error err ∨ ∃ value, op = .ok value ∧ next value = .error err := by
  cases op with
  | ok value => exact .inr ⟨value, rfl, failed⟩
  | error e =>
      cases failed
      exact .inl rfl

/-- Whatever this raises comes from below. -/
structure Foreign {α : Type} (op : Except PyErr α) : Prop where
  only : ∀ err, op = .error err → err.foreign

namespace Foreign

variable {α β : Type}

theorem ok (value : α) : Foreign (.ok value) := ⟨fun _ raised => nomatch raised⟩

theorem error {err : PyErr} (foreign : err.foreign) : Foreign (.error err : Except PyErr α) := by
  constructor
  intro raised same
  cases same
  exact foreign

theorem bind {op : Except PyErr α} {next : α → Except PyErr β} (first : Foreign op)
    (later : ∀ value, Foreign (next value)) : Foreign (op >>= next) := by
  constructor
  intro err raised
  rcases bind_error raised with raised | ⟨value, -, raised⟩
  · exact first.only err raised
  · exact (later value).only err raised

theorem foldlM {f : β → α → Except PyErr β} (step : ∀ b a, Foreign (f b a)) (items : List α) (b : β) :
    Foreign (items.foldlM f b) := by
  induction items generalizing b with
  | nil => exact ok b
  | cons a rest ih => exact (step b a).bind ih

theorem mapM {f : α → Except PyErr β} (step : ∀ a, Foreign (f a)) (items : List α) : Foreign (items.mapM f) := by
  induction items with
  | nil => exact ok []
  | cons a rest ih =>
      rw [List.mapM_cons]
      exact (step a).bind fun _ => ih.bind fun _ => ok _

theorem intOfText (text : String) : Foreign (intOfText text) := by
  simp only [Underwriting.intOfText]
  split
  · exact .error rfl
  split
  · exact ok _
  · exact error rfl

theorem intOf (value : Json) : Foreign (intOf value) := by
  cases value with
  | str text => exact intOfText text
  | null | arr | obj => exact error rfl
  | _ => exact ok _

theorem decimalOf (value : Json) : Foreign (decimalOf value) := by
  rw [Underwriting.decimalOf]
  split
  · exact ok _
  · exact error rfl

theorem item (value : Json) (key : String) : Foreign (item value key) := by
  rw [Underwriting.item]
  split
  · exact ok _
  · apply error
    split <;> rfl

theorem get (value : Json) (key : String) (fallback : Json) : Foreign (get value key fallback) := by
  rw [Underwriting.get]
  split
  · exact ok _
  · exact error rfl

theorem iterate (value : Json) : Foreign (iterate value) := by
  rw [Underwriting.iterate]
  split
  · exact ok _
  · exact error rfl

end Foreign

end Underwriting
