import Underwriting.Effects
import Underwriting.Lib.JsonRoundTrip

/-! # The payload of an event

`json.dumps(event).encode("utf-8")` of `app/bind/publisher.py`, for the dict that
`bind_submission` builds. A subscriber that reads the bytes as JSON gets the eight
fields of the event back.
-/

namespace Underwriting

/-- The event as the dict of `bind_submission`, its keys in the order of the source. -/
def BoundRiskEvent.toJson (event : BoundRiskEvent) : Json :=
  .obj [("policy_number", .str event.policyNumber), ("submission_id", .str event.submissionId),
    ("quote_id", .str event.quoteId), ("premium_minor", .int event.premiumMinor), ("currency", .str event.currency),
    ("product_code", .str event.productCode), ("effective_date", .str event.effectiveDate),
    ("expiry_date", .str event.expiryDate)]

namespace Payload

/-- `json.dumps(event).encode("utf-8")` -/
def encode (event : BoundRiskEvent) : List UInt8 := event.toJson.dumps.flatMap String.utf8EncodeChar

/-- A text of an object, by its key. -/
def textAt (value : Json) (key : String) : Option String := value.field? key >>= Json.text?

def intAt (value : Json) (key : String) : Option ℤ :=
  match value.field? key with
  | some (.int n) => some n
  | _ => none

/-- The fields of an event, from an object that has them. -/
def readEvent (value : Json) : Option BoundRiskEvent := do
  return {
    policyNumber := ← textAt value "policy_number"
    submissionId := ← textAt value "submission_id"
    quoteId := ← textAt value "quote_id"
    premiumMinor := ← intAt value "premium_minor"
    currency := ← textAt value "currency"
    productCode := ← textAt value "product_code"
    effectiveDate := ← textAt value "effective_date"
    expiryDate := ← textAt value "expiry_date" }

/-- The characters of ASCII bytes; `none` for any other byte. -/
def asciiText (bytes : List UInt8) : Option (List Char) :=
  bytes.mapM fun byte => if byte.toNat < 128 then some (Char.ofNat byte.toNat) else none

/-- What a subscriber makes of a message. -/
def decode (parseFloat : List Char → Json) (bytes : List UInt8) : Option BoundRiskEvent :=
  asciiText bytes >>= Json.loads parseFloat >>= readEvent

theorem toJson_exact (event : BoundRiskEvent) : Json.Exact event.toJson := by
  have keys : ["policy_number", "submission_id", "quote_id", "premium_minor", "currency", "product_code",
      "effective_date", "expiry_date"].Nodup := by decide
  refine .obj keys fun entry member => ?_
  simp only [List.mem_cons, List.not_mem_nil, or_false] at member
  rcases member with rfl | rfl | rfl | rfl | rfl | rfl | rfl | rfl <;> constructor

theorem readEvent_toJson (event : BoundRiskEvent) : readEvent event.toJson = some event := rfl

/-- ASCII characters are one byte each, and are read back from it. -/
theorem asciiText_encoded {text : List Char} (printable : Json.Printable text) :
    asciiText (text.flatMap String.utf8EncodeChar) = some text ∧
      ∀ byte ∈ text.flatMap String.utf8EncodeChar, 32 ≤ byte.toNat ∧ byte.toNat ≤ 126 := by
  induction text with
  | nil => exact ⟨rfl, fun byte member => nomatch member⟩
  | cons c rest ih =>
      obtain ⟨first, later⟩ := List.forall_mem_cons.mp printable
      obtain ⟨read, small⟩ := ih later
      have single : String.utf8EncodeChar c = [UInt8.ofNat c.toNat] := if_pos (Nat.le_trans first.2 (by decide))
      have value : (UInt8.ofNat c.toNat).toNat = c.toNat := by
        rw [UInt8.toNat_ofNat']
        omega
      rw [List.flatMap_cons, single, List.singleton_append]
      constructor
      · rw [asciiText, List.mapM_cons, value, if_pos (by omega), Char.ofNat_toNat]
        exact congrArg (Option.bind · _) read
      · rw [List.forall_mem_cons, value]
        exact ⟨first, small⟩

/-- The bytes of an event are printable ASCII, and any reader of JSON gets the event
    back from them. So no two events have one payload. -/
theorem payload_round_trip (event : BoundRiskEvent) :
    (∀ byte ∈ encode event, 32 ≤ byte.toNat ∧ byte.toNat ≤ 126) ∧
      (∀ parseFloat, decode parseFloat (encode event) = some event) ∧
      ∀ other, encode other = encode event → other = event := by
  have reads : ∀ (event : BoundRiskEvent) parseFloat, decode parseFloat (encode event) = some event := by
    intro event parseFloat
    have text := (asciiText_encoded (toJson_exact event).printable).1
    rw [decode, encode, text]
    change (Json.loads parseFloat event.toJson.dumps >>= readEvent) = _
    rw [Json.loads_dumps (toJson_exact event)]
    exact readEvent_toJson event
  refine ⟨(asciiText_encoded (toJson_exact event).printable).2, reads event, fun other same => ?_⟩
  have read := reads other fun _ => .null
  rw [same, reads event] at read
  exact (Option.some.inj read).symm

end Payload

end Underwriting
