import Underwriting.Lib.JsonText

/-! # JSON texts read back

What `json.dumps` writes `json.loads` reads back, for values without floats whose
dicts have each key once. The text is printable ASCII, and no value is written as
another.
-/

namespace Json

/-- No floats in it, and no dict has a key twice. -/
inductive Exact : Json → Prop where
  | null : Exact .null
  | bool (b : Bool) : Exact (.bool b)
  | int (n : ℤ) : Exact (.int n)
  | str (text : String) : Exact (.str text)
  | arr {items : List Json} (each : ∀ item ∈ items, Exact item) : Exact (.arr items)
  | obj {fields : List (String × Json)} (once : (fields.map Prod.fst).Nodup)
      (each : ∀ entry ∈ fields, Exact entry.2) : Exact (.obj fields)

/-! ## Characters -/

/-- A property of each member of a short list, by evaluation. -/
theorem forall_of_all {α : Type} {p : α → Prop} [DecidablePred p] {l : List α} (all : l.all (p ·) = true) :
    ∀ a ∈ l, p a := by
  simpa using all

theorem hexValue_digitChar : ∀ n < 16, hexValue n.digitChar = some n := by decide

theorem decodeHex_hexDigits {unit : ℕ} (small : unit < 0x10000) :
    decodeHex (unit / 4096 % 16).digitChar (unit / 256 % 16).digitChar (unit / 16 % 16).digitChar
      (unit % 16).digitChar = some unit := by
  have digit : ∀ n, hexValue (n % 16).digitChar = some (n % 16) := fun n =>
    hexValue_digitChar _ (Nat.mod_lt _ (by decide))
  simp only [decodeHex, digit, Option.bind_eq_bind, Option.bind_some, Option.pure_def, Option.some.injEq]
  omega

/-- The units that were read, and one more in front. -/
def pushUnits (units : List ℕ) : List ℕ × List Char → List ℕ × List Char := fun read => (units ++ read.1, read.2)

theorem scanUnits_unicodeEscape {unit : ℕ} (small : unit < 0x10000) (text : List Char) :
    scanUnits (unicodeEscape unit ++ text) = (scanUnits text).map (pushUnits [unit]) := by
  change scanUnits ('\\' :: 'u' :: _ :: _ :: _ :: _ :: text) = _
  simp only [scanUnits, decodeHex_hexDigits small, Option.bind_eq_bind, Option.bind_some]
  cases scanUnits text <;> rfl

/-- Each short escape is read as the character it was written for. -/
theorem shortEscapes_read : ∀ entry ∈ shortEscapes,
    entry.2 ≠ 'u' ∧ backslash.lookup entry.2 = some entry.1 ∧ entry.1.toNat < 0x10000 := by decide

theorem scanUnits_letter {letter meant : Char} (plain : letter ≠ 'u') (found : backslash.lookup letter = some meant)
    (text : List Char) : scanUnits ('\\' :: letter :: text) = (scanUnits text).map (pushUnits [meant.toNat]) := by
  rw [scanUnits]
  · simp only [found, Option.bind_eq_bind, Option.bind_some]
    cases scanUnits text <;> rfl
  · intro a b c d rest other
    exact absurd other plain

theorem scanUnits_plain {c : Char} (unquoted : c ≠ '"') (unescaped : c ≠ '\\') (visible : 32 ≤ c.toNat)
    (text : List Char) : scanUnits (c :: text) = (scanUnits text).map (pushUnits [c.toNat]) := by
  rw [scanUnits]
  · rw [if_neg (by simp only [unescaped, or_false]; omega)]
    cases scanUnits text <;> rfl
  · exact unquoted
  · intro a b c d rest other
    exact absurd other unescaped
  · intro letter rest other
    exact absurd other unescaped

theorem toNat_bound (c : Char) : c.toNat < 0x110000 := by
  rcases c.valid with basic | ⟨-, beyond⟩
  · exact Nat.lt_trans basic (by decide)
  · exact beyond

theorem codeUnits_small {c : Char} : ∀ unit ∈ codeUnits c, unit < 0x10000 := by
  have bound := toNat_bound c
  rw [codeUnits]
  split
  · intro unit member
    rw [List.mem_singleton.mp member]
    assumption
  · intro unit member
    rcases List.mem_cons.mp member with rfl | member
    · omega
    · rw [List.mem_singleton.mp member]
      omega

theorem scanUnits_escapes (units : List ℕ) (small : ∀ unit ∈ units, unit < 0x10000) (text : List Char) :
    scanUnits (units.flatMap unicodeEscape ++ text) = (scanUnits text).map (pushUnits units) := by
  induction units with
  | nil =>
      rw [List.flatMap_nil, List.nil_append]
      cases scanUnits text <;> rfl
  | cons unit rest ih =>
      rw [List.forall_mem_cons] at small
      rw [List.flatMap_cons, List.append_assoc, scanUnits_unicodeEscape small.1, ih small.2, Option.map_map]
      rfl

theorem scanUnits_escapeChar (c : Char) (text : List Char) :
    scanUnits (escapeChar c ++ text) = (scanUnits text).map (pushUnits (codeUnits c)) := by
  rw [escapeChar]
  cases found : shortEscapes.lookup c with
  | some letter =>
      obtain ⟨before, after, split, -⟩ := List.lookup_eq_some_iff.mp found
      have listed : (c, letter) ∈ shortEscapes := by
        rw [split]
        exact List.mem_append_right _ List.mem_cons_self
      obtain ⟨plain, meant, small⟩ := shortEscapes_read _ listed
      rw [codeUnits, if_pos small]
      exact scanUnits_letter plain meant text
  | none =>
      dsimp only
      split
      · rename_i printable
        have unquoted : c ≠ '"' := by
          rintro rfl
          cases found
        have unescaped : c ≠ '\\' := by
          rintro rfl
          cases found
        rw [codeUnits, if_pos (by omega)]
        exact scanUnits_plain unquoted unescaped printable.1 text
      · exact scanUnits_escapes _ codeUnits_small text

theorem scanUnits_dumpText (chars text : List Char) :
    scanUnits (chars.flatMap escapeChar ++ '"' :: text) = some (chars.flatMap codeUnits, text) := by
  induction chars with
  | nil => simp only [List.flatMap_nil, List.nil_append, scanUnits]
  | cons c rest ih =>
      rw [List.flatMap_cons, List.append_assoc, scanUnits_escapeChar, ih]
      rfl

/-! ## Surrogates -/

theorem joinUnits_small {c : Char} (basic : c.toNat < 0x10000) (units : List ℕ) :
    joinUnits (c.toNat :: units) = (joinUnits units).map (c :: ·) := by
  have valid : c.toNat.isValidChar := c.valid
  cases units with
  | nil => simp only [joinUnits, valid, ↓reduceIte, Char.ofNat_toNat, Option.map_some]
  | cons low rest =>
      have single : highSurrogate c.toNat = false := by
        simp only [highSurrogate, Bool.and_eq_false_iff, decide_eq_false_iff_not]
        simp only [Nat.isValidChar] at valid
        omega
      simp only [joinUnits, single, Bool.false_and, Bool.false_eq_true, ↓reduceIte, valid, Char.ofNat_toNat]
      cases joinUnits (low :: rest) <;> rfl

theorem joinUnits_pair {c : Char} (beyond : ¬c.toNat < 0x10000) (units : List ℕ) :
    joinUnits ((0xd800 + (c.toNat - 0x10000) / 0x400) :: (0xdc00 + (c.toNat - 0x10000) % 0x400) :: units) =
      (joinUnits units).map (c :: ·) := by
  have bound := toNat_bound c
  have high : highSurrogate (0xd800 + (c.toNat - 0x10000) / 0x400) = true := by
    simp only [highSurrogate, Bool.and_eq_true, decide_eq_true_eq]
    omega
  have low : lowSurrogate (0xdc00 + (c.toNat - 0x10000) % 0x400) = true := by
    simp only [lowSurrogate, Bool.and_eq_true, decide_eq_true_eq]
    omega
  have joined : 0x10000 + (0xd800 + (c.toNat - 0x10000) / 0x400 - 0xd800) * 0x400 +
      (0xdc00 + (c.toNat - 0x10000) % 0x400 - 0xdc00) = c.toNat := by omega
  simp only [joinUnits, high, low, Bool.and_self, ↓reduceIte, joined, Char.ofNat_toNat]
  cases joinUnits units <;> rfl

theorem joinUnits_codeUnits (chars : List Char) : joinUnits (chars.flatMap codeUnits) = some chars := by
  induction chars with
  | nil => rfl
  | cons c rest ih =>
      rw [List.flatMap_cons, codeUnits]
      split
      · rename_i basic
        rw [List.singleton_append, joinUnits_small basic, ih]
        rfl
      · rename_i beyond
        rw [List.cons_append, List.singleton_append, joinUnits_pair beyond, ih]
        rfl

/-- A text is read back from between its quotes. -/
theorem scanString_dumpText (text : String) (rest : List Char) :
    scanString (text.toList.flatMap escapeChar ++ '"' :: rest) = some (text, rest) := by
  simp only [scanString, scanUnits_dumpText, joinUnits_codeUnits, Option.bind_eq_bind, Option.bind_some,
    String.ofList_toList, Option.pure_def]

/-! ## Numbers -/

/-- What may come after a value. -/
def Stops (rest : List Char) : Prop := ∀ c ∈ rest.head?, c ∈ [',', ']', '\x7d']

theorem stops_cons {c : Char} {rest : List Char} (stop : c ∈ [',', ']', '\x7d']) : Stops (c :: rest) := by
  intro d first
  obtain rfl := Option.some.inj first
  exact stop

section Numbers

variable {rest : List Char} (stops : Stops rest)
include stops

theorem Stops.digits : spanDigits rest = ([], rest) := by
  cases rest with
  | nil => rfl
  | cons c rest =>
      have other : Decimal.isDigit c = false := by
        have table : ∀ c ∈ [',', ']', '\x7d'], Decimal.isDigit c = false := forall_of_all (by decide)
        exact table c (stops c rfl)
      simp only [spanDigits, List.takeWhile_cons, List.dropWhile_cons, other, Bool.false_eq_true, ↓reduceIte]

theorem Stops.fraction : scanFraction rest = ([], rest) := by
  rw [scanFraction.eq_def]
  split
  · exact absurd (stops '.' rfl) (by decide)
  · rfl

theorem Stops.exponent : scanExponent rest = ([], rest) := by
  cases rest with
  | nil => rfl
  | cons c rest =>
      have other : ¬(c = 'e' ∨ c = 'E') := by
        rintro (rfl | rfl) <;> exact absurd (stops _ rfl) (by decide)
      exact if_neg other

/-- A run of digits ends at what may follow it. -/
theorem spanDigits_digital {digits : List Char} (digital : Decimal.Digital digits) :
    spanDigits (digits ++ rest) = (digits, rest) := by
  have ended := Prod.ext_iff.mp stops.digits
  rw [spanDigits, Decimal.takeWhile_digits digital ended.1, Decimal.dropWhile_digits digital]
  exact congrArg (Prod.mk digits) ended.2

end Numbers

/-- Only zero is written with a zero in front. -/
theorem toString_head (n : ℕ) (positive : 0 < n) : (toString n).toList.head? ≠ some '0' := by
  rw [Decimal.toString_digits]
  induction n using Nat.strong_induction_on with
  | _ n ih =>
      by_cases single : n < 10
      · rw [Nat.toDigits_of_lt_base single]
        intro zero
        have none := Nat.digitChar_eq_zero.mp (Option.some.inj zero)
        omega
      · have more : 0 < n / 10 := Nat.div_pos (by omega) (by decide)
        have split := Nat.toDigits_append_toDigits (b := 10) (by decide) more (Nat.mod_lt n (by decide))
        rw [Nat.div_add_mod] at split
        rw [← split, List.head?_append_of_ne_nil _ Nat.toDigits_ne_nil]
        exact ih (n / 10) (Nat.div_lt_self positive (by decide)) more

theorem scanMagnitude_toString (n : ℕ) {rest : List Char} (stops : Stops rest) :
    scanMagnitude ((toString n).toList ++ rest) = some ((toString n).toList, rest) := by
  rcases Nat.eq_zero_or_pos n with rfl | positive
  · rfl
  · have digital := Decimal.digital_toString n
    have nonzero := toString_head n positive
    have some_digit := Decimal.toString_ne_nil n
    generalize (toString n).toList = digits at digital nonzero some_digit
    rw [scanMagnitude]
    · rw [spanDigits_digital stops digital]
      cases digits with
      | nil => exact absurd rfl some_digit
      | cons => rfl
    · rintro after starts
      cases digits with
      | nil => exact some_digit rfl
      | cons d digits =>
          rw [(List.cons.inj starts).1] at nonzero
          exact nonzero rfl

/-- `str` of an int: a minus for the negative ones, then the digits. -/
theorem toString_int (n : ℤ) :
    (toString n).toList = if n < 0 then '-' :: (toString n.natAbs).toList else (toString n.natAbs).toList := by
  cases n with
  | ofNat m => rfl
  | negSucc m =>
      rw [if_pos (Int.negSucc_lt_zero m)]
      change ("-" ++ toString (m + 1)).toList = _
      rw [String.toList_append]
      rfl

theorem digit_head {n : ℕ} {c : Char} {digits : List Char} (shown : (toString n).toList = c :: digits) :
    Decimal.isDigit c := by
  apply Decimal.digital_toString n
  rw [shown]
  exact List.mem_cons_self

theorem digit_not_minus {c : Char} (digit : Decimal.isDigit c) : c ≠ '-' := by
  rintro rfl
  cases digit

theorem scanNumber_int (parseFloat : List Char → Json) (n : ℤ) {rest : List Char} (stops : Stops rest) :
    scanNumber parseFloat ((toString n).toList ++ rest) = some (.int n, rest) := by
  have ended : ∀ text, scanInteger ((toString n).toList ++ rest) = some (text, rest) → integerOf text = n →
      scanNumber parseFloat ((toString n).toList ++ rest) = some (.int n, rest) := by
    intro text scanned meant
    simp only [scanNumber, scanned, Option.bind_eq_bind, Option.bind_some, stops.fraction, stops.exponent,
      List.isEmpty_nil, Bool.and_self, ↓reduceIte, meant, Option.pure_def]
  have magnitude := scanMagnitude_toString n.natAbs stops
  have value := Decimal.digitsValue_toString n.natAbs
  obtain ⟨c, digits, shown⟩ := List.exists_cons_of_ne_nil (Decimal.toString_ne_nil n.natAbs)
  have unsigned := digit_not_minus (digit_head shown)
  apply ended (toString n).toList
  · rw [toString_int]
    split
    · rw [List.cons_append, scanInteger, magnitude]
      rfl
    · rw [scanInteger, magnitude]
      intro text starts
      rw [shown] at starts
      exact unsigned (List.cons.inj starts).1
  · rw [toString_int]
    split
    · rw [integerOf, value]
      omega
    · rw [integerOf, value]
      · omega
      · intro text starts
        rw [shown] at starts
        exact unsigned (List.cons.inj starts).1

/-! ## Values -/

/-- A text that a reader of a list takes for its next item. -/
def Opens (text : List Char) : Prop :=
  ∃ c rest, text = c :: rest ∧ c ∉ [' ', '\t', '\n', '\r', ']', '\x7d']

theorem Opens.append {text : List Char} (opens : Opens text) (more : List Char) : Opens (text ++ more) := by
  obtain ⟨c, rest, rfl, other⟩ := opens
  exact ⟨c, rest ++ more, rfl, other⟩

theorem Opens.skip {text : List Char} (opens : Opens text) : skipBlank text = text := by
  obtain ⟨c, rest, rfl, other⟩ := opens
  simp only [List.mem_cons, List.not_mem_nil, or_false, not_or] at other
  simp only [skipBlank, List.dropWhile_cons, other.1, other.2.1, other.2.2.1, other.2.2.2.1, decide_false,
    Bool.or_self, Bool.false_eq_true, ↓reduceIte]

theorem skipBlank_stop {c : Char} (stop : c ∈ [',', ']', '\x7d', ':']) (rest : List Char) :
    skipBlank (c :: rest) = c :: rest := by
  have table : ∀ c ∈ [',', ']', '\x7d', ':'], (c = ' ' || c = '\t' || c = '\n' || c = '\r') = false :=
    forall_of_all (by decide)
  exact List.dropWhile_cons_of_neg (by simpa using table c stop)

theorem opens_dumpText (text : String) : Opens (dumpText text) := ⟨_, _, rfl, by decide⟩

/-- Numbers begin with a minus or a digit, which is none of the other beginnings. -/
theorem int_starts (n : ℤ) : ∃ c rest, (toString n).toList = c :: rest ∧
    c ∉ [' ', '\t', '\n', '\r', ']', '\x7d', '"', '\x7b', '[', 'n', 't', 'f'] := by
  obtain ⟨c, digits, shown⟩ := List.exists_cons_of_ne_nil (Decimal.toString_ne_nil n.natAbs)
  rw [toString_int]
  split
  · exact ⟨_, _, rfl, by decide⟩
  · refine ⟨c, digits, shown, fun listed => ?_⟩
    have digit := digit_head shown
    have table : ∀ c ∈ [' ', '\t', '\n', '\r', ']', '\x7d', '"', '\x7b', '[', 'n', 't', 'f'],
        Decimal.isDigit c = false := forall_of_all (by decide)
    rw [table c listed] at digit
    cases digit

theorem Exact.opens {value : Json} (exact : Exact value) : Opens value.dumps := by
  cases exact with
  | null => exact ⟨_, _, rfl, by decide⟩
  | bool b => cases b <;> exact ⟨_, _, rfl, by decide⟩
  | int n =>
      obtain ⟨c, rest, shown, other⟩ := int_starts n
      refine ⟨c, rest, shown, fun listed => other ?_⟩
      exact List.mem_append_left ['"', '\x7b', '[', 'n', 't', 'f'] listed
  | str text => exact opens_dumpText text
  | arr | obj => exact ⟨_, _, by rw [dumps], by decide⟩

/-! ## Dicts -/

theorem setField_new {key : String} {value : Json} {fields : List (String × Json)}
    (fresh : key ∉ fields.map Prod.fst) : setField key value fields = fields ++ [(key, value)] := by
  induction fields with
  | nil => rfl
  | cons entry rest ih =>
      simp only [List.map_cons, List.mem_cons, not_or] at fresh
      rw [setField, if_neg (Ne.symm fresh.1), ih fresh.2]
      rfl

/-- Pairs with each key once are a dict as they are. -/
theorem dictOf_nodup {fields : List (String × Json)} (once : (fields.map Prod.fst).Nodup) : dictOf fields = fields := by
  have grown : ∀ pairs before : List (String × Json), ((before ++ pairs).map Prod.fst).Nodup →
      pairs.foldl (fun fields entry => setField entry.1 entry.2 fields) before = before ++ pairs := by
    intro pairs
    induction pairs with
    | nil => exact fun before _ => (List.append_nil before).symm
    | cons entry rest ih =>
        intro before once
        have fresh : entry.1 ∉ before.map Prod.fst := by
          rw [List.map_append, List.nodup_append] at once
          exact fun taken => once.2.2 entry.1 taken entry.1 List.mem_cons_self rfl
        rw [List.append_cons] at once
        rw [List.foldl_cons, setField_new fresh, ih _ once, ← List.append_cons]
  exact grown fields [] once

/-! ## Reading back -/

section Reading

variable {parseFloat : List Char → Json}

/-- The value is read from its text, whatever follows. -/
def ReadBack (parseFloat : List Char → Json) (value : Json) : Prop :=
  ∀ fuel rest, value.dumps.length ≤ fuel → Stops rest →
    scanOnce parseFloat fuel (value.dumps ++ rest) = some (value, rest)

theorem dumpItems_more (first second : Json) (others : List Json) :
    dumpItems (first :: second :: others) = first.dumps ++ ',' :: ' ' :: dumpItems (second :: others) := by
  rw [dumpItems]
  · exact List.append_assoc ..
  · exact fun none => List.cons_ne_nil _ _ none

theorem dumpFields_more (key : String) (first : Json) (second : String × Json) (others : List (String × Json)) :
    dumpFields ((key, first) :: second :: others) =
      dumpText key ++ ':' :: ' ' :: (first.dumps ++ ',' :: ' ' :: dumpFields (second :: others)) := by
  rw [dumpFields]
  · simp only [List.append_assoc]
    rfl
  · exact fun none => List.cons_ne_nil _ _ none

theorem dumpFields_last (key : String) (last : Json) :
    dumpFields [(key, last)] = dumpText key ++ ':' :: ' ' :: last.dumps := by
  rw [dumpFields]
  exact List.append_assoc ..

theorem opens_dumpItems {first : Json} (exact : Exact first) (others : List Json) :
    Opens (dumpItems (first :: others)) := by
  cases others with
  | nil =>
      rw [dumpItems]
      exact exact.opens
  | cons second others =>
      rw [dumpItems_more]
      exact exact.opens.append _

theorem dumpFields_quoted (entry : String × Json) (others : List (String × Json)) :
    ∃ rest, dumpFields (entry :: others) = '"' :: rest := by
  cases others with
  | nil => exact ⟨_, dumpFields_last ..⟩
  | cons second others => exact ⟨_, dumpFields_more ..⟩

/-- After a separator comes a blank, which is skipped. -/
theorem Opens.skipSpace {text : List Char} (opens : Opens text) : skipBlank (' ' :: text) = text := opens.skip

theorem scanItems_dumpItems {first : Json} {others : List Json} (exact : ∀ item ∈ first :: others, Exact item)
    (each : ∀ item ∈ first :: others, ReadBack parseFloat item) (rest : List Char) {fuel : ℕ}
    (enough : (dumpItems (first :: others)).length < fuel) :
    scanItems parseFloat fuel (dumpItems (first :: others) ++ ']' :: rest) = some (first :: others, rest) := by
  induction others generalizing first fuel with
  | nil =>
      cases fuel with
      | zero => exact absurd enough (Nat.not_lt_zero _)
      | succ fuel =>
          rw [dumpItems] at enough ⊢
          have read := each first List.mem_cons_self fuel (']' :: rest) (by omega) (stops_cons (by decide))
          simp only [scanItems, read, Option.bind_eq_bind, Option.bind_some, skipBlank_stop (show ']' ∈ _ by decide),
            Option.pure_def]
  | cons second others ih =>
      rw [List.forall_mem_cons] at exact each
      cases fuel with
      | zero => exact absurd enough (Nat.not_lt_zero _)
      | succ fuel =>
          rw [dumpItems_more, List.length_append, List.length_cons, List.length_cons] at enough
          have read := each.1 fuel (',' :: ' ' :: (dumpItems (second :: others) ++ ']' :: rest)) (by omega)
            (stops_cons (by decide))
          have opens := (opens_dumpItems (exact.2 second List.mem_cons_self) others).append (']' :: rest)
          have shorter : (dumpItems (second :: others)).length < fuel := by omega
          have more := ih exact.2 each.2 shorter
          rw [dumpItems_more, List.append_assoc, List.cons_append, List.cons_append]
          simp only [scanItems, read, Option.bind_eq_bind, Option.bind_some, skipBlank_stop (show ',' ∈ _ by decide),
            opens.skipSpace, more, Option.pure_def]

/-- A key and its value, up to what follows. -/
theorem scanFields_entry {key : String} {value : Json} (exact : Exact value) (read : ReadBack parseFloat value)
    {fuel : ℕ} {rest : List Char} (enough : value.dumps.length ≤ fuel) (stops : Stops rest) :
    scanFields parseFloat (fuel + 1) (dumpText key ++ ':' :: ' ' :: (value.dumps ++ rest)) =
      match skipBlank rest with
      | '\x7d' :: rest => some ([(key, value)], rest)
      | ',' :: rest => do
          let (fields, rest) ← scanFields parseFloat fuel (skipBlank rest)
          return ((key, value) :: fields, rest)
      | _ => none := by
  have text : dumpText key ++ ':' :: ' ' :: (value.dumps ++ rest) =
      '"' :: (key.toList.flatMap escapeChar ++ '"' :: ':' :: ' ' :: (value.dumps ++ rest)) := by
    rw [dumpText, List.cons_append, List.append_assoc]
    rfl
  rw [text]
  simp only [scanFields, scanString_dumpText, Option.bind_eq_bind, Option.bind_some,
    skipBlank_stop (show ':' ∈ _ by decide), (exact.opens.append rest).skipSpace, read fuel rest enough stops]
  rfl

theorem scanFields_dumpFields {first : String × Json} {others : List (String × Json)}
    (exact : ∀ entry ∈ first :: others, Exact entry.2)
    (each : ∀ entry ∈ first :: others, ReadBack parseFloat entry.2) (rest : List Char) {fuel : ℕ}
    (enough : (dumpFields (first :: others)).length < fuel) :
    scanFields parseFloat fuel (dumpFields (first :: others) ++ '\x7d' :: rest) = some (first :: others, rest) := by
  induction others generalizing first fuel with
  | nil =>
      obtain ⟨key, value⟩ := first
      cases fuel with
      | zero => exact absurd enough (Nat.not_lt_zero _)
      | succ fuel =>
          rw [dumpFields_last, List.length_append, List.length_cons, List.length_cons] at enough
          rw [dumpFields_last, List.append_assoc, List.cons_append, List.cons_append,
            scanFields_entry (exact _ List.mem_cons_self) (each _ List.mem_cons_self) (by dsimp only; omega)
              (stops_cons (by decide)), skipBlank_stop (by decide)]
          rfl
  | cons second others ih =>
      obtain ⟨key, value⟩ := first
      rw [List.forall_mem_cons] at exact each
      cases fuel with
      | zero => exact absurd enough (Nat.not_lt_zero _)
      | succ fuel =>
          rw [dumpFields_more, List.length_append, List.length_cons, List.length_cons, List.length_append,
            List.length_cons, List.length_cons] at enough
          obtain ⟨quoted, shown⟩ := dumpFields_quoted second others
          have opens : Opens (dumpFields (second :: others) ++ '\x7d' :: rest) := by
            rw [shown]
            exact ⟨_, _, rfl, by decide⟩
          have shorter : (dumpFields (second :: others)).length < fuel := by omega
          have more := ih exact.2 each.2 shorter
          simp only [dumpFields_more, List.append_assoc, List.cons_append]
          rw [scanFields_entry exact.1 each.1 (by dsimp only; omega) (stops_cons (by decide)),
            skipBlank_stop (by decide)]
          simp only [opens.skipSpace, more, Option.bind_eq_bind, Option.bind_some, Option.pure_def]

theorem Opens.readBack {value : Json} (opens : Opens value.dumps)
    (read : ∀ fuel rest, value.dumps.length ≤ fuel + 1 → Stops rest →
      scanOnce parseFloat (fuel + 1) (value.dumps ++ rest) = some (value, rest)) : ReadBack parseFloat value := by
  intro fuel rest enough stops
  cases fuel with
  | zero =>
      obtain ⟨c, text, shown, -⟩ := opens
      rw [shown] at enough
      exact absurd enough (Nat.not_succ_le_zero _)
  | succ fuel => exact read fuel rest enough stops

theorem readBack_int (n : ℤ) : ReadBack parseFloat (.int n) := by
  apply (Exact.int n).opens.readBack
  intro fuel rest _ stops
  obtain ⟨c, digits, shown, other⟩ := int_starts n
  simp only [List.mem_cons, List.not_mem_nil, or_false, not_or] at other
  have read := scanNumber_int parseFloat n stops
  rw [dumps]
  rw [shown] at read ⊢
  simp only [List.cons_append] at read ⊢
  simp only [scanOnce, other, ↓reduceIte, read, Option.some_or]

theorem readBack_str (text : String) : ReadBack parseFloat (.str text) := by
  apply (Exact.str text).opens.readBack
  intro fuel rest _ _
  have shown : (Json.str text).dumps ++ rest = '"' :: (text.toList.flatMap escapeChar ++ '"' :: rest) := by
    rw [dumps, dumpText, List.cons_append, List.append_assoc]
    rfl
  rw [shown]
  simp only [scanOnce, ↓reduceIte, scanString_dumpText, Option.bind_eq_bind, Option.bind_some, Option.pure_def]

theorem readBack_arr {items : List Json} (each : ∀ item ∈ items, Exact item)
    (read : ∀ item ∈ items, ReadBack parseFloat item) : ReadBack parseFloat (.arr items) := by
  apply (Exact.arr each).opens.readBack
  intro fuel rest enough _
  rw [dumps] at enough ⊢
  simp only [List.length_cons, List.length_append, List.length_nil] at enough
  rw [List.cons_append, List.append_assoc]
  simp only [scanOnce, Char.reduceEq, ↓reduceIte, List.singleton_append]
  cases items with
  | nil => rfl
  | cons first others =>
      have opens := (opens_dumpItems (each first List.mem_cons_self) others).append (']' :: rest)
      have shorter : (dumpItems (first :: others)).length < fuel := by omega
      have scanned := scanItems_dumpItems each read rest shorter
      rw [opens.skip]
      obtain ⟨c, text, shown, other⟩ := opens
      split
      · rename_i closed
        rw [shown] at closed
        exact absurd (List.cons.inj closed).1 (by rintro rfl; exact other (by decide))
      · simp only [scanned, Option.bind_eq_bind, Option.bind_some, Option.pure_def]

theorem readBack_obj {fields : List (String × Json)} (once : (fields.map Prod.fst).Nodup)
    (each : ∀ entry ∈ fields, Exact entry.2) (read : ∀ entry ∈ fields, ReadBack parseFloat entry.2) :
    ReadBack parseFloat (.obj fields) := by
  apply (Exact.obj once each).opens.readBack
  intro fuel rest enough _
  rw [dumps] at enough ⊢
  simp only [List.length_cons, List.length_append, List.length_nil] at enough
  rw [List.cons_append, List.append_assoc]
  simp only [scanOnce, Char.reduceEq, ↓reduceIte, List.singleton_append]
  cases fields with
  | nil => rfl
  | cons first others =>
      obtain ⟨quoted, shown⟩ := dumpFields_quoted first others
      have opens : Opens (dumpFields (first :: others) ++ '\x7d' :: rest) := by
        rw [shown]
        exact ⟨_, _, rfl, by decide⟩
      have shorter : (dumpFields (first :: others)).length < fuel := by omega
      have scanned := scanFields_dumpFields each read rest shorter
      rw [opens.skip]
      split
      · rename_i closed
        rw [shown] at closed
        exact absurd (List.cons.inj closed).1 (by decide)
      · simp only [scanned, dictOf_nodup once, Option.bind_eq_bind, Option.bind_some, Option.pure_def]

/-- A value is read back whole, and what follows is left. -/
theorem Exact.readBack {value : Json} (exact : Exact value) : ReadBack parseFloat value := by
  induction exact with
  | null =>
      apply Exact.null.opens.readBack
      intro fuel rest _ _
      rfl
  | bool b =>
      apply (Exact.bool b).opens.readBack
      intro fuel rest _ _
      cases b <;> rfl
  | int n => exact readBack_int n
  | str text => exact readBack_str text
  | arr each read => exact readBack_arr each read
  | obj once each read => exact readBack_obj once each read

/-- What is written is read back. -/
theorem loads_dumps {value : Json} (exact : Exact value) : loads parseFloat value.dumps = some value := by
  have back : ReadBack parseFloat value := exact.readBack
  have read := back (value.dumps.length + 1) [] (Nat.le_succ _) (fun c none => nomatch none)
  rw [List.append_nil] at read
  simp only [loads, exact.opens.skip, read, Option.bind_eq_bind, Option.bind_some]
  rfl

end Reading

/-! ## ASCII -/

/-- Printable ASCII, as `str.isprintable` and `str.isascii` have it. -/
def Printable (text : List Char) : Prop := ∀ c ∈ text, 32 ≤ c.toNat ∧ c.toNat ≤ 126

theorem Printable.append {text more : List Char} (first : Printable text) (second : Printable more) :
    Printable (text ++ more) := by
  intro c member
  rcases List.mem_append.mp member with found | found
  · exact first c found
  · exact second c found

theorem Printable.cons {c : Char} {text : List Char} (first : 32 ≤ c.toNat ∧ c.toNat ≤ 126) (rest : Printable text) :
    Printable (c :: text) :=
  Printable.append (List.forall_mem_singleton.mpr first) rest

theorem printable_escapeChar (c : Char) : Printable (escapeChar c) := by
  have digit : ∀ n, 32 ≤ (n % 16).digitChar.toNat ∧ (n % 16).digitChar.toNat ≤ 126 := by
    intro n
    have table : ∀ n < 16, 32 ≤ n.digitChar.toNat ∧ n.digitChar.toNat ≤ 126 := by decide
    exact table _ (Nat.mod_lt _ (by decide))
  have unit : ∀ unit, Printable (unicodeEscape unit) := by
    intro unit
    refine .cons (by decide) (.cons (by decide) ?_)
    intro d member
    simp only [hexDigits, List.mem_cons, List.not_mem_nil, or_false] at member
    rcases member with rfl | rfl | rfl | rfl <;> exact digit _
  rw [escapeChar]
  split
  · rename_i letter found
    obtain ⟨before, after, split, -⟩ := List.lookup_eq_some_iff.mp found
    have table : ∀ entry ∈ shortEscapes, 32 ≤ entry.2.toNat ∧ entry.2.toNat ≤ 126 := forall_of_all (by decide)
    refine .cons (by decide) (List.forall_mem_singleton.mpr (table (c, letter) ?_))
    rw [split]
    exact List.mem_append_right _ List.mem_cons_self
  · split
    · rename_i printable
      exact List.forall_mem_singleton.mpr printable
    · intro d member
      obtain ⟨u, -, found⟩ := List.mem_flatMap.mp member
      exact unit u d found

theorem printable_dumpText (text : String) : Printable (dumpText text) := by
  refine .cons (by decide) (.append ?_ (List.forall_mem_singleton.mpr (by decide)))
  intro d member
  obtain ⟨c, -, found⟩ := List.mem_flatMap.mp member
  exact printable_escapeChar c d found

theorem printable_toString (n : ℤ) : Printable (toString n).toList := by
  have digits : Printable (toString n.natAbs).toList := by
    intro c member
    have digit := of_decide_eq_true (Decimal.digital_toString n.natAbs c member)
    omega
  rw [toString_int]
  split
  · exact .cons (by decide) digits
  · exact digits

theorem printable_dumpItems {items : List Json} (each : ∀ item ∈ items, Printable item.dumps) :
    Printable (dumpItems items) := by
  induction items with
  | nil => exact fun c member => nomatch member
  | cons first others ih =>
      rw [List.forall_mem_cons] at each
      cases others with
      | nil => exact each.1
      | cons second others =>
          rw [dumpItems_more]
          exact each.1.append (.cons (by decide) (.cons (by decide) (ih each.2)))

theorem printable_dumpFields {fields : List (String × Json)} (each : ∀ entry ∈ fields, Printable entry.2.dumps) :
    Printable (dumpFields fields) := by
  induction fields with
  | nil => exact fun c member => nomatch member
  | cons first others ih =>
      obtain ⟨key, value⟩ := first
      rw [List.forall_mem_cons] at each
      cases others with
      | nil =>
          rw [dumpFields_last]
          exact (printable_dumpText key).append (.cons (by decide) (.cons (by decide) each.1))
      | cons second others =>
          rw [dumpFields_more]
          have later : Printable (',' :: ' ' :: dumpFields (second :: others)) :=
            .cons (by decide) (.cons (by decide) (ih each.2))
          exact (printable_dumpText key).append (.cons (by decide) (.cons (by decide) (each.1.append later)))

/-- `ensure_ascii`: nothing else is written, and no line ends in it. -/
theorem Exact.printable {value : Json} (exact : Exact value) : Printable value.dumps := by
  induction exact with
  | null => exact forall_of_all (by decide)
  | bool b => cases b <;> exact forall_of_all (by decide)
  | int n => exact printable_toString n
  | str text => exact printable_dumpText text
  | arr each ih =>
      rw [dumps]
      exact .cons (by decide) ((printable_dumpItems ih).append (List.forall_mem_singleton.mpr (by decide)))
  | obj once each ih =>
      rw [dumps]
      exact .cons (by decide) ((printable_dumpFields ih).append (List.forall_mem_singleton.mpr (by decide)))

end Json
