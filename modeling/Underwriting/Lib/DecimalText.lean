import Underwriting.Lib.DecimalValue

/-! # The text of a decimal

A finite decimal is read back from its text as it was: sign, coefficient and
exponent. So two of them that print the same are the same.
-/

namespace Decimal

/-- A text of digits alone. -/
def Digital (text : List Char) : Prop := ∀ c ∈ text, isDigit c

section Digits

theorem digitsValue_eq (text : List Char) : digitsValue text = Nat.ofDigitChars 10 text 0 :=
  (Nat.ofDigitChars_eq_foldl).symm

theorem digitsValue_zeros (n : ℕ) (text : List Char) :
    digitsValue (List.replicate n '0' ++ text) = digitsValue text := by
  simp only [digitsValue_eq, Nat.ofDigitChars_append, Nat.ofDigitChars_replicate_zero, Nat.mul_zero]

theorem digital_zeros (n : ℕ) : Digital (List.replicate n '0') := by
  intro c member
  rw [List.eq_of_mem_replicate member]
  rfl

theorem Digital.append {text text' : List Char} (digital : Digital text) (digital' : Digital text') :
    Digital (text ++ text') := by
  intro c member
  rcases List.mem_append.mp member with first | second
  · exact digital c first
  · exact digital' c second

variable (n : ℕ)

theorem toString_digits : (toString n).toList = Nat.toDigits 10 n := Nat.toList_repr

theorem digitsValue_toString : digitsValue (toString n).toList = n := by
  rw [digitsValue_eq, toString_digits, Nat.ofDigitChars_ten_toDigits]

theorem digital_toString : Digital (toString n).toList := by
  intro c member
  rw [toString_digits] at member
  have digit := Nat.isDigit_of_mem_toDigits (by decide) (by decide) member
  simp only [Char.isDigit, Bool.and_eq_true, decide_eq_true_eq] at digit
  apply decide_eq_true
  exact ⟨UInt32.le_iff_toNat_le.mp digit.1, UInt32.le_iff_toNat_le.mp digit.2⟩

theorem toString_ne_nil : (toString n).toList ≠ [] := by
  rw [toString_digits]
  exact Nat.toDigits_ne_nil

end Digits

/-! ## The parts of a text -/

/-- The exponent part for a power that is printed. -/
def powerText (power : ℤ) : List Char :=
  'E' :: (if 0 ≤ power then ['+'] else ['-']) ++ (toString power.natAbs).toList

theorem parseExponent_powerText (power : ℤ) : parseExponent (powerText power) = some power := by
  have some_digit := toString_ne_nil power.natAbs
  have digital : (toString power.natAbs).toList.all isDigit := List.all_eq_true.mpr (digital_toString power.natAbs)
  have letter : 'E'.toLower = 'e' := by decide
  by_cases nonneg : 0 ≤ power
  · simp only [powerText, if_pos nonneg, List.cons_append, List.nil_append, parseExponent, splitSign]
    rw [if_pos ⟨letter, some_digit, digital⟩, digitsValue_toString]
    simp only [Bool.false_eq_true, if_false, Option.some.injEq]
    omega
  · simp only [powerText, if_neg nonneg, List.cons_append, List.nil_append, parseExponent, splitSign]
    rw [if_pos ⟨letter, some_digit, digital⟩, digitsValue_toString]
    simp only [if_true, Option.some.injEq]
    omega

/-- What may follow the digits: nothing, or an exponent part. -/
inductive Tail : List Char → ℤ → Prop where
  | none : Tail [] 0
  | power (power : ℤ) : Tail (powerText power) power

theorem Tail.parsed {text : List Char} {power : ℤ} (tail : Tail text power) : parseExponent text = some power := by
  cases tail with
  | none => rfl
  | power => exact parseExponent_powerText power

/-- No digit stands in front of the exponent part. -/
theorem Tail.scanned {text : List Char} {power : ℤ} (tail : Tail text power) :
    text.takeWhile isDigit = [] ∧ text.dropWhile isDigit = text := by
  cases tail with
  | none => exact ⟨rfl, rfl⟩
  | power => exact ⟨rfl, rfl⟩

section Scanning

variable {text whole frac : List Char} {power : ℤ} (neg : Bool)

theorem takeWhile_digits (digital : Digital whole) (stop : text.takeWhile isDigit = []) :
    (whole ++ text).takeWhile isDigit = whole := by
  rw [List.takeWhile_append_of_pos digital, stop, List.append_nil]

theorem dropWhile_digits (digital : Digital whole) : (whole ++ text).dropWhile isDigit = text.dropWhile isDigit :=
  List.dropWhile_append_of_pos digital

theorem parseFinite_whole (digital : Digital whole) (some_digit : whole ≠ []) (tail : Tail text power) :
    parseFinite neg (whole ++ text) = some (.finite neg (digitsValue whole) power) := by
  obtain ⟨taken, dropped⟩ := tail.scanned
  have parsed := tail.parsed
  simp only [parseFinite, takeWhile_digits digital taken, dropWhile_digits digital, dropped]
  -- neither an empty tail nor an exponent part starts with a point
  cases tail with
  | none => simpa [some_digit] using parsed
  | power => simpa [powerText, some_digit] using parsed

theorem parseFinite_point (digital : Digital whole) (some_digit : whole ≠ []) (digital' : Digital frac)
    (tail : Tail text power) :
    parseFinite neg (whole ++ '.' :: (frac ++ text)) =
      some (.finite neg (digitsValue (whole ++ frac)) (power - frac.length)) := by
  obtain ⟨taken, dropped⟩ := tail.scanned
  have stop : ('.' :: (frac ++ text)).takeWhile isDigit = [] := rfl
  have point : ('.' :: (frac ++ text)).dropWhile isDigit = '.' :: (frac ++ text) := rfl
  simp only [parseFinite, takeWhile_digits digital stop, dropWhile_digits digital, point,
    takeWhile_digits digital' taken, dropWhile_digits digital', dropped, tail.parsed]
  simp [some_digit]

end Scanning

/-! ## A printed number -/

/-- The text of a finite decimal without its sign. -/
def bodyText (coeff : ℕ) (exp : ℤ) : List Char :=
  let digits := (toString coeff).toList
  let left : ℤ := exp + digits.length
  let point := if exp ≤ 0 ∧ -6 < left then left else 1
  let mantissa :=
    if point ≤ 0 then ['0', '.'] ++ List.replicate (-point).toNat '0' ++ digits
    else if digits.length ≤ point then digits ++ List.replicate (point - digits.length).toNat '0'
    else digits.take point.toNat ++ '.' :: digits.drop point.toNat
  let power := if left = point then [] else powerText (left - point)
  mantissa ++ power

theorem str_finite (neg : Bool) (coeff : ℕ) (exp : ℤ) :
    (finite neg coeff exp).str.toList = signText neg ++ bodyText coeff exp := by
  simp only [str, String.toList_ofList, bodyText, powerText, List.append_assoc]

/-- A text that reads as the number: digits, maybe with a point among them, maybe with
    an exponent part. -/
inductive Reads (coeff : ℕ) (exp : ℤ) : List Char → Prop where
  | whole {digits text} (digital : Digital digits) (some_digit : digits ≠ []) (tail : Tail text exp)
      (value : digitsValue digits = coeff) : Reads coeff exp (digits ++ text)
  | point {digits frac text power} (digital : Digital digits) (some_digit : digits ≠ []) (digital' : Digital frac)
      (tail : Tail text power) (value : digitsValue (digits ++ frac) = coeff) (shifted : power - frac.length = exp) :
      Reads coeff exp (digits ++ '.' :: (frac ++ text))

theorem Reads.parsed {coeff : ℕ} {exp : ℤ} {text : List Char} (reads : Reads coeff exp text) (neg : Bool) :
    parseFinite neg text = some (.finite neg coeff exp) := by
  cases reads with
  | whole digital some_digit tail value => rw [parseFinite_whole neg digital some_digit tail, value]
  | point digital some_digit digital' tail value shifted =>
      rw [parseFinite_point neg digital some_digit digital' tail, value, shifted]

/-- Digits with a point after some but not all of them. -/
theorem reads_split {coeff : ℕ} {exp power : ℤ} {text : List Char} {k : ℕ} (positive : 0 < k)
    (tail : Tail text power) (shifted : power - ((toString coeff).toList.length - k : ℕ) = exp) :
    Reads coeff exp ((toString coeff).toList.take k ++ '.' :: (toString coeff).toList.drop k ++ text) := by
  rw [List.append_assoc, List.cons_append]
  have digital := digital_toString coeff
  apply Reads.point (fun c member => digital c (List.mem_of_mem_take member)) ?_
    (fun c member => digital c (List.mem_of_mem_drop member)) tail
  · rw [List.take_append_drop]
    exact digitsValue_toString coeff
  · rw [List.length_drop]
    exact shifted
  · intro none
    rcases List.take_eq_nil_iff.mp none with zero | none
    · omega
    · exact toString_ne_nil coeff none

theorem reads_bodyText (coeff : ℕ) (exp : ℤ) : Reads coeff exp (bodyText coeff exp) := by
  have some_digit : 0 < (toString coeff).toList.length := List.length_pos_iff.mpr (toString_ne_nil coeff)
  have digital := digital_toString coeff
  simp only [bodyText]
  generalize left_eq : exp + ((toString coeff).toList.length : ℤ) = left
  by_cases plain : exp ≤ 0 ∧ -6 < left
  · -- plain notation has no exponent part
    simp only [if_pos plain, if_true, List.append_nil]
    split
    · rename_i small
      rw [← List.append_nil (_ ++ (toString coeff).toList)]
      apply Reads.point (digital_zeros 1) (by simp) ((digital_zeros (-left).toNat).append digital) Tail.none
      · rw [digitsValue_zeros, digitsValue_zeros, digitsValue_toString]
      · rw [List.length_append, List.length_replicate]
        omega
    · split
      · rename_i short
        have whole : exp = 0 := by omega
        have none : (left - ((toString coeff).toList.length : ℤ)).toNat = 0 := by omega
        rw [none, List.replicate_zero, whole]
        exact .whole digital (toString_ne_nil coeff) .none (digitsValue_toString coeff)
      · rw [← List.append_nil (_ ++ _)]
        exact reads_split (by omega) Tail.none (by omega)
  · -- scientific notation has one digit in front of the point
    have differs : left ≠ 1 := by omega
    simp only [if_neg plain, if_neg differs, if_neg (show ¬(1 : ℤ) ≤ 0 by decide)]
    split
    · rename_i short
      have none : (1 - ((toString coeff).toList.length : ℤ)).toNat = 0 := by omega
      have power : left - 1 = exp := by omega
      rw [none, List.replicate_zero, List.append_nil, power]
      exact .whole digital (toString_ne_nil coeff) (.power exp) (digitsValue_toString coeff)
    · exact reads_split (by decide) (.power _) (by omega)

/-! ## Reading it back -/

/-- The characters of a number: neither blank nor an underscore. -/
def Plain (c : Char) : Prop := isDigit c ∨ c ∈ ['.', 'E', '+', '-']

theorem Digital.plain {text : List Char} (digital : Digital text) : ∀ c ∈ text, Plain c :=
  fun c member => .inl (digital c member)

theorem Tail.plain {text : List Char} {power : ℤ} (tail : Tail text power) : ∀ c ∈ text, Plain c := by
  cases tail with
  | none => exact fun _ member => nomatch member
  | power =>
      intro c member
      rcases List.mem_append.mp member with front | digit
      · split at front <;> exact .inr (by simp only [List.mem_cons, List.not_mem_nil, or_false] at front ⊢; tauto)
      · exact .inl (digital_toString _ c digit)

theorem Reads.plain {coeff : ℕ} {exp : ℤ} {text : List Char} (reads : Reads coeff exp text) :
    ∀ c ∈ text, Plain c := by
  intro c member
  cases reads with
  | whole digital some_digit tail value =>
      rcases List.mem_append.mp member with front | back
      · exact digital.plain c front
      · exact tail.plain c back
  | point digital some_digit digital' tail value shifted =>
      simp only [List.mem_append, List.mem_cons] at member
      rcases member with front | rfl | frac | back
      · exact digital.plain c front
      · exact .inr (by simp)
      · exact digital'.plain c frac
      · exact tail.plain c back

theorem Reads.starts {coeff : ℕ} {exp : ℤ} {text : List Char} (reads : Reads coeff exp text) :
    ∃ c rest, text = c :: rest ∧ isDigit c := by
  have front : ∀ {digits rest : List Char}, Digital digits → digits ≠ [] →
      ∃ c rest', digits ++ rest = c :: rest' ∧ isDigit c := by
    intro digits rest digital some_digit
    obtain ⟨c, digits', rfl⟩ := List.exists_cons_of_ne_nil some_digit
    exact ⟨c, digits' ++ rest, rfl, digital c List.mem_cons_self⟩
  cases reads with
  | whole digital some_digit tail value => exact front digital some_digit
  | point digital some_digit digital' tail value shifted => exact front digital some_digit

theorem Plain.not_blank {c : Char} (plain : Plain c) : c.toNat < 128 ∧ Unicode.isSpace c = false ∧ c ≠ '_' := by
  rcases plain with digit | symbol
  · have table : ∀ n < 58, 48 ≤ n → Unicode.isSpace (Char.ofNat n) = false ∧ Char.ofNat n ≠ '_' := by decide
    have bounds := of_decide_eq_true digit
    have numeral := table c.toNat (by omega) bounds.1
    rw [Char.ofNat_toNat] at numeral
    exact ⟨by omega, numeral⟩
  · simp only [List.mem_cons, List.not_mem_nil, or_false] at symbol
    rcases symbol with rfl | rfl | rfl | rfl <;> decide

theorem toLower_digit {c : Char} (digit : isDigit c) : c.toLower = c := by
  have bounds := of_decide_eq_true digit
  delta Char.toLower
  rw [dif_neg]
  rintro ⟨upper, -⟩
  have upper' : 65 ≤ c.toNat := UInt32.le_iff_toNat_le.mp upper
  omega

theorem Reads.plain_signed {coeff : ℕ} {exp : ℤ} {text : List Char} (reads : Reads coeff exp text) (neg : Bool) :
    ∀ c ∈ signText neg ++ text, Plain c := by
  intro c member
  rcases List.mem_append.mp member with sign | body
  · cases neg with
    | false => cases sign
    | true =>
        rw [List.mem_singleton.mp sign]
        exact .inr (by simp)
  · exact reads.plain c body

/-- A text that starts with a digit has the sign that is put in front of it. -/
theorem splitSign_signed {c : Char} (digit : isDigit c) (neg : Bool) (rest : List Char) :
    splitSign (signText neg ++ c :: rest) = (neg, c :: rest) := by
  cases neg with
  | true => rfl
  | false =>
      have bounds := of_decide_eq_true digit
      have minus : c ≠ '-' := by
        rintro rfl
        exact absurd bounds (by decide)
      have plus : c ≠ '+' := by
        rintro rfl
        exact absurd bounds (by decide)
      simp [signText, splitSign, minus, plus]

/-- Every finite decimal is read back from its text. -/
theorem parse_str {d : Decimal} (finite : d.IsFinite) : parse d.str = some d := by
  cases d with
  | infinity | nan => exact finite.elim
  | finite neg coeff exp =>
      have reads := reads_bodyText coeff exp
      obtain ⟨c, rest, starts, digit⟩ := reads.starts
      have plain := reads.plain_signed neg
      have signed : splitSign (signText neg ++ bodyText coeff exp) = (neg, bodyText coeff exp) := by
        rw [starts]
        exact splitSign_signed digit neg rest
      have kept : (signText neg ++ bodyText coeff exp).filter (· ≠ '_') = signText neg ++ bodyText coeff exp :=
        List.filter_eq_self.mpr fun c member => decide_eq_true (plain c member).not_blank.2.2
      have numeral : isDigit c.toLower := (toLower_digit digit).symm ▸ digit
      rw [parse, str_finite, Unicode.stripWith_none fun c member => (plain c member).not_blank.2.1,
        kept, Unicode.asciiText_of_ascii fun c member => (plain c member).not_blank.1, Option.bind_some, parseAscii, signed]
      simp only [starts, List.map_cons, List.takeWhile_cons, List.dropWhile_cons, numeral]
      rw [← starts, reads.parsed]
      simp

/-- Finite decimals that print the same are the same. -/
theorem str_injective {a b : Decimal} (fa : a.IsFinite) (fb : b.IsFinite) (same : a.str = b.str) : a = b := by
  have parsed := parse_str fa
  rw [same, parse_str fb] at parsed
  exact (Option.some.inj parsed).symm

end Decimal
