import Mathlib.Algebra.Group.Int.Defs
import Mathlib.Algebra.Group.Nat.Defs
import Mathlib.Data.Nat.Log
import Underwriting.Lib.Text

/-! # Python's decimal arithmetic

The operations of the `decimal` module that pricing code uses, on sign,
coefficient and exponent as that module keeps them, so that trailing zeros are
printed as Python prints them. Every operation rounds its result to the context
(half-even) and raises the signals which the default context traps. The context
`exact` never rounds; it is the arithmetic a specification speaks about.
-/

/-- The trapped signals of the default context. -/
inductive DecimalSignal where
  | invalidOperation | divisionByZero | overflow
  deriving DecidableEq, Repr

/-- A precision in digits with its exponent range, or no rounding at all. -/
inductive DecimalContext where
  | exact
  | rounded (prec : ℕ) (emin emax : ℤ)

/-- Python's default: 28 digits. -/
def DecimalContext.standard : DecimalContext := .rounded 28 (-999999) 999999

/-- `finite neg coeff exp` is `± coeff × 10 ^ exp`. A NaN carries a sign and a number for
    diagnosis, 0 if it has none. -/
inductive Decimal where
  | finite (neg : Bool) (coeff : ℕ) (exp : ℤ)
  | infinity (neg : Bool)
  | nan (neg signaling : Bool) (payload : ℕ)
  deriving DecidableEq, Repr

namespace Decimal

/-- `Decimal(n)` of an integer. -/
def ofInt (n : ℤ) : Decimal := .finite (decide (n < 0)) n.natAbs 0

def one : Decimal := ofInt 1
def zero : Decimal := ofInt 0

/-- Decimal digits of a coefficient; zero has one. -/
def numDigits (n : ℕ) : ℕ := Nat.log 10 n + 1

def divHalfEven (n d : ℕ) : ℕ :=
  if 2 * (n % d) < d ∨ (2 * (n % d) = d ∧ n / d % 2 = 0) then n / d else n / d + 1

def divHalfUp (n d : ℕ) : ℕ := if 2 * (n % d) < d then n / d else n / d + 1

/-- Round a result to the context. -/
def fix : DecimalContext → Bool → ℕ → ℤ → Except DecimalSignal Decimal
  | .exact, neg, coeff, exp => .ok (.finite neg coeff exp)
  | .rounded prec emin emax, neg, coeff, exp =>
      let etiny := emin - prec + 1
      let etop := emax - prec + 1
      if coeff = 0 then .ok (.finite neg 0 (min (max exp etiny) emax))
      else
        let least := numDigits coeff + exp - prec
        if least > etop then .error .overflow
        else
          let target := max least etiny
          if target ≤ exp then .ok (.finite neg coeff exp)
          else
            let kept := divHalfEven coeff (10 ^ (target - exp).toNat)
            -- rounding up may carry into a digit too many, which is then a zero
            let (kept, target) := if numDigits kept > prec then (kept / 10, target + 1) else (kept, target)
            if target > etop then .error .overflow else .ok (.finite neg kept target)

/-- A quiet NaN as a result keeps as many digits as the context has. -/
def fixNan (ctx : DecimalContext) (neg : Bool) (payload : ℕ) : Decimal :=
  .nan neg false (match ctx with
    | .exact => payload
    | .rounded prec _ _ => payload % 10 ^ prec)

/-- A signaling NaN raises, a quiet one is the result, the first one of two. -/
def withoutNan (ctx : DecimalContext) (a b : Decimal) (op : Except DecimalSignal Decimal) :
    Except DecimalSignal Decimal :=
  match a, b with
  | .nan _ true _, _ | _, .nan _ true _ => .error .invalidOperation
  | .nan neg false payload, _ | _, .nan neg false payload => .ok (fixNan ctx neg payload)
  | _, _ => op

def mul (ctx : DecimalContext) (a b : Decimal) : Except DecimalSignal Decimal :=
  withoutNan ctx a b <| match a, b with
    | .finite s c e, .finite t d f => fix ctx (s != t) (c * d) (e + f)
    | .infinity s, .finite t d _ => if d = 0 then .error .invalidOperation else .ok (.infinity (s != t))
    | .finite s c _, .infinity t => if c = 0 then .error .invalidOperation else .ok (.infinity (s != t))
    | .infinity s, .infinity t => .ok (.infinity (s != t))
    | _, _ => .error .invalidOperation

/-- A finite value as an integer multiple of `10 ^ unit`, for `unit ≤ exp`. -/
def scaled (neg : Bool) (coeff : ℕ) (exp unit : ℤ) : ℤ :=
  (if neg then -1 else 1) * (coeff * 10 ^ (exp - unit).toNat : ℕ)

def add (ctx : DecimalContext) (a b : Decimal) : Except DecimalSignal Decimal :=
  withoutNan ctx a b <| match a, b with
    | .finite s c e, .finite t d f =>
        let unit := min e f
        let sum := scaled s c e unit + scaled t d f unit
        fix ctx (if sum = 0 then s && t else decide (sum < 0)) sum.natAbs unit
    | .infinity s, .infinity t => if s = t then .ok (.infinity s) else .error .invalidOperation
    | .infinity s, _ => .ok (.infinity s)
    | _, .infinity t => .ok (.infinity t)
    | _, _ => .error .invalidOperation

/-- Drop up to `fuel` trailing zeros. -/
def stripZeros : ℕ → ℕ → ℤ → ℕ × ℤ
  | 0, coeff, exp => (coeff, exp)
  | fuel + 1, coeff, exp => if coeff % 10 = 0 then stripZeros fuel (coeff / 10) (exp + 1) else (coeff, exp)

/-- Quotient of finite values with a nonzero divisor. An exact quotient comes as
    close to the exponent `e - f` as it can; an inexact one keeps a last digit
    that rounds it the right way. Without rounding only a quotient with few
    enough digits exists. -/
def divFinite (ctx : DecimalContext) (neg : Bool) (c : ℕ) (e : ℤ) (d : ℕ) (f : ℤ) :
    Except DecimalSignal Decimal :=
  let shift : ℤ := match ctx with
    | .exact => numDigits d
    | .rounded prec _ _ => numDigits d - numDigits c + prec + 1
  let num := c * 10 ^ shift.toNat
  let den := d * 10 ^ (-shift).toNat
  if num % den = 0 then
    let (coeff, exp) := stripZeros shift.toNat (num / den) (e - f - shift)
    fix ctx neg coeff exp
  else
    match ctx with
    | .exact => .error .invalidOperation
    | .rounded _ _ _ =>
        let coeff := num / den
        fix ctx neg (if coeff % 5 = 0 then coeff + 1 else coeff) (e - f - shift)

def div (ctx : DecimalContext) (a b : Decimal) : Except DecimalSignal Decimal :=
  withoutNan ctx a b <| match a, b with
    | .finite s c e, .finite t d f =>
        if d = 0 then if c = 0 then .error .invalidOperation else .error .divisionByZero
        else if c = 0 then fix ctx (s != t) 0 (e - f)
        else divFinite ctx (s != t) c e d f
    | .infinity s, .finite t _ _ => .ok (.infinity (s != t))
    | .finite s _ _, .infinity t =>
        match ctx with
        | .exact => .ok (.finite (s != t) 0 0)
        | .rounded prec emin _ => .ok (.finite (s != t) 0 (emin - prec + 1))
    | _, _ => .error .invalidOperation

/-- `a < b`. Ordering a NaN raises. -/
def lt (a b : Decimal) : Except DecimalSignal Bool :=
  match a, b with
  | .finite s c e, .finite t d f => .ok (decide (scaled s c e (min e f) < scaled t d f (min e f)))
  | .infinity s, .infinity t => .ok (s && !t)
  | .infinity s, .finite _ _ _ => .ok s
  | .finite _ _ _, .infinity t => .ok !t
  | .nan .., _ | _, .nan .. => .error .invalidOperation

/-- `a == b`. A quiet NaN equals nothing; a signaling one raises. -/
def eq (a b : Decimal) : Except DecimalSignal Bool :=
  match a, b with
  | .nan _ true _, _ | _, .nan _ true _ => .error .invalidOperation
  | .nan _ false _, _ | _, .nan _ false _ => .ok false
  | .finite s c e, .finite t d f => .ok (decide (scaled s c e (min e f) = scaled t d f (min e f)))
  | .infinity s, .infinity t => .ok (s == t)
  | _, _ => .ok false

/-- `a.quantize(Decimal("1"), rounding=ROUND_HALF_UP)`: the result must fit the precision. -/
def quantizeUnit (ctx : DecimalContext) : Decimal → Except DecimalSignal Decimal
  | .nan _ true _ => .error .invalidOperation
  | .nan neg false payload => .ok (fixNan ctx neg payload)
  | .infinity _ => .error .invalidOperation
  | .finite neg coeff exp =>
      let whole := if 0 ≤ exp then coeff * 10 ^ exp.toNat else divHalfUp coeff (10 ^ (-exp).toNat)
      match ctx with
      | .exact => .ok (.finite neg whole 0)
      | .rounded prec _ _ =>
          if coeff = 0 then .ok (.finite neg 0 0)
          else if numDigits coeff + exp > prec ∨ numDigits whole > prec then .error .invalidOperation
          else .ok (.finite neg whole 0)

/-- `int(d)` of a whole number; `none` where Python raises. -/
def toInt? : Decimal → Option ℤ
  | .finite neg coeff exp => some (scaled neg coeff exp (min exp 0) / 10 ^ (-exp).toNat)
  | .infinity _ | .nan .. => none

/-! ## Text -/

def digitsValue (digits : List Char) : ℕ := digits.foldl (fun n c => 10 * n + (c.toNat - 48)) 0

def isDigit (c : Char) : Bool := decide (48 ≤ c.toNat ∧ c.toNat ≤ 57)

/-- `[+-]?` in front of a text. -/
def splitSign : List Char → Bool × List Char
  | '-' :: rest => (true, rest)
  | '+' :: rest => (false, rest)
  | rest => (false, rest)

/-- The exponent part, nothing or `E[+-]?digits`. -/
def parseExponent : List Char → Option ℤ
  | [] => some 0
  | c :: rest =>
      let (neg, digits) := splitSign rest
      if c.toLower = 'e' ∧ digits ≠ [] ∧ digits.all isDigit then
        some (if neg then -digitsValue digits else digitsValue digits)
      else none

def parseFinite (neg : Bool) (text : List Char) : Option Decimal :=
  let whole := text.takeWhile isDigit
  let rest := text.dropWhile isDigit
  let (frac, rest) := match rest with
    | '.' :: tail => (tail.takeWhile isDigit, tail.dropWhile isDigit)
    | _ => ([], rest)
  if whole = [] ∧ frac = [] then none
  else (parseExponent rest).map fun exp => .finite neg (digitsValue (whole ++ frac)) (exp - frac.length)

/-- A text in ASCII, without blanks and underscores. -/
def parseAscii (text : List Char) : Option Decimal :=
  let (neg, body) := splitSign text
  let name := (body.map Char.toLower).takeWhile fun c => !isDigit c
  let digits := (body.map Char.toLower).dropWhile fun c => !isDigit c
  if name = ['i', 'n', 'f'] ∧ digits = [] ∨ name = ['i', 'n', 'f', 'i', 'n', 'i', 't', 'y'] ∧ digits = [] then
    some (.infinity neg)
  else if name = ['n', 'a', 'n'] ∧ digits.all isDigit then some (.nan neg false (digitsValue digits))
  else if name = ['s', 'n', 'a', 'n'] ∧ digits.all isDigit then some (.nan neg true (digitsValue digits))
  else parseFinite neg body

/-- `Decimal(text)`, with white space around and underscores inside allowed; `none`
    where Python raises. An exponent may be any number. -/
def parse (text : String) : Option Decimal :=
  (Unicode.asciiText? ((Unicode.stripWith Unicode.isSpace text.toList).filter (· ≠ '_'))).bind parseAscii

def signText (neg : Bool) : List Char := if neg then ['-'] else []

/-- `str(d)`: plain notation, or scientific for a positive exponent and for very
    small numbers. -/
def str : Decimal → String
  | .nan neg signaling payload => String.ofList (signText neg ++ (if signaling then ['s'] else []) ++ "NaN".toList ++
      (if payload = 0 then [] else (toString payload).toList))
  | .infinity neg => String.ofList (signText neg ++ "Infinity".toList)
  | .finite neg coeff exp =>
      let digits := (toString coeff).toList
      let left : ℤ := exp + digits.length
      let point := if exp ≤ 0 ∧ -6 < left then left else 1
      let mantissa :=
        if point ≤ 0 then ['0', '.'] ++ List.replicate (-point).toNat '0' ++ digits
        else if digits.length ≤ point then digits ++ List.replicate (point - digits.length).toNat '0'
        else digits.take point.toNat ++ '.' :: digits.drop point.toNat
      let power :=
        if left = point then []
        else 'E' :: (if 0 ≤ left - point then ['+'] else ['-']) ++ (toString (left - point).natAbs).toList
      String.ofList (signText neg ++ mantissa ++ power)

example : (parse "1.10").map str = some "1.10" := by decide
example : (parse " -2.5e-9 ").map str = some "-2.5E-9" := by decide
example : (parse "-nan0_７").map str = some "-NaN7" := by decide

end Decimal
