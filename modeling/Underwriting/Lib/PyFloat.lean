import Underwriting.Lib.DecimalValue

/-! # Python's floats, taken as exact

Numbers are rationals here: nothing is rounded. What Python cannot hold in a double
is infinite, and a NaN compares as false.
-/

inductive PyFloat where
  | finite (value : ℚ)
  | infinity (neg : Bool)
  | nan
  deriving DecidableEq, Repr

namespace PyFloat

/-- The least number that a double rounds to infinity. -/
def limit : ℚ := 2 ^ 1024 - 2 ^ 970

def ofRat (value : ℚ) : PyFloat := if |value| < limit then .finite value else .infinity (decide (value < 0))

def add : PyFloat → PyFloat → PyFloat
  | .nan, _ | _, .nan => .nan
  | .finite a, .finite b => .finite (a + b)
  | .infinity s, .infinity t => if s = t then .infinity s else .nan
  | .infinity s, .finite _ | .finite _, .infinity s => .infinity s

def neg : PyFloat → PyFloat
  | .finite value => .finite (-value)
  | .infinity s => .infinity !s
  | .nan => .nan

def sub (a b : PyFloat) : PyFloat := a.add b.neg

/-- `a < b`; ordering a NaN is no error. -/
def lt : PyFloat → PyFloat → Bool
  | .nan, _ | _, .nan => false
  | .finite a, .finite b => decide (a < b)
  | .infinity s, .infinity t => s && !t
  | .infinity s, .finite _ => s
  | .finite _, .infinity t => !t

/-- Underscores stand between two digits only. -/
def grouped : Bool → List Char → Bool
  | _, [] => true
  | afterDigit, '_' :: rest => afterDigit && (rest.head?.any Decimal.isDigit) && grouped false rest
  | _, c :: rest => grouped (Decimal.isDigit c) rest

/-- `float(text)`; `none` where Python raises. -/
def parse (text : String) : Option PyFloat := do
  let body := Unicode.stripWith Unicode.isBlank (← Unicode.asciiText? text.toList)
  if grouped false body then
    match Decimal.parseAscii (body.filter (· ≠ '_')) with
    | some (.finite neg coeff exp) => some (ofRat (Decimal.toRat (.finite neg coeff exp)))
    | some (.infinity neg) => some (.infinity neg)
    | some (.nan _ false _) => if body.any Decimal.isDigit then none else some .nan
    | some (.nan _ true _) | none => none
  else none

example : parse "3_600.5" = some (.finite (7201 / 2)) := by decide +kernel

/-- A time is before the end of a lifetime exactly if what has passed is less than the lifetime. -/
theorem lt_add_sub (now began skew : ℚ) (lifetime : PyFloat) :
    (finite now).lt (((finite began).add lifetime).sub (.finite skew)) =
      (finite (now - began)).lt (lifetime.sub (.finite skew)) := by
  cases lifetime with
  | finite value =>
      apply decide_eq_decide.mpr
      constructor <;> intro <;> linarith
  | infinity | nan => rfl

end PyFloat
