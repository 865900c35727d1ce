import Mathlib.Algebra.Group.Nat.Defs
import Mathlib.Data.Rat.Defs
import Underwriting.Lib.PrintTables

/-! # JSON values as Python holds them

The values a JSON column or an HTTP body decodes to. A float carries its exact
value and the text `str` prints for it, so that nothing here computes with
binary fractions. The accessors answer `none` where Python raises `TypeError`,
`KeyError` or `AttributeError`; which one is left to the caller.
-/

inductive Json where
  | null
  | bool (b : Bool)
  | int (n : Int)
  | float (value : Rat) (repr : String)
  | str (s : String)
  | arr (items : List Json)
  | obj (fields : List (String × Json))

namespace Json

/-- `value[key]` for a dict. -/
def field? : Json → String → Option Json
  | .obj fields, key => fields.lookup key
  | _, _ => none

/-- `value.get(key, default)` for a dict. -/
def getD (value : Json) (key : String) (fallback : Json) : Json := (value.field? key).getD fallback

def isObj : Json → Bool
  | .obj _ => true
  | _ => false

def text? : Json → Option String
  | .str s => some s
  | _ => none

/-- The number in so many hexadecimal digits. -/
def hexText (width n : Nat) : List Char := (List.range width).map fun i => (n / 16 ^ (width - 1 - i) % 16).digitChar

/-- A character of a `repr`: the shortest escape, unless it is printable. -/
def reprChar (quote c : Char) : List Char :=
  if c = '\\' ∨ c = quote then ['\\', c]
  else if c = '\t' then ['\\', 't']
  else if c = '\n' then ['\\', 'n']
  else if c = '\r' then ['\\', 'r']
  else if Unicode.isPrintable c then [c]
  else if c.toNat ≤ 0xff then '\\' :: 'x' :: hexText 2 c.toNat
  else if c.toNat ≤ 0xffff then '\\' :: 'u' :: hexText 4 c.toNat
  else '\\' :: 'U' :: hexText 8 c.toNat

/-- `repr` of a text. -/
def reprText (text : String) : String :=
  let quote := if text.toList.contains '\'' && !text.toList.contains '"' then '"' else '\''
  String.ofList ([quote] ++ text.toList.flatMap (reprChar quote) ++ [quote])

example : reprText "it's\n\u00a0" = "\"it's\\n\\xa0\"" := by decide

mutual

/-- `repr(value)`. -/
def repr : Json → String
  | .null => "None"
  | .bool b => if b then "True" else "False"
  | .int n => toString n
  | .float _ text => text
  | .str s => reprText s
  | .arr items => "[" ++ reprItems items ++ "]"
  | .obj fields => "\x7b" ++ reprFields fields ++ "\x7d"

def reprItems : List Json → String
  | [] => ""
  | [last] => last.repr
  | first :: rest => first.repr ++ ", " ++ reprItems rest

def reprFields : List (String × Json) → String
  | [] => ""
  | [(key, last)] => reprText key ++ ": " ++ last.repr
  | (key, first) :: rest => reprText key ++ ": " ++ first.repr ++ ", " ++ reprFields rest

end

/-- `str(value)`. -/
def toText : Json → String
  | .str s => s
  | value => value.repr

/-- The values a `for` loop over the value visits: the items of a list, the keys
    of a dict, the characters of a text. -/
def items? : Json → Option (List Json)
  | .arr items => some items
  | .obj fields => some (fields.map fun entry => .str entry.1)
  | .str s => some (s.toList.map fun c => .str (String.ofList [c]))
  | .null | .bool _ | .int _ | .float _ _ => none

/-- `bool(value)`. -/
def truthy : Json → Bool
  | .null => false
  | .bool b => b
  | .int n => n ≠ 0
  | .float value _ => value ≠ 0
  | .str s => s ≠ ""
  | .arr items => !items.isEmpty
  | .obj fields => !fields.isEmpty

/-- Lists and dicts cannot be members of a set. -/
def hashable : Json → Bool
  | .arr _ | .obj _ => false
  | _ => true

end Json
