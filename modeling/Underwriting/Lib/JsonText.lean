import Underwriting.Lib.DecimalText
import Underwriting.Lib.Json

/-! # JSON texts

`json.dumps` with its defaults and `json.loads`, as Python's `json` module has them.
Everything but printable ASCII is written as `\u` escapes, beyond the basic plane as
a pair of surrogates. How a number with a fraction or an exponent is read is a
parameter, as in `json.loads(..., parse_float=...)`. A lone surrogate is no character
here, so a text that escapes one is not read.
-/

namespace Json

/-! ## Writing -/

/-- The escapes of one character after the backslash. -/
def shortEscapes : List (Char × Char) :=
  [('\\', '\\'), ('"', '"'), ('\x08', 'b'), ('\x0c', 'f'), ('\n', 'n'), ('\r', 'r'), ('\t', 't')]

/-- `'{0:04x}'.format(n)` of a UTF-16 code unit. -/
def hexDigits (n : ℕ) : List Char :=
  [(n / 4096 % 16).digitChar, (n / 256 % 16).digitChar, (n / 16 % 16).digitChar, (n % 16).digitChar]

def unicodeEscape (unit : ℕ) : List Char := '\\' :: 'u' :: hexDigits unit

/-- The UTF-16 code units of a character. -/
def codeUnits (c : Char) : List ℕ :=
  if c.toNat < 0x10000 then [c.toNat]
  else [0xd800 + (c.toNat - 0x10000) / 0x400, 0xdc00 + (c.toNat - 0x10000) % 0x400]

/-- A character as `ESCAPE_ASCII` replaces it. -/
def escapeChar (c : Char) : List Char :=
  match shortEscapes.lookup c with
  | some letter => ['\\', letter]
  | none => if 32 ≤ c.toNat ∧ c.toNat ≤ 126 then [c] else (codeUnits c).flatMap unicodeEscape

def dumpText (text : String) : List Char := '"' :: (text.toList.flatMap escapeChar ++ ['"'])

mutual

/-- `json.dumps(value)` -/
@[simp] def dumps : Json → List Char
  | .null => "null".toList
  | .bool b => if b then "true".toList else "false".toList
  | .int n => (toString n).toList
  | .float _ text => text.toList
  | .str text => dumpText text
  | .arr items => '[' :: (dumpItems items ++ [']'])
  | .obj fields => '\x7b' :: (dumpFields fields ++ ['\x7d'])

@[simp] def dumpItems : List Json → List Char
  | [] => []
  | [last] => last.dumps
  | first :: rest => first.dumps ++ ", ".toList ++ dumpItems rest

@[simp] def dumpFields : List (String × Json) → List Char
  | [] => []
  | [(key, last)] => dumpText key ++ ": ".toList ++ last.dumps
  | (key, first) :: rest => dumpText key ++ ": ".toList ++ first.dumps ++ ", ".toList ++ dumpFields rest

end

/-! ## Reading -/

/-- `[ \t\n\r]*` -/
def skipBlank : List Char → List Char := List.dropWhile fun c => c = ' ' || c = '\t' || c = '\n' || c = '\r'

def hexValue (c : Char) : Option ℕ :=
  if '0' ≤ c ∧ c ≤ '9' then some (c.toNat - 48)
  else if 'a' ≤ c ∧ c ≤ 'f' then some (c.toNat - 87)
  else if 'A' ≤ c ∧ c ≤ 'F' then some (c.toNat - 55)
  else none

/-- `_decode_uXXXX` -/
def decodeHex (a b c d : Char) : Option ℕ := do
  return 4096 * (← hexValue a) + 256 * (← hexValue b) + 16 * (← hexValue c) + (← hexValue d)

/-- `BACKSLASH`: the character an escape of one letter stands for. -/
def backslash : List (Char × Char) := ('/', '/') :: shortEscapes.map Prod.swap

/-- The code units of a text up to its closing quote, and what comes after it. -/
@[simp] def scanUnits : List Char → Option (List ℕ × List Char)
  | [] => none
  | '"' :: rest => some ([], rest)
  | '\\' :: 'u' :: a :: b :: c :: d :: rest => do
      let unit ← decodeHex a b c d
      let (units, rest) ← scanUnits rest
      return (unit :: units, rest)
  | '\\' :: letter :: rest => do
      -- too few digits after a `u` end here: it is no escape of one letter
      let meant ← backslash.lookup letter
      let (units, rest) ← scanUnits rest
      return (meant.toNat :: units, rest)
  | c :: rest =>
      if c.toNat < 32 ∨ c = '\\' then none
      else do
        let (units, rest) ← scanUnits rest
        return (c.toNat :: units, rest)
termination_by structural text => text

def highSurrogate (unit : ℕ) : Bool := 0xd800 ≤ unit && unit ≤ 0xdbff

def lowSurrogate (unit : ℕ) : Bool := 0xdc00 ≤ unit && unit ≤ 0xdfff

/-- Pairs of surrogates are joined; what is left must be characters. -/
def joinUnits : List ℕ → Option (List Char)
  | [] => some []
  | [unit] => if unit.isValidChar then some [Char.ofNat unit] else none
  | unit :: low :: rest =>
      if highSurrogate unit && lowSurrogate low then do
        let chars ← joinUnits rest
        return Char.ofNat (0x10000 + (unit - 0xd800) * 0x400 + (low - 0xdc00)) :: chars
      else if unit.isValidChar then do
        let chars ← joinUnits (low :: rest)
        return Char.ofNat unit :: chars
      else none

/-- `scanstring`, after the opening quote -/
def scanString (text : List Char) : Option (String × List Char) := do
  let (units, rest) ← scanUnits text
  let chars ← joinUnits units
  return (String.ofList chars, rest)

/-- A run of digits, and what comes after it. -/
def spanDigits (text : List Char) : List Char × List Char :=
  (text.takeWhile Decimal.isDigit, text.dropWhile Decimal.isDigit)

/-- `(?:0|[1-9]\d*)` -/
def scanMagnitude : List Char → Option (List Char × List Char)
  | '0' :: rest => some (['0'], rest)
  | text =>
      let (digits, rest) := spanDigits text
      if digits.isEmpty then none else some (digits, rest)

/-- `(-?(?:0|[1-9]\d*))` of `NUMBER_RE` -/
def scanInteger : List Char → Option (List Char × List Char)
  | '-' :: text => do
      let (digits, rest) ← scanMagnitude text
      return ('-' :: digits, rest)
  | text => scanMagnitude text

/-- `(\.\d+)?` -/
def scanFraction : List Char → List Char × List Char
  | '.' :: rest =>
      let (digits, after) := spanDigits rest
      if digits.isEmpty then ([], '.' :: rest) else ('.' :: digits, after)
  | text => ([], text)

/-- `([eE][-+]?\d+)?` -/
def scanExponent (text : List Char) : List Char × List Char :=
  match text with
  | [] => ([], [])
  | e :: rest =>
      if e = 'e' ∨ e = 'E' then
        let (sign, body) := match rest with
          | s :: body => if s = '-' ∨ s = '+' then ([s], body) else ([], rest)
          | [] => ([], rest)
        let (digits, after) := spanDigits body
        if digits.isEmpty then ([], text) else (e :: (sign ++ digits), after)
      else ([], text)

/-- `int(text)` of a match of `scanInteger`. -/
def integerOf : List Char → ℤ
  | '-' :: digits => -(Decimal.digitsValue digits : ℤ)
  | digits => Decimal.digitsValue digits

def scanNumber (parseFloat : List Char → Json) (text : List Char) : Option (Json × List Char) := do
  let (integer, rest) ← scanInteger text
  let (fraction, rest) := scanFraction rest
  let (exponent, rest) := scanExponent rest
  if fraction.isEmpty && exponent.isEmpty then return (.int (integerOf integer), rest)
  else return (parseFloat (integer ++ fraction ++ exponent), rest)

/-- The text without this word in front. -/
def afterWord (word : String) (text : List Char) : Option (List Char) :=
  if word.toList.isPrefixOf text then some (text.drop word.length) else none

/-- The three floats that are words. -/
def scanConstant (parseFloat : List Char → Json) (text : List Char) : Option (Json × List Char) :=
  ["NaN", "Infinity", "-Infinity"].findSome? fun word =>
    (afterWord word text).map fun rest => (parseFloat word.toList, rest)

/-- `d[key] = value` -/
def setField (key : String) (value : Json) : List (String × Json) → List (String × Json)
  | [] => [(key, value)]
  | entry :: rest => if entry.1 = key then (key, value) :: rest else entry :: setField key value rest

/-- `dict(pairs)` -/
def dictOf (pairs : List (String × Json)) : List (String × Json) :=
  pairs.foldl (fun fields entry => setField entry.1 entry.2 fields) []

mutual

/-- `scan_once`; every pass reads a character or ends, so that the length of the text
    is fuel enough. -/
@[simp] def scanOnce (parseFloat : List Char → Json) : ℕ → List Char → Option (Json × List Char)
  | 0, _ => none
  | fuel + 1, text =>
      match text with
      | [] => none
      | c :: rest =>
          if c = '"' then do
            let (text, rest) ← scanString rest
            return (.str text, rest)
          else if c = '\x7b' then
            match skipBlank rest with
            | '\x7d' :: rest => some (.obj [], rest)
            | rest => do
                let (fields, rest) ← scanFields parseFloat fuel rest
                return (.obj (dictOf fields), rest)
          else if c = '[' then
            match skipBlank rest with
            | ']' :: rest => some (.arr [], rest)
            | rest => do
                let (items, rest) ← scanItems parseFloat fuel rest
                return (.arr items, rest)
          else if c = 'n' then do return (.null, ← afterWord "null" text)
          else if c = 't' then do return (.bool true, ← afterWord "true" text)
          else if c = 'f' then do return (.bool false, ← afterWord "false" text)
          else (scanNumber parseFloat text).or (scanConstant parseFloat text)

/-- The items of a list up to its bracket. -/
@[simp] def scanItems (parseFloat : List Char → Json) : ℕ → List Char → Option (List Json × List Char)
  | 0, _ => none
  | fuel + 1, text => do
      let (item, rest) ← scanOnce parseFloat fuel text
      match skipBlank rest with
      | ']' :: rest => return ([item], rest)
      | ',' :: rest =>
          let (items, rest) ← scanItems parseFloat fuel (skipBlank rest)
          return (item :: items, rest)
      | _ => none

/-- The pairs of a dict up to its brace. -/
@[simp] def scanFields (parseFloat : List Char → Json) : ℕ → List Char → Option (List (String × Json) × List Char)
  | 0, _ => none
  | fuel + 1, text =>
      match text with
      | '"' :: text => do
          let (key, rest) ← scanString text
          match skipBlank rest with
          | ':' :: rest =>
              let (value, rest) ← scanOnce parseFloat fuel (skipBlank rest)
              match skipBlank rest with
              | '\x7d' :: rest => return ([(key, value)], rest)
              | ',' :: rest =>
                  let (fields, rest) ← scanFields parseFloat fuel (skipBlank rest)
                  return ((key, value) :: fields, rest)
              | _ => none
          | _ => none
      | _ => none

end

/-- `json.loads(text)`; `none` is a `JSONDecodeError`. -/
def loads (parseFloat : List Char → Json) (text : List Char) : Option Json := do
  let (value, rest) ← scanOnce parseFloat (text.length + 1) (skipBlank text)
  if (skipBlank rest).isEmpty then return value else none

end Json
