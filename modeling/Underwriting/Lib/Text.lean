import Mathlib.Data.List.Defs
import Underwriting.Lib.CaseTables
import Underwriting.Lib.Lists

/-! # Python's text operations

`str.upper` and `str.lower` with the full Unicode mappings (one character may
become several), substring search, and `str.split` at white space.
-/

namespace Unicode

/-- The image of a code point in a table of ranges. -/
def shift : List CaseRange → Nat → Option Nat
  | [], _ => none
  | (first, last, stride, offset) :: rest, n =>
      if first ≤ n ∧ n ≤ last ∧ (n - first) % stride = 0 then some (n + offset).toNat else shift rest n

/-- The full mapping of one character: a special image, else a shifted one,
    else the character itself. -/
def mapChar (specials : List (Nat × List Nat)) (ranges : List CaseRange) (c : Char) : List Char :=
  match specials.lookup c.toNat with
  | some image => image.map Char.ofNat
  | none =>
      match shift ranges c.toNat with
      | some n => [Char.ofNat n]
      | none => [c]

def upperChar (c : Char) : List Char :=
  if c.toNat < 128 then [c.toUpper] else mapChar upperSpecials upperRanges c

/-- The final form of a capital sigma is not distinguished here. -/
def lowerChar (c : Char) : List Char :=
  if c.toNat < 128 then [c.toLower] else mapChar lowerSpecials lowerRanges c

/-- Python's `str.upper`. -/
def upper (s : String) : String := String.ofList (s.toList.flatMap upperChar)

/-- Python's `str.lower`. -/
def lower (s : String) : String := String.ofList (s.toList.flatMap lowerChar)

/-! ## Letter case -/

/-- The letter is one of the other's two cases; beyond ASCII only itself. -/
def RecasedChar (c c' : Char) : Prop := c' = c ∨ c' = c.toUpper ∨ c' = c.toLower

/-- The texts differ in the case of ASCII letters at most. -/
def Recased (s s' : String) : Prop := List.Forall₂ RecasedChar s.toList s'.toList

theorem toUpper_beyond {c : Char} (beyond : ¬c.toNat < 128) : c.toUpper = c := by
  delta Char.toUpper
  rw [dif_neg]
  rintro ⟨-, upper⟩
  have upper' : c.toNat ≤ 122 := UInt32.le_iff_toNat_le.mp upper
  omega

theorem toLower_beyond {c : Char} (beyond : ¬c.toNat < 128) : c.toLower = c := by
  delta Char.toLower
  rw [dif_neg]
  rintro ⟨-, upper⟩
  have upper' : c.toNat ≤ 90 := UInt32.le_iff_toNat_le.mp upper
  omega

theorem upperChar_recased {c c' : Char} (recased : RecasedChar c c') : upperChar c' = upperChar c := by
  by_cases ascii : c.toNat < 128
  · have table : ∀ n < 128, (Char.ofNat n).toUpper.toNat < 128 ∧ (Char.ofNat n).toLower.toNat < 128 ∧
        (Char.ofNat n).toUpper.toUpper = (Char.ofNat n).toUpper ∧
        (Char.ofNat n).toLower.toUpper = (Char.ofNat n).toUpper := by decide
    obtain ⟨upper, lower, twice, raised⟩ := table c.toNat ascii
    rw [Char.ofNat_toNat] at upper lower twice raised
    rcases recased with rfl | rfl | rfl
    · rfl
    · rw [upperChar, upperChar, if_pos upper, if_pos ascii, twice]
    · rw [upperChar, upperChar, if_pos lower, if_pos ascii, raised]
  · rw [RecasedChar, toUpper_beyond ascii, toLower_beyond ascii] at recased
    rcases recased with rfl | rfl | rfl <;> rfl

/-- Upper-casing forgets the letter case. -/
theorem upper_recased {s s' : String} (recased : Recased s s') : upper s' = upper s := by
  have images : ∀ {text text' : List Char}, List.Forall₂ RecasedChar text text' →
      text'.flatMap upperChar = text.flatMap upperChar := by
    intro text text' recased
    induction recased with
    | nil => rfl
    | cons first _ ih => rw [List.flatMap_cons, List.flatMap_cons, upperChar_recased first, ih]
  rw [upper, upper, images recased]

/-! ## Lengthening -/

/-- The upper case of the character is more than one character. -/
def Lengthened (c : Char) : Prop := c.toNat ∈ upperSpecials.map Prod.fst

instance (c : Char) : Decidable (Lengthened c) := inferInstanceAs (Decidable (_ ∈ _))

theorem upperSpecials_image : ∀ entry ∈ upperSpecials, 128 ≤ entry.1 ∧ 1 < entry.2.length := by decide

theorem upperChar_lengthened {c : Char} (lengthened : Lengthened c) : 1 < (upperChar c).length := by
  obtain ⟨entry, member, same⟩ := List.mem_map.mp lengthened
  have beyond : ¬c.toNat < 128 := by
    have := (upperSpecials_image entry member).1
    omega
  cases found : upperSpecials.lookup c.toNat with
  | none =>
      have other := List.lookup_eq_none_iff.mp found entry member
      rw [same] at other
      simp at other
  | some image =>
      obtain ⟨before, after, entries, -⟩ := List.lookup_eq_some_iff.mp found
      have listed : (c.toNat, image) ∈ upperSpecials := by
        rw [entries]
        exact List.mem_append_right _ List.mem_cons_self
      rw [upperChar, if_neg beyond, mapChar, found, List.length_map]
      exact (upperSpecials_image _ listed).2

theorem upperChar_single {c : Char} (single : ¬Lengthened c) : (upperChar c).length = 1 := by
  rw [upperChar]
  split
  · rfl
  · have none : upperSpecials.lookup c.toNat = none := by
      rw [List.lookup_eq_none_iff]
      intro entry member
      have other : c.toNat ≠ entry.1 := fun same => single (List.mem_map.mpr ⟨entry, member, same.symm⟩)
      simpa using other
    rw [mapChar, none]
    cases shift upperRanges c.toNat <;> rfl

/-- A text keeps its length in upper case unless a character of it does not. -/
theorem upper_length_le_iff {s : String} : (upper s).length ≤ s.length ↔ ∀ c ∈ s.toList, ¬Lengthened c := by
  have sizes : ∀ text : List Char, text.length ≤ (text.flatMap upperChar).length ∧
      ((text.flatMap upperChar).length ≤ text.length ↔ ∀ c ∈ text, ¬Lengthened c) := by
    intro text
    induction text with
    | nil => simp
    | cons c rest ih =>
        obtain ⟨least, exactly⟩ := ih
        rw [List.flatMap_cons, List.length_append, List.length_cons, List.forall_mem_cons, ← exactly]
        by_cases lengthened : Lengthened c
        · have more := upperChar_lengthened lengthened
          refine ⟨by omega, fun short => by omega, fun ⟨single, _⟩ => absurd lengthened single⟩
        · have one := upperChar_single lengthened
          refine ⟨by omega, fun short => ⟨lengthened, by omega⟩, fun ⟨_, short⟩ => by omega⟩
  have split := (sizes s.toList).2
  rwa [String.length_toList, ← String.length_ofList] at split

/-- ASCII keeps its length. -/
theorem not_lengthened {c : Char} (ascii : c.toNat < 128) : ¬Lengthened c := by
  intro lengthened
  obtain ⟨entry, member, same⟩ := List.mem_map.mp lengthened
  have := (upperSpecials_image entry member).1
  omega

/-! ## U+0000 -/

theorem ofNat_ne_nul {n : ℕ} (valid : n.isValidChar) (positive : 0 < n) : Char.ofNat n ≠ '\x00' := by
  intro same
  have code : (Char.ofNat n).toNat = n := by
    rw [Char.ofNat, dif_pos valid]
    rfl
  rw [same] at code
  exact absurd code (Nat.ne_of_lt positive)

theorem shift_image {ranges : List CaseRange} {n m : ℕ} (found : shift ranges n = some m) :
    ∃ row ∈ ranges, row.1 ≤ n ∧ n ≤ row.2.1 ∧ m = ((n : Int) + row.2.2.2).toNat := by
  induction ranges with
  | nil => cases found
  | cons row rest ih =>
      obtain ⟨first, last, stride, offset⟩ := row
      rw [shift] at found
      split at found
      · rename_i inside
        exact ⟨_, List.mem_cons_self, inside.1, inside.2.1, (Option.some.inj found).symm⟩
      · obtain ⟨row, member, image⟩ := ih found
        exact ⟨row, List.mem_cons_of_mem _ member, image⟩

/-- No range reaches zero, the surrogates or the end of the code points. -/
theorem upperRanges_image : ∀ row ∈ upperRanges, 0 < (row.1 : Int) + row.2.2.2 ∧
    ((row.2.1 : Int) + row.2.2.2 < 0xd800 ∨
      0xdfff < (row.1 : Int) + row.2.2.2 ∧ (row.2.1 : Int) + row.2.2.2 < 0x110000) := by decide +kernel

theorem upperSpecials_ne_nul : ∀ entry ∈ upperSpecials, '\x00' ∉ entry.2.map Char.ofNat := by decide

/-- Only U+0000 has a U+0000 in upper case. -/
theorem nul_mem_upperChar {c : Char} : '\x00' ∈ upperChar c ↔ c = '\x00' := by
  by_cases ascii : c.toNat < 128
  · have table : ∀ n < 128, '\x00' ∈ [(Char.ofNat n).toUpper] ↔ Char.ofNat n = '\x00' := by decide
    have image := table c.toNat ascii
    rw [Char.ofNat_toNat] at image
    rwa [upperChar, if_pos ascii]
  · have other : c ≠ '\x00' := by
      rintro rfl
      exact ascii (by decide)
    refine iff_of_false ?_ other
    rw [upperChar, if_neg ascii, mapChar]
    cases special : upperSpecials.lookup c.toNat with
    | some image =>
        obtain ⟨before, after, entries, -⟩ := List.lookup_eq_some_iff.mp special
        have listed : (c.toNat, image) ∈ upperSpecials := by
          rw [entries]
          exact List.mem_append_right _ List.mem_cons_self
        exact upperSpecials_ne_nul _ listed
    | none =>
        cases shifted : shift upperRanges c.toNat with
        | none => simpa using other.symm
        | some m =>
            obtain ⟨row, member, first, last, rfl⟩ := shift_image shifted
            obtain ⟨positive, valid⟩ := upperRanges_image row member
            simp only [List.mem_singleton]
            refine (ofNat_ne_nul ?_ (by omega)).symm
            rw [Nat.isValidChar]
            omega

theorem nul_mem_upper {s : String} : '\x00' ∈ (upper s).toList ↔ '\x00' ∈ s.toList := by
  simp [upper, List.mem_flatMap, nul_mem_upperChar]

def occursIn (needle : List Char) : List Char → Bool
  | [] => needle.isEmpty
  | c :: rest => needle.isPrefixOf (c :: rest) || occursIn needle rest

/-- Python's `needle in hay`. -/
def contains (needle hay : String) : Bool := occursIn needle.toList hay.toList

/-! ## Words -/

/-- `str.isspace` of one character. -/
def isSpace (c : Char) : Bool :=
  c.toNat ∈ [9, 10, 11, 12, 13, 28, 29, 30, 31, 32, 133, 160, 5760, 8232, 8233, 8239, 8287, 12288] ||
    (8192 ≤ c.toNat && c.toNat ≤ 8202)

/-- The word that ends here, if one has begun. -/
def flush : List Char → List (List Char)
  | [] => []
  | word => [word]

/-- The words of a text, the first of which has begun with `current`. -/
def wordsFrom (current : List Char) : List Char → List (List Char)
  | [] => flush current
  | c :: rest => if isSpace c then flush current ++ wordsFrom [] rest else wordsFrom (current ++ [c]) rest

/-- Python's `str.split` without a separator. -/
def split (s : String) : List String := (wordsFrom [] s.toList).map String.ofList

/-- Some characters of a text in a row, none of them white space, with white space
    or the end of the text on both sides. -/
structure IsWord (word text : List Char) : Prop where
  nonempty : word ≠ []
  solid : ∀ c ∈ word, isSpace c = false
  placed : ∃ before after, text = before ++ word ++ after ∧
    (∀ c ∈ before.getLast?, isSpace c = true) ∧ ∀ c ∈ after.head?, isSpace c = true

/-- A text without white space is its only word. -/
theorem mem_flush_iff {word text : List Char} (solid : ∀ c ∈ text, isSpace c = false) :
    word ∈ flush text ↔ IsWord word text := by
  constructor
  · intro member
    cases text with
    | nil => cases member
    | cons first rest =>
        obtain rfl := List.mem_singleton.mp member
        refine ⟨List.cons_ne_nil _ _, solid, [], [], ?_, fun c found => (nomatch found), fun c found => nomatch found⟩
        simp only [List.nil_append, List.append_nil]
  · rintro ⟨nonempty, -, before, after, rfl, opened, closed⟩
    have nothing_before : before = [] := by
      rcases List.eq_nil_or_concat before with rfl | ⟨front, last, rfl⟩
      · rfl
      · have space := opened last (by simp)
        rw [solid last (by simp)] at space
        cases space
    have nothing_after : after = [] := by
      cases after with
      | nil => rfl
      | cons first rest =>
          have space := closed first rfl
          rw [solid first (by simp)] at space
          cases space
    rw [nothing_before, nothing_after, List.nil_append, List.append_nil]
    cases word with
    | nil => exact absurd rfl nonempty
    | cons first rest => exact List.mem_singleton_self _

section Parts

variable {word front back : List Char} {c : Char} (space : isSpace c = true)
include space

theorem IsWord.in_front (found : IsWord word front) : IsWord word (front ++ c :: back) := by
  obtain ⟨nonempty, solid, before, after, rfl, opened, closed⟩ := found
  refine ⟨nonempty, solid, before, after ++ c :: back, ?_, opened, ?_⟩
  · simp only [List.append_assoc]
  · intro d at_d
    cases after with
    | nil =>
        obtain rfl := Option.some.inj at_d
        exact space
    | cons first rest => exact closed d at_d

theorem IsWord.in_back (found : IsWord word back) : IsWord word (front ++ c :: back) := by
  obtain ⟨nonempty, solid, before, after, rfl, opened, closed⟩ := found
  refine ⟨nonempty, solid, front ++ c :: before, after, ?_, ?_, closed⟩
  · simp only [List.append_assoc, List.cons_append]
  · intro d at_d
    rcases List.eq_nil_or_concat before with rfl | ⟨init, last, rfl⟩
    · obtain rfl : c = d := by simpa using at_d
      exact space
    · exact opened d (by simpa [List.getLast?_cons] using at_d)

/-- A word has no white space in it, so it ends before or begins after. -/
theorem IsWord.parted (found : IsWord word (front ++ c :: back)) : IsWord word front ∨ IsWord word back := by
  obtain ⟨nonempty, solid, before, after, same, opened, closed⟩ := found
  have outside : c ∉ word := by
    intro member
    rw [solid c member] at space
    cases space
  rw [List.append_assoc] at same
  rcases List.append_eq_append_iff.mp same.symm with ⟨x, rfl, tail⟩ | ⟨x, rfl, tail⟩
  · rcases List.append_eq_append_iff.mp tail with ⟨y, rfl, rfl⟩ | ⟨y, rfl, rest⟩
    · refine .inl ⟨nonempty, solid, before, y, (List.append_assoc ..).symm, opened, fun d at_d => closed d ?_⟩
      cases y with
      | nil => cases at_d
      | cons first rest => exact at_d
    · cases y with
      | nil =>
          refine .inl ⟨nonempty, solid, before, [], ?_, opened, fun d at_d => nomatch at_d⟩
          simp only [List.append_nil]
      | cons first rest' =>
          obtain ⟨rfl, -⟩ := List.cons.inj rest
          exact absurd (by simp) outside
  · cases x with
    | nil =>
        cases word with
        | nil => exact absurd rfl nonempty
        | cons first rest =>
            obtain ⟨rfl, -⟩ := List.cons.inj tail
            exact absurd List.mem_cons_self outside
    | cons first rest =>
        obtain ⟨rfl, rfl⟩ := List.cons.inj tail
        refine .inr ⟨nonempty, solid, rest, after, (List.append_assoc ..).symm, fun d at_d => opened d ?_, closed⟩
        rcases List.eq_nil_or_concat rest with rfl | ⟨init, last, rfl⟩
        · cases at_d
        · simpa [List.getLast?_cons] using at_d

/-- White space parts the words before it from those after it. -/
theorem isWord_append : IsWord word (front ++ c :: back) ↔ IsWord word front ∨ IsWord word back := by
  constructor
  · exact IsWord.parted space
  · rintro (found | found)
    · exact found.in_front space
    · exact found.in_back space

end Parts

theorem mem_wordsFrom_iff {word current text : List Char} (solid : ∀ c ∈ current, isSpace c = false) :
    word ∈ wordsFrom current text ↔ IsWord word (current ++ text) := by
  induction text generalizing current with
  | nil =>
      rw [wordsFrom, List.append_nil]
      exact mem_flush_iff solid
  | cons c rest ih =>
      rw [wordsFrom]
      split
      · rename_i space
        have none_begun : ∀ d ∈ ([] : List Char), isSpace d = false := fun _ member => nomatch member
        rw [List.mem_append, mem_flush_iff solid, ih none_begun, isWord_append space, List.nil_append]
      · rename_i inside
        have grown : ∀ d ∈ current ++ [c], isSpace d = false :=
          Lists.forall_mem_snoc solid (Bool.eq_false_iff.mpr inside)
        rw [ih grown, List.append_assoc, List.singleton_append]

/-- `str.split` finds the words of a text, and nothing else. -/
theorem mem_split_iff {word text : String} : word ∈ split text ↔ IsWord word.toList text.toList := by
  have none_begun : ∀ d ∈ ([] : List Char), isSpace d = false := fun _ member => nomatch member
  rw [← List.nil_append text.toList, ← mem_wordsFrom_iff none_begun, split, List.mem_map]
  constructor
  · rintro ⟨found, member, rfl⟩
    rwa [String.toList_ofList]
  · exact fun member => ⟨word.toList, member, String.ofList_toList⟩

example : split " underwriting:read\tunderwriting:write " = ["underwriting:read", "underwriting:write"] := by decide
example : upper "Straße" = "STRASSE" := by decide
example : contains "sprinkler" (lower "Full SPRINKLER system") = true := by decide

/-! ## Numerals -/

/-- The zeros of the decimal digits beyond ASCII, each one followed by the other nine. -/
def decimalZeros : List Nat := [
  1632, 1776, 1984, 2406, 2534, 2662, 2790, 2918, 3046, 3174, 3302, 3430, 3558, 3664, 3792, 3872,
   4160, 4240, 6112, 6160, 6470, 6608, 6784, 6800, 6992, 7088, 7232, 7248, 42528, 43216, 43264,
   43472, 43504, 43600, 44016, 65296, 66720, 68912, 69734, 69872, 69942, 70096, 70384, 70736,
   70864, 71248, 71360, 71472, 71904, 72016, 72784, 73040, 73120, 73552, 92768, 92864, 93008,
   120782, 120792, 120802, 120812, 120822, 123200, 123632, 124144, 125264, 130032]

/-- The value of a decimal digit beyond ASCII. -/
def decimal? (c : Char) : Option Nat :=
  (decimalZeros.find? fun start => start ≤ c.toNat && c.toNat < start + 10).map (c.toNat - ·)

/-- A character of a numeral in ASCII: a digit for a decimal digit, a blank for white space. -/
def asciiChar? (c : Char) : Option Char :=
  if c.toNat < 128 then some c
  else if isSpace c then some ' '
  else (decimal? c).map fun digit => Char.ofNat (48 + digit)

def asciiText? (text : List Char) : Option (List Char) := text.mapM asciiChar?

example : asciiText? "٣٫".toList = none ∧ asciiText? "１\u00a0٣".toList = some "1 3".toList := by decide

theorem asciiText_of_ascii {text : List Char} (ascii : ∀ c ∈ text, c.toNat < 128) : asciiText? text = some text := by
  induction text with
  | nil => rfl
  | cons c rest ih =>
      have first : asciiChar? c = some c := if_pos (ascii c List.mem_cons_self)
      rw [asciiText?, List.mapM_cons, first]
      change (asciiText? rest).bind _ = _
      rw [ih fun c' member => ascii c' (List.mem_cons_of_mem _ member)]
      rfl

/-- A text without what is blank at its two ends. -/
def stripWith (blank : Char → Bool) (text : List Char) : List Char :=
  ((text.dropWhile blank).reverse.dropWhile blank).reverse

theorem stripWith_none {blank : Char → Bool} {text : List Char} (none : ∀ c ∈ text, blank c = false) :
    stripWith blank text = text := by
  have kept : ∀ text : List Char, (∀ c ∈ text, blank c = false) → text.dropWhile blank = text := by
    intro text none
    cases text with
    | nil => rfl
    | cons c rest => simp only [List.dropWhile_cons, none c List.mem_cons_self, Bool.false_eq_true, if_false]
  rw [stripWith, kept text none, kept _ fun c member => none c (List.mem_reverse.mp member), List.reverse_reverse]

/-- White space of the C locale, which is what is stripped around a numeral in ASCII. -/
def isBlank (c : Char) : Bool := c = ' ' || (9 ≤ c.toNat && c.toNat ≤ 13)

end Unicode
