import Mathlib.Algebra.Group.Nat.Defs

/-! # SHA-1

The digest of FIPS 180-4 over lists of bytes, on natural numbers below `2 ^ 32`.
-/

namespace Sha1

/-- Append the bit `1`, zeros up to eight bytes short of a block, and the bit length. -/
def pad (message : List ℕ) : List ℕ :=
  message ++ 128 :: List.replicate ((119 - message.length % 64) % 64) 0 ++
    (List.range 8).map fun i => message.length * 8 / 256 ^ (7 - i) % 256

/-- Big-endian 32-bit words. -/
def words : List ℕ → List ℕ
  | a :: b :: c :: d :: rest => (((a * 256 + b) * 256 + c) * 256 + d) :: words rest
  | _ => []

def rotl (k x : ℕ) : ℕ := x * 2 ^ k % 2 ^ 32 + x / 2 ^ (32 - k)

/-- Extend the message schedule by `n` words; the newest word stands first. -/
def schedule : ℕ → List ℕ → List ℕ
  | 0, w => w
  | n + 1, w =>
      schedule n (rotl 1 (w.getD 2 0 ^^^ w.getD 7 0 ^^^ w.getD 13 0 ^^^ w.getD 15 0) :: w)

structure State where
  a : ℕ
  b : ℕ
  c : ℕ
  d : ℕ
  e : ℕ

def complement (x : ℕ) : ℕ := 2 ^ 32 - 1 - x

/-- The round function and its constant. -/
def mix (t : ℕ) (s : State) : ℕ × ℕ :=
  if t < 20 then ((s.b &&& s.c) ||| (complement s.b &&& s.d), 0x5A827999)
  else if t < 40 then (s.b ^^^ s.c ^^^ s.d, 0x6ED9EBA1)
  else if t < 60 then ((s.b &&& s.c) ||| (s.b &&& s.d) ||| (s.c &&& s.d), 0x8F1BBCDC)
  else (s.b ^^^ s.c ^^^ s.d, 0xCA62C1D6)

def rounds : ℕ → List ℕ → State → State
  | _, [], s => s
  | t, w :: rest, s =>
      rounds (t + 1) rest
        ⟨(rotl 5 s.a + (mix t s).1 + s.e + (mix t s).2 + w) % 2 ^ 32, s.a, rotl 30 s.b, s.c, s.d⟩

/-- One block of sixteen words. -/
def block (h : State) (w : List ℕ) : State :=
  let s := rounds 0 (schedule 64 w.reverse).reverse h
  ⟨(h.a + s.a) % 2 ^ 32, (h.b + s.b) % 2 ^ 32, (h.c + s.c) % 2 ^ 32, (h.d + s.d) % 2 ^ 32,
    (h.e + s.e) % 2 ^ 32⟩

def blocks : ℕ → List ℕ → State → State
  | 0, _, h => h
  | n + 1, w, h => blocks n (w.drop 16) (block h (w.take 16))

def initial : State := ⟨0x67452301, 0xEFCDAB89, 0x98BADCFE, 0x10325476, 0xC3D2E1F0⟩

def hexDigit (n : ℕ) : Char := if n < 10 then Char.ofNat (48 + n) else Char.ofNat (87 + n)

def hexWord (n : ℕ) : List Char := (List.range 8).map fun i => hexDigit (n / 16 ^ (7 - i) % 16)

/-- The digest as forty lower-case hexadecimal digits. -/
def hexdigest (message : List ℕ) : String :=
  let w := words (pad message)
  let h := blocks (w.length / 16) w initial
  String.ofList (hexWord h.a ++ hexWord h.b ++ hexWord h.c ++ hexWord h.d ++ hexWord h.e)

theorem hexDigit_ascii : ∀ n < 16, hexDigit n ≠ '\x00' ∧ (hexDigit n).toNat < 128 := by decide

theorem hexdigest_ascii {message : List ℕ} {c : Char} (member : c ∈ (hexdigest message).toList) :
    c ≠ '\x00' ∧ c.toNat < 128 := by
  have word : ∀ n, c ∈ hexWord n → c ≠ '\x00' ∧ c.toNat < 128 := by
    intro n digit
    obtain ⟨i, -, rfl⟩ := List.mem_map.mp digit
    exact hexDigit_ascii _ (Nat.mod_lt _ (by decide))
  simp only [hexdigest, String.toList_ofList, List.mem_append] at member
  rcases member with (((first | second) | third) | fourth) | fifth
  · exact word _ first
  · exact word _ second
  · exact word _ third
  · exact word _ fourth
  · exact word _ fifth

set_option maxRecDepth 20000 in
example : hexdigest [97, 98, 99] = "a9993e364706816aba3e25717850c26c9cd0d89d" := by decide +kernel

end Sha1
