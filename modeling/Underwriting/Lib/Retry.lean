import Mathlib.Data.Nat.Notation
import Underwriting.Lib.Prog

/-! # Bounded retry

A program is tried so many times, with a pause between two tries. Only some exceptions
are tried again; after the last of the tries one of the retry's own is raised.
-/

namespace Interleaving.Prog

variable {Call : Type} {Reply : Call → Type} {Err α : Type}

/-- `for attempt in range(...)`: `left` tries are still to be made. -/
def retry (attempt : Prog Reply Err α) (again : Err → Bool) (pause : Prog Reply Err Unit) (gaveUp : Err) :
    ℕ → Prog Reply Err α
  | 0 => .raise gaveUp
  | left + 1 => do
      match ← attempt.caught with
      | .ok value => return value
      | .error err =>
          if again err then do
            if left ≠ 0 then pause
            retry attempt again pause gaveUp left
          else .raise err

section RunIn

variable {World : Type} {serve : World → (c : Call) → Except Err (Reply c) × World} {attempt : Prog Reply Err α}
  {again : Err → Bool} {pause : Prog Reply Err Unit} {gaveUp : Err} {world world' : World}

/-- A try that is not to be repeated is the last one. -/
theorem retry_settled {left : ℕ} {result : Except Err α} (tried : attempt.runIn serve world = (result, world'))
    (settled : ∀ err, result = .error err → again err = false) :
    (retry attempt again pause gaveUp (left + 1)).runIn serve world = (result, world') := by
  have caught : attempt.caught.runIn serve world = (.ok result, world') := by rw [runIn_caught, tried]
  rw [retry, runIn_bind_ok caught]
  cases result with
  | ok value => rfl
  | error err =>
      simp only [settled err rfl, Bool.false_eq_true, if_false]
      rfl

/-- A try that is to be repeated is followed by a pause and the other tries, if any are left. -/
theorem retry_again {left : ℕ} {err : Err} {world'' : World} (tried : attempt.runIn serve world = (.error err, world'))
    (repeated : again err = true)
    (paused : (if left ≠ 0 then pause else pure ()).runIn serve world' = (.ok (), world'')) :
    (retry attempt again pause gaveUp (left + 1)).runIn serve world =
      (retry attempt again pause gaveUp left).runIn serve world'' := by
  have caught : attempt.caught.runIn serve world = (.ok (.error err), world') := by rw [runIn_caught, tried]
  rw [retry, runIn_bind_ok caught]
  simp only [repeated, if_true]
  by_cases more : left ≠ 0
  · rw [if_pos more] at paused ⊢
    exact runIn_bind_ok paused
  · rw [if_neg more] at paused ⊢
    cases paused
    rfl

/-- An exception of the pause ends the retry. -/
theorem retry_interrupted {left : ℕ} {err broken : Err} {world'' : World}
    (tried : attempt.runIn serve world = (.error err, world')) (repeated : again err = true) (more : left ≠ 0)
    (paused : pause.runIn serve world' = (.error broken, world'')) :
    (retry attempt again pause gaveUp (left + 1)).runIn serve world = (.error broken, world'') := by
  have caught : attempt.caught.runIn serve world = (.ok (.error err), world') := by rw [runIn_caught, tried]
  rw [retry, runIn_bind_ok caught]
  simp only [repeated, if_true, if_pos more]
  exact runIn_bind_error paused

end RunIn

end Interleaving.Prog
