import Mathlib.Logic.Basic

/-! # Programs that call services

A program either ends or makes one call and goes on with its answer. Every call
may answer with an exception, so the exception paths of a program are part of
its syntax. A program says nothing about what a call does: that is left to the
handler which runs it, alone or interleaved with others.
-/

namespace Interleaving

/-- A program over the calls `Call`. The answer of a call, or the exception it
    raised, selects the rest of the program. -/
inductive Prog {Call : Type} (Reply : Call → Type) (Err α : Type) where
  | ret (value : α)
  | raise (err : Err)
  | call (c : Call) (rest : Except Err (Reply c) → Prog Reply Err α)

namespace Prog

variable {Call : Type} {Reply : Call → Type} {Err α β : Type}

/-- Sequencing; an exception skips the continuation. -/
def bind : Prog Reply Err α → (α → Prog Reply Err β) → Prog Reply Err β
  | .ret value, next => next value
  | .raise err, _ => .raise err
  | .call c rest, next => .call c fun answer => (rest answer).bind next

/-- `try program except ...`: only exceptions reach the handler. -/
def handling : Prog Reply Err α → (Err → Prog Reply Err α) → Prog Reply Err α
  | .ret value, _ => .ret value
  | .raise err, handler => handler err
  | .call c rest, handler => .call c fun answer => (rest answer).handling handler

/-- One call whose exception propagates. -/
def perform (c : Call) : Prog Reply Err (Reply c) :=
  .call c fun
    | .ok value => .ret value
    | .error err => .raise err

instance : Monad (Prog Reply Err) where
  pure := .ret
  bind := bind

/-- Lift a pure computation that may raise. -/
def ofExcept : Except Err α → Prog Reply Err α
  | .ok value => .ret value
  | .error err => .raise err

@[simp] theorem ret_bind (value : α) (next : α → Prog Reply Err β) :
    (Prog.ret value : Prog Reply Err α).bind next = next value := rfl

theorem bind_assoc {γ : Type} (program : Prog Reply Err α) (next : α → Prog Reply Err β) (last : β → Prog Reply Err γ) :
    program >>= next >>= last = program >>= fun value => next value >>= last := by
  induction program with
  | ret | raise => rfl
  | call c rest ih => exact congrArg (Prog.call c) (funext ih)

/-- What a program does next: nothing once it has ended, else one call. -/
def next : Prog Reply Err α → Option ((c : Call) × (Except Err (Reply c) → Prog Reply Err α))
  | .call c rest => some ⟨c, rest⟩
  | .ret _ | .raise _ => none

theorem next_eq_some {program : Prog Reply Err α} {c : Call} {rest : Except Err (Reply c) → Prog Reply Err α}
    (found : program.next = some ⟨c, rest⟩) : program = .call c rest := by
  cases program with
  | call =>
      cases found
      rfl
  | ret | raise => cases found

/-- What a program comes to when every call has one answer. -/
def runWith (serve : (c : Call) → Except Err (Reply c)) : Prog Reply Err α → Except Err α
  | .ret value => .ok value
  | .raise err => .error err
  | .call c rest => (rest (serve c)).runWith serve

section RunWith

variable {serve : (c : Call) → Except Err (Reply c)}

@[simp] theorem runWith_bind (program : Prog Reply Err α) (next : α → Prog Reply Err β) :
    (program >>= next).runWith serve = program.runWith serve >>= fun value => (next value).runWith serve := by
  induction program with
  | ret | raise => rfl
  | call c rest ih => exact ih (serve c)

@[simp] theorem runWith_perform (c : Call) : (perform c : Prog Reply Err (Reply c)).runWith serve = serve c := by
  simp only [perform, runWith]
  cases serve c <;> rfl

@[simp] theorem runWith_ofExcept (result : Except Err α) :
    (ofExcept result : Prog Reply Err α).runWith serve = result := by
  cases result <;> rfl

end RunWith

/-- The program with its outcome as a value. -/
def caught : Prog Reply Err α → Prog Reply Err (Except Err α)
  | .ret value => .ret (.ok value)
  | .raise err => .ret (.error err)
  | .call c rest => .call c fun answer => (rest answer).caught

/-- `try: body finally: cleanup`: an exception of the cleanup replaces that of the body. -/
def andFinally (body : Prog Reply Err α) (cleanup : Prog Reply Err Unit) : Prog Reply Err α := do
  let result ← body.caught
  cleanup
  ofExcept result

/-- What a program comes to in a world that its calls read and change. -/
def runIn {World : Type} (serve : World → (c : Call) → Except Err (Reply c) × World) :
    Prog Reply Err α → World → Except Err α × World
  | .ret value, world => (.ok value, world)
  | .raise err, world => (.error err, world)
  | .call c rest, world => (rest (serve world c).1).runIn serve (serve world c).2

section RunIn

variable {World : Type} {serve : World → (c : Call) → Except Err (Reply c) × World} {program : Prog Reply Err α}
  {world world' : World}

theorem runIn_bind_ok {next : α → Prog Reply Err β} {value : α}
    (ran : program.runIn serve world = (.ok value, world')) :
    (program >>= next).runIn serve world = (next value).runIn serve world' := by
  induction program generalizing world with
  | ret =>
      cases ran
      rfl
  | raise => cases ran
  | call c rest ih => exact ih _ ran

theorem runIn_bind_error {next : α → Prog Reply Err β} {err : Err}
    (ran : program.runIn serve world = (.error err, world')) :
    (program >>= next).runIn serve world = (.error err, world') := by
  induction program generalizing world with
  | ret => cases ran
  | raise =>
      cases ran
      rfl
  | call c rest ih => exact ih _ ran

theorem runIn_handling_ok {handler : Err → Prog Reply Err α} {value : α}
    (ran : program.runIn serve world = (.ok value, world')) :
    (program.handling handler).runIn serve world = (.ok value, world') := by
  induction program generalizing world with
  | ret => exact ran
  | raise => cases ran
  | call c rest ih => exact ih _ ran

theorem runIn_handling_error {handler : Err → Prog Reply Err α} {err : Err}
    (ran : program.runIn serve world = (.error err, world')) :
    (program.handling handler).runIn serve world = (handler err).runIn serve world' := by
  induction program generalizing world with
  | ret => cases ran
  | raise =>
      cases ran
      rfl
  | call c rest ih => exact ih _ ran

theorem runIn_perform (c : Call) (world : World) :
    (perform c : Prog Reply Err (Reply c)).runIn serve world = serve world c := by
  rw [perform, runIn]
  obtain ⟨answer, world'⟩ := serve world c
  cases answer <;> rfl

theorem runIn_caught (program : Prog Reply Err α) (world : World) :
    program.caught.runIn serve world = (.ok (program.runIn serve world).1, (program.runIn serve world).2) := by
  induction program generalizing world with
  | ret | raise => rfl
  | call c rest ih => exact ih _ _

/-- After the body the cleanup runs, whatever the body came to. -/
theorem runIn_andFinally {cleanup : Prog Reply Err Unit} {result : Except Err α} {cleaned : Except Err Unit}
    {world'' : World} (ran : program.runIn serve world = (result, world'))
    (ended : cleanup.runIn serve world' = (cleaned, world'')) :
    (program.andFinally cleanup).runIn serve world = (cleaned.bind fun _ => result, world'') := by
  have outcome : program.caught.runIn serve world = (.ok result, world') := by rw [runIn_caught, ran]
  rw [andFinally, runIn_bind_ok outcome]
  cases cleaned with
  | ok done =>
      rw [runIn_bind_ok ended]
      cases result <;> rfl
  | error err => exact runIn_bind_error ended

end RunIn

end Prog

end Interleaving
