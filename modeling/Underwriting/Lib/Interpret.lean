import Mathlib.Data.List.Forall2
import Underwriting.Lib.Calls

/-! # Programs that implement calls

A call of one kind may be implemented by a program over calls of another kind. An
implementation whose calls leave the shared world alone but for the last, which does
what the implemented call may do, is invisible: every interleaved run of the
implemented programs is a run of the programs themselves, with stutters.
-/

namespace Interleaving

variable {Call Call' : Type} {Reply : Call → Type} {Reply' : Call' → Type} {Err α β : Type}

namespace Prog

/-- The program, and then what its outcome leads to, value or exception. -/
def attempt : Prog Reply' Err α → (Except Err α → Prog Reply' Err β) → Prog Reply' Err β
  | .ret value, next => next (.ok value)
  | .raise err, next => next (.error err)
  | .call c rest, next => .call c fun answer => (rest answer).attempt next

/-- The outcome of a program that has ended. -/
def outcome? : Prog Reply' Err α → Option (Except Err α)
  | .ret value => some (.ok value)
  | .raise err => some (.error err)
  | .call _ _ => none

theorem ret_of_outcome {program : Prog Reply' Err α} {value : α} (ended : program.outcome? = some (.ok value)) :
    program = .ret value := by
  cases program <;> cases ended
  rfl

/-- Every call replaced by its implementation. -/
def interpret (impl : (c : Call) → Prog Reply' Err (Reply c)) : Prog Reply Err α → Prog Reply' Err α
  | .ret value => .ret value
  | .raise err => .raise err
  | .call c rest => (impl c).attempt fun answer => (rest answer).interpret impl

theorem attempt_of_outcome {program : Prog Reply' Err α} {result : Except Err α}
    (ended : program.outcome? = some result) (next : Except Err α → Prog Reply' Err β) :
    program.attempt next = next result := by
  cases program <;> cases ended <;> rfl

section Interpret

variable (impl : (c : Call) → Prog Reply' Err (Reply c))

theorem attempt_assoc {γ : Type} (program : Prog Reply' Err α) (next : Except Err α → Prog Reply' Err β)
    (last : β → Prog Reply' Err γ) :
    program.attempt next >>= last = program.attempt fun result => next result >>= last := by
  induction program with
  | ret | raise => rfl
  | call c rest ih => exact congrArg (Prog.call c) (funext ih)

theorem attempt_handling (program : Prog Reply' Err α) (next : Except Err α → Prog Reply' Err β)
    (handler : Err → Prog Reply' Err β) :
    (program.attempt next).handling handler = program.attempt fun result => (next result).handling handler := by
  induction program with
  | ret | raise => rfl
  | call c rest ih => exact congrArg (Prog.call c) (funext ih)

/-- Going on with a value only. -/
theorem attempt_bind (program : Prog Reply' Err α) (next : α → Prog Reply' Err β) :
    (program.attempt fun
      | .ok value => next value
      | .error err => .raise err) = program >>= next := by
  induction program with
  | ret | raise => rfl
  | call c rest ih => exact congrArg (Prog.call c) (funext ih)

@[simp] theorem interpret_bind (program : Prog Reply Err α) (next : α → Prog Reply Err β) :
    (program >>= next).interpret impl = program.interpret impl >>= fun value => (next value).interpret impl := by
  induction program with
  | ret | raise => rfl
  | call c rest ih => exact (congrArg (impl c).attempt (funext ih)).trans (attempt_assoc ..).symm

@[simp] theorem interpret_handling (program : Prog Reply Err α) (handler : Err → Prog Reply Err α) :
    (program.handling handler).interpret impl =
      (program.interpret impl).handling fun err => (handler err).interpret impl := by
  induction program with
  | ret | raise => rfl
  | call c rest ih => exact (congrArg (impl c).attempt (funext ih)).trans (attempt_handling ..).symm

@[simp] theorem interpret_perform (c : Call) : (perform c : Prog Reply Err (Reply c)).interpret impl = impl c := by
  have same : ∀ program : Prog Reply' Err (Reply c), program.attempt ofExcept = program := by
    intro program
    induction program with
    | ret | raise => rfl
    | call c rest ih => exact congrArg (Prog.call c) (funext ih)
  rw [← same (impl c), perform, interpret]
  refine congrArg (impl c).attempt (funext fun answer => ?_)
  cases answer <;> rfl

@[simp] theorem interpret_ofExcept (result : Except Err α) :
    (ofExcept result : Prog Reply Err α).interpret impl = ofExcept result := by
  cases result <;> rfl

end Interpret

end Prog

/-! ## Simulation -/

variable {Req World Session Session' Fate Fate' Env : Type} (B : Backend Reply Err World Session Fate Env)
  (B' : Backend Reply' Err World Session' Fate' Env) (abs : Session' → Session)

/-- What a program does to the world it does at its last call, and that is something
    the implemented call does there. -/
def Realises (c : Call) : Prog Reply' Err (Reply c) → Prop
  | .ret _ | .raise _ => True
  | .call d rest => ∀ answer, Realises c (rest answer) ∧
      ∀ world session fate world' session', B'.handle world session d fate = some (answer, world', session') →
        match (rest answer).outcome? with
        | none => world' = world ∧ abs session' = abs session
        | some result => ∃ choice, B.handle world (abs session) c choice = some (result, world', abs session')

/-- The call leaves the world alone, and of the session what the programs see. -/
def Silent (d : Call') : Prop :=
  ∀ world session fate answer world' session', B'.handle world session d fate = some (answer, world', session') →
    world' = world ∧ abs session' = abs session

variable {B B' abs} in
/-- Silent calls first, which may fail if the implemented call may, then the rest. -/
theorem realises_silent {c : Call} {program : Prog Reply' Err α} {next : α → Prog Reply' Err (Reply c)}
    (silent : program.Calls (Silent B' abs))
    (after : ∀ value, (next value).outcome? = none ∧ Realises B B' abs c (next value))
    (refused : ∀ err world session, ∃ choice, B.handle world session c choice = some (.error err, world, session)) :
    Realises B B' abs c (program >>= next) := by
  induction program with
  | ret value => exact (after value).2
  | raise err => trivial
  | call d rest ih =>
      intro answer
      refine ⟨ih answer (silent.2 answer), fun world session fate world' session' handled => ?_⟩
      obtain ⟨unchanged, kept⟩ := silent.1 world session fate answer world' session' handled
      change match (rest answer >>= next).outcome? with
        | none => _
        | some result => _
      cases rest answer with
      | ret value =>
          change match (next value).outcome? with
            | none => _
            | some result => _
          rw [(after value).1]
          exact ⟨unchanged, kept⟩
      | raise err =>
          obtain ⟨choice, served⟩ := refused err world (abs session)
          refine ⟨choice, ?_⟩
          rw [unchanged, kept]
          exact served
      | call => exact ⟨unchanged, kept⟩

/-- An implementation of every call, each of which makes at least one call. -/
structure Implementation where
  impl : (c : Call) → Prog Reply' Err (Reply c)
  calls : ∀ c, (impl c).outcome? = none
  realises : ∀ c, Realises B B' abs c (impl c)
  fresh : abs B'.fresh = B.fresh
  disturb : B'.disturb = B.disturb

/-- A program and its implementation: both have ended the same way, or the
    implementation of the program's call is under way. -/
inductive Linked (impl : (c : Call) → Prog Reply' Err (Reply c)) : Prog Reply Err α → Prog Reply' Err α → Prop where
  | ret (value : α) : Linked impl (.ret value) (.ret value)
  | raise (err : Err) : Linked impl (.raise err) (.raise err)
  | call {c : Call} {rest : Except Err (Reply c) → Prog Reply Err α} {under : Prog Reply' Err (Reply c)}
      (calls : under.outcome? = none) (realises : Realises B B' abs c under) :
      Linked impl (.call c rest) (under.attempt fun answer => (rest answer).interpret impl)

variable {B B' abs}

theorem linked_interpret (I : Implementation B B' abs) (program : Prog Reply Err α) :
    Linked B B' abs I.impl program (program.interpret I.impl) := by
  cases program with
  | ret value => exact .ret value
  | raise err => exact .raise err
  | call c rest => exact .call (I.calls c) (I.realises c)

variable (B B' abs) in
/-- A thread of the programs beside the same thread of the implementations. -/
structure LinkedThreads (impl : (c : Call) → Prog Reply' Err (Reply c)) (u : Thread Reply Req Session (Prog Reply Err α))
    (t : Thread Reply' Req Session' (Prog Reply' Err α)) : Prop where
  req : u.req = t.req
  session : u.session = abs t.session
  linked : Linked B B' abs impl u.ctl t.ctl

variable (B B' abs) in
structure LinkedSystems (impl : (c : Call) → Prog Reply' Err (Reply c))
    (r : Sys Reply Req World Session (Prog Reply Err α))
    (s : Sys Reply' Req World Session' (Prog Reply' Err α)) : Prop where
  world : r.world = s.world
  threads : List.Forall₂ (LinkedThreads B B' abs impl) r.threads s.threads

namespace Linked

variable {impl : (c : Call) → Prog Reply' Err (Reply c)} {program : Prog Reply Err α} {under : Prog Reply' Err α}

theorem ended (linked : Linked B B' abs impl program under) : program.outcome? = under.outcome? := by
  cases linked with
  | ret | raise => rfl
  | @call c rest under calls realises =>
      cases under with
      | ret | raise => cases calls
      | call => rfl

theorem live (linked : Linked B B' abs impl program under) (live : under.next.isSome) : program.next.isSome := by
  cases linked with
  | ret | raise => cases live
  | call => rfl

/-- After an answer the implementation is still under way, and nothing has changed, or
    the call is answered. -/
theorem answered {I : Implementation B B' abs} (linked : Linked B B' abs I.impl program under) {d : Call'}
    {rest : Except Err (Reply' d) → Prog Reply' Err α} (next : under.next = some ⟨d, rest⟩)
    {answer : Except Err (Reply' d)} {world world' : World} {session session' : Session'} {fate : Fate'}
    (handled : B'.handle world session d fate = some (answer, world', session')) :
    (world' = world ∧ abs session' = abs session ∧ Linked B B' abs I.impl program (rest answer)) ∨
      ∃ c rest' result choice, program = .call c rest' ∧
        B.handle world (abs session) c choice = some (result, world', abs session') ∧
        Linked B B' abs I.impl (rest' result) (rest answer) := by
  cases linked with
  | ret | raise => cases next
  | @call c rest' under calls realises =>
      cases under with
      | ret | raise => cases calls
      | call d' rest'' =>
          cases next
          obtain ⟨realises', ended⟩ := realises answer
          have served := ended world session fate world' session' handled
          cases outcome : (rest'' answer).outcome? with
          | none =>
              rw [outcome] at served
              exact .inl ⟨served.1, served.2, .call outcome realises'⟩
          | some result =>
              rw [outcome] at served
              obtain ⟨choice, served⟩ := served
              refine .inr ⟨c, rest', result, choice, rfl, served, ?_⟩
              have ended : (rest'' answer).attempt (fun answer => (rest' answer).interpret I.impl) =
                  (rest' result).interpret I.impl := Prog.attempt_of_outcome outcome _
              exact Eq.subst (motive := Linked B B' abs I.impl (rest' result)) ended.symm
                (linked_interpret I (rest' result))

end Linked

section Lists

variable {A A' : Type} {R : A → A' → Prop} {l : List A} {l' : List A'} {a : A} {a' : A'} {i : ℕ}

theorem forall₂_at (related : List.Forall₂ R l l') (found : l'[i]? = some a') : ∃ a, l[i]? = some a ∧ R a a' := by
  induction related generalizing i with
  | nil => cases found
  | cons first _ ih =>
      cases i with
      | zero =>
          cases found
          exact ⟨_, rfl, first⟩
      | succ i => exact ih found

theorem forall₂_set (related : List.Forall₂ R l l') (i : ℕ) (changed : R a a') :
    List.Forall₂ R (l.set i a) (l'.set i a') := by
  induction related generalizing i with
  | nil => exact .nil
  | cons first rest ih =>
      cases i with
      | zero => exact .cons changed rest
      | succ i => exact .cons first (ih i)

/-- A list beside one of which a member has changed. -/
theorem forall₂_set_right (related : List.Forall₂ R l l') (found : l[i]? = some a) (changed : R a a') :
    List.Forall₂ R l (l'.set i a') := by
  have same : l.set i a = l := by
    obtain ⟨inside, rfl⟩ := List.getElem?_eq_some_iff.mp found
    exact List.set_getElem_self inside
  rw [← same]
  exact forall₂_set related i changed

end Lists

section Steps

variable {I : Implementation B B' abs} {start : Req → Prog Reply Err α} {dead : Err}
  {r : Sys Reply Req World Session (Prog Reply Err α)} {s s' : Sys Reply' Req World Session' (Prog Reply' Err α)}

/-- The implementations of the requests. -/
def implemented (I : Implementation B B' abs) (start : Req → Prog Reply Err α) (dead : Err) :
    Control Reply' Err Req (Prog Reply' Err α) :=
  programs (fun req => (start req).interpret I.impl) dead

/-- A step of the implementations is a step of the programs, or changes nothing there. -/
theorem linked_step (linked : LinkedSystems B B' abs I.impl r s) {choice}
    (stepped : step B' (implemented I start dead) s choice = some s') :
    LinkedSystems B B' abs I.impl r s' ∨
      ∃ choice' r', step B (programs start dead) r choice' = some r' ∧
        LinkedSystems B B' abs I.impl r' s' := by
  cases step_cases stepped with
  | start req =>
      refine .inr ⟨.start req, _, rfl, linked.world, ?_⟩
      apply List.rel_append linked.threads
      exact .cons ⟨rfl, I.fresh.symm, linked_interpret I (start req)⟩ .nil
  | env e =>
      refine .inr ⟨.env e, _, rfl, ?_, linked.threads⟩
      rw [linked.world, I.disturb]
  | @crash i t at_i live =>
      obtain ⟨u, at_u, related⟩ := forall₂_at linked.threads at_i
      have alive : u.Live (programs start dead) := related.linked.live live
      obtain ⟨next, at_next⟩ := Option.isSome_iff_exists.mp alive
      refine .inr ⟨.crash i, ⟨r.world, r.threads.set i (u.died (.raise dead) B.fresh)⟩, ?_, linked.world, ?_⟩
      · simp only [step, at_u, at_next]
        rfl
      · exact forall₂_set linked.threads i ⟨related.req, I.fresh.symm, .raise dead⟩
  | @run i fate t c rest answer world session at_i next handled =>
      obtain ⟨u, at_u, related⟩ := forall₂_at linked.threads at_i
      rcases related.linked.answered next handled with
        ⟨unchanged, kept, linked'⟩ | ⟨c', rest', result, choice, calling, served, linked'⟩
      · refine .inl ⟨linked.world.trans unchanged.symm, forall₂_set_right linked.threads at_u ?_⟩
        exact ⟨related.req, related.session.trans kept.symm, linked'⟩
      · rw [← linked.world, ← related.session] at served
        refine .inr ⟨.run i choice, ⟨world, r.threads.set i (u.answered c' rest' result (abs session))⟩, ?_, rfl, ?_⟩
        · have at_next : (programs start dead).next u.ctl = some ⟨c', rest'⟩ := by
            rw [calling]
            rfl
          simp only [step, at_u, at_next, served]
        · exact forall₂_set linked.threads i ⟨related.req, rfl, linked'⟩

variable {ok : Sys Reply' Req World Session' (Prog Reply' Err α) → Choice Req Fate' Env → Prop}

/-- Whatever the implementations reach the programs reach. -/
theorem linked_run {s₀ : Sys Reply' Req World Session' (Prog Reply' Err α)}
    (run : Run B' (implemented I start dead) ok s₀ s)
    (initial : LinkedSystems B B' abs I.impl r s₀) :
    ∃ r', Run B (programs start dead) anyStep r r' ∧ LinkedSystems B B' abs I.impl r' s := by
  induction run with
  | refl => exact ⟨r, .refl, initial⟩
  | tail _ _ stepped ih =>
      obtain ⟨r', reached, linked⟩ := ih
      rcases linked_step linked stepped with stutters | ⟨choice', r'', stepped', linked'⟩
      · exact ⟨r', reached, stutters⟩
      · exact ⟨r'', reached.tail trivial stepped', linked'⟩

end Steps

end Interleaving
