import Underwriting.Lib.Sequential

/-! # What a program may call and raise

A property of all calls a program can come to, whatever the answers are. It holds
of a program put together from parts if it holds of the parts, and then of every
call that is made in a run. The same of the exceptions. A program can also be
renamed or translated to calls of a larger kind.
-/

namespace Interleaving

variable {Call Call' : Type} {Reply : Call → Type} {Reply' : Call' → Type} {Err Req World Session Fate Env α β : Type}

namespace Prog

/-- The program with its calls and answers translated. -/
def rename (f : Call → Call') (g : ∀ c, Reply' (f c) → Reply c) : Prog Reply Err α → Prog Reply' Err α
  | .ret value => .ret value
  | .raise err => .raise err
  | .call c rest => .call (f c) fun answer => (rest (answer.map (g c))).rename f g

theorem rename_bind (f : Call → Call') (g : ∀ c, Reply' (f c) → Reply c) (program : Prog Reply Err α)
    (next : α → Prog Reply Err β) :
    (program >>= next).rename f g = program.rename f g >>= fun value => (next value).rename f g := by
  induction program with
  | ret | raise => rfl
  | call c rest ih => exact congrArg (Prog.call (f c)) (funext fun answer => ih _)

/-- The program with its calls, its answers and its exceptions translated. -/
def translate {Err' : Type} (f : Call → Call') (g : ∀ c, Reply' (f c) → Reply c) (up : Err → Err') (down : Err' → Err) :
    Prog Reply Err α → Prog Reply' Err' α
  | .ret value => .ret value
  | .raise err => .raise (up err)
  | .call c rest => .call (f c) fun answer => (rest ((answer.map (g c)).mapError down)).translate f g up down

theorem translate_id (f : Call → Call') (g : ∀ c, Reply' (f c) → Reply c) (program : Prog Reply Err α) :
    program.translate f g id id = program.rename f g := by
  induction program with
  | ret | raise => rfl
  | call c rest ih =>
      refine congrArg (Prog.call (f c)) (funext fun answer => ?_)
      cases answer <;> exact ih _

/-- Every call the program can come to has the property. -/
def Calls (p : Call → Prop) : Prog Reply Err α → Prop
  | .ret _ | .raise _ => True
  | .call c rest => p c ∧ ∀ answer, (rest answer).Calls p

section Calls

variable {p : Call → Prop} {program : Prog Reply Err α}

theorem Calls.imp {q : Call → Prop} (calls : program.Calls p) (weaker : ∀ c, p c → q c) : program.Calls q := by
  induction program with
  | ret | raise => trivial
  | call c rest ih => exact ⟨weaker c calls.1, fun answer => ih answer (calls.2 answer)⟩

theorem calls_of_forall (all : ∀ c, p c) (program : Prog Reply Err α) : program.Calls p := by
  induction program with
  | ret | raise => trivial
  | call c rest ih => exact ⟨all c, ih⟩

theorem Calls.bind {next : α → Prog Reply Err β} (calls : program.Calls p) (after : ∀ value, (next value).Calls p) :
    (program >>= next).Calls p := by
  induction program with
  | ret value => exact after value
  | raise => trivial
  | call c rest ih => exact ⟨calls.1, fun answer => ih answer (calls.2 answer)⟩

theorem Calls.handling {handler : Err → Prog Reply Err α} (calls : program.Calls p)
    (handled : ∀ err, (handler err).Calls p) : (program.handling handler).Calls p := by
  induction program with
  | ret => trivial
  | raise err => exact handled err
  | call c rest ih => exact ⟨calls.1, fun answer => ih answer (calls.2 answer)⟩

theorem calls_perform {c : Call} (called : p c) : (perform c : Prog Reply Err (Reply c)).Calls p :=
  ⟨called, fun answer => by cases answer <;> trivial⟩

/-- A call whose exception propagates, then what its answer leads to. -/
theorem calls_perform_bind {c : Call} {next : Reply c → Prog Reply Err β} :
    ((perform c : Prog Reply Err (Reply c)) >>= next).Calls p ↔ p c ∧ ∀ reply, (next reply).Calls p := by
  constructor
  · intro calls
    exact ⟨calls.1, fun reply => calls.2 (.ok reply)⟩
  · rintro ⟨called, after⟩
    refine ⟨called, fun answer => ?_⟩
    cases answer with
    | ok reply => exact after reply
    | error => trivial

theorem calls_ofExcept (result : Except Err α) : (ofExcept result : Prog Reply Err α).Calls p := by
  cases result <;> trivial

theorem calls_rename {p : Call' → Prop} {f : Call → Call'} {g : ∀ c, Reply' (f c) → Reply c}
    (calls : program.Calls fun c => p (f c)) : (program.rename f g).Calls p := by
  induction program with
  | ret | raise => trivial
  | call c rest ih => exact ⟨calls.1, fun answer => ih _ (calls.2 _)⟩

theorem calls_translate {p : Call' → Prop} {Err' : Type} {f : Call → Call'} {g : ∀ c, Reply' (f c) → Reply c}
    {up : Err → Err'} {down : Err' → Err} (calls : program.Calls fun c => p (f c)) :
    (program.translate f g up down).Calls p := by
  induction program with
  | ret | raise => trivial
  | call c rest ih => exact ⟨calls.1, fun answer => ih _ (calls.2 _)⟩

end Calls

/-- Every exception the program can come to has the property, if those of its calls have. -/
def Raises (q : Err → Prop) : Prog Reply Err α → Prop
  | .ret _ => True
  | .raise err => q err
  | .call _ rest => ∀ answer, (∀ err, answer = .error err → q err) → (rest answer).Raises q

section Raises

variable {q : Err → Prop} {program : Prog Reply Err α}

theorem Raises.bind {next : α → Prog Reply Err β} (raises : program.Raises q) (after : ∀ value, (next value).Raises q) :
    (program >>= next).Raises q := by
  induction program with
  | ret value => exact after value
  | raise err => exact raises
  | call c rest ih => exact fun answer fine => ih answer (raises answer fine)

theorem Raises.handling {handler : Err → Prog Reply Err α} (raises : program.Raises q)
    (handled : ∀ err, q err → (handler err).Raises q) : (program.handling handler).Raises q := by
  induction program with
  | ret => trivial
  | raise err => exact handled err raises
  | call c rest ih => exact fun answer fine => ih answer (raises answer fine)

theorem raises_perform (c : Call) : (perform c : Prog Reply Err (Reply c)).Raises q := by
  intro answer fine
  cases answer with
  | ok reply => trivial
  | error err => exact fine err rfl

theorem raises_ofExcept {result : Except Err α} (fine : ∀ err, result = .error err → q err) :
    (ofExcept result : Prog Reply Err α).Raises q := by
  cases result with
  | ok value => trivial
  | error err => exact fine err rfl

end Raises

end Prog

variable {B : Backend Reply Err World Session Fate Env} {start : Req → Prog Reply Err α} {dead : Err}
  {s₀ s : Sys Reply Req World Session (Prog Reply Err α)} {p : Req → Call → Prop}

/-- What every request may call, every call it has made is, and every call it is
    about to make. -/
theorem calls_run (calls : ∀ req, (start req).Calls (p req)) {ok} (run : Run B (programs start dead) ok s₀ s)
    (initial : ∀ t ∈ s₀.threads, t.ctl.Calls (p t.req) ∧ ∀ c ∈ t.done, p t.req c) :
    ∀ t ∈ s.threads, t.ctl.Calls (p t.req) ∧ ∀ c ∈ t.done, p t.req c := by
  refine run.invariant (I := fun s => ∀ t ∈ s.threads, t.ctl.Calls (p t.req) ∧ ∀ c ∈ t.done, p t.req c) initial ?_
  intro s choice s' _ known _ stepped
  refine threads_step stepped known ?start ?died ?moved
  case start => exact fun req _ => ⟨calls req, fun _ member => nomatch member⟩
  case died => exact fun t member => ⟨trivial, (known t member).2⟩
  case moved =>
    intro i fate t c rest answer session _ at_i next _
    obtain ⟨calling, made⟩ := known t (List.mem_of_getElem? at_i)
    rw [Prog.next_eq_some next] at calling
    refine ⟨calling.2 answer, fun called member => ?_⟩
    rw [Thread.done_answered] at member
    rcases List.mem_append.mp member with before | last
    · exact made called before
    · split at last
      · rw [List.mem_singleton.mp last]
        exact calling.1
      · cases last

theorem calls_awaited {q : Call → Prop} {t : Thread Reply Req Session (Prog Reply Err α)} (calls : t.ctl.Calls q)
    {c : Call} (awaited : t.awaits (programs start dead) = some c) : q c := by
  obtain ⟨⟨d, rest⟩, next, rfl⟩ := Option.map_eq_some_iff.mp awaited
  rw [Prog.next_eq_some next] at calls
  exact calls.1

end Interleaving
