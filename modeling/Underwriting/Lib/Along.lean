import Underwriting.Lib.Interpret
import Underwriting.Lib.Traces

/-! # Along the paths of a program

What a program calls after each record it can have: `good` of every call when it is
made, `post` of the record and the outcome. Only answers that are `possible` after
the record count. Where a thread's session is what its record says, the answers it
gets are possible, and all its calls are good in every run.
-/

namespace Interleaving

variable {Call Call' : Type} {Reply : Call → Type} {Reply' : Call' → Type} {Err Req World Session Fate Env α β : Type}

/-- The record after an answer. -/
def Log.after (log : Log Reply) (c : Call) : Except Err (Reply c) → Log Reply
  | .ok value => log ++ [⟨c, value⟩]
  | .error _ => log

namespace Prog

def Along (possible : Log Reply → (c : Call) → Except Err (Reply c) → Prop) (good : Log Reply → Call → Prop)
    (post : Log Reply → Except Err α → Prop) : Prog Reply Err α → Log Reply → Prop
  | .ret value, log => post log (.ok value)
  | .raise err, log => post log (.error err)
  | .call c rest, log => good log c ∧
      ∀ answer, possible log c answer → (rest answer).Along possible good post (log.after c answer)

variable {possible : Log Reply → (c : Call) → Except Err (Reply c) → Prop} {good : Log Reply → Call → Prop}
  {post : Log Reply → Except Err α → Prop} {program : Prog Reply Err α} {log : Log Reply}

theorem Along.imp {post' : Log Reply → Except Err α → Prop} (along : program.Along possible good post log)
    (weaker : ∀ log result, post log result → post' log result) : program.Along possible good post' log := by
  induction program generalizing log with
  | ret value => exact weaker log _ along
  | raise err => exact weaker log _ along
  | call c rest ih => exact ⟨along.1, fun answer arises => ih answer (along.2 answer arises)⟩

/-- The rule of sequencing with both outcomes. -/
theorem Along.attempt {post : Log Reply → Except Err β → Prop} {next : Except Err α → Prog Reply Err β}
    (along : program.Along possible good (fun log result => (next result).Along possible good post log) log) :
    (program.attempt next).Along possible good post log := by
  induction program generalizing log with
  | ret value => exact along
  | raise err => exact along
  | call c rest ih => exact ⟨along.1, fun answer arises => ih answer (along.2 answer arises)⟩

/-- The rule of sequencing: an exception skips what comes after. -/
theorem Along.bind {post : Log Reply → Except Err β → Prop} {next : α → Prog Reply Err β}
    (along : program.Along possible good
      (fun log result => match result with
        | .ok value => (next value).Along possible good post log
        | .error err => post log (.error err)) log) :
    (program >>= next).Along possible good post log := by
  rw [← attempt_bind]
  refine Along.attempt (along.imp fun log result met => ?_)
  cases result <;> exact met

/-- The rule of `except`: only exceptions reach the handler. -/
theorem Along.handling {handler : Err → Prog Reply Err α}
    (along : program.Along possible good
      (fun log result => match result with
        | .ok value => post log (.ok value)
        | .error err => (handler err).Along possible good post log) log) :
    (program.handling handler).Along possible good post log := by
  induction program generalizing log with
  | ret value => exact along
  | raise err => exact along
  | call c rest ih => exact ⟨along.1, fun answer arises => ih answer (along.2 answer arises)⟩

theorem along_ofExcept {result : Except Err α} (met : post log result) :
    (ofExcept result : Prog Reply Err α).Along possible good post log := by
  cases result <;> exact met

/-- The rule of sequencing where nothing is asked of exceptions. -/
theorem Along.bind_ok {next : α → Prog Reply Err β}
    (along : program.Along possible good
      (fun log result => ∀ value, result = .ok value → (next value).Along possible good (fun _ _ => True) log) log) :
    (program >>= next).Along possible good (fun _ _ => True) log := by
  refine Along.bind (along.imp fun log result met => ?_)
  cases result with
  | ok value => exact met value rfl
  | error err => trivial

/-- Calls that are good whenever they are made. -/
theorem along_calls {p : Call → Prop} (fine : ∀ log c, p c → good log c) (calls : program.Calls p) (log : Log Reply) :
    program.Along possible good (fun log' _ => log <+: log') log := by
  have later : ∀ log', log <+: log' → program.Along possible good (fun log' _ => log <+: log') log' := by
    induction program with
    | ret | raise => exact fun log' seen => seen
    | call c rest ih =>
        refine fun log' seen => ⟨fine log' c calls.1, fun answer _ => ih answer (calls.2 answer) _ (seen.trans ?_)⟩
        cases answer with
        | ok reply => exact List.prefix_append ..
        | error err => exact List.prefix_refl _
  exact later log (List.prefix_refl _)

/-- A program does along its paths what it does along those of its implementation: the
    records are related, and an implementation of a good call makes good calls. -/
theorem Along.interpret {possible' : Log Reply' → (c : Call') → Except Err (Reply' c) → Prop}
    {good' : Log Reply' → Call' → Prop} {related : Log Reply → Log Reply' → Prop}
    {impl : (c : Call) → Prog Reply' Err (Reply c)}
    (each : ∀ c log log', related log log' → good log c → (impl c).Along possible' good'
      (fun log' answer => possible log c answer ∧ related (log.after c answer) log') log')
    (along : program.Along possible good post log) {log' : Log Reply'} (same : related log log') :
    (program.interpret impl).Along possible' good' (fun log' result => ∃ log, related log log' ∧ post log result) log' := by
  induction program generalizing log log' with
  | ret | raise => exact ⟨log, same, along⟩
  | call c rest ih =>
      refine Along.attempt ((each c log log' same along.1).imp fun log' answer met => ?_)
      exact ih answer (along.2 answer met.1) met.2

/-- What every implementation of a call keeps, every program over them does. -/
theorem along_interpret {possible : Log Reply' → (c : Call') → Except Err (Reply' c) → Prop}
    {good : Log Reply' → Call' → Prop} {I : Log Reply' → Prop} {impl : (c : Call) → Prog Reply' Err (Reply c)}
    (each : ∀ c log, I log → (impl c).Along possible good (fun log _ => I log) log) (program : Prog Reply Err α)
    {log : Log Reply'} (holds : I log) : (program.interpret impl).Along possible good (fun log _ => I log) log := by
  induction program generalizing log with
  | ret | raise => exact holds
  | call c rest ih => exact Along.attempt ((each c log holds).imp fun log answer holds => ih answer holds)

/-! ### Values only -/

/-- What a program that returns has on record, whatever its calls raise. -/
abbrev Records (possible : Log Reply → (c : Call) → Except Err (Reply c) → Prop) (met : Log Reply → α → Prop)
    (program : Prog Reply Err α) (log : Log Reply) : Prop :=
  program.Along possible (fun _ _ => True) (fun log result => ∀ value, result = .ok value → met log value) log

section Records

variable {met : Log Reply → β → Prop} {next : α → Prog Reply Err β}

theorem records_ret {value : β} (holds : met log value) :
    (Prog.ret value : Prog Reply Err β).Records possible met log := by
  rintro _ ⟨⟩
  exact holds

theorem records_raise {err : Err} : (Prog.raise err : Prog Reply Err β).Records possible met log :=
  fun _ same => nomatch same

theorem Records.bind (records : program.Records possible (fun log value => (next value).Records possible met log) log) :
    (program >>= next).Records possible met log := by
  refine Along.bind (records.imp fun log result returned => ?_)
  cases result with
  | ok value => exact returned value rfl
  | error err => exact fun _ same => nomatch same

theorem records_of_forall {program : Prog Reply Err β} (all : ∀ log value, met log value) :
    program.Records possible met log := by
  induction program generalizing log with
  | ret value => exact records_ret (all log value)
  | raise err => exact records_raise
  | call c rest ih => exact ⟨trivial, fun answer _ => ih answer⟩

/-- The rule of `except` that raises another exception. -/
theorem Records.reraised {program : Prog Reply Err β} {failure : Err → Err} (records : program.Records possible met log) :
    (program.handling fun err => .raise (failure err)).Records possible met log := by
  refine Along.handling (records.imp fun log result returned => ?_)
  cases result with
  | ok value => exact returned
  | error err => exact records_raise

/-- A call, then what its answer leads to. -/
theorem records_ask {c : Call} {next : Reply c → Prog Reply Err β}
    (answered : ∀ reply, possible log c (.ok reply) → (next reply).Records possible met (log ++ [⟨c, reply⟩])) :
    ((perform c : Prog Reply Err (Reply c)) >>= next).Records possible met log := by
  refine Records.bind ⟨trivial, fun answer arises => ?_⟩
  cases answer with
  | ok reply => exact records_ret (answered reply arises)
  | error err => exact records_raise

/-- A pure computation, then what its value leads to. -/
theorem records_compute {result : Except Err α}
    (answered : ∀ value, result = .ok value → (next value).Records possible met log) :
    ((ofExcept result : Prog Reply Err α) >>= next).Records possible met log := by
  cases result with
  | ok value => exact answered value rfl
  | error err => exact fun _ same => nomatch same

/-- What a program leaves on record are calls of its kind. -/
theorem records_calls {p : Call → Prop} (calls : program.Calls p)
    (after : ∀ more value, (∀ entry ∈ more, p entry.1) → (next value).Records possible met (log ++ more)) :
    (program >>= next).Records possible met log := by
  have made : ∀ more, (∀ entry ∈ more, p entry.1) → program.Records possible
      (fun log' _ => ∃ more, log' = log ++ more ∧ ∀ entry ∈ more, p entry.1) (log ++ more) := by
    clear after
    induction program with
    | ret value => exact fun more kind => records_ret ⟨more, rfl, kind⟩
    | raise err => exact fun _ _ => records_raise
    | call c rest ih =>
        refine fun more kind => ⟨trivial, fun answer _ => ?_⟩
        cases answer with
        | error err => exact ih _ (calls.2 _) more kind
        | ok reply =>
            change ((rest (.ok reply)).Records possible _ (log ++ more ++ [⟨c, reply⟩]))
            rw [List.append_assoc]
            refine ih _ (calls.2 _) _ fun entry member => ?_
            rcases List.mem_append.mp member with old | new
            · exact kind entry old
            · exact List.mem_singleton.mp new ▸ calls.1
  have first := made [] fun _ member => nomatch member
  rw [List.append_nil] at first
  refine Records.bind (first.imp fun log' result returned value same => ?_)
  obtain ⟨more, rfl, kind⟩ := returned value same
  exact after more value kind

/-- What is left on record among a larger kind of calls. -/
theorem Records.rename {Call' : Type} {Reply' : Call' → Type} {f : Call → Call'} {g : ∀ c, Reply' (f c) → Reply c}
    {possible' : Log Reply' → (c : Call') → Except Err (Reply' c) → Prop} {met : Log Reply → α → Prop}
    {related : Log Reply → Log Reply' → Prop}
    (arises : ∀ log log' c answer, possible' log' (f c) answer → possible log c (answer.map (g c)))
    (extend : ∀ log log' c reply, related log log' → related (log ++ [⟨c, g c reply⟩]) (log' ++ [⟨f c, reply⟩]))
    (records : program.Records possible met log) {log' : Log Reply'} (same : related log log') :
    (program.rename f g).Records possible' (fun log' value => ∃ log, related log log' ∧ met log value) log' := by
  induction program generalizing log log' with
  | ret value => exact records_ret ⟨log, same, records value rfl⟩
  | raise err => exact records_raise
  | call c rest ih =>
      refine ⟨trivial, fun answer possible => ?_⟩
      have along := records.2 _ (arises log log' c answer possible)
      cases answer with
      | ok reply => exact ih _ along (extend log log' c reply same)
      | error err => exact ih _ along same

end Records

end Prog

variable {B : Backend Reply Err World Session Fate Env} {start : Req → Prog Reply Err α} {dead : Err}
  {s₀ s : Sys Reply Req World Session (Prog Reply Err α)}

/-- The thread's calls have been good and will be, unless it died. -/
structure Thread.Along (possible : Log Reply → (c : Call) → Except Err (Reply c) → Prop)
    (good : Log Reply → Call → Prop) (post : Log Reply → Except Err α → Prop) (tracks : Session → Log Reply → Prop)
    (dead : Err) (t : Thread Reply Req Session (Prog Reply Err α)) : Prop where
  ahead : t.ctl.Along possible good post t.log ∧ tracks t.session t.log ∨ t.ctl = .raise dead
  behind : ∀ before entry after, t.log = before ++ entry :: after → good before entry.1

variable {possible : Log Reply → (c : Call) → Except Err (Reply c) → Prop} {good : Log Reply → Call → Prop}
  {post : Log Reply → Except Err α → Prop} {tracks : Session → Log Reply → Prop}

namespace Thread.Along

variable {t : Thread Reply Req Session (Prog Reply Err α)}

/-- The call a thread makes next is good. -/
theorem coming (along : t.Along possible good post tracks dead) {c : Call}
    {rest : Except Err (Reply c) → Prog Reply Err α} (next : t.ctl.next = some ⟨c, rest⟩) : good t.log c := by
  rcases along.ahead with ⟨ahead, -⟩ | died
  · rw [Prog.next_eq_some next] at ahead
    exact ahead.1
  · rw [died] at next
    cases next

theorem answered (along : t.Along possible good post tracks dead) {c : Call}
    {rest : Except Err (Reply c) → Prog Reply Err α} (next : t.ctl.next = some ⟨c, rest⟩)
    {answer : Except Err (Reply c)} {session : Session}
    (arises : tracks t.session t.log → possible t.log c answer ∧ tracks session (Log.after t.log c answer)) :
    (t.answered c rest answer session).Along possible good post tracks dead := by
  constructor
  · rcases along.ahead with ⟨ahead, tracked⟩ | died
    · rw [Prog.next_eq_some next] at ahead
      exact .inl ⟨ahead.2 answer (arises tracked).1, (arises tracked).2⟩
    · rw [died] at next
      cases next
  · intro before entry after split
    cases answer with
    | error err => exact along.behind before entry after split
    | ok value =>
        rcases List.eq_nil_or_concat after with rfl | ⟨after, last, rfl⟩
        · obtain ⟨rfl, rfl⟩ := List.append_singleton_inj.mp split
          exact along.coming next
        · rw [List.concat_eq_append, ← List.cons_append, ← List.append_assoc] at split
          exact along.behind before entry after (List.append_inj_left' split rfl)

end Thread.Along

/-- What the programs do along their paths, every thread that has arrived does. -/
theorem along_since (post : Req → Log Reply → Except Err α → Prop)
    (arises : ∀ {world session log c fate answer world' session'}, tracks session log →
      B.handle world session c fate = some (answer, world', session') →
        possible log c answer ∧ tracks session' (Log.after log c answer))
    (fresh : tracks B.fresh []) (along : ∀ req, (start req).Along possible good (post req) []) {ok}
    (run : Run B (programs start dead) ok s₀ s) (i : ℕ) (t : Thread Reply Req Session (Prog Reply Err α))
    (at_i : s.threads[i]? = some t) (arrived : s₀.threads.length ≤ i) : t.Along possible good (post t.req) tracks dead := by
  induction run generalizing i t with
  | refl => exact absurd (List.getElem?_eq_some_iff.mp at_i).1 (Nat.not_lt.mpr arrived)
  | @tail s s' choice _ _ stepped ih =>
      refine threads_step_at (T := fun i t => s₀.threads.length ≤ i → t.Along possible good (post t.req) tracks dead)
        stepped ih ?start ?died ?moved i t at_i arrived
      case start =>
        exact fun req _ _ => ⟨.inl ⟨along req, fresh⟩, fun before entry after split => by simp at split⟩
      case died => exact fun j u _ at_j _ late => ⟨.inr rfl, (ih j u at_j late).behind⟩
      case moved =>
        intro j fate u c rest answer session _ at_j next handled late
        exact (ih j u at_j late).answered next fun tracked => arises tracked handled

/-- What the programs do along their paths, every thread of a run does. -/
theorem along_run (arises : ∀ {world session log c fate answer world' session'}, tracks session log →
      B.handle world session c fate = some (answer, world', session') →
        possible log c answer ∧ tracks session' (Log.after log c answer))
    (fresh : tracks B.fresh []) (along : ∀ req, (start req).Along possible good post []) {ok}
    (run : Run B (programs start dead) ok s₀ s) (empty : s₀.threads = []) :
    ∀ t ∈ s.threads, t.Along possible good post tracks dead := by
  intro t member
  obtain ⟨i, at_i⟩ := List.getElem?_of_mem member
  exact along_since (fun _ => post) arises fresh along run i t at_i (by simp [empty])

/-- What a thread that has returned has on record. -/
theorem returned_records {met : Req → Log Reply → α → Prop}
    (arises : ∀ {world session c fate answer world' session'},
      B.handle world session c fate = some (answer, world', session') → ∀ log, possible log c answer)
    (records : ∀ req, (start req).Records possible (met req) []) {ok} (run : Run B (programs start dead) ok s₀ s) {i : ℕ}
    {t : Thread Reply Req Session (Prog Reply Err α)} (at_i : s.threads[i]? = some t) (arrived : s₀.threads.length ≤ i)
    {value : α} (returned : t.ctl = .ret value) : met t.req t.log value := by
  have along : t.Along possible (fun _ _ => True)
      (fun log result => ∀ value, result = .ok value → met t.req log value) (fun _ _ => True) dead :=
    along_since (fun req log result => ∀ value, result = .ok value → met req log value)
      (fun _ handled => ⟨arises handled _, trivial⟩) trivial records run i t at_i arrived
  rcases along.ahead with ⟨ahead, -⟩ | died
  · rw [returned] at ahead
    exact ahead value rfl
  · cases returned.symm.trans died

end Interleaving
