import Underwriting.Lib.Calls
import Underwriting.Lib.Interpret

/-! # What a request sees of a moving world

Between the calls of a request the world moves on. A condition on the outcome may
speak of the worlds right after the calls, in their order; it holds in every run of
states between the arrival of the request and its answer.
-/

namespace Interleaving

variable {Call : Type} {Reply : Call → Type} {Err Req World Session Fate Env K α β : Type}

namespace Prog

/-- However the world moves on before each call, the outcome meets `post`, which is
    told the worlds so far, the current one and the session. -/
def Watches (B : Backend Reply Err World Session Fate Env) (later : World → World → Prop)
    (post : List World → World → Session → Except Err α → Prop) :
    Prog Reply Err α → List World → World → Session → Prop
  | .ret value, past, world, session => post past world session (.ok value)
  | .raise err, past, world, session => post past world session (.error err)
  | .call c rest, past, world, session => ∀ world₁, later world world₁ → ∀ fate answer world₂ session',
      B.handle world₁ session c fate = some (answer, world₂, session') →
        (rest answer).Watches B later post (past ++ [world]) world₂ session'

variable {B : Backend Reply Err World Session Fate Env} {later : World → World → Prop}
  {post : List World → World → Session → Except Err α → Prop} {program : Prog Reply Err α} {past : List World}
  {world : World} {session : Session}

theorem Watches.imp {post' : List World → World → Session → Except Err α → Prop}
    (watches : program.Watches B later post past world session)
    (weaker : ∀ past world session result, post past world session result → post' past world session result) :
    program.Watches B later post' past world session := by
  induction program generalizing past world session with
  | ret | raise => exact weaker _ _ _ _ watches
  | call c rest ih =>
      exact fun world₁ moved fate answer world₂ session' handled =>
        ih answer (watches world₁ moved fate answer world₂ session' handled)

/-- A condition that holds whatever is seen. -/
theorem watches_of_forall (all : ∀ past world session result, post past world session result) :
    program.Watches B later post past world session := by
  induction program generalizing past world session with
  | ret | raise => exact all _ _ _ _
  | call c rest ih => exact fun _ _ _ answer _ _ _ => ih answer

/-- The rule of sequencing: an exception skips what comes after. -/
theorem Watches.bind {post : List World → World → Session → Except Err β → Prop} {next : α → Prog Reply Err β}
    (watches : program.Watches B later
      (fun past world session result => match result with
        | .ok value => (next value).Watches B later post past world session
        | .error err => post past world session (.error err)) past world session) :
    (program >>= next).Watches B later post past world session := by
  induction program generalizing past world session with
  | ret | raise => exact watches
  | call c rest ih =>
      exact fun world₁ moved fate answer world₂ session' handled =>
        ih answer (watches world₁ moved fate answer world₂ session' handled)

/-- The rule of `except`: only exceptions reach the handler. -/
theorem Watches.handling {handler : Err → Prog Reply Err α}
    (watches : program.Watches B later
      (fun past world session result => match result with
        | .ok value => post past world session (.ok value)
        | .error err => (handler err).Watches B later post past world session) past world session) :
    (program.handling handler).Watches B later post past world session := by
  induction program generalizing past world session with
  | ret | raise => exact watches
  | call c rest ih =>
      exact fun world₁ moved fate answer world₂ session' handled =>
        ih answer (watches world₁ moved fate answer world₂ session' handled)

theorem watches_ofExcept {result : Except Err α} (met : post past world session result) :
    (ofExcept result : Prog Reply Err α).Watches B later post past world session := by
  cases result <;> exact met

/-- A call, then what its answer leads to. -/
theorem watches_ask {c : Call} {post : List World → World → Session → Except Err β → Prop}
    {next : Reply c → Prog Reply Err β}
    (answered : ∀ world₁, later world world₁ → ∀ fate reply world₂ session',
      B.handle world₁ session c fate = some (.ok reply, world₂, session') →
        (next reply).Watches B later post (past ++ [world]) world₂ session')
    (failed : ∀ world₁, later world world₁ → ∀ fate err world₂ session',
      B.handle world₁ session c fate = some (.error err, world₂, session') →
        post (past ++ [world]) world₂ session' (.error err)) :
    ((perform c : Prog Reply Err (Reply c)) >>= next).Watches B later post past world session := by
  intro world₁ moved fate answer world₂ session' handled
  cases answer with
  | ok reply => exact answered world₁ moved fate reply world₂ session' handled
  | error err => exact failed world₁ moved fate err world₂ session' handled

/-! ### Values only -/

/-- A condition on a value that is returned; an exception may be any. -/
def OnOk (good : List World → World → Session → α → Prop) (past : List World) (world : World) (session : Session) :
    Except Err α → Prop
  | .ok value => good past world session value
  | .error _ => True

section Values

variable {good : List World → World → Session → β → Prop}

theorem Watches.bind_ok {next : α → Prog Reply Err β}
    (watches : program.Watches B later
      (OnOk fun past world session value => (next value).Watches B later (OnOk good) past world session)
      past world session) :
    (program >>= next).Watches B later (OnOk good) past world session := by
  refine Watches.bind (watches.imp fun past world session result met => ?_)
  cases result with
  | ok value => exact met
  | error err => trivial

/-- An exception that is raised again, as whatever. -/
theorem Watches.reraised {good : List World → World → Session → α → Prop} {failure : Err → Err}
    (watches : program.Watches B later (OnOk good) past world session) :
    (program.handling fun err => .raise (failure err)).Watches B later (OnOk good) past world session := by
  refine Watches.handling (watches.imp fun past world session result met => ?_)
  cases result with
  | ok value => exact met
  | error err => trivial

theorem watches_then {c : Call} {next : Reply c → Prog Reply Err β}
    (answered : ∀ world₁, later world world₁ → ∀ fate reply world₂ session',
      B.handle world₁ session c fate = some (.ok reply, world₂, session') →
        (next reply).Watches B later (OnOk good) (past ++ [world]) world₂ session') :
    ((perform c : Prog Reply Err (Reply c)) >>= next).Watches B later (OnOk good) past world session :=
  watches_ask answered fun _ _ _ _ _ _ _ => trivial

/-- Calls that keep the session: only time passes. -/
theorem watches_still {still : Call → Prop} (calls : program.Calls still)
    (refl : ∀ world, later world world) (trans : ∀ {w w' w''}, later w w' → later w' w'' → later w w'')
    (keeps : ∀ {c world session fate answer world' session'}, still c →
      B.handle world session c fate = some (answer, world', session') → later world world' ∧ session' = session) :
    program.Watches B later (OnOk fun past' world' session' _ =>
      past ++ [world] <+: past' ++ [world'] ∧ later world world' ∧ session' = session) past world session := by
  induction program generalizing past world with
  | ret value => exact ⟨List.prefix_refl _, refl _, rfl⟩
  | raise err => trivial
  | call c rest ih =>
      intro world₁ later₁ fate answer world₂ session' handled
      obtain ⟨later₂, rfl⟩ := keeps calls.1 handled
      refine (ih answer (calls.2 answer)).imp fun past' world' _ result met => ?_
      cases result with
      | error err => trivial
      | ok value =>
          obtain ⟨seen, later₃, same⟩ := met
          exact ⟨(List.prefix_append _ _).trans seen, trans (trans later₁ later₂) later₃, same⟩

end Values

/-- A program raises what it and its calls can raise; what was seen before it stays seen. -/
theorem watches_raises {q : Err → Prop} (raises : program.Raises q)
    (calls : ∀ {world session c fate err world' session'},
      B.handle world session c fate = some (.error err, world', session') → q err) :
    program.Watches B later (fun past' world' _ result =>
      past ++ [world] <+: past' ++ [world'] ∧ ∀ err, result = .error err → q err) past world session := by
  induction program generalizing past world session with
  | ret value => exact ⟨List.prefix_refl _, fun _ same => by cases same⟩
  | raise err =>
      refine ⟨List.prefix_refl _, fun _ same => ?_⟩
      cases same
      exact raises
  | call c rest ih =>
      intro world₁ moved fate answer world₂ session' handled
      have fine : ∀ err, answer = .error err → q err := by
        rintro err rfl
        exact calls handled
      refine (ih answer (raises answer fine)).imp fun past' world' _ result met => ?_
      exact ⟨(List.prefix_append _ _).trans met.1, met.2⟩

/-- A program watches what its translation to a larger kind of calls watches. -/
theorem Watches.rename {Call' : Type} {Reply' : Call' → Type} {B' : Backend Reply' Err World Session Fate Env}
    {f : Call → Call'} {g : ∀ c, Reply' (f c) → Reply c}
    (serves : ∀ {w session c fate answer w' session'}, B'.handle w session (f c) fate = some (answer, w', session') →
      B.handle w session c fate = some (answer.map (g c), w', session'))
    (watches : program.Watches B later post past world session) :
    (program.rename f g).Watches B' later post past world session := by
  induction program generalizing past world session with
  | ret | raise => exact watches
  | call c rest ih =>
      exact fun world₁ moved fate answer world₂ session' handled =>
        ih _ (watches world₁ moved fate _ world₂ session' (serves handled))

/-- The same with the exceptions translated too. -/
theorem Watches.translate {Call' : Type} {Reply' : Call' → Type} {Err' Fate' : Type}
    {B' : Backend Reply' Err' World Session Fate' Env} {f : Call → Call'} {g : ∀ c, Reply' (f c) → Reply c}
    {up : Err → Err'} {down : Err' → Err} {post : List World → World → Session → Except Err' α → Prop}
    (serves : ∀ {w session c fate answer w' session'}, B'.handle w session (f c) fate = some (answer, w', session') →
      ∃ fate, B.handle w session c fate = some ((answer.map (g c)).mapError down, w', session'))
    (watches : program.Watches B later (fun past world session result => post past world session (result.mapError up))
      past world session) :
    (program.translate f g up down).Watches B' later post past world session := by
  induction program generalizing past world session with
  | ret | raise => exact watches
  | call c rest ih =>
      intro world₁ moved fate answer world₂ session' handled
      obtain ⟨fate', handled'⟩ := serves handled
      exact ih _ (watches world₁ moved fate' _ world₂ session' handled')

/-- Time passes while a program runs. -/
theorem Watches.since (refl : ∀ world, later world world)
    (trans : ∀ {w w' w''}, later w w' → later w' w'' → later w w'')
    (moves : ∀ {w session c fate answer w' session'}, B.handle w session c fate = some (answer, w', session') → later w w')
    (watches : program.Watches B later post past world session) :
    program.Watches B later (fun past' world' session' result =>
      post past' world' session' result ∧ later world world') past world session := by
  induction program generalizing past world session with
  | ret | raise => exact ⟨watches, refl _⟩
  | call c rest ih =>
      intro world₁ moved fate answer world₂ session' handled
      refine (ih answer (watches world₁ moved fate answer world₂ session' handled)).imp fun past' world' _ result met => ?_
      exact ⟨met.1, trans moved (trans (moves handled) met.2)⟩

end Prog

/-- These worlds are seen one after the other between two states. -/
inductive Moments (B : Backend Reply Err World Session Fate Env) (C : Control Reply Err Req K) :
    Sys Reply Req World Session K → List World → Sys Reply Req World Session K → Prop where
  | nil {s s'} (run : Run B C anyStep s s') : Moments B C s [] s'
  | cons {s s₁ s' worlds} (run : Run B C anyStep s s₁) (rest : Moments B C s₁ worlds s') :
      Moments B C s (s₁.world :: worlds) s'

namespace Moments

variable {B : Backend Reply Err World Session Fate Env} {C : Control Reply Err Req K} {worlds part : List World}
  {s₀ s s' : Sys Reply Req World Session K}

theorem before (moments : Moments B C s worlds s') (run : Run B C anyStep s₀ s) : Moments B C s₀ worlds s' := by
  cases moments with
  | nil rest => exact .nil (run.trans rest)
  | cons first rest => exact .cons (run.trans first) rest

theorem after (moments : Moments B C s₀ worlds s) (run : Run B C anyStep s s') : Moments B C s₀ worlds s' := by
  induction moments with
  | nil first => exact .nil (first.trans run)
  | cons first rest ih => exact .cons first (ih run)

/-- The last state is a moment too. -/
theorem snoc (moments : Moments B C s₀ worlds s) : Moments B C s₀ (worlds ++ [s.world]) s := by
  induction moments with
  | nil run => exact .cons run (.nil .refl)
  | cons first rest ih => exact .cons first ih

theorem run (moments : Moments B C s₀ worlds s) : Run B C anyStep s₀ s := by
  induction moments with
  | nil run => exact run
  | cons first rest ih => exact first.trans ih

/-- Each of them is that of a state between. -/
theorem mem (moments : Moments B C s₀ worlds s) {world : World} (member : world ∈ worlds) :
    ∃ s₁, s₁.world = world ∧ Run B C anyStep s₀ s₁ ∧ Run B C anyStep s₁ s := by
  induction moments with
  | nil => cases member
  | cons first rest ih =>
      rcases List.mem_cons.mp member with rfl | later
      · exact ⟨_, rfl, first, rest.run⟩
      · obtain ⟨s₁, same, before, after⟩ := ih later
        exact ⟨s₁, same, first.trans before, after⟩

/-- Some of the moments, in their order. -/
theorem sublist (moments : Moments B C s₀ worlds s) (some : part.Sublist worlds) : Moments B C s₀ part s := by
  induction some generalizing s₀ with
  | slnil => exact moments
  | cons world _ ih =>
      cases moments with
      | cons first rest => exact (ih rest).before first
  | cons_cons world _ ih =>
      cases moments with
      | cons first rest => exact .cons first (ih rest)

end Moments

/-- The worlds at some moments of a run, the last moment being a state of its own. -/
inductive Visits (B : Backend Reply Err World Session Fate Env) (C : Control Reply Err Req K)
    (s₀ : Sys Reply Req World Session K) : List World → Sys Reply Req World Session K → Prop where
  | first {s} (run : Run B C anyStep s₀ s) : Visits B C s₀ [] s
  | next {past s s'} (visits : Visits B C s₀ past s) (run : Run B C anyStep s s') : Visits B C s₀ (past ++ [s.world]) s'

theorem Visits.run {B : Backend Reply Err World Session Fate Env} {C : Control Reply Err Req K} {past : List World}
    {s₀ s : Sys Reply Req World Session K} (visits : Visits B C s₀ past s) : Run B C anyStep s₀ s := by
  induction visits with
  | first run => exact run
  | next _ run ih => exact ih.trans run

theorem Visits.moments {B : Backend Reply Err World Session Fate Env} {C : Control Reply Err Req K} {past : List World}
    {s₀ s : Sys Reply Req World Session K} (visits : Visits B C s₀ past s) :
    Moments B C s₀ (past ++ [s.world]) s := by
  induction visits with
  | first run => exact .cons run (.nil .refl)
  | next _ run ih => exact (ih.after run).snoc

/-- The world seen last but one was that of a state before. -/
theorem Visits.before {B : Backend Reply Err World Session Fate Env} {C : Control Reply Err Req K} {front : List World}
    {world : World} {s₀ s : Sys Reply Req World Session K} (visits : Visits B C s₀ (front ++ [world]) s) :
    ∃ s', s'.world = world ∧ Run B C anyStep s₀ s' ∧ Run B C anyStep s' s := by
  generalize same : front ++ [world] = past at visits
  cases visits with
  | first run => exact absurd same (by simp)
  | next visits run =>
      obtain ⟨-, last⟩ := List.append_inj' same rfl
      exact ⟨_, (List.cons.inj last).1.symm, visits.run, run⟩

variable {B : Backend Reply Err World Session Fate Env} {start : Req → Prog Reply Err α} {dead : Err}
  {s₀ s s' : Sys Reply Req World Session (Prog Reply Err α)} {later : World → World → Prop}
  {post : Req → List World → World → Session → Except Err α → Prop}

/-- What the thread has still to see from the last moment it saw, or that it died. -/
def Thread.Watching (later : World → World → Prop) (post : Req → List World → World → Session → Except Err α → Prop)
    (start : Req → Prog Reply Err α) (dead : Err) (B : Backend Reply Err World Session Fate Env)
    (s₀ s : Sys Reply Req World Session (Prog Reply Err α)) (t : Thread Reply Req Session (Prog Reply Err α)) : Prop :=
  t.ctl = .raise dead ∨ ∃ past s₁, Visits B (programs start dead) s₀ past s₁ ∧ Run B (programs start dead) anyStep s₁ s ∧
    t.ctl.Watches B later (post t.req) past s₁.world t.session

/-- A request that arrives after `s₀` sees worlds of the states since, in their order. -/
theorem watches_run (refl : ∀ world, later world world) (trans : ∀ {w w' w''}, later w w' → later w' w'' → later w w'')
    (steps : ∀ {s s' : Sys Reply Req World Session (Prog Reply Err α)} {choice},
      step B (programs start dead) s choice = some s' → later s.world s'.world)
    (watches : ∀ req world, (start req).Watches B later (post req) [] world B.fresh)
    (run : Run B (programs start dead) anyStep s₀ s) :
    ∀ (i : ℕ) (t : Thread Reply Req Session _), s.threads[i]? = some t → s₀.threads.length ≤ i →
      t.Watching later post start dead B s₀ s := by
  have moves : ∀ {s s' : Sys Reply Req World Session (Prog Reply Err α)},
      Run B (programs start dead) anyStep s s' → later s.world s'.world := by
    intro s s' run
    induction run with
    | refl => exact refl _
    | tail _ _ stepped ih => exact trans ih (steps stepped)
  induction run with
  | refl =>
      intro i t at_i after
      exact absurd (List.getElem?_eq_some_iff.mp at_i).1 (Nat.not_lt.mpr after)
  | @tail s s' choice before allowed stepped ih =>
      have carried : ∀ i t, s.threads[i]? = some t → s₀.threads.length ≤ i → t.Watching later post start dead B s₀ s' := by
        intro i t at_i after
        rcases ih i t at_i after with died | ⟨past, s₁, visits, since, watching⟩
        · exact .inl died
        · exact .inr ⟨past, s₁, visits, since.tail allowed stepped, watching⟩
      apply threads_step_at stepped carried
      · rintro req rfl -
        exact .inr ⟨[], s', .first (before.tail allowed stepped), .refl, watches req _⟩
      · exact fun i t _ _ _ _ => .inl rfl
      · rintro i fate t c rest answer session rfl at_i next handled after
        rcases ih i t at_i after with died | ⟨past, s₁, visits, since, watching⟩
        · rw [died] at next
          cases next
        · rw [Prog.next_eq_some next] at watching
          have seen := watching s.world (moves since) fate answer s'.world session handled
          exact .inr ⟨_, s', .next visits (since.tail allowed stepped), .refl, seen⟩

/-- What a request that has ended has seen, unless it died. -/
theorem watched {t : Thread Reply Req Session (Prog Reply Err α)} (watching : t.Watching later post start dead B s₀ s)
    {result : Except Err α} (ended : t.ctl.outcome? = some result) :
    result = .error dead ∨ ∃ past s₁, Visits B (programs start dead) s₀ past s₁ ∧
      Run B (programs start dead) anyStep s₁ s ∧ post t.req past s₁.world t.session result := by
  rcases watching with died | ⟨past, s₁, visits, since, watching⟩
  · rw [died] at ended
    exact .inl (Option.some.inj ended).symm
  · refine .inr ⟨past, s₁, visits, since, ?_⟩
    cases control : t.ctl with
    | ret value =>
        rw [control] at ended watching
        cases ended
        exact watching
    | raise err =>
        rw [control] at ended watching
        cases ended
        exact watching
    | call c rest =>
        rw [control] at ended
        cases ended

end Interleaving
