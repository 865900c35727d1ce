import Mathlib.Algebra.GroupWithZero.Nat
import Underwriting.Bind.Publisher
import Underwriting.Lib.History
import Underwriting.Machine.Policies
import Underwriting.Machine.Scenario

/-! # What `event_published` tells

A bind stores whether its publisher returned. The publisher takes an attempt that
has delivered and then fails, which its drain may, for one that has not, and repeats
it or raises. So the flag tells how many copies the server has exactly for attempts
none of which delivers and fails.
-/

namespace Underwriting.Published

open Interleaving

section Definitions

variable {φ υ : Type}

/-- The copies that a choice sends to the server on behalf of thread `i`. -/
def copiesOf (i : ℕ) : Choice Request (Fate φ) (Env υ) → ℕ
  | .run j (.publish copies _) => if j = i then copies else 0
  | _ => 0

/-- The copies that thread `i` has sent by some choices. -/
def copiesBy (i : ℕ) (choices : List (Choice Request (Fate φ) (Env υ))) : ℕ := (choices.map (copiesOf i)).sum

/-- Thread `i` has published, all it has sent was sent by that call, and the flag tells
    whether the call returned. -/
def Sent (i : ℕ) (choices : List (Choice Request (Fate φ) (Env υ))) (flag : Bool) : Prop :=
  ∃ copies raised, .run i (.publish copies raised) ∈ choices ∧ copiesBy i choices = copies ∧ flag = !raised

end Definitions

variable {σ φ υ : Type} {P : PasModel σ φ υ} {s s' : PointSys σ} {choice : Choice Request (Fate φ) (Env υ)}
  {choices : List (Choice Request (Fate φ) (Env υ))} {i : ℕ}

theorem copiesBy_snoc (i : ℕ) (choices : List (Choice Request (Fate φ) (Env υ))) (choice) :
    copiesBy i (choices ++ [choice]) = copiesBy i choices + copiesOf i choice := by
  simp [copiesBy]

theorem Sent.snoc {flag : Bool} (sent : Sent i choices flag) (quiet : copiesOf i choice = 0) :
    Sent i (choices ++ [choice]) flag := by
  obtain ⟨copies, raised, made, counted, same⟩ := sent
  refine ⟨copies, raised, List.mem_append_left _ made, ?_, same⟩
  rw [copiesBy_snoc, quiet, counted, Nat.add_zero]

/-! ## Points of a bind -/

/-- The flag that a bind has got from its publisher. -/
def flag : Phase → Option Bool
  | .bindInsert _ _ _ published | .bindAudit _ _ _ published _ | .bindCommit _ _ _ published _ _ => some published
  | _ => none

section Points

variable {ph : Phase} {c : Call} {rest : Except PyErr (Reply c) → Phase}

/-- A bind gets its flag from the answer to its publish and keeps it. -/
theorem flag_next (leads : Phase.Leads ph c answer ph') {published : Bool} (carries : flag ph' = some published) :
    flag ph = some published ∨ c.kind = .publish ∧ published = answer.toBool := by
  cases leads with
  | bindPublish =>
      cases carries
      exact .inr ⟨rfl, rfl⟩
  | ended | bindCommit => cases carries
  | _ => exact .inl carries

/-- Before its publish a bind has no flag, and after it only until its commit. -/
theorem unsent_next (leads : Phase.Leads ph c answer ph') (without : flag ph' = none) (continues : ¬ph'.Closed) :
    flag ph = none ∧ ¬ph.Closed ∧ c.kind ≠ .publish := by
  cases leads with
  | ended | createCommit | assessCommit | quoteCommit | bindCommit => exact absurd trivial continues
  | bindPublish | bindInsert | bindAudit => cases without
  | _ => exact ⟨rfl, id, fun same => nomatch same⟩

/-- The row of a bind has the flag. -/
theorem flag_inserts {new : NewBinding} {rest} (found : ph.next = some ⟨.addBinding new, rest⟩) :
    flag ph = some new.eventPublished := by
  cases ph
  case bindInsert =>
    cases found
    rfl
  all_goals
    have call := congrArg (Option.map Sigma.fst) found
    simp [Phase.next, Phase.calling] at call

end Points

/-! ## The copies of each thread -/

/-- What a thread has sent agrees with the flag it carries and with the rows it has
    inserted; a bind that has not published yet has sent and inserted nothing. -/
structure Accounted (i : ℕ) (choices : List (Choice Request (Fate φ) (Env υ))) (t : PointThread) : Prop where
  rows : ∀ new (row : Binding), ⟨.addBinding new, row⟩ ∈ t.log → Sent i choices row.eventPublished
  flag : ∀ published, flag t.ctl = some published → Sent i choices published
  unsent : Published.flag t.ctl = none → ¬t.ctl.Closed →
    copiesBy i choices = 0 ∧ ∀ new (row : Binding), ⟨.addBinding new, row⟩ ∉ t.log

/-- The other threads' calls leave a thread's account as it is. -/
theorem Accounted.snoc {t : PointThread} (accounted : Accounted i choices t) (quiet : copiesOf i choice = 0) :
    Accounted i (choices ++ [choice]) t := by
  constructor
  · exact fun new row member => (accounted.rows new row member).snoc quiet
  · exact fun published carries => (accounted.flag published carries).snoc quiet
  · intro without continues
    obtain ⟨none_sent, none_inserted⟩ := accounted.unsent without continues
    refine ⟨?_, none_inserted⟩
    rw [copiesBy_snoc, quiet, none_sent]

section Moved

variable {t : PointThread} {c : Call} {rest : Except PyErr (Reply c) → Phase} {fate : Fate φ}
  {answer : Except PyErr (Reply c)} {w w' : World σ} {pending session : Db}

/-- Only a publish sends copies, and its answer tells whether it raised. -/
theorem published_fate (handled : Handled P w pending c fate answer w' session) :
    (c.kind = .publish ∧ ∃ copies raised, fate = .publish copies raised ∧ answer.toBool = !raised) ∨
      c.kind ≠ .publish ∧ ∀ i, copiesOf i (.run i fate : Choice Request (Fate φ) (Env υ)) = 0 := by
  cases handled with
  | publish event copies raised =>
      left
      refine ⟨rfl, copies, raised, rfl, ?_⟩
      cases raised <;> rfl
  | lost remote => exact .inr ⟨fun same => remote (.inr same), fun _ => rfl⟩
  | read found => exact .inr ⟨fun same => (nomatch (Call.kind_of_query found).symm.trans same), fun _ => rfl⟩
  | insert inserted | refused inserted | unfit inserted =>
      exact .inr ⟨fun same => (nomatch (Call.kind_of_insertion inserted).symm.trans same), fun _ => rfl⟩
  | commit | conflict | now | pas => exact .inr ⟨fun same => (nomatch same), fun _ => rfl⟩

/-- The row of an insert is the one asked for. -/
theorem inserted_row {new : NewBinding} {row : Binding}
    (handled : Handled P w pending (.addBinding new) fate (.ok row) w' session) : row.toNewBinding = new := by
  obtain ⟨stamp, added, -, inserted, -⟩ := handled.inserted rfl rfl
  cases inserted
  rfl

theorem Accounted.publishes (accounted : Accounted i choices t) (next : t.ctl.next = some ⟨c, rest⟩)
    (kind : c.kind = .publish) {copies : ℕ} {raised : Bool} (told : answer.toBool = !raised) :
    Accounted i (choices ++ [.run i (.publish copies raised)]) (t.answered c rest answer session) := by
  obtain ⟨without, continues⟩ : Published.flag t.ctl = none ∧ ¬t.ctl.Closed := by
    cases c <;> cases kind
    obtain ⟨file, request, policy, point, -⟩ := Phase.publishes next
    rw [point]
    exact ⟨rfl, id⟩
  obtain ⟨none_sent, none_inserted⟩ := accounted.unsent without continues
  have sent : Sent i (choices ++ [.run i (.publish copies raised)]) answer.toBool := by
    refine ⟨copies, raised, List.mem_append_right _ (List.mem_singleton_self _), ?_, told⟩
    rw [copiesBy_snoc, none_sent, Nat.zero_add]
    exact if_pos rfl
  constructor
  · intro new row member
    rcases Thread.mem_log_answered member with old | ⟨value, -, same⟩
    · exact absurd old (none_inserted new row)
    · cases same
      cases kind
  · intro published carries
    rcases flag_next (Phase.leads_next next answer) carries with before | ⟨-, rfl⟩
    · cases without.symm.trans before
    · exact sent
  · intro later continues'
    exact absurd kind (unsent_next (Phase.leads_next next answer) later continues').2.2

theorem Accounted.passes (accounted : Accounted i choices t) (next : t.ctl.next = some ⟨c, rest⟩)
    (other : c.kind ≠ .publish) (quiet : copiesOf i choice = 0)
    (handled : Handled P w pending c fate answer w' session) :
    Accounted i (choices ++ [choice]) (t.answered c rest answer session) := by
  have accounted := accounted.snoc quiet
  constructor
  · intro new row member
    rcases Thread.mem_log_answered member with old | ⟨value, rfl, same⟩
    · exact accounted.rows new row old
    · cases same
      rw [← inserted_row handled] at next
      exact accounted.flag _ (flag_inserts next)
  · intro published carries
    rcases flag_next (Phase.leads_next next answer) carries with before | ⟨kind, -⟩
    · exact accounted.flag published before
    · exact absurd kind other
  · intro later continues
    obtain ⟨without, continues, -⟩ := unsent_next (Phase.leads_next next answer) later continues
    obtain ⟨none_sent, none_inserted⟩ := accounted.unsent without continues
    refine ⟨none_sent, fun new row member => ?_⟩
    rcases Thread.mem_log_answered member with old | ⟨value, -, same⟩
    · exact none_inserted new row old
    · cases same
      cases without.symm.trans (flag_inserts next)

/-- The thread that moves keeps its account. -/
theorem Accounted.answered (accounted : Accounted i choices t) (next : t.ctl.next = some ⟨c, rest⟩)
    (handled : Handled P w pending c fate answer w' session) :
    Accounted i (choices ++ [.run i fate]) (t.answered c rest answer session) := by
  rcases published_fate (υ := υ) handled with ⟨kind, copies, raised, rfl, told⟩ | ⟨other, quiet⟩
  · exact accounted.publishes next kind told
  · exact accounted.passes next other (quiet i) handled

end Moved

/-- The accounts of all threads; a thread that has not begun has sent nothing. -/
structure Books (choices : List (Choice Request (Fate φ) (Env υ))) (s : PointSys σ) : Prop where
  unborn : ∀ i, s.threads.length ≤ i → copiesBy i choices = 0
  accounts : ∀ i t, s.threads[i]? = some t → Accounted i choices t

theorem Accounted.died {t : PointThread} (accounted : Accounted i choices t) :
    Accounted i choices (t.died points.dead .empty) :=
  ⟨accounted.rows, fun _ carries => (nomatch carries), fun _ continues => absurd trivial continues⟩

theorem Accounted.start (req : Request) (unborn : copiesBy i choices = 0) :
    Accounted i choices ⟨req, points.start req, .empty, []⟩ := by
  refine ⟨fun _ _ member => (nomatch member), ?_, fun _ _ => ⟨unborn, fun _ _ member => nomatch member⟩⟩
  intro published carries
  cases req <;> cases carries

/-- Only the thread that moves sends copies, and it has begun. -/
theorem Books.step (books : Books choices s) (stepped : step (backend P) points s choice = some s') :
    Books (choices ++ [choice]) s' := by
  have quiet : ∀ {i}, copiesOf i choice = 0 → copiesBy i (choices ++ [choice]) = copiesBy i choices := by
    intro i none
    rw [copiesBy_snoc, none, Nat.add_zero]
  cases step_cases stepped with
  | start req =>
      constructor
      · intro i beyond
        rw [List.length_append] at beyond
        rw [quiet rfl, books.unborn i (by omega)]
      · intro i t at_i
        rcases at_snoc at_i with old | ⟨rfl, rfl⟩
        · exact (books.accounts i t old).snoc rfl
        · exact .start req ((quiet rfl).trans (books.unborn _ (Nat.le_refl _)))
  | env e =>
      refine ⟨fun i beyond => (quiet rfl).trans (books.unborn i beyond), fun i t at_i => ?_⟩
      exact (books.accounts i t at_i).snoc rfl
  | @crash j u at_j live =>
      constructor
      · intro i beyond
        rw [List.length_set] at beyond
        exact (quiet rfl).trans (books.unborn i beyond)
      · intro i t at_i
        rcases at_set at_i with ⟨rfl, rfl⟩ | ⟨-, at_i⟩
        · exact ((books.accounts j u at_j).snoc rfl).died
        · exact (books.accounts i t at_i).snoc rfl
  | @run j fate u c rest answer world session at_j next handled =>
      have others : ∀ {i}, j ≠ i → copiesOf i (.run j fate : Choice Request (Fate φ) (Env υ)) = 0 := by
        intro i other
        cases fate with
        | publish copies raised => exact if_neg other
        | _ => rfl
      have inside := (List.getElem?_eq_some_iff.mp at_j).1
      constructor
      · intro i beyond
        rw [List.length_set] at beyond
        exact (quiet (others (by omega))).trans (books.unborn i beyond)
      · intro i t at_i
        rcases at_set at_i with ⟨rfl, rfl⟩ | ⟨same, at_i⟩
        · exact (books.accounts j u at_j).answered next (handle_cases handled)
        · exact (books.accounts i t at_i).snoc (others same)

theorem books_path {w : World σ} (path : Path (backend P) points (idle w) choices s) : Books choices s := by
  induction path with
  | refl => exact ⟨fun _ _ => rfl, fun _ _ none => nomatch none⟩
  | tail _ stepped ih => exact ih.step stepped

/-- In every run, the row that a bind inserts has the flag of its one publish, and all
    copies that it has sent were sent by that. -/
theorem flag_sent {w : World σ} {s : ProgSys σ} (path : Path (backend P) requests (idle w) choices s) {i : ℕ}
    {t : Thread Reply Request Db (Program Answer)} (at_i : s.threads[i]? = some t) {new : NewBinding} {row : Binding}
    (inserted : ⟨.addBinding new, row⟩ ∈ t.log) : Sent i choices row.eventPublished := by
  obtain ⟨s, lifted, rfl⟩ := Path.lift routes (show Path _ _ ((idle w : PointSys σ).map routes.map) _ _ from path)
  obtain ⟨u, at_u, rfl⟩ := Sys.thread_of_map routes.map at_i
  exact ((books_path lifted).accounts i u at_u).rows new row inserted

/-! ## Telling the truth -/

/-- The publisher on some attempts, and the flag of a bind whose publish went so. -/
structure Truthful (P : PasModel σ φ υ) (publisher : NatsBoundRiskPublisher) (attempts : ℕ → Attempt) : Prop where
  returned : ∀ event, (publisher.outcome event attempts).1 = .ok () →
    (publisher.outcome event attempts).2.delivered = [event]
  raised : ∀ event err, (publisher.outcome event attempts).1 = .error err →
    (publisher.outcome event attempts).2.delivered = []
  stored : ∀ (w : World σ) choices s i t new (row : Binding), Path (backend P) requests (idle w) choices s →
    s.threads[i]? = some t → ⟨.addBinding new, row⟩ ∈ t.log →
    (∀ copies raised, .run i (.publish copies raised) ∈ choices →
      ∃ event, .publish copies raised = (publisher.fate event attempts : Fate φ)) →
    (row.eventPublished = true ↔ copiesBy i choices = 1) ∧ (row.eventPublished = false → copiesBy i choices = 0)

/-- The flag tells the truth exactly if none of the attempts that are made delivers the
    event and fails. -/
theorem event_published_truthful_iff (P : PasModel σ φ υ) (publisher : NatsBoundRiskPublisher)
    (attempts : ℕ → Attempt) :
    Truthful P publisher attempts ↔
      NatsBoundRiskPublisher.NoFailedDelivery attempts publisher.maxAttempts 0 := by
  constructor
  · intro truthful
    obtain ⟨extra, delivered, clean⟩ := publisher.outcome_eq ⟨"", "", "", 0, "", "", "", ""⟩ attempts
    rw [← clean]
    cases came : (publisher.outcome ⟨"", "", "", 0, "", "", "", ""⟩ attempts).1 with
    | ok _ =>
        have length := congrArg List.length (delivered.symm.trans (truthful.returned _ came))
        rw [came, List.length_replicate] at length
        exact Nat.succ.inj length
    | error err =>
        have length := congrArg List.length (delivered.symm.trans (truthful.raised _ err came))
        rw [came, List.length_replicate] at length
        exact length
  · intro clean
    refine ⟨fun event came => ?_, fun event err came => ?_, ?_⟩
    · obtain ⟨extra, delivered, exact_⟩ := publisher.outcome_eq event attempts
      rw [delivered, exact_.mpr clean, came]
      rfl
    · obtain ⟨extra, delivered, exact_⟩ := publisher.outcome_eq event attempts
      rw [delivered, exact_.mpr clean, came]
      rfl
    · intro w choices s i t new row path at_i inserted fates
      obtain ⟨copies, raised, made, counted, told⟩ := flag_sent path at_i inserted
      obtain ⟨event, same⟩ := fates copies raised made
      have honest : (Fate.publish copies raised : Fate φ).honest :=
        same ▸ (publisher.fate_honest event attempts).mpr clean
      obtain rfl : copies = if raised then 0 else 1 := by simpa only [Fate.honest, beq_iff_eq] using honest
      rw [counted, told]
      cases raised <;> simp

/-- The message is on the server, and the connection fails to drain. -/
def drainFails : Attempt where
  connect := .ok ()
  publish := .ok ()
  flush := .ok ()
  drain := .error (.nats "timeout")
  reached := true
  flushed _ _ := rfl

def fine : Attempt := { drainFails with drain := .ok () }

def publisher : NatsBoundRiskPublisher := .init "nats://localhost"

def event : BoundRiskEvent := ⟨"UW-1", "s", "q", 13000, "EUR", "COMM_PROP", "2026-01-01", "2027-01-01"⟩

/-- A bind whose publisher never gets a drain acknowledged. -/
def unacknowledged : Scenario.Script :=
  Scenario.quoted ++ [.start Scenario.bind] ++ Scenario.opening 3 30 ++
    Scenario.drive 3 [Scenario.served "p", Scenario.served "", Scenario.served "",
      publisher.fate event fun _ => drainFails] ++
    Scenario.recording 3 "b" 31 ++ Scenario.closing 3

/-- One failed drain, and two copies are delivered. Drains that all fail, and the
    publisher raises after three copies, so that the Binding has a false flag. -/
theorem drains_repeat :
    (publisher.outcome event fun k => if k = 0 then drainFails else fine) = (.ok (), ⟨2, [event, event]⟩) ∧
    (publisher.outcome event fun _ => drainFails) = (.error (.nats "timeout"), ⟨3, [event, event, event]⟩) ∧
    (∃ s, Path Scenario.service requests Scenario.empty unacknowledged s ∧
      s.world.db.bindings.map (·.eventPublished) = [false] ∧ copiesBy 3 unacknowledged = 3) ∧
    ¬Truthful (Lifecycle.model Lifecycle.byNumber) publisher fun _ => drainFails := by
  refine ⟨rfl, rfl, ?_, fun truthful => ?_⟩
  · obtain ⟨s, found, stored⟩ : ∃ s, exec Scenario.service requests anyStep Scenario.empty unacknowledged = some s ∧
        s.world.db.bindings.map (·.eventPublished) = [false] := by
      have passes : (exec Scenario.service requests anyStep Scenario.empty unacknowledged).any
          (fun s => s.world.db.bindings.map (·.eventPublished) == [false]) = true := by decide +kernel
      obtain ⟨s, found, stored⟩ := (Option.any_eq_true _ _).mp passes
      exact ⟨s, found, beq_iff_eq.mp stored⟩
    exact ⟨s, .of_exec found, stored, by decide +kernel⟩
  · cases truthful.raised event _ rfl

end Underwriting.Published
