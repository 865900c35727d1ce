import Mathlib.Data.Rat.Init
import Underwriting.Bind.Service

/-! # The NATS publisher

`NatsBoundRiskPublisher` of `app/bind/publisher.py`: connect, publish one message,
flush, and drain in a `finally`; the whole repeated until an attempt raises nothing
or the attempts are used up. The waits between attempts have no effect here.
-/

namespace Underwriting

open Interleaving (Prog)

inductive NatsError where
  | nats (reason : String)
  /-- `assert last_exc is not None` -/
  | assertion
  deriving DecidableEq, Repr

/-- The operations of a NATS connection. -/
inductive NatsCall where
  | connect (url : String) (connectTimeout : ℚ)
  | publish (subject : String) (event : BoundRiskEvent)
  | flush
  | drain

abbrev NatsReply (_ : NatsCall) : Type := Unit

abbrev NatsProgram := Prog NatsReply NatsError

def boundRiskSubject : String := "insurance.underwriting.bound-risk"

def publishMaxAttempts : ℤ := 3

structure NatsBoundRiskPublisher where
  natsUrl : String
  subject : String
  connectTimeoutSeconds : ℚ
  maxAttempts : ℕ
  attempted : 1 ≤ maxAttempts

namespace NatsBoundRiskPublisher

/-- `__init__`: at least one attempt. -/
def init (natsUrl : String) (subject : String := boundRiskSubject) (connectTimeoutSeconds : ℚ := 5)
    (maxAttempts : ℤ := publishMaxAttempts) : NatsBoundRiskPublisher where
  natsUrl
  subject
  connectTimeoutSeconds
  maxAttempts := (max 1 maxAttempts).toNat
  attempted := by omega

/-- `_publish` -/
def publishOnce (self : NatsBoundRiskPublisher) (event : BoundRiskEvent) : NatsProgram Unit := do
  Prog.perform (.connect self.natsUrl self.connectTimeoutSeconds)
  Prog.andFinally (do
      Prog.perform (.publish self.subject event)
      Prog.perform .flush)
    (Prog.perform .drain)

/-- The loop of `publish` with so many attempts left. -/
def publishLoop (self : NatsBoundRiskPublisher) (event : BoundRiskEvent) : ℕ → Option NatsError → NatsProgram Unit
  | 0, some lastExc => .raise lastExc
  | 0, none => .raise .assertion
  | left + 1, _ => (self.publishOnce event).handling fun exc => self.publishLoop event left (some exc)

def publish (self : NatsBoundRiskPublisher) (event : BoundRiskEvent) : NatsProgram Unit :=
  self.publishLoop event self.maxAttempts none

end NatsBoundRiskPublisher

/-! ## What the server gets -/

/-- How the operations of one attempt end, and whether its message reaches the server.
    One that was published and flushed has. -/
structure Attempt where
  connect : Except NatsError Unit
  publish : Except NatsError Unit
  flush : Except NatsError Unit
  drain : Except NatsError Unit
  reached : Bool
  flushed : publish = .ok () → flush = .ok () → reached = true

/-- The attempts made so far and the messages that have reached the server. -/
structure NatsServer where
  attempt : ℕ
  delivered : List BoundRiskEvent

/-- An operation of the current attempt; a refused connection and a drain end the attempt. -/
def NatsServer.serve (attempts : ℕ → Attempt) (server : NatsServer) :
    (c : NatsCall) → Except NatsError (NatsReply c) × NatsServer
  | .connect _ _ =>
      ((attempts server.attempt).connect,
        match (attempts server.attempt).connect with
        | .ok _ => server
        | .error _ => { server with attempt := server.attempt + 1 })
  | .publish _ event =>
      ((attempts server.attempt).publish,
        if (attempts server.attempt).reached then { server with delivered := server.delivered ++ [event] } else server)
  | .flush => ((attempts server.attempt).flush, server)
  | .drain => ((attempts server.attempt).drain, { server with attempt := server.attempt + 1 })

namespace Attempt

/-- What the attempt comes to: an exception of the drain hides one of the publish. -/
def result (a : Attempt) : Except NatsError Unit :=
  a.connect.bind fun _ => a.drain.bind fun _ => a.publish.bind fun _ => a.flush

def Succeeds (a : Attempt) : Prop := a.result = .ok ()

/-- The message is on the server. -/
def Delivers (a : Attempt) : Prop := a.connect = .ok () ∧ a.reached = true

instance (a : Attempt) : Decidable a.Succeeds := inferInstanceAs (Decidable (_ = _))

instance (a : Attempt) : Decidable a.Delivers := inferInstanceAs (Decidable (_ ∧ _))

variable {a : Attempt}

theorem succeeds_iff :
    a.Succeeds ↔ a.connect = .ok () ∧ a.publish = .ok () ∧ a.flush = .ok () ∧ a.drain = .ok () := by
  rw [Succeeds, result]
  cases a.connect <;> cases a.drain <;> cases a.publish <;> cases a.flush <;> simp [Except.bind]

theorem Succeeds.delivers (succeeds : a.Succeeds) : a.Delivers := by
  obtain ⟨connected, published, flushed, -⟩ := succeeds_iff.mp succeeds
  exact ⟨connected, a.flushed published flushed⟩

end Attempt

namespace NatsBoundRiskPublisher

variable {self : NatsBoundRiskPublisher} {event : BoundRiskEvent} {attempts : ℕ → Attempt} {k : ℕ}
  {sent : List BoundRiskEvent}

/-- The messages of an attempt that have reached the server. -/
def sentBy (a : Attempt) (event : BoundRiskEvent) : List BoundRiskEvent := if a.Delivers then [event] else []

/-- One attempt. -/
theorem runIn_publishOnce (self : NatsBoundRiskPublisher) (event : BoundRiskEvent) (attempts : ℕ → Attempt) (k : ℕ)
    (sent : List BoundRiskEvent) : (self.publishOnce event).runIn (NatsServer.serve attempts) ⟨k, sent⟩ =
      ((attempts k).result, ⟨k + 1, sent ++ sentBy (attempts k) event⟩) := by
  cases connected : (attempts k).connect with
  | error err =>
      have refused : (Prog.perform (.connect self.natsUrl self.connectTimeoutSeconds) : NatsProgram Unit).runIn
          (NatsServer.serve attempts) ⟨k, sent⟩ = (.error err, ⟨k + 1, sent⟩) := by
        simp only [Prog.runIn_perform, NatsServer.serve, connected]
      have lost : sentBy (attempts k) event = [] := by
        apply if_neg
        rintro ⟨opened, -⟩
        cases connected.symm.trans opened
      rw [publishOnce, Prog.runIn_bind_error refused, Attempt.result, connected, lost, List.append_nil]
      rfl
  | ok _ =>
      have open_ : (Prog.perform (.connect self.natsUrl self.connectTimeoutSeconds) : NatsProgram Unit).runIn
          (NatsServer.serve attempts) ⟨k, sent⟩ = (.ok (), ⟨k, sent⟩) := by
        simp only [Prog.runIn_perform, NatsServer.serve, connected]
      have written : (Prog.perform (.publish self.subject event) : NatsProgram Unit).runIn (NatsServer.serve attempts)
          ⟨k, sent⟩ = ((attempts k).publish, ⟨k, sent ++ sentBy (attempts k) event⟩) := by
        simp only [Prog.runIn_perform, NatsServer.serve, sentBy, Attempt.Delivers, connected, true_and]
        cases (attempts k).reached <;> simp
      have body : (do
          Prog.perform (.publish self.subject event)
          Prog.perform .flush : NatsProgram Unit).runIn (NatsServer.serve attempts) ⟨k, sent⟩ =
            ((attempts k).publish.bind fun _ => (attempts k).flush, ⟨k, sent ++ sentBy (attempts k) event⟩) := by
        cases published : (attempts k).publish with
        | error err =>
            rw [published] at written
            exact Prog.runIn_bind_error written
        | ok _ =>
            rw [published] at written
            rw [Prog.runIn_bind_ok written, Prog.runIn_perform]
            rfl
      have drained : (Prog.perform .drain : NatsProgram Unit).runIn (NatsServer.serve attempts)
          ⟨k, sent ++ sentBy (attempts k) event⟩ =
            ((attempts k).drain, ⟨k + 1, sent ++ sentBy (attempts k) event⟩) := Prog.runIn_perform ..
      rw [publishOnce, Prog.runIn_bind_ok open_, Prog.runIn_andFinally body drained, Attempt.result, connected]
      rfl

/-- Nothing reaches the server by an attempt that fails, of those that are made. -/
def NoFailedDelivery (attempts : ℕ → Attempt) (left k : ℕ) : Prop :=
  ∀ j < left, (∀ i < j, ¬(attempts (k + i)).Succeeds) → (attempts (k + j)).Delivers → (attempts (k + j)).Succeeds

theorem noFailedDelivery_failed {left : ℕ} (failed : ¬(attempts k).Succeeds) :
    NoFailedDelivery attempts (left + 1) k ↔ ¬(attempts k).Delivers ∧ NoFailedDelivery attempts left (k + 1) := by
  have shift : ∀ i, k + 1 + i = k + (i + 1) := fun i => by omega
  simp only [NoFailedDelivery, shift]
  constructor
  · intro clean
    refine ⟨fun delivers => failed (clean 0 (Nat.succ_pos _) (fun _ none => nomatch none) delivers), ?_⟩
    intro j inside earlier delivers
    refine clean (j + 1) (Nat.succ_lt_succ inside) (fun i before => ?_) delivers
    cases i with
    | zero => exact failed
    | succ i => exact earlier i (Nat.lt_of_succ_lt_succ before)
  · rintro ⟨lost, clean⟩ j inside earlier delivers
    cases j with
    | zero => exact absurd delivers lost
    | succ j =>
        apply clean j (Nat.lt_of_succ_lt_succ inside) ?_ delivers
        exact fun i before => earlier (i + 1) (Nat.succ_lt_succ before)

/-- The loop over the attempts: beside the copy of an attempt that succeeded, the server
    has one for each failed attempt that delivered. -/
theorem runIn_publishLoop (self : NatsBoundRiskPublisher) (event : BoundRiskEvent) (attempts : ℕ → Attempt)
    (left k : ℕ) (last : Option NatsError) (sent : List BoundRiskEvent) : ∃ result extra k',
      (self.publishLoop event left last).runIn (NatsServer.serve attempts) ⟨k, sent⟩ =
        (result, ⟨k', sent ++ List.replicate (extra + if result.isOk then 1 else 0) event⟩) ∧
      (extra = 0 ↔ NoFailedDelivery attempts left k) := by
  induction left generalizing k last sent with
  | zero =>
      have clean : NoFailedDelivery attempts 0 k := fun j inside => absurd inside (Nat.not_lt_zero j)
      cases last with
      | none =>
          refine ⟨.error .assertion, 0, k, ?_, by simp [clean]⟩
          simp [publishLoop, Prog.runIn, Except.isOk, Except.toBool]
      | some exc =>
          refine ⟨.error exc, 0, k, ?_, by simp [clean]⟩
          simp [publishLoop, Prog.runIn, Except.isOk, Except.toBool]
  | succ left ih =>
      have once := runIn_publishOnce self event attempts k sent
      cases came : (attempts k).result with
      | ok _ =>
          have succeeds : (attempts k).Succeeds := came
          rw [came] at once
          refine ⟨.ok (), 0, k + 1, ?_, ?_⟩
          · rw [publishLoop, Prog.runIn_handling_ok once, sentBy, if_pos succeeds.delivers]
            rfl
          · refine iff_of_true rfl fun j _ earlier _ => ?_
            cases j with
            | zero => exact succeeds
            | succ j => exact absurd succeeds (earlier 0 (Nat.succ_pos _))
      | error exc =>
          have failed : ¬(attempts k).Succeeds := by
            intro succeeds
            cases came.symm.trans succeeds
          rw [came] at once
          obtain ⟨result, extra, k', ran, clean⟩ := ih (k + 1) (some exc) (sent ++ sentBy (attempts k) event)
          rw [noFailedDelivery_failed failed, ← clean]
          rw [publishLoop, Prog.runIn_handling_error once, ran, sentBy]
          by_cases delivers : (attempts k).Delivers
          · refine ⟨result, extra + 1, k', ?_, by simp [delivers]⟩
            rw [if_pos delivers, List.append_assoc, Nat.add_right_comm, List.replicate_succ]
            rfl
          · refine ⟨result, extra, k', ?_, by simp [delivers]⟩
            rw [if_neg delivers, List.append_nil]

/-- How the call of a bind ends, and what reaches the server by it. -/
def outcome (self : NatsBoundRiskPublisher) (event : BoundRiskEvent) (attempts : ℕ → Attempt) :
    Except NatsError Unit × NatsServer :=
  (self.publish event).runIn (NatsServer.serve attempts) ⟨0, []⟩

/-- The same as one call of a service. -/
def fate {φ : Type} (self : NatsBoundRiskPublisher) (event : BoundRiskEvent) (attempts : ℕ → Attempt) : Fate φ :=
  .publish (self.outcome event attempts).2.delivered.length (!(self.outcome event attempts).1.isOk)

theorem outcome_eq (self : NatsBoundRiskPublisher) (event : BoundRiskEvent) (attempts : ℕ → Attempt) :
    ∃ extra, (self.outcome event attempts).2.delivered =
        List.replicate (extra + if (self.outcome event attempts).1.isOk then 1 else 0) event ∧
      (extra = 0 ↔ NoFailedDelivery attempts self.maxAttempts 0) := by
  obtain ⟨result, extra, k', ran, clean⟩ := runIn_publishLoop self event attempts self.maxAttempts 0 none []
  refine ⟨extra, ?_, clean⟩
  rw [outcome, publish, ran, List.nil_append]

/-- The publisher is honest exactly on attempts none of which delivers and fails. -/
theorem fate_honest {φ : Type} (self : NatsBoundRiskPublisher) (event : BoundRiskEvent) (attempts : ℕ → Attempt) :
    (self.fate event attempts : Fate φ).honest ↔ NoFailedDelivery attempts self.maxAttempts 0 := by
  obtain ⟨extra, delivered, clean⟩ := self.outcome_eq event attempts
  rw [← clean, fate, Fate.honest, delivered, List.length_replicate]
  cases (self.outcome event attempts).1.isOk <;> simp

end NatsBoundRiskPublisher

end Underwriting
