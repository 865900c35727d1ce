import Mathlib.Tactic.Linarith
import Mathlib.Tactic.NormNum
import Underwriting.Startup.Database

/-! # A replica waits for its database

The wait ends with the first attempt that is not refused, after at most so many attempts,
whatever the database does meanwhile. The schema is migrated only after a wait that has
succeeded.
-/

namespace Underwriting.Startup

open Interleaving

/-! ## The host of a replica -/

/-- What a startup has done on its host. -/
structure Host where
  connects : ℕ := 0
  slept : List ℚ := []
  disposed : ℕ := 0
  upgrades : ℕ := 0

/-- What the connections and the upgrade come to. -/
structure Behaviour where
  connect : ℕ → Except BootErr Unit
  upgrade : Except BootErr Unit

/-- `time.sleep` counts nanoseconds in 64 bits and refuses a negative number of them. -/
def sleep (seconds : ℚ) : Except BootErr Unit :=
  if seconds * 10 ^ 9 < -2 ^ 63 ∨ 2 ^ 63 ≤ seconds * 10 ^ 9 then .error (.other .overflow)
  else if seconds < 0 then .error (.other .value)
  else .ok ()

theorem sleep_ok {seconds : ℚ} (future : 0 ≤ seconds) (counted : seconds * 10 ^ 9 < 2 ^ 63) :
    sleep seconds = .ok () := by
  have past : ¬ seconds * 10 ^ 9 < -2 ^ 63 := by linarith
  rw [sleep, if_neg (not_or.mpr ⟨past, not_le.mpr counted⟩), if_neg (not_lt.mpr future)]

theorem sleep_negative {seconds : ℚ} (negative : seconds < 0) : ∃ err, sleep seconds = .error err := by
  rw [sleep, if_pos negative]
  split <;> exact ⟨_, rfl⟩

def Behaviour.serve (b : Behaviour) (h : Host) : (c : BootCall) → Except BootErr (BootReply c) × Host
  | .connect => (b.connect h.connects, { h with connects := h.connects + 1 })
  | .sleep seconds =>
      match sleep seconds with
      | .ok _ => (.ok (), { h with slept := h.slept ++ [seconds] })
      | .error err => (.error err, h)
  | .dispose => (.ok (), { h with disposed := h.disposed + 1 })
  | .upgrade => (b.upgrade, { h with upgrades := h.upgrades + 1 })

/-- The attempts in a row that are refused, of so many from this one on. -/
def Behaviour.refusals (b : Behaviour) (first : ℕ) : ℕ → ℕ
  | 0 => 0
  | left + 1 => if b.connect first = .error .operational then b.refusals (first + 1) left + 1 else 0

section Waiting

variable (b : Behaviour) (interval : ℚ) (gaveUp : BootErr)

theorem sleep_runIn {result : Except BootErr Unit} (sleeps : sleep interval = result) (h : Host) :
    (bootCall (.sleep interval)).runIn b.serve h =
      (result, if result = .ok () then { h with slept := h.slept ++ [interval] } else h) := by
  refine (Prog.runIn_perform ..).trans ?_
  rw [Behaviour.serve, sleeps]
  cases result <;> rfl

/-- The attempts that are left, on a host that has connected so often. -/
theorem attempts_runIn (sleeps : sleep interval = .ok ()) (left : ℕ) (h : Host) :
    (Prog.retry (bootCall .connect) BootErr.isOperational (bootCall (.sleep interval)) gaveUp left).runIn b.serve h =
      (if b.refusals h.connects left < left then b.connect (h.connects + b.refusals h.connects left) else .error gaveUp,
        { h with
          connects := h.connects + min (b.refusals h.connects left + 1) left
          slept := h.slept ++ List.replicate (min (b.refusals h.connects left) (left - 1)) interval }) := by
  induction left generalizing h with
  | zero =>
      obtain ⟨connects, slept, disposed, upgrades⟩ := h
      simp [Prog.retry, Prog.runIn, Behaviour.refusals]
  | succ left ih =>
      have tried : (bootCall .connect).runIn b.serve h =
          (b.connect h.connects, { h with connects := h.connects + 1 }) := Prog.runIn_perform ..
      by_cases refused : b.connect h.connects = .error .operational
      · rw [refused] at tried
        rw [Behaviour.refusals, if_pos refused]
        cases left with
        | zero =>
            have paused : (if 0 ≠ 0 then bootCall (.sleep interval) else pure ()).runIn b.serve
                { h with connects := h.connects + 1 } = (.ok (), { h with connects := h.connects + 1 }) := rfl
            rw [Prog.retry_again tried rfl paused, ih]
            simp [Behaviour.refusals]
        | succ left =>
            have paused : (if left + 1 ≠ 0 then bootCall (.sleep interval) else pure ()).runIn b.serve
                { h with connects := h.connects + 1 } =
                  (.ok (), { h with connects := h.connects + 1, slept := h.slept ++ [interval] }) := by
              rw [if_pos (Nat.succ_ne_zero left)]
              exact sleep_runIn b interval sleeps _
            rw [Prog.retry_again tried rfl paused, ih]
            generalize b.refusals (h.connects + 1) (left + 1) = k
            have pauses : min (k + 1) (left + 1 + 1 - 1) = min k (left + 1 - 1) + 1 := by omega
            have count : h.connects + min (k + 1 + 1) (left + 1 + 1) = h.connects + 1 + min (k + 1) (left + 1) := by
              omega
            have place : h.connects + (k + 1) = h.connects + 1 + k := by omega
            simp only [pauses, count, place, List.replicate_succ, List.append_assoc, List.singleton_append,
              Nat.add_lt_add_iff_right]
      · have settled : ∀ err, b.connect h.connects = .error err → err.isOperational = false := by
          intro err same
          cases err with
          | operational => exact absurd same refused
          | _ => rfl
        rw [Prog.retry_settled tried settled, Behaviour.refusals, if_neg refused]
        simp

theorem refusals_spec (first left : ℕ) : b.refusals first left ≤ left ∧
    (∀ k < b.refusals first left, b.connect (first + k) = .error .operational) ∧
      (b.refusals first left < left → b.connect (first + b.refusals first left) ≠ .error .operational) := by
  induction left generalizing first with
  | zero =>
      exact ⟨Nat.le_refl 0, fun k none => absurd none (Nat.not_lt_zero k), fun none => absurd none (Nat.lt_irrefl 0)⟩
  | succ left ih =>
      by_cases refused : b.connect first = .error .operational
      · obtain ⟨bound, each, last⟩ := ih (first + 1)
        rw [Behaviour.refusals, if_pos refused]
        refine ⟨Nat.succ_le_succ bound, fun k before => ?_, fun fewer => ?_⟩
        · cases k with
          | zero => exact refused
          | succ k =>
              have next := each k (Nat.lt_of_succ_lt_succ before)
              rwa [Nat.add_right_comm, Nat.add_assoc] at next
        · have next := last (Nat.lt_of_succ_lt_succ fewer)
          rwa [Nat.add_right_comm, Nat.add_assoc] at next
      · rw [Behaviour.refusals, if_neg refused]
        exact ⟨Nat.zero_le _, fun k none => absurd none (Nat.not_lt_zero k), fun _ => refused⟩

/-- What the wait comes to: the first attempt that is not refused, if there is one. -/
def Behaviour.waited (maxAttempts : ℤ) : Except BootErr Unit :=
  if b.refusals 0 maxAttempts.toNat < maxAttempts.toNat then b.connect (b.refusals 0 maxAttempts.toNat)
  else .error (unavailable maxAttempts)

/-- The host after the wait. -/
def Behaviour.host (maxAttempts : ℤ) : Host where
  connects := min (b.refusals 0 maxAttempts.toNat + 1) maxAttempts.toNat
  slept := List.replicate (min (b.refusals 0 maxAttempts.toNat) (maxAttempts.toNat - 1)) interval
  disposed := 1

theorem waitForDb_runIn (sleeps : sleep interval = .ok ()) (maxAttempts : ℤ) :
    (waitForDb maxAttempts interval).runIn b.serve {} = (b.waited maxAttempts, b.host interval maxAttempts) := by
  have waited := attempts_runIn b interval (unavailable maxAttempts) sleeps maxAttempts.toNat {}
  simp only [Nat.zero_add, List.nil_append] at waited
  exact Prog.runIn_andFinally waited (Prog.runIn_perform ..)

/-- What a wait has done on its host, and what it comes to. -/
structure Waited (maxAttempts : ℤ) (result : Except BootErr Unit) (h : Host) : Prop where
  bounded : h.connects ≤ maxAttempts.toNat
  pauses : h.slept = List.replicate (h.connects - 1) interval
  disposed : h.disposed = 1
  upgrades : h.upgrades = 0
  /-- All attempts but the last one were refused. -/
  refused : ∀ k, k + 1 < h.connects → b.connect k = .error .operational
  /-- The last one was not, or it was the last there may be. -/
  settled : (0 < h.connects ∧ result = b.connect (h.connects - 1) ∧ result ≠ .error .operational) ∨
    (h.connects = maxAttempts.toNat ∧ (∀ k < h.connects, b.connect k = .error .operational) ∧
      result = .error (unavailable maxAttempts))

theorem waited_host (maxAttempts : ℤ) :
    Waited b interval maxAttempts (b.waited maxAttempts) (b.host interval maxAttempts) := by
  obtain ⟨bound, each, last⟩ := refusals_spec b 0 maxAttempts.toNat
  simp only [Nat.zero_add] at each last
  generalize allowed : maxAttempts.toNat = n at bound each last
  generalize refusals : b.refusals 0 n = r at bound each last
  have connects : (b.host interval maxAttempts).connects = min (r + 1) n := by rw [Behaviour.host, allowed, refusals]
  have slept : (b.host interval maxAttempts).slept = List.replicate (min r (n - 1)) interval := by
    rw [Behaviour.host, allowed, refusals]
  refine ⟨?_, ?_, rfl, rfl, fun k before => each k ?_, ?_⟩
  · rw [connects, allowed]
    exact Nat.min_le_right ..
  · rw [slept, connects]
    congr 1
    omega
  · omega
  · rw [Behaviour.waited, allowed, refusals, connects]
    by_cases fewer : r < n
    · rw [if_pos fewer, Nat.min_eq_left fewer]
      exact .inl ⟨Nat.succ_pos r, rfl, last fewer⟩
    · obtain rfl : r = n := by omega
      rw [if_neg fewer, Nat.min_eq_right (Nat.le_succ r)]
      exact .inr ⟨rfl, each, rfl⟩

/-- A pause that cannot be slept ends the wait after the first attempt that is refused. -/
theorem waitForDb_interrupted {maxAttempts : ℤ} {err : BootErr} (sleeps : sleep interval = .error err)
    (several : 1 < maxAttempts) (refused : b.connect 0 = .error .operational) :
    (waitForDb maxAttempts interval).runIn b.serve {} = (.error err, { connects := 1, disposed := 1 }) := by
  obtain ⟨left, attempts⟩ : ∃ left, maxAttempts.toNat = left + 1 + 1 := ⟨maxAttempts.toNat - 2, by omega⟩
  have tried : (bootCall .connect).runIn b.serve {} = (.error .operational, { connects := 1 }) :=
    (Prog.runIn_perform ..).trans (congrArg (·, _) refused)
  have paused : (bootCall (.sleep interval)).runIn b.serve { connects := 1 } = (.error err, { connects := 1 }) :=
    sleep_runIn b interval sleeps _
  have disposed : (bootCall .dispose).runIn b.serve { connects := 1 } = (.ok (), { connects := 1, disposed := 1 }) :=
    Prog.runIn_perform ..
  rw [waitForDb, attempts]
  exact Prog.runIn_andFinally (Prog.retry_interrupted tried rfl (Nat.succ_ne_zero left) paused) disposed

/-- A replica waits for its database as it should with any bound and any pause that can be
    slept; with a negative one the wait ends at its first pause. The schema is migrated once
    and only if the wait has succeeded. -/
theorem bootstrap_waits :
    (∀ maxAttempts interval, 0 ≤ interval → interval * 10 ^ 9 < 2 ^ 63 → ∃ result h,
      (waitForDb maxAttempts interval).runIn b.serve {} = (result, h) ∧ Waited b interval maxAttempts result h) ∧
    (∀ maxAttempts interval, interval < 0 → 1 < maxAttempts → b.connect 0 = .error .operational → ∃ err,
      sleep interval = .error err ∧
        (waitForDb maxAttempts interval).runIn b.serve {} = (.error err, { connects := 1, disposed := 1 })) ∧
    ∃ result h, waitForDb.runIn b.serve {} = (result, h) ∧ bootstrapDatabase.runIn b.serve {} =
      match result with
      | .ok _ => (b.upgrade, { h with upgrades := 1 })
      | .error err => (.error err, h) := by
  have sleeps : sleep waitIntervalSeconds = .ok () := by
    rw [waitIntervalSeconds]
    exact sleep_ok (by norm_num) (by norm_num)
  refine ⟨fun maxAttempts interval future counted => ?_, fun maxAttempts interval negative several refused => ?_,
    _, _, waitForDb_runIn b waitIntervalSeconds sleeps waitMaxAttempts, ?_⟩
  · exact ⟨_, _, waitForDb_runIn b interval (sleep_ok future counted) maxAttempts, waited_host b interval maxAttempts⟩
  · obtain ⟨err, sleeps⟩ := sleep_negative negative
    exact ⟨err, sleeps, waitForDb_interrupted b interval sleeps several refused⟩
  have waited := waitForDb_runIn b waitIntervalSeconds sleeps waitMaxAttempts
  rw [bootstrapDatabase]
  cases outcome : b.waited waitMaxAttempts with
  | ok done =>
      rw [outcome] at waited
      rw [Prog.runIn_bind_ok waited]
      exact Prog.runIn_perform ..
  | error err =>
      rw [outcome] at waited
      exact Prog.runIn_bind_error waited

end Waiting

/-- A database that comes up before the third attempt. -/
def slowStart : Behaviour where
  connect attempt := if attempt < 2 then .error .operational else .ok ()
  upgrade := .ok ()

theorem slowStart_waits :
    (∃ result h, (waitForDb 5 (1 / 2)).runIn slowStart.serve {} = (result, h) ∧
      Waited slowStart (1 / 2) 5 result h) ∧
    ∃ err, sleep (-1) = .error err ∧
      (waitForDb 3 (-1)).runIn slowStart.serve {} = (.error err, { connects := 1, disposed := 1 }) :=
  ⟨(bootstrap_waits slowStart).1 5 (1 / 2) (by norm_num) (by norm_num),
    (bootstrap_waits slowStart).2.1 3 (-1) (by norm_num) (by norm_num) rfl⟩

end Underwriting.Startup
