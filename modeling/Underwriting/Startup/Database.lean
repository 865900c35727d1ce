import Mathlib.Data.Rat.Defs
import Underwriting.Errors
import Underwriting.Lib.Retry

/-! # The database at startup

`app/db/startup.py`: a replica waits until the database accepts connections, for so many
attempts, and then migrates its schema. Only an `OperationalError` is waited out.
-/

namespace Underwriting.Startup

open Interleaving

/-- What a startup raises. -/
inductive BootErr where
  /-- `OperationalError`: the database cannot be reached. -/
  | operational
  /-- `RuntimeError` -/
  | runtime (message : String)
  | other (err : PyErr)
  deriving DecidableEq, Repr

inductive BootCall where
  /-- `engine.connect()` and a `SELECT 1` on the connection -/
  | connect
  /-- `time.sleep` -/
  | sleep (seconds : ℚ)
  /-- `engine.dispose()` -/
  | dispose
  /-- `alembic upgrade head` -/
  | upgrade

abbrev BootReply (_ : BootCall) : Type := Unit

abbrev BootProgram := Prog BootReply BootErr

/-- One call of a startup whose exception propagates. -/
def bootCall (c : BootCall) : BootProgram (BootReply c) := .perform c

def waitMaxAttempts : ℤ := 60

def waitIntervalSeconds : ℚ := 3

def BootErr.isOperational : BootErr → Bool
  | .operational => true
  | _ => false

def unavailable (maxAttempts : ℤ) : BootErr :=
  .runtime ("Database did not become available after " ++ toString maxAttempts ++ " attempts.")

/-- `wait_for_db`; the engine is disposed of in every case. -/
def waitForDb (maxAttempts : ℤ := waitMaxAttempts) (intervalSeconds : ℚ := waitIntervalSeconds) : BootProgram Unit :=
  (Prog.retry (bootCall .connect) BootErr.isOperational (bootCall (.sleep intervalSeconds)) (unavailable maxAttempts)
    maxAttempts.toNat).andFinally (bootCall .dispose)

def runMigrations : BootProgram Unit := bootCall .upgrade

def bootstrapDatabase : BootProgram Unit := do
  waitForDb
  runMigrations

end Underwriting.Startup
