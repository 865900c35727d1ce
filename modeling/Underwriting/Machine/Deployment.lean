import Underwriting.Machine.Endpoints
import Underwriting.Startup.Database
import Underwriting.Startup.Migrations

/-! # Replicas that come up and serve

The lifespan of `app/main.py` and the API behind it, over one database. Replicas come up
at any time, each by its own lifespan. In the runs that are `Served` a request comes to a
replica that is up.
-/

namespace Underwriting

open Interleaving
open Startup (BootErr BootCall BootReply BootProgram Tables)

inductive DeployCall where
  | boot (c : BootCall)
  | seed (c : Startup.Call)
  | api (c : ApiCall)

def DeployReply : DeployCall → Type
  | .boot c => BootReply c
  | .seed c => Startup.Reply c
  | .api c => ApiReply c

abbrev DeployProgram := Prog DeployReply BootErr

/-- A replica that comes up, or a request to one. -/
inductive DeployRequest where
  | boot (runDbMigrationsOnStartup : Bool)
  | serve (request : ApiRequest)

/-- The request to the API, if it is one. -/
def DeployRequest.api? : DeployRequest → Option ApiRequest
  | .serve request => some request
  | .boot _ => none

inductive DeployAnswer where
  | up
  | response (response : Response)

namespace Deployment

def below : BootErr → PyErr
  | .other err => err
  -- nothing but the wait for the database raises these
  | .operational | .runtime _ => .died

def ofBoot {α : Type} (program : BootProgram α) : DeployProgram α := program.rename .boot fun _ reply => reply

def ofSeeds {α : Type} (program : Startup.Program α) : DeployProgram α :=
  program.translate .seed (fun _ reply => reply) .other below

def ofApi {α : Type} (program : ApiProgram α) : DeployProgram α :=
  program.translate .api (fun _ reply => reply) .other below

/-- `lifespan`, up to its `yield` -/
def lifespan (runDbMigrationsOnStartup : Bool) : DeployProgram Unit := do
  if runDbMigrationsOnStartup then ofBoot Startup.bootstrapDatabase
  ofSeeds Startup.lifespan

def respond (jwksUrl : String) : DeployRequest → DeployProgram DeployAnswer
  | .boot runDbMigrationsOnStartup => do
      lifespan runDbMigrationsOnStartup
      return .up
  | .serve request => do return .response (← ofApi (Api.respond jwksUrl request))

/-- Replicas and requests; a dead thread is a raised `died`. -/
def requests (jwksUrl : String) : Control DeployReply BootErr DeployRequest (DeployProgram DeployAnswer) :=
  programs (respond jwksUrl) (.other .died)

end Deployment

/-! ## The tables that are seeded -/

namespace Db

def tables (db : Db) : Tables
  | .appetiteRuleset => db.rulesets.map fun row => ⟨row.toNewVersion, row.toStamp⟩
  | .rateTable => db.rateTables.map fun row => ⟨row.toNewVersion, row.toStamp⟩

def withTables (db : Db) (tables : Tables) : Db :=
  { db with
    rulesets := (tables .appetiteRuleset).map fun row => ⟨row.toNewVersion, row.toStamp⟩
    rateTables := (tables .rateTable).map fun row => ⟨row.toNewVersion, row.toStamp⟩ }

@[simp] theorem tables_withTables (db : Db) (tables : Tables) : (db.withTables tables).tables = tables := by
  funext table
  cases table <;> simp [Db.tables, withTables, Function.comp_def]

@[simp] theorem withTables_tables (db : Db) : db.withTables db.tables = db := by
  simp [withTables, Db.tables, Function.comp_def]

/-- The rows of a commit come after those of the tables. -/
theorem withTables_append (db : Db) (more : Tables) :
    db.withTables (db.tables.append more) = db ++ empty.withTables more := by
  apply Db.ext <;> simp [withTables, Db.tables, Tables.append, Function.comp_def, Db.empty]

theorem grows_append (db : Db) (more : Tables) : db.Grows (db.withTables (db.tables.append more)) :=
  ⟨_, withTables_append db more⟩

theorem Keyed.of_append {db more : Db} (keyed : (db ++ more).Keyed) : db.Keyed := by
  have first : ∀ {Row Key : Type} (key : Row → Key) (rows others : List Row),
      ((rows ++ others).map key).Nodup → (rows.map key).Nodup :=
    fun key rows others once => once.sublist ((List.sublist_append_left rows others).map key)
  constructor <;> apply first
  case counterpartyId => exact keyed.counterpartyId
  case submissionId => exact keyed.submissionId
  case decisionId => exact keyed.decisionId
  case quoteId => exact keyed.quoteId
  case bindingId => exact keyed.bindingId
  case auditId => exact keyed.auditId
  case rulesetId => exact keyed.rulesetId
  case rateTableId => exact keyed.rateTableId
  case boundOnce => exact keyed.boundOnce
  case policyNumber => exact keyed.policyNumber
  case rulesetVersion => exact keyed.rulesetVersion
  case rateTableVersion => exact keyed.rateTableVersion

end Db

/-! ## The world -/

section World

variable {σ φ υ : Type}

/-- What a call of a startup comes to. -/
inductive BootFate where
  | answer (answer : Except BootErr Unit)
  /-- An upgrade of a database that has had so many revisions. -/
  | upgrade (applied time : ℕ)

/-- The fate of a call. -/
inductive DeployFate (φ : Type) where
  | boot (fate : BootFate)
  /-- What a statement of the seeds comes to, if it does not fail on its way. -/
  | seed (fate : Option Startup.Fate)
  | api (fate : Fate φ)

namespace Deployment

/-- One call of a startup; an upgrade whose rows are there already is rolled back. -/
def handleBoot (w : World σ) : BootCall → BootFate → Option (Except BootErr Unit × World σ)
  | .upgrade, .upgrade applied time =>
      if (w.db.withTables (Startup.upgradeHead applied time w.db.tables)).Keyed then
        some (.ok (), { w with db := w.db.withTables (Startup.upgradeHead applied time w.db.tables) })
      else some (.error (.other .integrity), w)
  | _, .upgrade _ _ | .upgrade, .answer (.ok _) => none
  | _, .answer answer => some (answer, w)

/-- One statement of the seeds, in the session of its replica; a commit that breaks a key
    is rolled back. -/
def handleSeed (w : World σ) (pending : Db) (c : Startup.Call) :
    Option Startup.Fate → Option (Except PyErr (Startup.Reply c) × World σ × Db)
  | none => some (.error .outage, w, pending)
  | some fate => (Startup.handle w.db.tables pending.tables c fate).map fun (answer, tables, seeds) =>
      if (w.db.withTables tables).Keyed then (answer, { w with db := w.db.withTables tables }, pending.withTables seeds)
      else (.error .integrity, w, pending.withTables seeds)

def handle (P : PasModel σ φ υ) (w : World σ) (pending : Db) :
    (c : DeployCall) → DeployFate φ → Option (Except BootErr (DeployReply c) × World σ × Db)
  | .boot c, .boot fate => (handleBoot w c fate).map fun (answer, w) => (answer, w, pending)
  | .seed c, .seed fate => (handleSeed w pending c fate).map fun (answer, w, pending) =>
      (answer.mapError .other, w, pending)
  | .api c, .api fate => (Api.handleApi P w pending c fate).map fun (answer, w, pending) =>
      (answer.mapError .other, w, pending)
  | _, _ => none

def backend (P : PasModel σ φ υ) : Backend DeployReply BootErr (World σ) Db (DeployFate φ) (Env υ) where
  fresh := .empty
  handle := handle P
  disturb := disturb P

/-- The seeds by themselves. -/
def seeding (υ : Type) (P : PasModel σ φ υ) :
    Backend Startup.Reply PyErr (World σ) Db (Option Startup.Fate) (Env υ) where
  fresh := .empty
  handle := handleSeed
  disturb := disturb P

end Deployment

end World

abbrev DeployThread := Thread DeployReply DeployRequest Db (DeployProgram DeployAnswer)

abbrev DeploySys (σ : Type) := Sys DeployReply DeployRequest (World σ) Db (DeployProgram DeployAnswer)

namespace Deployment

/-- A replica whose lifespan has returned. -/
def isUp (t : DeployThread) : Bool :=
  match t.ctl with
  | .ret .up => true
  | _ => false

/-- Requests are served by replicas that are up. -/
def Served {φ υ σ : Type} (s : DeploySys σ) : Choice DeployRequest (DeployFate φ) (Env υ) → Prop
  | .start (.serve _) => s.threads.any isUp
  | _ => True

instance {φ υ σ : Type} (s : DeploySys σ) (choice : Choice DeployRequest (DeployFate φ) (Env υ)) :
    Decidable (Served s choice) :=
  match choice with
  | .start (.serve _) => inferInstanceAs (Decidable (s.threads.any isUp = true))
  | .start (.boot _) | .run _ _ | .crash _ | .env _ => .isTrue trivial

end Deployment

end Underwriting
