import Underwriting.Appetite.Rules
import Underwriting.Db
import Underwriting.Errors
import Underwriting.Lib.Latest
import Underwriting.Lib.Refine
import Underwriting.Lib.Sequential
import Underwriting.Rating.Engine

/-! # Seeding at startup

The seeds of `app/appetite/repository.py` and `app/rating/repository.py`, and the
lifespan of `app/main.py` that runs them in every replica. Both tables have the same
columns. A statement sees the committed rows and those of its own transaction (READ
COMMITTED). Their `version` is unique, which an insert and a commit enforce: where a
database makes an insert wait for another transaction, the conflict shows at the
commit here. Row ids are random and are taken not to collide.
-/

namespace Underwriting.Startup

open Interleaving

inductive Table where
  | appetiteRuleset | rateTable
  deriving DecidableEq

/-- A row of either table. -/
structure Row extends NewVersion, Stamp

/-- The rows of both tables. -/
abbrev Tables := Table → List Row

namespace Tables

def empty : Tables := fun _ => []

/-- One row more, after those of its table. -/
def insert (tables : Tables) (table : Table) (row : Row) : Tables :=
  fun other => tables other ++ if other = table then [row] else []

def append (tables more : Tables) : Tables := fun table => tables table ++ more table

/-- The unique column of both tables. -/
def Unique (tables : Tables) : Prop := ∀ table, ((tables table).map (·.version)).Nodup

instance decidableUnique (tables : Tables) : Decidable tables.Unique :=
  decidable_of_iff (((tables .appetiteRuleset).map (·.version)).Nodup ∧ ((tables .rateTable).map (·.version)).Nodup)
    ⟨fun ⟨rulesets, rateTables⟩ table => match table with
      | .appetiteRuleset => rulesets
      | .rateTable => rateTables, fun unique => ⟨unique _, unique _⟩⟩

end Tables

/-! ## Statements -/

/-- The queries of the two repositories. -/
inductive Query where
  /-- `order_by(desc(version)).limit(1)` -/
  | current (table : Table)
  /-- `where(version == ...)` -/
  | getVersion (table : Table) (version : ℤ)
  deriving DecidableEq

/-- The row a query finds; `pick` settles the order of rows with equal versions. -/
def Query.scalar (tables : Tables) (pick : ℕ) : Query → Option Row
  | .current table => Latest.limitOne (fun row : Row => row.version) (tables table) pick
  | .getVersion table version => (tables table).find? (·.version = version)

inductive Call where
  | scalar (query : Query)
  | createVersion (table : Table) (new : NewVersion)
  | commit

def Reply : Call → Type
  | .scalar _ => Option Row
  | .createVersion _ _ => Row
  | .commit => Unit

/-- What a call leaves open: the pick of a query, the id and the time of a row. -/
inductive Fate where
  | read (pick : ℕ)
  | stamp (stamp : Stamp)
  | commit

/-- One call of a transaction with the flushed rows `pending`. -/
def handle (w pending : Tables) (c : Call) : Fate → Option (Except PyErr (Reply c) × Tables × Tables)
  | .read pick =>
      match c with
      | .scalar query => some (.ok (query.scalar (w.append pending) pick), w, pending)
      | _ => none
  | .stamp stamp =>
      match c with
      | .createVersion table new =>
          if ((w.append pending).insert table ⟨new, stamp⟩).Unique then
            some (.ok ⟨new, stamp⟩, w, pending.insert table ⟨new, stamp⟩)
          else some (.error .integrity, w, pending)
      | _ => none
  | .commit =>
      match c with
      | .commit =>
          if (w.append pending).Unique then some (.ok (), w.append pending, .empty)
          else some (.error .integrity, w, .empty)
      | _ => none

/-- Nothing but the replicas writes to the tables. -/
def backend : Backend Reply PyErr Tables Tables Fate Empty where
  fresh := .empty
  handle := handle
  disturb _ e := nomatch e

/-! ## Seeds -/

abbrev Program (α : Type) := Prog Reply PyErr α

/-- One call whose exception propagates. -/
def ask (c : Call) : Program (Reply c) := Prog.perform c

namespace SqlAppetiteRepository

def current : Program (Option Row) := ask (.scalar (.current .appetiteRuleset))

def createVersion (version : ℤ) (rules : Json) : Program Row := ask (.createVersion .appetiteRuleset ⟨version, rules⟩)

end SqlAppetiteRepository

namespace SqlRateTableRepository

def current : Program (Option Row) := ask (.scalar (.current .rateTable))

def getVersion (version : ℤ) : Program (Option Row) := ask (.scalar (.getVersion .rateTable version))

def createVersion (version : ℤ) (rules : Json) : Program Row := ask (.createVersion .rateTable ⟨version, rules⟩)

end SqlRateTableRepository

def commit : Program Unit := ask .commit

/-- What the seeds share: look for a row, and if there is none insert one and commit. -/
def seedIfAbsent (lookup : Program (Option Row)) (create : Program Row) : Program Row := do
  match ← lookup with
  | some existing => return existing
  | none =>
      let row ← create
      commit
      return row

/-- `seed_v1` of the appetite rulesets. -/
def seedV1 : Program Row :=
  seedIfAbsent SqlAppetiteRepository.current (SqlAppetiteRepository.createVersion 1 Appetite.v1Rules)

/-- `seed_v1` of the rate tables. -/
def seedRateTableV1 : Program Row :=
  seedIfAbsent SqlRateTableRepository.current (SqlRateTableRepository.createVersion 1 Rating.v1Rules)

/-- `seed_v2` of the rate tables. -/
def seedRateTableV2 : Program Row :=
  seedIfAbsent (SqlRateTableRepository.getVersion 2) (SqlRateTableRepository.createVersion 2 Rating.v2Rules)

/-- The seeding of one startup. -/
def lifespan : Program Unit := do
  let _ ← seedV1
  let _ ← seedRateTableV1
  let _ ← seedRateTableV2
  return ()

/-- So many startups, one after the other. -/
def startups : ℕ → Program Unit
  | 0 => return ()
  | left + 1 => do
      lifespan
      startups left

/-- The replicas. A replica starts once and then as often again as its request says. -/
def replicas : Control Reply PyErr ℕ (Program Unit) := programs (fun again => startups (again + 1)) .died

/-- No replica has been started. -/
def idle {K : Type} (initial : Tables) : Sys Reply ℕ Tables Tables K := ⟨initial, []⟩

/-! ## Program points -/

/-- The three seeds, in the order of the lifespan. -/
inductive Seed where
  | rulesetV1 | rateTableV1 | rateTableV2
  deriving DecidableEq

namespace Seed

def table : Seed → Table
  | .rulesetV1 => .appetiteRuleset
  | .rateTableV1 | .rateTableV2 => .rateTable

/-- The query that looks for a row. -/
def lookup : Seed → Query
  | .rulesetV1 => .current .appetiteRuleset
  | .rateTableV1 => .current .rateTable
  | .rateTableV2 => .getVersion .rateTable 2

/-- What it installs. -/
def new : Seed → NewVersion
  | .rulesetV1 => ⟨1, Appetite.v1Rules⟩
  | .rateTableV1 => ⟨1, Rating.v1Rules⟩
  | .rateTableV2 => ⟨2, Rating.v2Rules⟩

def program (σ : Seed) : Program Row := seedIfAbsent (ask (.scalar σ.lookup)) (ask (.createVersion σ.table σ.new))

/-- What is left of the startups after a seed. -/
def rest (left : ℕ) : Seed → Program Unit
  | .rulesetV1 => do
      let _ ← program .rateTableV1
      let _ ← program .rateTableV2
      startups left
  | .rateTableV1 => do
      let _ ← program .rateTableV2
      startups left
  | .rateTableV2 => startups left

end Seed

/-- Where a replica stands in a seed, with `left` startups still to come after this one. -/
inductive Point where
  | check (σ : Seed) (left : ℕ)
  | insert (σ : Seed) (left : ℕ)
  | save (σ : Seed) (left : ℕ) (row : Row)
  | ended (result : Except PyErr Unit)

namespace Point

/-- What comes after a seed. -/
def following (left : ℕ) : Seed → Point
  | .rulesetV1 => .check .rateTableV1 left
  | .rateTableV1 => .check .rateTableV2 left
  | .rateTableV2 =>
      match left with
      | 0 => .ended (.ok ())
      | left + 1 => .check .rulesetV1 left

def checked (σ : Seed) (left : ℕ) : Except PyErr (Option Row) → Point
  | .ok (some _) => following left σ
  | .ok none => .insert σ left
  | .error err => .ended (.error err)

def inserted (σ : Seed) (left : ℕ) : Except PyErr Row → Point
  | .ok row => .save σ left row
  | .error err => .ended (.error err)

def saved (σ : Seed) (left : ℕ) : Except PyErr Unit → Point
  | .ok _ => following left σ
  | .error err => .ended (.error err)

/-- The call of a point and where its answer leads. -/
def next : Point → Option ((c : Call) × (Except PyErr (Reply c) → Point))
  | .check σ left => some ⟨.scalar σ.lookup, checked σ left⟩
  | .insert σ left => some ⟨.createVersion σ.table σ.new, inserted σ left⟩
  | .save σ left _ => some ⟨.commit, saved σ left⟩
  | .ended _ => none

/-- The program that remains at a point. -/
def prog : Point → Program Unit
  | .check σ left => σ.program >>= fun _ => σ.rest left
  | .insert σ left =>
      (do
        let row ← ask (.createVersion σ.table σ.new)
        commit
        return row) >>= fun _ => σ.rest left
  | .save σ left row =>
      (do
        commit
        return row) >>= fun _ => σ.rest left
  | .ended result => .ofExcept result

theorem prog_following (left : ℕ) (σ : Seed) : (following left σ).prog = σ.rest left := by
  cases σ with
  | rulesetV1 | rateTableV1 => rfl
  | rateTableV2 =>
      cases left with
      | zero => rfl
      | succ left =>
          change seedV1 >>= _ = (lifespan >>= fun _ => startups left)
          simp only [lifespan, Prog.bind_assoc]
          rfl

theorem next_call {c : Call} {rest : Except PyErr (Reply c) → Program Unit} {cont : Except PyErr (Reply c) → Point}
    (tail : ∀ answer, rest answer = (cont answer).prog) :
    (Prog.call c rest).next = some (mapNext prog ⟨c, cont⟩) :=
  congrArg (fun rest => some (Sigma.mk c rest)) (funext tail)

theorem next_prog (p : Point) : p.prog.next = p.next.map (mapNext prog) := by
  cases p with
  | check σ left =>
      apply next_call
      rintro (_ | _ | _)
      · rfl
      · rfl
      · exact (prog_following left σ).symm
  | insert σ left =>
      apply next_call
      intro answer
      cases answer <;> rfl
  | save σ left row =>
      apply next_call
      intro answer
      cases answer with
      | error => rfl
      | ok => exact (prog_following left σ).symm
  | ended result => cases result <;> rfl

end Point

/-- The replicas as program points. -/
def points : Control Reply PyErr ℕ Point where
  start again := .check .rulesetV1 again
  next := Point.next
  dead := .ended (.error .died)

/-- Runs of the replicas are runs of their program points. -/
def seeding : points.Hom replicas where
  map := Point.prog
  start again := Point.prog_following (again + 1) .rateTableV2
  next := Point.next_prog
  dead := rfl

end Underwriting.Startup
