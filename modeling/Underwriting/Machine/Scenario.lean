import Underwriting.Bind.Lifecycle
import Underwriting.Machine.Steps

/-! # Scripts

Short runs of one office submission against the lifecycle service, by the calls
of each request in order. Concrete cases of the results are runs of these.
-/

namespace Underwriting.Scenario

open Interleaving Lifecycle

abbrev Script := List (Choice Request (Fate Reaction) (Env UserAct))

/-- Thread `i` makes its next calls with the given fates. -/
def drive (i : ℕ) (fates : List (Fate Reaction)) : Script := fates.map (.run i)

def read : Fate Reaction := .read 0

def insert (id : String) (time : ℕ) : Fate Reaction := .stamp ⟨id, time⟩

def served (newId : String) : Fate Reaction := .pas (.serve newId)

def payload : SubmissionCreate where
  counterparty := { name := "Acme", country := "FR" }
  lineOfBusiness := .commercialProperty
  tivEur := 100000
  occupancy := .office
  country := "FR"
  postcode := "75001"
  requestedCover := "fire"

/-- The seeded rules, then the submission `s` by thread 0. -/
def intake : Script :=
  [.env (.ruleset ⟨1, Appetite.v1Rules⟩ ⟨"r", 0⟩), .env (.rateTable ⟨1, Rating.v1Rules⟩ ⟨"t", 0⟩),
    .start (.create payload "ann")] ++
  drive 0 [insert "c" 1, insert "s" 2, insert "created" 3, .commit, read]

def assess : Request := .assess "s" "ann"

def quote : Request := .quote "s" "ann"

def bind : Request := .bind "s" "ann"

/-- The calls of an assess up to its commit. -/
def assessing (i : ℕ) (id : String) (time : ℕ) : Script :=
  drive i [read, read, read, insert id time, insert ("assessed " ++ id) (time + 1)]

/-- The calls of a quote up to its commit. -/
def quoting (i : ℕ) (id : String) (time : ℕ) : Script :=
  drive i [read, read, read, read, insert id time, insert ("quoted " ++ id) (time + 1)]

/-- The reads of a bind and its clock. -/
def opening (i time : ℕ) : Script := drive i [read, read, read, read, read, .clock time]

/-- The rows of a bind. -/
def recording (i : ℕ) (id : String) (time : ℕ) : Script :=
  drive i [insert id time, insert ("bound " ++ id) (time + 1)]

/-- The commit and the refresh. -/
def closing (i : ℕ) : Script := drive i [.commit, read]

/-- A submission that is accepted and quoted as `q`. -/
def quoted : Script :=
  intake ++ [.start assess] ++ assessing 1 "d" 10 ++ closing 1 ++ [.start quote] ++ quoting 2 "q" 20 ++ closing 2

/-- Create, submit, activate and publish, each as it should. -/
def effects (i : ℕ) (newId : String) : Script :=
  drive i [served newId, served "", served "", .publish 1 false]

/-- A whole bind by thread 3. -/
def bound : Script :=
  quoted ++ [.start bind] ++ opening 3 30 ++ effects 3 "p" ++ recording 3 "b" 31 ++ closing 3

def service : Backend Reply PyErr (World (List Policy)) Db (Fate Reaction) (Env UserAct) :=
  backend (Lifecycle.model byNumber)

def empty : ProgSys (List Policy) := idle (.initial [])

end Underwriting.Scenario
