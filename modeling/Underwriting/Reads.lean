import Underwriting.Enums
import Underwriting.Lib.OrderBy
import Underwriting.Lib.Relational
import Underwriting.Repositories

/-! # Queries that answer with lists

The inbox query of `list_submissions` with its join on the greatest `decided_at`,
the bound submissions among some, `list_versions` of the rate tables and
`list_for_submission` of the audit. Each reads committed rows. A pick settles the
order of rows with equal keys.
-/

namespace Underwriting

inductive ReadCall where
  /-- Submissions, newest first, beside their decisions at the latest time. -/
  | inbox (outcome : Option Outcome) (limit offset : ℕ)
  /-- `select(Binding.submission_id)` among the ids -/
  | boundAmong (ids : List String)
  | rateTableVersions
  | auditsOf (submissionId : String)

def ReadReply : ReadCall → Type
  | .inbox _ _ _ => List (Submission × Option Decision)
  | .boundAmong _ => List String
  | .rateTableVersions => List RateTable
  | .auditsOf _ => List AuditEntry

namespace Db

def auditsOf (db : Db) (submissionId : String) : List AuditEntry :=
  db.audits.filter (·.submissionId = submissionId)

/-- The subquery `latest`: each assessed submission with its greatest `decided_at`. -/
def latestTimes (db : Db) : List (String × ℕ) :=
  Relational.groupMax (fun d : Decision => d.submissionId) (fun d : Decision => d.time) db.decisions

/-- The two outer joins of the inbox query. No decision matches an absent time. -/
def inboxRows (db : Db) : List (Submission × Option Decision) :=
  let timed := Relational.outerJoin (fun (s : Submission) latest => latest.1 = s.id) db.submissions db.latestTimes
  let joined := Relational.outerJoin (fun (row : Submission × Option (String × ℕ)) (d : Decision) =>
    d.submissionId = row.1.id ∧ row.2.map (·.2) = some d.time) timed db.decisions
  joined.map fun row => (row.1.1, row.2)

/-- `Decision.outcome == outcome.value`, which an absent decision does not meet. -/
def outcomeMatches (outcome : Option Outcome) (row : Submission × Option Decision) : Bool :=
  match outcome with
  | none => true
  | some o => row.2.any (·.outcome = o.value)

/-- The inbox query before its limit and offset. -/
def inboxOrdered (db : Db) (outcome : Option Outcome) (pick : ℕ) : List (Submission × Option Decision) :=
  Latest.orderBy (fun row => OrderDual.toDual row.1.time) (db.inboxRows.filter (outcomeMatches outcome)) pick

def read (db : Db) (pick : ℕ) : (c : ReadCall) → ReadReply c
  | .inbox outcome limit offset => ((db.inboxOrdered outcome pick).drop offset).take limit
  | .boundAmong ids => (db.bindings.filter (·.submissionId ∈ ids)).map (·.submissionId)
  | .rateTableVersions => Latest.orderBy (fun t : RateTable => OrderDual.toDual t.version) db.rateTables pick
  | .auditsOf sid => Latest.orderBy (fun e : AuditEntry => e.time) (db.auditsOf sid) pick

theorem auditsOf_append (db more : Db) (sid : String) :
    (db ++ more).auditsOf sid = db.auditsOf sid ++ more.auditsOf sid :=
  List.filter_append ..

end Db

abbrev ReadProgram := Interleaving.Prog ReadReply PyErr

/-- One query whose exception propagates. -/
def select (c : ReadCall) : ReadProgram (ReadReply c) := Interleaving.Prog.perform c

/-- `session.execute(stmt.limit(limit).offset(offset)).all()` -/
def Session.inbox (outcome : Option Outcome) (limit offset : ℕ) : ReadProgram (List (Submission × Option Decision)) :=
  select (.inbox outcome limit offset)

def Session.boundAmong (ids : List String) : ReadProgram (List String) := select (.boundAmong ids)

def rateTablesListVersions : ReadProgram (List RateTable) := select .rateTableVersions

def auditListForSubmission (submissionId : String) : ReadProgram (List AuditEntry) := select (.auditsOf submissionId)

section RunWith

variable {serve : (c : ReadCall) → Except PyErr (ReadReply c)}

theorem runWith_inbox (outcome : Option Outcome) (limit offset : ℕ) :
    (Session.inbox outcome limit offset).runWith serve = serve (.inbox outcome limit offset) :=
  Interleaving.Prog.runWith_perform _

theorem runWith_boundAmong (ids : List String) :
    (Session.boundAmong ids).runWith serve = serve (.boundAmong ids) :=
  Interleaving.Prog.runWith_perform _

end RunWith

end Underwriting
