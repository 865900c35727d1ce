import Mathlib.Data.Fintype.Card
import Underwriting.Bind.PolicyStore
import Underwriting.Machine.Phases

/-! # Requests that run alone without faults

The rules for a request that nobody disturbs: the database, the policy service and
the clock work, ids are fresh, and only the publisher may still fail. One rule for
each kind of call, from a point to the points its answer leads to.
-/

namespace Underwriting

open Interleaving Lifecycle

/-- All primary keys. -/
def Db.ids (db : Db) : List String :=
  db.counterparties.map (·.id) ++ db.submissions.map (·.id) ++ db.decisions.map (·.id) ++ db.quotes.map (·.id) ++
    db.bindings.map (·.id) ++ db.audits.map (·.id) ++ db.rulesets.map (·.id) ++ db.rateTables.map (·.id)

theorem binding_ids {db : Db} {id : String} (taken : id ∈ db.bindings.map (·.id)) : id ∈ db.ids := by
  simp only [Db.ids, List.mem_append, taken, or_true, true_or]

theorem audit_ids {db : Db} {id : String} (taken : id ∈ db.audits.map (·.id)) : id ∈ db.ids := by
  simp only [Db.ids, List.mem_append, taken, or_true, true_or]

/-- The ids of the policies fit the column that a Binding keeps them in, as uuids do, and
    there is another one for a new policy. -/
structure ShortIds (store : List Policy) : Prop where
  fits : ∀ p ∈ store, Varchar 64 p.id
  spare : ∃ id, Varchar 64 id ∧ ∀ p ∈ store, p.id ≠ id

/-- No call is lost or fails, new rows get fresh ids, new policies short ones, and the cover
    ends before the last date there is. Publishing may end in any way. -/
def FaultFree (w : World (List Policy)) (_ : Call) : Fate Reaction → Prop
  | .lost | .pas (.fail _ _ _) => False
  | .stamp given => given.id ∉ w.db.ids
  | .clock time => time / Calendar.microsPerDay + BindService.defaultTermDays ≤ Calendar.lastDay
  | .pas (.serve newId) => Varchar 64 newId
  | .read _ | .commit | .publish _ _ => True

theorem exists_fresh (taken : List String) : ∃ id, id ∉ taken := by
  obtain ⟨id, fresh⟩ := Infinite.exists_notMem_finset taken.toFinset
  exact ⟨id, fun member => fresh (List.mem_toFinset.mpr member)⟩

/-- The policy service can answer a create if it has an id for the new policy, and every
    other request. -/
theorem exists_response (paging : Paging) {store : List Policy} {request : PasRequest}
    (able : ∀ req, request = .create req → ShortIds store) :
    ∃ newId, Varchar 64 newId ∧ (respond paging store newId request).isSome := by
  cases request with
  | create req =>
      obtain ⟨newId, short, fresh⟩ := (able req rfl).spare
      refine ⟨newId, short, ?_⟩
      simp only [respond]
      split
      · rfl
      · rw [if_neg]
        · rfl
        · rintro ⟨p, member, same⟩
          exact fresh p member same
  | list n => exact ⟨"", by decide, rfl⟩
  | transition id action =>
      refine ⟨"", by decide, ?_⟩
      simp only [respond]
      split
      · rfl
      · split <;> rfl

namespace Phase

variable {paging : Paging} {post : Answer → World (List Policy) → Prop} {w : World (List Policy)} {pending : Db}
  {ph : Phase}

/-- From this point the request returns, if it runs alone and without faults. -/
abbrev Finishes (paging : Paging) (post : Answer → World (List Policy) → Prop) (ph : Phase) (w : World (List Policy))
    (pending : Db) : Prop :=
  ph.prog.Succeeds (backend (model paging)) FaultFree post w pending

theorem finishes_ended {answer : Answer} (met : post answer w) :
    (ended (.ok answer)).Finishes paging post w pending := by
  rw [Finishes, prog_ended]
  exact met

theorem finishes_call {c : Call} {rest : Except PyErr (Reply c) → Phase} (found : ph.next = some ⟨c, rest⟩)
    (fate : Fate Reaction) (allowed : FaultFree w c fate) (enabled : (handle (model paging) w pending c fate).isSome)
    (answered : ∀ fate answer w' pending', FaultFree w c fate →
      Handled (model paging) w pending c fate answer w' pending' →
        (rest answer).Finishes paging post w' pending') : ph.Finishes paging post w pending := by
  rw [Finishes, prog_call found fun _ => rfl]
  refine .call fate allowed enabled fun fate answer w' pending' allowed handled => ?_
  exact answered fate answer w' pending' allowed (handle_cases handled)

theorem finishes_query {c : Call} {rest : Except PyErr (Reply c) → Phase} (found : ph.next = some ⟨c, rest⟩)
    (kind : c.kind = .query) (answered : ∀ pick value, w.db.query pick c = some value →
      (rest (.ok value)).Finishes paging post w pending) : ph.Finishes paging post w pending := by
  have enabled : (handle (model paging) w pending c (.read 0)).isSome := by
    rw [handle, Option.isSome_map]
    exact query_isSome kind w.db 0
  refine finishes_call found (.read 0) trivial enabled fun fate answer w' pending' allowed handled => ?_
  cases handled with
  | lost => cases allowed
  | read read => exact answered _ _ read
  | insert inserted | refused inserted | unfit inserted => cases kind.symm.trans (Call.kind_of_insertion inserted)
  | commit | conflict | now | pas | publish => cases kind

theorem finishes_insert {c : Call} {rest : Except PyErr (Reply c) → Phase} (found : ph.next = some ⟨c, rest⟩)
    (kind : c.kind = .insert) (inserts : ∀ stamp, (c.insertion stamp).isSome) (fits : c.Fits)
    (free : ∀ stamp row added, stamp.id ∉ w.db.ids → c.insertion stamp = some (row, added) →
      (w.db ++ (pending ++ added)).Keyed ∧
        (rest (.ok row)).Finishes paging post (w.tick stamp.time) (pending ++ added)) :
    ph.Finishes paging post w pending := by
  obtain ⟨id, fresh⟩ := exists_fresh w.db.ids
  have enabled : (handle (model paging) w pending c (.stamp ⟨id, 0⟩)).isSome := by
    rw [handle, Option.isSome_map]
    exact inserts ⟨id, 0⟩
  refine finishes_call found (.stamp ⟨id, 0⟩) fresh enabled fun fate answer w' pending' allowed handled => ?_
  cases handled with
  | lost => cases allowed
  | read read => cases kind.symm.trans (Call.kind_of_query read)
  | insert inserted => exact (free _ _ _ allowed inserted).2
  | refused inserted taken => exact absurd (free _ _ _ allowed inserted).1 taken
  | unfit inserted misfit => exact absurd fits misfit
  | commit | conflict | now | pas | publish => cases kind

theorem finishes_commit {rest : Except PyErr Unit → Phase} (found : ph.next = some ⟨.commit, rest⟩)
    (free : (w.db ++ pending).Keyed)
    (answered : (rest (.ok ())).Finishes paging post { w with db := w.db ++ pending } .empty) :
    ph.Finishes paging post w pending := by
  have enabled : (handle (model paging) w pending .commit .commit).isSome := by
    rw [handle, if_pos free]
    rfl
  refine finishes_call found .commit trivial enabled fun fate answer w' pending' allowed handled => ?_
  cases handled with
  | lost => cases allowed
  | read read => cases Call.kind_of_query read
  | insert inserted | refused inserted | unfit inserted => cases Call.kind_of_insertion inserted
  | commit => exact answered
  | conflict taken => exact absurd free taken

theorem finishes_now {rest : Except PyErr ℕ → Phase} (found : ph.next = some ⟨.now, rest⟩)
    (answered : ∀ time, time / Calendar.microsPerDay + BindService.defaultTermDays ≤ Calendar.lastDay →
      (rest (.ok time)).Finishes paging post (w.tick time) pending) : ph.Finishes paging post w pending := by
  have allowed : 0 / Calendar.microsPerDay + BindService.defaultTermDays ≤ Calendar.lastDay := by decide
  refine finishes_call found (.clock 0) allowed rfl fun fate answer w' pending' allowed handled => ?_
  cases handled with
  | lost => cases allowed
  | read read => cases Call.kind_of_query read
  | insert inserted | refused inserted | unfit inserted => cases Call.kind_of_insertion inserted
  | now time => exact answered time allowed

theorem finishes_request {request : PasRequest} {rest : Except PyErr PasResponse → Phase}
    (found : ph.next = some ⟨.policyService request, rest⟩)
    (able : ∀ req, request = .create req → ShortIds w.pas)
    (answered : ∀ newId resp after, Varchar 64 newId → serve paging w.pas request (.serve newId) = some (.ok resp, after) →
      (rest (.ok resp)).Finishes paging post { w with pas := after } pending) : ph.Finishes paging post w pending := by
  obtain ⟨newId, short, response⟩ := exists_response paging able
  have enabled : (handle (model paging) w pending (.policyService request) (.pas (.serve newId))).isSome := by
    simp only [handle, model, serve, Option.isSome_map]
    exact response
  refine finishes_call found (.pas (.serve newId)) short enabled fun fate answer w' pending' allowed handled => ?_
  cases handled with
  | lost => cases allowed
  | read read => cases Call.kind_of_query read
  | insert inserted | refused inserted | unfit inserted => cases Call.kind_of_insertion inserted
  | @pas request reaction answer after served =>
      cases reaction with
      | fail => cases allowed
      | serve newId =>
          obtain ⟨⟨resp, after⟩, responded, same⟩ := Option.map_eq_some_iff.mp served
          cases same
          exact answered newId resp after allowed served

theorem finishes_publish {event : BoundRiskEvent} {rest : Except PyErr Unit → Phase}
    (found : ph.next = some ⟨.publish event, rest⟩)
    (answered : ∀ answer delivered, (rest answer).Finishes paging post { w with delivered := delivered } pending) :
    ph.Finishes paging post w pending := by
  refine finishes_call found (.publish 1 false) trivial rfl fun fate answer w' pending' _ handled => ?_
  obtain ⟨copies, raised, -, -, same, rfl⟩ := handled.published
  rw [same]
  exact answered answer _

end Phase

end Underwriting
