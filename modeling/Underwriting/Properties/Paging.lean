import Underwriting.Api.V1
import Underwriting.Lib.Paging
import Underwriting.Properties.Inbox

/-! # Paging through the inbox

Each page of the inbox is a query of its own, ordered by `created_at` alone. The
pages together show every matching submission once exactly if the query has one row
for each and no group of equal `created_at` is cut by a page boundary.
-/

namespace Underwriting.Paging

open SubmissionService
open Inbox (Shows topDecisions exists_item exists_row exists_built)

/-- What `list_submissions` returns for a store. -/
def page (db : Db) (pick : ℕ) (outcome : Option Outcome) (limit offset : ℕ) : Except PyErr (List SubmissionListItem) :=
  (listSubmissions outcome limit offset).runWith fun c => .ok (db.read pick c)

/-- The route takes the query. -/
def Accepted (limit offset : ℕ) : Prop := ∃ query : ListQuery, query.limit = limit ∧ query.offset = offset

/-- Page after page from an offset on until one is empty, and the items of all of them.
    The database may settle each query by a pick of its own. -/
inductive Browsed (db : Db) (picks : ℕ → ℕ) (outcome : Option Outcome) (limit : ℕ) :
    ℕ → List SubmissionListItem → Prop where
  | done {offset} (empty : page db (picks offset) outcome limit offset = .ok []) :
      Browsed db picks outcome limit offset []
  | next {offset items rest} (found : page db (picks offset) outcome limit offset = .ok items) (some : items ≠ [])
      (accepted : Accepted limit offset) (later : Browsed db picks outcome limit (offset + limit) rest) :
      Browsed db picks outcome limit offset (items ++ rest)

/-- The decisions at a submission's latest time that the filter keeps. -/
def kept (db : Db) (outcome : Option Outcome) (submission : Submission) : List Decision :=
  (topDecisions db submission).filter fun d => ∀ o ∈ outcome, d.outcome = o.value

/-- The submissions that match: all of them, or those whose latest decision has the outcome. -/
def matching (db : Db) (outcome : Option Outcome) : List Submission :=
  db.submissions.filter fun s => outcome = none ∨ kept db outcome s ≠ []

/-- Each matching submission once, newest first. -/
structure Complete (db : Db) (outcome : Option Outcome) (items : List SubmissionListItem) : Prop where
  once : Shows items (matching db outcome)
  newestFirst : items.Pairwise fun a b => b.createdAt ≤ a.createdAt

/-- Whatever the database does with equal rows, browsing ends and gives the complete list. -/
def Pageable (db : Db) (outcome : Option Outcome) (limit : ℕ) : Prop :=
  ∀ picks, ∃ items, Browsed db picks outcome limit 0 items ∧ Complete db outcome items

/-- Newest first. -/
def newest (submission : Submission) : ℕᵒᵈ := OrderDual.toDual submission.time

/-- A matching submission has values of the two enums and a single decision that the
    filter keeps, with one of the three outcomes; and no page boundary cuts a group of
    matching submissions with the same `created_at`. -/
structure Uncut (db : Db) (outcome : Option Outcome) (limit : ℕ) : Prop where
  valid : ∀ s ∈ matching db outcome, (∃ lob : LineOfBusiness, lob.value = s.lineOfBusiness) ∧
    ∃ occupancy : Occupancy, occupancy.value = s.occupancy
  single : ∀ s ∈ db.submissions, (kept db outcome s).length ≤ 1
  named : ∀ s ∈ db.submissions, ∀ d ∈ kept db outcome s, ∃ o : Outcome, o.value = d.outcome
  whole : ∀ turn, Latest.Whole newest (matching db outcome) (turn * limit)

variable {db : Db} {outcome : Option Outcome} {limit : ℕ}

/-! ## The rows of the query -/

/-- The rows that the query has for a submission. -/
def shown (db : Db) (outcome : Option Outcome) (submission : Submission) : List (Submission × Option Decision) :=
  (Relational.padded submission (topDecisions db submission)).filter (Db.outcomeMatches outcome)

def rows (db : Db) (outcome : Option Outcome) : List (Submission × Option Decision) :=
  db.inboxRows.filter (Db.outcomeMatches outcome)

theorem rows_eq : rows db outcome = db.submissions.flatMap (shown db outcome) := by
  rw [rows, Inbox.inboxRows_eq, List.filter_flatMap]
  rfl

theorem shown_none (submission : Submission) :
    shown db none submission = Relational.padded submission (kept db none submission) := by
  have all : kept db none submission = topDecisions db submission := by simp [kept]
  rw [shown, all]
  exact List.filter_eq_self.mpr fun _ _ => rfl

theorem shown_some (o : Outcome) (submission : Submission) :
    shown db (some o) submission = (kept db (some o) submission).map fun d => (submission, some d) := by
  rw [shown, kept]
  cases topDecisions db submission with
  | nil => rfl
  | cons first rest =>
      rw [Relational.padded, List.filter_map]
      congr 2
      funext d
      simp [Db.outcomeMatches]

theorem shown_fst (submission : Submission) : ∀ row ∈ shown db outcome submission, row.1 = submission := by
  intro row member
  rcases Relational.mem_padded.mp (List.mem_of_mem_filter member) with ⟨-, rfl⟩ | ⟨d, -, rfl⟩ <;> rfl

/-- A decision that is shown is one that the filter keeps, and the other way round. -/
theorem shown_decision {submission : Submission} {d : Decision} :
    (submission, some d) ∈ shown db outcome submission ↔ d ∈ kept db outcome submission := by
  cases outcome with
  | none =>
      rw [shown_none, Relational.mem_padded]
      simp
  | some o =>
      rw [shown_some]
      simp

theorem shown_nonempty (submission : Submission) :
    shown db outcome submission ≠ [] ↔ outcome = none ∨ kept db outcome submission ≠ [] := by
  cases outcome with
  | none =>
      rw [shown_none, ← List.length_pos_iff, Relational.padded_length]
      exact iff_of_true (Nat.lt_of_lt_of_le Nat.one_pos (Nat.le_max_left ..)) (.inl rfl)
  | some o =>
      rw [shown_some, Ne, List.map_eq_nil_iff]
      simp

theorem shown_few (submission : Submission) :
    (shown db outcome submission).length ≤ 1 ↔ (kept db outcome submission).length ≤ 1 := by
  cases outcome with
  | none => rw [shown_none, Relational.padded_length, Nat.max_le, and_iff_right (Nat.le_refl 1)]
  | some o => rw [shown_some, List.length_map]

theorem matching_eq : matching db outcome = db.submissions.filter fun s => shown db outcome s ≠ [] :=
  List.filter_congr fun s _ => decide_eq_decide.mpr (shown_nonempty s).symm

/-- With a single row each, the rows show the matching submissions. -/
theorem rows_matching (single : ∀ s ∈ db.submissions, (kept db outcome s).length ≤ 1) :
    (rows db outcome).map (·.1) = matching db outcome := by
  rw [rows_eq, matching_eq]
  exact Relational.map_matched (fun s member => (shown_few s).mpr (single s member)) shown_fst

/-! ## Pages -/

/-- The query of a page orders its rows newest first. -/
theorem arrangement (pick : ℕ) : Latest.Arrangement (fun row => newest row.1) (rows db outcome)
    (db.inboxOrdered outcome pick) :=
  Latest.arrangement_orderBy ..

theorem ordered_length (pick : ℕ) : (db.inboxOrdered outcome pick).length = (rows db outcome).length :=
  (arrangement pick).perm.length_eq

/-- The rows of one page. -/
def pageRows (db : Db) (pick : ℕ) (outcome : Option Outcome) (limit offset : ℕ) : List (Submission × Option Decision) :=
  ((db.inboxOrdered outcome pick).drop offset).take limit

/-- What an item shows of its row, apart from the flag. -/
def Built (row : Submission × Option Decision) (item : SubmissionListItem) : Prop :=
  SubmissionRead.modelValidate row.1 = .ok item.toSubmissionRead ∧ latestOutcome row.2 = .ok item.latestOutcome

theorem page_eq (db : Db) (outcome : Option Outcome) (limit pick offset : ℕ) : ∃ boundIds,
    page db pick outcome limit offset = (pageRows db pick outcome limit offset).mapM (listItem boundIds) :=
  ⟨_, runWith_listSubmissions rfl⟩

theorem page_built {pick offset : ℕ} {items : List SubmissionListItem}
    (found : page db pick outcome limit offset = .ok items) :
    List.Forall₂ Built (pageRows db pick outcome limit offset) items := by
  obtain ⟨boundIds, same⟩ := page_eq db outcome limit pick offset
  apply (mapM_ok_iff.mp (same.symm.trans found)).imp
  intro row item made
  obtain ⟨validated, shown, -⟩ := listItem_ok made
  exact ⟨validated, shown⟩

/-- Browsing shows all rows from the offset on, each page as its query arranged them. -/
theorem browsed_rows (positive : 0 < limit) {picks : ℕ → ℕ} {offset : ℕ} {items : List SubmissionListItem}
    (browsed : Browsed db picks outcome limit offset items) :
    ∃ pages, (rows db outcome).length ≤ offset + pages * limit ∧
      List.Forall₂ Built (Latest.browse (fun offset => db.inboxOrdered outcome (picks offset)) limit pages offset)
        items := by
  induction browsed with
  | @done offset empty =>
      refine ⟨0, ?_, .nil⟩
      have none := List.forall₂_nil_right_iff.mp (page_built empty)
      rw [pageRows, List.take_eq_nil_iff, List.drop_eq_nil_iff, ordered_length] at none
      rw [Nat.zero_mul, Nat.add_zero]
      exact none.resolve_left positive.ne'
  | @next offset items rest found some accepted later ih =>
      obtain ⟨pages, enough, built⟩ := ih
      refine ⟨pages + 1, ?_, ?_⟩
      · rw [Nat.succ_mul]
        omega
      · exact List.rel_append (page_built found) built

/-- Where every row can be shown, browsing ends. -/
theorem exists_browsed (positive : 0 < limit) (total : ∀ row ∈ rows db outcome, ∀ boundIds, ∃ item,
      listItem boundIds row = .ok item)
    (accepted : ∀ offset < (rows db outcome).length, Accepted limit offset) (picks : ℕ → ℕ) (offset : ℕ) :
    ∃ items, Browsed db picks outcome limit offset items := by
  obtain ⟨boundIds, same⟩ := page_eq db outcome limit (picks offset) offset
  obtain ⟨items, built⟩ : ∃ items, page db (picks offset) outcome limit offset = .ok items := by
    rw [same]
    apply exists_built
    intro row member
    have stored := List.mem_of_mem_drop (List.mem_of_mem_take member)
    exact total row ((arrangement _).perm.mem_iff.mp stored) boundIds
  have shown := (page_built built).length_eq
  rw [pageRows, List.length_take, List.length_drop, ordered_length] at shown
  by_cases past : (rows db outcome).length ≤ offset
  · obtain rfl : items = [] := List.length_eq_zero_iff.mp (by omega)
    exact ⟨[], .done built⟩
  · obtain ⟨rest, later⟩ := exists_browsed positive total accepted picks (offset + limit)
    refine ⟨items ++ rest, .next built ?_ (accepted offset (by omega)) later⟩
    rintro rfl
    rw [List.length_nil] at shown
    omega
termination_by (rows db outcome).length - offset

/-! ## Stores that can be paged -/

section Items

variable {shown : List (Submission × Option Decision)} {items : List SubmissionListItem}

/-- What is read off a row and off its item alike. -/
theorem built_map {α : Type} {f : Submission × Option Decision → α} {g : SubmissionListItem → α}
    (built : List.Forall₂ Built shown items) (same : ∀ row item, Built row item → f row = g item) :
    shown.map f = items.map g := by
  rw [← List.forall₂_eq_eq_eq, List.forall₂_map_left_iff, List.forall₂_map_right_iff]
  exact built.imp same

theorem built_shows {submissions : List Submission} (built : List.Forall₂ Built shown items)
    (perm : (shown.map (·.1)).Perm submissions) : Shows items submissions := by
  refine ⟨shown.map (·.1), perm, ?_⟩
  rw [mapM_ok_iff, List.forall₂_map_left_iff, List.forall₂_map_right_iff]
  exact built.imp fun row item made => made.1

end Items

theorem createdAt_built {row : Submission × Option Decision} {item : SubmissionListItem} (built : Built row item) :
    row.1.time = item.createdAt := by
  obtain ⟨lob, -, validated⟩ := bind_ok built.1
  obtain ⟨occupancy, -, validated⟩ := bind_ok validated
  have same := congrArg SubmissionRead.createdAt (Except.ok.inj validated)
  exact same

/-- Every row of an uncut store can be shown. -/
theorem Uncut.total (uncut : Uncut db outcome limit) :
    ∀ row ∈ rows db outcome, ∀ boundIds, ∃ item, listItem boundIds row = .ok item := by
  rintro ⟨s, found⟩ member boundIds
  have matched : s ∈ matching db outcome := by
    rw [← rows_matching uncut.single]
    exact List.mem_map_of_mem (f := (·.1)) member
  obtain ⟨read, validated⟩ := modelValidate_iff.mpr (uncut.valid s matched)
  obtain ⟨outcome', shown⟩ : ∃ outcome', latestOutcome found = .ok outcome' := by
    cases found with
    | none => exact ⟨none, rfl⟩
    | some d =>
        rw [rows_eq] at member
        obtain ⟨s', stored, member⟩ := List.mem_flatMap.mp member
        obtain rfl := shown_fst s' _ member
        obtain ⟨o, named⟩ := uncut.named s stored d (shown_decision.mp member)
        obtain ⟨found, known⟩ := o.ofValue_value
        rw [named] at known
        simp only [latestOutcome, known]
        exact ⟨_, rfl⟩
  exact exists_listItem validated shown boundIds

theorem Uncut.pageable (uncut : Uncut db outcome limit) (few : db.submissions.length ≤ 1000000)
    (bounds : 1 ≤ limit ∧ limit ≤ 200) : Pageable db outcome limit := by
  intro picks
  have same := rows_matching uncut.single
  have accepted : ∀ offset < (rows db outcome).length, Accepted limit offset := by
    intro offset inside
    have length : (rows db outcome).length ≤ db.submissions.length := by
      rw [← List.length_map (·.1), same]
      exact List.length_filter_le ..
    exact ⟨{ limit, offset, limitBounds := bounds, offsetBound := by omega }, rfl, rfl⟩
  obtain ⟨items, browsed⟩ := exists_browsed bounds.1 uncut.total accepted picks 0
  obtain ⟨pages, enough, built⟩ := browsed_rows bounds.1 browsed
  have whole : ∀ turn, Latest.Whole (fun row => newest row.1) (rows db outcome) (turn * limit) := by
    intro turn
    rw [← Latest.whole_map, same]
    exact uncut.whole turn
  obtain ⟨perm, sorted⟩ := Latest.browse_all (fun offset => arrangement (picks offset)) whole
    (Nat.zero_add _ ▸ enough)
  refine ⟨items, browsed, built_shows built ((perm.map _).trans (.of_eq same)), ?_⟩
  have times := built_map built fun row item => createdAt_built
  have newestFirst : (items.map (·.createdAt)).Pairwise fun a b => b ≤ a := by
    rw [← times]
    exact List.pairwise_map.mpr sorted
  exact List.pairwise_map.mp newestFirst

theorem Pageable.uncut (pageable : Pageable db outcome limit) (keyed : db.Keyed) (positive : 0 < limit) :
    Uncut db outcome limit := by
  obtain ⟨items, browsed, complete⟩ := pageable fun _ => 0
  obtain ⟨pages, enough, built⟩ := browsed_rows positive browsed
  have same : Latest.browse (fun offset => db.inboxOrdered outcome ((fun _ => 0) offset)) limit pages 0 =
      ((db.inboxOrdered outcome 0).drop 0).take (pages * limit) := Latest.browse_const fun _ _ => rfl
  rw [same, List.drop_zero, List.take_of_length_le (by rw [ordered_length]; omega)] at built
  have length : (rows db outcome).length = (matching db outcome).length := by
    rw [← ordered_length 0, built.length_eq, complete.once.length]
  have single : ∀ s ∈ db.submissions, (kept db outcome s).length ≤ 1 := by
    rw [rows_eq, matching_eq] at length
    exact fun s member => (shown_few s).mp (Relational.few_of_length length s member)
  refine ⟨fun s member => complete.once.valid member, single, ?named, ?whole⟩
  case named =>
    intro s member d keeps
    have row : (s, some d) ∈ rows db outcome := by
      rw [rows_eq]
      exact List.mem_flatMap.mpr ⟨s, member, shown_decision.mpr keeps⟩
    obtain ⟨i, inside, at_i⟩ := List.getElem_of_mem ((arrangement 0).perm.mem_iff.mpr row)
    have shown := (List.Forall₂.get built inside (built.length_eq ▸ inside)).2
    rw [List.get_eq_getElem, at_i] at shown
    obtain ⟨o, known, -⟩ := bind_ok shown
    exact ⟨o, enumOf_ok known⟩
  case whole =>
    intro turn
    by_contra cut
    rw [← rows_matching single, Latest.whole_map] at cut
    obtain ⟨picks, repeats⟩ := Latest.exists_repeat cut
    obtain ⟨items, browsed, complete⟩ := pageable picks
    obtain ⟨pages, enough, built⟩ := browsed_rows positive browsed
    rw [Nat.zero_add] at enough
    apply repeats pages enough
    apply List.Nodup.of_map fun row => row.1.id
    have ids := built_map built (f := fun row => row.1.id) (g := (·.id)) fun row item made =>
      (modelValidate_id made.1).symm
    have keys : ((matching db outcome).map (·.id)).Nodup :=
      keyed.submissionId.sublist (List.filter_sublist.map _)
    have unique := complete.once.ids.nodup_iff.mpr keys
    rw [← ids] at unique
    exact unique

/-- On every store of up to a million submissions, and for every filter and page size the
    route takes, browsing page by page gives each matching submission once, newest first,
    exactly if the store is uncut by the pages. -/
theorem paging_complete_iff (db : Db) (keyed : db.Keyed) (few : db.submissions.length ≤ 1000000)
    (outcome : Option Outcome) (limit : ℕ) (bounds : 1 ≤ limit ∧ limit ≤ 200) :
    Pageable db outcome limit ↔ Uncut db outcome limit :=
  ⟨fun pageable => pageable.uncut keyed bounds.1, fun uncut => uncut.pageable few bounds⟩

/-- An office submission of one counterparty. -/
def office (id : String) (time : ℕ) : Submission :=
  ⟨⟨"c", "commercial_property", 100000, "office", "FR", "75001", "fire", none⟩, ⟨id, time⟩⟩

/-- Three submissions at different times. -/
def apart : Db where
  counterparties := [⟨⟨"Acme", "FR"⟩, ⟨"c", 1⟩⟩]
  submissions := [office "r" 2, office "s" 3, office "t" 4]

/-- Two pages of two show all three. -/
theorem apart_pageable : Pageable apart none 2 := by
  refine (paging_complete_iff apart (by decide) (by decide) none 2 (by decide)).mpr ⟨?_, by decide, ?_, ?_⟩
  · intro s member
    have stored : s ∈ apart.submissions := List.mem_of_mem_filter member
    simp only [apart, List.mem_cons, List.not_mem_nil, or_false] at stored
    rcases stored with rfl | rfl | rfl <;> exact ⟨⟨.commercialProperty, rfl⟩, .office, rfl⟩
  · intro s _ d keeps
    exact nomatch keeps
  · exact fun turn => Latest.whole_of_distinct (by decide) (turn * 2)

/-- Two submissions created at the same time. -/
def level : Db where
  counterparties := [⟨⟨"Acme", "FR"⟩, ⟨"c", 1⟩⟩]
  submissions := [office "s" 2, office "t" 2]

/-- Pages of one may show the same submission twice, and the other not at all. -/
theorem level_repeats : level.Keyed ∧
    (∃ pick, (page level 0 none 1 0).toOption.map (·.map (·.id)) = some ["s"] ∧
      (page level pick none 1 1).toOption.map (·.map (·.id)) = some ["s"] ∧
      (page level pick none 1 2).toOption.map (·.map (·.id)) = some []) ∧
    ¬Pageable level none 1 := by
  refine ⟨by decide, ?_, fun pageable => ?_⟩
  · obtain ⟨pick, swapped⟩ : ∃ pick, level.inboxOrdered none pick = [(office "t" 2, none), (office "s" 2, none)] :=
      Latest.exists_orderBy (.swap ..) (by decide)
    obtain ⟨boundIds, second⟩ := page_eq level none 1 pick 1
    obtain ⟨boundIds', third⟩ := page_eq level none 1 pick 2
    rw [pageRows, swapped] at second third
    refine ⟨pick, by decide +kernel, ?_⟩
    rw [second, third]
    exact ⟨rfl, rfl⟩
  · have member : office "s" 2 ∈ matching level none := List.mem_filter.mpr ⟨List.mem_cons_self, rfl⟩
    have whole := (pageable.uncut (by decide) Nat.one_pos).whole 1 (office "s" 2) member
    revert whole
    decide

end Underwriting.Paging
