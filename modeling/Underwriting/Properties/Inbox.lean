import Underwriting.Submission.Inbox

/-! # The inbox and the file

`list_submissions` joins each submission with its decisions at the latest time,
`latest_decision` takes one decision in the order of time. The two agree on a store
exactly if no submission has two decisions at its latest time and every text the
list shows is a member of its enum.
-/

namespace Underwriting.Inbox

open SubmissionService

/-- What `list_submissions` returns for a store. -/
def listed (db : Db) (pick : ℕ) (outcome : Option Outcome) (limit : ℕ) : Except PyErr (List SubmissionListItem) :=
  (listSubmissions outcome limit 0).runWith fun c => .ok (db.read pick c)

/-- What `latest_decision` returns for a store. -/
def latestDecision (db : Db) (pick : ℕ) (submissionId : String) : Option Decision :=
  (db.query pick (.latestDecision submissionId) : Option (Option Decision)).join

/-- The limit cuts off no row of the query. -/
def Uncut (db : Db) (outcome : Option Outcome) (limit : ℕ) : Prop :=
  (db.inboxRows.filter (Db.outcomeMatches outcome)).length ≤ limit

/-- The items show the submissions, each of them once, in some order. -/
def Shows (items : List SubmissionListItem) (submissions : List Submission) : Prop :=
  ∃ ordered : List Submission, ordered.Perm submissions ∧
    ordered.mapM SubmissionRead.modelValidate = .ok (items.map (·.toSubmissionRead))

/-- The inbox agrees with the file, however the database orders equal rows. -/
structure Agrees (db : Db) : Prop where
  unfiltered : ∀ pick limit, Uncut db none limit → ∃ items, listed db pick none limit = .ok items ∧
    Shows items db.submissions ∧ ∀ item ∈ items,
      (∀ pick', item.latestOutcome.map Outcome.value = (latestDecision db pick' item.id).map (·.outcome)) ∧
        (item.bound ↔ db.Bound item.id)
  filtered : ∀ o pick limit, Uncut db (some o) limit → ∃ items, listed db pick (some o) limit = .ok items ∧
    ∀ pick', Shows items (db.submissions.filter fun s => (latestDecision db pick' s.id).any (·.outcome = o.value))

/-- A submission's decisions at its latest time. -/
def topDecisions (db : Db) (submission : Submission) : List Decision :=
  Latest.tops Decision.latestKey (db.decisionsOf submission.id)

/-- Every submission has values of the two enums, and at most one decision at its
    latest time, whose outcome is one of the three. -/
structure Clear (db : Db) : Prop where
  valid : ∀ s ∈ db.submissions, (∃ lob : LineOfBusiness, lob.value = s.lineOfBusiness) ∧
    ∃ occupancy : Occupancy, occupancy.value = s.occupancy
  single : ∀ s ∈ db.submissions, (topDecisions db s).length ≤ 1
  outcome : ∀ s ∈ db.submissions, ∀ d ∈ topDecisions db s, ∃ o : Outcome, o.value = d.outcome

variable {db : Db}

/-! ## What the query answers -/

/-- The latest time of a submission, if it has been assessed. -/
def latestTime (db : Db) (submission : Submission) : Option (String × ℕ) :=
  (Relational.greatest ((db.decisionsOf submission.id).map fun d => d.time)).map (submission.id, ·)

/-- At that time stand the top decisions. -/
theorem decisions_at_latest (submission : Submission) :
    (db.decisions.filter fun d => d.submissionId = submission.id ∧
      (latestTime db submission).map (·.2) = some d.time) = topDecisions db submission := by
  have within : (db.decisions.filter fun d => d.submissionId = submission.id ∧
      (latestTime db submission).map (·.2) = some d.time) =
        (db.decisionsOf submission.id).filter fun d => (latestTime db submission).map (·.2) = some d.time := by
    rw [Db.decisionsOf, List.filter_filter]
    refine List.filter_congr fun d _ => ?_
    simp only [Bool.decide_and, Bool.and_comm]
  rw [within, topDecisions, Latest.tops]
  refine List.filter_congr fun d member => decide_eq_decide.mpr ?_
  have times : (latestTime db submission).map (·.2) =
      Relational.greatest ((db.decisionsOf submission.id).map fun d => d.time) := by
    rw [latestTime, Option.map_map]
    exact congrFun Option.map_id _
  rw [times, Relational.greatest_spec]
  simp only [List.forall_mem_map, Decision.latestKey]
  exact and_iff_right (List.mem_map_of_mem member)

/-- The two joins: each submission beside its top decisions, or alone. -/
theorem inboxRows_eq : db.inboxRows = db.submissions.flatMap fun s => Relational.padded s (topDecisions db s) := by
  have timed : Relational.outerJoin (fun (s : Submission) latest => latest.1 = s.id) db.submissions db.latestTimes =
      db.submissions.map fun s => (s, latestTime db s) :=
    Relational.outerJoin_unique (latestTime db) db.submissions fun s _ => Relational.groupMax_filter s.id
  rw [Db.inboxRows, timed, Relational.outerJoin, List.flatMap_map, List.map_flatMap]
  refine congrArg (List.flatMap · db.submissions) (funext fun s => ?_)
  rw [decisions_at_latest]
  cases topDecisions db s with
  | nil => rfl
  | cons first rest => simp only [Relational.padded, List.map_map, Function.comp_def]

/-- A row of the query is a submission beside one of its latest decisions, or beside none
    if it has none. -/
theorem mem_inboxRows {row : Submission × Option Decision} (member : row ∈ db.inboxRows) :
    row.1 ∈ db.submissions ∧ (∀ d, row.2 = some d → d ∈ topDecisions db row.1) ∧
      (row.2 = none → db.decisionsOf row.1.id = []) := by
  rw [inboxRows_eq] at member
  obtain ⟨s, stored, padded⟩ := List.mem_flatMap.mp member
  rcases Relational.mem_padded.mp padded with ⟨empty, rfl⟩ | ⟨d, top, rfl⟩
  · refine ⟨stored, fun d found => (nomatch found), fun _ => ?_⟩
    by_contra assessed
    obtain ⟨d, top⟩ : ∃ d, d ∈ topDecisions db s := Latest.exists_top assessed
    rw [empty] at top
    exact List.not_mem_nil top
  · refine ⟨stored, fun d' found => ?_, fun absent => (nomatch absent)⟩
    cases found
    exact top

/-- The uncut list shows the rows of the query, each with the flag of its submission. -/
theorem listed_eq (pick : ℕ) {limit : ℕ} {outcome : Option Outcome} (uncut : Uncut db outcome limit) :
    ∃ boundIds, (∀ row ∈ db.inboxOrdered outcome pick, row.1.id ∈ boundIds ↔ db.Bound row.1.id) ∧
      listed db pick outcome limit = (db.inboxOrdered outcome pick).mapM (listItem boundIds) := by
  have whole : ((db.inboxOrdered outcome pick).drop 0).take limit = db.inboxOrdered outcome pick := by
    apply List.take_of_length_le
    rw [List.drop_zero, Db.inboxOrdered, (Latest.orderBy_perm _ _ pick).length_eq]
    exact uncut
  refine ⟨_, fun row member => ?_, runWith_listSubmissions whole⟩
  have asked : row.1.id ∈ (db.inboxOrdered outcome pick).map fun row => row.1.id := List.mem_map_of_mem member
  simp only [Db.read, List.mem_map, List.mem_filter, decide_eq_true_eq, Db.Bound]
  constructor
  · rintro ⟨b, ⟨stored, -⟩, owner⟩
    exact ⟨b, stored, owner⟩
  · rintro ⟨b, stored, owner⟩
    exact ⟨b, ⟨stored, List.mem_map.mp (owner ▸ asked)⟩, owner⟩

/-! ## The items -/

section Items

variable {boundIds : List String} {rows : List (Submission × Option Decision)} {items : List SubmissionListItem}

/-- The items show the submissions of the rows. -/
theorem shows_of_built {submissions : List Submission} (built : rows.mapM (listItem boundIds) = .ok items)
    (perm : (rows.map (·.1)).Perm submissions) : Shows items submissions := by
  refine ⟨rows.map (·.1), perm, ?_⟩
  rw [mapM_ok_iff, List.forall₂_map_left_iff, List.forall₂_map_right_iff]
  exact (mapM_ok_iff.mp built).imp fun row item made => (listItem_ok made).1

/-- Every item was built from a row. -/
theorem exists_row (built : rows.mapM (listItem boundIds) = .ok items) {item : SubmissionListItem}
    (member : item ∈ items) : ∃ row ∈ rows, listItem boundIds row = .ok item := by
  obtain ⟨i, inside, rfl⟩ := List.getElem_of_mem member
  have each := mapM_ok_iff.mp built
  have inside' : i < rows.length := each.length_eq ▸ inside
  exact ⟨rows[i], List.getElem_mem inside', List.Forall₂.get each inside' inside⟩

/-- Every row was built into an item. -/
theorem exists_item (built : rows.mapM (listItem boundIds) = .ok items) {row : Submission × Option Decision}
    (member : row ∈ rows) : ∃ item ∈ items, listItem boundIds row = .ok item := by
  obtain ⟨i, inside, rfl⟩ := List.getElem_of_mem member
  have each := mapM_ok_iff.mp built
  have inside' : i < items.length := each.length_eq ▸ inside
  exact ⟨items[i], List.getElem_mem inside', List.Forall₂.get each inside inside'⟩

theorem exists_built (total : ∀ row ∈ rows, ∃ item, listItem boundIds row = .ok item) :
    ∃ items, rows.mapM (listItem boundIds) = .ok items := by
  induction rows with
  | nil => exact ⟨[], rfl⟩
  | cons row rest ih =>
      obtain ⟨item, made⟩ := total row List.mem_cons_self
      obtain ⟨items, built⟩ := ih fun row member => total row (List.mem_cons_of_mem _ member)
      exact ⟨item :: items, mapM_ok_iff.mpr (.cons made (mapM_ok_iff.mp built))⟩

/-- Only submissions with values of the two enums can be shown. -/
theorem Shows.valid {submissions : List Submission} (shows : Shows items submissions) {s : Submission}
    (member : s ∈ submissions) : (∃ lob : LineOfBusiness, lob.value = s.lineOfBusiness) ∧
      ∃ occupancy : Occupancy, occupancy.value = s.occupancy := by
  obtain ⟨ordered, same, validated⟩ := shows
  have each := mapM_ok_iff.mp validated
  obtain ⟨i, inside, rfl⟩ := List.getElem_of_mem (same.mem_iff.mpr member)
  exact modelValidate_iff.mp ⟨_, List.Forall₂.get each inside (each.length_eq ▸ inside)⟩

/-- The ids of the items are those of the submissions. -/
theorem Shows.ids {submissions : List Submission} (shows : Shows items submissions) :
    (items.map (·.id)).Perm (submissions.map (·.id)) := by
  obtain ⟨ordered, perm, validated⟩ := shows
  have same : ordered.map (·.id) = items.map (·.id) := by
    rw [← List.forall₂_eq_eq_eq, List.forall₂_map_left_iff, List.forall₂_map_right_iff]
    have each := mapM_ok_iff.mp validated
    rw [List.forall₂_map_right_iff] at each
    exact each.imp fun s item read => (modelValidate_id read).symm
  exact same ▸ perm.map _

theorem Shows.length {submissions : List Submission} (shows : Shows items submissions) :
    items.length = submissions.length := by
  obtain ⟨ordered, perm, validated⟩ := shows
  rw [← perm.length_eq, (mapM_ok_iff.mp validated).length_eq, List.length_map]

end Items

/-! ## A clear store -/

section Clear

theorem latestDecision_eq (clear : Clear db) {s : Submission} (member : s ∈ db.submissions) (pick : ℕ) :
    latestDecision db pick s.id = (topDecisions db s).head? := by
  change (topDecisions db s)[pick % (topDecisions db s).length]? = _
  have single := clear.single s member
  cases tops : topDecisions db s with
  | nil => rfl
  | cons first rest =>
      rw [tops] at single
      obtain rfl : rest = [] := List.length_eq_zero_iff.mp (by simpa using single)
      simp only [List.length_cons, List.length_nil, Nat.zero_add, Nat.mod_one, List.getElem?_cons_zero, List.head?_cons]

/-- The query has one row for each submission. -/
theorem inboxRows_clear (clear : Clear db) (pick : ℕ) :
    db.inboxRows = db.submissions.map fun s => (s, latestDecision db pick s.id) := by
  rw [inboxRows_eq, List.map_eq_flatMap]
  refine List.flatMap_congr fun s member => ?_
  have few := clear.single s member
  rw [latestDecision_eq clear member pick]
  cases tops : topDecisions db s with
  | nil => rfl
  | cons first rest =>
      rw [tops] at few
      obtain rfl : rest = [] := List.length_eq_zero_iff.mp (by simpa using few)
      rfl

/-- The rows that match show the submissions that match. -/
theorem ordered_clear (clear : Clear db) (outcome : Option Outcome) (pick pick' : ℕ) :
    ((db.inboxOrdered outcome pick).map (·.1)).Perm
      (db.submissions.filter fun s => Db.outcomeMatches outcome (s, latestDecision db pick' s.id)) := by
  refine ((Latest.orderBy_perm _ _ pick).map _).trans ?_
  rw [inboxRows_clear clear pick', List.filter_map, List.map_map]
  exact .of_eq (List.map_id _)

theorem latestDecision_shown (clear : Clear db) {s : Submission} (member : s ∈ db.submissions) (pick : ℕ) :
    ∃ outcome, latestOutcome (latestDecision db pick s.id) = .ok outcome := by
  rw [latestDecision_eq clear member pick]
  cases tops : topDecisions db s with
  | nil => exact ⟨none, rfl⟩
  | cons first rest =>
      obtain ⟨o, named⟩ := clear.outcome s member first (tops ▸ List.mem_cons_self)
      obtain ⟨found, known⟩ := o.ofValue_value
      rw [named] at known
      simp only [List.head?_cons, latestOutcome, known]
      exact ⟨_, rfl⟩

/-- Every list of a clear store is built, and shows the submissions that match. -/
theorem listed_clear (clear : Clear db) {outcome : Option Outcome} (pick : ℕ) {limit : ℕ}
    (uncut : Uncut db outcome limit) :
    ∃ items, listed db pick outcome limit = .ok items ∧
      (∀ pick', Shows items
        (db.submissions.filter fun s => Db.outcomeMatches outcome (s, latestDecision db pick' s.id))) ∧
      ∀ item ∈ items,
        (∀ pick', item.latestOutcome.map Outcome.value = (latestDecision db pick' item.id).map (·.outcome)) ∧
        (item.bound ↔ db.Bound item.id) := by
  obtain ⟨boundIds, flags, listed⟩ := listed_eq pick uncut
  have known : ∀ pick', ∀ row ∈ db.inboxOrdered outcome pick, row.1 ∈ db.submissions ∧
      row.2 = latestDecision db pick' row.1.id := by
    intro pick' row member
    have matched := List.mem_of_mem_filter ((Latest.orderBy_perm _ _ pick).mem_iff.mp member)
    rw [inboxRows_clear clear pick'] at matched
    obtain ⟨s, stored, rfl⟩ := List.mem_map.mp matched
    exact ⟨stored, rfl⟩
  have total : ∀ row ∈ db.inboxOrdered outcome pick, ∃ item, listItem boundIds row = .ok item := by
    intro row member
    obtain ⟨stored, latest⟩ := known pick row member
    obtain ⟨read, validated⟩ := modelValidate_iff.mpr (clear.valid row.1 stored)
    obtain ⟨outcome, shown⟩ := latestDecision_shown clear stored pick
    exact exists_listItem validated (latest ▸ shown) boundIds
  obtain ⟨items, built⟩ := exists_built total
  refine ⟨items, listed.trans built, fun pick' => shows_of_built built (ordered_clear clear outcome pick pick'), ?_⟩
  intro item member
  obtain ⟨row, at_row, made⟩ := exists_row built member
  obtain ⟨validated, shown, flag⟩ := listItem_ok made
  have same : item.id = row.1.id := modelValidate_id validated
  constructor
  · intro pick'
    rw [same, latestOutcome_ok shown, (known pick' row at_row).2]
  · rw [flag, same, decide_eq_true_eq]
    exact flags row at_row

theorem Clear.agrees (clear : Clear db) : Agrees db := by
  constructor
  · intro pick limit uncut
    obtain ⟨items, listed, shows, right⟩ := listed_clear clear pick uncut
    have every : (db.submissions.filter fun s => Db.outcomeMatches none (s, latestDecision db 0 s.id)) =
        db.submissions :=
      List.filter_eq_self.mpr fun _ _ => rfl
    exact ⟨items, listed, every ▸ shows 0, right⟩
  · intro o pick limit uncut
    obtain ⟨items, listed, shows, -⟩ := listed_clear clear pick uncut
    exact ⟨items, listed, shows⟩

end Clear

/-! ## A store whose inbox agrees -/

/-- A list that shows every submission once leaves nothing unclear. -/
theorem Agrees.clear (agrees : Agrees db) : Clear db := by
  have uncut : Uncut db none (db.inboxRows.filter (Db.outcomeMatches none)).length := Nat.le_refl _
  obtain ⟨items, listed, shows, -⟩ := agrees.unfiltered 0 _ uncut
  obtain ⟨boundIds, -, listed'⟩ := listed_eq 0 uncut
  have built := listed'.symm.trans listed
  have perm : (db.inboxOrdered none 0).Perm db.inboxRows :=
    (Latest.orderBy_perm _ _ 0).trans (.of_eq (List.filter_eq_self.mpr fun _ _ => rfl))
  refine ⟨?valid, ?single, ?outcome⟩
  case valid => exact fun s member => shows.valid member
  case single =>
    refine Relational.matches_of_length ?_
    rw [← inboxRows_eq, ← perm.length_eq, (mapM_ok_iff.mp built).length_eq, shows.length]
  case outcome =>
    intro s member d top
    have row : (s, some d) ∈ db.inboxRows := by
      rw [inboxRows_eq]
      exact List.mem_flatMap.mpr ⟨s, member, Relational.mem_padded.mpr (.inr ⟨d, top, rfl⟩)⟩
    obtain ⟨item, -, made⟩ := exists_item built (perm.mem_iff.mpr row)
    obtain ⟨outcome, known, -⟩ := bind_ok (listItem_ok made).2.1
    exact ⟨outcome, enumOf_ok known⟩

/-- On every store, and whatever the database does with equal rows, the inbox agrees
    with the file exactly if the store is clear. -/
theorem inbox_agrees_iff (db : Db) : Agrees db ↔ Clear db := ⟨Agrees.clear, Clear.agrees⟩

/-- One submission, accepted and referred at the same time. -/
def tied : Db where
  counterparties := [⟨⟨"Acme", "FR"⟩, ⟨"c", 1⟩⟩]
  submissions := [⟨⟨"c", "commercial_property", 100000, "office", "FR", "75001", "fire", none⟩, ⟨"s", 2⟩⟩]
  decisions := [⟨⟨"s", "accept", ["WITHIN_APPETITE"], 1, "ann"⟩, ⟨"d", 10⟩⟩,
    ⟨⟨"s", "refer", ["TIV_ABOVE_AUTHORITY"], 2, "ann"⟩, ⟨"e", 10⟩⟩]

/-- It is listed twice, under two outcomes. -/
theorem tied_listed_twice : tied.Keyed ∧
    (listed tied 0 none 50).toOption.map (·.map fun item => (item.id, item.latestOutcome)) =
      some [("s", some .accept), ("s", some .refer)] ∧
    ¬ Agrees tied := by
  refine ⟨by decide, by decide +kernel, fun agrees => ?_⟩
  have single := agrees.clear.single _ List.mem_cons_self
  revert single
  decide +kernel

end Underwriting.Inbox
