import Underwriting.Lib.Exclusive
import Underwriting.Lib.Serial
import Underwriting.Startup.Lifespan

/-! # Seeding by many replicas

A seed looks for a version and inserts it if there is none. Two replicas that look
before either has committed both insert, and the second of them fails. Where no
replica looks for a version while another has found it missing and has not committed
it, every replica ends without an exception and the tables get what they lacked.
-/

namespace Underwriting.Startup

open Interleaving

/-! ## The condition and the promise -/

section Definitions

variable {K : Type}

/-- The query that found nothing last, as long as no commit has followed. -/
def undone (log : List ((c : Call) × Reply c)) : Option Query :=
  log.foldl (fun before entry => match entry with
    | ⟨.scalar query, none⟩ => some query
    | ⟨.commit, _⟩ => none
    | _ => before) none

/-- The query a replica makes next. -/
def looksUp (C : Control Reply PyErr ℕ K) (t : Thread Reply ℕ Tables K) : Option Query :=
  match t.awaits C with
  | some (.scalar query) => some query
  | _ => none

/-- A replica looks for a row only while none that has found it missing is on its way
    to commit it. -/
def Apart (C : Control Reply PyErr ℕ K) (s : Sys Reply ℕ Tables Tables K) : Choice ℕ Fate Empty → Prop
  | .run i _ => ∀ t ∈ s.threads[i]?, ∀ query ∈ looksUp C t, ∀ u ∈ s.threads, u.Live C → undone u.log ≠ some query
  | .start _ | .crash _ | .env _ => True

instance decidableApart (C : Control Reply PyErr ℕ K) (s : Sys Reply ℕ Tables Tables K)
    (choice : Choice ℕ Fate Empty) : Decidable (Apart C s choice) :=
  match choice with
  | .run i _ => inferInstanceAs (Decidable (∀ t ∈ s.threads[i]?, ∀ query ∈ looksUp C t, ∀ u ∈ s.threads,
      u.Live C → undone u.log ≠ some query))
  | .start _ | .crash _ | .env _ => .isTrue trivial

end Definitions

/-- Version 1 of a table without rows, and version 2 of the rate tables if there is none. -/
def missing (initial : Tables) : Table → List NewVersion
  | .appetiteRuleset => if initial .appetiteRuleset = [] then [⟨1, Appetite.v1Rules⟩] else []
  | .rateTable =>
      (if initial .rateTable = [] then [⟨1, Rating.v1Rules⟩] else []) ++
        if ∀ row ∈ initial .rateTable, row.version ≠ 2 then [⟨2, Rating.v2Rules⟩] else []

/-- What seeding promises of a state it has reached. -/
structure Seeded (initial : Tables) (s : Sys Reply ℕ Tables Tables (Program Unit)) : Prop where
  /-- A replica that has ended without returning has died. -/
  raised : ∀ t ∈ s.threads, ∀ err, t.ctl = .raise err → err = .died
  kept : ∀ table, initial table <+: s.world table
  unique : s.world.Unique
  /-- Once a replica has finished, the tables have what they lacked and no more. -/
  complete : (∃ t ∈ s.threads, t.ctl = .ret ()) → ∀ table, ∃ added,
    s.world table = initial table ++ added ∧ added.map Row.toNewVersion = missing initial table
  current : (∃ t ∈ s.threads, t.ctl = .ret ()) → ∀ table pick, ∃ row ∈ s.world table,
    (Query.current table).scalar s.world pick = some row ∧ ∀ other ∈ s.world table, other.version ≤ row.version
  /-- No replica goes on for ever. -/
  bounded : ∀ t ∈ s.threads, t.done.length ≤ 9 * (t.req + 1)
  /-- Some replica can go on, as long as one has not ended. -/
  enabled : ¬ Quiet replicas s → ∃ i fate, Apart replicas s (.run i fate) ∧
    (step backend replicas s (.run i fate)).isSome

/-! ## Tables -/

namespace Tables

variable {w : Tables} {table : Table} {row : Row}

@[simp] theorem append_empty (w : Tables) : w.append .empty = w := funext fun _ => List.append_nil _

@[simp] theorem append_insert (w : Tables) (table : Table) (row : Row) :
    w.append (empty.insert table row) = w.insert table row := rfl

@[simp] theorem insert_self : w.insert table row table = w table ++ [row] := by
  simp only [insert, ↓reduceIte]

theorem insert_other {other : Table} (different : other ≠ table) : w.insert table row other = w other := by
  simp only [insert, different, ↓reduceIte, List.append_nil]

theorem prefix_insert (w : Tables) (table : Table) (row : Row) (other : Table) :
    w other <+: w.insert table row other := List.prefix_append _ _

/-- A row with a new version may be inserted. -/
theorem Unique.insert (unique : w.Unique) (fresh : ∀ old ∈ w table, old.version ≠ row.version) :
    (w.insert table row).Unique := by
  intro other
  by_cases same : other = table
  · subst same
    rw [insert_self]
    apply Db.nodup_snoc (unique other)
    intro member
    obtain ⟨old, found, taken⟩ := List.mem_map.mp member
    exact fresh old found taken
  · rw [insert_other same]
    exact unique other

end Tables

/-! ## Seeds -/

namespace Seed

/-- There is no row of the kind that the seed looks for. -/
def Absent (w : Tables) : Seed → Prop
  | .rulesetV1 => w .appetiteRuleset = []
  | .rateTableV1 => w .rateTable = []
  | .rateTableV2 => ∀ row ∈ w .rateTable, row.version ≠ 2

/-- The place of a seed in the lifespan. -/
def order : Seed → ℕ
  | .rulesetV1 => 0
  | .rateTableV1 => 1
  | .rateTableV2 => 2

/-- The seeds before this one have been installed. -/
def Ready (w : Tables) (σ : Seed) : Prop := ∀ τ, order τ < order σ → ¬ Absent w τ

variable {w : Tables} {σ τ : Seed} {stamp : Stamp}

theorem scalar_eq_none {pick : ℕ} : σ.lookup.scalar w pick = none ↔ Absent w σ := by
  cases σ with
  | rulesetV1 | rateTableV1 => exact Latest.limitOne_eq_none
  | rateTableV2 => simp only [lookup, Query.scalar, List.find?_eq_none, decide_eq_true_eq, Absent, ne_eq]

/-- Where a seed finds nothing, its version is free. -/
theorem Absent.fresh (absent : Absent w σ) : ∀ row ∈ w σ.table, row.version ≠ σ.new.version := by
  cases σ with
  | rulesetV1 | rateTableV1 =>
      simp only [Absent] at absent
      simp only [table, absent, List.not_mem_nil, IsEmpty.forall_iff, implies_true]
  | rateTableV2 => exact absent

theorem present_insert {table : Table} {row : Row} (present : ¬ Absent w τ) : ¬ Absent (w.insert table row) τ := by
  have kept := (Tables.prefix_insert w table row)
  cases τ with
  | rulesetV1 | rateTableV1 => exact fun empty => present (List.prefix_nil.mp (empty ▸ kept _))
  | rateTableV2 => exact fun none_found => present fun old member => none_found old ((kept _).subset member)

theorem present_self (w : Tables) (σ : Seed) (stamp : Stamp) : ¬ Absent (w.insert σ.table ⟨σ.new, stamp⟩) σ := by
  cases σ with
  | rulesetV1 | rateTableV1 => simp [Absent, table, Tables.insert]
  | rateTableV2 => exact fun none_found => none_found ⟨Seed.new .rateTableV2, stamp⟩ (by simp [table]) rfl

/-- A seed changes nothing for the seeds after it and for those before it. -/
theorem absent_insert (ready : Ready w σ) (other : τ ≠ σ) :
    Absent (w.insert σ.table ⟨σ.new, stamp⟩) τ ↔ Absent w τ := by
  constructor
  · exact fun absent => by_contra fun present => present_insert present absent
  · intro absent
    have later : ¬ order τ < order σ := fun before => ready τ before absent
    cases τ with
    | rulesetV1 =>
        cases σ with
        | rulesetV1 => exact absurd rfl other
        | rateTableV1 | rateTableV2 => exact (Tables.insert_other (by decide)).trans absent
    | rateTableV1 =>
        cases σ with
        | rulesetV1 => exact (Tables.insert_other (by decide)).trans absent
        | rateTableV1 => exact absurd rfl other
        | rateTableV2 => exact absurd Nat.one_lt_two later
    | rateTableV2 =>
        intro row member
        cases σ with
        | rulesetV1 =>
            rw [Tables.insert_other (by decide)] at member
            exact absent row member
        | rateTableV1 =>
            rw [show Table.rateTable = table .rateTableV1 from rfl, Tables.insert_self] at member
            exact Lists.forall_mem_snoc absent (by decide : (1 : ℤ) ≠ 2) row member
        | rateTableV2 => exact absurd rfl other

end Seed

/-! ## What the tables have got -/

section Filled

open Seed

instance decidableAbsent (w : Tables) (σ : Seed) : Decidable (Absent w σ) :=
  match σ with
  | .rulesetV1 => inferInstanceAs (Decidable (w .appetiteRuleset = []))
  | .rateTableV1 => inferInstanceAs (Decidable (w .rateTable = []))
  | .rateTableV2 => inferInstanceAs (Decidable (∀ row ∈ w .rateTable, row.version ≠ 2))

/-- What a seed has added since the start. -/
def due (initial w : Tables) (σ : Seed) : List NewVersion :=
  if Absent initial σ ∧ ¬ Absent w σ then [σ.new] else []

def added (initial w : Tables) : Table → List NewVersion
  | .appetiteRuleset => due initial w .rulesetV1
  | .rateTable => due initial w .rateTableV1 ++ due initial w .rateTableV2

/-- The tables are the initial ones and what the seeds have added. -/
structure Filled (initial w : Tables) : Prop where
  unique : w.Unique
  grown : ∀ table, ∃ rows, w table = initial table ++ rows ∧ rows.map Row.toNewVersion = added initial w table

variable {initial w : Tables} {σ : Seed} {stamp : Stamp}

theorem due_of_absent (absent : Absent w σ) : due initial w σ = [] :=
  if_neg fun ⟨_, present⟩ => present absent

theorem due_of_present (absent : Absent initial σ) (present : ¬ Absent w σ) : due initial w σ = [σ.new] :=
  if_pos ⟨absent, present⟩

theorem due_insert {τ : Seed} (ready : Ready w σ) (other : τ ≠ σ) :
    due initial (w.insert σ.table ⟨σ.new, stamp⟩) τ = due initial w τ := by
  simp only [due, absent_insert ready other]

theorem Filled.start (unique : initial.Unique) : Filled initial initial := by
  refine ⟨unique, fun table => ⟨[], (List.append_nil _).symm, ?_⟩⟩
  have nothing : ∀ σ, due initial initial σ = [] := fun σ => if_neg fun ⟨absent, present⟩ => present absent
  cases table <;> simp only [added, nothing, List.map_nil, List.append_nil]

theorem Filled.absent (filled : Filled initial w) (absent : Absent w σ) : Absent initial σ := by
  obtain ⟨rows, grown, -⟩ := filled.grown σ.table
  cases σ with
  | rulesetV1 | rateTableV1 => exact (List.append_eq_nil_iff.mp (grown.symm.trans absent)).1
  | rateTableV2 => exact fun row member => absent row (grown ▸ List.mem_append_left _ member)

/-- The row of a seed goes where the promise puts it. -/
theorem added_insert (filled : Filled initial w) (ready : Ready w σ) (absent : Absent w σ) (table : Table) :
    added initial (w.insert σ.table ⟨σ.new, stamp⟩) table =
      added initial w table ++ if table = σ.table then [σ.new] else [] := by
  have before : due initial w σ = [] := due_of_absent absent
  have after : due initial (w.insert σ.table ⟨σ.new, stamp⟩) σ = [σ.new] :=
    due_of_present (filled.absent absent) (present_self w σ stamp)
  have others : ∀ τ, τ ≠ σ → due initial (w.insert σ.table ⟨σ.new, stamp⟩) τ = due initial w τ :=
    fun τ other => due_insert ready other
  generalize w.insert σ.table ⟨σ.new, stamp⟩ = w' at after others
  cases σ with
  | rulesetV1 =>
      cases table with
      | appetiteRuleset => simp only [added, after, before, Seed.table, ↓reduceIte, List.nil_append]
      | rateTable =>
          simp only [added, others .rateTableV1 (by decide), others .rateTableV2 (by decide), Seed.table, reduceCtorEq,
            ↓reduceIte, List.append_nil]
  | rateTableV1 =>
      -- without rows there is no version 2 either
      have empty : Absent w .rateTableV2 := by
        intro row member
        rw [show w .rateTable = [] from absent] at member
        cases member
      cases table with
      | appetiteRuleset =>
          simp only [added, others .rulesetV1 (by decide), Seed.table, reduceCtorEq, ↓reduceIte, List.append_nil]
      | rateTable =>
          simp only [added, after, before, others .rateTableV2 (by decide), due_of_absent empty, Seed.table, ↓reduceIte,
            List.append_nil, List.nil_append]
  | rateTableV2 =>
      cases table with
      | appetiteRuleset =>
          simp only [added, others .rulesetV1 (by decide), Seed.table, reduceCtorEq, ↓reduceIte, List.append_nil]
      | rateTable =>
          simp only [added, after, before, others .rateTableV1 (by decide), Seed.table, ↓reduceIte, List.append_nil]

/-- Installing a missing version keeps the tables filled. -/
theorem Filled.install (filled : Filled initial w) (ready : Ready w σ) (absent : Absent w σ) (stamp : Stamp) :
    Filled initial (w.insert σ.table ⟨σ.new, stamp⟩) := by
  refine ⟨filled.unique.insert absent.fresh, fun table => ?_⟩
  obtain ⟨rows, grown, new⟩ := filled.grown table
  refine ⟨rows ++ if table = σ.table then [⟨σ.new, stamp⟩] else [], ?_, ?_⟩
  · rw [Tables.insert, grown, List.append_assoc]
  · rw [List.map_append, new, added_insert filled ready absent]
    split <;> rfl

/-- With every seed installed the tables have what they lacked. -/
theorem added_of_present (present : ∀ σ, ¬ Absent w σ) (table : Table) :
    added initial w table = missing initial table := by
  have all : ∀ σ, due initial w σ = if Absent initial σ then [σ.new] else [] := by
    intro σ
    simp only [due, present σ, not_false_eq_true, and_true]
  cases table with
  | appetiteRuleset =>
      simp only [added, all, missing]
      exact if_congr Iff.rfl rfl rfl
  | rateTable =>
      simp only [added, all, missing]
      exact congrArg₂ (· ++ ·) (if_congr Iff.rfl rfl rfl) (if_congr Iff.rfl rfl rfl)

/-- Where a seed is installed the table has a row. -/
theorem exists_current (present : ∀ σ, ¬ Absent w σ) (table : Table) (pick : ℕ) :
    ∃ row ∈ w table, (Query.current table).scalar w pick = some row ∧
      ∀ other ∈ w table, other.version ≤ row.version := by
  have filled : w table ≠ [] := by
    cases table with
    | appetiteRuleset => exact present .rulesetV1
    | rateTable => exact present .rateTableV1
  cases found : (Query.current table).scalar w pick with
  | none => exact absurd (Latest.limitOne_eq_none.mp found) filled
  | some row =>
      obtain ⟨member, top⟩ := Latest.limitOne_top found
      exact ⟨row, member, rfl, top⟩

end Filled

/-! ## One replica -/

theorem undone_snoc (log : List ((c : Call) × Reply c)) (entry : (c : Call) × Reply c) :
    undone (log ++ [entry]) = match entry with
      | ⟨.scalar query, none⟩ => some query
      | ⟨.commit, _⟩ => none
      | _ => undone log := by
  rw [undone, List.foldl_append]
  rfl

abbrev PointThread := Thread Reply ℕ Tables Point

abbrev PointSys := Sys Reply ℕ Tables Tables Point

namespace Point

open Seed

/-- The seed that a replica has found missing. -/
def flight : Point → Option Seed
  | .insert σ _ | .save σ _ _ => some σ
  | .check _ _ | .ended _ => none

/-- What a point says about the tables, its transaction and the record. -/
def Fits (w pending : Tables) (found : Option Query) : Point → Prop
  | .check σ _ => Ready w σ ∧ pending = .empty ∧ found = none
  | .insert σ _ => Ready w σ ∧ Absent w σ ∧ pending = .empty ∧ found = some σ.lookup
  | .save σ _ _ =>
      Ready w σ ∧ Absent w σ ∧ (∃ stamp, pending = .insert .empty σ.table ⟨σ.new, stamp⟩) ∧ found = some σ.lookup
  | .ended (.ok _) => ∀ σ, ¬ Absent w σ
  | .ended (.error err) => err = .died

/-- Calls still to come, at most. -/
def rank : Point → ℕ
  | .check σ left => 9 * left + 9 - 3 * σ.order
  | .insert σ left => 9 * left + 8 - 3 * σ.order
  | .save σ left _ => 9 * left + 7 - 3 * σ.order
  | .ended _ => 0

variable {w pending : Tables} {found : Option Query} {p : Point} {σ : Seed}

theorem rank_following (left : ℕ) (σ : Seed) : (following left σ).rank < 9 * left + 7 - 3 * σ.order := by
  cases σ with
  | rulesetV1 | rateTableV1 =>
      simp only [following, rank, order]
      omega
  | rateTableV2 =>
      cases left with
      | zero => decide
      | succ left =>
          simp only [following, rank, order]
          omega

theorem rank_next {c rest} (next : p.next = some ⟨c, rest⟩) (answer) : (rest answer).rank < p.rank := by
  have below : ∀ σ, order σ ≤ 2 := fun σ => by cases σ <;> decide
  have positive : ∀ {n}, n ≤ 2 → ∀ left, 0 < 9 * left + 7 - 3 * n := by omega
  cases p with
  | check σ left =>
      cases next
      have place := positive (below σ) left
      have later := rank_following left σ
      rcases answer with err | _ | row
      · change 0 < 9 * left + 9 - 3 * σ.order
        omega
      · change 9 * left + 8 - 3 * σ.order < 9 * left + 9 - 3 * σ.order
        omega
      · change (following left σ).rank < 9 * left + 9 - 3 * σ.order
        omega
  | insert σ left =>
      cases next
      have place := positive (below σ) left
      cases answer <;> simp only [inserted, rank] <;> omega
  | save σ left row =>
      cases next
      cases answer with
      | error => exact positive (below σ) left
      | ok => exact rank_following left σ
  | ended => cases next

/-- A seed that is done leads to a point that fits. -/
theorem fits_following (ready : Ready w σ) (present : ¬ Absent w σ) (left : ℕ) :
    (following left σ).Fits w .empty none := by
  have upTo : ∀ τ, order τ ≤ order σ → ¬ Absent w τ := by
    intro τ before
    rcases Nat.lt_or_eq_of_le before with earlier | same
    · exact ready τ earlier
    · obtain rfl : τ = σ := by cases τ <;> cases σ <;> first | rfl | cases same
      exact present
  cases σ with
  | rulesetV1 | rateTableV1 => exact ⟨fun τ before => upTo τ (Nat.le_of_lt_succ before), rfl, rfl⟩
  | rateTableV2 =>
      have every : ∀ τ, ¬ Absent w τ := fun τ => upTo τ (by cases τ <;> decide)
      cases left with
      | zero => exact every
      | succ left => exact ⟨fun τ _ => every τ, rfl, rfl⟩

theorem Fits.flight (fits : p.Fits w pending found) (held : p.flight = some σ) :
    Ready w σ ∧ Absent w σ ∧ found = some σ.lookup := by
  cases p with
  | insert τ left =>
      cases held
      exact ⟨fits.1, fits.2.1, fits.2.2.2⟩
  | save τ left row =>
      cases held
      exact ⟨fits.1, fits.2.1, fits.2.2.2⟩
  | _ => cases held

/-- A point that holds no seed has nothing undone, or has ended. -/
theorem Fits.nothing (fits : p.Fits w pending found) (free : p.flight = none) (live : p.next.isSome) :
    found = none := by
  cases p with
  | check τ left => exact fits.2.2
  | ended => cases live
  | _ => cases free

/-- Another replica may install a seed. -/
theorem Fits.install (fits : p.Fits w pending found) (ready : Ready w σ) (other : p.flight ≠ some σ) (stamp : Stamp) :
    p.Fits (w.insert σ.table ⟨σ.new, stamp⟩) pending found := by
  have kept : ∀ {τ}, Ready w τ → Ready (w.insert σ.table ⟨σ.new, stamp⟩) τ :=
    fun ready τ before => present_insert (ready τ before)
  have absent : ∀ {τ}, p.flight = some τ → Absent w τ → Absent (w.insert σ.table ⟨σ.new, stamp⟩) τ :=
    fun held absent => (absent_insert ready fun same => other (same ▸ held)).mpr absent
  cases p with
  | check τ left => exact ⟨kept fits.1, fits.2⟩
  | insert τ left => exact ⟨kept fits.1, absent rfl fits.2.1, fits.2.2⟩
  | save τ left row => exact ⟨kept fits.1, absent rfl fits.2.1, fits.2.2⟩
  | ended result =>
      cases result with
      | ok => exact fun τ => present_insert (fits τ)
      | error => exact fits

end Point

open Point Seed

/-- The four moves of a replica: it finds a row, it finds none, it inserts one, it commits that row. -/
inductive Moved (w : Tables) (t : PointThread) : Tables → PointThread → Prop where
  | found {σ left row} (control : t.ctl = .check σ left) (present : ¬ Absent w σ) :
      Moved w t w { t with ctl := following left σ, log := t.log ++ [⟨.scalar σ.lookup, some row⟩] }
  | absent {σ left} (control : t.ctl = .check σ left) (absent : Absent w σ) :
      Moved w t w { t with ctl := .insert σ left, log := t.log ++ [⟨.scalar σ.lookup, (none : Option Row)⟩] }
  | inserted {σ left} (stamp : Stamp) (control : t.ctl = .insert σ left) :
      Moved w t w
        { t with
          ctl := .save σ left ⟨σ.new, stamp⟩
          session := .insert .empty σ.table ⟨σ.new, stamp⟩
          log := t.log ++ [⟨.createVersion σ.table σ.new, (⟨σ.new, stamp⟩ : Row)⟩] }
  | committed {σ left row} (stamp : Stamp) (control : t.ctl = .save σ left row) :
      Moved w t (w.insert σ.table ⟨σ.new, stamp⟩)
        { t with ctl := following left σ, session := .empty, log := t.log ++ [⟨.commit, ()⟩] }

section Moves

variable {w w' session : Tables} {t t' : PointThread} {fate : Fate}

/-- No call of a replica fails. -/
theorem moved (fits : t.ctl.Fits w t.session (undone t.log)) (unique : w.Unique) {c rest answer}
    (next : t.ctl.next = some ⟨c, rest⟩) (handled : handle w t.session c fate = some (answer, w', session)) :
    Moved w t w' (t.answered c rest answer session) := by
  obtain ⟨req, ctl, pending, log⟩ := t
  cases ctl with
  | check σ left =>
      obtain ⟨-, rfl, -⟩ := fits
      cases next
      cases fate with
      | read pick =>
          simp only [handle, Tables.append_empty] at handled
          cases handled
          cases found : σ.lookup.scalar w pick with
          | none => exact .absent rfl (scalar_eq_none.mp found)
          | some row =>
              apply Moved.found rfl
              intro absent
              cases found.symm.trans (scalar_eq_none.mpr absent)
      | stamp | commit => cases handled
  | insert σ left =>
      obtain ⟨-, absent, rfl, -⟩ := fits
      cases next
      cases fate with
      | stamp stamp =>
          have free : (w.insert σ.table ⟨σ.new, stamp⟩).Unique := unique.insert absent.fresh
          simp only [handle, Tables.append_empty, free, ↓reduceIte] at handled
          cases handled
          exact .inserted stamp rfl
      | read | commit => cases handled
  | save σ left row =>
      obtain ⟨-, absent, ⟨stamp, rfl⟩, -⟩ := fits
      cases next
      cases fate with
      | commit =>
          have free : (w.insert σ.table ⟨σ.new, stamp⟩).Unique := unique.insert absent.fresh
          simp only [handle, Tables.append_insert, free, ↓reduceIte] at handled
          cases handled
          exact .committed stamp rfl
      | read | stamp => cases handled
  | ended => cases next

theorem Moved.fits (move : Moved w t w' t') (fits : t.ctl.Fits w t.session (undone t.log)) :
    t'.ctl.Fits w' t'.session (undone t'.log) := by
  cases move with
  | @found σ left row control present =>
      rw [control] at fits
      obtain ⟨ready, empty, nothing⟩ := fits
      rw [undone_snoc, empty]
      dsimp only
      rw [nothing]
      exact fits_following ready present left
  | @absent σ left control absent =>
      rw [control] at fits
      obtain ⟨ready, empty, -⟩ := fits
      rw [undone_snoc]
      exact ⟨ready, absent, empty, rfl⟩
  | @inserted σ left stamp control =>
      rw [control] at fits
      obtain ⟨ready, absent, -, found⟩ := fits
      rw [undone_snoc]
      exact ⟨ready, absent, ⟨stamp, rfl⟩, found⟩
  | @committed σ left row stamp control =>
      rw [control] at fits
      obtain ⟨ready, absent, -, -⟩ := fits
      rw [undone_snoc]
      apply fits_following _ (present_self w σ stamp)
      exact fun τ before => present_insert (ready τ before)

/-- A move changes nothing in the tables, or installs the seed that the replica holds. -/
theorem Moved.world (move : Moved w t w' t') :
    w' = w ∨ ∃ σ stamp, t.ctl.flight = some σ ∧ w' = w.insert σ.table ⟨σ.new, stamp⟩ := by
  cases move with
  | committed stamp control => exact .inr ⟨_, stamp, by rw [control]; rfl, rfl⟩
  | _ => exact .inl rfl

theorem Moved.filled {initial : Tables} (move : Moved w t w' t') (fits : t.ctl.Fits w t.session (undone t.log))
    (filled : Filled initial w) : Filled initial w' := by
  rcases move.world with rfl | ⟨σ, stamp, held, rfl⟩
  · exact filled
  · obtain ⟨ready, absent, -⟩ := fits.flight held
    exact filled.install ready absent stamp

/-- What is said at a point still holds after a replica that holds another seed has moved. -/
theorem Moved.others (move : Moved w t w' t') (fits : t.ctl.Fits w t.session (undone t.log)) {p : Point}
    {pending : Tables} {found : Option Query} (other : p.Fits w pending found)
    (apart : ∀ σ, t.ctl.flight = some σ → p.flight ≠ some σ) : p.Fits w' pending found := by
  rcases move.world with rfl | ⟨σ, stamp, held, rfl⟩
  · exact other
  · exact other.install (fits.flight held).1 (apart σ held) stamp

/-- A replica takes a seed only by not finding it. -/
theorem Moved.flight (move : Moved w t w' t') {σ : Seed} (held : t'.ctl.flight = some σ) :
    t.ctl.flight = some σ ∨ ∃ left, t.ctl = .check σ left := by
  have ended : ∀ left τ, (following left τ).flight = none := by
    intro left τ
    cases τ with
    | rulesetV1 | rateTableV1 => rfl
    | rateTableV2 => cases left <;> rfl
  cases move with
  | found => cases (ended _ _).symm.trans held
  | absent control =>
      cases held
      exact .inr ⟨_, control⟩
  | inserted stamp control =>
      cases held
      exact .inl (by rw [control]; rfl)
  | committed => cases (ended _ _).symm.trans held

/-- A replica that has not ended can make its call. -/
theorem exists_fate (p : Point) (w pending : Tables) {c rest} (next : p.next = some ⟨c, rest⟩) :
    ∃ fate, (handle w pending c fate).isSome := by
  cases p with
  | check σ left =>
      cases next
      exact ⟨.read 0, rfl⟩
  | insert σ left =>
      cases next
      refine ⟨.stamp ⟨"", 0⟩, ?_⟩
      simp only [handle]
      split <;> rfl
  | save σ left row =>
      cases next
      refine ⟨.commit, ?_⟩
      simp only [handle]
      split <;> rfl
  | ended => cases next

end Moves

/-! ## All replicas -/

/-- The seed a replica holds. -/
def holds (t : PointThread) : Option Seed := t.ctl.flight

structure Sound (initial : Tables) (s : PointSys) : Prop where
  filled : Filled initial s.world
  fits : ∀ t ∈ s.threads, t.ctl.Fits s.world t.session (undone t.log)
  exclusive : Exclusive holds s

section Runs

variable {initial : Tables} {s s' : PointSys} {choice : Choice ℕ Fate Empty}

/-- A replica that finds a seed missing is the first to do so. -/
theorem Sound.free (sound : Sound initial s) {i : ℕ} {fate : Fate} (allowed : Apart points s (.run i fate))
    {t : PointThread} (at_i : s.threads[i]? = some t) {σ : Seed} {left : ℕ} (control : t.ctl = .check σ left) :
    ∀ u ∈ s.threads, holds u ≠ some σ := by
  intro u member held
  obtain ⟨-, -, found⟩ := (sound.fits u member).flight held
  have looks : looksUp points t = some σ.lookup := by
    rw [looksUp, Thread.awaits, control]
    rfl
  have live : u.Live points := by
    rw [Thread.Live]
    cases control : u.ctl with
    | insert | save => rfl
    | check | ended =>
        rw [holds, control] at held
        cases held
  exact allowed t at_i _ looks u member live found

theorem Sound.exclusive_step (sound : Sound initial s) (allowed : Apart points s choice)
    (stepped : step backend points s choice = some s') : Exclusive holds s' := by
  apply sound.exclusive.step stepped (fun _ => rfl) (fun _ => rfl)
  intro i fate t c rest answer session chosen at_i next handled σ held
  subst chosen
  have move := moved (sound.fits t (List.mem_of_getElem? at_i)) sound.filled.unique next handled
  rcases move.flight held with before | ⟨left, control⟩
  · exact .inl before
  · exact .inr (sound.free allowed at_i control)

theorem Sound.step (sound : Sound initial s) (allowed : Apart points s choice)
    (stepped : step backend points s choice = some s') : Sound initial s' := by
  have exclusive := sound.exclusive_step allowed stepped
  cases step_cases stepped with
  | start again =>
      refine ⟨sound.filled, ?_, exclusive⟩
      apply Lists.forall_mem_snoc sound.fits
      exact ⟨fun τ before => absurd before (Nat.not_lt_zero _), rfl, rfl⟩
  | @run i fate t c rest answer world session at_i next handled =>
      have fits := sound.fits t (List.mem_of_getElem? at_i)
      have move := moved fits sound.filled.unique next handled
      refine ⟨move.filled fits sound.filled, fun u member => ?_, exclusive⟩
      obtain ⟨j, at_j⟩ := List.getElem?_of_mem member
      rcases at_set at_j with ⟨rfl, rfl⟩ | ⟨same, at_j⟩
      · exact move.fits fits
      · apply move.others fits (sound.fits u (List.mem_of_getElem? at_j))
        exact fun σ held both => same (sound.exclusive i j t u σ at_i at_j held both)
  | @crash i t at_i live =>
      refine ⟨sound.filled, fun u member => ?_, exclusive⟩
      rcases List.mem_or_eq_of_mem_set member with old | rfl
      · exact sound.fits u old
      · exact rfl
  | env e => exact nomatch e

theorem sound_run (unique : initial.Unique) (run : Run backend points (Apart points) (idle initial) s) :
    Sound initial s := by
  apply run.invariant (I := Sound initial)
  · exact ⟨.start unique, fun _ member => absurd member List.not_mem_nil, .nil initial⟩
  · exact fun _ _ _ _ sound allowed stepped => sound.step allowed stepped

/-- Every call takes a replica closer to its end. -/
theorem calls_left {ok} (run : Run backend points ok (idle initial) s) :
    ∀ t ∈ s.threads, t.done.length + t.ctl.rank ≤ 9 * (t.req + 1) := by
  apply run.invariant (I := fun s : PointSys => ∀ t ∈ s.threads, t.done.length + t.ctl.rank ≤ 9 * (t.req + 1))
  · exact fun _ member => nomatch member
  · intro s choice s' _ bounded _ stepped
    apply threads_step stepped bounded
    · intro again _
      exact Nat.le_of_eq (Nat.zero_add _)
    · intro t member
      exact Nat.le_trans (Nat.le_add_right _ _) (bounded t member)
    · intro i fate t c rest answer session _ at_i next _
      have before := bounded t (List.mem_of_getElem? at_i)
      have closer := Point.rank_next next answer
      rw [Thread.done_answered]
      change _ + (rest answer).rank ≤ 9 * (t.req + 1)
      rw [List.length_append]
      split
      · rw [List.length_singleton]
        omega
      · rw [List.length_nil]
        omega

/-- Whoever has not ended can go on, or waits for a replica that can. -/
theorem Sound.enabled (sound : Sound initial s) (busy : ¬ Quiet points s) :
    ∃ i fate, Apart points s (.run i fate) ∧ (Interleaving.step backend points s (.run i fate)).isSome := by
  have goes : ∀ {i : ℕ} {t : PointThread}, s.threads[i]? = some t → t.Live points →
      ∃ fate, (Interleaving.step backend points s (.run i fate)).isSome := by
    intro i t at_i live
    obtain ⟨⟨c, rest⟩, next⟩ := Option.isSome_iff_exists.mp live
    obtain ⟨fate, found⟩ := exists_fate t.ctl s.world t.session next
    obtain ⟨⟨answer, world, session⟩, handled⟩ := Option.isSome_iff_exists.mp found
    have next : points.next t.ctl = some ⟨c, rest⟩ := next
    have handled : backend.handle s.world t.session c fate = some (answer, world, session) := handled
    exact ⟨fate, by simp only [Interleaving.step, at_i, next, handled, Option.isSome_some]⟩
  by_cases held : ∃ u ∈ s.threads, (holds u).isSome
  · -- one that holds a seed does not look anything up
    obtain ⟨u, member, held⟩ := held
    obtain ⟨i, at_i⟩ := List.getElem?_of_mem member
    have nothing : looksUp points u = none ∧ u.Live points := by
      rw [looksUp, Thread.awaits, Thread.Live]
      cases control : u.ctl with
      | insert | save => exact ⟨rfl, rfl⟩
      | check | ended =>
          rw [holds, control] at held
          cases held
    obtain ⟨fate, possible⟩ := goes at_i nothing.2
    refine ⟨i, fate, fun t found query looks => ?_, possible⟩
    obtain rfl := Option.some.inj (at_i.symm.trans found)
    cases nothing.1.symm.trans looks
  · simp only [Quiet, not_forall, not_not] at busy
    obtain ⟨t, member, live⟩ := busy
    obtain ⟨i, at_i⟩ := List.getElem?_of_mem member
    obtain ⟨fate, possible⟩ := goes at_i live
    refine ⟨i, fate, fun _ _ query _ u running alive undone => ?_, possible⟩
    have free : u.ctl.flight = none := Option.not_isSome_iff_eq_none.mp fun some => held ⟨u, running, some⟩
    cases ((sound.fits u running).nothing free alive).symm.trans undone

/-! ## Programs -/

@[simp] theorem looksUp_map (t : PointThread) : looksUp replicas (t.map seeding.map) = looksUp points t := by
  simp only [looksUp, Thread.awaits_map]

theorem quiet_map : Quiet replicas (s.map seeding.map) ↔ Quiet points s := by
  constructor
  · intro quiet t member live
    exact quiet _ (List.mem_map_of_mem member) ((Thread.live_map seeding t).mpr live)
  · intro quiet t member live
    obtain ⟨u, found, rfl⟩ := List.mem_map.mp member
    exact quiet u found ((Thread.live_map seeding u).mp live)

/-- The condition looks at calls and records only. -/
theorem apart_map : Apart replicas (s.map seeding.map) choice ↔ Apart points s choice := by
  cases choice with
  | run i fate =>
      constructor
      · intro apart t at_i query looks u member live
        rw [← looksUp_map] at looks
        exact apart _ (Sys.thread_map seeding.map at_i) query looks _ (List.mem_map_of_mem member)
          ((Thread.live_map seeding u).mpr live)
      · intro apart t at_i query looks u member live
        obtain ⟨t, before, rfl⟩ := Sys.thread_of_map seeding.map at_i
        obtain ⟨u, found, rfl⟩ := List.mem_map.mp member
        rw [looksUp_map] at looks
        exact apart t before query looks u found ((Thread.live_map seeding u).mp live)
  | start | crash | env => exact Iff.rfl

/-- A replica that has returned has come to its end. -/
theorem ended_of_prog {p : Point} {result : Except PyErr Unit} (same : p.prog = .ofExcept result) :
    p = .ended result := by
  have stopped : p.prog.next = none := by
    rw [same]
    cases result <;> rfl
  rw [Point.next_prog] at stopped
  cases p with
  | ended other => cases other <;> cases result <;> cases same <;> rfl
  | _ => cases stopped

end Runs

/-- In every run in which no replica looks for a version that another one has found
    missing and has not committed, seeding does what it promises. -/
theorem seeding_safe {initial : Tables} (unique : initial.Unique) {s : Sys Reply ℕ Tables Tables (Program Unit)}
    (run : Run backend replicas (Apart replicas) (idle initial) s) : Seeded initial s := by
  have mapped : Run backend replicas (Apart replicas) ((idle initial : PointSys).map seeding.map) s := run
  obtain ⟨s, lifted, rfl⟩ := mapped.lift seeding
  have pointRun := lifted.imp fun _ _ => apart_map.mp
  have sound := sound_run unique pointRun
  have finished : (∃ t ∈ (s.map seeding.map).threads, t.ctl = .ret ()) → ∀ σ : Seed, ¬ σ.Absent s.world := by
    rintro ⟨t, member, returned⟩
    obtain ⟨u, found, rfl⟩ := List.mem_map.mp member
    have fits := sound.fits u found
    rw [show u.ctl = .ended (.ok ()) from ended_of_prog returned] at fits
    exact fits
  constructor
  · intro t member err raised
    obtain ⟨u, found, rfl⟩ := List.mem_map.mp member
    have fits := sound.fits u found
    rw [show u.ctl = .ended (.error err) from ended_of_prog raised] at fits
    exact fits
  · intro table
    obtain ⟨rows, grown, -⟩ := sound.filled.grown table
    exact ⟨rows, grown.symm⟩
  · exact sound.filled.unique
  · intro done table
    obtain ⟨rows, grown, new⟩ := sound.filled.grown table
    exact ⟨rows, grown, new.trans (added_of_present (finished done) table)⟩
  · exact fun done table pick => exists_current (finished done) table pick
  · intro t member
    obtain ⟨u, found, rfl⟩ := List.mem_map.mp member
    exact Nat.le_trans (Nat.le_add_right _ _) (calls_left pointRun u found)
  · intro busy
    obtain ⟨i, fate, apart, possible⟩ := sound.enabled fun quiet => busy (quiet_map.mpr quiet)
    refine ⟨i, fate, apart_map.mpr apart, ?_⟩
    rwa [step_map seeding, Option.isSome_map]

/-! ## Scripts -/

abbrev Script := List (Choice ℕ Fate Empty)

/-- Replica `i` makes its next calls with the given fates. -/
def drive (i : ℕ) (fates : List Fate) : Script := fates.map (.run i)

def read : Fate := .read 0

def insert (id : String) : Fate := .stamp ⟨id, 0⟩

/-- Two replicas start on empty tables. While the first one installs version 2 the
    second one already finds the other rows. -/
def staggered : Script :=
  [.start 0, .start 0] ++ drive 0 [read, insert "r", .commit] ++ drive 1 [read] ++
  drive 0 [read, insert "t", .commit, read] ++ drive 1 [read] ++ drive 0 [insert "u", .commit] ++ drive 1 [read]

/-- The rows that the migrations leave. -/
def migrated : Tables
  | .appetiteRuleset => [⟨⟨1, Appetite.v1Rules⟩, ⟨"00000000-0000-0000-0000-000000000001", 0⟩⟩]
  | .rateTable => [⟨⟨1, Rating.v1Rules⟩, ⟨"00000000-0000-0000-0000-000000000002", 0⟩⟩]

/-- Two replicas look for version 2 before either has inserted it. -/
def simultaneous : Script :=
  [.start 0, .start 0] ++ drive 0 [read, read, read] ++ drive 1 [read, read, read] ++
  drive 0 [insert "u", .commit] ++ drive 1 [insert "v"]

theorem staggered_seeded : ∃ s, Run backend replicas (Apart replicas) (idle .empty) s ∧ Seeded .empty s ∧
    (s.world .rateTable).map (·.version) = [1, 2] := by
  obtain ⟨s, run, passes⟩ := exists_run backend replicas (Apart replicas) (idle .empty) staggered
    (fun s => (s.world .rateTable).map (·.version) = [1, 2]) (by decide +kernel)
  have unique : Tables.empty.Unique := fun _ => List.nodup_nil
  exact ⟨s, run, seeding_safe unique run, of_decide_eq_true passes⟩

theorem simultaneous_fails : migrated.Unique ∧ ∃ s, Run backend replicas anyStep (idle migrated) s ∧
    ∃ t ∈ s.threads, t.ctl = .raise .integrity := by
  obtain ⟨s, run, passes⟩ := exists_run backend replicas anyStep (idle migrated) simultaneous
    (fun s => s.threads.any fun t => match t.ctl with
      | .raise err => err = .integrity
      | _ => false) (by decide +kernel)
  refine ⟨by decide, s, run, ?_⟩
  obtain ⟨t, member, raised⟩ := List.any_eq_true.mp passes
  refine ⟨t, member, ?_⟩
  cases control : t.ctl with
  | raise err =>
      rw [control] at raised
      exact congrArg _ (of_decide_eq_true raised)
  | ret | call =>
      rw [control] at raised
      cases raised

end Underwriting.Startup
