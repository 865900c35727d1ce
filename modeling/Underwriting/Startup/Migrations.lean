import Underwriting.Startup.Lifespan

/-! # Migrations

The revisions of `migrations/versions`, by the rows they insert: the first two each bring
version 1 of their table along. An upgrade applies in one transaction those that the
database has not had yet.
-/

namespace Underwriting.Startup

inductive Revision where
  | initial | rating | bind | quoteManifest

/-- `upgrade()` of a revision at a time. -/
def Revision.upgrade (time : ℕ) (tables : Tables) : Revision → Tables
  | .initial =>
      tables.insert .appetiteRuleset ⟨⟨1, Appetite.v1Rules⟩, ⟨"00000000-0000-0000-0000-000000000001", time⟩⟩
  | .rating => tables.insert .rateTable ⟨⟨1, Rating.v1Rules⟩, ⟨"00000000-0000-0000-0000-000000000002", time⟩⟩
  -- schema only
  | .bind | .quoteManifest => tables

/-- The chain of the `down_revision`s, the oldest first. -/
def revisions : List Revision := [.initial, .rating, .bind, .quoteManifest]

/-- `alembic upgrade head` of a database that has had so many of the revisions. -/
def upgradeHead (applied time : ℕ) (tables : Tables) : Tables :=
  (revisions.drop applied).foldl (Revision.upgrade time) tables

theorem Revision.upgrade_append (time : ℕ) (tables : Tables) (revision : Revision) :
    ∃ more, revision.upgrade time tables = tables.append more := by
  have inserted : ∀ table row, tables.insert table row = tables.append (Tables.empty.insert table row) := by
    intro table row
    funext other
    simp only [Tables.insert, Tables.append, Tables.empty, List.nil_append]
  cases revision with
  | initial | rating => exact ⟨_, inserted ..⟩
  | bind | quoteManifest => exact ⟨.empty, funext fun _ => (List.append_nil _).symm⟩

/-- An upgrade takes no row away. -/
theorem upgradeHead_append (applied time : ℕ) (tables : Tables) :
    ∃ more, upgradeHead applied time tables = tables.append more := by
  rw [upgradeHead]
  induction revisions.drop applied generalizing tables with
  | nil => exact ⟨.empty, funext fun _ => (List.append_nil _).symm⟩
  | cons revision rest ih =>
      obtain ⟨first, upgraded⟩ := revision.upgrade_append time tables
      obtain ⟨more, others⟩ := ih (tables.append first)
      refine ⟨first.append more, ?_⟩
      rw [List.foldl_cons, upgraded, others]
      exact funext fun _ => List.append_assoc ..

end Underwriting.Startup
