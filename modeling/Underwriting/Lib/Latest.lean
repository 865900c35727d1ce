import Mathlib.Data.List.Pairwise
import Mathlib.Order.Lattice
import Underwriting.Lib.Lists

/-! # Top rows of a table

`ORDER BY key DESC LIMIT 1`. A database may return any row whose key is the
greatest one, so the answer depends on a pick among those rows. It is unique as
soon as the keys are.
-/

namespace Latest

variable {Row Key : Type} [LinearOrder Key] {key : Row → Key} {rows : List Row} {row : Row}

/-- The rows no other row outranks. -/
def tops (key : Row → Key) (rows : List Row) : List Row :=
  rows.filter fun row => decide (∀ other ∈ rows, key other ≤ key row)

/-- One of the top rows, if there is any. -/
def limitOne (key : Row → Key) (rows : List Row) (pick : ℕ) : Option Row :=
  (tops key rows)[pick % (tops key rows).length]?

theorem mem_tops : row ∈ tops key rows ↔ row ∈ rows ∧ ∀ other ∈ rows, key other ≤ key row := by
  simp only [tops, List.mem_filter, decide_eq_true_eq]

theorem exists_top (nonempty : rows ≠ []) : ∃ row, row ∈ tops key rows := by
  induction rows with
  | nil => exact absurd rfl nonempty
  | cons first rest ih =>
      by_cases empty : rest = []
      · subst empty
        exact ⟨first, mem_tops.mpr ⟨by simp, by simp⟩⟩
      · obtain ⟨best, isTop⟩ := ih empty
        obtain ⟨member, above⟩ := mem_tops.mp isTop
        rcases le_total (key first) (key best) with below | below
        · exact ⟨best, mem_tops.mpr ⟨List.mem_cons_of_mem _ member, by simpa [below] using above⟩⟩
        · refine ⟨first, mem_tops.mpr ⟨List.mem_cons_self, ?_⟩⟩
          intro other found
          rcases List.mem_cons.mp found with rfl | deeper
          · exact le_refl _
          · exact le_trans (above other deeper) below

theorem limitOne_top {pick} (found : limitOne key rows pick = some row) :
    row ∈ rows ∧ ∀ other ∈ rows, key other ≤ key row :=
  mem_tops.mp (List.mem_of_getElem? found)

theorem limitOne_eq_none {pick} : limitOne key rows pick = none ↔ rows = [] := by
  constructor
  · intro missing
    by_contra nonempty
    obtain ⟨best, isTop⟩ : ∃ best, best ∈ tops key rows := exists_top nonempty
    have positive : 0 < (tops key rows).length := List.length_pos_of_mem isTop
    have short := List.getElem?_eq_none_iff.mp missing
    exact absurd (Nat.mod_lt pick positive) (by omega)
  · rintro rfl
    rfl

/-- A last row with a key above all others is the answer. -/
theorem limitOne_last {front : List Row} {last : Row} {pick} (below : ∀ other ∈ front, key other < key last) :
    limitOne key (front ++ [last]) pick = some last := by
  cases found : limitOne key (front ++ [last]) pick with
  | none => exact absurd (limitOne_eq_none.mp found) (by simp)
  | some row =>
      obtain ⟨member, above⟩ := limitOne_top found
      rcases List.mem_append.mp member with early | late
      · exact absurd (above last (by simp)) (not_le.mpr (below row early))
      · rw [List.mem_singleton.mp late]

/-- With increasing keys the answer is the row inserted last. -/
theorem limitOne_increasing {pick} (increasing : rows.Pairwise fun a b => key a < key b) :
    limitOne key rows pick = rows.getLast? := by
  rcases List.eq_nil_or_concat rows with rfl | ⟨front, last, rfl⟩
  · rfl
  · rw [List.concat_eq_append] at increasing ⊢
    have below : ∀ other ∈ front, key other < key last := fun other member =>
      (List.pairwise_append.mp increasing).2.2 other member last (by simp)
    rw [limitOne_last below, List.getLast?_concat]

/-- The row inserted last, with a key above all others. -/
structure MostRecent (key : Row → Key) (rows : List Row) (row : Row) : Prop where
  last : rows.getLast? = some row
  newest : ∀ other ∈ rows, other = row ∨ key other < key row

/-- With increasing keys the query answers with the most recent row. -/
theorem mostRecent_of_limitOne {pick} (increasing : rows.Pairwise fun a b => key a < key b)
    (found : limitOne key rows pick = some row) : MostRecent key rows row := by
  have last := (limitOne_increasing increasing).symm.trans found
  refine ⟨last, fun other member => ?_⟩
  obtain ⟨front, rfl⟩ := List.getLast?_eq_some_iff.mp last
  rcases List.mem_append.mp member with early | late
  · exact .inr ((List.pairwise_append.mp increasing).2.2 other early row (by simp))
  · exact .inl (List.mem_singleton.mp late)

/-! ## A table that grows with a clock -/

/-- The rows carry increasing times, all of them past. -/
structure Timed (time : Row → ℕ) (rows : List Row) (clock : ℕ) : Prop where
  increasing : rows.Pairwise fun a b => time a < time b
  past : ∀ row ∈ rows, time row ≤ clock

namespace Timed

variable {time : Row → ℕ} {clock clock' : ℕ}

theorem nil : Timed time ([] : List Row) clock := ⟨.nil, fun _ member => nomatch member⟩

theorem tick (timed : Timed time rows clock) (later : clock ≤ clock') : Timed time rows clock' :=
  ⟨timed.increasing, fun row member => Nat.le_trans (timed.past row member) later⟩

theorem snoc (timed : Timed time rows clock) (later : clock < time row) : Timed time (rows ++ [row]) (time row) := by
  constructor
  · apply Lists.pairwise_snoc timed.increasing
    exact fun other member => Nat.lt_of_le_of_lt (timed.past other member) later
  · apply Lists.forall_mem_snoc
    · exact fun other member => Nat.le_trans (timed.past other member) (Nat.le_of_lt later)
    · exact Nat.le_refl _

theorem of_append {more : List Row} (timed : Timed time (rows ++ more) clock) : Timed time rows clock :=
  ⟨(List.pairwise_append.mp timed.increasing).1, fun row member => timed.past row (List.mem_append_left _ member)⟩

end Timed

end Latest
