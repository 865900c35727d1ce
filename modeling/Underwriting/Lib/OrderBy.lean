import Mathlib.Data.List.Permutation
import Mathlib.Data.List.Sort
import Underwriting.Lib.Latest

/-! # Ordered rows of a table

`ORDER BY key`. Rows with equal keys come in any order, so the answer depends on
a pick; every sorted arrangement of the rows is the answer of some pick. The
order of insertion comes back for every pick exactly if no two keys are equal.
-/

namespace Latest

variable {Row Key : Type} [LinearOrder Key] {key : Row → Key} {rows answer : List Row} {row x y : Row}

/-- The rows by key, those of equal keys as some arrangement has them. -/
def orderBy (key : Row → Key) (rows : List Row) (pick : ℕ) : List Row :=
  ((rows.permutations)[pick % rows.permutations.length]?.getD rows).insertionSort fun a b => key a ≤ key b

instance isTrans_key : IsTrans Row fun a b => key a ≤ key b := ⟨fun _ _ _ => le_trans⟩

instance total_key : Std.Total fun a b : Row => key a ≤ key b := ⟨fun a b => le_total (key a) (key b)⟩

theorem orderBy_perm (key : Row → Key) (rows : List Row) (pick : ℕ) : (orderBy key rows pick).Perm rows := by
  refine (List.perm_insertionSort ..).trans ?_
  cases found : rows.permutations[pick % rows.permutations.length]? with
  | none => exact .refl _
  | some arranged => exact List.mem_permutations.mp (List.mem_of_getElem? found)

theorem orderBy_sorted (key : Row → Key) (rows : List Row) (pick : ℕ) :
    (orderBy key rows pick).Pairwise fun a b => key a ≤ key b :=
  List.pairwise_insertionSort ..

/-- Every sorted arrangement may be the answer. -/
theorem exists_orderBy (perm : answer.Perm rows) (sorted : answer.Pairwise fun a b => key a ≤ key b) :
    ∃ pick, orderBy key rows pick = answer := by
  obtain ⟨pick, at_pick⟩ := List.getElem?_of_mem (List.mem_permutations.mpr perm)
  have inside := (List.getElem?_eq_some_iff.mp at_pick).1
  refine ⟨pick, ?_⟩
  rw [orderBy, Nat.mod_eq_of_lt inside, at_pick, Option.getD_some]
  exact List.Pairwise.insertionSort_eq sorted

/-- Two neighbours tie if the rows are sorted, but not strictly. -/
theorem exists_tie (sorted : rows.Pairwise fun a b => key a ≤ key b) (tied : ¬ rows.Pairwise fun a b => key a < key b) :
    ∃ front x y back, rows = front ++ x :: y :: back ∧ key x = key y := by
  induction rows with
  | nil => exact absurd .nil tied
  | cons first rest ih =>
      obtain ⟨above, sorted'⟩ := List.pairwise_cons.mp sorted
      by_cases strict : rest.Pairwise fun a b => key a < key b
      · cases rest with
        | nil => exact absurd (List.pairwise_singleton _ _) tied
        | cons second rest =>
            refine ⟨[], first, second, rest, rfl, (above second List.mem_cons_self).antisymm ?_⟩
            by_contra less
            apply tied
            refine List.pairwise_cons.mpr ⟨fun row member => ?_, strict⟩
            rcases List.mem_cons.mp member with rfl | later
            · exact not_le.mp less
            · exact (not_le.mp less).trans ((List.pairwise_cons.mp strict).1 row later)
      · obtain ⟨front, x, y, back, rfl, same⟩ := ih sorted' strict
        exact ⟨first :: front, x, y, back, rfl, same⟩

/-- Neighbours with equal keys may change places. -/
theorem sorted_swap {front back : List Row} {x y : Row}
    (sorted : (front ++ x :: y :: back).Pairwise fun a b => key a ≤ key b) (same : key x = key y) :
    (front ++ y :: x :: back).Pairwise fun a b => key a ≤ key b := by
  simp only [List.pairwise_append, List.pairwise_cons, List.mem_cons, forall_eq_or_imp] at sorted ⊢
  grind

/-- Rows in the order of their keys come back so for every pick, if no keys are equal. -/
theorem orderBy_eq_iff (sorted : rows.Pairwise fun a b => key a ≤ key b) (nodup : rows.Nodup) :
    (∀ pick, orderBy key rows pick = rows) ↔ rows.Pairwise fun a b => key a ≠ key b := by
  constructor
  · intro kept
    by_contra tied
    have tied' : ¬ rows.Pairwise fun a b => key a < key b := fun strict => tied (strict.imp ne_of_lt)
    obtain ⟨front, x, y, back, rfl, same⟩ := exists_tie sorted tied'
    have swapped := (List.Perm.swap x y back).append_left front
    obtain ⟨pick, answered⟩ := exists_orderBy swapped (sorted_swap sorted same)
    have equal := List.append_cancel_left ((kept pick).symm.trans answered)
    obtain ⟨rfl, -⟩ := List.cons.inj equal
    simp only [List.nodup_append, List.nodup_cons, List.mem_cons, true_or, not_true_eq_false, false_and,
      and_false] at nodup
  · intro distinct pick
    have keys : (rows.map key).Nodup := List.pairwise_map.mpr distinct
    refine List.Perm.eq_of_pairwise ?_ (orderBy_sorted key rows pick) sorted (orderBy_perm key rows pick)
    intro a b member member' below above
    exact List.inj_on_of_nodup_map keys ((orderBy_perm key rows pick).mem_iff.mp member) member' (below.antisymm above)

/-! ## The top row again -/

/-- Any top row may be the answer. -/
theorem exists_limitOne (top : row ∈ tops key rows) : ∃ pick, limitOne key rows pick = some row := by
  obtain ⟨pick, at_pick⟩ := List.getElem?_of_mem top
  have inside := (List.getElem?_eq_some_iff.mp at_pick).1
  refine ⟨pick, ?_⟩
  rw [limitOne, Nat.mod_eq_of_lt inside, at_pick]

/-- The row inserted last is the answer of every pick exactly if its key is above all others. -/
theorem limitOne_eq_getLast?_iff (nodup : rows.Nodup) :
    (∀ pick, limitOne key rows pick = rows.getLast?) ↔
      ∀ front last, rows = front ++ [last] → ∀ row ∈ front, key row < key last := by
  constructor
  · rintro wins front last rfl row member
    have answer : ∀ {row}, row ∈ tops key (front ++ [last]) → row = last := by
      intro row top
      obtain ⟨pick, found⟩ := exists_limitOne top
      rw [wins pick, List.getLast?_append_of_ne_nil _ (List.cons_ne_nil _ _)] at found
      exact (Option.some.inj found).symm
    obtain ⟨best, top⟩ : ∃ best, best ∈ tops key (front ++ [last]) := exists_top (by simp)
    obtain rfl := answer top
    have above := (mem_tops.mp top).2
    refine lt_of_le_of_ne (above row (List.mem_append_left _ member)) fun same => ?_
    have top' : row ∈ tops key (front ++ [best]) :=
      mem_tops.mpr ⟨List.mem_append_left _ member, fun other found => same ▸ above other found⟩
    obtain rfl := answer top'
    exact (List.nodup_append.mp nodup).2.2 row member row (List.mem_singleton_self _) rfl
  · intro newest pick
    rcases List.eq_nil_or_concat rows with rfl | ⟨front, last, rfl⟩
    · rfl
    · rw [List.concat_eq_append] at newest ⊢
      rw [limitOne_last (newest front last rfl), List.getLast?_concat]

/-- Among rows in order of a time, only what the key adds to the time is to compare. -/
theorem limitOne_eq_getLast?_iff_ordered {Time : Type} [Preorder Time] {time : Row → Time}
    {outranked : Row → Row → Prop} (nodup : rows.Nodup) (ordered : rows.Pairwise fun a b => time a ≤ time b)
    (compared : ∀ a b, time a ≤ time b → (key a < key b ↔ outranked a b)) :
    (∀ pick, limitOne key rows pick = rows.getLast?) ↔
      ∀ front last, rows = front ++ [last] → ∀ row ∈ front, outranked row last := by
  rw [limitOne_eq_getLast?_iff nodup]
  apply forall_congr'
  intro front
  apply forall_congr'
  intro last
  apply forall_congr'
  intro split
  apply forall_congr'
  intro row
  apply forall_congr'
  intro member
  rw [split] at ordered
  have before : time row ≤ time last :=
    (List.pairwise_append.mp ordered).2.2 row member last (List.mem_singleton_self last)
  exact compared row last before

/-! ## A table that grows with a clock that may stand still -/

/-- The rows carry times that never decrease, all of them past. -/
structure Aged (time : Row → ℕ) (rows : List Row) (clock : ℕ) : Prop where
  ordered : rows.Pairwise fun a b => time a ≤ time b
  past : ∀ row ∈ rows, time row ≤ clock

namespace Aged

variable {time : Row → ℕ} {clock clock' : ℕ}

theorem nil : Aged time ([] : List Row) clock := ⟨.nil, fun _ member => nomatch member⟩

theorem tick (aged : Aged time rows clock) (later : clock ≤ clock') : Aged time rows clock' :=
  ⟨aged.ordered, fun row member => Nat.le_trans (aged.past row member) later⟩

theorem snoc (aged : Aged time rows clock) (later : clock ≤ time row) : Aged time (rows ++ [row]) (time row) := by
  constructor
  · apply Lists.pairwise_snoc aged.ordered
    exact fun other member => Nat.le_trans (aged.past other member) later
  · apply Lists.forall_mem_snoc
    · exact fun other member => Nat.le_trans (aged.past other member) later
    · exact Nat.le_refl _

theorem of_append {more : List Row} (aged : Aged time (rows ++ more) clock) : Aged time rows clock :=
  ⟨(List.pairwise_append.mp aged.ordered).1, fun row member => aged.past row (List.mem_append_left _ member)⟩

end Aged

end Latest
