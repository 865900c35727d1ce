import Mathlib.Data.List.Dedup
import Mathlib.Data.List.Nodup
import Mathlib.Order.Lattice

/-! # Joins and groups

`LEFT OUTER JOIN` and `SELECT key, MAX(value) ... GROUP BY key` over lists of
rows. A join keeps every left row, once for each right row it matches and once
alone if there is none. A group has one row for each key.
-/

namespace Relational

variable {α β γ Key : Type}

/-- A left row beside each of its matches, or beside nothing. -/
def padded (left : α) : List β → List (α × Option β)
  | [] => [(left, none)]
  | first :: rest => (first :: rest).map fun right => (left, some right)

/-- `LEFT OUTER JOIN ... ON` -/
def outerJoin (on : α → β → Bool) (lefts : List α) (rights : List β) : List (α × Option β) :=
  lefts.flatMap fun left => padded left (rights.filter (on left))

/-- The greatest of some values, if there is any. -/
def greatest : List ℕ → Option ℕ
  | [] => none
  | first :: rest => some (rest.foldr max first)

/-- `SELECT key, MAX(value) ... GROUP BY key` -/
def groupMax [DecidableEq Key] (key : α → Key) (value : α → ℕ) (rows : List α) : List (Key × ℕ) :=
  (rows.map key).dedup.filterMap fun k => (greatest ((rows.filter (key · = k)).map value)).map (k, ·)

theorem padded_toList (left : α) (right : Option β) : padded left right.toList = [(left, right)] := by
  cases right <;> rfl

theorem mem_padded {left : α} {rights : List β} {row : α × Option β} :
    row ∈ padded left rights ↔
      (rights = [] ∧ row = (left, none)) ∨ ∃ right ∈ rights, row = (left, some right) := by
  cases rights with
  | nil => simp [padded]
  | cons first rest => simp [padded, eq_comm]

theorem padded_length (left : α) (rights : List β) : (padded left rights).length = max 1 rights.length := by
  cases rights with
  | nil => rfl
  | cons first rest =>
      rw [padded, List.length_map, List.length_cons]
      omega

/-- A join loses no left row. -/
theorem length_le_padded (found : α → List β) (lefts : List α) :
    lefts.length ≤ (lefts.flatMap fun left => padded left (found left)).length := by
  induction lefts with
  | nil => exact Nat.le_refl _
  | cons first rest ih =>
      have here := padded_length first (found first)
      rw [List.flatMap_cons, List.length_append, List.length_cons]
      omega

/-- A join with as many rows as its left table has matched none of them twice. -/
theorem matches_of_length {found : α → List β} {lefts : List α}
    (same : (lefts.flatMap fun left => padded left (found left)).length = lefts.length) :
    ∀ left ∈ lefts, (found left).length ≤ 1 := by
  induction lefts with
  | nil => exact fun _ member => nomatch member
  | cons first rest ih =>
      have here := padded_length first (found first)
      have later := length_le_padded found rest
      rw [List.flatMap_cons, List.length_append, List.length_cons] at same
      intro left member
      rcases List.mem_cons.mp member with rfl | deeper
      · omega
      · exact ih (by omega) left deeper

/-- Rows that matched take at least one row each. -/
theorem length_matched_le (found : α → List β) (lefts : List α) :
    (lefts.filter fun left => found left ≠ []).length ≤ (lefts.flatMap found).length := by
  induction lefts with
  | nil => exact Nat.le_refl _
  | cons first rest ih =>
      rw [List.flatMap_cons, List.length_append, List.filter_cons]
      split
      · rename_i matched
        have here := List.length_pos_iff.mpr (of_decide_eq_true matched)
        rw [List.length_cons]
        omega
      · omega

/-- With as many results as left rows that matched, none matched twice. -/
theorem few_of_length {found : α → List β} {lefts : List α}
    (same : (lefts.flatMap found).length = (lefts.filter fun left => found left ≠ []).length) :
    ∀ left ∈ lefts, (found left).length ≤ 1 := by
  induction lefts with
  | nil => exact fun _ member => nomatch member
  | cons first rest ih =>
      have later := length_matched_le found rest
      rw [List.flatMap_cons, List.length_append, List.filter_cons] at same
      have here : (found first).length ≤ 1 ∧
          (rest.flatMap found).length = (rest.filter fun left => found left ≠ []).length := by
        split at same
        · rename_i matched
          have one := List.length_pos_iff.mpr (of_decide_eq_true matched)
          rw [List.length_cons] at same
          omega
        · omega
      intro left member
      rcases List.mem_cons.mp member with rfl | deeper
      · exact here.1
      · exact ih here.2 left deeper

/-- Where nothing matched twice the results are the left rows that matched. -/
theorem map_matched {found : α → List β} {lefts : List α} {left : β → α}
    (few : ∀ first ∈ lefts, (found first).length ≤ 1) (own : ∀ first, ∀ row ∈ found first, left row = first) :
    (lefts.flatMap found).map left = lefts.filter fun first => found first ≠ [] := by
  induction lefts with
  | nil => rfl
  | cons first rest ih =>
      have others := ih fun other member => few other (List.mem_cons_of_mem _ member)
      have single := few first List.mem_cons_self
      have same := own first
      rw [List.flatMap_cons, List.map_append, others, List.filter_cons]
      cases matched : found first with
      | nil => rfl
      | cons row more =>
          rw [matched] at single same
          obtain rfl : more = [] := List.length_eq_zero_iff.mp (by simpa using single)
          simp [same row List.mem_cons_self]

/-- A join on a key of the right table adds at most one match to each left row. -/
theorem outerJoin_unique {on : α → β → Bool} {rights : List β} (found : α → Option β) (lefts : List α)
    (unique : ∀ left ∈ lefts, rights.filter (on left) = (found left).toList) :
    outerJoin on lefts rights = lefts.map fun left => (left, found left) := by
  induction lefts with
  | nil => rfl
  | cons first rest ih =>
      have here : padded first (rights.filter (on first)) = [(first, found first)] := by
        rw [unique first List.mem_cons_self]
        exact padded_toList first (found first)
      have later : outerJoin on rest rights = rest.map fun left => (left, found left) :=
        ih fun left member => unique left (List.mem_cons_of_mem _ member)
      calc outerJoin on (first :: rest) rights
          = padded first (rights.filter (on first)) ++ outerJoin on rest rights := List.flatMap_cons ..
        _ = (first :: rest).map fun left => (left, found left) := by rw [here, later]; rfl

theorem greatest_spec {values : List ℕ} {m : ℕ} :
    greatest values = some m ↔ m ∈ values ∧ ∀ value ∈ values, value ≤ m := by
  have attained : ∀ (rest : List ℕ) (first : ℕ), rest.foldr max first ∈ first :: rest ∧
      ∀ value ∈ first :: rest, value ≤ rest.foldr max first := by
    intro rest first
    induction rest with
    | nil => simp
    | cons second rest ih =>
        obtain ⟨member, above⟩ := ih
        simp only [List.foldr_cons, List.mem_cons] at member above ⊢
        grind
  cases values with
  | nil => simp [greatest]
  | cons first rest =>
      obtain ⟨member, above⟩ := attained rest first
      simp only [greatest, Option.some.injEq]
      constructor
      · rintro rfl
        exact ⟨member, above⟩
      · rintro ⟨member', above'⟩
        exact Nat.le_antisymm (above' _ member) (above _ member')

variable [DecidableEq Key] {key : α → Key} {value : α → ℕ} {rows : List α}

/-- The group of a key: one row if the key occurs, none otherwise. -/
theorem groupMax_filter (k : Key) : (groupMax key value rows).filter (·.1 = k) =
    ((greatest ((rows.filter (key · = k)).map value)).map (k, ·)).toList := by
  have others : ∀ keys : List Key, keys.Nodup → (keys.filterMap fun k' =>
      (greatest ((rows.filter (key · = k')).map value)).map (k', ·)).filter (·.1 = k) =
        if k ∈ keys then ((greatest ((rows.filter (key · = k)).map value)).map (k, ·)).toList else [] := by
    intro keys nodup
    induction keys with
    | nil => rfl
    | cons first rest ih =>
        obtain ⟨fresh, nodup⟩ := List.nodup_cons.mp nodup
        have tail := ih nodup
        by_cases same : first = k
        · subst same
          rw [if_neg fresh] at tail
          cases group : greatest ((rows.filter (key · = first)).map value) with
          | none => simp [group, tail]
          | some m => simp [group, tail]
        · have other : k ∈ first :: rest ↔ k ∈ rest := by simp [Ne.symm same]
          cases group : greatest ((rows.filter (key · = first)).map value) with
          | none => simp only [List.filterMap_cons, group, Option.map_none, tail, other]
          | some m =>
              simp only [List.filterMap_cons, group, Option.map_some, List.filter_cons, same, decide_false,
                Bool.false_eq_true, ↓reduceIte, tail, other]
  rw [groupMax, others _ (List.nodup_dedup _)]
  by_cases occurs : k ∈ (rows.map key).dedup
  · rw [if_pos occurs]
  · have none_left : rows.filter (key · = k) = [] := by
      refine List.filter_eq_nil_iff.mpr fun row member same => occurs ?_
      exact List.mem_dedup.mpr (List.mem_map.mpr ⟨row, member, of_decide_eq_true same⟩)
    rw [if_neg occurs, none_left]
    rfl

end Relational
