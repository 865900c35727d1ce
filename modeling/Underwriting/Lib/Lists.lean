import Mathlib.Data.List.Basic

/-! # Lists that grow at the end

What holds of a list and of one more item holds of the longer list.
-/

namespace Lists

variable {Item : Type} {items : List Item} {item last : Item}

theorem forall_mem_snoc {property : Item → Prop} (old : ∀ i ∈ items, property i) (new : property item) :
    ∀ i ∈ items ++ [item], property i :=
  List.forall_mem_append.mpr ⟨old, List.forall_mem_singleton.mpr new⟩

theorem pairwise_snoc {relation : Item → Item → Prop} (old : items.Pairwise relation)
    (new : ∀ i ∈ items, relation i item) : (items ++ [item]).Pairwise relation := by
  rw [List.pairwise_append]
  refine ⟨old, List.pairwise_singleton _ _, ?_⟩
  intro i member
  exact List.forall_mem_singleton.mpr (new i member)

/-! ## The last item of a kind -/

/-- Nothing of the kind comes after it. -/
def IsLast (kind : Item → Prop) (items : List Item) (last : Item) : Prop :=
  ∃ before after, items = before ++ last :: after ∧ kind last ∧ ∀ i ∈ after, ¬kind i

variable {kind : Item → Prop}

theorem isLast_snoc (new : kind item) : IsLast kind (items ++ [item]) item :=
  ⟨items, [], rfl, new, fun _ member => absurd member List.not_mem_nil⟩

theorem IsLast.snoc (isLast : IsLast kind items last) (other : ¬kind item) : IsLast kind (items ++ [item]) last := by
  obtain ⟨before, after, rfl, holds, none⟩ := isLast
  exact ⟨before, after ++ [item], by simp, holds, forall_mem_snoc none other⟩

theorem IsLast.mem (isLast : IsLast kind items last) : last ∈ items := by
  obtain ⟨before, after, rfl, -⟩ := isLast
  simp

end Lists
