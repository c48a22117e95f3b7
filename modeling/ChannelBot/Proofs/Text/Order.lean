/-
Lists in the order of a text. Where no two items have the same text, a list in order is told by its
items alone (`sortedOn_eq_iff`).
-/
import ChannelBot.Text.Order

namespace ChannelBot.Text

variable {α : Type} {key : α → String} {items others : List α}

theorem pairwise_sortedOn (key : α → String) (items : List α) :
    (sortedOn key items).Pairwise fun a b => key a ≤ key b := by
  refine (List.pairwise_mergeSort (fun a b c hab hbc => ?_) (fun a b => ?_) items).imp fun hab => ?_
  · simp only [decide_eq_true_eq] at hab hbc ⊢
    exact String.le_trans hab hbc
  · simpa using String.le_total (key a) (key b)
  · simpa using hab

theorem perm_of_sortedOn_eq (h : sortedOn key items = sortedOn key others) : items.Perm others :=
  (sortedOn_perm key items).symm.trans (h ▸ sortedOn_perm key others)

/-- Two lists have one order exactly if they have the same items, each as often. -/
theorem sortedOn_eq_iff (hkey : ∀ a ∈ items, ∀ b ∈ items, key a = key b → a = b) :
    sortedOn key items = sortedOn key others ↔ items.Perm others := by
  refine ⟨perm_of_sortedOn_eq, fun h => ?_⟩
  have hperm : (sortedOn key items).Perm (sortedOn key others) :=
    (sortedOn_perm key items).trans (h.trans (sortedOn_perm key others).symm)
  refine List.Perm.eq_of_pairwise (fun a b ha hb hab hba => ?_) (pairwise_sortedOn key items)
    (pairwise_sortedOn key others) hperm
  have hb' : b ∈ sortedOn key items := hperm.mem_iff.mpr hb
  exact hkey a ((sortedOn_perm key items).mem_iff.mp ha) b ((sortedOn_perm key items).mem_iff.mp hb')
    (String.le_antisymm hab hba)

theorem sorted_eq_iff {texts others : List String} : sorted texts = sorted others ↔ texts.Perm others :=
  sortedOn_eq_iff fun _ _ _ _ h => h

end ChannelBot.Text
