/-
Lists in the order of a text: by code points, equal ones in the order in which they came.
-/

namespace ChannelBot.Text

/-- A list in ascending order of a text of each item. -/
def sortedOn {α : Type} (key : α → String) (items : List α) : List α :=
  items.mergeSort fun a b => decide (key a ≤ key b)

/-- Texts in ascending order. -/
def sorted (texts : List String) : List String := sortedOn id texts

theorem sortedOn_perm {α : Type} (key : α → String) (items : List α) :
    (sortedOn key items).Perm items := List.mergeSort_perm _ _

end ChannelBot.Text
