/-
Settings as a reader sees them. A writing changes the look-up of its own key alone (`lookup_put`),
defaults show where there is no row (`lookup_withDefaults`), and what is read under a key is settled
by its look-up (`value?_eq`).
-/
import Mathlib.Data.List.Basic
import ChannelBot.Server.Settings

namespace ChannelBot.Server.Settings

theorem lookup_cons_eq {α : Type} (k : String) (row : String × α) (rest : List (String × α)) :
    (row :: rest).lookup k = if k = row.1 then some row.2 else rest.lookup k := by
  obtain ⟨k', v⟩ := row
  rw [List.lookup_cons]
  by_cases hk : k = k'
  · rw [if_pos hk, beq_iff_eq.mpr hk]
  · rw [if_neg hk, beq_eq_false_iff_ne.mpr hk]

theorem lookup_put (key : String) (value : Option String) (rows : SettingRows) (k : String) :
    (put key value rows).lookup k = if k = key then some value else rows.lookup k := by
  induction rows with
  | nil => rw [put, lookup_cons_eq]
  | cons row rest ih =>
    obtain ⟨k', v⟩ := row
    rw [put]
    by_cases hkey : k' = key
    · rw [if_pos (beq_iff_eq.mpr hkey), lookup_cons_eq, lookup_cons_eq, hkey]
      by_cases hk : k = key <;> simp [hk]
    · rw [if_neg (by simpa using hkey), lookup_cons_eq, lookup_cons_eq, ih]
      by_cases hk : k = k'
      · rw [if_pos hk, if_pos hk, if_neg fun h => hkey (hk.symm.trans h)]
      · rw [if_neg hk, if_neg hk]

theorem hasRow_eq (key : String) (rows : SettingRows) : hasRow key rows = (rows.lookup key).isSome := by
  induction rows with
  | nil => rfl
  | cons row rest ih =>
    rw [hasRow] at ih ⊢
    rw [List.any_cons, lookup_cons_eq, ih]
    by_cases hk : key = row.1
    · simp [hk]
    · have hne : (row.1 == key) = false := beq_eq_false_iff_ne.mpr (Ne.symm hk)
      rw [if_neg hk, hne, Bool.false_or]

/-- A default shows where there is no row. -/
theorem lookup_withDefaults (rows : SettingRows) (key : String) :
    (withDefaults rows).lookup key = (rows.lookup key).or ((defaults.lookup key).map some) := by
  rw [withDefaults, List.lookup_append]
  cases hrow : rows.lookup key with
  | some v => rfl
  | none =>
    rw [Option.none_or, Option.none_or]
    induction defaults with
    | nil => rfl
    | cons d ds ih =>
      rw [lookup_cons_eq, List.filter_cons]
      by_cases hk : key = d.1
      · have hfree : (!hasRow d.1 rows) = true := by rw [hasRow_eq, ← hk, hrow]; rfl
        rw [if_pos hfree, List.map_cons, lookup_cons_eq, if_pos hk, if_pos hk]
        rfl
      · rw [if_neg hk, ← ih]
        split
        · rw [List.map_cons, lookup_cons_eq, if_neg hk]
        · rfl

/-- What rows give a reader under a key. -/
def reading (rows : SettingRows) (key : String) : Option String := (rows.lookup key).join.bind filled?

theorem value?_eq (s : Settings) (key : String) : s.value? key = reading s.current key := by
  rw [value?, reading]
  cases s.current.lookup key with
  | none => rfl
  | some v =>
    cases v with
    | none => rfl
    | some t => rw [Option.join_some, Option.bind_some]

theorem reading_congr {xs ys : SettingRows} {key : String} (h : xs.lookup key = ys.lookup key) :
    reading xs key = reading ys key := by rw [reading, reading, h]

end ChannelBot.Server.Settings
