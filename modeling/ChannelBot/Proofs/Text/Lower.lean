/-
Lower case has no ASCII capitals left: the table of letters never leads back to `A` … `Z`, and
the two characters that need a rule of their own lead to small letters. So the tables, which
fold ASCII letters only, compare a lower-case text as it is.
-/
import ChannelBot.Server.Tables

namespace ChannelBot

namespace Case

theorem toLower_of_toNat {c : Char} (h : c.toNat < 65 ∨ 90 < c.toNat) : c.toLower = c := by
  refine dif_neg fun h => ?_
  obtain ⟨hlo, hhi⟩ := h
  rw [ge_iff_le, UInt32.le_iff_toNat_le] at hlo
  rw [UInt32.le_iff_toNat_le] at hhi
  simp only [Char.toNat_val] at hlo hhi
  have hA : 'A'.toNat = 65 := rfl
  have hZ : 'Z'.toNat = 90 := rfl
  omega

/-- What holds of the 26 ASCII capitals holds of each character in their range. -/
theorem of_capitals {P : Char → Prop} (h : ∀ i : Fin 26, P (Char.ofNat (65 + i))) {c : Char}
    (hc : 65 ≤ c.toNat ∧ c.toNat ≤ 90) : P c := by
  have hletter := h ⟨c.toNat - 65, by omega⟩
  rwa [show 65 + (c.toNat - 65) = c.toNat by omega, Char.ofNat_toNat] at hletter

theorem toLower_toLower (c : Char) : c.toLower.toLower = c.toLower := by
  by_cases h : 65 ≤ c.toNat ∧ c.toNat ≤ 90
  · exact of_capitals (P := fun c => c.toLower.toLower = c.toLower) (by decide) h
  · have hc := toLower_of_toNat (c := c) (by omega)
    rw [hc, hc]

/-- A number that is no code point stands for the character zero. -/
theorem toNat_ofNat_or (n : Nat) : (Char.ofNat n).toNat = n ∨ (Char.ofNat n).toNat = 0 := by
  by_cases h : n.isValidChar
  · have hn : Char.ofNat n = Char.ofNatAux n h := dif_pos h
    rw [hn]
    exact .inl rfl
  · have hn : Char.ofNat n = '\x00' := dif_neg h
    rw [hn]
    exact .inr rfl

/-- No entry of the table leads to an ASCII capital. -/
theorem lowerRanges_above : lowerRanges.all (fun e => 90 < (e.1 : Int) + e.2.2.2) = true := by decide

theorem lowerChar_toLower (c : Char) : (lowerChar c).toLower = lowerChar c := by
  unfold lowerChar
  split
  · exact toLower_toLower c
  split
  · rename_i first last step shift hfind
    have habove := List.all_eq_true.mp lowerRanges_above _ (List.mem_of_find?_eq_some hfind)
    have hrange := List.find?_some hfind
    simp only [Bool.and_eq_true, decide_eq_true_eq] at habove hrange
    refine toLower_of_toNat ?_
    rcases toNat_ofNat_or (c.toNat + shift).toNat with h | h <;> omega
  · exact toLower_of_toNat (by omega)

theorem lowerAt_toLower {behind : Bool} {c d : Char} {rest : List Char} (h : d ∈ lowerAt behind c rest) :
    d.toLower = d := by
  unfold lowerAt at h
  split at h
  · split at h <;> simp only [List.mem_singleton] at h <;> subst h <;> decide
  split at h
  · simp only [List.mem_cons, List.not_mem_nil, or_false] at h
    rcases h with rfl | rfl <;> decide
  · simp only [List.mem_singleton] at h
    subst h
    exact lowerChar_toLower c

theorem lowerFrom_toLower {s : List Char} {behind : Bool} {d : Char} (h : d ∈ lowerFrom behind s) :
    d.toLower = d := by
  induction s generalizing behind with
  | nil => simp [lowerFrom] at h
  | cons c rest ih =>
    simp only [lowerFrom, List.mem_append] at h
    rcases h with h | h
    · exact lowerAt_toLower h
    · exact ih h

end Case

namespace Server

/-- A text in lower case is compared as it is. -/
theorem folded_lower (s : String) : folded (Text.lower s) = Text.lower s := by
  have hmap : (Case.lowerFrom false s.toList).map Char.toLower = Case.lowerFrom false s.toList :=
    (List.map_congr_left fun _ hd => Case.lowerFrom_toLower hd).trans (List.map_id' _)
  simp [folded, Text.lower, hmap]

theorem folded_normalize (name : String) :
    folded (ChannelName.normalize name) = ChannelName.normalize name := folded_lower _

end Server

end ChannelBot
