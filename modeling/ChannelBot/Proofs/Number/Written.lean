/-
Integers that are written out in decimal. They are words, a row of digits perhaps behind a minus sign
(`isWord_toString`), and they are read back unless they have more digits than a number may have
(`readInt_toString`).
-/
import Mathlib.Algebra.Group.Nat.Defs
import Mathlib.Data.List.Basic
import ChannelBot.Number.Integer
import ChannelBot.Proofs.Text.Blank

namespace ChannelBot.Number

open Text (isAsciiDigit digitsValue digitValue?)

variable {c : Char} {ds s : List Char}

/-- A character of a written integer. -/
def IsWritten (c : Char) : Prop := c.isDigit = true ∨ c = '-'

/-- A digit is no white space and no grouping mark, and it is its own ASCII form. -/
theorem digit_facts (h : c.isDigit = true) :
    isAsciiDigit c = true ∧ Chars.isBlank c = false ∧ c ≠ '_' ∧ c ≠ '-' ∧ c ≠ '+' ∧
      (digitValue? c).map (fun d => Char.ofNat (48 + d)) = some c := by
  have hrange : 48 ≤ c.toNat ∧ c.toNat ≤ 57 := Char.isDigit_iff_toNat.mp h
  have hten : ∀ i : Fin 10, let c := Char.ofNat (48 + i)
      isAsciiDigit c = true ∧ Chars.isBlank c = false ∧ c ≠ '_' ∧ c ≠ '-' ∧ c ≠ '+' ∧
        (digitValue? c).map (fun d => Char.ofNat (48 + d)) = some c := by decide
  have hc := hten ⟨c.toNat - 48, by omega⟩
  rwa [show 48 + (c.toNat - 48) = c.toNat by omega, Char.ofNat_toNat] at hc

theorem IsWritten.not_blank (h : IsWritten c) : Chars.isBlank c = false := by
  rcases h with h | rfl
  · exact (digit_facts h).2.1
  · decide

/-- Nothing is trimmed from what is written, and every character of it stands for itself. -/
theorem normalize_written (h : ∀ c ∈ s, IsWritten c) : normalize (.ofList s) = s := by
  have hmargin : ∀ c ∈ s, ¬ isMargin c = true := fun c hc => by simp [isMargin, (h c hc).not_blank]
  have hstart : s.dropWhile isMargin = s := by
    cases s with
    | nil => rfl
    | cons c r => exact List.dropWhile_cons_of_neg (hmargin c List.mem_cons_self)
  have hend : s.reverse.dropWhile isMargin = s.reverse := by
    cases hs : s.reverse with
    | nil => rfl
    | cons c r =>
      have hc : c ∈ s := List.mem_reverse.mp (hs ▸ List.mem_cons_self)
      exact List.dropWhile_cons_of_neg (hmargin c hc)
  rw [normalize, String.toList_ofList, hstart, hend, List.reverse_reverse]
  refine (List.map_congr_left fun c hc => ?_).trans (List.map_id s)
  rcases h c hc with hdigit | rfl
  · have hform := (digit_facts hdigit).2.2.2.2.2
    cases hvalue : digitValue? c with
    | none => simp [hvalue] at hform
    | some d =>
      rw [hvalue, Option.map_some, Option.some.injEq] at hform
      exact hform
  · rfl

theorem groupedDigits?_digits (hne : ds ≠ []) (h : ∀ c ∈ ds, c.isDigit = true) : groupedDigits? ds = some ds := by
  induction ds with
  | nil => exact absurd rfl hne
  | cons c r ih =>
    have hc := (digit_facts (h c List.mem_cons_self)).1
    cases r with
    | nil => rw [groupedDigits?, if_pos hc]
    | cons d r =>
      have hd := (digit_facts (h d (by simp))).2.2.1
      rw [groupedDigits?, if_pos hc, if_neg (by simpa using hd),
        ih (List.cons_ne_nil d r) fun e he => h e (List.mem_cons_of_mem c he)]
      rfl

theorem splitSign_digits (h : ∀ c ∈ ds, c.isDigit = true) : splitSign ds = (false, ds) := by
  cases ds with
  | nil => rfl
  | cons c r =>
    obtain ⟨-, -, -, hminus, hplus, -⟩ := digit_facts (h c List.mem_cons_self)
    unfold splitSign
    split
    · rename_i heq
      exact absurd (List.cons.inj heq).1 hminus
    · rename_i heq
      exact absurd (List.cons.inj heq).1 hplus
    · rfl

/-- The digits of a number, and that there are few enough of them. -/
theorem toDigits_facts (n : Nat) :
    (∀ c ∈ Nat.toDigits 10 n, c.isDigit = true) ∧ digitsValue (Nat.toDigits 10 n) = n ∧
      ((Nat.toDigits 10 n).length > digitLimit ↔ ¬ n < 10 ^ digitLimit) := by
  refine ⟨fun c hc => Nat.isDigit_of_mem_toDigits (by decide) (by decide) hc, ?_, ?_⟩
  · exact Nat.ofDigitChars_ten_toDigits
  · rw [← Nat.length_toDigits_le_iff (by decide) (by decide)]
    omega

/-- How an integer is written: the digits of its amount, behind a minus sign if it is negative. -/
theorem toString_eq (n : Int) :
    toString n = .ofList ((if n < 0 then ['-'] else []) ++ Nat.toDigits 10 n.natAbs) := by
  cases n with
  | ofNat m => rfl
  | negSucc m =>
    have hwritten : toString (Int.negSucc m) = "-" ++ .ofList (Nat.toDigits 10 (m + 1)) := rfl
    rw [if_pos (Int.negSucc_lt_zero m), hwritten, String.ofList_append]
    rfl

theorem toString_written (n : Int) : ∀ c ∈ (toString n).toList, IsWritten c := by
  intro c hc
  rw [toString_eq, String.toList_ofList] at hc
  rcases List.mem_append.mp hc with hc | hc
  · split at hc
    · exact .inr (List.mem_singleton.mp hc)
    · cases hc
  · exact .inl ((toDigits_facts n.natAbs).1 c hc)

theorem isWord_toString (n : Int) : Chars.IsWord (toString n).toList := by
  refine ⟨?_, fun c hc => (toString_written n c hc).not_blank⟩
  rw [toString_eq, String.toList_ofList]
  exact List.append_ne_nil_of_right_ne_nil _ Nat.toDigits_ne_nil

/-- **A written integer is read back**, unless it has too many digits. -/
theorem readInt_toString (n : Int) : readInt (toString n) =
    if n.natAbs < 10 ^ digitLimit then .ok n else .error (.tooLong (Nat.toDigits 10 n.natAbs).length) := by
  obtain ⟨hdigits, hvalue, hlong⟩ := toDigits_facts n.natAbs
  have hnormal : normalize (toString n) = (toString n).toList := by
    conv_lhs => rw [← String.ofList_toList (s := toString n)]
    exact normalize_written (toString_written n)
  have hsign : splitSign (toString n).toList = (decide (n < 0), Nat.toDigits 10 n.natAbs) := by
    rw [toString_eq, String.toList_ofList]
    by_cases hn : n < 0
    · rw [if_pos hn, decide_eq_true hn]
      rfl
    · rw [if_neg hn, decide_eq_false hn, List.nil_append, splitSign_digits hdigits]
  have hgroups := groupedDigits?_digits Nat.toDigits_ne_nil hdigits
  rw [readInt, hnormal, hsign]
  dsimp only
  rw [hgroups]
  dsimp only
  rw [ofDigits, hvalue]
  by_cases hfits : n.natAbs < 10 ^ digitLimit
  · rw [if_pos hfits, if_neg (mt hlong.mp (not_not_intro hfits))]
    show Except.ok (if decide (n < 0) = true then -(n.natAbs : Int) else (n.natAbs : Int)) = .ok n
    congr 1
    simp only [decide_eq_true_eq]
    split <;> omega
  · rw [if_neg hfits, if_pos (hlong.mpr hfits)]
    rfl

end ChannelBot.Number
