/-
A text written as a JSON string is read back as it was, in either layout (`readText_written`).
One character is written in one step and read in one step (`readText_writeChar`): as it is, as an
escape of one letter, as a code unit, or as two code units that make a pair.
-/
import ChannelBot.Proofs.Text.Utf8
import ChannelBot.Value.Read
import ChannelBot.Value.Write

namespace ChannelBot

namespace Json

/-! ## Code units -/

theorem hexValue_digitChar {n : Nat} (h : n < 16) : hexValue? (Nat.digitChar n) = some n := by
  have hall : ∀ i : Fin 16, hexValue? (Nat.digitChar i) = some i.val := by decide
  exact hall ⟨n, h⟩

theorem hexDigits_four {n : Nat} (h : n < 0x10000) :
    Text.hexDigits 4 n = [Nat.digitChar (n / 4096), Nat.digitChar (n / 256 % 16),
      Nat.digitChar (n / 16 % 16), Nat.digitChar (n % 16)] := by
  have hzero : Nat.digitChar 0 = '0' := rfl
  rw [Text.hexDigits]
  by_cases h1 : n < 16
  · rw [Nat.toDigits_of_lt_base h1, show n / 4096 = 0 by omega, show n / 256 % 16 = 0 by omega,
      show n / 16 % 16 = 0 by omega, show n % 16 = n by omega, hzero]
    rfl
  by_cases h2 : n < 256
  · rw [Nat.toDigits_of_base_le (by omega) (by omega), Nat.toDigits_of_lt_base (by omega),
      show n / 4096 = 0 by omega, show n / 256 % 16 = 0 by omega, show n / 16 % 16 = n / 16 by omega, hzero]
    rfl
  by_cases h3 : n < 4096
  · rw [Nat.toDigits_of_base_le (by omega) (by omega), Nat.toDigits_of_base_le (by omega) (by omega),
      Nat.toDigits_of_lt_base (by omega), show n / 4096 = 0 by omega, show n / 256 % 16 = n / 16 / 16 by omega, hzero]
    rfl
  · rw [Nat.toDigits_of_base_le (by omega) (by omega), Nat.toDigits_of_base_le (by omega) (by omega),
      Nat.toDigits_of_base_le (by omega) (by omega), Nat.toDigits_of_lt_base (by omega),
      show n / 4096 = n / 16 / 16 / 16 by omega, show n / 256 % 16 = n / 16 / 16 % 16 by omega]
    rfl

/-- A written code unit is read back, provided that the text goes on. -/
theorem unit_hexDigits {n : Nat} (h : n < 0x10000) (c : Char) (rest : List Char) :
    unit? (Text.hexDigits 4 n ++ c :: rest) = some n := by
  simp only [hexDigits_four h, List.cons_append, List.nil_append, unit?,
    hexValue_digitChar (show n / 4096 < 16 by omega), hexValue_digitChar (show n / 256 % 16 < 16 by omega),
    hexValue_digitChar (show n / 16 % 16 < 16 by omega), hexValue_digitChar (show n % 16 < 16 by omega),
    Option.bind_eq_bind, Option.bind_some, Option.pure_def, Option.some.injEq]
  omega

theorem drop_hexDigits {n : Nat} (h : n < 0x10000) (rest : List Char) :
    (Text.hexDigits 4 n ++ rest).drop 4 = rest := by
  rw [hexDigits_four h]
  rfl

/-! ## Characters -/

variable {start fuel offset : Nat} {done : List Char}

theorem readText_letter {c d : Char} (hu : c ≠ 'u') (h : escaped? c = some d) (rest : List Char) :
    readText start (fuel + 1) offset done ('\\' :: c :: rest) =
      readText start fuel (offset + 2) (d :: done) rest := by
  rw [readText]
  · rw [h]
  · exact hu

theorem readText_raw {c : Char} (hquote : c ≠ '"') (hslash : c ≠ '\\') (hlow : ¬ c.toNat < 32) (rest : List Char) :
    readText start (fuel + 1) offset done (c :: rest) = readText start fuel (offset + 1) (c :: done) rest := by
  rw [readText, if_neg hlow]
  · intro hc
    exact absurd hc hquote
  · intro hc
    exact absurd hc hslash
  · intro r hc
    exact absurd hc hslash
  · intro d r hc
    exact absurd hc hslash

theorem scalar_toNat (c : Char) : Units.scalar c.toNat = c := by
  have hvalid := Utf8.isValid c
  rw [Units.scalar, if_neg (by omega), Char.ofNat_toNat]

theorem readText_unit {c : Char} (h : c.toNat < 0x10000) (d : Char) (rest : List Char) :
    readText start (fuel + 1) offset done (Value.unitEscape c.toNat ++ d :: rest) =
      readText start fuel (offset + 6) (c :: done) (d :: rest) := by
  have hvalid := Utf8.isValid c
  rw [Value.unitEscape, List.cons_append, List.cons_append, readText, unit_hexDigits h]
  simp only [if_neg (show ¬ (0xd800 ≤ c.toNat ∧ c.toNat < 0xdc00) by omega), scalar_toNat,
    drop_hexDigits h]

theorem readText_units {high low : Nat} (hhigh : 0xd800 ≤ high ∧ high < 0xdc00)
    (hlow : 0xdc00 ≤ low ∧ low < 0xe000) (d : Char) (rest : List Char) :
    readText start (fuel + 1) offset done (Value.unitEscape high ++ (Value.unitEscape low ++ d :: rest)) =
      readText start fuel (offset + 12)
        (Char.ofNat (0x10000 + (high - 0xd800) * 0x400 + (low - 0xdc00)) :: done) (d :: rest) := by
  have hhigh' : high < 0x10000 := by omega
  have hlow' : low < 0x10000 := by omega
  have hlength : ¬ (Text.hexDigits 4 low ++ d :: rest).length < 5 := by
    rw [hexDigits_four hlow']
    simp
  rw [Value.unitEscape, Value.unitEscape]
  simp only [List.cons_append]
  rw [readText, unit_hexDigits hhigh']
  simp only [drop_hexDigits hhigh', drop_hexDigits hlow', unit_hexDigits hlow', if_pos hhigh, if_neg hlength,
    if_pos hlow]

theorem readText_pair {c : Char} (h : ¬ c.toNat < 0x10000) (d : Char) (rest : List Char) :
    readText start (fuel + 1) offset done
        (Value.unitEscape (0xd800 + (c.toNat - 0x10000) / 0x400) ++
          (Value.unitEscape (0xdc00 + (c.toNat - 0x10000) % 0x400) ++ d :: rest)) =
      readText start fuel (offset + 12) (c :: done) (d :: rest) := by
  have hvalid := Utf8.isValid c
  obtain ⟨high, hhigh⟩ : ∃ high, high = 0xd800 + (c.toNat - 0x10000) / 0x400 := ⟨_, rfl⟩
  obtain ⟨low, hlow⟩ : ∃ low, low = 0xdc00 + (c.toNat - 0x10000) % 0x400 := ⟨_, rfl⟩
  have hback : 0x10000 + (high - 0xd800) * 0x400 + (low - 0xdc00) = c.toNat := by omega
  rw [← hhigh, ← hlow, readText_units (by omega) (by omega), hback, Char.ofNat_toNat]

/-- One character is read back in one step. The text has to go on, as it does up to the closing quote. -/
theorem readText_writeChar (asciiOnly : Bool) (c d : Char) (rest : List Char) :
    ∃ next, readText start (fuel + 1) offset done (Value.writeChar asciiOnly c ++ d :: rest) =
      readText start fuel next (c :: done) (d :: rest) := by
  by_cases hletter : c = '"' ∨ c = '\\' ∨ c = '\n' ∨ c = '\r' ∨ c = '\t' ∨ c = '\x08' ∨ c = '\x0c'
  · refine ⟨offset + 2, ?_⟩
    rcases hletter with rfl | rfl | rfl | rfl | rfl | rfl | rfl <;>
      exact readText_letter (by decide) rfl (d :: rest)
  simp only [not_or] at hletter
  obtain ⟨hquote, hslash, hn, hr, ht, hb, hf⟩ := hletter
  simp only [Value.writeChar, beq_iff_eq, if_neg hquote, if_neg hslash, if_neg hn, if_neg hr, if_neg ht,
    if_neg hb, if_neg hf]
  by_cases hlow : c.toNat < 32
  · rw [if_pos hlow]
    exact ⟨offset + 6, readText_unit (by omega) d rest⟩
  rw [if_neg hlow]
  by_cases hascii : (asciiOnly && decide (c.toNat > 126)) = true
  · rw [if_pos hascii]
    by_cases hwide : c.toNat < 0x10000
    · rw [if_pos hwide]
      exact ⟨offset + 6, readText_unit hwide d rest⟩
    · rw [if_neg hwide, List.append_assoc]
      exact ⟨offset + 12, readText_pair hwide d rest⟩
  · rw [if_neg hascii]
    exact ⟨offset + 1, readText_raw hquote hslash hlow (d :: rest)⟩

/-! ## Texts -/

/-- The characters of a text up to its closing quote. -/
theorem readText_chars (asciiOnly : Bool) (s : List Char) (rest : List Char) (hfuel : s.length < fuel) :
    ∃ next, readText start fuel offset done (s.flatMap (Value.writeChar asciiOnly) ++ '"' :: rest) =
      .ok (.ofList (done.reverse ++ s), ⟨next, rest⟩) := by
  induction s generalizing fuel offset done with
  | nil =>
    obtain ⟨fuel, rfl⟩ : ∃ n, fuel = n + 1 := ⟨fuel - 1, by rw [List.length_nil] at hfuel; omega⟩
    rw [List.flatMap_nil, List.nil_append, readText, List.append_nil]
    exact ⟨offset + 1, rfl⟩
  | cons c cs ih =>
    rw [List.length_cons] at hfuel
    obtain ⟨fuel, rfl⟩ : ∃ n, fuel = n + 1 := ⟨fuel - 1, by omega⟩
    obtain ⟨d, more, hmore⟩ : ∃ d more, cs.flatMap (Value.writeChar asciiOnly) ++ '"' :: rest = d :: more :=
      List.exists_cons_of_ne_nil (by simp)
    obtain ⟨next, hstep⟩ := @readText_writeChar start fuel offset done asciiOnly c d more
    obtain ⟨last, hrest⟩ := @ih fuel next (c :: done) (by omega)
    rw [List.flatMap_cons, List.append_assoc, hmore, hstep, ← hmore, hrest, List.reverse_cons, List.append_assoc,
      List.singleton_append]
    exact ⟨last, rfl⟩

theorem writeChar_ne_nil (asciiOnly : Bool) (c : Char) : Value.writeChar asciiOnly c ≠ [] := by
  have hunit : ∀ n, Value.unitEscape n ≠ [] := fun n => List.cons_ne_nil _ _
  unfold Value.writeChar
  repeat' split
  all_goals simp [hunit]

theorem length_le_writeChars (asciiOnly : Bool) (s : List Char) :
    s.length ≤ (s.flatMap (Value.writeChar asciiOnly)).length := by
  induction s with
  | nil => exact Nat.le_refl 0
  | cons c cs ih =>
    have hpos := List.length_pos_iff.mpr (writeChar_ne_nil asciiOnly c)
    rw [List.flatMap_cons, List.length_append, List.length_cons]
    omega

/-- A text written as a JSON string, without its opening quote. -/
def written (asciiOnly : Bool) (s : String) : List Char := s.toList.flatMap (Value.writeChar asciiOnly) ++ ['"']

theorem toList_writeText (asciiOnly : Bool) (s : String) :
    (Value.writeText asciiOnly s).toList = '"' :: written asciiOnly s := by
  rw [Value.writeText, String.toList_ofList, written, List.cons_append]

/-- A text written as a JSON string is read back as it was. -/
theorem readText_written (asciiOnly : Bool) (s : String) (start offset : Nat) (rest : List Char) :
    ∃ next, readText start ((written asciiOnly s ++ rest).length + 1) offset [] (written asciiOnly s ++ rest) =
      .ok (s, ⟨next, rest⟩) := by
  have hlength := length_le_writeChars asciiOnly s.toList
  have hread := @readText_chars start ((written asciiOnly s ++ rest).length + 1) offset [] asciiOnly s.toList rest
  rw [List.reverse_nil, List.nil_append, String.ofList_toList] at hread
  simp only [written, List.append_assoc, List.singleton_append] at hread ⊢
  refine hread ?_
  rw [List.length_append]
  omega

end Json

end ChannelBot
