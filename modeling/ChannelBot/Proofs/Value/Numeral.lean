/-
The characters of which numbers are written in JSON. Whatever number it is, it is written with some of a few
characters (`write_int_spelled`, `write_real_spelled`), none of which ends a value or is the start of a text.
-/
import ChannelBot.Proofs.Number.Written
import ChannelBot.Proofs.Value.Json

namespace ChannelBot

namespace Json

/-- A character of a written number. -/
def isNumeral (c : Char) : Bool := c.isDigit || ".-+eNaInfity".toList.contains c

/-- A text that is written like a number. -/
structure Spelled (s : List Char) : Prop where
  some : s ≠ []
  all : ∀ c ∈ s, isNumeral c = true

/-- A character that can stand behind a value: a comma, or one that closes a list or an object. -/
def isCloser (c : Char) : Bool := c == ',' || c == ']' || c == '\x7d'

/-- A character of a number opens a value, and not a text, a list or an object. -/
structure OpensNumber (c : Char) : Prop extends Opens c where
  noCloser : isCloser c = false
  noText : c ≠ '"'
  noList : c ≠ '['
  noObject : c ≠ '\x7b'
  noNull : c ≠ 'u'

theorem isNumeral_opens {c : Char} (h : isNumeral c = true) : OpensNumber c := by
  rw [isNumeral, Bool.or_eq_true] at h
  rcases h with h | h
  · have hrange : 48 ≤ c.toNat ∧ c.toNat ≤ 57 := Char.isDigit_iff_toNat.mp h
    have hten : ∀ i : Fin 10, let c := Char.ofNat (48 + i)
        isBlank c = false ∧ c ≠ '\ufeff' ∧ c ≠ ']' ∧ isCloser c = false ∧ c ≠ '"' ∧ c ≠ '[' ∧ c ≠ '\x7b' ∧ c ≠ 'u' := by
      decide
    have hc := hten ⟨c.toNat - 48, by omega⟩
    rw [show 48 + (c.toNat - 48) = c.toNat by omega, Char.ofNat_toNat] at hc
    obtain ⟨hblank, hmark, hlist, hcloser, htext, hopen, hobject, hnull⟩ := hc
    exact ⟨⟨hblank, hmark, hlist⟩, hcloser, htext, hopen, hobject, hnull⟩
  · have hall : ".-+eNaInfity".toList.all (fun c => decide (isBlank c = false ∧ c ≠ '\ufeff' ∧ c ≠ ']' ∧
        isCloser c = false ∧ c ≠ '"' ∧ c ≠ '[' ∧ c ≠ '\x7b' ∧ c ≠ 'u')) = true := by
      decide
    obtain ⟨hblank, hmark, hlist, hcloser, htext, hopen, hobject, hnull⟩ :=
      of_decide_eq_true (List.all_eq_true.mp hall c (List.contains_iff_mem.mp h))
    exact ⟨⟨hblank, hmark, hlist⟩, hcloser, htext, hopen, hobject, hnull⟩

theorem isNumeral_digit {c : Char} (h : c.isDigit = true) : isNumeral c = true := by rw [isNumeral, h, Bool.true_or]

/-! ## Numbers as they are written -/

end Json

namespace Number

open Json (isNumeral isNumeral_digit)

theorem natDigits_digits (n : Nat) : ∀ c ∈ natDigits n, c.isDigit = true := (toDigits_facts n).1

theorem shortestFrom_digits (m : Nat) (e k : Int) (fuel places : Nat) :
    ∀ c ∈ (shortestFrom m e k fuel places).digits, c.isDigit = true := by
  induction fuel generalizing places with
  | zero => exact natDigits_digits _
  | succ fuel ih =>
    rw [shortestFrom]
    dsimp only
    split
    · exact natDigits_digits _
    · exact ih (places + 1)

theorem shortest_digits (m : Nat) (e : Int) : ∀ c ∈ (shortest m e).digits, c.isDigit = true := by
  intro c hc
  have hmem : c ∈ (dropZeros (shortestFrom m e (magnitude (asRatio m e).1 (asRatio m e).2) 16 1).digits) := hc
  rw [dropZeros, List.mem_reverse] at hmem
  exact shortestFrom_digits _ _ _ _ _ c (List.mem_reverse.mp (List.dropWhile_sublist _ |>.subset hmem))

/-- All characters of a text are those of numbers. -/
def Numerals (s : String) : Prop := ∀ c ∈ s.toList, isNumeral c = true

instance (s : String) : Decidable (Numerals s) := List.decidableBAll (isNumeral · = true) s.toList

theorem Numerals.append {s t : String} (hs : Numerals s) (ht : Numerals t) : Numerals (s ++ t) := by
  intro c hc
  rw [String.toList_append, List.mem_append] at hc
  exact hc.elim (hs c) (ht c)

theorem numerals_digits {ds : List Char} (h : ∀ c ∈ ds, c.isDigit = true) : Numerals (.ofList ds) := by
  intro c hc
  rw [String.toList_ofList] at hc
  exact isNumeral_digit (h c hc)

theorem exponentText_numerals (e : Int) : Numerals (exponentText e) := by
  have hsign : Numerals (if e < 0 then "e-" else "e+") := by
    split <;> decide
  have hdigits : Numerals (.ofList (natDigits e.natAbs)) := numerals_digits (natDigits_digits _)
  have hzero : Numerals "0" := by decide
  refine hsign.append ?_
  split
  · exact hzero.append hdigits
  · exact hdigits

theorem layout_numerals (limit : Int) {d : Decimal} (h : ∀ c ∈ d.digits, c.isDigit = true) :
    Numerals (d.layout limit ".0" "") := by
  have hzeros : ∀ n, ∀ c ∈ List.replicate n '0', c.isDigit = true := by
    intro n c hc
    rw [(List.mem_replicate.mp hc).2]
    rfl
  have hpoint : Numerals "." := by decide
  have hwhole : Numerals ".0" := by decide
  have hlead : Numerals "0." := by decide
  have htake : ∀ n, Numerals (.ofList (d.digits.take n)) := fun n =>
    numerals_digits fun c hc => h c (List.mem_of_mem_take hc)
  have hdrop : ∀ n, Numerals (.ofList (d.digits.drop n)) := fun n =>
    numerals_digits fun c hc => h c (List.mem_of_mem_drop hc)
  unfold Decimal.layout
  dsimp only
  split
  · split
    · refine hlead.append (numerals_digits fun c hc => ?_)
      exact (List.mem_append.mp hc).elim (hzeros _ c) (h c)
    · split
      · refine Numerals.append (numerals_digits fun c hc => ?_) hwhole
        exact (List.mem_append.mp hc).elim (h c) (hzeros _ c)
      · exact ((htake _).append hpoint).append (hdrop _)
  · refine ((htake 1).append ?_).append (exponentText_numerals _)
    split
    · decide
    · exact hpoint.append (hdrop 1)

theorem layout_ne_empty (limit : Int) (d : Decimal) : d.layout limit ".0" "" ≠ "" := by
  intro h
  have hlength := congrArg String.length h
  unfold Decimal.layout exponentText at hlength
  dsimp only at hlength
  repeat' split at hlength
  all_goals simp at hlength

theorem shortestText_numerals (x : Float) : Numerals (shortestText ⟨"NaN", "Infinity"⟩ x) := by
  have hsign : ∀ negative : Bool, Numerals (if negative then "-" else "") := by
    intro negative
    cases negative <;> decide
  unfold shortestText signed
  cases parts x with
  | nan => decide
  | infinite negative => exact (hsign negative).append (by decide)
  | finite negative m e =>
    refine (hsign negative).append ?_
    split
    · decide
    · exact layout_numerals 16 (shortest_digits m e)

theorem shortestText_ne_empty (x : Float) : shortestText ⟨"NaN", "Infinity"⟩ x ≠ "" := by
  intro h
  unfold shortestText signed at h
  cases hx : parts x with
  | nan => simp [hx] at h
  | infinite negative => simp [hx] at h
  | finite negative m e =>
    simp only [hx, String.append_eq_empty_iff] at h
    have hsecond := h.2
    split at hsecond
    · simp at hsecond
    · exact layout_ne_empty 16 _ hsecond

end Number

namespace Json

theorem writtenValue_int_spelled (l : Value.Layout) (n : Int) : Spelled (writtenValue l (.int n)) := by
  rw [writtenValue, Value.write]
  refine ⟨(Number.isWord_toString n).1, fun c hc => ?_⟩
  rcases Number.toString_written n c hc with hdigit | rfl
  · exact isNumeral_digit hdigit
  · decide

theorem writtenValue_real_spelled (l : Value.Layout) (x : Float) : Spelled (writtenValue l (.real x)) := by
  rw [writtenValue, Value.write]
  refine ⟨fun h => Number.shortestText_ne_empty x ?_, Number.shortestText_numerals x⟩
  rwa [← String.toList_eq_nil_iff]

end Json

end ChannelBot
