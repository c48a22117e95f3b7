/-
What a line of chat is read as, and the one way to write that down again. A line calls nothing exactly if
there is no sigil, if it does not start with the sigil, or if nothing but white space follows it
(`parse?_eq_none_iff`); any other line is cut in one way into sigil, trigger and rest
(`parse?_eq_some_iff_cut`). What was read is written down with the trigger right behind the sigil and one blank
before the rest, and is read from there as the same call (`reading_is_canonical`).
-/
import ChannelBot.Proofs.Line.Spelling

namespace ChannelBot.Line

open Chars (IsGap)
open Text (IsWord Splits afterLead? beginsBlank endsBlank firstWord? trim)

variable {sigil line raw : String} {l : Line}

/-! ## How a line is cut -/

/-- A line is the sigil, the trigger as the first word behind it, and the rest without white space at its ends;
the arguments are the words that the rest splits into. -/
structure Cut (sigil line : String) (l : Line) : Prop where
  word : IsWord l.trigger
  parts : ∃ lead gap : String, line = sigil ++ lead ++ l.trigger ++ gap ++ l.rest ∧ IsGap lead.toList ∧
    IsGap gap.toList ∧ (gap = "" → l.rest = "")
  begins : beginsBlank l.rest = false
  ends : endsBlank l.rest = false
  args : Splits l.rest l.args

theorem Cut.trim_rest (h : Cut sigil line l) : trim l.rest = l.rest := Text.trim_eq_self_iff.mpr ⟨h.begins, h.ends⟩

/-- A line is read as the call that it is cut into. -/
theorem parse?_eq_some_iff_cut : parse? sigil raw = some l ↔ sigil ≠ "" ∧ Cut sigil (trim raw) l := by
  rw [parse?_eq_some_iff]
  constructor
  · rintro ⟨hspells, hargs⟩
    obtain ⟨hbegins, hends⟩ := Text.trim_eq_self_iff.mp hspells.trim_rest
    obtain ⟨hsigil, tail, htail, hopens⟩ := hspells
    obtain ⟨hword, -, lead, gap, rfl, hlead, hgap, hbound⟩ := Text.opens_iff.mp hopens
    refine ⟨hsigil, hword, ⟨lead, gap, ?_, hlead, hgap, hbound⟩, hbegins, hends, Text.splits_iff.mpr hargs.symm⟩
    rw [htail]
    simp only [String.append_assoc]
  · rintro ⟨hsigil, hcut⟩
    obtain ⟨lead, gap, hline, hlead, hgap, hbound⟩ := hcut.parts
    have hstart : Chars.trimStart l.rest.toList = l.rest.toList := by
      rw [← hcut.trim_rest, Text.toList_trim, Chars.trimStart_trim]
    have hopens : Text.Opens (lead ++ l.trigger ++ gap ++ l.rest) l.trigger l.rest :=
      Text.opens_iff.mpr ⟨hcut.word, hstart, lead, gap, rfl, hlead, hgap, hbound⟩
    refine ⟨⟨hsigil, _, ?_, hopens⟩, (Text.splits_iff.mp hcut.args).symm⟩
    rw [hline]
    simp only [String.append_assoc]

/-- A line calls nothing if there is no sigil, if it does not start with the sigil, or if nothing but white
space follows. -/
theorem parse?_eq_none_iff : parse? sigil raw = none ↔ sigil = "" ∨ (∀ tail, trim raw ≠ sigil ++ tail) ∨
    ∃ tail, trim raw = sigil ++ tail ∧ IsGap tail.toList := by
  rw [parse?]
  by_cases hsigil : sigil = ""
  · simp [hsigil]
  rw [if_neg (by simpa using hsigil), or_iff_right hsigil]
  cases hlead : afterLead? sigil (trim raw) with
  | none =>
    have hother : ∀ tail, trim raw ≠ sigil ++ tail := fun tail htail => by
      rw [afterLead?_eq_some_iff.mpr htail] at hlead
      cases hlead
    exact iff_of_true rfl (.inl hother)
  | some tail =>
    have htail := afterLead?_eq_some_iff.mp hlead
    -- There is one text behind the sigil.
    have hgap : (∃ tail', trim raw = sigil ++ tail' ∧ IsGap tail'.toList) ↔ IsGap tail.toList := by
      constructor
      · rintro ⟨tail', htail', hgap⟩
        rw [afterLead?_eq_some_iff.mpr htail'] at hlead
        exact Option.some.inj hlead ▸ hgap
      · exact fun hgap => ⟨tail, htail, hgap⟩
    rw [or_iff_right fun hother => hother tail htail, hgap, ← Text.firstWord?_eq_none_iff]
    dsimp only
    cases firstWord? tail <;> simp

/-! ## How a call is written -/

/-- A call as it is written down: sigil and trigger, and then the rest behind a blank, if there is any. -/
def written (sigil : String) (l : Line) : String := sigil ++ l.trigger ++ if l.rest = "" then "" else " " ++ l.rest

/-- What is written of a call is cut into that call. -/
theorem Cut.written (h : Cut sigil line l) : Cut sigil (l.written sigil) l := by
  refine ⟨h.word, ⟨"", if l.rest = "" then "" else " ", ?_, by simp [IsGap], ?_, ?_⟩, h.begins, h.ends, h.args⟩
  · rw [Line.written]
    split <;> simp [*, String.append_assoc]
  · split <;> simp [IsGap, Chars.isBlank]
  · split <;> simp [*]

/-- What is written under a sigil that does not begin with white space has none at its ends. -/
theorem Cut.trim_written (h : Cut sigil line l) (hsigil : sigil ≠ "") (hink : beginsBlank sigil = false) :
    trim (l.written sigil) = l.written sigil := by
  have hword : l.trigger ≠ "" := by simpa using h.word.ne_nil
  refine Text.trim_eq_self_iff.mpr ⟨?_, ?_⟩
  · rw [Line.written, String.append_assoc, Text.beginsBlank_append hsigil, hink]
  · rw [Line.written]
    split
    · rw [String.append_empty, Text.endsBlank_append hword]
      exact (Text.trim_eq_self_iff.mp h.word.trim_eq).2
    · rename_i hrest
      rw [← String.append_assoc, Text.endsBlank_append hrest]
      exact h.ends

/-- **A line is read exactly, and what is read is canonical.** Of every line, also of one that is missing, and
under every sigil: nothing is read if and only if there is no sigil, the trimmed line does not start with it, or
nothing but white space follows it. A call is read if and only if the trimmed line is cut into it: the sigil,
the trigger as the first word behind it, and the rest with the words that it splits into. And what is written of
a call that was read is read as the same call. -/
theorem reading_is_canonical (sigil : String) (raw : Option String) :
    (ofText? sigil raw = none ↔ sigil = "" ∨ (∀ tail, trim (raw.getD "") ≠ sigil ++ tail) ∨
      ∃ tail, trim (raw.getD "") = sigil ++ tail ∧ IsGap tail.toList) ∧
    (∀ l, ofText? sigil raw = some l ↔ sigil ≠ "" ∧ Cut sigil (trim (raw.getD "")) l) ∧
    ∀ l, ofText? sigil raw = some l → ofText? sigil (some (l.written sigil)) = some l := by
  refine ⟨parse?_eq_none_iff, fun l => parse?_eq_some_iff_cut, fun l hread => ?_⟩
  obtain ⟨hsigil, hcut⟩ := parse?_eq_some_iff_cut.mp hread
  have hink : beginsBlank sigil = false := by
    by_contra hblank
    rw [ofText?, parse?_of_beginsBlank (by simpa using hblank)] at hread
    cases hread
  refine parse?_eq_some_iff_cut.mpr ⟨hsigil, ?_⟩
  rw [Option.getD_some, hcut.trim_written hsigil hink]
  exact hcut.written

/-- A line with wide blanks and control characters around and between its parts, under a sigil that ends in
white space. -/
theorem reading_is_canonical_wide :
    ofText? "! " (some "\u3000! \u2003x  a\u0085b \u001c") = some ⟨"x", ["a", "b"], "a\u0085b"⟩ ∧
      ofText? "! " (some "! x a\u0085b") = some ⟨"x", ["a", "b"], "a\u0085b"⟩ := by
  have hread : ofText? "! " (some "\u3000! \u2003x  a\u0085b \u001c") = some ⟨"x", ["a", "b"], "a\u0085b"⟩ := by
    decide +kernel
  have hwritten : written "! " ⟨"x", ["a", "b"], "a\u0085b"⟩ = "! x a\u0085b" := by decide +kernel
  have hagain := (reading_is_canonical "! " _).2.2 _ hread
  rw [hwritten] at hagain
  exact ⟨hread, hagain⟩

end ChannelBot.Line
