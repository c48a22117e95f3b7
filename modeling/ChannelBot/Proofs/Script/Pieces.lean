/-
The grammar of bodies. A body is cut at its braces into text and blocks, in exactly one way
(`exists_cut`, `Cut.unique`). Parsing refuses a body for the first piece of it that is faulty, and
gives the segments of its pieces if none is (`Cut.parse`).
-/
import ChannelBot.Script.Parse

namespace ChannelBot.Script

/-- A piece of a body as it stands there; a block with the offset of its brace. -/
inductive Piece where
  | text (s : List Char)
  | block (inside : List Char) (position : Nat)
  /-- A block that is never closed. -/
  | unclosed (inside : List Char) (position : Nat)
  deriving Repr, DecidableEq

/-- The pieces of a body that starts at an offset: text up to an opening brace, then a block up to
the next closing brace, and so on. -/
inductive Cut : Nat → List Char → List Piece → Prop
  | text {n : Nat} {s : List Char} (h : '{' ∉ s) : Cut n s [.text s]
  | unclosed {n : Nat} {text inside : List Char} (htext : '{' ∉ text) (hinside : '}' ∉ inside) :
    Cut n (text ++ '{' :: inside) [.text text, .unclosed inside (n + text.length)]
  | block {n : Nat} {text inside rest : List Char} {ps : List Piece} (htext : '{' ∉ text) (hinside : '}' ∉ inside)
    (h : Cut (n + text.length + inside.length + 2) rest ps) :
    Cut n (text ++ '{' :: (inside ++ '}' :: rest)) (.text text :: .block inside (n + text.length) :: ps)

namespace Piece

/-- What is wrong with a piece. -/
def fault? : Piece → Option Fault
  | .text _ => none
  | .block inside position => if Chars.words inside = [] then some (.emptyBlock position) else none
  | .unclosed _ position => some (.unterminated position)

/-- The segments that a piece stands for. -/
def segments : Piece → List Segment
  | .text s => withLiteral s []
  | .block inside position => match Chars.words inside with
    | [] => []
    | action :: tokens => [.block (.ofList action) (tokens.map .ofList) position]
  | .unclosed .. => []

end Piece

/-! ## Cutting -/

theorem takeWhile_other {c : Char} {s : List Char} (h : c ∉ s) (rest : List Char) :
    (s ++ c :: rest).takeWhile (· != c) = s := by
  have hall : ∀ d ∈ s, (d != c) = true := fun d hd => bne_iff_ne.mpr fun heq => h (heq ▸ hd)
  rw [List.takeWhile_append_of_pos hall, List.takeWhile_cons_of_neg (by simp), List.append_nil]

theorem dropWhile_other {c : Char} {s : List Char} (h : c ∉ s) (rest : List Char) :
    (s ++ c :: rest).dropWhile (· != c) = c :: rest := by
  have hall : ∀ d ∈ s, (d != c) = true := fun d hd => bne_iff_ne.mpr fun heq => h (heq ▸ hd)
  rw [List.dropWhile_append_of_pos hall, List.dropWhile_cons_of_neg (by simp)]

theorem takeWhile_all {c : Char} {s : List Char} (h : c ∉ s) : s.takeWhile (· != c) = s := by
  have hall : ∀ d ∈ s, (d != c) = true := fun d hd => bne_iff_ne.mpr fun heq => h (heq ▸ hd)
  have happend := @List.takeWhile_append_of_pos _ (· != c) s [] hall
  rwa [List.append_nil, List.takeWhile_nil, List.append_nil] at happend

theorem dropWhile_all {c : Char} {s : List Char} (h : c ∉ s) : s.dropWhile (· != c) = [] := by
  have hall : ∀ d ∈ s, (d != c) = true := fun d hd => bne_iff_ne.mpr fun heq => h (heq ▸ hd)
  have happend := @List.dropWhile_append_of_pos _ (· != c) s [] hall
  rwa [List.append_nil, List.dropWhile_nil] at happend

/-- Every body can be cut. -/
theorem exists_cut (n : Nat) (s : List Char) : ∃ ps, Cut n s ps := by
  induction hlength : s.length using Nat.strongRecOn generalizing n s with
  | _ length ih =>
    by_cases hopen : '{' ∈ s
    · obtain ⟨text, after, rfl, htext⟩ := List.eq_append_cons_of_mem hopen
      by_cases hclose : '}' ∈ after
      · obtain ⟨inside, rest, rfl, hinside⟩ := List.eq_append_cons_of_mem hclose
        obtain ⟨ps, hps⟩ := ih rest.length (by simp at hlength; omega) (n + text.length + inside.length + 2) rest rfl
        exact ⟨_, .block htext hinside hps⟩
      · exact ⟨_, .unclosed htext hclose⟩
    · exact ⟨_, .text hopen⟩

theorem append_cons_inj {c : Char} {s s' rest rest' : List Char} (hs : c ∉ s) (hs' : c ∉ s')
    (h : s ++ c :: rest = s' ++ c :: rest') : s = s' ∧ rest = rest' := by
  have htake := congrArg (List.takeWhile (· != c)) h
  rw [takeWhile_other hs, takeWhile_other hs'] at htake
  subst htake
  exact ⟨rfl, (List.cons.inj (List.append_cancel_left h)).2⟩

theorem mem_middle {c : Char} {s rest : List Char} : c ∈ s ++ c :: rest :=
  List.mem_append_right _ List.mem_cons_self

/-- There is one way to cut a body. -/
theorem Cut.unique {n : Nat} {s : List Char} {ps ps' : List Piece} (h : Cut n s ps) (h' : Cut n s ps') : ps = ps' := by
  induction h generalizing ps' with
  | text hopen =>
    cases h' with
    | text => rfl
    | unclosed => exact absurd mem_middle hopen
    | block => exact absurd mem_middle hopen
  | @unclosed n text inside htext hinside =>
    generalize hs : text ++ '{' :: inside = s at h'
    cases h' with
    | text hopen => exact absurd (hs ▸ mem_middle) hopen
    | unclosed htext' hinside' =>
      obtain ⟨rfl, rfl⟩ := append_cons_inj htext htext' hs
      rfl
    | block htext' hinside' =>
      obtain ⟨rfl, rfl⟩ := append_cons_inj htext htext' hs
      exact absurd mem_middle hinside
  | @block n text inside rest ps htext hinside hrest ih =>
    generalize hs : text ++ '{' :: (inside ++ '}' :: rest) = s at h'
    cases h' with
    | text hopen => exact absurd (hs ▸ mem_middle) hopen
    | unclosed htext' hinside' =>
      obtain ⟨rfl, rfl⟩ := append_cons_inj htext htext' hs
      exact absurd mem_middle hinside'
    | block htext' hinside' hrest' =>
      obtain ⟨rfl, hafter⟩ := append_cons_inj htext htext' hs
      obtain ⟨rfl, rfl⟩ := append_cons_inj hinside hinside' hafter
      rw [ih hrest']

/-! ## Parsing -/

theorem parseFrom_text {n : Nat} {s : List Char} (h : '{' ∉ s) : parseFrom n s = .ok (withLiteral s []) := by
  rw [parseFrom, takeWhile_all h]
  split
  · rfl
  · rename_i hdrop
    rw [dropWhile_all h] at hdrop
    cases hdrop

theorem parseFrom_unclosed {n : Nat} {text inside : List Char} (htext : '{' ∉ text) (hinside : '}' ∉ inside) :
    parseFrom n (text ++ '{' :: inside) = .error (.unterminated (n + text.length)) := by
  rw [parseFrom, takeWhile_other htext]
  split
  · rename_i hdrop
    rw [dropWhile_other htext] at hdrop
    cases hdrop
  · rename_i c after hdrop
    rw [dropWhile_other htext] at hdrop
    cases hdrop
    dsimp only
    split
    · rfl
    · rename_i hdrop
      rw [dropWhile_all hinside] at hdrop
      cases hdrop

theorem parseFrom_block {n : Nat} {text inside : List Char} (htext : '{' ∉ text) (hinside : '}' ∉ inside)
    (rest : List Char) :
    parseFrom n (text ++ '{' :: (inside ++ '}' :: rest)) =
      match Chars.words inside with
      | [] => .error (.emptyBlock (n + text.length))
      | action :: tokens => (parseFrom (n + text.length + inside.length + 2) rest).map fun segments =>
        withLiteral text (.block (.ofList action) (tokens.map .ofList) (n + text.length) :: segments) := by
  rw [parseFrom, takeWhile_other htext]
  split
  · rename_i hdrop
    rw [dropWhile_other htext] at hdrop
    cases hdrop
  · rename_i c after hdrop
    rw [dropWhile_other htext] at hdrop
    cases hdrop
    dsimp only
    split
    · rename_i hdrop
      rw [dropWhile_other hinside] at hdrop
      cases hdrop
    · rename_i c' after' hdrop
      rw [dropWhile_other hinside] at hdrop
      cases hdrop
      rw [takeWhile_other hinside]
      cases Chars.words inside with
      | nil => rfl
      | cons action tokens =>
        dsimp only
        cases parseFrom (n + text.length + inside.length + 2) rest <;> rfl

theorem withLiteral_append (text : List Char) (segments : List Segment) :
    withLiteral text segments = withLiteral text [] ++ segments := by
  rw [withLiteral, withLiteral]
  split <;> rfl

/-- Parsing refuses a body for the first faulty piece of it, and else gives the segments of all. -/
theorem Cut.parse {n : Nat} {s : List Char} {ps : List Piece} (h : Cut n s ps) :
    parseFrom n s = match ps.findSome? Piece.fault? with
      | some e => .error e
      | none => .ok (ps.flatMap Piece.segments) := by
  induction h with
  | text hopen =>
    rw [parseFrom_text hopen]
    simp [Piece.fault?, Piece.segments]
  | unclosed htext hinside => exact parseFrom_unclosed htext hinside
  | @block n text inside rest ps htext hinside hrest ih =>
    rw [parseFrom_block htext hinside, ih]
    simp only [List.findSome?_cons, Piece.fault?, List.flatMap_cons, Piece.segments]
    cases hwords : Chars.words inside with
    | nil => rfl
    | cons action tokens =>
      simp only [reduceCtorEq, if_false]
      cases ps.findSome? Piece.fault? with
      | some e => rfl
      | none => exact congrArg Except.ok (withLiteral_append _ _)

end ChannelBot.Script
