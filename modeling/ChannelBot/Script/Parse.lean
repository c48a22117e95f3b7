/-
Command bodies taken apart. A body is text with blocks in braces; a block names an action and
lists the tokens of its arguments. Blocks are flat: the first closing brace ends one, and
closing braces outside of blocks are text.
-/
import ChannelBot.Script.Fault
import ChannelBot.Text.Blank

namespace ChannelBot.Script

/-- A piece of a body. -/
inductive Segment where
  /-- Text that is copied to the output. -/
  | literal (text : String)
  /-- A block: its action, the tokens of its arguments, and the offset of its brace. -/
  | block (action : String) (tokens : List String) (position : Nat)
  deriving Repr, DecidableEq

/-- Puts a literal in front, if it is not empty. -/
def withLiteral (text : List Char) (rest : List Segment) : List Segment :=
  if text.isEmpty then rest else .literal (.ofList text) :: rest

/-- Takes apart the part of a body that starts at an offset. -/
def parseFrom (offset : Nat) (s : List Char) : Except Fault (List Segment) :=
  let text := s.takeWhile (· != '{')
  match _h : s.dropWhile (· != '{') with
  | [] => .ok (withLiteral text [])
  | _ :: afterBrace =>
    let start := offset + text.length
    let inside := afterBrace.takeWhile (· != '}')
    match _h' : afterBrace.dropWhile (· != '}') with
    | [] => .error (.unterminated start)
    | _ :: rest =>
      match Chars.words inside with
      | [] => .error (.emptyBlock start)
      | action :: tokens =>
        match parseFrom (start + inside.length + 2) rest with
        | .error e => .error e
        | .ok segments =>
          .ok (withLiteral text
            (.block (.ofList action) (tokens.map .ofList) start :: segments))
termination_by s.length
decreasing_by
  have h₁ : (s.dropWhile (· != '{')).length ≤ s.length := (List.dropWhile_sublist _).length_le
  have h₂ : (afterBrace.dropWhile (· != '}')).length ≤ afterBrace.length :=
    (List.dropWhile_sublist _).length_le
  rw [_h] at h₁
  rw [_h'] at h₂
  simp only [List.length_cons] at h₁ h₂
  omega

/-- The pieces of a body, in order. -/
def parse (body : String) : Except Fault (List Segment) := parseFrom 0 body.toList

end ChannelBot.Script
