/-
Compiling a body takes all of it into account. It is refused for its first faulty piece, wherever
that stands, and else for the first token without a value; otherwise its steps are those of its
pieces (`compile_eq`).
-/
import ChannelBot.Proofs.Script.Pieces
import ChannelBot.Script.Compile

namespace ChannelBot.Script

/-! ## Tokens -/

/-- Why a token has no value in a call. -/
def tokenFault? (call : Call) (token : String) : Option Fault :=
  match resolveToken call token with
  | .ok _ => none
  | .error e => some e

/-- The value of a token in a call. -/
def tokenValue (call : Call) (token : String) : Value :=
  match resolveToken call token with
  | .ok v => v
  | .error _ => .null

/-- Tokens have values if none of them is faulty. -/
theorem mapM_resolveToken (call : Call) (tokens : List String) :
    tokens.mapM (resolveToken call) = match tokens.findSome? (tokenFault? call) with
      | some e => .error e
      | none => .ok (tokens.map (tokenValue call)) := by
  induction tokens with
  | nil => rfl
  | cons token rest ih =>
    rw [List.mapM_cons, ih, List.findSome?_cons, List.map_cons, tokenFault?, tokenValue]
    cases resolveToken call token with
    | error e => rfl
    | ok v => cases rest.findSome? (tokenFault? call) <;> rfl

namespace Segment

/-- The tokens of the arguments of a block. -/
def tokens : Segment → List String
  | .literal _ => []
  | .block _ tokens _ => tokens

/-- The step that a segment is in a call. -/
def step (call : Call) : Segment → Step
  | .literal text => .emit text
  | .block action tokens _ => .invoke action (tokens.map (tokenValue call))

end Segment

theorem mapM_resolve (call : Call) (segments : List Segment) :
    segments.mapM (resolve call) = match (segments.flatMap Segment.tokens).findSome? (tokenFault? call) with
      | some e => .error e
      | none => .ok (segments.map (Segment.step call)) := by
  induction segments with
  | nil => rfl
  | cons segment rest ih =>
    rw [List.mapM_cons, ih, List.flatMap_cons, List.findSome?_append, List.map_cons]
    cases segment with
    | literal text =>
      simp only [resolve, Segment.tokens, List.findSome?_nil, Option.none_or]
      cases (rest.flatMap Segment.tokens).findSome? (tokenFault? call) <;> rfl
    | block action tokens position =>
      simp only [resolve, Segment.tokens, mapM_resolveToken]
      cases tokens.findSome? (tokenFault? call) with
      | some e => rfl
      | none => cases (rest.flatMap Segment.tokens).findSome? (tokenFault? call) <;> rfl

/-! ## Pieces in a call -/

namespace Piece

/-- The tokens of the arguments of a block. -/
def tokens : Piece → List String
  | .block inside _ => ((Chars.words inside).drop 1).map .ofList
  | _ => []

/-- The action that a block calls, and the values of its arguments. -/
def invocation? (call : Call) : Piece → Option (String × List Value)
  | .block inside _ => match Chars.words inside with
    | [] => none
    | action :: tokens => some (.ofList action, (tokens.map .ofList).map (tokenValue call))
  | _ => none

theorem tokens_segments (p : Piece) : p.segments.flatMap Segment.tokens = p.tokens := by
  cases p with
  | text s =>
    rw [segments, withLiteral]
    split <;> rfl
  | block inside position =>
    rw [segments, tokens]
    cases Chars.words inside with
    | nil => rfl
    | cons action tokens => exact List.append_nil _
  | unclosed inside position => rfl

end Piece

/-- Compiling refuses a body for its first faulty piece, and else for its first token without a value. -/
theorem compile_eq {body : String} {ps : List Piece} (h : Cut 0 body.toList ps) (call : Call) :
    compile body call = match ps.findSome? Piece.fault? with
      | some e => .error e
      | none => match (ps.flatMap Piece.tokens).findSome? (tokenFault? call) with
        | some e => .error e
        | none => .ok ((ps.flatMap Piece.segments).map (Segment.step call)) := by
  rw [compile, parse, h.parse]
  cases ps.findSome? Piece.fault? with
  | some e => rfl
  | none =>
    have htokens : (ps.flatMap Piece.segments).flatMap Segment.tokens = ps.flatMap Piece.tokens := by
      rw [List.flatMap_assoc]
      congr
      exact funext Piece.tokens_segments
    have hmapM := mapM_resolve call (ps.flatMap Piece.segments)
    rw [htokens] at hmapM
    exact hmapM

end ChannelBot.Script
