import ServerLink.Failure
import ServerLink.Text.Offset

/-!
Edits of a text. An edit puts new text in the place of a range; a set of edits is carried out as a
whole or not at all. The edited text is a list of pieces, each kept from the text or put in by an
edit, so that it can be traced back to where it comes from.
-/

set_option autoImplicit false

namespace ServerLink

open Text

/-- New text in the place of a range of bytes. -/
structure Edit where
  start : Nat
  stop : Nat
  content : String
  deriving DecidableEq, Repr

namespace Edit

def insertion (offset : Nat) (content : String) : Edit := ⟨offset, offset, content⟩

def removal (start stop : Nat) : Edit := ⟨start, stop, ""⟩

/-- The order in which edits are carried out. -/
def le (a b : Edit) : Bool :=
  a.start < b.start || (a.start == b.start && a.stop ≤ b.stop)

/-- Edits in the order of their ranges; edits of one range stay in the order they were given. -/
def sorted (es : List Edit) : List Edit := es.mergeSort le

/-- The range lies in the text and cuts no character. -/
def Fits (text : List Char) (e : Edit) : Prop :=
  e.start ≤ e.stop ∧ IsBoundary text e.start ∧ IsBoundary text e.stop

instance (text : List Char) (e : Edit) : Decidable (e.Fits text) := by
  unfold Fits
  infer_instance

/-- What is wrong first with edits in their order, the last edit before them ending at `reached`. -/
def firstFault (text : List Char) (before : Option Edit) : List Edit → Option Failure
  | [] => none
  | e :: es =>
      if e.Fits text then
        match before with
        | some b =>
            if e.start < b.stop then some (.overlap (b.start, b.stop) (e.start, e.stop))
            else firstFault text (some e) es
        | none => firstFault text (some e) es
      else some (.outside e.start e.stop (byteLength text))

end Edit

/-- A part of an edited text, with the offset in the unedited text that it stands for. -/
inductive Piece where
  | kept (offset : Nat) (text : List Char)
  | added (offset : Nat) (text : List Char)
  deriving Repr

namespace Piece

def text : Piece → List Char
  | .kept _ cs => cs
  | .added _ cs => cs

end Piece

/-- Cuts a text into what the edits keep and what they add; `rest` is the text from `offset` on. -/
def pieces (rest : List Char) (offset : Nat) : List Edit → List Piece
  | [] => [.kept offset rest]
  | e :: es =>
      let keep := slice rest 0 (e.start - offset)
      let after := ((splitAt? rest (e.stop - offset)).map Prod.snd).getD []
      .kept offset keep :: .added e.start e.content.toList :: pieces after e.stop es

def joinPieces (ps : List Piece) : List Char := ps.flatMap Piece.text

end ServerLink
