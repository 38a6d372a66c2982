import TypstFences.Fence

/-!
# Documents

A document is a sequence of segments: runs of lines outside any fence, and fences. Scanning reads the
lines once, from the first to the last, and keeps every character: the segments of a scanned text
concatenate to the text. Scanning stops with an open fence when a fence is still open at the end.
-/

set_option autoImplicit false

namespace TypstFences

/-- A part of a document. -/
inductive Segment where
  | text (raw : Text)
  | fence (block : Fence)
  deriving DecidableEq, Inhabited

namespace Segment

/-- The text that the segment stands for. -/
def raw : Segment → Text
  | .text raw => raw
  | .fence block => block.raw

/-- The fence that the segment is. -/
def fence? : Segment → Option Fence
  | .text _ => none
  | .fence block => some block

/-- The segments with a line of text in front, joined to a run of text that they begin with. -/
def consLine (line : Text) : List Segment → List Segment
  | .text raw :: segments => .text (line ++ raw) :: segments
  | segments => .text line :: segments

end Segment

/-- A fence whose closing line has not been seen yet. -/
structure OpenFence where
  opener : Text
  opening : Opening
  body : Text
  line : Nat
  deriving DecidableEq, Inhabited

namespace OpenFence

/-- The fence with one more line in its body. -/
def addLine (openFence : OpenFence) (line : Text) : OpenFence :=
  { openFence with body := openFence.body ++ line }

/-- The block that the closing line completes. -/
def close (openFence : OpenFence) (closer : Text) : Fence :=
  ⟨openFence.opener, openFence.body, closer, openFence.opening, openFence.line⟩

/-- The start of the fence as an error shows it: its backticks and its info string. -/
def shown (openFence : OpenFence) : Text :=
  List.replicate openFence.opening.length backtick ++ openFence.opening.info

end OpenFence

/-- What scanning finds: the complete segments, and the fence left open at the end, if there is one.
No segment follows an open fence. -/
structure Scan where
  segments : List Segment
  unclosed : Option OpenFence
  deriving DecidableEq, Inhabited

/-- The scan of some lines, the first of which has number `line`, inside a fence that is open or
outside any fence. -/
def scanLines : Option OpenFence → Nat → List Text → Scan
  | state, _, [] => ⟨[], state⟩
  | none, number, line :: rest =>
    match Opening.ofLine? line with
    | some opening => scanLines (some ⟨line, opening, [], number⟩) (number + 1) rest
    | none =>
      let scan := scanLines none (number + 1) rest
      { scan with segments := Segment.consLine line scan.segments }
  | some openFence, number, line :: rest =>
    if closesFence openFence.opening.length line then
      let scan := scanLines none (number + 1) rest
      { scan with segments := .fence (openFence.close line) :: scan.segments }
    else scanLines (some (openFence.addLine line)) (number + 1) rest

/-- The scan of a text. -/
def scan (source : Text) : Scan := scanLines none 1 (Text.lines source)

/-- A named text taken apart into its segments. -/
structure Document where
  name : Text
  segments : List Segment
  deriving DecidableEq, Inhabited

namespace Document

/-- The text that the segments stand for. -/
def text (document : Document) : Text := document.segments.flatMap Segment.raw

/-- The fences of a document with the positions of their segments, counted from zero. -/
def fences (document : Document) : List (Nat × Fence) :=
  document.segments.zipIdx.filterMap fun (segment, index) => segment.fence?.map (index, ·)

end Document

end TypstFences
