import TypstFences.Proofs.Document.Scan

/-!
# Scanning one text after another

When a text ends where a line does and leaves no fence open, what follows it is scanned as on its
own, only further down: the segments of both texts stand side by side, with the runs of text that
meet joined to one (`scan_append`).
-/

set_option autoImplicit false

namespace TypstFences

/-! ## Further down -/

/-- The fence, some lines further down. -/
def Fence.below (n : Nat) (fence : Fence) : Fence := { fence with line := fence.line + n }

/-- The open fence, some lines further down. -/
def OpenFence.below (n : Nat) (openFence : OpenFence) : OpenFence :=
  { openFence with line := openFence.line + n }

/-- The segment, some lines further down. -/
def Segment.below (n : Nat) : Segment → Segment
  | .text raw => .text raw
  | .fence block => .fence (block.below n)

namespace Segment

/-- A line in front of segments is there wherever they stand. -/
theorem map_below_consLine (n : Nat) (line : Text) (segments : List Segment) :
    (consLine line segments).map (below n) = consLine line (segments.map (below n)) := by
  cases segments with
  | nil => rfl
  | cons segment segments => cases segment <;> rfl

/-- A text in front of segments can be put there in two parts. -/
theorem consLine_append (first second : Text) (segments : List Segment) :
    consLine (first ++ second) segments = consLine first (consLine second segments) := by
  cases segments with
  | nil => rfl
  | cons segment segments =>
    cases segment with
    | text raw => simp [consLine]
    | fence block => rfl

/-- The segments with a segment in front, joined to a run of text that they begin with if it is
one. -/
def onto : Segment → List Segment → List Segment
  | .text raw, segments => consLine raw segments
  | .fence block, segments => .fence block :: segments

/-- The segments of two texts side by side, with runs of text joined where they meet. -/
def beside (first second : List Segment) : List Segment := first.foldr onto second

/-- A line in front of segments that stand before others. -/
theorem beside_consLine (line : Text) (first second : List Segment) :
    beside (consLine line first) second = consLine line (beside first second) := by
  cases first with
  | nil => rfl
  | cons segment first =>
    cases segment with
    | text raw => exact consLine_append line raw (beside first second)
    | fence block => rfl

end Segment

/-! ## Scans -/

/-- Lines that are numbered from further down give the same segments there. -/
theorem scanLines_below (n : Nat) (ls : List Text) :
    ∀ number, scanLines none (number + n) ls =
      ⟨(scanLines none number ls).segments.map (Segment.below n),
        (scanLines none number ls).unclosed.map (OpenFence.below n)⟩ := by
  induction ls using block_induction with
  | nil => exact fun _ => rfl
  | text line rest plain ih =>
    intro number
    rw [scanLines_text _ rest plain, scanLines_text _ rest plain, Nat.add_right_comm, ih,
      Segment.map_below_consLine]
  | fence opener opening body closer rest opens inside closes ih =>
    intro number
    have next : number + n + body.length + 2 = number + body.length + 2 + n := by omega
    rw [scanLines_fence _ rest opens inside closes, scanLines_fence _ rest opens inside closes, next, ih]
    rfl
  | unclosed opener opening body opens inside =>
    intro number
    rw [scanLines_unclosed _ opens inside, scanLines_unclosed _ opens inside]
    rfl

/-- Lines that leave no fence open are scanned first, and what follows them from the next number
on. -/
theorem scanLines_append (first second : List Text) :
    ∀ number, (scanLines none number first).unclosed = none →
      scanLines none number (first ++ second) =
        ⟨Segment.beside (scanLines none number first).segments
            (scanLines none (number + first.length) second).segments,
          (scanLines none (number + first.length) second).unclosed⟩ := by
  induction first using block_induction with
  | nil => exact fun _ _ => rfl
  | text line rest plain ih =>
    intro number closed
    have next : number + (line :: rest).length = number + 1 + rest.length := by
      rw [List.length_cons]
      omega
    rw [scanLines_text number rest plain] at closed ⊢
    rw [List.cons_append, scanLines_text number _ plain, ih _ closed, Segment.beside_consLine, next]
  | fence opener opening body closer rest opens inside closes ih =>
    intro number closed
    have next : number + (opener :: (body ++ closer :: rest)).length =
        number + body.length + 2 + rest.length := by
      simp only [List.length_cons, List.length_append]
      omega
    rw [scanLines_fence number rest opens inside closes] at closed ⊢
    rw [List.cons_append, List.append_assoc, List.cons_append,
      scanLines_fence number _ opens inside closes, ih _ closed, next]
    rfl
  | unclosed opener opening body opens inside =>
    intro number closed
    rw [scanLines_unclosed number opens inside] at closed
    exact absurd closed (by simp)

/-- The scan of a text that ends where a line does and leaves no fence open, and what follows it. -/
theorem scan_append {first : Text} (second : Text) (ends : Text.EndsLine first)
    (closed : (scan first).unclosed = none) :
    scan (first ++ second) =
      ⟨Segment.beside (scan first).segments
          ((scan second).segments.map (Segment.below (Text.lineFeeds first))),
        (scan second).unclosed.map (OpenFence.below (Text.lineFeeds first))⟩ := by
  have below := scanLines_below (Text.lineFeeds first) (Text.lines second) 1
  rw [scan, Text.lines_append second ends, scanLines_append _ _ 1 closed, Text.length_lines ends, below]
  rfl

end TypstFences
