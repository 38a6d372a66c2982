import TypstFences.Proofs.Document.HiddenLines
import TypstFences.Proofs.Document.InfoString
import TypstFences.Proofs.Document.Position

/-!
# Documents with carriage returns

A carriage return in front of a line feed does not change what a line is read as: an opening says the same,
and a line that closes a fence still does (`ofLine?_withReturns`, `closesFence_withReturns`). So a text with
carriage returns in front of its line feeds is scanned as the same segments with carriage returns
(`scan_withReturns`), and a block with them has the same views with them, if there is none in the marker
(`HiddenLines.views_withReturns`). The marker of a fence is part of its opening line or the default
(`inLine_marker`).
-/

set_option autoImplicit false

namespace TypstFences

/-! ## Lines that open and close fences -/

section Line

variable {line : Text}

/-- The content of a line does not have its end. -/
theorem lineContent_append_lineEnd {ending : Text} (h : Text.LineEnd ending) (line : Text) :
    lineContent (line ++ ending) = lineContent line := by
  have every : ∀ c ∈ ending.reverse, (c == '\r' || c == '\n') = true := by
    intro c mem
    rcases h c (List.mem_reverse.mp mem) with rfl | rfl <;> decide
  unfold lineContent Text.dropEndWhile
  rw [List.reverse_append, List.dropWhile_append_of_pos every]

/-- A line opens the same fence with a carriage return. -/
theorem ofLine?_withReturns (inner : '\n' ∉ line.dropLast) :
    Opening.ofLine? (Text.withReturns line) = Opening.ofLine? line := by
  refine Text.eq_withReturns (fun part ending ends => ?_) inner
  simp only [Opening.ofLine?, lineContent_append_lineEnd ends]

/-- A line closes the same fences with a carriage return. -/
theorem closesFence_withReturns (inner : '\n' ∉ line.dropLast) (length : Nat) :
    closesFence length (Text.withReturns line) = closesFence length line := by
  refine Text.eq_withReturns (fun part ending ends => ?_) inner
  simp only [closesFence, Text.trim_append_lineEnd ends]

/-- An info string has no line feed, and only characters of its line. -/
theorem info_subset {opening : Opening} (inner : '\n' ∉ line.dropLast)
    (opens : Opening.ofLine? line = some opening) : opening.info ⊆ line ∧ '\n' ∉ opening.info := by
  obtain ⟨part, ending, rfl, plain, h⟩ := Text.exists_ending inner
  have content : lineContent (part ++ ending) ⊆ part := by
    rw [lineContent_append_lineEnd (Text.lineEnd_of_cases h)]
    exact (List.rdropWhile_prefix _ part).subset
  have within : opening.info ⊆ part := by
    unfold Opening.ofLine? at opens
    simp only at opens
    split at opens
    · exact absurd opens (by simp)
    · obtain rfl := Option.some.inj opens
      have marked := (List.dropWhile_suffix Text.isIndent (l := lineContent (part ++ ending))).subset
      have inPart := List.Subset.trans marked content
      exact List.Subset.trans (Text.trim_subset _) (List.Subset.trans (List.drop_subset _ _) inPart)
  exact ⟨List.Subset.trans within (List.subset_append_left part ending), fun mem => plain (within mem)⟩

end Line

/-! ## Scanning -/

/-- The fence with carriage returns in its text. -/
def Fence.withReturns (fence : Fence) : Fence :=
  { fence with
    opener := Text.withReturns fence.opener
    body := Text.withReturns fence.body
    closer := Text.withReturns fence.closer }

/-- The segment with carriage returns in its text. -/
def Segment.withReturns : Segment → Segment
  | .text raw => .text (Text.withReturns raw)
  | .fence block => .fence block.withReturns

/-- The open fence with carriage returns in its text. -/
def OpenFence.withReturns (openFence : OpenFence) : OpenFence :=
  { openFence with
    opener := Text.withReturns openFence.opener
    body := Text.withReturns openFence.body }

/-- What is found with carriage returns in all texts. -/
def Scan.withReturns (found : Scan) : Scan :=
  ⟨found.segments.map Segment.withReturns, found.unclosed.map OpenFence.withReturns⟩

/-- The text of a fence gets the carriage returns of its parts. -/
theorem Fence.raw_withReturns (fence : Fence) : fence.withReturns.raw = Text.withReturns fence.raw := by
  simp only [Fence.raw, Fence.withReturns, Text.withReturns_append]

/-- A line joins the segments with its carriage return. -/
theorem Segment.consLine_withReturns (line : Text) (segments : List Segment) :
    (consLine line segments).map withReturns =
      consLine (Text.withReturns line) (segments.map withReturns) := by
  cases segments with
  | nil => rfl
  | cons segment segments =>
    cases segment with
    | text raw => simp [consLine, withReturns, Text.withReturns_append]
    | fence block => rfl

/-- Lines with carriage returns are scanned as they are without, by induction on the lines. -/
theorem scanLines_withReturns (ls : List Text) (inner : ∀ line ∈ ls, '\n' ∉ line.dropLast) :
    ∀ state number, scanLines (state.map OpenFence.withReturns) number (ls.map Text.withReturns) =
      (scanLines state number ls).withReturns := by
  induction ls with
  | nil =>
    intro state number
    cases state <;> rfl
  | cons line rest ih =>
    intro state number
    have first : '\n' ∉ line.dropLast := inner line List.mem_cons_self
    have others := ih fun other mem => inner other (List.mem_cons_of_mem line mem)
    rw [List.map_cons]
    cases state with
    | none =>
      have outside := others none (number + 1)
      rw [Option.map_none] at outside ⊢
      rw [scanLines, scanLines, ofLine?_withReturns first]
      cases Opening.ofLine? line with
      | some opening => exact others (some ⟨line, opening, [], number⟩) (number + 1)
      | none => simp only [outside, Scan.withReturns, Segment.consLine_withReturns]
    | some openFence =>
      have outside := others none (number + 1)
      have inside := others (some (openFence.addLine line)) (number + 1)
      have longer : (openFence.addLine line).withReturns =
          openFence.withReturns.addLine (Text.withReturns line) := by
        simp only [OpenFence.addLine, OpenFence.withReturns, Text.withReturns_append]
      rw [Option.map_none] at outside
      rw [Option.map_some, longer] at inside
      have length_eq : openFence.withReturns.opening.length = openFence.opening.length := rfl
      rw [Option.map_some, scanLines, scanLines, length_eq, closesFence_withReturns first]
      split
      · simp only [outside, Scan.withReturns]
        rfl
      · exact inside

/-- A text with carriage returns is scanned as the same segments with carriage returns. -/
theorem scan_withReturns (source : Text) : scan (Text.withReturns source) = (scan source).withReturns := by
  unfold scan
  rw [Text.lines_withReturns]
  exact scanLines_withReturns (Text.lines source) (Text.isLines_lines source).inner none 1

/-! ## Hidden lines -/

namespace HiddenLines

variable {marker line : Text}

/-- A line is compiled with its carriage return. -/
theorem compiledLine_withReturns (clean : Text.InLine marker) (inner : '\n' ∉ line.dropLast) :
    compiledLine marker (Text.withReturns line) = Text.withReturns (compiledLine marker line) :=
  Text.map_withReturns (fun _ _ ends => compiledLine_append_lineEnd ends (clean.clean ends))
    (compiledLine_subset marker) inner

/-- A line is hidden with its carriage return if it is without. -/
theorem isHidden_withReturns (clean : Text.InLine marker) (inner : '\n' ∉ line.dropLast) :
    isHidden marker (Text.withReturns line) = isHidden marker line :=
  Text.eq_withReturns (fun _ _ ends => isHidden_append_lineEnd ends (clean.clean ends)) inner

/-- The views of a block with carriage returns are its views with carriage returns. -/
theorem views_withReturns (clean : Text.InLine marker) (body : Text) :
    views marker (Text.withReturns body) =
      ⟨Text.withReturns (views marker body).compiled, Text.withReturns (views marker body).display⟩ := by
  have typeset : (views marker (Text.withReturns body)).compiled =
      Text.withReturns (views marker body).compiled :=
    Text.flatMap_lines_withReturns (fun _ inner => compiledLine_withReturns clean inner) body
  have shown : (views marker (Text.withReturns body)).display =
      Text.withReturns (views marker body).display := by
    apply Text.flatMap_lines_withReturns
    intro line inner
    rw [isHidden_withReturns clean inner]
    split <;> rfl
  exact congrArg₂ Views.mk typeset shown

end HiddenLines

/-- The marker of a fence in a text without carriage returns has no character that ends a line, if the
default has none. -/
theorem inLine_marker {registry : Registry} {source : Text} {default : Option Text} {fence : Fence}
    {directive : Directive} (plain : '\r' ∉ source) (clean : Text.InLine (default.getD []))
    (closed : (scan source).unclosed = none) (mem : .fence fence ∈ (scan source).segments)
    (read : Directive.read registry fence.info = .ok directive) :
    Text.InLine (directive.marker default) := by
  obtain ⟨front, body, back, stands⟩ := scan_stands closed mem
  have listed : fence.opener ∈ Text.lines source := by
    rw [stands.lines_eq]
    simp
  obtain ⟨within, noFeed⟩ := info_subset ((Text.isLines_lines source).inner _ listed) stands.opens
  have opener_subset : fence.opener ⊆ source := by
    intro c inside
    rw [← Text.lines_flatten source]
    exact List.mem_flatten_of_mem listed inside
  rcases Directive.marker_of_read read default with given | same
  · exact ⟨fun mem => plain (opener_subset (within (given mem))), fun mem => noFeed (given mem)⟩
  · rwa [same]

end TypstFences
