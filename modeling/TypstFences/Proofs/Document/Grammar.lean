import Mathlib.Data.List.Forall2
import TypstFences.Pass.Basic
import TypstFences.Proofs.Document.Scan
import TypstFences.Proofs.Text.Blank

/-!
# The grammar of fenced documents

A text is read as blocks of whole lines: runs of ordinary lines, and fences from an opening line to
the first line that closes it. `FenceGrammar` says so without saying how the lines are read. The
main result is `readDocument_decides_grammar`: reading a text gives the segments of the grammar if
there are any, these are the only ones, and otherwise the text is refused at an opening line that no
line below it closes.
-/

set_option autoImplicit false

namespace TypstFences

/-! ## Opening lines -/

/-- An opening has enough backticks, and its info string is trimmed and free of backticks. -/
theorem Opening.of_ofLine? {line : Text} {opening : Opening}
    (h : Opening.ofLine? line = some opening) :
    leastFence ≤ opening.length ∧ backtick ∉ opening.info ∧ Text.trim opening.info = opening.info := by
  unfold Opening.ofLine? at h
  simp only at h
  split at h
  · exact absurd h (by simp)
  · rename_i enough
    obtain rfl := Option.some.inj h
    obtain ⟨long, plain⟩ := not_or.mp enough
    exact ⟨Nat.le_of_not_lt long, fun mem => plain (Text.trim_subset _ mem), Text.trim_trim _⟩

/-! ## The grammar -/

/-- Whether lines are the block that a segment stands for: ordinary lines, at least one, for a run
of text; for a fence its opening line, lines that do not close it, and a line that does. -/
def Segment.Spells : Segment → List Text → Prop
  | .text raw, ls => ls ≠ [] ∧ (∀ line ∈ ls, Opening.ofLine? line = none) ∧ raw = ls.flatten
  | .fence block, ls =>
    ∃ body, ls = block.opener :: (body ++ [block.closer]) ∧ block.body = body.flatten ∧
      Opening.ofLine? block.opener = some block.opening ∧
      (∀ line ∈ body, closesFence block.length line = false) ∧
      closesFence block.length block.closer = true

/-- Whether each fence has the number of its opening line, when the first segment begins in line
`number`. -/
def Segment.Numbered (number : Nat) (segments : List Segment) : Prop :=
  ∀ before fence after, segments = before ++ .fence fence :: after →
    fence.line = number + Text.lineFeeds (before.flatMap Segment.raw)

/-- Whether segments are what lines from number `number` on are read as: each spells a block of
them, no two runs of text stand side by side, and each fence has the number of its opening line. -/
structure Parses (number : Nat) (ls : List Text) (segments : List Segment) : Prop where
  blocks : ∃ blocks, blocks.flatten = ls ∧ List.Forall₂ Segment.Spells segments blocks
  apart : segments.IsChain fun first second => first.fence?.isSome ∨ second.fence?.isSome
  numbered : Segment.Numbered number segments

/-- The grammar of fenced documents: the segments are read from the lines of the text and keep all
of it, no run of text is empty or has an opening line in it, an opening has at least three backticks
and a trimmed info string without any, and the first and the last line of a fence are its opening
line and its closing line. -/
structure FenceGrammar (source : Text) (segments : List Segment) : Prop
    extends Parses 1 (Text.lines source) segments where
  kept : segments.flatMap Segment.raw = source
  ordinary : ∀ raw, .text raw ∈ segments →
    raw ≠ [] ∧ ∀ line ∈ Text.lines raw, Opening.ofLine? line = none
  marked : ∀ fence, .fence fence ∈ segments → leastFence ≤ fence.length ∧ backtick ∉ fence.info ∧
    Text.trim fence.info = fence.info
  framed : ∀ fence, .fence fence ∈ segments →
    Text.lines fence.raw = fence.opener :: (Text.lines fence.body ++ [fence.closer])

namespace Segment

/-- A segment stands for the text of its block. -/
theorem Spells.raw_eq {segment : Segment} {block : List Text} (h : segment.Spells block) :
    segment.raw = block.flatten := by
  cases segment with
  | text raw => exact h.2.2
  | fence fence =>
    obtain ⟨body, rfl, body_eq, -⟩ := h
    simp [Segment.raw, Fence.raw, body_eq]

/-- Segments stand for the text of their blocks. -/
theorem flatMap_raw {segments : List Segment} {blocks : List (List Text)}
    (h : List.Forall₂ Spells segments blocks) : segments.flatMap raw = blocks.flatten.flatten := by
  induction h with
  | nil => rfl
  | cons head _ ih => rw [List.flatMap_cons, List.flatten_cons, List.flatten_append, ih, head.raw_eq]

/-- The numbers of a segment and those after it. -/
theorem numbered_cons {number : Nat} {segment : Segment} {segments : List Segment} :
    Numbered number (segment :: segments) ↔
      (∀ fence, segment = .fence fence → fence.line = number) ∧
        Numbered (number + Text.lineFeeds segment.raw) segments := by
  constructor
  · intro h
    refine ⟨?_, ?_⟩
    · rintro fence rfl
      simpa [Text.lineFeeds] using h [] fence segments rfl
    · rintro before fence after rfl
      rw [h (segment :: before) fence after rfl]
      simp [Text.lineFeeds, Nat.add_assoc]
  · rintro ⟨head, tail⟩ before fence after split
    rcases List.cons_eq_append_iff.mp split with ⟨rfl, here⟩ | ⟨others, rfl, there⟩
    · rw [head fence (List.cons.inj here).1.symm]
      simp [Text.lineFeeds]
    · rw [tail others fence after there]
      simp [Text.lineFeeds, Nat.add_assoc]

end Segment

/-! ## What is scanned is in the grammar -/

namespace Parses

variable {number : Nat} {line : Text} {rest : List Text} {segments : List Segment}

/-- An ordinary line in front of lines joins the run of text that they begin with. -/
theorem consLine (h : Parses (number + Text.lineFeeds line) rest segments)
    (plain : Opening.ofLine? line = none) :
    Parses number (line :: rest) (Segment.consLine line segments) := by
  obtain ⟨⟨blocks, rfl, spells⟩, apart, numbered⟩ := h
  cases spells with
  | nil =>
    refine ⟨⟨[[line]], rfl, .cons ⟨by simp, by simpa using plain, by simp⟩ .nil⟩, .singleton _, ?_⟩
    exact Segment.numbered_cons.mpr ⟨by simp, numbered⟩
  | @cons segment block segments blocks head tail =>
    cases segment with
    | text raw =>
      obtain ⟨-, ordinary, rfl⟩ := head
      refine ⟨⟨(line :: block) :: blocks, rfl, .cons ⟨by simp, ?_, rfl⟩ tail⟩, ?_, ?_⟩
      · simpa [plain] using ordinary
      · cases segments with
        | nil => simp [Segment.consLine]
        | cons next others =>
          rw [List.isChain_cons_cons] at apart
          simpa [Segment.consLine, Segment.fence?] using apart
      · rw [Segment.numbered_cons] at numbered
        unfold Segment.consLine
        rw [Segment.numbered_cons]
        refine ⟨by simp, ?_⟩
        have together := numbered.2
        simpa [Segment.raw, Text.lineFeeds, Nat.add_assoc] using together
    | fence fence =>
      refine ⟨⟨[line] :: block :: blocks, rfl, ?_⟩, ?_, ?_⟩
      · exact .cons ⟨by simp, by simpa using plain, by simp⟩ (.cons head tail)
      · rw [Segment.consLine, List.isChain_cons_cons]
        · exact ⟨Or.inr rfl, apart⟩
        · simp
      · rw [Segment.consLine, Segment.numbered_cons]
        · exact ⟨by simp, numbered⟩
        · simp

/-- A fence in front of lines. -/
theorem consFence {fence : Fence} {block : List Text}
    (h : Parses (number + Text.lineFeeds fence.raw) rest segments)
    (spells : (Segment.fence fence).Spells block) (first : fence.line = number) :
    Parses number (block ++ rest) (.fence fence :: segments) := by
  obtain ⟨⟨blocks, rfl, others⟩, apart, numbered⟩ := h
  refine ⟨⟨block :: blocks, rfl, .cons spells others⟩, ?_, ?_⟩
  · cases segments with
    | nil => simp
    | cons next segments => exact List.isChain_cons_cons.mpr ⟨Or.inl rfl, apart⟩
  · rw [Segment.numbered_cons]
    refine ⟨?_, numbered⟩
    rintro _ ⟨⟩
    exact first

end Parses

/-- Lines that are scanned to their end parse as the segments found. -/
theorem parses_scanLines (ls : List Text) :
    ∀ number, Text.IsLines ls → (scanLines none number ls).unclosed = none →
      Parses number ls (scanLines none number ls).segments := by
  induction ls using block_induction with
  | nil =>
    intro number _ _
    exact ⟨⟨[], rfl, .nil⟩, by simp [scanLines], by simp [scanLines, Segment.Numbered]⟩
  | text line rest plain ih =>
    intro number isLines closed
    have isLines' : Text.IsLines ([line] ++ rest) := isLines
    have numbers := scanLines_number isLines' number
    rw [scanLines_text number rest plain] at closed ⊢
    simp only [List.flatten_cons, List.flatten_nil, List.append_nil, List.length_singleton] at numbers
    rw [← numbers] at closed ⊢
    exact (ih _ isLines.tail closed).consLine plain
  | fence opener opening body closer rest opens within closes ih =>
    intro number isLines closed
    have split : opener :: (body ++ closer :: rest) = (opener :: (body ++ [closer])) ++ rest := by simp
    have numbers := scanLines_number (split ▸ isLines) number
    rw [scanLines_fence number rest opens within closes] at closed ⊢
    simp only [List.length_cons, List.length_append, List.length_nil, ← Nat.add_assoc] at numbers
    rw [← numbers] at closed ⊢
    rw [split] at isLines ⊢
    refine Parses.consFence ?_ ⟨body, rfl, rfl, opens, within, closes⟩ rfl
    have raw_eq : Fence.raw ⟨opener, body.flatten, closer, opening, number⟩ =
        (opener :: (body ++ [closer])).flatten := by simp [Fence.raw]
    rw [raw_eq]
    exact ih _ isLines.right closed
  | unclosed opener opening body opens within =>
    intro number _ closed
    rw [scanLines_unclosed number opens within] at closed
    exact absurd closed (by simp)

/-! ## What is in the grammar is scanned -/

/-- A run of ordinary lines is scanned as one segment if no run of text follows it. -/
theorem scanLines_run {block : List Text} (number : Nat) (rest : List Text) (nonempty : block ≠ [])
    (plain : ∀ line ∈ block, Opening.ofLine? line = none)
    (apart : ∀ raw segments,
      (scanLines none (number + block.length) rest).segments ≠ .text raw :: segments) :
    scanLines none number (block ++ rest) =
      ⟨.text block.flatten :: (scanLines none (number + block.length) rest).segments,
        (scanLines none (number + block.length) rest).unclosed⟩ := by
  induction block generalizing number with
  | nil => exact absurd rfl nonempty
  | cons line block ih =>
    have first : Opening.ofLine? line = none := plain line (by simp)
    have length_eq : number + (line :: block).length = number + 1 + block.length := by
      rw [List.length_cons]
      omega
    rw [length_eq] at apart ⊢
    rw [List.cons_append, scanLines_text number _ first]
    cases block with
    | nil =>
      simp only [List.length_nil, Nat.add_zero] at apart ⊢
      cases found : (scanLines none (number + 1) rest).segments with
      | nil => simp [Segment.consLine, found]
      | cons segment segments =>
        cases segment with
        | text raw => exact absurd found (apart raw segments)
        | fence fence => simp [Segment.consLine, found]
    | cons next others =>
      rw [ih (number + 1) (by simp) (fun l hl => plain l (List.mem_cons_of_mem _ hl)) apart]
      simp [Segment.consLine]

/-- Lines that parse as segments are scanned as these. -/
theorem Parses.scanLines_eq {number : Nat} {ls : List Text} {segments : List Segment}
    (h : Parses number ls segments) (isLines : Text.IsLines ls) :
    scanLines none number ls = ⟨segments, none⟩ := by
  obtain ⟨⟨blocks, rfl, spells⟩, apart, numbered⟩ := h
  induction spells generalizing number with
  | nil => rfl
  | @cons segment block segments blocks head tail ih =>
    rw [List.flatten_cons] at isLines ⊢
    rw [Segment.numbered_cons, head.raw_eq] at numbered
    have others : scanLines none (number + block.length) blocks.flatten = ⟨segments, none⟩ := by
      rw [← scanLines_number isLines number]
      exact ih apart.of_cons numbered.2 isLines.right
    cases segment with
    | text raw =>
      obtain ⟨nonempty, plain, rfl⟩ := head
      rw [scanLines_run number _ nonempty plain, others]
      rw [others]
      rintro raw more rfl
      rw [List.isChain_cons_cons] at apart
      simp [Segment.fence?] at apart
    | fence fence =>
      obtain ⟨body, rfl, body_eq, opens, within, closes⟩ := head
      have length_eq : number + (fence.opener :: (body ++ [fence.closer])).length =
          number + body.length + 2 := by
        simp only [List.length_cons, List.length_append, List.length_nil]
        omega
      rw [length_eq] at others
      have scanned := scanLines_fence number blocks.flatten opens within closes
      have same : (⟨fence.opener, body.flatten, fence.closer, fence.opening, number⟩ : Fence) =
          fence := by
        rw [← body_eq, ← numbered.1 fence rfl]
      rw [others, same] at scanned
      simpa using scanned

/-! ## The main result -/

/-- The segments of a text that parses spell whole lines of it. -/
theorem Parses.spells_of_mem {source : Text} {segments : List Segment} {segment : Segment}
    (h : Parses 1 (Text.lines source) segments) (mem : segment ∈ segments) :
    ∃ block, segment.Spells block ∧ Text.IsLines block := by
  obtain ⟨blocks, blocks_eq, spells⟩ := h.blocks
  obtain ⟨i, hi, at_i⟩ := List.getElem_of_mem mem
  have hi' : i < blocks.length := spells.length_eq ▸ hi
  have spelled := spells.get hi hi'
  rw [List.get_eq_getElem, List.get_eq_getElem, at_i] at spelled
  refine ⟨blocks[i], spelled, ?_⟩
  obtain ⟨before, after, split⟩ := List.append_of_mem (List.getElem_mem hi')
  have whole := Text.isLines_lines source
  rw [← blocks_eq, split, List.flatten_append, List.flatten_cons] at whole
  exact whole.right.left

/-- The scan of a text finds the segments of the grammar, and only these. -/
theorem scan_eq_iff (source : Text) (segments : List Segment) :
    scan source = ⟨segments, none⟩ ↔ FenceGrammar source segments := by
  constructor
  · intro h
    have parses : Parses 1 (Text.lines source) segments := by
      have found := parses_scanLines (Text.lines source) 1 (Text.isLines_lines source)
      rw [← scan, h] at found
      exact found rfl
    refine ⟨parses, ?_, ?_, ?_, ?_⟩
    · obtain ⟨blocks, blocks_eq, spells⟩ := parses.blocks
      rw [Segment.flatMap_raw spells, blocks_eq, Text.lines_flatten]
    · intro raw mem
      obtain ⟨block, ⟨nonempty, plain, rfl⟩, isLines⟩ := parses.spells_of_mem mem
      rw [isLines.lines_flatten]
      refine ⟨fun empty => nonempty ?_, plain⟩
      rw [← isLines.lines_flatten, empty]
      rfl
    · intro fence mem
      obtain ⟨block, ⟨body, -, -, opens, -⟩, -⟩ := parses.spells_of_mem mem
      exact Opening.of_ofLine? opens
    · intro fence mem
      obtain ⟨block, spelled, isLines⟩ := parses.spells_of_mem mem
      have raw_eq : fence.raw = block.flatten := spelled.raw_eq
      obtain ⟨body, rfl, body_eq, -⟩ := spelled
      rw [raw_eq, isLines.lines_flatten, body_eq, isLines.tail.left.lines_flatten]
  · intro h
    exact h.toParses.scanLines_eq (Text.isLines_lines source)

/-- The opening line of a fence is the start of its text, as far as the first line feed, and the closing line
is what follows the opening line and the body. -/
theorem FenceGrammar.sliced {source : Text} {segments : List Segment} {fence : Fence}
    (h : FenceGrammar source segments) (mem : .fence fence ∈ segments) :
    '\n' ∈ fence.raw ∧ fence.opener = fence.raw.take (fence.raw.idxOf '\n' + 1) ∧
      fence.closer = fence.raw.drop (fence.opener.length + fence.body.length) := by
  have isLines := Text.isLines_lines fence.raw
  rw [h.framed fence mem] at isLines
  have inner := isLines.inner fence.opener List.mem_cons_self
  have first : fence.opener ∈ (fence.opener :: (Text.lines fence.body ++ [fence.closer])).dropLast := by
    rw [← List.cons_append, List.dropLast_concat]
    exact List.mem_cons_self
  have ends : Text.EndsLine fence.opener := isLines.ended fence.opener first
  have nonempty : fence.opener ≠ [] := isLines.nonempty fence.opener List.mem_cons_self
  obtain ⟨front, last, opener_eq⟩ := (List.eq_nil_or_concat fence.opener).resolve_left nonempty
  rw [List.concat_eq_append] at opener_eq
  obtain rfl : last = '\n' := ends last (by simp [opener_eq])
  have before : '\n' ∉ front := by simpa [opener_eq] using inner
  have raw_eq : fence.raw = front ++ '\n' :: (fence.body ++ fence.closer) := by
    simp [Fence.raw, opener_eq]
  refine ⟨by simp [raw_eq], ?_, ?_⟩
  · have index : fence.raw.idxOf '\n' = front.length := by
      rw [raw_eq, List.idxOf_append_of_notMem before, List.idxOf_cons_self, Nat.add_zero]
    have split : front ++ '\n' :: (fence.body ++ fence.closer) =
        (front ++ ['\n']) ++ (fence.body ++ fence.closer) := by simp
    have length_eq : front.length + 1 = (front ++ ['\n']).length := by simp
    rw [index, raw_eq, split, opener_eq, length_eq, List.take_left]
  · rw [Fence.raw, List.append_assoc, ← List.append_assoc, ← List.length_append, List.drop_left]

/-- A text that is scanned to its end is the one document of its name, and else the open fence is
told. -/
theorem readDocument_fst (name source : Text) (host : Host) :
    (Pass.readDocument name source host).1 =
      match (scan source).unclosed with
      | some openFence => .error (.unterminatedFence ⟨name, openFence.line⟩ openFence.shown)
      | none => .ok ⟨name, (scan source).segments⟩ := by
  simp only [Pass.readDocument]
  cases (scan source).unclosed <;> rfl

/-- Reading decides the grammar of fenced documents. A document is read if and only if its segments
are those of the grammar, of which there are no two; and a text without any is refused at an opening
line, such that the lines above it are read on their own and no line below it closes the fence. -/
theorem readDocument_decides_grammar (name source : Text) (host : Host) :
    (∀ document, (Pass.readDocument name source host).1 = .ok document ↔
      document.name = name ∧ FenceGrammar source document.segments) ∧
    (∀ first second, FenceGrammar source first → FenceGrammar source second → first = second) ∧
    ((∃ location fence,
        (Pass.readDocument name source host).1 = .error (.unterminatedFence location fence)) ↔
      ¬ ∃ segments, FenceGrammar source segments) ∧
    (∀ error, (Pass.readDocument name source host).1 = .error error →
      ∃ before opener opening after, Text.lines source = before ++ opener :: after ∧
        Opening.ofLine? opener = some opening ∧
        (∃ segments, FenceGrammar before.flatten segments) ∧
        (∀ line ∈ after, closesFence opening.length line = false) ∧
        error = .unterminatedFence ⟨name, Text.lineFeeds before.flatten + 1⟩
          (List.replicate opening.length backtick ++ opening.info)) := by
  have unique : ∀ first second, FenceGrammar source first → FenceGrammar source second →
      first = second := by
    intro first second h₁ h₂
    have same := ((scan_eq_iff source first).mpr h₁).symm.trans ((scan_eq_iff source second).mpr h₂)
    exact (Scan.mk.inj same).1
  rw [readDocument_fst]
  refine ⟨?_, unique, ?_, ?_⟩
  · rintro ⟨documentName, segments⟩
    rw [← scan_eq_iff]
    rcases found : scan source with ⟨segments', unclosed⟩
    cases unclosed with
    | none => simp [eq_comm]
    | some openFence => simp
  · rcases found : scan source with ⟨segments, unclosed⟩
    cases unclosed with
    | none =>
      have grammar := (scan_eq_iff source segments).mp found
      simp only [reduceCtorEq, exists_false, false_iff, not_not]
      exact ⟨segments, grammar⟩
    | some openFence =>
      refine ⟨?_, fun _ => ⟨_, _, rfl⟩⟩
      rintro - ⟨segments', grammar⟩
      rw [(scan_eq_iff source segments').mpr grammar] at found
      exact absurd (Scan.mk.inj found).2 (by simp)
  · intro error refused
    cases found : (scan source).unclosed with
    | none =>
      rw [found] at refused
      exact absurd refused (by simp)
    | some openFence =>
      rw [found] at refused
      obtain ⟨before, after, split, opens, number_eq, alone, inside⟩ :=
        unclosed_scanLines (Text.lines source) 1 openFence found
      have whole := Text.isLines_lines source
      rw [split] at whole
      refine ⟨before, openFence.opener, openFence.opening, after, split, opens, ?_, inside, ?_⟩
      · have closed : (scan before.flatten).unclosed = none := by
          unfold scan
          rw [whole.left.lines_flatten]
          exact alone 1
        exact ⟨(scan before.flatten).segments, (scan_eq_iff _ _).mp (by rw [← closed])⟩
      · rw [← Except.error.inj refused, number_eq, whole.lineFeeds_flatten (by simp), Nat.add_comm 1]
        rfl

end TypstFences
