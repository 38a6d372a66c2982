import TypstFences.Document
import TypstFences.Proofs.Text.Lines

/-!
# Scanning block by block

Scanning reads lines one after the other; its laws are stated for whole blocks. Lines are used up by
ordinary lines, by fences with their closing line, and at last by a fence that is never closed, and
what holds of lines taken apart in this way holds of all (`block_induction`). For each kind of block
there is one equation that says what the scan finds.
-/

set_option autoImplicit false

namespace TypstFences

variable {opener closer line : Text} {opening : Opening} {body rest : List Text}

/-- Among lines, either none closes a fence, or there is a first one that does. -/
theorem closer_or_none (length : Nat) (ls : List Text) :
    (∀ line ∈ ls, closesFence length line = false) ∨
      ∃ body closer rest, ls = body ++ closer :: rest ∧
        (∀ line ∈ body, closesFence length line = false) ∧ closesFence length closer = true := by
  cases found : ls.find? (closesFence length) with
  | none =>
    left
    simpa using List.find?_eq_none.mp found
  | some closer =>
    obtain ⟨closes, body, rest, rfl, before⟩ := List.find?_eq_some_iff_append.mp found
    exact Or.inr ⟨body, closer, rest, rfl, by simpa using before, closes⟩

/-- What holds of no lines, of lines with an ordinary line or a closed fence in front, and of a
fence that is not closed, holds of all lines. -/
theorem block_induction {motive : List Text → Prop} (nil : motive [])
    (text : ∀ line rest, Opening.ofLine? line = none → motive rest → motive (line :: rest))
    (fence : ∀ opener opening body closer rest, Opening.ofLine? opener = some opening →
      (∀ line ∈ body, closesFence opening.length line = false) →
      closesFence opening.length closer = true → motive rest →
      motive (opener :: (body ++ closer :: rest)))
    (unclosed : ∀ opener opening body, Opening.ofLine? opener = some opening →
      (∀ line ∈ body, closesFence opening.length line = false) → motive (opener :: body))
    (ls : List Text) : motive ls := by
  match ls with
  | [] => exact nil
  | line :: rest =>
    cases opens : Opening.ofLine? line with
    | none => exact text line rest opens (block_induction nil text fence unclosed rest)
    | some opening =>
      rcases closer_or_none opening.length rest with none | ⟨body, closer, after, rfl, before, closes⟩
      · exact unclosed line opening rest opens none
      · exact fence line opening body closer after opens before closes
          (block_induction nil text fence unclosed after)
  termination_by ls.length

/-- The scan of an ordinary line and what follows it. -/
theorem scanLines_text (number : Nat) (rest : List Text) (h : Opening.ofLine? line = none) :
    scanLines none number (line :: rest) =
      ⟨Segment.consLine line (scanLines none (number + 1) rest).segments,
        (scanLines none (number + 1) rest).unclosed⟩ := by
  simp [scanLines, h]

/-- An open fence takes up the lines that do not close it. -/
theorem scanLines_body (openFence : OpenFence) (number : Nat) (rest : List Text)
    (h : ∀ line ∈ body, closesFence openFence.opening.length line = false) :
    scanLines (some openFence) number (body ++ rest) =
      scanLines (some { openFence with body := openFence.body ++ body.flatten })
        (number + body.length) rest := by
  induction body generalizing openFence number with
  | nil => simp
  | cons line body ih =>
    have head : closesFence openFence.opening.length line = false := h line (by simp)
    have others : ∀ l ∈ body, closesFence (openFence.addLine line).opening.length l = false :=
      fun l hl => h l (List.mem_cons_of_mem _ hl)
    rw [List.cons_append, scanLines, head, if_neg (by simp), ih _ _ others]
    simp [OpenFence.addLine, Nat.add_assoc, Nat.add_comm 1]

/-- The scan of a fence with its closing line and what follows it. -/
theorem scanLines_fence (number : Nat) (rest : List Text) (opens : Opening.ofLine? opener = some opening)
    (inside : ∀ line ∈ body, closesFence opening.length line = false)
    (closes : closesFence opening.length closer = true) :
    scanLines none number (opener :: (body ++ closer :: rest)) =
      ⟨.fence ⟨opener, body.flatten, closer, opening, number⟩ ::
          (scanLines none (number + body.length + 2) rest).segments,
        (scanLines none (number + body.length + 2) rest).unclosed⟩ := by
  have begun : scanLines none number (opener :: (body ++ closer :: rest)) =
      scanLines (some ⟨opener, opening, [], number⟩) (number + 1) (body ++ closer :: rest) := by
    simp [scanLines, opens]
  have next : number + 1 + body.length + 1 = number + body.length + 2 := by omega
  rw [begun, scanLines_body _ _ _ inside, scanLines]
  simp only [closes, if_true, OpenFence.close, List.nil_append, next]

/-- The scan of a fence that no line closes. -/
theorem scanLines_unclosed (number : Nat) (opens : Opening.ofLine? opener = some opening)
    (inside : ∀ line ∈ body, closesFence opening.length line = false) :
    scanLines none number (opener :: body) =
      ⟨[], some ⟨opener, opening, body.flatten, number⟩⟩ := by
  have begun : scanLines none number (opener :: body) =
      scanLines (some ⟨opener, opening, [], number⟩) (number + 1) (body ++ []) := by
    simp [scanLines, opens]
  rw [begun, scanLines_body _ _ _ inside]
  simp [scanLines]

/-- Lines are numbered by the line feeds before them. -/
theorem scanLines_number {ls : List Text} (h : Text.IsLines (ls ++ rest)) (number : Nat) :
    scanLines none (number + Text.lineFeeds ls.flatten) rest =
      scanLines none (number + ls.length) rest := by
  cases rest with
  | nil => rfl
  | cons next others => rw [h.lineFeeds_flatten (by simp)]

/-- Where a fence stays open: its opening line is there, the lines before it are scanned on their
own, and no line after it closes it. -/
theorem unclosed_scanLines (ls : List Text) :
    ∀ number openFence, (scanLines none number ls).unclosed = some openFence →
      ∃ before after, ls = before ++ openFence.opener :: after ∧
        Opening.ofLine? openFence.opener = some openFence.opening ∧
        openFence.line = number + before.length ∧
        (∀ m, (scanLines none m before).unclosed = none) ∧
        ∀ line ∈ after, closesFence openFence.opening.length line = false := by
  induction ls using block_induction with
  | nil =>
    intro number openFence h
    simp [scanLines] at h
  | text line rest plain ih =>
    intro number openFence h
    rw [scanLines_text number rest plain] at h
    obtain ⟨before, after, rfl, opens, number_eq, alone, inside⟩ := ih _ _ h
    refine ⟨line :: before, after, rfl, opens, ?_, ?_, inside⟩
    · rw [number_eq, List.length_cons]
      omega
    · intro m
      rw [scanLines_text m before plain]
      exact alone _
  | fence opener opening body closer rest opens within closes ih =>
    intro number openFence h
    rw [scanLines_fence number rest opens within closes] at h
    obtain ⟨before, after, rfl, opens', number_eq, alone, inside⟩ := ih _ _ h
    refine ⟨opener :: (body ++ closer :: before), after, by simp, opens', ?_, ?_, inside⟩
    · rw [number_eq]
      simp only [List.length_cons, List.length_append]
      omega
    · intro m
      rw [scanLines_fence m before opens within closes]
      exact alone _
  | unclosed opener opening body opens within =>
    intro number openFence h
    rw [scanLines_unclosed number opens within] at h
    obtain rfl := Option.some.inj h
    exact ⟨[], body, rfl, opens, rfl, fun _ => rfl, within⟩

end TypstFences
