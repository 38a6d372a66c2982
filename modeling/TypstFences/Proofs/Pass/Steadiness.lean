import Mathlib.Data.List.TakeWhile
import TypstFences.Pass.Basic

/-!
# Templates that show no places in memory

A template can ask for a method of the path that it is given, and then shows where an object stands in memory,
which is another place each time. What documents are written back with does not depend on such places if the
template is steady (`Settings.Steady`): two passes that differ in the places only are the same then
(`runWith_steady`). Steady are the templates that refer to the path by its name alone
(`steady_of_refersByName`), such as the default template.
-/

set_option autoImplicit false

namespace TypstFences

/-- Whether the template of an image is filled alike wherever objects stand. -/
def Settings.Steady (settings : Settings) : Prop :=
  ∀ (address address' : Template.Address) path,
    Template.fill address [(Replacement.pathName, path)] settings.embedTemplate =
      Template.fill address' [(Replacement.pathName, path)] settings.embedTemplate

/-! ## References by name -/

namespace Template

variable {address address' : Address} {values : List (Text × Json)}

/-- Whether all slots of a template refer to values by their names alone, and so do those in layouts, down
to a depth. -/
def RefersByName : Nat → Text → Prop
  | 0, _ => True
  | depth + 1, template => ∀ slot, .slot slot ∈ pieces template →
      slot.reference.all (!endsName ·) ∧ RefersByName depth slot.layout

/-- A name alone refers to a value. -/
theorem plain_of_referred {reference : Text} {referent : Referent}
    (name : reference.all (!endsName ·)) (found : referred values reference = .ok referent) :
    ∃ value, referent = .plain value := by
  have rest : reference.dropWhile (!endsName ·) = [] := by
    rw [List.dropWhile_eq_nil_iff]
    simpa using name
  unfold referred at found
  simp only [rest] at found
  split at found
  · exact absurd found (by simp)
  · split at found
    · exact absurd found (by simp)
    · split at found
      · rw [follow] at found
        exact ⟨_, (Except.ok.inj found).symm⟩
      · exact absurd found (by simp)

/-- A value has no place in memory to show, in whatever form. -/
theorem formed_plain (address address' : Address) (form : Option Char) (value : Json) :
    formed address form (.plain value) = formed address' form (.plain value) ∧
      ∀ referent, formed address form (.plain value) = .ok referent → ∃ shown, referent = .plain shown := by
  refine ⟨rfl, fun referent made => ?_⟩
  unfold formed at made
  cases form with
  | none => exact ⟨value, (Except.ok.inj made).symm⟩
  | some letter =>
    simp only at made
    split at made
    · exact ⟨_, (Except.ok.inj made).symm⟩
    · split at made
      · exact ⟨_, (Except.ok.inj made).symm⟩
      · split at made
        · exact ⟨_, (Except.ok.inj made).symm⟩
        · exact absurd made (by simp)

/-- A slot that refers to a value by its name is filled alike, if its layout is. -/
theorem slotText_byName {fillLayout fillLayout' : Text → Except TemplateFault Text} {slot : Slot}
    (name : slot.reference.all (!endsName ·)) (layouts : fillLayout slot.layout = fillLayout' slot.layout) :
    slotText address fillLayout values slot = slotText address' fillLayout' values slot := by
  unfold slotText
  cases found : referred values slot.reference with
  | error fault => rfl
  | ok referent =>
    obtain ⟨value, rfl⟩ := plain_of_referred name found
    obtain ⟨same, plain⟩ := formed_plain address address' slot.form value
    simp only [← same, ← layouts]
    cases made : formed address slot.form (.plain value) with
    | error fault => rfl
    | ok referent =>
      obtain ⟨shown, rfl⟩ := plain referent made
      rfl

/-- Pieces are filled alike if their slots are. -/
theorem fillPieces_congr {fillLayout fillLayout' : Text → Except TemplateFault Text} {pieces : List Piece}
    (slots : ∀ slot, .slot slot ∈ pieces →
      slotText address fillLayout values slot = slotText address' fillLayout' values slot) :
    fillPieces address fillLayout values pieces = fillPieces address' fillLayout' values pieces := by
  induction pieces with
  | nil => rfl
  | cons piece pieces ih =>
    have rest := ih fun slot mem => slots slot (List.mem_cons_of_mem piece mem)
    cases piece with
    | char c => rw [fillPieces, fillPieces, rest]
    | slot slot => rw [fillPieces, fillPieces, slots slot List.mem_cons_self, rest]
    | broken => rfl

/-- A template that refers by name is filled alike wherever objects stand. -/
theorem fillWithin_byName (address address' : Address) (depth : Nat) :
    ∀ {template : Text}, RefersByName depth template →
      fillWithin address depth values template = fillWithin address' depth values template := by
  induction depth with
  | zero => exact fun _ => rfl
  | succ depth ih =>
    intro template names
    refine fillPieces_congr fun slot mem => ?_
    obtain ⟨name, inside⟩ := names slot mem
    exact slotText_byName name (ih inside)

end Template

/-- A template that refers by name is steady. -/
theorem Settings.steady_of_refersByName {settings : Settings}
    (names : Template.RefersByName 2 settings.embedTemplate) : settings.Steady :=
  fun address address' _ => Template.fillWithin_byName address address' 2 names

/-! ## The default template -/

namespace Replacement

/-- The default template up to the path of the image. -/
def imageFront : Text :=
  "<div style=\"text-align: center; padding: 0.5em; background: var(--quote-bg);\">".toList ++
    "<img align=\"middle\" src=\"".toList

/-- The default template from the path of the image on. -/
def imageBack : Text :=
  "\" alt=\"Rendered image\" ".toList ++
    ("style=\"background: white; max-width: 500pt; width: 100%;\">".toList ++ "</div>".toList)

/-- A text without braces stands for itself in a template. -/
theorem piecesFrom_plain (text rest : Text) (plain : text.all fun c => c != '\x7b' && c != '\x7d') :
    Template.piecesFrom .outside (text ++ rest) =
      text.map .char ++ Template.piecesFrom .outside rest := by
  induction text with
  | nil => rfl
  | cons c text ih =>
    simp only [List.all_cons, Bool.and_eq_true, bne_iff_ne] at plain
    obtain ⟨⟨noOpen, noClose⟩, others⟩ := plain
    rw [List.cons_append, Template.piecesFrom, if_neg noOpen, if_neg noClose, ih others]
    · rfl
    · exact fun _ same => absurd same noOpen
    · exact fun _ same => absurd same noClose

/-- The default template has one slot, between two texts without braces. -/
theorem defaultTemplate_eq :
    Settings.defaultTemplate = imageFront ++ ("\x7bsrc\x7d".toList ++ imageBack) := by
  have middle : "<img align=\"middle\" src=\"\x7bsrc\x7d\" alt=\"Rendered image\" ".toList =
      "<img align=\"middle\" src=\"".toList ++ ("\x7bsrc\x7d".toList ++
        "\" alt=\"Rendered image\" ".toList) := by decide +kernel
  unfold Settings.defaultTemplate imageFront imageBack
  rw [String.toList_append, String.toList_append, String.toList_append, middle]
  simp only [List.append_assoc]

/-- The pieces of the default template. -/
theorem pieces_defaultTemplate :
    Template.pieces Settings.defaultTemplate =
      imageFront.map .char ++ .slot ⟨pathName, none, []⟩ :: imageBack.map .char := by
  have front := piecesFrom_plain imageFront ("\x7bsrc\x7d".toList ++ imageBack) (by decide +kernel)
  have slot : Template.piecesFrom .outside ("\x7bsrc\x7d".toList ++ imageBack) =
      .slot ⟨pathName, none, []⟩ :: Template.piecesFrom .outside imageBack := rfl
  have back := piecesFrom_plain imageBack [] (by decide +kernel)
  rw [List.append_nil] at back
  rw [Template.pieces, defaultTemplate_eq, front, slot, back]
  simp [Template.piecesFrom]

/-- The slot for the path is filled with the path. -/
theorem slotText_path (address : Template.Address) (fillLayout : Text → Except TemplateFault Text)
    (path : Text) :
    Template.slotText address fillLayout [(pathName, .string path)] ⟨pathName, none, []⟩ = .ok path := by
  have name : pathName.takeWhile (!Template.endsName ·) = pathName := by decide
  have rest : pathName.dropWhile (!Template.endsName ·) = [] := by decide
  have number : (Template.leadingNumber? pathName).isNone = false := by decide +kernel
  have letters : pathName.all Text.isDigit = false := by decide
  have found : Template.referred [(pathName, .string path)] pathName = .ok (.plain (.string path)) := by
    unfold Template.referred
    simp only [name, rest, number, letters, Bool.false_eq_true, if_false, List.lookup_cons_self]
    rw [Template.follow]
  rw [Template.slotText, found]
  rfl

/-- A text in front of other pieces is copied. -/
theorem fillPieces_chars (address : Template.Address)
    (fillLayout : Text → Except TemplateFault Text) (values : List (Text × Json))
    (text : Text) (pieces : List Template.Piece) :
    Template.fillPieces address fillLayout values (text.map .char ++ pieces) =
      (Template.fillPieces address fillLayout values pieces).map (text ++ ·) := by
  induction text with
  | nil => cases h : Template.fillPieces address fillLayout values pieces <;> simp [h, Except.map]
  | cons c text ih =>
    rw [List.map_cons, List.cons_append, Template.fillPieces, ih]
    cases Template.fillPieces address fillLayout values pieces <;> rfl

/-- The default template with the path of an image. -/
theorem fill_defaultTemplate (address : Template.Address) (path : Text) :
    Template.fill address [(pathName, .string path)] Settings.defaultTemplate =
      .ok (imageFront ++ path ++ imageBack) := by
  have back := fillPieces_chars address (Template.fillWithin address 1 [(pathName, .string path)])
    [(pathName, .string path)] imageBack []
  rw [List.append_nil] at back
  rw [Template.fill, Template.fillWithin, pieces_defaultTemplate, fillPieces_chars,
    Template.fillPieces, slotText_path, back]
  simp [Template.fillPieces, Except.map]

end Replacement

/-- The default template is steady. -/
theorem Settings.steady_of_defaultTemplate {settings : Settings}
    (template : settings.embedTemplate = Settings.defaultTemplate) : settings.Steady := by
  intro address address' path
  rw [template]
  refine Template.fillWithin_byName address address' 2 fun slot mem => ?_
  have slot_eq : slot = ⟨Replacement.pathName, none, []⟩ := by
    rw [Replacement.pieces_defaultTemplate] at mem
    simpa using mem
  rw [slot_eq]
  exact ⟨by decide, fun other inside => absurd inside (by simp [Template.pieces, Template.piecesFrom])⟩

/-- The default settings have the default template. -/
theorem Settings.default_embedTemplate : Settings.default.embedTemplate = Settings.defaultTemplate := by
  simp only [Settings.default]

/-- So the default settings are steady. -/
theorem Settings.steady_default : Settings.default.Steady :=
  Settings.steady_of_defaultTemplate Settings.default_embedTemplate

/-! ## Documents and passes -/

section Steady

variable {ε : Type} {press press' : Press} {settings : Settings} (steady : settings.Steady)
variable (same : press.highlighter = press'.highlighter)

namespace Replacement

include steady

/-- Images are shown alike wherever objects stand. -/
theorem imageElements_steady (address address' : Nat → Template.Address) (names : List Text) :
    ∀ page, imageElements address settings page names = imageElements address' settings page names := by
  induction names with
  | nil => exact fun _ => rfl
  | cons name names ih =>
    intro page
    rw [imageElements, imageElements, ih (page + 1), steady (address page) (address' page)]

include same

/-- So are typeset blocks, also in other lines. -/
theorem embedding_steady (line line' : Nat) (display : Text) (pages : List Text) :
    embedding press settings line display pages = embedding press' settings line' display pages := by
  unfold embedding
  rw [same, imageElements_steady steady (press.address line) (press'.address line') pages 1]

/-- So is what is written for a fence. -/
theorem ofFence_steady (fence : Fence) (outcome : Outcome) :
    ofFence press settings fence outcome = ofFence press' settings fence outcome := by
  cases outcome with
  | rendered display pages => rw [ofFence, ofFence, embedding_steady steady same fence.line fence.line]
  | _ => rfl

/-- And so are whole documents. -/
theorem ofSegments_steady (outcomes : List (Nat × Outcome)) (segments : List Segment) :
    ∀ index, ofSegments press settings outcomes index segments =
      ofSegments press' settings outcomes index segments := by
  induction segments with
  | nil => exact fun _ => rfl
  | cons segment segments ih =>
    intro index
    have first : ofSegment press settings (outcomes.lookup index) segment =
        ofSegment press' settings (outcomes.lookup index) segment := by
      cases segment with
      | text raw => rfl
      | fence block => exact ofFence_steady steady same block _
    rw [ofSegments, ofSegments, first, ih (index + 1)]

end Replacement

include steady same

/-- A pass does not depend on where objects stand. -/
theorem Pass.runWith_steady (schedule : List Nat → Schedule) (engine : Engine ε) (registry : Registry)
    (name source : Text) (session : Session ε) :
    runWith schedule press settings engine registry name source session =
      runWith schedule press' settings engine registry name source session := by
  have documents (outcomes : List (Nat × Outcome)) (document : Document) :
      Replacement.ofDocument press settings outcomes document =
        Replacement.ofDocument press' settings outcomes document :=
    Replacement.ofSegments_steady steady same outcomes document.segments 0
  simp only [runWith, finish, documents]

end Steady

end TypstFences
