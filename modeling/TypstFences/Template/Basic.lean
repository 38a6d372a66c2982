import TypstFences.Template.Referent

/-!
# Templates

A template is a text with slots between braces. A slot refers to a value by its name, and may ask for an
item or a part of it, for its quoted form and for a layout; a layout may have slots itself. Two equal braces
stand for one. A template is filled from left to right, so the first fault in it is the one that is found.
-/

set_option autoImplicit false

namespace TypstFences

namespace Template

/-- A slot: what it refers to, the letter of the form it asks for, and its layout. -/
structure Slot where
  reference : Text
  form : Option Char
  layout : Text
  deriving DecidableEq, Inhabited

/-- A piece of a template. Nothing follows a broken piece. -/
inductive Piece where
  | char (c : Char)
  | slot (slot : Slot)
  | broken
  deriving DecidableEq, Inhabited

/-- Where reading is: outside slots; in a reference, between brackets or not; before or behind the letter
of a form; or in a layout, inside a number of slots of its own. The texts of a reference and of a layout that
have been read begin with the last character. -/
inductive Reading where
  | outside
  | reference (text : Text) (bracketed : Bool)
  | form (reference : Text)
  | formed (reference : Text) (letter : Char)
  | layout (reference : Text) (form : Option Char) (depth : Nat) (text : Text)
  deriving DecidableEq, Inhabited

/-- The pieces of the rest of a template. -/
def piecesFrom : Reading → Text → List Piece
  | .outside, [] => []
  | _, [] => [.broken]
  | .outside, '\x7b' :: '\x7b' :: rest => .char '\x7b' :: piecesFrom .outside rest
  | .outside, '\x7d' :: '\x7d' :: rest => .char '\x7d' :: piecesFrom .outside rest
  | .outside, c :: rest =>
    if c = '\x7b' then piecesFrom (.reference [] false) rest
    else if c = '\x7d' then [.broken]
    else .char c :: piecesFrom .outside rest
  | .reference text true, c :: rest => piecesFrom (.reference (c :: text) (c != ']')) rest
  | .reference text false, c :: rest =>
    if c = '\x7d' then .slot ⟨text.reverse, none, []⟩ :: piecesFrom .outside rest
    else if c = '\x7b' then [.broken]
    else if c = '!' then piecesFrom (.form text.reverse) rest
    else if c = ':' then piecesFrom (.layout text.reverse none 0 []) rest
    else piecesFrom (.reference (c :: text) (c == '[')) rest
  | .form reference, c :: rest => piecesFrom (.formed reference c) rest
  | .formed reference letter, c :: rest =>
    if c = '\x7d' then .slot ⟨reference, some letter, []⟩ :: piecesFrom .outside rest
    else if c = ':' then piecesFrom (.layout reference (some letter) 0 []) rest
    else [.broken]
  | .layout reference form 0 text, c :: rest =>
    if c = '\x7d' then .slot ⟨reference, form, text.reverse⟩ :: piecesFrom .outside rest
    else piecesFrom (.layout reference form (if c = '\x7b' then 1 else 0) (c :: text)) rest
  | .layout reference form (depth + 1) text, c :: rest =>
    let inside := if c = '\x7d' then depth else if c = '\x7b' then depth + 2 else depth + 1
    piecesFrom (.layout reference form inside (c :: text)) rest

/-- The pieces of a template. -/
def pieces (template : Text) : List Piece := piecesFrom .outside template

/-- Whether a character ends the name of a part. -/
def endsName (c : Char) : Bool := c == '.' || c == '['

/-- What the rest of a reference makes of a referent. -/
def follow (referent : Referent) : Text → Except TemplateFault Referent
  | [] => .ok referent
  | c :: rest =>
    if c = '[' then
      match found : Text.cut? ']' rest with
      | none => .error .malformed
      | some ([], _) => .error .malformed
      | some (key, after) =>
        have := Text.length_lt_of_cut? found
        match referent.item key with
        | .ok referent => follow referent after
        | .error fault => .error fault
    else if c = '.' then
      match rest.takeWhile (!endsName ·) with
      | [] => .error .malformed
      | first :: others =>
        have : (rest.dropWhile (!endsName ·)).length ≤ rest.length :=
          (List.dropWhile_suffix (!endsName ·)).length_le
        match referent.part (first :: others) with
        | .ok referent => follow referent (rest.dropWhile (!endsName ·))
        | .error fault => .error fault
    else .error .malformed
termination_by reference => reference.length
decreasing_by
  all_goals
    rw [List.length_cons]
    omega

/-- What a slot refers to. A number or nothing in the place of a name finds nothing. -/
def referred (values : List (Text × Json)) (reference : Text) : Except TemplateFault Referent :=
  let name := reference.takeWhile (!endsName ·)
  if (leadingNumber? name).isNone then .error .malformed
  else if name.all Text.isDigit then .error .noName
  else
    match values.lookup name with
    | some value => follow (.plain value) (reference.dropWhile (!endsName ·))
    | none => .error .unknownName

/-- A referent in the form that a letter asks for. -/
def formed (address : Address) (form : Option Char) (referent : Referent) : Except TemplateFault Referent :=
  match form with
  | none => .ok referent
  | some letter =>
    if letter = 's' then .ok (.ofText (referent.shown address))
    else if letter = 'r' then .ok (.ofText (referent.quoted address))
    else if letter = 'a' then .ok (.ofText (Text.escapeForeign (referent.quoted address)))
    else .error .malformed

/-- A value laid out; only texts and numbers have layouts, and truth counts as a number. -/
def laidOutValue (layout : Text) (value : Json) : Except TemplateFault Text :=
  let number (figure : Layout → Except TemplateFault Figure) (layout : Layout) :
      Except TemplateFault Text :=
    (figure layout).map (Figure.lay layout)
  let layer : Option (Layout → Except TemplateFault Text) := match value with
    | .string text => some fun layout =>
      if layout.isForTexts then .ok (layout.applyToText text) else .error .malformed
    | .bool value => some (number (Figure.ofIntAs · (if value then 1 else 0)))
    | .int value => some (number (Figure.ofIntAs · value))
    | .real value => some (number (Figure.ofReal · value))
    | _ => none
  match layer, Layout.read? layout with
  | none, _ => .error .unfit
  | some _, none => .error .malformed
  | some lay, some layout =>
    if layout.hasRoom then lay layout
    else
      match lay { layout with width := 0 } with
      | .ok _ => .error .tooWide
      | .error fault => .error fault

/-- A referent laid out. -/
def laidOut (address : Address) (layout : Text) (referent : Referent) : Except TemplateFault Text :=
  if layout.isEmpty then .ok (referent.shown address)
  else
    match referent with
    | .plain value => laidOutValue layout value
    | _ => .error .unfit

/-- What stands in a slot, given how its layout is filled. -/
def slotText (address : Address) (fillLayout : Text → Except TemplateFault Text) (values : List (Text × Json))
    (slot : Slot) : Except TemplateFault Text :=
  match referred values slot.reference with
  | .error fault => .error fault
  | .ok referent =>
    match formed address slot.form referent with
    | .error fault => .error fault
    | .ok referent =>
      match if '\x7b' ∈ slot.layout then fillLayout slot.layout else .ok slot.layout with
      | .error fault => .error fault
      | .ok layout => laidOut address layout referent

/-- Pieces with their slots filled. -/
def fillPieces (address : Address) (fillLayout : Text → Except TemplateFault Text)
    (values : List (Text × Json)) :
    List Piece → Except TemplateFault Text
  | [] => .ok []
  | .broken :: _ => .error .malformed
  | .char c :: pieces =>
    match fillPieces address fillLayout values pieces with
    | .ok text => .ok (c :: text)
    | .error fault => .error fault
  | .slot slot :: pieces =>
    match slotText address fillLayout values slot with
    | .error fault => .error fault
    | .ok front =>
      match fillPieces address fillLayout values pieces with
      | .ok text => .ok (front ++ text)
      | .error fault => .error fault

/-- A template filled, where layouts may have slots down to a depth. -/
def fillWithin (address : Address) : Nat → List (Text × Json) → Text → Except TemplateFault Text
  | 0, _, _ => .error .malformed
  | depth + 1, values, template =>
    fillPieces address (fillWithin address depth values) values (pieces template)

/-- The template with the values of the names in it. Layouts in slots may have slots, but their layouts
may not. -/
def fill (address : Address) (values : List (Text × Json)) (template : Text) : Except TemplateFault Text :=
  fillWithin address 2 values template

end Template

end TypstFences
