import TypstFences.Registry
import TypstFences.Text.Blank

/-!
# Directives

Reading an info string: a tag, and after a comma the attributes, each a key and a value joined by an
equals sign. Attributes are read for registered tags only, so that the info strings of other tools pass
unharmed. The only key understood is the one that sets the hidden-line marker.
-/

set_option autoImplicit false

namespace TypstFences

/-- The attribute that sets the hidden-line marker of a block. -/
def hideLinesKey : Text := "hidelines".toList

/-- Whether an attribute key is understood. -/
def isReservedKey (key : Text) : Bool := key == hideLinesKey

/-- A parsed info string. -/
structure Directive where
  tag : Text
  attributes : List (Text × Text)
  deriving DecidableEq, Inhabited

/-- Why attributes are refused. -/
inductive AttributeFault where
  | empty
  | noEquals (part : Text)
  | noKey (part : Text)
  | unknown (key : Text)
  | repeated (key : Text)
  deriving DecidableEq, Inhabited

namespace AttributeFault

/-- The fault in words. -/
def message : AttributeFault → Text
  | empty => "empty attribute".toList
  | noEquals part => "attribute '".toList ++ part ++ "' has no '='".toList
  | noKey part => "attribute '".toList ++ part ++ "' has no key".toList
  | unknown key => "unknown attribute '".toList ++ key ++ "'".toList
  | repeated key => "attribute '".toList ++ key ++ "' given twice".toList

end AttributeFault

namespace Directive

/-- The key and the value of one attribute, given those before it. -/
def readAttribute (earlier : List (Text × Text)) (part : Text) :
    Except AttributeFault (Text × Text) :=
  let part := Text.trim part
  if part.isEmpty then .error .empty
  else
    match Text.cut? '=' part with
    | none => .error (.noEquals part)
    | some (key, value) =>
      let key := Text.trim key
      if key.isEmpty then .error (.noKey part)
      else if isReservedKey key = false then .error (.unknown key)
      else if earlier.any (·.1 == key) then .error (.repeated key)
      else .ok (key, Text.trim value)

/-- The attributes among comma-separated parts, after those already read; the first faulty part decides
the fault. -/
def readParts (earlier : List (Text × Text)) : List Text → Except AttributeFault (List (Text × Text))
  | [] => .ok earlier
  | part :: parts =>
    match readAttribute earlier part with
    | .ok given => readParts (earlier ++ [given]) parts
    | .error fault => .error fault

/-- The attributes in the text after the first comma of an info string. -/
def readAttributes (text : Text) : Except AttributeFault (List (Text × Text)) :=
  readParts [] (Text.splitOn ',' text)

/-- The directive that an info string is. -/
def read (registry : Registry) (info : Text) : Except AttributeFault Directive :=
  let info := Text.trim info
  match Text.cut? ',' info with
  | none => .ok ⟨info, []⟩
  | some (before, after) =>
    let tag := Text.trim before
    if registry.isRegistered tag then
      match readAttributes after with
      | .ok attributes => .ok ⟨tag, attributes⟩
      | .error fault => .error fault
    else .ok ⟨tag, []⟩

/-- The hidden-line marker of a block: the one its attributes give, be it empty, or else the default. -/
def marker (directive : Directive) (default : Option Text) : Text :=
  match directive.attributes.lookup hideLinesKey with
  | some marker => marker
  | none => default.getD []

end Directive

end TypstFences
