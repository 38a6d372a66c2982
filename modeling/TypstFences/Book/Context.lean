import TypstFences.Files.Path
import TypstFences.Settings.Override

/-!
# The context of a book

A book comes as JSON together with a context: where its sources are, and a table of settings. A value
of another shape than expected is a fault, told by what could not be done with it.
-/

set_option autoImplicit false

namespace TypstFences.Book

/-- What cannot be done with a value: to look up a key in it, to use it for what it is needed for, or
to take it apart into a context and a book. -/
inductive ShapeFault where
  | noFields
  | unusable
  | notPair
  deriving DecidableEq, Inhabited

/-- The key of the table of this program among the tables of preprocessors. -/
def tableKey : Text := "typfence".toList

/-- The value under a key of an object, or a value in its stead when there is none. -/
def fieldOr (key : Text) (fallback : Json) : Json → Except ShapeFault Json
  | .object fields => .ok ((Json.lookup key fields).getD fallback)
  | _ => .error .noFields

/-- The value under keys of nested objects; objects that are missing are empty. -/
def fieldAt : List Text → Json → Except ShapeFault Json
  | [], json => .ok json
  | key :: keys, json =>
    match fieldOr key (.object []) json with
    | .ok value => fieldAt keys value
    | .error fault => .error fault

/-- The entries of the settings table of a context. -/
def tableOf (context : Json) : Except ShapeFault (List (Text × Json)) :=
  match fieldAt ["config".toList, "preprocessor".toList, tableKey] context with
  | .ok (.object fields) => .ok fields
  | .ok _ => .error .noFields
  | .error fault => .error fault

/-- The path that a value is. -/
def pathOf : Json → Except ShapeFault Path
  | .string text => .ok (Path.ofText text)
  | _ => .error .unusable

/-- The directory of the sources: the one that the context names, in the root of the book. -/
def sourceDirectory (context : Json) : Except ShapeFault Path := do
  let root ← fieldOr "root".toList (.string ['.']) context
  let root ← pathOf root
  let table ← fieldAt ["config".toList, "book".toList] context
  let source ← fieldOr "src".toList (.string "src".toList) table
  let source ← pathOf source
  pure (root.join source)

/-- The value of the first of some keys under which there is something. -/
def firstField (json : Json) : List Text → Option Json
  | [] => none
  | key :: keys =>
    match (json.field? key).filter fun value => !value.isNothing with
    | some value => some value
    | none => firstField json keys

end TypstFences.Book
