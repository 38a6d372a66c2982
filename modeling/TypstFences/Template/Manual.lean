import TypstFences.Template.Manual.Collections
import TypstFences.Template.Manual.Numbers
import TypstFences.Template.Manual.Texts
import TypstFences.Template.Manual.Things

/-!
# The manual

What each kind lists, and where a name is found.
-/

set_option autoImplicit false

namespace TypstFences.Template.Manual

/-- What a kind lists. -/
def entries : Kind → List Entry
  | .text => ofText
  | .int => ofInt
  | .real => ofReal
  | .bool => ofBool
  | .null => ofNull
  | .list => ofList
  | .table => ofTable
  | .tuple => ofTuple
  | .ofKinds => Manual.ofKinds
  | .thing => ofThing
  | .function => ofFunction
  | .bound => ofBound
  | .method => ofMethod
  | .operator => ofOperator
  | .property => ofProperty
  | .member => ofMember
  | .kindMethod => ofKindMethod
  | .alias => ofAlias
  | .contents => ofContents

/-- What a kind lists under a name. -/
def listing? (kind : Kind) (name : Text) : Option Entry :=
  (entries kind).find? fun entry => entry.name.toList == name

/-- The first of some kinds that lists a name, and what it lists there. -/
def find? (name : Text) (kinds : List Kind) : Option (Kind × Entry) :=
  kinds.findSome? fun kind => (listing? kind name).map (kind, ·)

end TypstFences.Template.Manual
