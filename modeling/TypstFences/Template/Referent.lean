import TypstFences.Json.Writer
import TypstFences.Template.Figure
import TypstFences.Template.Manual

/-!
# What the slots of templates refer to

A slot refers to a value, or to a part or an item of what another slot could refer to: a kind, something
that a kind lists, bound to a value or by itself, several of them together, a kind with a parameter, or all
that a kind lists.
-/

set_option autoImplicit false

namespace TypstFences.Template

/-- What a slot may refer to. Something listed comes with the kind that lists it. -/
inductive Referent where
  | plain (value : Json)
  | ofKind (kind : Kind)
  | bound (self : Referent) (lister : Kind) (entry : Entry)
  | unbound (lister : Kind) (entry : Entry)
  | tuple (items : List Referent)
  | alias (origin : Kind) (parameter : Json)
  | contents (kind : Kind)
  deriving Inhabited

/-- The kind of what is listed, by itself. -/
def Form.kind : Form → Kind
  | .operator => .operator
  | .method => .method
  | .kindMethod => .kindMethod
  | .function => .function
  | .static => .function
  | .property => .property
  | .member => .member
  | .absent => .null

/-- Where in memory objects stand, as the text that shows the number of the place. The same object may stand
elsewhere each time a template is filled. -/
abbrev Address := Referent → Text

/-- What is listed of a kind by itself, in words. -/
def Form.words : Form → String
  | .operator => "slot wrapper"
  | .property => "attribute"
  | .member => "member"
  | _ => "method"

namespace Referent

/-- The kind of a value. -/
def kindOfValue : Json → Kind
  | .null => .null
  | .bool _ => .bool
  | .int _ => .int
  | .real _ => .real
  | .string _ => .text
  | .list _ => .list
  | .object _ => .table

/-- The kind of a referent. -/
def kindOf : Referent → Kind
  | .plain value => kindOfValue value
  | .ofKind _ => .ofKinds
  | .bound _ _ entry => if entry.form = .operator then .bound else .function
  | .unbound _ entry => entry.form.kind
  | .tuple _ => .tuple
  | .alias .. => .alias
  | .contents _ => .contents

/-- A text as a referent. -/
def ofText (text : Text) : Referent := .plain (.string text)

/-- A text that may be there as a referent. -/
def ofString? (text : Option String) : Referent :=
  .plain ((text.map fun text => Json.string text.toList).getD .null)

/-- The name of a kind with its home in front, unless it is at home with all others. -/
def fullName (kind : Kind) : Text :=
  if kind.home = "builtins" then kind.name.toList
  else kind.home.toList ++ '.' :: kind.name.toList

/-- Something listed as it stands in a filled template. -/
def entryText (lister : Kind) (entry : Entry) : Text :=
  '<' :: entry.form.words.toList ++ " '".toList ++ entry.name.toList ++ "' of '".toList ++
    fullName lister ++ "' objects>".toList

/-- Something bound as it stands in a filled template, with the place in memory of what it is bound to. -/
def boundText (address : Address) (self : Referent) (entry : Entry) : Text :=
  (if entry.form = .operator then "<method-wrapper '".toList ++ entry.name.toList ++ "' of ".toList
    else "<built-in method ".toList ++ entry.name.toList ++ " of ".toList) ++
    self.kindOf.name.toList ++ " object at ".toList ++ address self ++ ['>']

/-- What a kind lists as it stands in a filled template. -/
def contentsText (address : Address) (kind : Kind) : Text :=
  let listed (name : String) (text : Text) : Text := Text.quoted name.toList ++ ':' :: ' ' :: text
  let entries := (Manual.entries kind).map fun entry =>
    listed entry.name <|
      match entry.form with
      | .function => boundText address (.ofKind kind) entry
      | .static => "<staticmethod(".toList ++ boundText address (.ofKind kind) entry ++ ")>".toList
      | .absent => Json.null.shown
      | _ => entryText kind entry
  let purpose := listed "__doc__" (((kind.purpose.map fun text =>
    Json.string text.toList).getD .null).write Json.displayed)
  let hasPurpose := (Manual.listing? kind "__doc__".toList).isSome
  '\x7b' :: Text.joinWith [',', ' '] (if hasPurpose then entries else entries ++ [purpose]) ++ ['\x7d']

mutual

/-- A referent as it stands inside another value, where texts are quoted. -/
def quoted (address : Address) : Referent → Text
  | .plain value => value.write Json.displayed
  | .ofKind kind => "<class ".toList ++ Text.quoted (fullName kind) ++ ['>']
  | .bound self _ entry => boundText address self entry
  | .unbound lister entry => entryText lister entry
  | .tuple items => '(' :: quotedItems address items ++ (if items.length = 1 then [','] else []) ++ [')']
  | .alias origin parameter =>
    fullName origin ++ '[' :: parameter.write Json.displayed ++ [']']
  | .contents kind => "mappingproxy(".toList ++ contentsText address kind ++ [')']

/-- Referents as they stand inside another value, with commas between them. -/
def quotedItems (address : Address) : List Referent → Text
  | [] => []
  | [item] => quoted address item
  | item :: next :: items => quoted address item ++ ',' :: ' ' :: quotedItems address (next :: items)

end

/-- A referent as it stands in a filled template. -/
def shown (address : Address) : Referent → Text
  | .plain value => value.shown
  | .contents kind => contentsText address kind
  | referent => referent.quoted address

/-- The parts of a whole number: as a complex number and as a fraction. -/
def partsOfInt (number : Int) : List (String × Json) :=
  [("real", .int number), ("imag", .int 0), ("numerator", .int number), ("denominator", .int 1)]

/-- The parts that only values of some kinds have. -/
def partsOfValue : Json → List (String × Json)
  | .bool value => partsOfInt (if value then 1 else 0)
  | .int number => partsOfInt number
  | .real number => [("real", .real number), ("imag", .real (Binary64.zero false))]
  | _ => []

/-- The parts of a kind. -/
def partsOfKind (kind : Kind) : List (String × Referent) :=
  [("__name__", ofString? kind.name), ("__qualname__", ofString? kind.name),
    ("__module__", ofString? kind.home), ("__text_signature__", ofString? kind.signature),
    ("__doc__", match kind.purpose, Manual.listing? kind "__doc__".toList with
      | none, some entry => .unbound kind entry
      | purpose, _ => ofString? purpose),
    ("__base__", (kind.base?.map Referent.ofKind).getD (.plain .null)),
    ("__bases__", .tuple (kind.base?.toList.map .ofKind)), ("__mro__", .tuple (kind.line.map .ofKind)),
    ("__dict__", .contents kind)] ++
    kind.measures.map fun (name, measure) => (name, .plain (.int measure))

/-- The parts of something listed. -/
def partsOfEntry (qualifier lister : Kind) (entry : Entry) : List (String × Referent) :=
  let fullName := qualifier.name ++ "." ++ entry.name
  [("__name__", ofString? entry.name), ("__qualname__", ofString? fullName),
    ("__doc__", ofString? entry.purpose), ("__text_signature__", ofString? entry.signature),
    ("__objclass__", .ofKind lister)]

/-- What the full name of something bound begins with. -/
def qualifierOf (self : Referent) (lister : Kind) (entry : Entry) : Kind :=
  match entry.form, self with
  | .operator, _ => lister
  | _, .ofKind kind => kind
  | _, self => self.kindOf

/-- The properties of a referent, of which only those count that its kind lists. -/
def properties : Referent → List (String × Referent)
  | .plain value => (partsOfValue value).map fun (name, part) => (name, .plain part)
  | .ofKind kind => partsOfKind kind
  | .bound self lister entry =>
    [("__self__", if entry.form = .static then .plain .null else self), ("__module__", .plain .null)] ++
      partsOfEntry (qualifierOf self lister entry) lister entry
  | .unbound lister entry => partsOfEntry lister lister entry
  | .alias origin parameter =>
    [("__origin__", .ofKind origin), ("__args__", .tuple [.plain parameter]),
      ("__parameters__", .tuple []), ("__unpacked__", .plain (.bool false)),
      ("__typing_unpacked_tuple_args__", .plain .null)]
  | .tuple _ => []
  | .contents _ => []

/-- The property of a referent that has a name; everything has a kind. -/
def property (name : Text) (referent : Referent) : Except TemplateFault Referent :=
  if name = "__class__".toList then .ok (.ofKind referent.kindOf)
  else
    match referent.properties.find? fun part => part.1.toList == name with
    | some (_, part) => .ok part
    | none => .error .noPart

/-- What is listed under a name for the kind of a referent, as a part of the referent. -/
def bind (self : Referent) (lister : Kind) (entry : Entry) : Except TemplateFault Referent :=
  match entry.form with
  | .operator => .ok (.bound self lister entry)
  | .method => .ok (.bound self lister entry)
  | .kindMethod => .ok (.bound (.ofKind self.kindOf) lister entry)
  | .function => .ok (.bound (.ofKind lister) lister entry)
  | .static => .ok (.bound (.ofKind lister) lister entry)
  | .property => self.property entry.name.toList
  | .member => self.property entry.name.toList
  | .absent => .ok (.plain .null)

/-- What a kind lists under a name, as a part of the kind. -/
def ofListed (kind lister : Kind) (entry : Entry) : Referent :=
  match entry.form with
  | .kindMethod => .bound (.ofKind kind) lister entry
  | .function => .bound (.ofKind lister) lister entry
  | .static => .bound (.ofKind lister) lister entry
  | .absent => .plain .null
  | _ => .unbound lister entry

/-- The part of a kind that has a name: first what all kinds have as properties, then what it lists, then
what all kinds know to do. -/
def partOfKind (name : Text) (kind : Kind) : Except TemplateFault Referent :=
  let common := Manual.find? name Kind.ofKinds.line
  if common.any fun found => found.2.form = .property || found.2.form = .member then
    (Referent.ofKind kind).property name
  else
    match Manual.find? name kind.line, common with
    | some (lister, entry), _ => .ok (ofListed kind lister entry)
    | none, some (lister, entry) => (Referent.ofKind kind).bind lister entry
    | none, none => .error .noPart

/-- The parts that a kind with a parameter has for itself; all others are those of the kind. -/
def ownOfAlias : List String :=
  ["__class__", "__origin__", "__args__", "__unpacked__", "__parameters__",
    "__typing_unpacked_tuple_args__", "__mro_entries__", "__reduce_ex__", "__reduce__", "__copy__",
    "__deepcopy__"]

/-- The part of a referent that its kind lists under a name. -/
def partOfValue (name : Text) (referent : Referent) : Except TemplateFault Referent :=
  match Manual.find? name referent.kindOf.line with
  | some (lister, entry) => referent.bind lister entry
  | none =>
    if name = "__doc__".toList then .ok (ofString? referent.kindOf.purpose) else .error .noPart

/-- The part of a referent that has a name. -/
def part (name : Text) : Referent → Except TemplateFault Referent
  | .ofKind kind => partOfKind name kind
  | .alias origin parameter =>
    if name ∈ ownOfAlias.map String.toList then partOfValue name (.alias origin parameter)
    else partOfKind name origin
  | referent => partOfValue name referent

/-- An item that may be there. -/
def found? (missing : TemplateFault) : Option Referent → Except TemplateFault Referent
  | some item => .ok item
  | none => .error missing

/-- Whether a kind can have a parameter. -/
def hasParameter (kind : Kind) : Bool :=
  kind == .ofKinds || (Manual.find? "__class_getitem__".toList kind.line).isSome

/-- What a kind lists under a name, by itself. -/
def listed? (kind : Kind) (name : Text) : Option Referent :=
  match Manual.listing? kind name with
  | some entry =>
    if entry.form = .kindMethod then some (.unbound kind entry) else some (ofListed kind kind entry)
  | none => if name = "__doc__".toList then some (ofString? kind.purpose) else none

/-- The item of a referent that brackets ask for: a character of a text and an item of a list by its
number, or what is under a key. A number is no key. -/
def item (key : Text) (referent : Referent) : Except TemplateFault Referent :=
  match leadingNumber? key with
  | none => .error .malformed
  | some leading =>
    let number? : Option Nat := if key.all Text.isDigit then leading else none
    match referent, number? with
    | .plain (.object fields), none => found? .unknownName ((Json.lookup key fields).map .plain)
    | .plain (.object _), some _ => .error .unknownName
    | .plain (.string text), some number =>
      found? .noItem ((text[number]?).map fun c => ofText [c])
    | .plain (.list items), some number => found? .noItem ((items[number]?).map .plain)
    | .tuple items, some number => found? .noItem items[number]?
    | .contents kind, none => found? .unknownName (listed? kind key)
    | .contents _, some _ => .error .unknownName
    | .ofKind kind, number? =>
      if hasParameter kind then
        .ok (.alias kind ((number?.map fun number => Json.int number).getD (.string key)))
      else .error .unfit
    | _, _ => .error .unfit

end Referent

end TypstFences.Template
