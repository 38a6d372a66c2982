import TypstFences.Yaml.Value

/-!
# Nodes of YAML text

A node is a scalar, a sequence or a mapping that is to be a value of a kind. What it stands for is worked
out when it is made, from what its parts stand for. The parts of a list or a table come after all else of
the same depth; hence of several faults that of the least depth counts, and of those the first.
-/

set_option autoImplicit false

namespace TypstFences.Yaml

/-- What a node stands for, or a fault and how many levels below the node it comes up. -/
abbrev Outcome (α : Type) : Type := Except (Nat × Fault) α

namespace Outcome

variable {α β : Type}

/-- A fault of a node's own. -/
def failed (fault : Fault) : Outcome α := .error (0, fault)

/-- What a node stands for, given what is made of its parts and how. -/
def ofParts (make : α → β) (parts : Outcome α) : Outcome β :=
  match parts with
  | .ok x => .ok (make x)
  | .error (depth, fault) => .error (depth + 1, fault)

/-- The outcomes in order as one. -/
def both (first : Outcome α) (second : Outcome β) : Outcome (α × β) :=
  match first, second with
  | .ok x, .ok y => .ok (x, y)
  | .ok _, .error e => .error e
  | .error e, .ok _ => .error e
  | .error e, .error f => .error (if f.1 < e.1 then f else e)

/-- A row of outcomes as one. -/
def all : List (Outcome α) → Outcome (List α)
  | [] => .ok []
  | outcome :: outcomes => (both outcome (all outcomes)).map fun (x, xs) => x :: xs

end Outcome

/-- A node. A mapping also has its text where it should be a scalar, and the pairs that it has when those of
other mappings are taken over. -/
inductive Node where
  | scalar (kind : Kind) (text : Text) (outcome : Outcome Value)
  | sequence (kind : Kind) (items : List Node) (outcome : Outcome Value)
  | mapping (kind : Kind) (pairs : List (Node × Node)) (text : Option Text)
      (merged : Except Fault (List (Node × Node))) (outcome : Outcome Value)

namespace Node

/-- The kind of value that a node is to be. -/
def kind : Node → Kind
  | scalar kind .. => kind
  | sequence kind .. => kind
  | mapping kind .. => kind

/-- What a node stands for. -/
def outcome : Node → Outcome Value
  | scalar _ _ outcome => outcome
  | sequence _ _ outcome => outcome
  | mapping _ _ _ _ outcome => outcome

/-- The text of a node where it is a scalar or stands for one. -/
def text? : Node → Option Text
  | scalar _ text _ => some text
  | sequence .. => none
  | mapping _ _ text _ _ => text

/-- The pairs of a node that other mappings take over; there are none in scalars and sequences. -/
def merged : Node → Except Fault (List (Node × Node))
  | mapping _ _ _ merged _ => merged
  | _ => .error .unknownKind

instance : Inhabited Node := ⟨.scalar .null [] (.ok .null)⟩

/-- A scalar. -/
def ofScalar (kind : Kind) (text : Text) : Node :=
  .scalar kind text <|
    if kind.isCompound then .error (1, .unknownKind)
    else (Value.ofText kind text).mapError fun fault => (0, fault)

/-- What the key of a mapping stands for. It has no parts. -/
def keyOutcome (key : Node) : Outcome Value :=
  if key.kind.isCompound then .failed .unknownKind else key.outcome

/-- What a pair of a mapping stands for. -/
def fieldOutcome (pair : Node × Node) : Outcome (Value × Value) :=
  pair.1.keyOutcome.both pair.2.outcome

/-- What a part of a list of pairs stands for. It is a mapping of one pair, whose key may have parts. -/
def pairOutcome (item : Node) : Outcome Value :=
  match item with
  | mapping _ [(key, value)] .. =>
    (key.outcome.both value.outcome).map fun (key, value) => .list [key, value]
  | _ => .failed .unknownKind

/-- A sequence. -/
def ofItems (kind : Kind) (items : List Node) : Node :=
  .sequence kind items <|
    match kind with
    | .list => Outcome.ofParts Value.list (Outcome.all (items.map outcome))
    | .pairs => Outcome.ofParts Value.list (Outcome.all (items.map pairOutcome))
    | .map => .error (1, .unknownKind)
    | .set => .error (1, .unknownKind)
    | _ => .failed .unknownKind

/-- The pairs that a mapping takes over from the value of a merging key: those of a mapping, or of the
mappings in a sequence, the last of them first. -/
def takenOver (value : Node) : Except Fault (List (Node × Node)) :=
  match value with
  | sequence _ items _ => (items.mapM merged).map fun parts => parts.reverse.flatten
  | value => value.merged

/-- The pairs of a mapping after those it takes over; later ones win. -/
def mergePairs (pairs : List (Node × Node)) : Except Fault (List (Node × Node)) := do
  let taken ← (pairs.filter (·.1.kind == .merge)).mapM fun pair => takenOver pair.2
  let own := (pairs.filter (·.1.kind != .merge)).map fun (key, value) =>
    match key with
    | scalar .standIn text _ => (ofScalar .text text, value)
    | sequence .standIn items _ => (ofItems .text items, value)
    | key => (key, value)
  .ok (taken.flatten ++ own)

/-- The fields that pairs stand for. -/
def fieldsOutcome (pairs : Except Fault (List (Node × Node))) : Outcome (List (Value × Value)) :=
  match pairs with
  | .error fault => .failed fault
  | .ok pairs => (Outcome.all (pairs.map fieldOutcome)).map Value.ofFields

/-- A mapping. -/
def ofPairs (kind : Kind) (pairs : List (Node × Node)) : Node :=
  let text := (pairs.find? (·.1.kind == .standIn)).bind (·.2.text?)
  let merged := mergePairs pairs
  .mapping kind pairs text merged <|
    match kind with
    | .map => Outcome.ofParts Value.map (fieldsOutcome merged)
    | .set => Outcome.ofParts (fun fields => Value.set (fields.map (·.1))) (fieldsOutcome merged)
    | .list => .error (1, .unknownKind)
    | .pairs => .error (1, .unknownKind)
    | .moment => if text.isSome then .failed .tableAsMoment else .failed .unknownKind
    | kind =>
      match text with
      | some text => (Value.ofText kind text).mapError fun fault => (0, fault)
      | none => .failed .unknownKind

/-- The value that a node stands for. -/
def value (node : Node) : Except Fault Value := node.outcome.mapError (·.2)

end Node

end TypstFences.Yaml
