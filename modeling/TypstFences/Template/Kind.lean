import TypstFences.Text.Basic

/-!
# Kinds of values in templates

Every value that a template is filled with has a kind, and so has every part of it and every kind. A kind
lists under names what its values have and know to do, and what is not listed may be listed for its base.
-/

set_option autoImplicit false

namespace TypstFences.Template

/-- A kind: of the values of slots; of tuples, kinds and all things; of functions and operators bound to a
value; of methods, operators, properties and members by themselves, and of methods of kinds; of kinds with
parameters; and of what a kind lists. -/
inductive Kind where
  | text
  | int
  | real
  | bool
  | null
  | list
  | table
  | tuple
  | ofKinds
  | thing
  | function
  | bound
  | method
  | operator
  | property
  | member
  | kindMethod
  | alias
  | contents
  deriving DecidableEq, Inhabited

/-- How something is listed: as an operator, a method, a method of the kind, a function that is bound to the
kind, one without a value that it is bound to, a property, a member, or as absent though it is listed for
the base. -/
inductive Form where
  | operator
  | method
  | kindMethod
  | function
  | static
  | property
  | member
  | absent
  deriving DecidableEq, Inhabited

/-- What is listed under a name: how, how it is called, and what it does. -/
structure Entry where
  form : Form
  name : String
  signature : Option String
  purpose : Option String
  deriving DecidableEq, Inhabited

namespace Kind

/-- The name of a kind. -/
def name : Kind → String
  | .text => "str"
  | .int => "int"
  | .real => "float"
  | .bool => "bool"
  | .null => "NoneType"
  | .list => "list"
  | .table => "dict"
  | .tuple => "tuple"
  | .ofKinds => "type"
  | .thing => "object"
  | .function => "builtin_function_or_method"
  | .bound => "method-wrapper"
  | .method => "method_descriptor"
  | .operator => "wrapper_descriptor"
  | .property => "getset_descriptor"
  | .member => "member_descriptor"
  | .kindMethod => "classmethod_descriptor"
  | .alias => "GenericAlias"
  | .contents => "mappingproxy"

/-- Where a kind is at home. -/
def home : Kind → String
  | .alias => "types"
  | _ => "builtins"

/-- The kind that a kind refines. -/
def base? : Kind → Option Kind
  | .thing => none
  | .bool => some .int
  | _ => some .thing

/-- A kind and those that it refines, from the finest on. -/
def line : Kind → List Kind
  | .thing => [.thing]
  | .bool => [.bool, .int, .thing]
  | other => [other, .thing]

/-- What a kind is for, if it says so. -/
def purpose : Kind → Option String
  | .text =>
    some <| "str(object='') -> str\nstr(bytes_or_buffer[, encoding[, errors]]) -> str\n" ++
      "\nCreate a new string object from the given object. If encoding or\n" ++
      "errors is specified, then the object must expose a data buffer\n" ++
      "that will be decoded using the given encoding and error handler.\n" ++
      "Otherwise, returns the result of object.__str__() (if defined)\n" ++
      "or repr(object).\nencoding defaults to sys.getdefaultencoding().\n" ++
      "errors defaults to 'strict'."
  | .int =>
    some <| "int([x]) -> integer\nint(x, base=10) -> integer\n" ++
      "\nConvert a number or string to an integer, or return 0 if no arguments\n" ++
      "are given.  If x is a number, return x.__int__().  For floating point\n" ++
      "numbers, this truncates towards zero.\n\nIf x is not a number or if base is given, " ++
      "then x must be a string,\nbytes, or bytearray instance representing an integer " ++
      "literal in the\ngiven base.  The literal can be preceded by '+' or '-' and be " ++
      "surrounded\nby whitespace.  The base defaults to 10.  Valid bases are 0 and 2-36.\n" ++
      "Base 0 means to interpret the base from the string as an integer literal.\n" ++
      ">>> int('0b100', base=0)\n4"
  | .real => some "Convert a string or number to a floating point number, if possible."
  | .bool =>
    some <| "bool(x) -> bool\n\nReturns True when the argument x is true, False otherwise.\n" ++
      "The builtins True and False are the only two instances of the class bool.\n" ++
      "The class bool is a subclass of the class int, and cannot be subclassed."
  | .null => none
  | .list =>
    some <| "Built-in mutable sequence.\n\nIf no argument is given, the constructor creates a new " ++
      "empty list.\nThe argument must be an iterable if specified."
  | .table =>
    some <| "dict() -> new empty dictionary\ndict(mapping) -> new dictionary initialized from a " ++
      "mapping object's\n    (key, value) pairs\ndict(iterable) -> new dictionary " ++
      "initialized as if via:\n    d = \x7b\x7d\n    for k, v in iterable:\n" ++
      "        d[k] = v\ndict(**kwargs) -> new dictionary initialized with the name=value " ++
      "pairs\n    in the keyword argument list.  For example:  dict(one=1, two=2)"
  | .tuple =>
    some <| "Built-in immutable sequence.\n\nIf no argument is given, the constructor returns an " ++
      "empty tuple.\nIf iterable is specified the tuple is initialized from iterable's items." ++
      "\n\nIf the argument is a tuple, the return value is the same object."
  | .ofKinds =>
    some "type(object) -> the object's type\ntype(name, bases, dict, **kwds) -> a new type"
  | .thing =>
    some <| "The base class of the class hierarchy.\n\nWhen called, it accepts no arguments and " ++
      "returns a new featureless\ninstance that has no instance attributes and cannot be " ++
      "given any.\n"
  | .function => none
  | .bound => none
  | .method => none
  | .operator => none
  | .property => none
  | .member => none
  | .kindMethod => none
  | .alias =>
    some <| "Represent a PEP 585 generic type\n\nE.g. for t = list[int], t.__origin__ is list and " ++
      "t.__args__ is (int,)."
  | .contents => none

/-- How a value of a kind is made, if the kind says so. -/
def signature : Kind → Option String
  | .real => some "(x=0, /)"
  | .list => some "(iterable=(), /)"
  | .tuple => some "(iterable=(), /)"
  | .thing => some "()"
  | _ => none

/-- The measures of a kind under their names. -/
def measures (self : Kind) : List (String × Nat) :=
  let row : List Nat :=
    match self with
    | .text => [80, 0, 273159424, 0, 0]
    | .int => [24, 4, 21501184, 0, 0]
    | .real => [24, 0, 4723968, 0, 0]
    | .bool => [32, 4, 21500160, 0, 0]
    | .null => [16, 0, 528640, 0, 0]
    | .list => [40, 0, 38294816, 0, 0]
    | .table => [48, 0, 541611328, 0, 0]
    | .tuple => [24, 8, 71849248, 0, 0]
    | .ofKinds => [904, 40, 2148031744, 368, 264]
    | .thing => [16, 0, 529664, 0, 0]
    | .function => [56, 0, 547200, 40, 0]
    | .bound => [32, 0, 545152, 0, 0]
    | .method => [56, 0, 678272, 0, 0]
    | .operator => [56, 0, 676224, 0, 0]
    | .property => [48, 0, 545152, 0, 0]
    | .member => [48, 0, 545152, 0, 0]
    | .kindMethod => [56, 0, 545152, 0, 0]
    | .alias => [64, 0, 548096, 40, 0]
    | .contents => [24, 0, 545088, 0, 0]
  ["__basicsize__", "__itemsize__", "__flags__", "__weakrefoffset__", "__dictoffset__"].zip row

end Kind

end TypstFences.Template
