import TypstFences.Template.Kind

/-!
# The manual of kinds and functions

What kinds, functions and all things know to do, in the order in which it is listed.
-/

set_option autoImplicit false

namespace TypstFences.Template.Manual

/-- What is listed of kinds. -/
def ofKinds : List Entry :=
  [
    ⟨.function, "__new__", some "($type, *args, **kwargs)",
      some "Create and return a new object.  See help(type) for accurate signature."⟩,
    ⟨.operator, "__repr__", some "($self, /)", some "Return repr(self)."⟩,
    ⟨.operator, "__call__", some "($self, /, *args, **kwargs)", some "Call self as a function."⟩,
    ⟨.operator, "__getattribute__", some "($self, name, /)", some "Return getattr(self, name)."⟩,
    ⟨.operator, "__setattr__", some "($self, name, value, /)",
      some "Implement setattr(self, name, value)."⟩,
    ⟨.operator, "__delattr__", some "($self, name, /)", some "Implement delattr(self, name)."⟩,
    ⟨.operator, "__init__", some "($self, /, *args, **kwargs)",
      some "Initialize self.  See help(type(self)) for accurate signature."⟩,
    ⟨.operator, "__or__", some "($self, value, /)", some "Return self|value."⟩,
    ⟨.operator, "__ror__", some "($self, value, /)", some "Return value|self."⟩,
    ⟨.method, "mro", some "($self, /)", some "Return a type's method resolution order."⟩,
    ⟨.method, "__subclasses__", some "($self, /)", some "Return a list of immediate subclasses."⟩,
    ⟨.kindMethod, "__prepare__", none,
      some "__prepare__() -> dict\nused to create the namespace for the class statement"⟩,
    ⟨.method, "__instancecheck__", some "($self, instance, /)",
      some "Check if an object is an instance."⟩,
    ⟨.method, "__subclasscheck__", some "($self, subclass, /)",
      some "Check if a class is a subclass."⟩,
    ⟨.method, "__dir__", some "($self, /)", some "Specialized __dir__ implementation for types."⟩,
    ⟨.method, "__sizeof__", some "($self, /)",
      some "Return memory consumption of the type object."⟩,
    ⟨.member, "__basicsize__", none, none⟩,
    ⟨.member, "__itemsize__", none, none⟩,
    ⟨.member, "__flags__", none, none⟩,
    ⟨.member, "__weakrefoffset__", none, none⟩,
    ⟨.member, "__base__", none, none⟩,
    ⟨.member, "__dictoffset__", none, none⟩,
    ⟨.member, "__mro__", none, none⟩,
    ⟨.property, "__name__", none, none⟩,
    ⟨.property, "__qualname__", none, none⟩,
    ⟨.property, "__bases__", none, none⟩,
    ⟨.property, "__module__", none, none⟩,
    ⟨.property, "__abstractmethods__", none, none⟩,
    ⟨.property, "__dict__", none, none⟩,
    ⟨.property, "__doc__", none, none⟩,
    ⟨.property, "__text_signature__", none, none⟩,
    ⟨.property, "__annotations__", none, none⟩
  ]

/-- What is listed of all things. -/
def ofThing : List Entry :=
  [
    ⟨.function, "__new__", some "($type, *args, **kwargs)",
      some "Create and return a new object.  See help(type) for accurate signature."⟩,
    ⟨.operator, "__repr__", some "($self, /)", some "Return repr(self)."⟩,
    ⟨.operator, "__hash__", some "($self, /)", some "Return hash(self)."⟩,
    ⟨.operator, "__str__", some "($self, /)", some "Return str(self)."⟩,
    ⟨.operator, "__getattribute__", some "($self, name, /)", some "Return getattr(self, name)."⟩,
    ⟨.operator, "__setattr__", some "($self, name, value, /)",
      some "Implement setattr(self, name, value)."⟩,
    ⟨.operator, "__delattr__", some "($self, name, /)", some "Implement delattr(self, name)."⟩,
    ⟨.operator, "__lt__", some "($self, value, /)", some "Return self<value."⟩,
    ⟨.operator, "__le__", some "($self, value, /)", some "Return self<=value."⟩,
    ⟨.operator, "__eq__", some "($self, value, /)", some "Return self==value."⟩,
    ⟨.operator, "__ne__", some "($self, value, /)", some "Return self!=value."⟩,
    ⟨.operator, "__gt__", some "($self, value, /)", some "Return self>value."⟩,
    ⟨.operator, "__ge__", some "($self, value, /)", some "Return self>=value."⟩,
    ⟨.operator, "__init__", some "($self, /, *args, **kwargs)",
      some "Initialize self.  See help(type(self)) for accurate signature."⟩,
    ⟨.method, "__reduce_ex__", some "($self, protocol, /)", some "Helper for pickle."⟩,
    ⟨.method, "__reduce__", some "($self, /)", some "Helper for pickle."⟩,
    ⟨.method, "__getstate__", some "($self, /)", some "Helper for pickle."⟩,
    ⟨.kindMethod, "__subclasshook__", none,
      some <| "Abstract classes can override this to customize issubclass().\n" ++
        "\nThis is invoked early on by abc.ABCMeta.__subclasscheck__().\n" ++
        "It should return True, False or NotImplemented.  If it returns\n" ++
        "NotImplemented, the normal algorithm is used.  Otherwise, it\n" ++
        "overrides the normal algorithm (and the outcome is cached).\n"⟩,
    ⟨.kindMethod, "__init_subclass__", none,
      some <| "This method is called when a class is subclassed.\n" ++
        "\nThe default implementation does nothing. It may be\n" ++
        "overridden to extend subclasses.\n"⟩,
    ⟨.method, "__format__", some "($self, format_spec, /)", some "Default object formatter."⟩,
    ⟨.method, "__sizeof__", some "($self, /)", some "Size of object in memory, in bytes."⟩,
    ⟨.method, "__dir__", some "($self, /)", some "Default dir() implementation."⟩,
    ⟨.property, "__class__", none, some "the object's class"⟩
  ]

/-- What is listed of bound functions. -/
def ofFunction : List Entry :=
  [
    ⟨.operator, "__repr__", some "($self, /)", some "Return repr(self)."⟩,
    ⟨.operator, "__hash__", some "($self, /)", some "Return hash(self)."⟩,
    ⟨.operator, "__call__", some "($self, /, *args, **kwargs)", some "Call self as a function."⟩,
    ⟨.operator, "__getattribute__", some "($self, name, /)", some "Return getattr(self, name)."⟩,
    ⟨.operator, "__lt__", some "($self, value, /)", some "Return self<value."⟩,
    ⟨.operator, "__le__", some "($self, value, /)", some "Return self<=value."⟩,
    ⟨.operator, "__eq__", some "($self, value, /)", some "Return self==value."⟩,
    ⟨.operator, "__ne__", some "($self, value, /)", some "Return self!=value."⟩,
    ⟨.operator, "__gt__", some "($self, value, /)", some "Return self>value."⟩,
    ⟨.operator, "__ge__", some "($self, value, /)", some "Return self>=value."⟩,
    ⟨.method, "__reduce__", none, none⟩,
    ⟨.member, "__module__", none, none⟩,
    ⟨.property, "__doc__", none, none⟩,
    ⟨.property, "__name__", none, none⟩,
    ⟨.property, "__qualname__", none, none⟩,
    ⟨.property, "__self__", none, none⟩,
    ⟨.property, "__text_signature__", none, none⟩
  ]

/-- What is listed of bound operators. -/
def ofBound : List Entry :=
  [
    ⟨.operator, "__repr__", some "($self, /)", some "Return repr(self)."⟩,
    ⟨.operator, "__hash__", some "($self, /)", some "Return hash(self)."⟩,
    ⟨.operator, "__call__", some "($self, /, *args, **kwargs)", some "Call self as a function."⟩,
    ⟨.operator, "__getattribute__", some "($self, name, /)", some "Return getattr(self, name)."⟩,
    ⟨.operator, "__lt__", some "($self, value, /)", some "Return self<value."⟩,
    ⟨.operator, "__le__", some "($self, value, /)", some "Return self<=value."⟩,
    ⟨.operator, "__eq__", some "($self, value, /)", some "Return self==value."⟩,
    ⟨.operator, "__ne__", some "($self, value, /)", some "Return self!=value."⟩,
    ⟨.operator, "__gt__", some "($self, value, /)", some "Return self>value."⟩,
    ⟨.operator, "__ge__", some "($self, value, /)", some "Return self>=value."⟩,
    ⟨.method, "__reduce__", none, none⟩,
    ⟨.member, "__self__", none, none⟩,
    ⟨.property, "__objclass__", none, none⟩,
    ⟨.property, "__name__", none, none⟩,
    ⟨.property, "__qualname__", none, none⟩,
    ⟨.property, "__doc__", none, none⟩,
    ⟨.property, "__text_signature__", none, none⟩
  ]

/-- What is listed of methods. -/
def ofMethod : List Entry :=
  [
    ⟨.operator, "__repr__", some "($self, /)", some "Return repr(self)."⟩,
    ⟨.operator, "__call__", some "($self, /, *args, **kwargs)", some "Call self as a function."⟩,
    ⟨.operator, "__getattribute__", some "($self, name, /)", some "Return getattr(self, name)."⟩,
    ⟨.operator, "__get__", some "($self, instance, owner=None, /)",
      some "Return an attribute of instance, which is of type owner."⟩,
    ⟨.method, "__reduce__", none, none⟩,
    ⟨.member, "__objclass__", none, none⟩,
    ⟨.member, "__name__", none, none⟩,
    ⟨.property, "__doc__", none, none⟩,
    ⟨.property, "__qualname__", none, none⟩,
    ⟨.property, "__text_signature__", none, none⟩
  ]

/-- What is listed of operators. -/
def ofOperator : List Entry :=
  [
    ⟨.operator, "__repr__", some "($self, /)", some "Return repr(self)."⟩,
    ⟨.operator, "__call__", some "($self, /, *args, **kwargs)", some "Call self as a function."⟩,
    ⟨.operator, "__getattribute__", some "($self, name, /)", some "Return getattr(self, name)."⟩,
    ⟨.operator, "__get__", some "($self, instance, owner=None, /)",
      some "Return an attribute of instance, which is of type owner."⟩,
    ⟨.method, "__reduce__", none, none⟩,
    ⟨.member, "__objclass__", none, none⟩,
    ⟨.member, "__name__", none, none⟩,
    ⟨.property, "__doc__", none, none⟩,
    ⟨.property, "__qualname__", none, none⟩,
    ⟨.property, "__text_signature__", none, none⟩
  ]

/-- What is listed of properties. -/
def ofProperty : List Entry :=
  [
    ⟨.operator, "__repr__", some "($self, /)", some "Return repr(self)."⟩,
    ⟨.operator, "__getattribute__", some "($self, name, /)", some "Return getattr(self, name)."⟩,
    ⟨.operator, "__get__", some "($self, instance, owner=None, /)",
      some "Return an attribute of instance, which is of type owner."⟩,
    ⟨.operator, "__set__", some "($self, instance, value, /)",
      some "Set an attribute of instance to value."⟩,
    ⟨.operator, "__delete__", some "($self, instance, /)",
      some "Delete an attribute of instance."⟩,
    ⟨.member, "__objclass__", none, none⟩,
    ⟨.member, "__name__", none, none⟩,
    ⟨.property, "__doc__", none, none⟩,
    ⟨.property, "__qualname__", none, none⟩
  ]

/-- What is listed of members. -/
def ofMember : List Entry :=
  [
    ⟨.operator, "__repr__", some "($self, /)", some "Return repr(self)."⟩,
    ⟨.operator, "__getattribute__", some "($self, name, /)", some "Return getattr(self, name)."⟩,
    ⟨.operator, "__get__", some "($self, instance, owner=None, /)",
      some "Return an attribute of instance, which is of type owner."⟩,
    ⟨.operator, "__set__", some "($self, instance, value, /)",
      some "Set an attribute of instance to value."⟩,
    ⟨.operator, "__delete__", some "($self, instance, /)",
      some "Delete an attribute of instance."⟩,
    ⟨.method, "__reduce__", none, none⟩,
    ⟨.member, "__objclass__", none, none⟩,
    ⟨.member, "__name__", none, none⟩,
    ⟨.property, "__doc__", none, none⟩,
    ⟨.property, "__qualname__", none, none⟩
  ]

/-- What is listed of methods of kinds. -/
def ofKindMethod : List Entry :=
  [
    ⟨.operator, "__repr__", some "($self, /)", some "Return repr(self)."⟩,
    ⟨.operator, "__call__", some "($self, /, *args, **kwargs)", some "Call self as a function."⟩,
    ⟨.operator, "__getattribute__", some "($self, name, /)", some "Return getattr(self, name)."⟩,
    ⟨.operator, "__get__", some "($self, instance, owner=None, /)",
      some "Return an attribute of instance, which is of type owner."⟩,
    ⟨.member, "__objclass__", none, none⟩,
    ⟨.member, "__name__", none, none⟩,
    ⟨.property, "__doc__", none, none⟩,
    ⟨.property, "__qualname__", none, none⟩,
    ⟨.property, "__text_signature__", none, none⟩
  ]

end TypstFences.Template.Manual
