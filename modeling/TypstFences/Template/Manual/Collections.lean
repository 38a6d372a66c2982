import TypstFences.Template.Kind

/-!
# The manual of collections

What lists, tables and tuples know to do, and kinds with parameters and what kinds list, in order.
-/

set_option autoImplicit false

namespace TypstFences.Template.Manual

/-- What is listed of lists. -/
def ofList : List Entry :=
  [
    ⟨.function, "__new__", some "($type, *args, **kwargs)",
      some "Create and return a new object.  See help(type) for accurate signature."⟩,
    ⟨.operator, "__repr__", some "($self, /)", some "Return repr(self)."⟩,
    ⟨.absent, "__hash__", none, none⟩,
    ⟨.operator, "__getattribute__", some "($self, name, /)", some "Return getattr(self, name)."⟩,
    ⟨.operator, "__lt__", some "($self, value, /)", some "Return self<value."⟩,
    ⟨.operator, "__le__", some "($self, value, /)", some "Return self<=value."⟩,
    ⟨.operator, "__eq__", some "($self, value, /)", some "Return self==value."⟩,
    ⟨.operator, "__ne__", some "($self, value, /)", some "Return self!=value."⟩,
    ⟨.operator, "__gt__", some "($self, value, /)", some "Return self>value."⟩,
    ⟨.operator, "__ge__", some "($self, value, /)", some "Return self>=value."⟩,
    ⟨.operator, "__iter__", some "($self, /)", some "Implement iter(self)."⟩,
    ⟨.operator, "__init__", some "($self, /, *args, **kwargs)",
      some "Initialize self.  See help(type(self)) for accurate signature."⟩,
    ⟨.operator, "__len__", some "($self, /)", some "Return len(self)."⟩,
    ⟨.method, "__getitem__", none, some "x.__getitem__(y) <==> x[y]"⟩,
    ⟨.operator, "__setitem__", some "($self, key, value, /)", some "Set self[key] to value."⟩,
    ⟨.operator, "__delitem__", some "($self, key, /)", some "Delete self[key]."⟩,
    ⟨.operator, "__add__", some "($self, value, /)", some "Return self+value."⟩,
    ⟨.operator, "__mul__", some "($self, value, /)", some "Return self*value."⟩,
    ⟨.operator, "__rmul__", some "($self, value, /)", some "Return value*self."⟩,
    ⟨.operator, "__contains__", some "($self, key, /)", some "Return key in self."⟩,
    ⟨.operator, "__iadd__", some "($self, value, /)", some "Implement self+=value."⟩,
    ⟨.operator, "__imul__", some "($self, value, /)", some "Implement self*=value."⟩,
    ⟨.method, "__reversed__", some "($self, /)", some "Return a reverse iterator over the list."⟩,
    ⟨.method, "__sizeof__", some "($self, /)",
      some "Return the size of the list in memory, in bytes."⟩,
    ⟨.method, "clear", some "($self, /)", some "Remove all items from list."⟩,
    ⟨.method, "copy", some "($self, /)", some "Return a shallow copy of the list."⟩,
    ⟨.method, "append", some "($self, object, /)", some "Append object to the end of the list."⟩,
    ⟨.method, "insert", some "($self, index, object, /)", some "Insert object before index."⟩,
    ⟨.method, "extend", some "($self, iterable, /)",
      some "Extend list by appending elements from the iterable."⟩,
    ⟨.method, "pop", some "($self, index=-1, /)",
      some <| "Remove and return item at index (default last).\n" ++
        "\nRaises IndexError if list is empty or index is out of range."⟩,
    ⟨.method, "remove", some "($self, value, /)",
      some "Remove first occurrence of value.\n\nRaises ValueError if the value is not present."⟩,
    ⟨.method, "index", some "($self, value, start=0, stop=sys.maxsize, /)",
      some "Return first index of value.\n\nRaises ValueError if the value is not present."⟩,
    ⟨.method, "count", some "($self, value, /)", some "Return number of occurrences of value."⟩,
    ⟨.method, "reverse", some "($self, /)", some "Reverse *IN PLACE*."⟩,
    ⟨.method, "sort", some "($self, /, *, key=None, reverse=False)",
      some <| "Sort the list in ascending order and return None.\n" ++
        "\nThe sort is in-place (i.e. the list itself is modified) and stable (i.e. the\n" ++
        "order of two equal elements is maintained).\n\n" ++
        "If a key function is given, apply it once to each list item and sort them,\n" ++
        "ascending or descending, according to their function values.\n" ++
        "\nThe reverse flag can be set to sort in descending order."⟩,
    ⟨.kindMethod, "__class_getitem__", none, some "See PEP 585"⟩
  ]

/-- What is listed of tables. -/
def ofTable : List Entry :=
  [
    ⟨.function, "__new__", some "($type, *args, **kwargs)",
      some "Create and return a new object.  See help(type) for accurate signature."⟩,
    ⟨.operator, "__repr__", some "($self, /)", some "Return repr(self)."⟩,
    ⟨.absent, "__hash__", none, none⟩,
    ⟨.operator, "__getattribute__", some "($self, name, /)", some "Return getattr(self, name)."⟩,
    ⟨.operator, "__lt__", some "($self, value, /)", some "Return self<value."⟩,
    ⟨.operator, "__le__", some "($self, value, /)", some "Return self<=value."⟩,
    ⟨.operator, "__eq__", some "($self, value, /)", some "Return self==value."⟩,
    ⟨.operator, "__ne__", some "($self, value, /)", some "Return self!=value."⟩,
    ⟨.operator, "__gt__", some "($self, value, /)", some "Return self>value."⟩,
    ⟨.operator, "__ge__", some "($self, value, /)", some "Return self>=value."⟩,
    ⟨.operator, "__iter__", some "($self, /)", some "Implement iter(self)."⟩,
    ⟨.operator, "__init__", some "($self, /, *args, **kwargs)",
      some "Initialize self.  See help(type(self)) for accurate signature."⟩,
    ⟨.operator, "__or__", some "($self, value, /)", some "Return self|value."⟩,
    ⟨.operator, "__ror__", some "($self, value, /)", some "Return value|self."⟩,
    ⟨.operator, "__ior__", some "($self, value, /)", some "Return self|=value."⟩,
    ⟨.operator, "__len__", some "($self, /)", some "Return len(self)."⟩,
    ⟨.method, "__getitem__", none, some "x.__getitem__(y) <==> x[y]"⟩,
    ⟨.operator, "__setitem__", some "($self, key, value, /)", some "Set self[key] to value."⟩,
    ⟨.operator, "__delitem__", some "($self, key, /)", some "Delete self[key]."⟩,
    ⟨.method, "__contains__", some "($self, key, /)",
      some "True if the dictionary has the specified key, else False."⟩,
    ⟨.method, "__sizeof__", none, some "D.__sizeof__() -> size of D in memory, in bytes"⟩,
    ⟨.method, "get", some "($self, key, default=None, /)",
      some "Return the value for key if key is in the dictionary, else default."⟩,
    ⟨.method, "setdefault", some "($self, key, default=None, /)",
      some <| "Insert key with a value of default if key is not in the dictionary.\n" ++
        "\nReturn the value for key if key is in the dictionary, else default."⟩,
    ⟨.method, "pop", some "($self, key, default=<unrepresentable>, /)",
      some <| "D.pop(k[,d]) -> v, remove specified key and return the corresponding value.\n" ++
        "\nIf the key is not found, return the default if given; otherwise,\n" ++
        "raise a KeyError."⟩,
    ⟨.method, "popitem", some "($self, /)",
      some <| "Remove and return a (key, value) pair as a 2-tuple.\n" ++
        "\nPairs are returned in LIFO (last-in, first-out) order.\n" ++
        "Raises KeyError if the dict is empty."⟩,
    ⟨.method, "keys", none, some "D.keys() -> a set-like object providing a view on D's keys"⟩,
    ⟨.method, "items", none, some "D.items() -> a set-like object providing a view on D's items"⟩,
    ⟨.method, "values", none, some "D.values() -> an object providing a view on D's values"⟩,
    ⟨.method, "update", none,
      some <| "D.update([E, ]**F) -> None.  Update D from dict/iterable E and F.\n" ++
        "If E is present and has a .keys() method, then does:  for k in E: D[k] = E[k]\n" ++
        "If E is present and lacks a .keys() method, then does:  for k, v in E: D[k] = v\n" ++
        "In either case, this is followed by: for k in F:  D[k] = F[k]"⟩,
    ⟨.kindMethod, "fromkeys", some "($type, iterable, value=None, /)",
      some "Create a new dictionary with keys from iterable and values set to value."⟩,
    ⟨.method, "clear", none, some "D.clear() -> None.  Remove all items from D."⟩,
    ⟨.method, "copy", none, some "D.copy() -> a shallow copy of D"⟩,
    ⟨.method, "__reversed__", some "($self, /)",
      some "Return a reverse iterator over the dict keys."⟩,
    ⟨.kindMethod, "__class_getitem__", none, some "See PEP 585"⟩
  ]

/-- What is listed of tuples. -/
def ofTuple : List Entry :=
  [
    ⟨.function, "__new__", some "($type, *args, **kwargs)",
      some "Create and return a new object.  See help(type) for accurate signature."⟩,
    ⟨.operator, "__repr__", some "($self, /)", some "Return repr(self)."⟩,
    ⟨.operator, "__hash__", some "($self, /)", some "Return hash(self)."⟩,
    ⟨.operator, "__getattribute__", some "($self, name, /)", some "Return getattr(self, name)."⟩,
    ⟨.operator, "__lt__", some "($self, value, /)", some "Return self<value."⟩,
    ⟨.operator, "__le__", some "($self, value, /)", some "Return self<=value."⟩,
    ⟨.operator, "__eq__", some "($self, value, /)", some "Return self==value."⟩,
    ⟨.operator, "__ne__", some "($self, value, /)", some "Return self!=value."⟩,
    ⟨.operator, "__gt__", some "($self, value, /)", some "Return self>value."⟩,
    ⟨.operator, "__ge__", some "($self, value, /)", some "Return self>=value."⟩,
    ⟨.operator, "__iter__", some "($self, /)", some "Implement iter(self)."⟩,
    ⟨.operator, "__len__", some "($self, /)", some "Return len(self)."⟩,
    ⟨.operator, "__getitem__", some "($self, key, /)", some "Return self[key]."⟩,
    ⟨.operator, "__add__", some "($self, value, /)", some "Return self+value."⟩,
    ⟨.operator, "__mul__", some "($self, value, /)", some "Return self*value."⟩,
    ⟨.operator, "__rmul__", some "($self, value, /)", some "Return value*self."⟩,
    ⟨.operator, "__contains__", some "($self, key, /)", some "Return key in self."⟩,
    ⟨.method, "__getnewargs__", some "($self, /)", none⟩,
    ⟨.method, "index", some "($self, value, start=0, stop=sys.maxsize, /)",
      some "Return first index of value.\n\nRaises ValueError if the value is not present."⟩,
    ⟨.method, "count", some "($self, value, /)", some "Return number of occurrences of value."⟩,
    ⟨.kindMethod, "__class_getitem__", none, some "See PEP 585"⟩
  ]

/-- What is listed of kinds with parameters. -/
def ofAlias : List Entry :=
  [
    ⟨.function, "__new__", some "($type, *args, **kwargs)",
      some "Create and return a new object.  See help(type) for accurate signature."⟩,
    ⟨.operator, "__repr__", some "($self, /)", some "Return repr(self)."⟩,
    ⟨.operator, "__hash__", some "($self, /)", some "Return hash(self)."⟩,
    ⟨.operator, "__call__", some "($self, /, *args, **kwargs)", some "Call self as a function."⟩,
    ⟨.operator, "__getattribute__", some "($self, name, /)", some "Return getattr(self, name)."⟩,
    ⟨.operator, "__lt__", some "($self, value, /)", some "Return self<value."⟩,
    ⟨.operator, "__le__", some "($self, value, /)", some "Return self<=value."⟩,
    ⟨.operator, "__eq__", some "($self, value, /)", some "Return self==value."⟩,
    ⟨.operator, "__ne__", some "($self, value, /)", some "Return self!=value."⟩,
    ⟨.operator, "__gt__", some "($self, value, /)", some "Return self>value."⟩,
    ⟨.operator, "__ge__", some "($self, value, /)", some "Return self>=value."⟩,
    ⟨.operator, "__iter__", some "($self, /)", some "Implement iter(self)."⟩,
    ⟨.operator, "__or__", some "($self, value, /)", some "Return self|value."⟩,
    ⟨.operator, "__ror__", some "($self, value, /)", some "Return value|self."⟩,
    ⟨.operator, "__getitem__", some "($self, key, /)", some "Return self[key]."⟩,
    ⟨.method, "__mro_entries__", none, none⟩,
    ⟨.method, "__instancecheck__", none, none⟩,
    ⟨.method, "__subclasscheck__", none, none⟩,
    ⟨.method, "__reduce__", none, none⟩,
    ⟨.method, "__dir__", none, none⟩,
    ⟨.member, "__origin__", none, none⟩,
    ⟨.member, "__args__", none, none⟩,
    ⟨.member, "__unpacked__", none, none⟩,
    ⟨.property, "__parameters__", none, some "Type variables in the GenericAlias."⟩,
    ⟨.property, "__typing_unpacked_tuple_args__", none, none⟩
  ]

/-- What is listed of what kinds list. -/
def ofContents : List Entry :=
  [
    ⟨.function, "__new__", some "($type, *args, **kwargs)",
      some "Create and return a new object.  See help(type) for accurate signature."⟩,
    ⟨.operator, "__repr__", some "($self, /)", some "Return repr(self)."⟩,
    ⟨.operator, "__str__", some "($self, /)", some "Return str(self)."⟩,
    ⟨.operator, "__getattribute__", some "($self, name, /)", some "Return getattr(self, name)."⟩,
    ⟨.operator, "__lt__", some "($self, value, /)", some "Return self<value."⟩,
    ⟨.operator, "__le__", some "($self, value, /)", some "Return self<=value."⟩,
    ⟨.operator, "__eq__", some "($self, value, /)", some "Return self==value."⟩,
    ⟨.operator, "__ne__", some "($self, value, /)", some "Return self!=value."⟩,
    ⟨.operator, "__gt__", some "($self, value, /)", some "Return self>value."⟩,
    ⟨.operator, "__ge__", some "($self, value, /)", some "Return self>=value."⟩,
    ⟨.operator, "__iter__", some "($self, /)", some "Implement iter(self)."⟩,
    ⟨.operator, "__or__", some "($self, value, /)", some "Return self|value."⟩,
    ⟨.operator, "__ror__", some "($self, value, /)", some "Return value|self."⟩,
    ⟨.operator, "__ior__", some "($self, value, /)", some "Return self|=value."⟩,
    ⟨.operator, "__len__", some "($self, /)", some "Return len(self)."⟩,
    ⟨.operator, "__getitem__", some "($self, key, /)", some "Return self[key]."⟩,
    ⟨.operator, "__contains__", some "($self, key, /)", some "Return key in self."⟩,
    ⟨.method, "get", none, some "D.get(k[,d]) -> D[k] if k in D, else d.  d defaults to None."⟩,
    ⟨.method, "keys", none, some "D.keys() -> a set-like object providing a view on D's keys"⟩,
    ⟨.method, "values", none, some "D.values() -> an object providing a view on D's values"⟩,
    ⟨.method, "items", none, some "D.items() -> a set-like object providing a view on D's items"⟩,
    ⟨.method, "copy", none, some "D.copy() -> a shallow copy of D"⟩,
    ⟨.kindMethod, "__class_getitem__", none, some "See PEP 585"⟩,
    ⟨.method, "__reversed__", none, some "D.__reversed__() -> reverse iterator"⟩,
    ⟨.absent, "__hash__", none, none⟩
  ]

end TypstFences.Template.Manual
