import TypstFences.Template.Kind

/-!
# The manual of numbers

What numbers, truth values and nothing know to do, in the order in which it is listed.
-/

set_option autoImplicit false

namespace TypstFences.Template.Manual

/-- What is listed of whole numbers. -/
def ofInt : List Entry :=
  [
    ⟨.function, "__new__", some "($type, *args, **kwargs)",
      some "Create and return a new object.  See help(type) for accurate signature."⟩,
    ⟨.operator, "__repr__", some "($self, /)", some "Return repr(self)."⟩,
    ⟨.operator, "__hash__", some "($self, /)", some "Return hash(self)."⟩,
    ⟨.operator, "__getattribute__", some "($self, name, /)", some "Return getattr(self, name)."⟩,
    ⟨.operator, "__lt__", some "($self, value, /)", some "Return self<value."⟩,
    ⟨.operator, "__le__", some "($self, value, /)", some "Return self<=value."⟩,
    ⟨.operator, "__eq__", some "($self, value, /)", some "Return self==value."⟩,
    ⟨.operator, "__ne__", some "($self, value, /)", some "Return self!=value."⟩,
    ⟨.operator, "__gt__", some "($self, value, /)", some "Return self>value."⟩,
    ⟨.operator, "__ge__", some "($self, value, /)", some "Return self>=value."⟩,
    ⟨.operator, "__add__", some "($self, value, /)", some "Return self+value."⟩,
    ⟨.operator, "__radd__", some "($self, value, /)", some "Return value+self."⟩,
    ⟨.operator, "__sub__", some "($self, value, /)", some "Return self-value."⟩,
    ⟨.operator, "__rsub__", some "($self, value, /)", some "Return value-self."⟩,
    ⟨.operator, "__mul__", some "($self, value, /)", some "Return self*value."⟩,
    ⟨.operator, "__rmul__", some "($self, value, /)", some "Return value*self."⟩,
    ⟨.operator, "__mod__", some "($self, value, /)", some "Return self%value."⟩,
    ⟨.operator, "__rmod__", some "($self, value, /)", some "Return value%self."⟩,
    ⟨.operator, "__divmod__", some "($self, value, /)", some "Return divmod(self, value)."⟩,
    ⟨.operator, "__rdivmod__", some "($self, value, /)", some "Return divmod(value, self)."⟩,
    ⟨.operator, "__pow__", some "($self, value, mod=None, /)",
      some "Return pow(self, value, mod)."⟩,
    ⟨.operator, "__rpow__", some "($self, value, mod=None, /)",
      some "Return pow(value, self, mod)."⟩,
    ⟨.operator, "__neg__", some "($self, /)", some "-self"⟩,
    ⟨.operator, "__pos__", some "($self, /)", some "+self"⟩,
    ⟨.operator, "__abs__", some "($self, /)", some "abs(self)"⟩,
    ⟨.operator, "__bool__", some "($self, /)", some "True if self else False"⟩,
    ⟨.operator, "__invert__", some "($self, /)", some "~self"⟩,
    ⟨.operator, "__lshift__", some "($self, value, /)", some "Return self<<value."⟩,
    ⟨.operator, "__rlshift__", some "($self, value, /)", some "Return value<<self."⟩,
    ⟨.operator, "__rshift__", some "($self, value, /)", some "Return self>>value."⟩,
    ⟨.operator, "__rrshift__", some "($self, value, /)", some "Return value>>self."⟩,
    ⟨.operator, "__and__", some "($self, value, /)", some "Return self&value."⟩,
    ⟨.operator, "__rand__", some "($self, value, /)", some "Return value&self."⟩,
    ⟨.operator, "__xor__", some "($self, value, /)", some "Return self^value."⟩,
    ⟨.operator, "__rxor__", some "($self, value, /)", some "Return value^self."⟩,
    ⟨.operator, "__or__", some "($self, value, /)", some "Return self|value."⟩,
    ⟨.operator, "__ror__", some "($self, value, /)", some "Return value|self."⟩,
    ⟨.operator, "__int__", some "($self, /)", some "int(self)"⟩,
    ⟨.operator, "__float__", some "($self, /)", some "float(self)"⟩,
    ⟨.operator, "__floordiv__", some "($self, value, /)", some "Return self//value."⟩,
    ⟨.operator, "__rfloordiv__", some "($self, value, /)", some "Return value//self."⟩,
    ⟨.operator, "__truediv__", some "($self, value, /)", some "Return self/value."⟩,
    ⟨.operator, "__rtruediv__", some "($self, value, /)", some "Return value/self."⟩,
    ⟨.operator, "__index__", some "($self, /)",
      some <| "Return self converted to an integer, if self is suitable for use as an index into a " ++
        "list."⟩,
    ⟨.method, "conjugate", none, some "Returns self, the complex conjugate of any int."⟩,
    ⟨.method, "bit_length", some "($self, /)",
      some <| "Number of bits necessary to represent self in binary.\n" ++
        "\n>>> bin(37)\n'0b100101'\n>>> (37).bit_length()\n" ++
        "6"⟩,
    ⟨.method, "bit_count", some "($self, /)",
      some <| "Number of ones in the binary representation of the absolute value of self.\n" ++
        "\nAlso known as the population count.\n\n>>> bin(13)\n" ++
        "'0b1101'\n>>> (13).bit_count()\n3"⟩,
    ⟨.method, "to_bytes", some "($self, /, length=1, byteorder='big', *, signed=False)",
      some <| "Return an array of bytes representing an integer.\n" ++
        "\n  length\n    Length of bytes object to use.  An OverflowError is raised if the\n" ++
        "    integer is not representable with the given number of bytes.  Default\n" ++
        "    is length 1.\n  byteorder\n    The byte order used to represent the integer.  " ++
        "If byteorder is 'big',\n    the most significant byte is at the beginning of the " ++
        "byte array.  If\n    byteorder is 'little', the most significant byte is at the end " ++
        "of the\n    byte array.  To request the native byte order of the host system, use\n" ++
        "    `sys.byteorder' as the byte order value.  Default is to use 'big'.\n" ++
        "  signed\n    Determines whether two's complement is used to represent the integer." ++
        "\n    If signed is False and a negative integer is given, an OverflowError\n" ++
        "    is raised."⟩,
    ⟨.kindMethod, "from_bytes", some "($type, /, bytes, byteorder='big', *, signed=False)",
      some <| "Return the integer represented by the given array of bytes.\n" ++
        "\n  bytes\n    Holds the array of bytes to convert.  The argument must either\n" ++
        "    support the buffer protocol or be an iterable object producing bytes.\n" ++
        "    Bytes and bytearray are examples of built-in objects that support the\n" ++
        "    buffer protocol.\n  byteorder\n    The byte order used to represent the " ++
        "integer.  If byteorder is 'big',\n    the most significant byte is at the beginning " ++
        "of the byte array.  If\n    byteorder is 'little', the most significant byte is at " ++
        "the end of the\n    byte array.  To request the native byte order of the host " ++
        "system, use\n    `sys.byteorder' as the byte order value.  Default is to use 'big'." ++
        "\n  signed\n    Indicates whether two's complement is used to represent the integer."⟩,
    ⟨.method, "as_integer_ratio", some "($self, /)",
      some <| "Return integer ratio.\n\nReturn a pair of integers, whose ratio is exactly equal to " ++
        "the original int\nand with a positive denominator.\n" ++
        "\n>>> (10).as_integer_ratio()\n(10, 1)\n>>> (-10).as_integer_ratio()\n" ++
        "(-10, 1)\n>>> (0).as_integer_ratio()\n(0, 1)"⟩,
    ⟨.method, "__trunc__", none, some "Truncating an Integral returns itself."⟩,
    ⟨.method, "__floor__", none, some "Flooring an Integral returns itself."⟩,
    ⟨.method, "__ceil__", none, some "Ceiling of an Integral returns itself."⟩,
    ⟨.method, "__round__", some "($self, ndigits=<unrepresentable>, /)",
      some <| "Rounding an Integral returns itself.\n\nRounding with an ndigits argument also " ++
        "returns an integer."⟩,
    ⟨.method, "__getnewargs__", some "($self, /)", none⟩,
    ⟨.method, "__format__", some "($self, format_spec, /)", none⟩,
    ⟨.method, "__sizeof__", some "($self, /)", some "Returns size in memory, in bytes."⟩,
    ⟨.property, "real", none, some "the real part of a complex number"⟩,
    ⟨.property, "imag", none, some "the imaginary part of a complex number"⟩,
    ⟨.property, "numerator", none, some "the numerator of a rational number in lowest terms"⟩,
    ⟨.property, "denominator", none, some "the denominator of a rational number in lowest terms"⟩
  ]

/-- What is listed of numbers. -/
def ofReal : List Entry :=
  [
    ⟨.function, "__new__", some "($type, *args, **kwargs)",
      some "Create and return a new object.  See help(type) for accurate signature."⟩,
    ⟨.operator, "__repr__", some "($self, /)", some "Return repr(self)."⟩,
    ⟨.operator, "__hash__", some "($self, /)", some "Return hash(self)."⟩,
    ⟨.operator, "__getattribute__", some "($self, name, /)", some "Return getattr(self, name)."⟩,
    ⟨.operator, "__lt__", some "($self, value, /)", some "Return self<value."⟩,
    ⟨.operator, "__le__", some "($self, value, /)", some "Return self<=value."⟩,
    ⟨.operator, "__eq__", some "($self, value, /)", some "Return self==value."⟩,
    ⟨.operator, "__ne__", some "($self, value, /)", some "Return self!=value."⟩,
    ⟨.operator, "__gt__", some "($self, value, /)", some "Return self>value."⟩,
    ⟨.operator, "__ge__", some "($self, value, /)", some "Return self>=value."⟩,
    ⟨.operator, "__add__", some "($self, value, /)", some "Return self+value."⟩,
    ⟨.operator, "__radd__", some "($self, value, /)", some "Return value+self."⟩,
    ⟨.operator, "__sub__", some "($self, value, /)", some "Return self-value."⟩,
    ⟨.operator, "__rsub__", some "($self, value, /)", some "Return value-self."⟩,
    ⟨.operator, "__mul__", some "($self, value, /)", some "Return self*value."⟩,
    ⟨.operator, "__rmul__", some "($self, value, /)", some "Return value*self."⟩,
    ⟨.operator, "__mod__", some "($self, value, /)", some "Return self%value."⟩,
    ⟨.operator, "__rmod__", some "($self, value, /)", some "Return value%self."⟩,
    ⟨.operator, "__divmod__", some "($self, value, /)", some "Return divmod(self, value)."⟩,
    ⟨.operator, "__rdivmod__", some "($self, value, /)", some "Return divmod(value, self)."⟩,
    ⟨.operator, "__pow__", some "($self, value, mod=None, /)",
      some "Return pow(self, value, mod)."⟩,
    ⟨.operator, "__rpow__", some "($self, value, mod=None, /)",
      some "Return pow(value, self, mod)."⟩,
    ⟨.operator, "__neg__", some "($self, /)", some "-self"⟩,
    ⟨.operator, "__pos__", some "($self, /)", some "+self"⟩,
    ⟨.operator, "__abs__", some "($self, /)", some "abs(self)"⟩,
    ⟨.operator, "__bool__", some "($self, /)", some "True if self else False"⟩,
    ⟨.operator, "__int__", some "($self, /)", some "int(self)"⟩,
    ⟨.operator, "__float__", some "($self, /)", some "float(self)"⟩,
    ⟨.operator, "__floordiv__", some "($self, value, /)", some "Return self//value."⟩,
    ⟨.operator, "__rfloordiv__", some "($self, value, /)", some "Return value//self."⟩,
    ⟨.operator, "__truediv__", some "($self, value, /)", some "Return self/value."⟩,
    ⟨.operator, "__rtruediv__", some "($self, value, /)", some "Return value/self."⟩,
    ⟨.method, "conjugate", some "($self, /)",
      some "Return self, the complex conjugate of any float."⟩,
    ⟨.method, "__trunc__", some "($self, /)",
      some "Return the Integral closest to x between 0 and x."⟩,
    ⟨.method, "__floor__", some "($self, /)", some "Return the floor as an Integral."⟩,
    ⟨.method, "__ceil__", some "($self, /)", some "Return the ceiling as an Integral."⟩,
    ⟨.method, "__round__", some "($self, ndigits=None, /)",
      some <| "Return the Integral closest to x, rounding half toward even.\n" ++
        "\nWhen an argument is passed, work like built-in round(x, ndigits)."⟩,
    ⟨.method, "as_integer_ratio", some "($self, /)",
      some <| "Return integer ratio.\n\nReturn a pair of integers, whose ratio is exactly equal to " ++
        "the original float\nand with a positive denominator.\n" ++
        "\nRaise OverflowError on infinities and a ValueError on NaNs.\n" ++
        "\n>>> (10.0).as_integer_ratio()\n(10, 1)\n>>> (0.0).as_integer_ratio()\n" ++
        "(0, 1)\n>>> (-.25).as_integer_ratio()\n(-1, 4)"⟩,
    ⟨.kindMethod, "fromhex", some "($type, string, /)",
      some <| "Create a floating-point number from a hexadecimal string.\n" ++
        "\n>>> float.fromhex('0x1.ffffp10')\n2047.984375\n" ++
        ">>> float.fromhex('-0x1p-1074')\n-5e-324"⟩,
    ⟨.method, "hex", some "($self, /)",
      some <| "Return a hexadecimal representation of a floating-point number.\n" ++
        "\n>>> (-0.1).hex()\n'-0x1.999999999999ap-4'\n>>> 3.14159.hex()\n" ++
        "'0x1.921f9f01b866ep+1'"⟩,
    ⟨.method, "is_integer", some "($self, /)", some "Return True if the float is an integer."⟩,
    ⟨.method, "__getnewargs__", some "($self, /)", none⟩,
    ⟨.kindMethod, "__getformat__", some "($type, typestr, /)",
      some <| "You probably don't want to use this function.\n" ++
        "\n  typestr\n    Must be 'double' or 'float'.\n" ++
        "\nIt exists mainly to be used in Python's test suite.\n" ++
        "\nThis function returns whichever of 'unknown', 'IEEE, big-endian' or 'IEEE,\n" ++
        "little-endian' best describes the format of floating point numbers used by the\n" ++
        "C type named by typestr."⟩,
    ⟨.method, "__format__", some "($self, format_spec, /)",
      some "Formats the float according to format_spec."⟩,
    ⟨.property, "real", none, some "the real part of a complex number"⟩,
    ⟨.property, "imag", none, some "the imaginary part of a complex number"⟩
  ]

/-- What is listed of truth values. -/
def ofBool : List Entry :=
  [
    ⟨.function, "__new__", some "($type, *args, **kwargs)",
      some "Create and return a new object.  See help(type) for accurate signature."⟩,
    ⟨.operator, "__repr__", some "($self, /)", some "Return repr(self)."⟩,
    ⟨.operator, "__and__", some "($self, value, /)", some "Return self&value."⟩,
    ⟨.operator, "__rand__", some "($self, value, /)", some "Return value&self."⟩,
    ⟨.operator, "__xor__", some "($self, value, /)", some "Return self^value."⟩,
    ⟨.operator, "__rxor__", some "($self, value, /)", some "Return value^self."⟩,
    ⟨.operator, "__or__", some "($self, value, /)", some "Return self|value."⟩,
    ⟨.operator, "__ror__", some "($self, value, /)", some "Return value|self."⟩
  ]

/-- What is listed of nothing. -/
def ofNull : List Entry :=
  [
    ⟨.function, "__new__", some "($type, *args, **kwargs)",
      some "Create and return a new object.  See help(type) for accurate signature."⟩,
    ⟨.operator, "__repr__", some "($self, /)", some "Return repr(self)."⟩,
    ⟨.operator, "__bool__", some "($self, /)", some "True if self else False"⟩
  ]

end TypstFences.Template.Manual
