import TypeProjection.Annotation.Value

/-!
The library: the classes, special words and generic names that every module can reach, with what is
known of each class. The tables hold what an annotation can observe: bases, how arguments are taken,
which methods are abstract, and which concrete methods stand in for abstract ones.
-/

namespace TypeProjection.Annotation

/-- How a class takes arguments. -/
inductive Subscription where
  /-- Any arguments, kept as they are. -/
  | native
  /-- One argument for each type parameter. -/
  | generic
  /-- A type and notes on it. -/
  | annotated
  /-- The type of a constructor parameter. -/
  | initVar
  /-- Parameters and a result. -/
  | callable
  deriving DecidableEq, Repr

/-- The class of a class. -/
inductive Metaclass where
  | plain
  | abstract
  | protocol
  | laterProtocol
  | model
  | enumeration
  | anything
  | typedDict
  | namedTuple
  deriving DecidableEq, Repr

namespace Metaclass

/-- Does a metaclass derive from another? -/
def derives : Metaclass → Metaclass → Bool
  | _, .plain => true
  | .protocol, .abstract | .laterProtocol, .abstract | .model, .abstract => true
  | .laterProtocol, .protocol => true
  | m, n => m == n

/-- Does the metaclass keep track of abstract methods? -/
def tracksAbstract (m : Metaclass) : Bool := m.derives .abstract

end Metaclass

/-- A class of the library. -/
structure LibraryClass where
  module : String
  name : String
  bases : List ClassRef := [.root]
  subscription : Option Subscription := none
  metaclass : Metaclass := .plain
  isProtocol : Bool := false
  /-- The methods that a subclass has to define. -/
  abstracts : List String := []
  /-- The methods that stand in for abstract ones. -/
  concrete : List String := []
  /-- Can nothing derive from the class? -/
  isFinal : Bool := false

/-- A class that needs no import. -/
def builtin (name : String) : ClassRef := .library "builtins" name

/-- An abstract container. -/
def container (name : String) : ClassRef := .library "collections.abc" name

/-- The classes that need no import. -/
def builtinClasses : List LibraryClass := [
  { module := "builtins", name := "bool", bases := [builtin "int"], isFinal := true },
  { module := "builtins", name := "int",
      concrete := ["__abs__", "__float__", "__hash__", "__index__", "__int__", "__round__"] },
  { module := "builtins", name := "object", bases := [], concrete := ["__hash__"] },
  { module := "builtins", name := "memoryview",
      concrete := ["__delitem__", "__exit__", "__getitem__", "__hash__", "__iter__", "__len__",
        "__setitem__"],
      isFinal := true },
  { module := "builtins", name := "bytearray",
      concrete := ["__contains__", "__delitem__", "__getitem__", "__hash__", "__iter__",
        "__len__", "__setitem__", "insert"] },
  { module := "builtins", name := "bytes",
      concrete := ["__bytes__", "__contains__", "__getitem__", "__hash__", "__iter__", "__len__"] },
  { module := "builtins", name := "classmethod" },
  { module := "builtins", name := "complex", concrete := ["__abs__", "__complex__", "__hash__"] },
  { module := "builtins", name := "dict", subscription := some .native,
      concrete := ["__contains__", "__delitem__", "__getitem__", "__hash__", "__iter__",
        "__len__", "__reversed__", "__setitem__"] },
  { module := "builtins", name := "enumerate", subscription := some .native,
      concrete := ["__iter__", "__next__"] },
  { module := "builtins", name := "filter", concrete := ["__iter__", "__next__"] },
  { module := "builtins", name := "float",
      concrete := ["__abs__", "__float__", "__hash__", "__int__", "__round__"] },
  { module := "builtins", name := "frozenset", subscription := some .native,
      concrete := ["__contains__", "__hash__", "__iter__", "__len__"] },
  { module := "builtins", name := "property" },
  { module := "builtins", name := "list", subscription := some .native,
      concrete := ["__contains__", "__delitem__", "__getitem__", "__hash__", "__iter__",
        "__len__", "__reversed__", "__setitem__", "insert"] },
  { module := "builtins", name := "map", concrete := ["__iter__", "__next__"] },
  { module := "builtins", name := "range",
      concrete := ["__contains__", "__getitem__", "__hash__", "__iter__", "__len__",
        "__reversed__"],
      isFinal := true },
  { module := "builtins", name := "reversed", concrete := ["__iter__", "__next__"] },
  { module := "builtins", name := "set", subscription := some .native,
      concrete := ["__contains__", "__hash__", "__iter__", "__len__", "add", "discard"] },
  { module := "builtins", name := "slice", concrete := ["__hash__"], isFinal := true },
  { module := "builtins", name := "staticmethod", concrete := ["__call__"] },
  { module := "builtins", name := "str",
      concrete := ["__contains__", "__getitem__", "__hash__", "__iter__", "__len__"] },
  { module := "builtins", name := "super" },
  { module := "builtins", name := "tuple", subscription := some .native,
      concrete := ["__contains__", "__getitem__", "__hash__", "__iter__", "__len__"] },
  { module := "builtins", name := "type", subscription := some .native, concrete := ["__call__"] },
  { module := "builtins", name := "zip", concrete := ["__iter__", "__next__"] },
  { module := "builtins", name := "BaseExceptionGroup", bases := [builtin "BaseException"],
      subscription := some .native },
  { module := "builtins", name := "ExceptionGroup",
      bases := [builtin "BaseExceptionGroup", builtin "Exception"] },
  { module := "builtins", name := "NoneType", isFinal := true },
  { module := "builtins", name := "ellipsis", isFinal := true },
  { module := "builtins", name := "NotImplementedType", isFinal := true }]

/-- The exceptions that need no import, each with its base. -/
def exceptionBases : List (String × String) := [
  ("BaseException", "object"), ("Exception", "BaseException"), ("GeneratorExit", "BaseException"),
  ("KeyboardInterrupt", "BaseException"), ("SystemExit", "BaseException"),
  ("ArithmeticError", "Exception"), ("AssertionError", "Exception"),
  ("AttributeError", "Exception"), ("BufferError", "Exception"), ("EOFError", "Exception"),
  ("ImportError", "Exception"), ("LookupError", "Exception"), ("MemoryError", "Exception"),
  ("NameError", "Exception"), ("OSError", "Exception"), ("ReferenceError", "Exception"),
  ("RuntimeError", "Exception"), ("StopAsyncIteration", "Exception"),
  ("StopIteration", "Exception"), ("SyntaxError", "Exception"), ("SystemError", "Exception"),
  ("TypeError", "Exception"), ("ValueError", "Exception"), ("Warning", "Exception"),
  ("FloatingPointError", "ArithmeticError"), ("OverflowError", "ArithmeticError"),
  ("ZeroDivisionError", "ArithmeticError"), ("BytesWarning", "Warning"),
  ("DeprecationWarning", "Warning"), ("EncodingWarning", "Warning"), ("FutureWarning", "Warning"),
  ("ImportWarning", "Warning"), ("PendingDeprecationWarning", "Warning"),
  ("ResourceWarning", "Warning"), ("RuntimeWarning", "Warning"), ("SyntaxWarning", "Warning"),
  ("UnicodeWarning", "Warning"), ("UserWarning", "Warning"), ("BlockingIOError", "OSError"),
  ("ChildProcessError", "OSError"), ("ConnectionError", "OSError"),
  ("FileExistsError", "OSError"), ("FileNotFoundError", "OSError"),
  ("InterruptedError", "OSError"), ("IsADirectoryError", "OSError"),
  ("NotADirectoryError", "OSError"), ("PermissionError", "OSError"),
  ("ProcessLookupError", "OSError"), ("TimeoutError", "OSError"),
  ("IndentationError", "SyntaxError"), ("IndexError", "LookupError"), ("KeyError", "LookupError"),
  ("ModuleNotFoundError", "ImportError"), ("NotImplementedError", "RuntimeError"),
  ("RecursionError", "RuntimeError"), ("UnboundLocalError", "NameError"),
  ("UnicodeError", "ValueError"), ("BrokenPipeError", "ConnectionError"),
  ("ConnectionAbortedError", "ConnectionError"), ("ConnectionRefusedError", "ConnectionError"),
  ("ConnectionResetError", "ConnectionError"), ("TabError", "IndentationError"),
  ("UnicodeDecodeError", "UnicodeError"), ("UnicodeEncodeError", "UnicodeError"),
  ("UnicodeTranslateError", "UnicodeError")]

/-- The concrete containers. -/
def collectionClasses : List LibraryClass := [
  { module := "collections", name := "deque", subscription := some .native,
      concrete := ["__contains__", "__delitem__", "__getitem__", "__hash__", "__iter__",
        "__len__", "__reversed__", "__setitem__", "insert"] },
  { module := "collections", name := "defaultdict", bases := [builtin "dict"],
      subscription := some .native },
  { module := "collections", name := "OrderedDict", bases := [builtin "dict"],
      concrete := ["__delitem__", "__hash__", "__iter__", "__reversed__", "__setitem__"] },
  { module := "collections", name := "Counter", bases := [builtin "dict"],
      concrete := ["__delitem__", "__hash__"] },
  { module := "collections", name := "ChainMap", bases := [container "MutableMapping"],
      metaclass := .abstract,
      concrete := ["__contains__", "__delitem__", "__getitem__", "__iter__", "__len__",
        "__setitem__"] },
  { module := "collections", name := "UserDict", bases := [container "MutableMapping"],
      metaclass := .abstract,
      concrete := ["__contains__", "__delitem__", "__getitem__", "__iter__", "__len__",
        "__setitem__"] },
  { module := "collections", name := "UserList", bases := [container "MutableSequence"],
      metaclass := .abstract,
      concrete := ["__contains__", "__delitem__", "__getitem__", "__hash__", "__len__",
        "__setitem__", "insert"] },
  { module := "collections", name := "UserString", bases := [container "Sequence"],
      metaclass := .abstract,
      concrete := ["__complex__", "__contains__", "__float__", "__getitem__", "__hash__",
        "__int__", "__len__"] }]

/-- The abstract containers. -/
def containerClasses : List LibraryClass := [
  { module := "collections.abc", name := "MutableMapping", bases := [container "Mapping"],
      metaclass := .abstract,
      abstracts := ["__delitem__", "__getitem__", "__iter__", "__len__", "__setitem__"] },
  { module := "collections.abc", name := "Mapping", bases := [container "Collection"],
      metaclass := .abstract, abstracts := ["__getitem__", "__iter__", "__len__"],
      concrete := ["__contains__", "__hash__", "__reversed__"] },
  { module := "collections.abc", name := "Collection",
      bases := [container "Sized", container "Iterable", container "Container"],
      metaclass := .abstract, abstracts := ["__contains__", "__iter__", "__len__"] },
  { module := "collections.abc", name := "Sized", metaclass := .abstract,
      abstracts := ["__len__"] },
  { module := "collections.abc", name := "Iterable", subscription := some .native,
      metaclass := .abstract, abstracts := ["__iter__"] },
  { module := "collections.abc", name := "Container", subscription := some .native,
      metaclass := .abstract, abstracts := ["__contains__"] },
  { module := "collections.abc", name := "MutableSequence", bases := [container "Sequence"],
      metaclass := .abstract,
      abstracts := ["__delitem__", "__getitem__", "__len__", "__setitem__", "insert"] },
  { module := "collections.abc", name := "Sequence",
      bases := [container "Reversible", container "Collection"], metaclass := .abstract,
      abstracts := ["__getitem__", "__len__"],
      concrete := ["__contains__", "__iter__", "__reversed__"] },
  { module := "collections.abc", name := "Reversible", bases := [container "Iterable"],
      metaclass := .abstract, abstracts := ["__iter__", "__reversed__"] },
  { module := "collections.abc", name := "Awaitable", subscription := some .native,
      metaclass := .abstract, abstracts := ["__await__"] },
  { module := "collections.abc", name := "Coroutine", bases := [container "Awaitable"],
      metaclass := .abstract, abstracts := ["__await__", "send", "throw"] },
  { module := "collections.abc", name := "AsyncIterable", subscription := some .native,
      metaclass := .abstract, abstracts := ["__aiter__"] },
  { module := "collections.abc", name := "AsyncIterator", bases := [container "AsyncIterable"],
      metaclass := .abstract, abstracts := ["__anext__"], concrete := ["__aiter__"] },
  { module := "collections.abc", name := "AsyncGenerator", bases := [container "AsyncIterator"],
      metaclass := .abstract, abstracts := ["asend", "athrow"], concrete := ["__anext__"] },
  { module := "collections.abc", name := "Hashable", metaclass := .abstract,
      abstracts := ["__hash__"] },
  { module := "collections.abc", name := "Iterator", bases := [container "Iterable"],
      metaclass := .abstract, abstracts := ["__next__"], concrete := ["__iter__"] },
  { module := "collections.abc", name := "Generator", bases := [container "Iterator"],
      metaclass := .abstract, abstracts := ["send", "throw"], concrete := ["__next__"] },
  { module := "collections.abc", name := "Callable", subscription := some .callable,
      metaclass := .abstract, abstracts := ["__call__"] },
  { module := "collections.abc", name := "Set", bases := [container "Collection"],
      metaclass := .abstract, abstracts := ["__contains__", "__iter__", "__len__"],
      concrete := ["__hash__"] },
  { module := "collections.abc", name := "MutableSet", bases := [container "Set"],
      metaclass := .abstract,
      abstracts := ["__contains__", "__iter__", "__len__", "add", "discard"] },
  { module := "collections.abc", name := "MappingView", bases := [container "Sized"],
      subscription := some .native, metaclass := .abstract, concrete := ["__len__"] },
  { module := "collections.abc", name := "KeysView",
      bases := [container "MappingView", container "Set"], metaclass := .abstract,
      concrete := ["__contains__", "__iter__"] },
  { module := "collections.abc", name := "ItemsView",
      bases := [container "MappingView", container "Set"], metaclass := .abstract,
      concrete := ["__contains__", "__iter__"] },
  { module := "collections.abc", name := "ValuesView",
      bases := [container "MappingView", container "Collection"], metaclass := .abstract,
      concrete := ["__contains__", "__iter__"] },
  { module := "collections.abc", name := "ByteString", bases := [container "Sequence"],
      metaclass := .abstract, abstracts := ["__getitem__", "__len__"] }]

/-- The classes of all other modules. -/
def moduleClasses : List LibraryClass := [
  { module := "datetime", name := "timedelta" },
  { module := "datetime", name := "date" },
  { module := "datetime", name := "tzinfo" },
  { module := "datetime", name := "time" },
  { module := "datetime", name := "datetime", bases := [.library "datetime" "date"] },
  { module := "datetime", name := "timezone", bases := [.library "datetime" "tzinfo"],
      isFinal := true },
  { module := "decimal", name := "Decimal" },
  { module := "decimal", name := "Context" },
  { module := "decimal", name := "DecimalTuple", bases := [builtin "tuple"] },
  { module := "decimal", name := "DecimalException", bases := [builtin "ArithmeticError"] },
  { module := "decimal", name := "Clamped", bases := [.library "decimal" "DecimalException"] },
  { module := "decimal", name := "Rounded", bases := [.library "decimal" "DecimalException"] },
  { module := "decimal", name := "Inexact", bases := [.library "decimal" "DecimalException"] },
  { module := "decimal", name := "Subnormal", bases := [.library "decimal" "DecimalException"] },
  { module := "decimal", name := "Underflow",
      bases := [.library "decimal" "Inexact", .library "decimal" "Rounded",
        .library "decimal" "Subnormal"] },
  { module := "decimal", name := "Overflow",
      bases := [.library "decimal" "Inexact", .library "decimal" "Rounded"] },
  { module := "decimal", name := "DivisionByZero",
      bases := [.library "decimal" "DecimalException", builtin "ZeroDivisionError"] },
  { module := "decimal", name := "FloatOperation",
      bases := [.library "decimal" "DecimalException", builtin "TypeError"] },
  { module := "decimal", name := "InvalidOperation",
      bases := [.library "decimal" "DecimalException"] },
  { module := "decimal", name := "ConversionSyntax",
      bases := [.library "decimal" "InvalidOperation"] },
  { module := "decimal", name := "DivisionImpossible",
      bases := [.library "decimal" "InvalidOperation"] },
  { module := "decimal", name := "DivisionUndefined",
      bases := [.library "decimal" "InvalidOperation", builtin "ZeroDivisionError"] },
  { module := "decimal", name := "InvalidContext",
      bases := [.library "decimal" "InvalidOperation"] },
  { module := "types", name := "DynamicClassAttribute" },
  { module := "types", name := "GenericAlias" },
  { module := "types", name := "UnionType", isFinal := true },
  { module := "enum", name := "Enum", metaclass := .enumeration },
  { module := "enum", name := "Flag", bases := [.library "enum" "Enum"],
      metaclass := .enumeration },
  { module := "enum", name := "ReprEnum", bases := [.library "enum" "Enum"],
      metaclass := .enumeration },
  { module := "enum", name := "nonmember" },
  { module := "enum", name := "member" },
  { module := "enum", name := "auto" },
  { module := "enum", name := "property", bases := [.library "types" "DynamicClassAttribute"] },
  { module := "enum", name := "EnumType", bases := [builtin "type"] },
  { module := "enum", name := "IntEnum", bases := [builtin "int", .library "enum" "ReprEnum"],
      metaclass := .enumeration },
  { module := "enum", name := "StrEnum", bases := [builtin "str", .library "enum" "ReprEnum"],
      metaclass := .enumeration },
  { module := "enum", name := "FlagBoundary", bases := [.library "enum" "StrEnum"],
      metaclass := .enumeration },
  { module := "enum", name := "IntFlag",
      bases := [builtin "int", .library "enum" "ReprEnum", .library "enum" "Flag"],
      metaclass := .enumeration },
  { module := "enum", name := "EnumCheck", bases := [.library "enum" "StrEnum"],
      metaclass := .enumeration },
  { module := "enum", name := "verify" },
  { module := "uuid", name := "SafeUUID", bases := [.library "enum" "Enum"],
      metaclass := .enumeration },
  { module := "uuid", name := "UUID" },
  { module := "functools", name := "partial", subscription := some .native },
  { module := "functools", name := "partialmethod", subscription := some .native },
  { module := "functools", name := "singledispatchmethod" },
  { module := "functools", name := "cached_property", subscription := some .native },
  { module := "operator", name := "attrgetter", isFinal := true },
  { module := "operator", name := "itemgetter", isFinal := true },
  { module := "operator", name := "methodcaller", isFinal := true },
  { module := "dataclasses", name := "FrozenInstanceError", bases := [builtin "AttributeError"] },
  { module := "dataclasses", name := "InitVar", subscription := some .initVar },
  { module := "dataclasses", name := "Field", subscription := some .native },
  { module := "abc", name := "abstractclassmethod", bases := [builtin "classmethod"] },
  { module := "abc", name := "abstractstaticmethod", bases := [builtin "staticmethod"] },
  { module := "abc", name := "abstractproperty", bases := [builtin "property"] },
  { module := "abc", name := "ABCMeta", bases := [builtin "type"] },
  { module := "abc", name := "ABC", metaclass := .abstract },
  { module := "typing", name := "Any", metaclass := .anything },
  { module := "typing", name := "ForwardRef" },
  { module := "typing", name := "TypeVar" },
  { module := "typing", name := "TypeVarTuple" },
  { module := "typing", name := "ParamSpecArgs" },
  { module := "typing", name := "ParamSpecKwargs" },
  { module := "typing", name := "ParamSpec" },
  { module := "typing", name := "Generic", subscription := some .generic },
  { module := "typing", name := "Protocol", bases := [.library "typing" "Generic"],
      metaclass := .protocol, isProtocol := true },
  { module := "typing", name := "Annotated", subscription := some .annotated },
  { module := "typing", name := "SupportsInt", bases := [.library "typing" "Protocol"],
      metaclass := .protocol, isProtocol := true, abstracts := ["__int__"] },
  { module := "typing", name := "SupportsFloat", bases := [.library "typing" "Protocol"],
      metaclass := .protocol, isProtocol := true, abstracts := ["__float__"] },
  { module := "typing", name := "SupportsComplex", bases := [.library "typing" "Protocol"],
      metaclass := .protocol, isProtocol := true, abstracts := ["__complex__"] },
  { module := "typing", name := "SupportsBytes", bases := [.library "typing" "Protocol"],
      metaclass := .protocol, isProtocol := true, abstracts := ["__bytes__"] },
  { module := "typing", name := "SupportsIndex", bases := [.library "typing" "Protocol"],
      metaclass := .protocol, isProtocol := true, abstracts := ["__index__"] },
  { module := "typing", name := "SupportsAbs", bases := [.library "typing" "Protocol"],
      metaclass := .protocol, isProtocol := true, abstracts := ["__abs__"] },
  { module := "typing", name := "SupportsRound", bases := [.library "typing" "Protocol"],
      metaclass := .protocol, isProtocol := true, abstracts := ["__round__"] },
  { module := "typing", name := "NamedTupleMeta", bases := [builtin "type"] },
  { module := "typing", name := "NewType" },
  { module := "typing", name := "IO", bases := [.library "typing" "Generic"] },
  { module := "typing", name := "BinaryIO", bases := [.library "typing" "IO"] },
  { module := "typing", name := "TextIO", bases := [.library "typing" "IO"] },
  { module := "re", name := "Pattern", subscription := some .native, isFinal := true },
  { module := "re", name := "Match", subscription := some .native, isFinal := true },
  { module := "contextlib", name := "AbstractContextManager", bases := [.library "abc" "ABC"],
      subscription := some .native, metaclass := .abstract, abstracts := ["__exit__"] },
  { module := "contextlib", name := "AbstractAsyncContextManager",
      bases := [.library "abc" "ABC"], subscription := some .native, metaclass := .abstract,
      abstracts := ["__aexit__"] },
  { module := "typing_extensions", name := "Protocol", bases := [.library "typing" "Generic"],
      metaclass := .laterProtocol, isProtocol := true },
  { module := "pydantic.main", name := "BaseModel", metaclass := .model }]

/-- All classes of the library. -/
def libraryClasses : List LibraryClass :=
  builtinClasses ++
    exceptionBases.map (fun e =>
      { module := "builtins", name := e.1, bases := [builtin e.2] }) ++
    collectionClasses ++ containerClasses ++ moduleClasses

/-- The class of the library with a module and a name. -/
def libraryClass? (module name : String) : Option LibraryClass :=
  libraryClasses.find? fun c => c.name == name && c.module == module

/-- A generic name for a library class. `arity` is the number of arguments it takes, or nothing
if it takes any number. -/
structure GenericName where
  name : String
  origin : ClassRef
  arity : Option Nat

/-- The generic names, by the module of the classes they stand for. -/
def genericNames : List GenericName :=
  [("List", "list", 1), ("Dict", "dict", 2), ("Set", "set", 1), ("FrozenSet", "frozenset", 1),
    ("Type", "type", 1)].map (fun e => ⟨e.1, builtin e.2.1, some e.2.2⟩) ++
  [⟨"Tuple", builtin "tuple", none⟩] ++
  [("Deque", "deque", 1), ("DefaultDict", "defaultdict", 2), ("OrderedDict", "OrderedDict", 2),
    ("Counter", "Counter", 1), ("ChainMap", "ChainMap", 2)].map
    (fun e => ⟨e.1, .library "collections" e.2.1, some e.2.2⟩) ++
  [("Hashable", 0), ("Awaitable", 1), ("Coroutine", 3), ("AsyncIterable", 1),
    ("AsyncIterator", 1), ("Iterable", 1), ("Iterator", 1), ("Reversible", 1), ("Sized", 0),
    ("Container", 1), ("Collection", 1), ("Callable", 2), ("MutableSet", 1), ("Mapping", 2),
    ("MutableMapping", 2), ("Sequence", 1), ("MutableSequence", 1), ("ByteString", 0),
    ("MappingView", 1), ("KeysView", 1), ("ItemsView", 2), ("ValuesView", 1), ("Generator", 3),
    ("AsyncGenerator", 2)].map (fun e => ⟨e.1, container e.1, some e.2⟩) ++
  [⟨"AbstractSet", container "Set", some 1⟩,
    ⟨"Pattern", .library "re" "Pattern", some 1⟩,
    ⟨"Match", .library "re" "Match", some 1⟩,
    ⟨"ContextManager", .library "contextlib" "AbstractContextManager", some 1⟩,
    ⟨"AsyncContextManager", .library "contextlib" "AbstractAsyncContextManager", some 1⟩]

/-- What is known of a generic name. -/
def genericName? (name : String) : Option GenericName := genericNames.find? (·.name == name)

/-- The class that a generic name stands for. -/
def aliasOrigin (name : String) : ClassRef :=
  ((genericName? name).map GenericName.origin).getD .root

/-- The special words. -/
def specialForms : List String :=
  ["NoReturn", "Never", "Self", "LiteralString", "ClassVar", "Final", "Union", "Optional",
    "Literal", "TypeAlias", "Concatenate", "TypeGuard", "Unpack", "Required", "NotRequired"]

/-- The variance of a type variable. -/
inductive Variance where
  | invariant | covariant | contravariant
  deriving DecidableEq, Repr

/-- A type variable. -/
structure TypeVariable where
  name : String
  /-- The module that made it, in which its texts are evaluated. -/
  module : String
  variance : Variance
  bound : Option Value
  alternatives : List Value
  needsConstructor : Bool

/-- The type variables of the library; their serials are their places. -/
def libraryVariables : List TypeVariable :=
  let make (name : String) (variance : Variance) (bound : Option Value)
      (alternatives : List Value) : TypeVariable :=
    ⟨name, "typing", variance, bound, alternatives, false⟩
  [make "AnyStr" .invariant none [.cls (builtin "bytes"), .cls (builtin "str")],
    make "T_co" .covariant none [], make "T" .invariant none [], make "KT" .invariant none [],
    make "VT" .invariant none [], make "V_co" .covariant none [],
    make "VT_co" .covariant none [], make "T_contra" .contravariant none [],
    make "CT_co" .covariant (some (.cls (builtin "type"))) []]

/-- The type parameters of a library class. -/
def libraryParameters : ClassRef → List Value
  | .library "typing" "SupportsAbs" | .library "typing" "SupportsRound" => [.typeVar 1]
  | .library "typing" "IO" => [.typeVar 0]
  | _ => []

/-- The functions of the library, by module. -/
def libraryFunctions : List (String × List String) :=
  [("builtins", ["abs", "all", "any", "ascii", "bin", "breakpoint", "callable", "chr", "compile",
      "delattr", "dir", "divmod", "eval", "exec", "format", "getattr", "globals", "hasattr",
      "hash", "hex", "id", "input", "isinstance", "issubclass", "iter", "aiter", "len", "locals",
      "max", "min", "next", "anext", "oct", "ord", "pow", "print", "repr", "round", "setattr",
      "sorted", "sum", "vars"]),
    ("io", ["open"]),
    ("collections", ["namedtuple"]),
    ("abc", ["abstractmethod", "get_cache_token", "update_abstractmethods"]),
    ("dataclasses", ["dataclass", "field", "fields", "asdict", "astuple", "make_dataclass",
      "replace", "is_dataclass"]),
    ("decimal", ["getcontext", "setcontext", "localcontext"]),
    ("enum", ["unique", "global_enum", "show_flag_values"]),
    ("functools", ["wraps", "update_wrapper", "lru_cache", "cache", "reduce", "total_ordering",
      "singledispatch", "cmp_to_key"]),
    ("operator", ["or_", "and_", "add", "sub", "mul", "eq", "ne", "lt", "le", "gt", "ge",
      "getitem", "contains", "index", "neg", "not_", "truth"]),
    ("typing", ["NamedTuple", "TypedDict", "cast", "final", "get_args", "get_origin",
      "get_type_hints", "no_type_check", "overload", "runtime_checkable", "reveal_type",
      "assert_type", "assert_never", "is_typeddict", "dataclass_transform"]),
    ("uuid", ["uuid1", "uuid3", "uuid4", "uuid5", "getnode"])]

/-- The function of a module with a name. -/
def libraryFunction? (module name : String) : Option Value :=
  match libraryFunctions.lookup module with
  | some names => if names.contains name then some (.function module name) else none
  | none => none

/-- The class, special word or function of the module of special words. -/
def typingAttribute? (name : String) : Option Value :=
  if specialForms.contains name then some (.form name)
  else if (genericName? name).isSome then some (.alias name)
  else if name == "Text" then some (.cls (builtin "str"))
  else
    match libraryVariables.findIdx? (·.name == name) with
    | some i => some (.typeVar i)
    | none =>
      match libraryClass? "typing" name with
      | some c => some (.cls (.library c.module c.name))
      | none => libraryFunction? "typing" name

/-- The classes without a name in the module of builtins. -/
def hiddenClasses : List String := ["NoneType", "ellipsis", "NotImplementedType", "function"]

/-- What a name means that no module defines. -/
def builtinName? (name : String) : Option Value :=
  if name == "EnvironmentError" || name == "IOError" then some (.cls (builtin "OSError"))
  else if name == "Ellipsis" then some .ellipsis
  else if name == "open" then some (.function "io" "open")
  else if name == "NotImplemented" then some (.other "NotImplemented")
  else if name == "__debug__" then some (.bool true)
  else if hiddenClasses.contains name then none
  else
    match libraryClass? "builtins" name with
    | some _ => some (.cls (builtin name))
    | none => libraryFunction? "builtins" name

/-- The modules of the library that have a name in every module. -/
def libraryModules : List String :=
  ["abc", "builtins", "collections", "collections.abc", "dataclasses", "datetime", "decimal",
    "enum", "functools", "operator", "typing", "typing_extensions", "uuid"]

/-- An attribute of a library module. -/
def moduleAttribute? (module name : String) : Option Value :=
  if module == "builtins" then builtinName? name
  else if module == "typing" then typingAttribute? name
  else if module == "typing_extensions" then
    if name == "Protocol" then some (.cls (.library module name)) else typingAttribute? name
  else if module == "collections" && name == "abc" then some (.module "collections.abc")
  else if module == "enum" && name == "EnumMeta" then some (.cls (.library "enum" "EnumType"))
  else if module == "functools" && name == "GenericAlias" then
    some (.cls (.library "types" "GenericAlias"))
  else
    match libraryClass? module name with
    | some c => some (.cls (.library c.module c.name))
    | none => libraryFunction? module name

/-- What a statement that imports a name from a library module binds. -/
def imported (module name : String) : String × Value :=
  (name, (moduleAttribute? module name).getD .none)

/-- The names that every module starts with. -/
def preamble : List (String × Value) :=
  let modules (names : List String) : List (String × Value) := names.map fun n => (n, .module n)
  modules ["abc", "collections", "dataclasses", "datetime", "decimal", "enum", "functools",
      "operator", "typing"] ++
    [("t", .module "typing")] ++ modules ["uuid", "typing_extensions"] ++
    ["OrderedDict", "defaultdict", "deque", "Counter"].map (imported "collections") ++
    ["dataclass", "InitVar"].map (imported "dataclasses") ++
    [imported "decimal" "Decimal"] ++
    ["Annotated", "Any", "Callable", "ClassVar", "Dict", "Final", "FrozenSet", "Generic",
      "Iterable", "Iterator", "List", "Literal", "Mapping", "MutableMapping", "MutableSequence",
      "NamedTuple", "NewType", "Optional", "ParamSpec", "Protocol", "Sequence", "Set", "Tuple",
      "Type", "TypedDict", "TypeVar", "Union"].map (imported "typing") ++
    [("BaseModel", .cls (.library "pydantic.main" "BaseModel")),
      ("constructible", .function "tsgen.reflection" "constructible")]

end TypeProjection.Annotation
