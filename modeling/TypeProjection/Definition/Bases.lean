import TypeProjection.Annotation.Evaluate

/-!
Bases: the classes that the values in a header stand for, the class of the new class, and the order
of attribute lookup. A generic name stands for the class behind it, and brings the base class of
generic classes with it unless a later base does.
-/

namespace TypeProjection.Definition

open Annotation

/-- What a value in a header stands for. -/
inductive Base where
  | cls (c : ClassRef)
  /-- The word that makes tuples with names. -/
  | namedTuple
  /-- The word that makes dictionaries with fixed keys. -/
  | typedDict
  deriving DecidableEq, Repr

/-- The class of a base, if it is one. -/
def Base.class? : Base → Option ClassRef
  | .cls c => some c
  | _ => none

/-- Is the value a generic name or made of one? -/
def isGenericAlias : Value → Bool
  | .applied _ _ _ | .alias _ | .formed _ _ | .union false _ | .annotated _ _ => true
  | _ => false

/-- Does the value derive from the base class of generic classes? -/
def isGenericClass (w : World) : Value → Bool
  | .cls c => w.derives c World.genericRoot
  | _ => false

/-- What a generic name stands for, before the later bases. -/
def aliasEntries (w : World) (all later : List Value) (origin : ClassRef) : List Base :=
  let own := if all.any (fun v => v.same (.cls origin)) then [] else [Base.cls origin]
  if later.any fun v => isGenericAlias v || isGenericClass w v then own
  else own ++ [.cls World.genericRoot]

/-- What the base class of generic classes with its variables stands for. -/
def genericEntries (all later : List Value) : List Base :=
  if all.any (fun v => v.same (.cls World.protocolRoot)) || later.any isGenericAlias then []
  else [.cls World.genericRoot]

/-- What cannot be a base. -/
def notSubclassable (w : World) (v : Value) : Fault :=
  .wrongType ("Cannot subclass " ++ w.shown v)

/-- What a value among the bases stands for, or nothing if it stands for itself. -/
def replacement (w : World) (all later : List Value) (v : Value) :
    Except Fault (Option (List Base)) :=
  match v with
  | .cls _ => .ok none
  | .applied "" c _ =>
    .ok (some (if c == World.genericRoot then genericEntries all later else [.cls c]))
  | .applied _ c _ => .ok (some (aliasEntries w all later c))
  | .alias name => .ok (some (aliasEntries w all later (aliasOrigin name)))
  | .native c _ => .ok (some [.cls c])
  | .looseCallable _ => .ok (some [.cls callableRoot])
  | .annotated (.cls c) _ => .ok (some [.cls c])
  | .function "typing" "NamedTuple" => .ok (some [.namedTuple])
  | .function "typing" "TypedDict" => .ok (some [.typedDict])
  | .form _ | .formed _ _ | .union false _ => .error (notSubclassable w v)
  | .newType _ =>
    .error (.wrongType ("Cannot subclass an instance of NewType. Perhaps you were looking for: " ++
      w.shown v))
  | _ =>
    .error (.wrongType ("bases must be types, not " ++ v.className w))

/-- The bases that values stand for, and whether any was replaced. -/
def entries (w : World) (all : List Value) : List Value → Except Fault (List Base × Bool)
  | [] => .ok ([], false)
  | v :: later => do
    let here ← replacement w all later v
    let (rest, changed) ← entries w all later
    match here, v with
    | some bs, _ => return (bs ++ rest, true)
    | none, .cls c => return (.cls c :: rest, changed)
    | none, _ => return (rest, changed)

/-- The class of a base. -/
def metaclassOfBase (w : World) : Base → Metaclass
  | .cls c => w.metaclassOf c
  | .namedTuple => .namedTuple
  | .typedDict => .typedDict

/-- The class of a new class: the one that derives from all others. -/
def chooseMetaclass (first : Metaclass) : List Metaclass → Except Fault Metaclass
  | [] => .ok first
  | m :: rest =>
    if first.derives m then chooseMetaclass first rest
    else if m.derives first then chooseMetaclass m rest
    else
      .error (.wrongType ("metaclass conflict: the metaclass of a derived class must be a " ++
        "(non-strict) subclass of the metaclasses of all its bases"))

/-- The library classes whose instances are laid out in a way of their own. -/
def layoutClasses : List ClassRef :=
  ["int", "str", "float", "complex", "bytes", "bytearray", "list", "tuple", "dict", "set",
    "frozenset", "type", "property", "BaseException", "OSError", "SyntaxError", "StopIteration",
    "SystemExit", "ImportError", "UnicodeDecodeError", "UnicodeEncodeError", "AttributeError",
    "NameError", "classmethod", "staticmethod", "super", "enumerate", "zip", "map", "filter",
    "reversed", "BaseExceptionGroup"].map builtin ++
  ["deque", "defaultdict", "OrderedDict"].map (ClassRef.library "collections") ++
  ["date", "datetime", "time", "timedelta", "tzinfo"].map (ClassRef.library "datetime") ++
  [.library "decimal" "Decimal", .library "functools" "partial", .library "uuid" "UUID"]

/-- The layout of a class's instances. -/
def layoutOf (w : World) (c : ClassRef) : Option ClassRef :=
  (w.ancestorsOf c).find? layoutClasses.contains

/-- Can two layouts be one? -/
def layoutsFit (w : World) (c d : ClassRef) : Bool :=
  match layoutOf w c, layoutOf w d with
  | some a, some b => w.derives a b || w.derives b a
  | _, _ => true

/-- The name of a class that cannot be derived from. -/
def finalName? : ClassRef → Option String
  | .library m n =>
    match libraryClass? m n with
    | some c =>
      if c.isFinal then
        some (if ["builtins", "typing", "enum"].contains m then n else m ++ "." ++ n)
      else none
    | none => none
  | .declared _ => none

/-- The first element that occurs again. -/
def repeated? : List ClassRef → Option ClassRef
  | [] => none
  | c :: rest => if rest.contains c then some c else repeated? rest

/-- The order of attribute lookup behind bases, after checks that they go together. -/
def lookupOrder (w : World) (bases : List ClassRef) : Except Fault (List ClassRef) := do
  match bases.findSome? finalName? with
  | some name =>
    .error (.wrongType ("type " ++ Text.display name ++ " is not an acceptable base type"))
  | none => pure ()
  match repeated? bases with
  | some c => .error (.wrongType ("duplicate base class " ++ w.nameOf c))
  | none => pure ()
  if bases.any fun c => bases.any fun d => !layoutsFit w c d then
    .error (.wrongType "multiple bases have instance lay-out conflict")
  else
    match World.orderOf? bases (bases.map w.ancestorsOf) with
    | some order => .ok order
    | none =>
      .error (.wrongType ("Cannot create a consistent method resolution\norder (MRO) for bases " ++
        String.intercalate ", " (bases.map w.nameOf)))

end TypeProjection.Definition
