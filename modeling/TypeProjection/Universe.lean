import TypeProjection.Literal
import TypeProjection.Primitive

/-!
A universe of types: what a provider answers when it is asked about one of its types. Everything
that follows asks these questions only, so a provider is free in how it represents types. Two types
are the same when `==` says so.

The two bounds serve walks over the universe: `extent` is at least the number of types that can be
supertypes, and `depth` at least the depth to which the questions of a walk can nest.
-/

namespace TypeProjection

/-- The answers of a provider about its types. -/
structure Universe (τ : Type) where
  /-- The qualified form, by which types are skipped and overridden. -/
  displayName : τ → String
  /-- The short name, by which a type is declared. -/
  name : τ → String
  isEnum : τ → Bool
  isInterface : τ → Bool
  isAbstract : τ → Bool
  /-- Can the fields of the type be projected into a declaration? -/
  isStructural : τ → Bool
  isParameter : τ → Bool
  /-- Does the type declare type parameters? -/
  isDefinition : τ → Bool
  /-- Is the type a generic one with its arguments? -/
  isConstructed : τ → Bool
  /-- Has every argument for the parameter a constructor without parameters? -/
  needsConstructor : τ → Bool
  primitive : τ → Option PrimitiveKind
  /-- The generic type that a constructed one was made of, and any other type itself. -/
  definition : τ → τ
  /-- The arguments of a constructed type, or the parameters of a definition. -/
  arguments : τ → List τ
  bounds : τ → List τ
  alternatives : τ → List τ
  /-- The base class, unless it is the root of all. -/
  base : τ → Option τ
  /-- The direct supertypes other than the base. -/
  interfaces : τ → List τ
  /-- The public fields and then the properties that the type itself declares. -/
  members : τ → List (String × τ)
  enumMembers : τ → List (String × Literal)
  /-- The element of a sequence. -/
  element : τ → Option τ
  /-- Key and value of a mapping. -/
  keyValue : τ → Option (τ × τ)
  /-- The elements of a tuple of fixed length. -/
  tuple : τ → Option (List τ)
  /-- The alternatives of a union. -/
  union : τ → List τ
  /-- What could not be resolved while the members were listed. -/
  memberNotes : τ → List String
  /-- What could not be resolved in a bound. -/
  boundNotes : τ → List String
  /-- What could not be resolved in an alternative. -/
  alternativeNotes : τ → List String
  extent : Nat
  depth : Nat

namespace Universe

variable {τ : Type}

/-- The types that a type directly extends, the base first. -/
def directSupertypes (U : Universe τ) (t : τ) : List τ := (U.base t).toList ++ U.interfaces t

/-- The definitions of the types that a type directly extends. -/
def directDefinitions (U : Universe τ) (t : τ) : List τ :=
  (U.directSupertypes t).map U.definition

end Universe

end TypeProjection
