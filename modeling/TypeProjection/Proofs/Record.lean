import TypeProjection.Proofs.Needs

/-!
# The record of a type

`declaration` writes the finished declaration of a type from the universe and the options alone,
with references read to a depth. A greater depth never changes an answer, so a type has one record
however deep it was met.
-/

namespace TypeProjection

namespace Universe

variable {τ : Type}

/-- A declaration as it stands before its header is known. -/
def begun (U : Universe τ) (o : Options τ) (k : τ) : TypeDeclaration τ :=
  let asInterface := U.isInterface k || o.interfacesOnly
  { TypeDeclaration.bare k (o.rename (U.name k)) with
    kind := if asInterface then .interfaceKind else .classKind
    isAbstract := U.isAbstract k && !asInterface }

/-- A declaration with its header, from the texts in it. It has no parameters while they are walked. -/
def headed (U : Universe τ) (o : Options τ) (k : τ) (base : Option String)
    (interfaces parameters : List String) : TypeDeclaration τ :=
  let asInterface := U.isInterface k || o.interfacesOnly
  let named := (base.filter (· != "")).toList
  { U.begun o k with
    bases := if asInterface then named ++ interfaces else named
    implements := if asInterface then [] else interfaces
    typeParameters := parameters }

/-- The declaration of an enumeration. -/
def enumeration (U : Universe τ) (o : Options τ) (t : τ) : EnumDeclaration τ :=
  ⟨t, o.rename (U.name t), Walk.enumFields (U.enumMembers t)⟩

/-- The base that the options choose for a class without one. -/
def defaultBaseText (U : Universe τ) (o : Options τ) (k : τ) : Option String :=
  match o.defaultBase with
  | none => none
  | some choose => if U.isInterface k then none else (choose k).filter (· != "")

section Texts

variable (U : Universe τ) (o : Options τ) (read : τ → Option String)

/-- The reference to the base in a header. -/
def baseText (k : τ) : Option (Option String) :=
  match U.emittedBase o k with
  | some b => (read b).map some
  | none => some (U.defaultBaseText o k)

/-- The references to the bounds of a parameter, without those that refer to anything. -/
def boundTexts (bs : List τ) : Option (List String) :=
  ((bs.filter (U.keptBound o)).mapM read).map fun refs => refs.filter (· != fallbackReference)

/-- A parameter from its name and the references in its constraint. -/
def parameterText (asInterface : Bool) (p : τ) (bounds alternatives : List String) : String :=
  let name := o.rename (U.name p)
  let parts := bounds ++ (if alternatives.isEmpty then [] else [Walk.unionText alternatives]) ++
    (if U.needsConstructor p && !asInterface then [Walk.constructorPart name] else [])
  if parts.isEmpty then name else name ++ " extends " ++ Walk.constraintText parts

/-- A parameter with the references in its constraint read. -/
def readParameter (asInterface : Bool) (p : τ) : Option String := do
  let bounds ← U.boundTexts o read (U.bounds p)
  let alternatives ← (U.alternatives p).mapM read
  return U.parameterText o asInterface p bounds alternatives

/-- The parameters in a header. -/
def parameterTexts (asInterface : Bool) (k : τ) : Option (List String) :=
  if U.isDefinition k then (U.arguments k).mapM (U.readParameter o read asInterface) else some []

/-- A member with the reference to its type read. -/
def readMember (m : String × τ) : Option MemberDeclaration :=
  (read m.2).map fun reference => ⟨m.1, reference⟩

/-- The references to the interfaces that a header lists. -/
def interfaceTexts [BEq τ] (k : τ) : Option (List String) := do
  (← U.survivors o k).mapM read

/-- The finished declaration of a type. -/
def declarationFrom [BEq τ] (k : τ) : Option (TypeDeclaration τ) := do
  let base ← U.baseText o read k
  let interfaces ← U.interfaceTexts o read k
  let parameters ← U.parameterTexts o read (U.isInterface k || o.interfacesOnly) k
  let members ← (U.members k).mapM (readMember read)
  return { U.headed o k base interfaces parameters with members := members }

end Texts

/-- The finished declaration of a type, its references read to a depth. -/
def declaration [BEq τ] (U : Universe τ) (o : Options τ) (depth : Nat) (k : τ) :
    Option (TypeDeclaration τ) :=
  U.declarationFrom o (U.reading o depth) k

section Depth

variable {U : Universe τ} {o : Options τ}

/-- Every answer of one function is the answer of another. -/
def Agrees {α β : Type} (f g : α → Option β) : Prop := ∀ a b, f a = some b → g a = some b

theorem Agrees.map {α β γ : Type} {f g : α → Option β} (h : Agrees f g) (a : α) (w : β → γ) {c : γ}
    (hf : (f a).map w = some c) : (g a).map w = some c := by
  obtain ⟨b, hb, rfl⟩ := Option.map_eq_some_iff.mp hf
  rw [h a b hb, Option.map_some]

theorem Agrees.mapM {α β : Type} {f g : α → Option β} (h : Agrees f g) :
    Agrees (List.mapM f) (List.mapM g) := by
  intro xs
  induction xs with
  | nil => exact fun _ hys => hys
  | cons x xs ih =>
    intro ys hys
    rw [List.mapM_cons] at hys ⊢
    obtain ⟨y, hy, hys⟩ := Option.bind_eq_some_iff.mp hys
    obtain ⟨zs, hzs, he⟩ := Option.bind_eq_some_iff.mp hys
    rw [h x y hy, ih zs hzs]
    exact he

variable {read read' : τ → Option String}

theorem readingFrom_agrees (h : Agrees read read') :
    Agrees (U.readingFrom o read) (U.readingFrom o read') := by
  intro t s hs
  unfold readingFrom at hs ⊢
  cases hsh : U.shape o t with
  | union ts =>
    rw [hsh] at hs
    exact h.mapM.map ts _ hs
  | sequence e =>
    rw [hsh] at hs
    exact h.map e _ hs
  | mapping k v =>
    rw [hsh] at hs
    obtain ⟨key, hk, hs⟩ := Option.bind_eq_some_iff.mp hs
    obtain ⟨value, hv, hs⟩ := Option.bind_eq_some_iff.mp hs
    simp only [h k key hk, h v value hv]
    exact hs
  | tuple ts =>
    rw [hsh] at hs
    exact h.mapM.map ts _ hs
  | declared =>
    rw [hsh] at hs
    dsimp only at hs ⊢
    split
    · rwa [if_pos ‹_›] at hs
    rw [if_neg ‹_›] at hs
    split
    · rw [if_pos ‹_›] at hs
      exact h.mapM.map _ _ hs
    rwa [if_neg ‹_›] at hs
  | parameter => rwa [hsh] at hs
  | enumeration => rwa [hsh] at hs
  | overridden reference => rwa [hsh] at hs
  | scalar kind => rwa [hsh] at hs
  | unknown => rwa [hsh] at hs

theorem reading_agrees {m n : Nat} (h : m ≤ n) : Agrees (U.reading o m) (U.reading o n) := by
  induction m generalizing n with
  | zero =>
    intro t s hs
    cases hs
  | succ m ih =>
    obtain ⟨n, rfl⟩ : ∃ n', n = n' + 1 := ⟨n - 1, by omega⟩
    exact readingFrom_agrees (ih (by omega))

theorem baseText_agrees (h : Agrees read read') :
    Agrees (U.baseText o read) (U.baseText o read') := by
  intro k s hs
  unfold baseText at hs ⊢
  cases hb : U.emittedBase o k with
  | none => rwa [hb] at hs
  | some b =>
    rw [hb] at hs
    exact h.map b _ hs

theorem readParameter_agrees (h : Agrees read read') (asInterface : Bool) :
    Agrees (U.readParameter o read asInterface) (U.readParameter o read' asInterface) := by
  intro p s hs
  obtain ⟨bounds, hb, hs⟩ := Option.bind_eq_some_iff.mp hs
  obtain ⟨alternatives, ha, hs⟩ := Option.bind_eq_some_iff.mp hs
  have hb' : U.boundTexts o read' (U.bounds p) = some bounds := h.mapM.map _ _ hb
  simp only [readParameter, hb', h.mapM _ _ ha]
  exact hs

theorem parameterTexts_agrees (h : Agrees read read') (asInterface : Bool) :
    Agrees (U.parameterTexts o read asInterface) (U.parameterTexts o read' asInterface) := by
  intro k s hs
  unfold parameterTexts at hs ⊢
  split
  · rw [if_pos ‹_›] at hs
    exact (readParameter_agrees h asInterface).mapM _ _ hs
  · rwa [if_neg ‹_›] at hs

theorem readMember_agrees (h : Agrees read read') :
    Agrees (readMember read) (readMember read') :=
  fun m _ hm => h.map m.2 _ hm

variable [BEq τ]

theorem interfaceTexts_agrees (h : Agrees read read') :
    Agrees (U.interfaceTexts o read) (U.interfaceTexts o read') := by
  intro k s hs
  obtain ⟨ts, hts, hs⟩ := Option.bind_eq_some_iff.mp hs
  simp only [interfaceTexts, hts]
  exact h.mapM ts _ hs

theorem declarationFrom_agrees (h : Agrees read read') :
    Agrees (U.declarationFrom o read) (U.declarationFrom o read') := by
  intro k d hd
  obtain ⟨base, hb, hd⟩ := Option.bind_eq_some_iff.mp hd
  obtain ⟨interfaces, hi, hd⟩ := Option.bind_eq_some_iff.mp hd
  obtain ⟨parameters, hp, hd⟩ := Option.bind_eq_some_iff.mp hd
  obtain ⟨members, hm, hd⟩ := Option.bind_eq_some_iff.mp hd
  simp only [declarationFrom, baseText_agrees h _ _ hb, interfaceTexts_agrees h _ _ hi,
    parameterTexts_agrees h _ _ _ hp, (readMember_agrees h).mapM _ _ hm]
  exact hd

/-- A record that was written at some depth is the record at every greater one. -/
theorem declaration_agrees {m n : Nat} (h : m ≤ n) :
    Agrees (U.declaration o m) (U.declaration o n) :=
  declarationFrom_agrees (reading_agrees h)

/-- A record is filed under the type that it was written for, with the name of that type. -/
theorem declaration_source_name {n : Nat} {k : τ} {d : TypeDeclaration τ}
    (h : U.declaration o n k = some d) : d.source = k ∧ d.name = o.rename (U.name k) := by
  obtain ⟨base, _, h⟩ := Option.bind_eq_some_iff.mp h
  obtain ⟨interfaces, _, h⟩ := Option.bind_eq_some_iff.mp h
  obtain ⟨parameters, _, h⟩ := Option.bind_eq_some_iff.mp h
  obtain ⟨members, _, h⟩ := Option.bind_eq_some_iff.mp h
  cases h
  exact ⟨rfl, rfl⟩

end Depth

end Universe

/-! The steps of a walk that a record states without a registry. -/

namespace Walk

open Universe

variable {τ : Type} [BEq τ] {U : Universe τ} {o : Options τ} {strict : Bool} {r : Registry τ}

omit [BEq τ] in
/-- Without a base of its own, a class takes the default one, and the registry stays as it is. -/
theorem ends_fromDefault {k : τ} (hr : r.options = o) :
    Ends strict (do
      match (← get).options.defaultBase with
      | none => return (none, none)
      | some choose =>
        if U.isInterface k then return (none, none)
        else return ((choose k).filter (· != ""), none)) r
      fun x r' => x = (U.defaultBaseText o k, (none : Option τ)) ∧ r' = r := by
  rw [ends_bind, ends_get, hr]
  unfold defaultBaseText
  cases o.defaultBase with
  | none => exact ⟨rfl, rfl⟩
  | some choose =>
    cases U.isInterface k with
    | true => exact ⟨rfl, rfl⟩
    | false => exact ⟨rfl, rfl⟩

/-- What is implied does not depend on the registry. -/
theorem ends_implied {candidates : List τ} {base : Option τ} {Q : List τ → Registry τ → Prop} :
    Ends strict (implied U candidates base) r Q ↔
      match U.impliedDefinitions candidates base with
      | none => strict = false
      | some ds => Q ds r := by
  unfold implied impliedDefinitions
  cases base with
  | none =>
    simp only [ends_pure, ends_bind, ends_mapM_lift]
    cases candidates.mapM U.supertypes with
    | none => exact Iff.rfl
    | some ds => exact Iff.rfl
  | some b =>
    simp only [ends_pure, ends_bind, ends_lift, ends_mapM_lift]
    cases U.supertypes b with
    | none => exact Iff.rfl
    | some above =>
      cases candidates.mapM U.supertypes with
      | none => exact Iff.rfl
      | some ds => exact Iff.rfl

end Walk

end TypeProjection
