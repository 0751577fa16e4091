import Mathlib.Data.List.Basic
import TypeProjection.Proofs.CodePoints
import TypeProjection.Rendering

/-!
# The packaged layout in closed form

Without a template of the caller's, declarations are laid out by interpreting the packaged template:
it is cut into tokens under the trimming of blocks, read into nodes, and run with two nested loops.
`packagedNodes` is what the reading gives. `Run.runNode_loop` is the law of a loop over records: the
lines of its body, one after another. From both, the text is a concatenation of one block per
declaration, whatever the names, headers and references are.
-/

namespace TypeProjection

open Template
open Text (points points_append points_join)

namespace Template.Run

variable {α : Type} {l : Loader} {n : Nat} {s : Scope} {a b x name : String} {v : Value}
  {node : Node} {nodes body : List Node} {range : Expr}

/-- Actions that leave the scope alone leave it alone one after another. -/
theorem mapM_same {β : Type} {xs : List α} {f : α → Run β} {g : α → β}
    (h : ∀ x ∈ xs, f x s = .ok (g x, s)) : xs.mapM f s = .ok (xs.map g, s) := by
  induction xs with
  | nil => rfl
  | cons x xs ih =>
    obtain ⟨hx, hxs⟩ := List.forall_mem_cons.mp h
    rw [List.mapM_cons]
    change (f x s).bind _ = _
    rw [hx]
    change (xs.mapM f s).bind _ = _
    rw [ih hxs]
    rfl

/-! ### What nodes write in a scope that they leave alone -/

theorem runNodes_nil : runNodes l (n + 1) [] s = .ok (points "", s) := rfl

theorem runNodes_cons (hnode : runNode l n node s = .ok (points a, s))
    (hnodes : runNodes l (n + 1) nodes s = .ok (points b, s)) :
    runNodes l (n + 1) (node :: nodes) s = .ok (points (a ++ b), s) := by
  change ((nodes.mapM (runNode l n)) s).bind _ = _ at hnodes
  change (((node :: nodes).mapM (runNode l n)) s).bind _ = _
  rw [List.mapM_cons]
  change ((runNode l n node s).bind _).bind _ = _
  rw [hnode]
  change ((nodes.mapM (runNode l n) s).bind _).bind _ = _
  cases hrest : nodes.mapM (runNode l n) s with
  | error cause => rw [hrest] at hnodes; cases hnodes
  | ok made =>
    rw [hrest] at hnodes
    obtain ⟨texts, after⟩ := made
    obtain ⟨hb, rfl⟩ := Prod.mk.inj (Except.ok.inj hnodes)
    rw [points_append, ← hb]
    rfl

theorem eval_name (hx : lookupName x s.frames = some v) :
    eval l (n + 1) (.name x) s = .ok (v, s) := by
  change valueOf x s = _
  unfold valueOf
  change (StateT.bind StateT.get _ : Run Value) s = _
  unfold StateT.bind StateT.get
  dsimp only [pure, Except.pure, Bind.bind, Except.bind]
  rw [hx]
  rfl

theorem getAttribute_field {className fullName display : String} {fields : List (String × Value)}
    (hv : fields.lookup name = some v) :
    getAttribute (.record className fullName display fields) name = .ok v := by
  unfold getAttribute attribute?
  dsimp only
  rw [hv]

theorem eval_field {className fullName display : String} {fields : List (String × Value)}
    (hx : lookupName x s.frames = some (.record className fullName display fields))
    (hv : fields.lookup name = some v) :
    eval l (n + 2) (.attribute (.name x) name) s = .ok (v, s) := by
  change (eval l (n + 1) (.name x) s).bind _ = _
  rw [eval_name hx]
  change (getAttribute (.record className fullName display fields) name).bind
    (fun a => Except.ok (a, s)) = _
  rw [getAttribute_field hv]
  rfl

theorem runNode_text {t : String} : runNode l (n + 1) (.text t) s = .ok (points t, s) := rfl

theorem runNode_output {e : Expr} (he : eval l n e s = .ok (v, s)) :
    runNode l (n + 1) (.output e) s = .ok (v.text, s) := by
  change (eval l n e s).bind _ = _
  rw [he]
  rfl

theorem within_same {frames inner : List Frame} {act : Run α} {r : α}
    (h : act { s with frames := frames } = .ok (r, { s with frames := inner })) :
    within frames act s = .ok (r, s) := by
  change (act { s with frames := frames }).bind _ = _
  rw [h]
  rfl

theorem putPair_apart {w : Value} (hx : x ≠ name) :
    putPair x v [(name, w)] = [(name, w), (x, v)] := by
  change (if name == x then _ else _) = _
  rw [if_neg (by simpa using Ne.symm hx)]
  rfl

/-- The scope of a turn of a loop. -/
def turn (s : Scope) (x : String) (loop v : Value) : Scope :=
  { s with frames := [("loop", loop), (x, v)] :: s.frames }

/-- A loop writes the lines of its turns, if its body leaves every turn as it was. -/
theorem runNode_loop {items : List α} {value : α → Value} {line : α → String}
    (hrange : eval l (n + 1) range s = .ok (v, s)) (hitems : v.items? = some (items.map value))
    (hx : x ≠ "loop")
    (hbody : ∀ item ∈ items, ∀ loop, runNodes l (n + 1) body (turn s x loop (value item)) =
      .ok (points (line item), turn s x loop (value item))) :
    runNode l (n + 2) (.loop (.name x) range none body []) s =
      .ok (points (String.join (items.map line)), s) := by
  change (eval l (n + 1) range s).bind _ = _
  rw [hrange]
  have hall : v.items = .ok (items.map value) := by
    unfold Value.items
    rw [hitems]
  change (v.items.bind fun a => Except.ok (a, s)).bind _ = _
  rw [hall]
  change (if (items.map value).isEmpty then
      within ([] :: s.frames) (runNodes l (n + 1) [])
    else (do
      let turns ← (items.map value).zipIdx.mapM fun p =>
        within ([("loop", loopRecord (loopDepth s.frames + 1) (items.map value) p.2)] :: s.frames) do
          bind (.name x) p.1
          runNodes l (n + 1) body
      return turns.flatten) : Run (List Text.Point)) s = _
  split
  · next hempty =>
    obtain rfl : items = [] := by simpa using hempty
    rfl
  · have hturns : ((items.map value).zipIdx.mapM fun p =>
        within ([("loop", loopRecord (loopDepth s.frames + 1) (items.map value) p.2)] :: s.frames) do
          bind (.name x) p.1
          runNodes l (n + 1) body) s = .ok ((items.map line).map points, s) := by
      have hlines : items.zipIdx.map (fun p => points (line p.1)) = (items.map line).map points := by
        change items.zipIdx.map ((points ∘ line) ∘ Prod.fst) = _
        rw [← List.map_map, List.zipIdx_map_fst, List.map_map]
      rw [List.zipIdx_map, List.mapM_map, ← hlines]
      refine mapM_same fun p hp => ?_
      let loop := loopRecord (loopDepth s.frames + 1) (items.map value) p.2
      have hturn : (do bind (.name x) (value p.1); runNodes l (n + 1) body : Run (List Text.Point))
          { s with frames := [("loop", loop)] :: s.frames } =
            .ok (points (line p.1), turn s x loop (value p.1)) := by
        change runNodes l (n + 1) body
          { s with frames := putPair x (value p.1) [("loop", loop)] :: s.frames } = _
        rw [putPair_apart hx]
        exact hbody p.1 (List.fst_mem_of_mem_zipIdx hp) loop
      exact within_same hturn
    change ((_ : Run (List (List Text.Point))) s).bind _ = _
    rw [hturns, points_join]
    rfl

end Template.Run

/-! ### The packaged template, read -/

/-- The tokens of a line with a block tag. -/
def blockTokens (words : List Token) : List Token := .blockBegin :: words ++ [.blockEnd]

/-- The tokens of a place where an attribute is written. -/
def slotTokens (record key : String) : List Token :=
  [.outputBegin, .name record, .op ".", .name key, .outputEnd]

/-- The tokens of a loop. -/
def loopTokens (target : String) (range body : List Token) : List Token :=
  blockTokens ([.name "for", .name target, .name "in"] ++ range) ++ body ++
    blockTokens [.name "endfor"]

/-- The tokens for a field of an enumeration. -/
def fieldTokens : List Token :=
  [.text "    "] ++ slotTokens "field" "name" ++ [.text " = "] ++ slotTokens "field" "value" ++
    [.text ",\n"]

/-- The tokens for an enumeration. -/
def enumTokens : List Token :=
  [.text "export enum "] ++ slotTokens "enum" "name" ++ [.text " \x7b\n"] ++
    loopTokens "field" [.name "enum", .op ".", .name "fields"] fieldTokens ++ [.text "\x7d\n\n"]

/-- The tokens for a member. -/
def memberTokens : List Token :=
  [.text "    "] ++ slotTokens "member" "name" ++ [.text ": "] ++ slotTokens "member" "type_ref" ++
    [.text ";\n"]

/-- The tokens for a type. -/
def typeTokens : List Token :=
  slotTokens "type" "declaration" ++ [.text " \x7b\n"] ++
    loopTokens "member" [.name "type", .op ".", .name "members"] memberTokens ++ [.text "\x7d\n\n"]

/-- The tokens of the packaged template. A block tag has taken its line with it. -/
def packagedTokens : List Token :=
  loopTokens "enum" [.name "enums"] enumTokens ++ loopTokens "type" [.name "types"] typeTokens

/-- What is written for an attribute. -/
def slotNode (record key : String) : Node := .output (.attribute (.name record) key)

/-- The nodes for a field of an enumeration. -/
def fieldNodes : List Node :=
  [.text "    ", slotNode "field" "name", .text " = ", slotNode "field" "value", .text ",\n"]

/-- The nodes for an enumeration. -/
def enumNodes : List Node :=
  [.text "export enum ", slotNode "enum" "name", .text " \x7b\n",
    .loop (.name "field") (.attribute (.name "enum") "fields") none fieldNodes [],
    .text "\x7d\n\n"]

/-- The nodes for a member. -/
def memberNodes : List Node :=
  [.text "    ", slotNode "member" "name", .text ": ", slotNode "member" "type_ref", .text ";\n"]

/-- The nodes for a type. -/
def typeNodes : List Node :=
  [slotNode "type" "declaration", .text " \x7b\n",
    .loop (.name "member") (.attribute (.name "type") "members") none memberNodes [],
    .text "\x7d\n\n"]

/-- The nodes of the packaged template. -/
def packagedNodes : List Node :=
  [.loop (.name "enum") (.name "enums") none enumNodes [],
    .loop (.name "type") (.name "types") none typeNodes []]

set_option maxRecDepth 100000 in
theorem tokens_packagedTemplate : tokens packagedTemplate = packagedTokens := by
  -- Joined as characters: the template as one text is costly to take apart.
  unfold tokens packagedTemplate
  rw [String.toList_join]
  rfl

set_option maxRecDepth 100000 in
theorem nodesOf_packagedTokens : nodesOf packagedTokens = .ok packagedNodes := by
  rfl

theorem load_packaged (searchPath : String) :
    Run.load (packagedLoader searchPath) (points packagedName) = .ok packagedNodes := by
  have hcompile : Run.compile packagedTemplate = .ok packagedNodes := by
    unfold Run.compile
    rw [tokens_packagedTemplate, nodesOf_packagedTokens]
    rfl
  unfold Run.load
  rw [if_neg (by decide), Text.ofPoints?_points]
  exact hcompile

/-! ### The closed form -/

/-- The line of a field. -/
def EnumField.line (f : EnumField) : String := "    " ++ f.name ++ " = " ++ f.literal ++ ",\n"

/-- The line of a member. -/
def MemberDeclaration.line (m : MemberDeclaration) : String :=
  "    " ++ m.name ++ ": " ++ m.reference ++ ";\n"

/-- A body under its opening line, with an empty line after it. -/
def block (opening : String) (lines : List String) : String :=
  opening ++ " \x7b\n" ++ String.join lines ++ "\x7d\n\n"

/-- The text of an enumeration. -/
def EnumDeclaration.block {τ : Type} (d : EnumDeclaration τ) : String :=
  TypeProjection.block ("export enum " ++ d.name) (d.fields.map EnumField.line)

/-- The text of a type. -/
def TypeDeclaration.block {τ : Type} (d : TypeDeclaration τ) : String :=
  TypeProjection.block d.header (d.members.map MemberDeclaration.line)

/-- The text of declarations: the enumerations first. -/
def layout {τ : Type} (types : List (TypeDeclaration τ)) (enums : List (EnumDeclaration τ)) :
    String :=
  String.join (enums.map EnumDeclaration.block) ++ String.join (types.map TypeDeclaration.block)

section Runs

open Run

variable {τ : Type} {l : Loader} {n : Nat} {s : Scope} {source : τ → Value}

theorem runNode_slot {record key className fullName display : String}
    {fields : List (String × Value)} {t : String}
    (hx : lookupName record s.frames = some (.record className fullName display fields))
    (hv : fields.lookup key = some (.ofString t)) :
    runNode l (n + 3) (slotNode record key) s = .ok (points t, s) :=
  runNode_output (eval_field hx hv)

theorem runNodes_field (f : EnumField) (loop : Value) :
    runNodes l (n + 4) fieldNodes (turn s "field" loop f.record) =
      .ok (points f.line, turn s "field" loop f.record) := by
  refine (runNodes_cons runNode_text (runNodes_cons (runNode_slot rfl rfl)
    (runNodes_cons runNode_text (runNodes_cons (runNode_slot rfl rfl)
      (runNodes_cons runNode_text runNodes_nil))))).trans ?_
  simp only [EnumField.line, String.append_assoc, String.append_empty]

theorem runNodes_member (m : MemberDeclaration) (loop : Value) :
    runNodes l (n + 4) memberNodes (turn s "member" loop m.record) =
      .ok (points m.line, turn s "member" loop m.record) := by
  refine (runNodes_cons runNode_text (runNodes_cons (runNode_slot rfl rfl)
    (runNodes_cons runNode_text (runNodes_cons (runNode_slot rfl rfl)
      (runNodes_cons runNode_text runNodes_nil))))).trans ?_
  simp only [MemberDeclaration.line, String.append_assoc, String.append_empty]

theorem runNodes_enum (d : EnumDeclaration τ) (loop : Value) :
    runNodes l (n + 6) enumNodes (turn s "enum" loop (d.record source)) =
      .ok (points d.block, turn s "enum" loop (d.record source)) := by
  have hrange : eval l (n + 4) (.attribute (.name "enum") "fields")
      (turn s "enum" loop (d.record source)) =
        .ok (.tuple (d.fields.map EnumField.record), turn s "enum" loop (d.record source)) :=
    eval_field rfl rfl
  have hfields := runNode_loop hrange rfl (by decide) fun f _ loop => runNodes_field f loop
  refine (runNodes_cons runNode_text (runNodes_cons (runNode_slot rfl rfl)
    (runNodes_cons runNode_text (runNodes_cons hfields
      (runNodes_cons runNode_text runNodes_nil))))).trans ?_
  simp only [EnumDeclaration.block, TypeProjection.block, String.append_assoc,
    String.append_empty]

theorem runNodes_type (d : TypeDeclaration τ) (loop : Value) :
    runNodes l (n + 6) typeNodes (turn s "type" loop (d.record source)) =
      .ok (points d.block, turn s "type" loop (d.record source)) := by
  have hrange : eval l (n + 4) (.attribute (.name "type") "members")
      (turn s "type" loop (d.record source)) =
        .ok (.list (d.members.map MemberDeclaration.record),
          turn s "type" loop (d.record source)) :=
    eval_field rfl rfl
  have hmembers := runNode_loop hrange rfl (by decide) fun m _ loop => runNodes_member m loop
  refine (runNodes_cons (runNode_slot rfl rfl) (runNodes_cons runNode_text
    (runNodes_cons hmembers (runNodes_cons runNode_text runNodes_nil)))).trans ?_
  simp only [TypeDeclaration.block, TypeProjection.block, String.append_assoc,
    String.append_empty]

theorem runNodes_packaged {types : List (TypeDeclaration τ)} {enums : List (EnumDeclaration τ)}
    (htypes : lookupName "types" s.frames =
      some (.list (types.map (TypeDeclaration.record source))))
    (henums : lookupName "enums" s.frames =
      some (.list (enums.map (EnumDeclaration.record source)))) :
    runNodes l (n + 8) packagedNodes s = .ok (points (layout types enums), s) := by
  have hoverEnums := runNode_loop (eval_name (n := n + 5) henums) rfl (by decide) (l := l)
    fun d _ loop => runNodes_enum d loop
  have hoverTypes := runNode_loop (eval_name (n := n + 5) htypes) rfl (by decide) (l := l)
    fun d _ loop => runNodes_type d loop
  refine (runNodes_cons hoverEnums (runNodes_cons hoverTypes runNodes_nil)).trans ?_
  rw [String.append_empty]
  rfl

/-- The packaged nodes write declarations block by block, which takes a depth of eight. -/
theorem run_packagedNodes (types : List (TypeDeclaration τ)) (enums : List (EnumDeclaration τ)) :
    run l packagedNodes [("types", .list (types.map (TypeDeclaration.record source))),
      ("enums", .list (enums.map (EnumDeclaration.record source)))] =
        .ok (points (layout types enums)) := by
  have hnodes := runNodes_packaged (l := l) (n := 992) (s := ⟨[[
    ("types", .list (types.map (TypeDeclaration.record source))),
      ("enums", .list (enums.map (EnumDeclaration.record source)))]], []⟩) rfl rfl
  exact congrArg (Except.map Prod.fst) hnodes

theorem renderDeclarations_eq (searchPath : String) (types : List (TypeDeclaration τ))
    (enums : List (EnumDeclaration τ)) :
    renderDeclarations (packagedLoader searchPath) none source types enums =
      .ok (points (layout types enums)) := by
  change runNamed (packagedLoader searchPath) packagedName _ = _
  unfold runNamed
  rw [load_packaged]
  exact run_packagedNodes types enums

theorem layout_append (types more : List (TypeDeclaration τ)) (enums : List (EnumDeclaration τ)) :
    layout (types ++ more) enums = layout types enums ++ layout more [] := by
  simp only [layout, List.map_append, String.join_append, List.map_nil, String.join_nil,
    String.empty_append, String.append_assoc]

end Runs

/-- **Default rendering is the layout.** An empty template counts as none. The text of more types
comes after that of the others, and no declarations have no text. -/
theorem default_rendering {τ : Type} (searchPath : String) (source : τ → Value)
    (types more : List (TypeDeclaration τ)) (enums : List (EnumDeclaration τ)) :
    let render := renderDeclarations (packagedLoader searchPath) none source
    renderDeclarations (packagedLoader searchPath) (some "") source types enums =
        render types enums ∧
      render types enums = .ok (points (layout types enums)) ∧
      render (types ++ more) enums = (do return (← render types enums) ++ (← render more [])) ∧
      render [] [] = .ok [] := by
  intro render
  have hrender : ∀ ts es, render ts es = .ok (points (layout ts es)) :=
    renderDeclarations_eq searchPath
  refine ⟨rfl, hrender types enums, ?_, hrender [] []⟩
  rw [hrender, hrender, hrender, layout_append, points_append]
  rfl

example : layout [] [(⟨(), "Hue", [⟨"RED", "\"red\""⟩]⟩ : EnumDeclaration Unit)] =
    "export enum Hue \x7b\n    RED = \"red\",\n\x7d\n\n" := by decide

end TypeProjection
