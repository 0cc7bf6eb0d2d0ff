import Scaffold.Proofs.Catalog.Builtins
import Scaffold.Proofs.Generation.Saving

/-!
# Outlines of templates

The outline of a template is its text with the values left open: characters and
the names whose values are printed between them. It exists for a template of
texts, outputs and conditions on bare names, once it is known which conditions
hold. Rendering fills the values in. Sketches are outlines of nodes that may stand
inside a loop, where values are those of paths.
-/

namespace Scaffold.Template

/-! ## Outlines -/

inductive Item where
  | char (c : Char)
  /-- The printed value of a name. -/
  | value (name : String)
  deriving DecidableEq

abbrev Outline := List Item

/-- The characters that an item comes to in a context. -/
def Item.chars (context : SortedMap Value) : Item → List Char
  | .char c => [c]
  | .value name => ((context.get? name).getD .null).print.toList

def Outline.chars (context : SortedMap Value) (o : Outline) : List Char :=
  o.flatMap (Item.chars context)

section

variable (names : List String) (truths : List (String × Bool))

/-- The name that an expression is, if it is one of some names and nothing more. -/
def Expr.bareName? : Expr → Option String
  | .mk (.name path) false [] =>
    if isPlain path && (splitPath path).2.isNone && names.contains path then some path else none
  | _ => none

mutual

/-- The outline of a node. What is known of names decides its conditions. -/
def Node.outline? : Node → Option Outline
  | .text s | .verbatim s => some (s.toList.map .char)
  | .comment => some []
  | .output e => (e.bareName? names).map fun name => [.value name]
  | .branch arms none => outlineOfArms? arms
  | _ => none

def outlineOf? : List Node → Option Outline
  | [] => some []
  | node :: nodes => do return (← node.outline?) ++ (← outlineOf? nodes)

def outlineOfArms? : List (Expr × List Node) → Option Outline
  | [] => some []
  | (condition, body) :: arms =>
    match (condition.bareName? names).bind (truths.lookup ·) with
    | some true => outlineOf? body
    | some false => outlineOfArms? arms
    | none => none

end

/-- The outline of the template with some characters. -/
def outlineOfChars? (cs : List Char) : Option Outline :=
  match Piece.ofChars cs with
  | some ([], pieces) =>
    match Node.body (4 * pieces.length + 4) .whole true false pieces with
    | some (nodes, []) => outlineOf? names truths nodes
    | _ => none
  | _ => none

end

/-! ## Sketches -/

/-- The path that an expression is, if it is nothing more. -/
def Expr.path? : Expr → Option String
  | .mk (.name path) false [] => some path
  | _ => none

section

variable (truths : List (String × Bool))

mutual

/-- The outline of a node on paths of any kind, wherever these lead. What is known of
paths decides its conditions. -/
def Node.sketch? : Node → Option Outline
  | .text s | .verbatim s => some (s.toList.map .char)
  | .comment => some []
  | .output e => e.path?.map fun path => [.value path]
  | .branch arms none => sketchOfArms? (some []) arms
  | .branch arms (some body) => sketchOfArms? (sketchOf? body) arms
  | _ => none

def sketchOf? : List Node → Option Outline
  | [] => some []
  | node :: nodes => do return (← node.sketch?) ++ (← sketchOf? nodes)

/-- The outline of the first arm whose condition holds, or another one if there is none. -/
def sketchOfArms? (otherwise : Option Outline) : List (Expr × List Node) → Option Outline
  | [] => otherwise
  | (condition, body) :: arms =>
    match condition.path?.bind (truths.lookup ·) with
    | some true => sketchOf? body
    | some false => sketchOfArms? otherwise arms
    | none => none

end

end

section

variable {names : List String} {truths : List (String × Bool)}

theorem Expr.path?_of_bareName? {e : Expr} {name : String} (h : e.bareName? names = some name) :
    e.path? = some name := by
  unfold bareName? at h
  split at h
  · obtain ⟨-, hpath⟩ := Option.ite_none_right_eq_some.mp h
    exact hpath
  · exact absurd h nofun

mutual

/-- An outline is a sketch in which only bare names stand. -/
theorem Node.sketch?_of_outline? : ∀ (node : Node) {o : Outline},
    node.outline? names truths = some o → node.sketch? truths = some o
  | .text _, _, h | .verbatim _, _, h | .comment, _, h => h
  | .output e, o, h => by
      rw [Node.outline?] at h
      obtain ⟨name, hname, rfl⟩ := Option.map_eq_some_iff.mp h
      rw [Node.sketch?, Expr.path?_of_bareName? hname]
      rfl
  | .branch arms none, o, h => by
      rw [Node.outline?] at h
      rw [Node.sketch?]
      exact sketchOfArms?_of_outline? arms h
  | .branch _ (some _), _, h | .assign _ _ _, _, h | .loop _ _ _ _ _, _, h | .block _ _, _, h
  | .filtered _ _, _, h | .definition _ _ _, _, h | .stop, _, h | .skip, _, h
  | .insert _ _, _, h => by
      exact absurd h nofun

theorem sketchOf?_of_outline? : ∀ (nodes : List Node) {o : Outline},
    outlineOf? names truths nodes = some o → sketchOf? truths nodes = some o
  | [], o, h => h
  | node :: nodes, o, h => by
      rw [outlineOf?] at h
      obtain ⟨first, hfirst, h⟩ := Option.bind_eq_some_iff.mp h
      obtain ⟨rest, hrest, h⟩ := Option.bind_eq_some_iff.mp h
      rw [sketchOf?, Node.sketch?_of_outline? node hfirst, sketchOf?_of_outline? nodes hrest]
      exact h

theorem sketchOfArms?_of_outline? : ∀ (arms : List (Expr × List Node)) {o : Outline},
    outlineOfArms? names truths arms = some o → sketchOfArms? truths (some []) arms = some o
  | [], o, h => h
  | (condition, body) :: arms, o, h => by
      rw [outlineOfArms?] at h
      split at h
      · next hcondition =>
        obtain ⟨name, hname, hb⟩ := Option.bind_eq_some_iff.mp hcondition
        rw [sketchOfArms?, Expr.path?_of_bareName? hname, Option.bind_some, hb]
        exact sketchOf?_of_outline? body h
      · next hcondition =>
        obtain ⟨name, hname, hb⟩ := Option.bind_eq_some_iff.mp hcondition
        rw [sketchOfArms?, Expr.path?_of_bareName? hname, Option.bind_some, hb]
        exact sketchOfArms?_of_outline? arms h
      · exact absurd h nofun

end

end

/-! ## Filling in -/

/-- The characters that an item comes to in a view. -/
def Item.seen (view : View) : Item → List Char
  | .char c => [c]
  | .value path => (view path).print.toList

def Outline.seen (view : View) (o : Outline) : List Char := o.flatMap (Item.seen view)

@[simp]
theorem Outline.seen_append (view : View) (o o' : Outline) :
    Outline.seen view (o ++ o') = o.seen view ++ o'.seen view := List.flatMap_append

@[simp]
theorem Outline.seen_nil (view : View) : Outline.seen view [] = [] := rfl

@[simp]
theorem Outline.seen_cons_value (view : View) (path : String) (o : Outline) :
    Outline.seen view (.value path :: o) = (view path).print.toList ++ o.seen view := rfl

theorem Outline.seen_chars (view : View) (cs : List Char) :
    Outline.seen view (cs.map .char) = cs := by
  unfold seen
  rw [List.flatMap_map]
  exact List.flatMap_singleton' cs

/-- What a view from outside all loops fills in are the values of a context. -/
theorem Outline.seen_ofContext (context : SortedMap Value) (o : Outline) :
    Outline.seen (.ofContext context) o = o.chars context := by
  refine congrArg (o.flatMap ·) (funext fun item => ?_)
  cases item <;> rfl

section

variable {truths : List (String × Bool)} {view : View}

theorem Expr.seen_of_path? {e : Expr} {path : String} (h : e.path? = some path) :
    e.seen view = view path := by
  unfold path? at h
  split at h
  · obtain rfl := Option.some.inj h
    rfl
  · exact absurd h nofun

mutual

/-- A node says its sketch, filled in with what is seen. -/
theorem Node.said_of_sketch?
    (htruths : ∀ entry ∈ truths, (view entry.1).isTruthy = entry.2) :
    ∀ (node : Node) {o : Outline}, node.sketch? truths = some o → node.said view = o.seen view
  | .text s, o, h | .verbatim s, o, h => by
      obtain rfl := Option.some.inj h
      rw [Node.said, Outline.seen_chars]
  | .comment, o, h => by
      obtain rfl := Option.some.inj h
      rw [Node.said]
      rfl
  | .output e, o, h => by
      rw [Node.sketch?] at h
      obtain ⟨path, hpath, rfl⟩ := Option.map_eq_some_iff.mp h
      rw [Node.said, Expr.seen_of_path? hpath, Outline.seen_cons_value, Outline.seen_nil,
        List.append_nil]
  | .branch arms none, o, h => by
      rw [Node.sketch?] at h
      rw [Node.said]
      refine armsSay_of_sketch? htruths (fun o' ho' => ?_) arms h
      obtain rfl := Option.some.inj ho'
      rfl
  | .branch arms (some body), o, h => by
      rw [Node.sketch?] at h
      rw [Node.said]
      exact armsSay_of_sketch? htruths (fun o' => nodesSay_of_sketch? htruths body) arms h
  | .assign _ _ _, _, h | .loop _ _ _ _ _, _, h | .block _ _, _, h
  | .filtered _ _, _, h | .definition _ _ _, _, h | .stop, _, h | .skip, _, h
  | .insert _ _, _, h => by
      exact absurd h nofun

theorem nodesSay_of_sketch?
    (htruths : ∀ entry ∈ truths, (view entry.1).isTruthy = entry.2) :
    ∀ (nodes : List Node) {o : Outline}, sketchOf? truths nodes = some o →
      nodesSay nodes view = o.seen view
  | [], o, h => by
      rw [sketchOf?] at h
      obtain rfl := Option.some.inj h
      rw [nodesSay]
      rfl
  | node :: nodes, o, h => by
      rw [sketchOf?] at h
      obtain ⟨first, hfirst, h⟩ := Option.bind_eq_some_iff.mp h
      obtain ⟨rest, hrest, h⟩ := Option.bind_eq_some_iff.mp h
      obtain rfl := Option.some.inj h
      rw [nodesSay, Node.said_of_sketch? htruths node hfirst,
        nodesSay_of_sketch? htruths nodes hrest, Outline.seen_append]

theorem armsSay_of_sketch?
    (htruths : ∀ entry ∈ truths, (view entry.1).isTruthy = entry.2)
    {otherwise : Option Outline} {cs : List Char}
    (hotherwise : ∀ o, otherwise = some o → cs = o.seen view) :
    ∀ (arms : List (Expr × List Node)) {o : Outline},
      sketchOfArms? truths otherwise arms = some o → armsSay arms cs view = o.seen view
  | [], o, h => by
      rw [sketchOfArms?] at h
      rw [armsSay]
      exact hotherwise o h
  | (condition, body) :: arms, o, h => by
      rw [sketchOfArms?] at h
      split at h
      · next hcondition =>
        obtain ⟨path, hpath, hb⟩ := Option.bind_eq_some_iff.mp hcondition
        rw [armsSay, Expr.seen_of_path? hpath, htruths _ (mem_of_lookup hb), if_pos rfl]
        exact nodesSay_of_sketch? htruths body h
      · next hcondition =>
        obtain ⟨path, hpath, hb⟩ := Option.bind_eq_some_iff.mp hcondition
        rw [armsSay, Expr.seen_of_path? hpath, htruths _ (mem_of_lookup hb), if_neg Bool.false_ne_true]
        exact armsSay_of_sketch? htruths hotherwise arms h
      · exact absurd h nofun

end

end

theorem exists_nodes_of_outline {names : List String} {truths : List (String × Bool)}
    {cs : List Char} {o : Outline} (h : outlineOfChars? names truths cs = some o) :
    ∃ nodes, nodesOfChars? cs = some nodes ∧ sketchOf? truths nodes = some o := by
  unfold outlineOfChars? at h
  split at h
  · next pieces hpieces =>
    split at h
    · next nodes hbody =>
      refine ⟨nodes, ?_, sketchOf?_of_outline? nodes h⟩
      unfold nodesOfChars?
      rw [hpieces]
      dsimp only
      rw [hbody]
    · exact absurd h nofun
  · exact absurd h nofun

/-- The text of an outline in a context. -/
def Outline.text (context : SortedMap Value) (o : Outline) : String :=
  String.ofList (o.chars context)

def literalOutline (s : String) : Outline := s.toList.map .char

@[simp]
theorem seen_literalOutline (view : View) (s : String) :
    Outline.seen view (literalOutline s) = s.toList := Outline.seen_chars view s.toList

theorem text_literalOutline (context : SortedMap Value) (text : String) :
    Outline.text context (literalOutline text) = text := by
  rw [Outline.text, ← Outline.seen_ofContext, seen_literalOutline, String.ofList_toList]

end Scaffold.Template

namespace Scaffold

open Template

/-- A builtin template compiles to one that says what its nodes say. -/
theorem Generator.exists_compiled_of_nodes {g : Generator} {key : TemplateKey} {d : Disk}
    {text : String} {nodes : List Node} (htext : g.repository.textOf d key = .ok text)
    (hbuiltin : key.builtinText? = some text) (hnodes : nodesOfChars? text.toList = some nodes) :
    ∃ c, (g.compile key).runOn d = (.ok c, d) ∧ ∀ context : Context,
      key.signature.Met context.values → ∀ engine world, c.execute context engine world =
        .ok (String.ofList (nodesSay nodes (.ofContext context.values))) := by
  obtain ⟨c, hcompile, hexecute⟩ :=
    TemplateKey.execute_of_nodes (TemplateKey.accepts_builtinText hbuiltin) hnodes
  refine ⟨c.requiring key.required, ?_, hexecute⟩
  rw [runOn_compile, htext]
  dsimp only [Except.bind]
  rw [hcompile]
  rfl

/-- The text of a target whose template is a builtin one is what its nodes say. -/
theorem Generator.content_of_nodes {g : Generator} {t : Target} {d : Disk} {text : String}
    {nodes : List Node} (htext : g.repository.textOf d t.template = .ok text)
    (hbuiltin : t.template.builtinText? = some text)
    (hnodes : nodesOfChars? text.toList = some nodes)
    (hmet : t.template.signature.Met t.context.values) :
    g.content t d = .ok (String.ofList (nodesSay nodes (.ofContext t.context.values))) := by
  obtain ⟨c, hcompile, hexecute⟩ := exists_compiled_of_nodes htext hbuiltin hnodes
  unfold content compiled
  rw [hcompile]
  exact hexecute _ hmet _ _

/-- The text of a fragment whose template is a builtin one is what its nodes say. -/
theorem Generator.renderFragment_of_nodes {g : Generator} {key : TemplateKey} {context : Context}
    {d : Disk} {text : String} {nodes : List Node} (htext : g.repository.textOf d key = .ok text)
    (hbuiltin : key.builtinText? = some text) (hnodes : nodesOfChars? text.toList = some nodes)
    (hmet : key.signature.Met context.values) (node : String) :
    (g.renderFragment key context node).runOn d =
      (.ok (String.ofList (nodesSay nodes (.ofContext context.values))), d) := by
  obtain ⟨c, hcompile, hexecute⟩ := exists_compiled_of_nodes htext hbuiltin hnodes
  unfold renderFragment
  rw [Action.mapError_eq_ok, Action.runOn_bind_of_ok hcompile, Tools.execute, hexecute _ hmet]
  rfl

theorem Generator.exists_content {g : Generator} {t : Target} {d : Disk} {text : String}
    (htext : g.repository.textOf d t.template = .ok text)
    (hbuiltin : t.template.builtinText? = some text)
    (hmet : t.template.signature.Met t.context.values) : ∃ out, g.content t d = .ok out := by
  obtain ⟨nodes, hnodes, -⟩ := TemplateKey.exists_nodes (TemplateKey.accepts_builtinText hbuiltin)
  exact ⟨_, content_of_nodes htext hbuiltin hnodes hmet⟩

/-- The text of a target whose template is a builtin one with an outline. -/
theorem Generator.content_of_outline {g : Generator} {t : Target} {d : Disk} {text : String}
    {truths : List (String × Bool)} {o : Outline}
    (htext : g.repository.textOf d t.template = .ok text)
    (hbuiltin : t.template.builtinText? = some text)
    (houtline : outlineOfChars? t.template.required truths text.toList = some o)
    (hmet : t.template.signature.Met t.context.values)
    (htruths : ∀ entry ∈ truths,
      ((t.context.values.get? entry.1).getD .null).isTruthy = entry.2) :
    g.content t d = .ok (o.text t.context.values) := by
  obtain ⟨nodes, hnodes, hsketch⟩ := exists_nodes_of_outline houtline
  have hsaid : nodesSay nodes (.ofContext t.context.values) = o.seen (.ofContext t.context.values) :=
    nodesSay_of_sketch? htruths nodes hsketch
  rw [content_of_nodes htext hbuiltin hnodes hmet, hsaid, Outline.seen_ofContext]
  rfl

end Scaffold
