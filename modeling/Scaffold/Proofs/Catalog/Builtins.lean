import Scaffold.Catalog.Builtin
import Scaffold.Proofs.Template.Admission

/-!
# The builtin templates cannot fail

The variables that a builtin template is declared to require are all that it
asks for: it is admitted for them, if the ones that it loops over are lists with
the columns that it prints. Every context that has these renders it, on any engine
and in any surroundings.
-/

namespace Scaffold

open Template

/-! ## What a key asks for -/

/-- The variables that a builtin template loops over, with the columns of their items. -/
def TemplateKey.tables (key : TemplateKey) : List (String × List String) :=
  match key.category, key.name with
  | .api, _ => [("imports", [])]
  | .rpc, "logic.tpl" => [("imports", [])]
  | .model, "model.tpl" => [("fields", ["name", "type_name", "column", "comment"])]
  | _, _ => []

/-- The required variables of a key with their shapes. -/
def TemplateKey.signature (key : TemplateKey) : Signature :=
  key.required.map fun name => (name, ((key.tables.lookup name).map Shape.rows).getD .single)

theorem TemplateKey.mem_keys {key : TemplateKey} (h : key.isBuiltin = true) :
    key ∈ key.category.keys := by
  obtain ⟨c, name⟩ := key
  obtain ⟨t, ht⟩ := Option.isSome_iff_exists.mp h
  have hname := List.find?_some ht
  obtain rfl : t.name = name := beq_iff_eq.mp hname
  exact List.mem_map_of_mem (List.mem_of_find?_eq_some ht)

theorem TemplateKey.exists_shape {key : TemplateKey} {name : String} (h : name ∈ key.required) :
    ∃ shape, key.signature.lookup name = some shape := by
  cases hlookup : key.signature.lookup name with
  | some shape => exact ⟨shape, rfl⟩
  | none =>
      have hne := List.lookup_eq_none_iff.mp hlookup _ (List.mem_map_of_mem h)
      exact absurd hne (by simp)

/-! ## Reading characters -/

namespace Template

/-- The templates that a text imports and its pieces, by its characters. -/
def Piece.ofChars (cs : List Char) : Option (List String × List Piece) :=
  let cs := skipComments cs.length cs
  let (imports, cs) := importTags cs.length cs
  (all?.go cs.length cs).map fun pieces => (imports, pieces)

/-- The nodes of a template with some characters, if it imports nothing. -/
def nodesOfChars? (cs : List Char) : Option (List Node) :=
  match Piece.ofChars cs with
  | some ([], pieces) =>
    match Node.body (4 * pieces.length + 4) .whole true false pieces with
    | some (nodes, []) => some nodes
    | _ => none
  | _ => none

variable {sig : Signature}

/-- Admitted nodes name no bodies. -/
theorem bodies_of_admitted {loops : List Row} {nodes : List Node}
    (h : areAdmitted sig loops nodes = true) :
    Node.blocksOf nodes = [] ∧ definitionsOf nodes = [] := by
  induction nodes with
  | nil => exact ⟨rfl, rfl⟩
  | cons node nodes ih =>
      rw [areAdmitted, Bool.and_eq_true] at h
      obtain ⟨hblocks, hdefinitions⟩ := ih h.2
      have hnode := h.1
      rw [Node.blocksOf, hblocks]
      unfold definitionsOf at hdefinitions ⊢
      cases node with
      | block name body => exact absurd hnode nofun
      | definition name params body => exact absurd hnode nofun
      | _ => exact ⟨rfl, hdefinitions⟩

theorem parse_of_admitted {name s : String} {nodes : List Node}
    (hnodes : nodesOfChars? s.toList = some nodes) (h : areAdmitted sig [] nodes = true) :
    Tree.parse name s = .ok ⟨nodes, [], [], []⟩ := by
  obtain ⟨hblocks, hdefinitions⟩ := bodies_of_admitted h
  unfold nodesOfChars? at hnodes
  split at hnodes
  · next pieces hpieces =>
    split at hnodes
    · next found hbody =>
      obtain rfl := Option.some.inj hnodes
      have hall : Piece.all? s = some ([], pieces) := hpieces
      unfold Tree.parse
      rw [hall]
      dsimp only
      rw [hbody]
      dsimp only
      rw [hblocks, hdefinitions]
      rfl
    · exact absurd hnodes nofun
  · exact absurd hnodes nofun

end Template

/-- Whether characters are those of a template that asks for the variables of a
key and for nothing else. -/
def TemplateKey.accepts (key : TemplateKey) (cs : List Char) : Bool :=
  match Piece.ofChars cs with
  | some ([], pieces) =>
    match Node.body (4 * pieces.length + 4) .whole true false pieces with
    | some (nodes, []) =>
      areAdmitted key.signature [] nodes &&
        (conditionNames nodes).all fun name => (key.signature.lookup name).isSome
    | _ => false
  | _ => false

/-- What accepts some characters admits their nodes and all that these ask for. -/
theorem TemplateKey.exists_nodes {key : TemplateKey} {cs : List Char}
    (h : key.accepts cs = true) : ∃ nodes, nodesOfChars? cs = some nodes ∧
      areAdmitted key.signature [] nodes = true ∧
        ∀ name ∈ conditionNames nodes, ∃ shape, key.signature.lookup name = some shape := by
  unfold accepts at h
  unfold nodesOfChars?
  split at h
  · next pieces hpieces =>
    split at h
    · next nodes hbody =>
      rw [Bool.and_eq_true, List.all_eq_true] at h
      exact ⟨nodes, rfl, h.1, fun name hname => Option.isSome_iff_exists.mp (h.2 name hname)⟩
    · exact absurd h nofun
  · exact absurd h nofun

/-- A text that is accepted has the text that its nodes say in every context that meets
the signature of the key, whatever engine renders it and wherever. -/
theorem TemplateKey.execute_of_nodes {key : TemplateKey} {text : String} {nodes : List Node}
    (h : key.accepts text.toList = true) (hnodes : nodesOfChars? text.toList = some nodes) :
    ∃ t, CompiledTemplate.compile key.text text = .ok t ∧
      ∀ c : Context, key.signature.Met c.values → ∀ engine world,
        (t.requiring key.required).execute c engine world =
          .ok (String.ofList (nodesSay nodes (.ofContext c.values))) := by
  obtain ⟨found, hfound, hadmitted, hconditions⟩ := exists_nodes h
  obtain rfl := Option.some.inj (hnodes.symm.trans hfound)
  have hparse : Tree.parse key.text text = .ok ⟨nodes, [], [], []⟩ :=
    parse_of_admitted hnodes hadmitted
  refine ⟨⟨key.text, ⟨nodes, [], [], []⟩, []⟩, ?_, fun c hmet engine world => ?_⟩
  · unfold CompiledTemplate.compile
    rw [hparse]
  · have hrender : Tree.render ⟨nodes, [], [], []⟩ key.text c.values engine world =
        some (.ok (String.ofList (nodesSay nodes (.ofContext c.values))), ⟨[⟨.whole, []⟩], world⟩) :=
      render_of_admitted rfl hadmitted hmet key.text engine world
    refine CompiledTemplate.execute_eq_ok_iff.mpr ⟨fun name hname => ?_, _, hrender⟩
    obtain ⟨shape, hshape⟩ : ∃ shape, key.signature.lookup name = some shape := by
      rcases List.mem_append.mp hname with hrequired | hcondition
      · exact exists_shape hrequired
      · exact hconditions name hcondition
    obtain ⟨v, hv, -⟩ := hmet name shape hshape
    unfold Context.contains
    rw [← Context.get?_values, hv]
    rfl

/-- What accepts the characters of a text has a text in every context that meets
the signature of the key. -/
theorem TemplateKey.exists_execute {key : TemplateKey} {text : String}
    (h : key.accepts text.toList = true) : ∃ t, CompiledTemplate.compile key.text text = .ok t ∧
      ∀ c : Context, key.signature.Met c.values → ∃ out, ∀ engine world,
        (t.requiring key.required).execute c engine world = .ok out := by
  obtain ⟨nodes, hnodes, -⟩ := exists_nodes h
  obtain ⟨t, hcompile, hexecute⟩ := execute_of_nodes h hnodes
  exact ⟨t, hcompile, fun c hmet => ⟨_, hexecute c hmet⟩⟩

/-! ## Characters of lines -/

namespace BuiltinText

/-- Lines with the characters that they come to, each line with those of its own. -/
inductive Spelled : List String → List Char → Prop
  | nil : Spelled [] []
  | cons {line : String} {lines : List String} {cs rest : List Char}
      (hline : line = String.ofList cs) (hrest : Spelled lines rest) :
      Spelled (line :: lines) (cs ++ '\n' :: rest)

theorem Spelled.toList_ofLines {lines : List String} {cs : List Char} (h : Spelled lines cs) :
    (ofLines lines).toList = cs := by
  unfold ofLines
  rw [String.toList_join]
  induction h with
  | nil => rfl
  | @cons line lines cs rest hline hrest ih =>
      rw [List.map_cons, List.flatMap_cons, ih, hline, String.toList_append, String.toList_ofList,
        List.append_assoc]
      rfl

theorem newline_mem_ofLines (line : String) (lines : List String) :
    '\n' ∈ (ofLines (line :: lines)).toList := by
  unfold ofLines
  rw [String.toList_join, List.map_cons, List.flatMap_cons, String.toList_append]
  simp

/-- A text is read as its characters are. -/
theorem Spelled.read {α : Type} (read : List Char → α) {lines : List String} {cs : List Char}
    {v : α} (h : Spelled lines cs) (hcs : read cs = v) : read (ofLines lines).toList = v := by
  rw [h.toList_ofLines]
  exact hcs

end BuiltinText

open BuiltinText

set_option maxRecDepth 4000 in
/-- Every builtin template asks for its required variables and for nothing else. -/
theorem TemplateKey.accepts_builtinText {key : TemplateKey} {text : String}
    (h : key.builtinText? = some text) : key.accepts text.toList = true := by
  obtain ⟨c, name⟩ := key
  unfold builtinText? at h
  dsimp only at h
  split at h
  case h_14 => exact absurd h nofun
  all_goals
    obtain rfl := Option.some.inj h
    apply Spelled.read (accepts _)
    · repeat
        apply Spelled.cons
        · exact rfl
      exact Spelled.nil
    · decide +kernel

/-- What a context makes of a builtin template: it has all variables in their
shapes, the template asks for no others, and so there is a text, the same on every
engine and in all surroundings. -/
structure TemplateKey.Serves (key : TemplateKey) (c : Context) : Prop where
  met : key.signature.Met c.values
  asks : ∀ text, key.builtinText? = some text → key.accepts text.toList = true
  renders : ∃ text t out, key.builtinText? = some text ∧
    CompiledTemplate.compile key.text text = .ok t ∧
    ∀ engine world, (t.requiring key.required).execute c engine world = .ok out

theorem TemplateKey.exists_builtinText {key : TemplateKey} (h : key.isBuiltin = true) :
    ∃ text, key.builtinText? = some text := by
  exact Option.isSome_iff_exists.mp (builtinText?_isSome_of_mem_keys _ key (mem_keys h))

theorem TemplateKey.serves_of_met {key : TemplateKey} {c : Context} (h : key.isBuiltin = true)
    (hmet : key.signature.Met c.values) : key.Serves c := by
  obtain ⟨text, htext⟩ := exists_builtinText h
  obtain ⟨t, hcompile, hexecute⟩ := exists_execute (accepts_builtinText htext)
  obtain ⟨out, hout⟩ := hexecute c hmet
  exact ⟨hmet, fun _ => accepts_builtinText, text, t, out, htext, hcompile, hout⟩

end Scaffold
