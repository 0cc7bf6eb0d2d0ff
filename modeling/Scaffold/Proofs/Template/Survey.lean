import Scaffold.Proofs.Template.Paths
import Scaffold.Proofs.Traversal
import Scaffold.Template.Rendering

/-!
# Where a template looks names up

Some places take a name without a value for an answer: a bare name in a
condition is false, `not` in front of a name is true, and a test may answer for
what does not exist. A survey of a template lists the paths that it looks up,
and apart from them those at such places: the ones whose root the scan of the
conditions lists, and the hidden ones that nothing asks for beforehand.
-/

namespace Scaffold.Template

/-- What a part of a template looks up, binds and calls. -/
structure Survey where
  /-- The names of filters. -/
  filters : List String
  /-- The functions that are called. -/
  functions : List String
  /-- The paths that tests are about. -/
  tests : List String
  /-- The names that get a value in the template. -/
  bound : List String
  /-- Paths that fail to render without a value. -/
  reported : List String
  /-- The definitions that are expanded. -/
  expansions : List String
  /-- Paths without a value for which there is an answer, and that the scan reads. -/
  guarded : List String
  /-- Paths without a value for which there is an answer, and that the scan does
  not read. -/
  hidden : List String
  /-- The definitions whose failure is an answer. -/
  hiddenExpansions : List String

namespace Survey

def none : Survey := ⟨[], [], [], [], [], [], [], [], []⟩

def append (s t : Survey) : Survey :=
  ⟨s.filters ++ t.filters, s.functions ++ t.functions, s.tests ++ t.tests, s.bound ++ t.bound,
    s.reported ++ t.reported, s.expansions ++ t.expansions, s.guarded ++ t.guarded,
    s.hidden ++ t.hidden, s.hiddenExpansions ++ t.hiddenExpansions⟩

instance : Append Survey := ⟨append⟩

/-- Every path that is looked up. -/
def paths (s : Survey) : List String := s.reported ++ s.tests ++ s.guarded ++ s.hidden

theorem mem_paths_append {s t : Survey} {path : String} :
    path ∈ (s ++ t).paths ↔ path ∈ s.paths ∨ path ∈ t.paths := by
  show path ∈ (s.reported ++ t.reported) ++ (s.tests ++ t.tests) ++ (s.guarded ++ t.guarded) ++
    (s.hidden ++ t.hidden) ↔ _
  unfold paths
  simp only [List.mem_append]
  grind

def ofFilter (name : String) : Survey := ⟨[name], [], [], [], [], [], [], [], []⟩

def ofFunction (name : String) : Survey := ⟨[], [name], [], [], [], [], [], [], []⟩

def ofBound (names : List String) : Survey := ⟨[], [], [], names, [], [], [], [], []⟩

def ofExpansion (name : String) : Survey := ⟨[], [], [], [], [], [name], [], [], []⟩

/-- A path that has to have a value. -/
def ofPath (path : String) : Survey := ⟨[], [], [], [], [path], [], [], [], []⟩

/-- What stays hidden of a path whose root is asked for. -/
def behindRoot (path : String) : List String :=
  if isName (rootName path) then innerPaths path.toList else [path]

/-- A path that a test is about. -/
def ofTest (path : String) : Survey := ⟨[], [], [path], [], [], [], [], behindRoot path, []⟩

/-- A path without which there is an answer. -/
def ofBare (scanned : Bool) (path : String) : Survey :=
  if scanned && isName (rootName path) then
    ⟨[], [], [], [], [], [], [path], innerPaths path.toList, []⟩
  else ⟨[], [], [], [], [], [], [], [path], []⟩

/-- A part any failure of which is an answer. -/
def hide (s : Survey) : Survey :=
  ⟨s.filters, s.functions, s.tests, s.bound, s.reported, s.expansions, s.guarded,
    s.hidden ++ s.paths, s.hiddenExpansions ++ s.expansions⟩

/-- What is true of the parts when it is true of the whole. -/
structure Hereditary (P : Survey → Prop) : Prop where
  left : ∀ {s t : Survey}, P (s ++ t) → P s
  right : ∀ {s t : Survey}, P (s ++ t) → P t
  hidden : ∀ {s : Survey}, P s.hide → P s

/-- Whether no function is called that only the surroundings can answer. -/
def AsksNothing (s : Survey) : Prop := ∀ name ∈ s.functions, name ∉ Function.asking

instance (s : Survey) : Decidable s.AsksNothing :=
  inferInstanceAs (Decidable (∀ name ∈ s.functions, name ∉ Function.asking))

namespace AsksNothing

variable {s t : Survey}

theorem left (h : (s ++ t).AsksNothing) : s.AsksNothing :=
  fun name hname => h name (List.mem_append_left _ hname)

theorem right (h : (s ++ t).AsksNothing) : t.AsksNothing :=
  fun name hname => h name (List.mem_append_right _ hname)

theorem hereditary : Hereditary AsksNothing := ⟨left, right, fun h => h⟩

end AsksNothing

/-- Whether nothing goes through the filter `default`. -/
def LacksDefault (s : Survey) : Prop := "default" ∉ s.filters

namespace LacksDefault

variable {s t : Survey}

theorem left (h : (s ++ t).LacksDefault) : s.LacksDefault :=
  fun hmem => h (List.mem_append_left _ hmem)

theorem right (h : (s ++ t).LacksDefault) : t.LacksDefault :=
  fun hmem => h (List.mem_append_right _ hmem)

end LacksDefault

end Survey

/-- Whether an operator asks for the truth of its sides. -/
def LogicOp.asksTruth : LogicOp → Bool
  | .or | .and => true
  | .eq | .ne | .lt | .le | .gt | .ge => false

mutual

/-- The survey of an expression. `tested` says that its truth is asked for and
`scanned` that the scan of the conditions reads it. -/
def Expr.survey (tested scanned : Bool) : Expr → Survey
  | .mk operand negated filters =>
    match operand with
    | .name path =>
      (if tested || negated then .ofBare scanned path else .ofPath path) ++
        (if tested then (surveyOfCalls filters).hide else surveyOfCalls filters)
    | operand => operand.survey scanned ++ surveyOfCalls filters

def Operand.survey (scanned : Bool) : Operand → Survey
  | .name path => .ofPath path
  | .math _ left right => left.survey false scanned ++ right.survey false scanned
  | .logic op left right => left.survey op.asksTruth scanned ++ right.survey op.asksTruth scanned
  | .member _ item container => item.survey false scanned ++ container.survey false scanned
  | .test path _ _ args => .ofTest path ++ surveyOfItems false args
  | .call (.mk name args) => .ofFunction name ++ surveyOfArgs scanned args
  | .expand _ name args => .ofExpansion name ++ surveyOfArgs false args
  | .list items => surveyOfItems scanned items
  | .concat parts => surveyOfParts scanned parts
  | .text _ | .int _ | .float _ | .bool _ => .none

/-- The survey of filters. -/
def surveyOfCalls : List Call → Survey
  | [] => .none
  | .mk name args :: calls => .ofFilter name ++ surveyOfArgs false args ++ surveyOfCalls calls

def surveyOfItems (scanned : Bool) : List Expr → Survey
  | [] => .none
  | item :: items => item.survey false scanned ++ surveyOfItems scanned items

def surveyOfParts (scanned : Bool) : List Operand → Survey
  | [] => .none
  | part :: parts => part.survey scanned ++ surveyOfParts scanned parts

def surveyOfArgs (scanned : Bool) : List (String × Expr) → Survey
  | [] => .none
  | (_, value) :: args => value.survey false scanned ++ surveyOfArgs scanned args

end

theorem survey_of_operand {operand : Operand} (h : ∀ path, operand ≠ .name path)
    (tested scanned negated : Bool) (filters : List Call) :
    (Expr.mk operand negated filters).survey tested scanned =
      operand.survey scanned ++ surveyOfCalls filters := by
  cases operand with
  | name path => exact absurd rfl (h path)
  | _ => rfl

mutual

/-- The survey of a node. The scan does not read definitions. -/
def Node.survey (scanned : Bool) : Node → Survey
  | .output e => e.survey false false
  | .assign _ name e => .ofBound [name] ++ e.survey false false
  | .branch arms otherwise =>
    surveyOfArms scanned arms ++
      match otherwise with
      | some body => surveyOfNodes scanned body
      | none => .none
  | .loop key item container body otherwise =>
    .ofBound (key.toList ++ [item, "loop"]) ++ container.survey false scanned ++
      surveyOfNodes scanned body ++
      match otherwise with
      | some body => surveyOfNodes scanned body
      | none => .none
  | .block _ body => surveyOfNodes scanned body
  | .filtered filter body => surveyOfCalls [filter] ++ surveyOfNodes scanned body
  | .definition _ params body => .ofBound (params.map (·.1)) ++ surveyOfNodes false body
  | .text _ | .verbatim _ | .comment | .stop | .skip | .insert _ _ => .none

def surveyOfNodes (scanned : Bool) : List Node → Survey
  | [] => .none
  | node :: nodes => node.survey scanned ++ surveyOfNodes scanned nodes

def surveyOfArms (scanned : Bool) : List (Expr × List Node) → Survey
  | [] => .none
  | (condition, body) :: arms =>
    condition.survey true scanned ++ surveyOfNodes scanned body ++ surveyOfArms scanned arms

end

/-- The survey of a whole template. -/
def Tree.survey (tree : Tree) : Survey := surveyOfNodes true tree.nodes

/-! ## Bodies that are reached by name -/

/-- The bodies that are reached by name, and the template itself. -/
def Tree.bodies (tree : Tree) : List (List Node) :=
  tree.nodes :: (tree.blocks.map (·.2) ++ tree.definitions.map (·.body))

theorem block_mem_bodies {tree : Tree} {name : String} {body : List Node}
    (h : tree.blocks.lookup name = some body) : body ∈ tree.bodies := by
  refine List.mem_cons_of_mem _ (List.mem_append_left _ (List.mem_map.mpr ⟨(name, body), ?_, rfl⟩))
  exact mem_of_lookup h

/-- Whether the bodies that names stand for are those of the nodes. -/
structure Tree.Gathered (tree : Tree) : Prop where
  blocks : tree.blocks = Node.blocksOf tree.nodes
  definitions : tree.definitions = definitionsOf tree.nodes

theorem gathered_of_parse {name text : String} {tree : Tree}
    (h : Tree.parse name text = .ok tree) : tree.Gathered := by
  unfold Tree.parse at h
  split at h
  · exact absurd h (by simp)
  · split at h
    · dsimp only at h
      split at h
      · exact absurd h (by simp)
      · exact absurd h (by simp)
      · exact absurd h (by simp)
      · obtain rfl := Except.ok.inj h
        exact ⟨rfl, rfl⟩
    · exact absurd h (by simp)

section

variable {P : Survey → Prop}

mutual

theorem Node.survey_block (hP : Survey.Hereditary P) {name : String} {body : List Node} :
    ∀ (node : Node) {scanned : Bool}, (name, body) ∈ node.blocks → P (node.survey scanned) →
      P (surveyOfNodes scanned body)
  | .block target inner, _, hmem, h => by
      rw [Node.survey] at h
      rw [Node.blocks] at hmem
      rcases List.mem_cons.mp hmem with heq | hmem
      · obtain ⟨-, rfl⟩ := Prod.mk.inj heq
        exact h
      · exact survey_blocksOf hP inner hmem h
  | .text _, _, hmem, _ | .verbatim _, _, hmem, _ | .comment, _, hmem, _ | .output _, _, hmem, _
  | .assign _ _ _, _, hmem, _ | .branch _ _, _, hmem, _ | .loop _ _ _ _ _, _, hmem, _
  | .filtered _ _, _, hmem, _ | .definition _ _ _, _, hmem, _ | .stop, _, hmem, _
  | .skip, _, hmem, _ | .insert _ _, _, hmem, _ => by
      simp [Node.blocks] at hmem

theorem survey_blocksOf (hP : Survey.Hereditary P) {name : String} {body : List Node} :
    ∀ (nodes : List Node) {scanned : Bool}, (name, body) ∈ Node.blocksOf nodes →
      P (surveyOfNodes scanned nodes) → P (surveyOfNodes scanned body)
  | [], _, hmem, _ => by simp [Node.blocksOf] at hmem
  | node :: nodes, _, hmem, h => by
      rw [surveyOfNodes] at h
      rw [Node.blocksOf] at hmem
      rcases List.mem_append.mp hmem with hmem | hmem
      · exact Node.survey_block hP node hmem (hP.left h)
      · exact survey_blocksOf hP nodes hmem (hP.right h)

end

theorem survey_node (hP : Survey.Hereditary P) {node : Node} {nodes : List Node} {scanned : Bool}
    (hmem : node ∈ nodes) (h : P (surveyOfNodes scanned nodes)) : P (node.survey scanned) := by
  induction nodes with
  | nil => exact absurd hmem List.not_mem_nil
  | cons first nodes ih =>
      rw [surveyOfNodes] at h
      rcases List.mem_cons.mp hmem with rfl | hmem
      · exact hP.left h
      · exact ih hmem (hP.right h)

theorem survey_definitionsOf (hP : Survey.Hereditary P) {d : Definition} {nodes : List Node}
    {scanned : Bool} (hmem : d ∈ definitionsOf nodes) (h : P (surveyOfNodes scanned nodes)) :
    P (surveyOfNodes false d.body) := by
  obtain ⟨node, hnode, hd⟩ := List.mem_filterMap.mp hmem
  split at hd
  · next name params body =>
      obtain rfl := Option.some.inj hd
      have hdefinition := survey_node hP hnode h
      rw [Node.survey] at hdefinition
      exact hP.right hdefinition
  · exact absurd hd (by simp)

/-- What is true of the whole template is true of the bodies that are reached by name. -/
theorem survey_bodies (hP : Survey.Hereditary P) {tree : Tree} (hgathered : tree.Gathered)
    (h : P tree.survey) {body : List Node} (hbody : body ∈ tree.bodies) :
    ∃ scanned, P (surveyOfNodes scanned body) := by
  rcases List.mem_cons.mp hbody with rfl | hbody
  · exact ⟨true, h⟩
  · rcases List.mem_append.mp hbody with hbody | hbody
    · obtain ⟨⟨name, inner⟩, hmem, rfl⟩ := List.mem_map.mp hbody
      rw [hgathered.blocks] at hmem
      exact ⟨true, survey_blocksOf hP tree.nodes hmem h⟩
    · obtain ⟨d, hmem, rfl⟩ := List.mem_map.mp hbody
      rw [hgathered.definitions] at hmem
      exact ⟨false, survey_definitionsOf hP hmem h⟩

end

end Scaffold.Template
