import Scaffold.Proofs.Template.Absence

/-!
# Scopes of conditions

A condition reads a name from outside unless something gives the name a value before
it: a loop around the condition, a tag that sets the name for its own body, or a tag
that sets it for the whole template. The scan of the conditions keeps one list of such
names and shortens it behind the body of a loop. So it knows all that a scope holds,
apart from what a loop has set for the whole template by the time that it ends.
-/

namespace Scaffold.Template

/-! ## Roots of paths -/

mutual

/-- The names at the roots of the paths whose values an expression asks for. A test
does not ask for the value that it is about. -/
def Expr.roots : Expr → List String
  | .mk operand _ filters => operand.roots ++ rootsOfCalls filters

def Operand.roots : Operand → List String
  | .name path => [rootName path]
  | .math _ left right | .logic _ left right | .member _ left right => left.roots ++ right.roots
  | .test _ _ _ args => rootsOfItems args
  | .call (.mk _ args) | .expand _ _ args => rootsOfArgs args
  | .list items => rootsOfItems items
  | .concat parts => rootsOfParts parts
  | .text _ | .int _ | .float _ | .bool _ => []

def rootsOfCalls : List Call → List String
  | [] => []
  | .mk _ args :: calls => rootsOfArgs args ++ rootsOfCalls calls

def rootsOfItems : List Expr → List String
  | [] => []
  | item :: items => item.roots ++ rootsOfItems items

def rootsOfParts : List Operand → List String
  | [] => []
  | part :: parts => part.roots ++ rootsOfParts parts

def rootsOfArgs : List (String × Expr) → List String
  | [] => []
  | (_, value) :: args => value.roots ++ rootsOfArgs args

end

/-! ## Scopes -/

/-- The names that have values at a point of a template. -/
structure Binders where
  /-- The names of the loops around the point. -/
  loops : List String
  /-- The names set for the body of the point, or for a body around it. -/
  sets : List String
  /-- The names set for the whole template in front of the point. -/
  globals : List String
  /-- Those of them that no loop which has ended, and no definition, has set. -/
  kept : List String

/-- The condition of a branch or the container of a loop, with what has values there. -/
structure Place where
  expr : Expr
  scope : Binders

/-- The name that a tag sets for its own body. -/
def Node.sets : Node → List String
  | .assign false name _ => [name]
  | _ => []

mutual

/-- The names that a node sets for the whole template: all of them, or those that no
loop and no definition in it sets. -/
def Node.globals (all : Bool) : Node → List String
  | .assign true name _ => [name]
  | .branch arms otherwise =>
    globalsOfArms all arms ++
      match otherwise with
      | some body => globalsOfNodes all body
      | none => []
  | .loop _ _ _ body otherwise =>
    (if all then globalsOfNodes all body else []) ++
      match otherwise with
      | some last => globalsOfNodes all last
      | none => []
  | .block _ body | .filtered _ body => globalsOfNodes all body
  | .definition _ _ body => if all then globalsOfNodes all body else []
  | _ => []

def globalsOfNodes (all : Bool) : List Node → List String
  | [] => []
  | node :: nodes => node.globals all ++ globalsOfNodes all nodes

def globalsOfArms (all : Bool) : List (Expr × List Node) → List String
  | [] => []
  | (_, body) :: arms => globalsOfNodes all body ++ globalsOfArms all arms

end

namespace Binders

/-- Where a template starts. -/
def top : Binders := ⟨[], [], [], []⟩

/-- Inside a loop. -/
def enter (s : Binders) (key : Option String) (item : String) : Binders :=
  { s with loops := key.toList ++ item :: "loop" :: s.loops }

/-- Behind a node of the same body. -/
def behind (s : Binders) (node : Node) : Binders :=
  { s with
    sets := node.sets ++ s.sets
    globals := node.globals true ++ s.globals
    kept := node.globals false ++ s.kept }

/-- Behind a body that has ended. -/
def behindBody (s : Binders) (body : List Node) : Binders :=
  { s with
    globals := globalsOfNodes true body ++ s.globals, kept := globalsOfNodes false body ++ s.kept }

/-- Behind the branches of a condition. -/
def behindArms (s : Binders) (arms : List (Expr × List Node)) : Binders :=
  { s with
    globals := globalsOfArms true arms ++ s.globals, kept := globalsOfArms false arms ++ s.kept }

/-- Behind the body of a loop that has ended. -/
def behindLoop (s : Binders) (body : List Node) : Binders :=
  { s with globals := globalsOfNodes true body ++ s.globals }

end Binders

mutual

/-- The conditions of branches and the containers of loops, each with its scope. -/
def Node.places (s : Binders) : Node → List Place
  | .branch arms otherwise =>
    placesOfArms s arms ++
      match otherwise with
      | some body => placesOfNodes (s.behindArms arms) body
      | none => []
  | .loop key item container body otherwise =>
    [⟨container, s⟩] ++ placesOfNodes (s.enter key item) body ++
      match otherwise with
      | some last => placesOfNodes (s.behindLoop body) last
      | none => []
  | .block _ body | .filtered _ body => placesOfNodes s body
  | _ => []

def placesOfNodes (s : Binders) : List Node → List Place
  | [] => []
  | node :: nodes => node.places s ++ placesOfNodes (s.behind node) nodes

def placesOfArms (s : Binders) : List (Expr × List Node) → List Place
  | [] => []
  | (condition, body) :: arms =>
    [⟨condition, s⟩] ++ placesOfNodes s body ++ placesOfArms (s.behindBody body) arms

end

/-- The conditions and containers of a whole template. -/
def Tree.places (tree : Tree) : List Place := placesOfNodes .top tree.nodes

/-! ## What the scan keeps -/

section

variable {k : String} {locals : List String}

theorem not_mem_of_isOutside (h : isOutside locals k = true) : k ∉ locals := by
  unfold isOutside at h
  simpa using (Bool.and_eq_true_iff.mp h).2

mutual

theorem Expr.roots_of_reads : ∀ e : Expr, k ∈ (e.reads locals).names → k ∈ e.roots ∧ k ∉ locals
  | .mk operand _ filters, h => by
      rw [Expr.reads] at h
      split at h
      · exact absurd h List.not_mem_nil
      · obtain ⟨hroots, hlocals⟩ := Operand.roots_of_reads operand h
        exact ⟨List.mem_append_left _ hroots, hlocals⟩

theorem Operand.roots_of_reads :
    ∀ operand : Operand, k ∈ (operand.reads locals).names → k ∈ operand.roots ∧ k ∉ locals
  | .name path, h => by
      rw [Operand.reads] at h
      split at h
      · next houtside =>
        obtain rfl := List.mem_singleton.mp h
        exact ⟨List.mem_singleton.mpr rfl, not_mem_of_isOutside houtside⟩
      · exact absurd h List.not_mem_nil
  | .math _ left right, h | .logic _ left right, h | .member _ left right, h => by
      rcases List.mem_append.mp h with h | h
      · obtain ⟨hroots, hlocals⟩ := Expr.roots_of_reads left h
        exact ⟨List.mem_append_left _ hroots, hlocals⟩
      · obtain ⟨hroots, hlocals⟩ := Expr.roots_of_reads right h
        exact ⟨List.mem_append_right _ hroots, hlocals⟩
  | .list items, h => roots_of_readsOfItems items h
  | .concat parts, h => roots_of_readsOfParts parts h
  | .call (.mk _ args), h => roots_of_readsOfArgs args h
  | .test _ _ _ _, h | .text _, h | .int _, h | .float _, h | .bool _, h | .expand _ _ _, h =>
      absurd h List.not_mem_nil

theorem roots_of_readsOfItems :
    ∀ items : List Expr, k ∈ (readsOfItems locals items).names →
      k ∈ rootsOfItems items ∧ k ∉ locals
  | [], h => absurd h List.not_mem_nil
  | item :: items, h => by
      rcases List.mem_append.mp h with h | h
      · obtain ⟨hroots, hlocals⟩ := Expr.roots_of_reads item h
        exact ⟨List.mem_append_left _ hroots, hlocals⟩
      · obtain ⟨hroots, hlocals⟩ := roots_of_readsOfItems items h
        exact ⟨List.mem_append_right _ hroots, hlocals⟩

theorem roots_of_readsOfParts :
    ∀ parts : List Operand, k ∈ (readsOfParts locals parts).names →
      k ∈ rootsOfParts parts ∧ k ∉ locals
  | [], h => absurd h List.not_mem_nil
  | part :: parts, h => by
      rcases List.mem_append.mp h with h | h
      · obtain ⟨hroots, hlocals⟩ := Operand.roots_of_reads part h
        exact ⟨List.mem_append_left _ hroots, hlocals⟩
      · obtain ⟨hroots, hlocals⟩ := roots_of_readsOfParts parts h
        exact ⟨List.mem_append_right _ hroots, hlocals⟩

theorem roots_of_readsOfArgs :
    ∀ args : List (String × Expr), k ∈ (readsOfArgs locals args).names →
      k ∈ rootsOfArgs args ∧ k ∉ locals
  | [], h => absurd h List.not_mem_nil
  | (_, value) :: args, h => by
      rcases List.mem_append.mp h with h | h
      · obtain ⟨hroots, hlocals⟩ := Expr.roots_of_reads value h
        exact ⟨List.mem_append_left _ hroots, hlocals⟩
      · obtain ⟨hroots, hlocals⟩ := roots_of_readsOfArgs args h
        exact ⟨List.mem_append_right _ hroots, hlocals⟩

end

mutual

/-- Behind a node the scan knows what it knew, and what the node has set for its own
body or, outside of loops, for the whole template. -/
theorem Node.known_behind : ∀ (node : Node) (locals : List String),
    k ∈ locals ∨ k ∈ node.sets ∨ k ∈ node.globals false → k ∈ (node.reads locals).2
  -- what is set for the whole template counts as global, what is set for the body does not
  | .assign true name _, locals, h => by
      rcases h with h | h | h
      · exact List.mem_cons_of_mem _ h
      · exact absurd h List.not_mem_nil
      · exact List.mem_singleton.mp h ▸ List.mem_cons_self
  | .assign false name _, locals, h => by
      rcases h with h | h | h
      · exact List.mem_cons_of_mem _ h
      · exact List.mem_singleton.mp h ▸ List.mem_cons_self
      · exact absurd h List.not_mem_nil
  | .branch arms none, locals, h => by
      rcases h with h | h | h
      · exact known_behindArms arms locals (.inl h)
      · exact absurd h List.not_mem_nil
      · rcases List.mem_append.mp h with h | h
        · exact known_behindArms arms locals (.inr h)
        · exact absurd h List.not_mem_nil
  | .branch arms (some body), locals, h => by
      rcases h with h | h | h
      · exact known_behindNodes body _ (.inl (known_behindArms arms locals (.inl h)))
      · exact absurd h List.not_mem_nil
      · rcases List.mem_append.mp h with h | h
        · exact known_behindNodes body _ (.inl (known_behindArms arms locals (.inr h)))
        · exact known_behindNodes body _ (.inr h)
  -- a body that may run no round leaves nothing behind
  | .loop _ _ _ body none, locals, h => by
      rcases h with h | h | h
      · exact h
      · exact absurd h List.not_mem_nil
      · exact absurd h List.not_mem_nil
  | .loop _ _ _ body (some last), locals, h => by
      rcases h with h | h | h
      · exact known_behindNodes last locals (.inl h)
      · exact absurd h List.not_mem_nil
      · exact known_behindNodes last locals (.inr h)
  | .block _ body, locals, h | .filtered _ body, locals, h => by
      rcases h with h | h | h
      · exact known_behindNodes body locals (.inl h)
      · exact absurd h List.not_mem_nil
      · exact known_behindNodes body locals (.inr h)
  | .definition _ _ _, locals, h | .text _, locals, h | .verbatim _, locals, h
  | .comment, locals, h | .output _, locals, h | .stop, locals, h | .skip, locals, h
  | .insert _ _, locals, h => by
      rcases h with h | h | h
      · exact h
      · exact absurd h List.not_mem_nil
      · exact absurd h List.not_mem_nil

theorem known_behindNodes : ∀ (nodes : List Node) (locals : List String),
    k ∈ locals ∨ k ∈ globalsOfNodes false nodes → k ∈ (readsOfNodes locals nodes).2
  | [], locals, h => by
      rcases h with h | h
      · exact h
      · exact absurd h List.not_mem_nil
  | node :: nodes, locals, h => by
      rcases h with h | h
      · exact known_behindNodes nodes _ (.inl (Node.known_behind node locals (.inl h)))
      · rcases List.mem_append.mp h with h | h
        · exact known_behindNodes nodes _ (.inl (Node.known_behind node locals (.inr (.inr h))))
        · exact known_behindNodes nodes _ (.inr h)

theorem known_behindArms : ∀ (arms : List (Expr × List Node)) (locals : List String),
    k ∈ locals ∨ k ∈ globalsOfArms false arms → k ∈ (readsOfArms locals arms).2
  | [], locals, h => by
      rcases h with h | h
      · exact h
      · exact absurd h List.not_mem_nil
  | (_, body) :: arms, locals, h => by
      rcases h with h | h
      · exact known_behindArms arms _ (.inl (known_behindNodes body locals (.inl h)))
      · rcases List.mem_append.mp h with h | h
        · exact known_behindArms arms _ (.inl (known_behindNodes body locals (.inr h)))
        · exact known_behindArms arms _ (.inr h)

end

end

/-! ## What the scan lists -/

namespace Binders

/-- A name that has a value at a point: from a loop around it, from its body or a body
around it, or for the whole template from outside of loops. -/
def Knows (s : Binders) (k : String) : Prop := k ∈ s.loops ∨ k ∈ s.sets ∨ k ∈ s.kept

/-- All that has a value at a point stands in a list. -/
def Within (s : Binders) (locals : List String) : Prop := ∀ k, s.Knows k → k ∈ locals

namespace Within

variable {s : Binders} {locals : List String}

theorem top (locals : List String) : Binders.top.Within locals := by
  rintro k (h | h | h) <;> exact absurd h List.not_mem_nil

theorem enter (h : s.Within locals) (key : Option String) (item : String) :
    (s.enter key item).Within (key.toList ++ item :: "loop" :: locals) := by
  have hkeep : ∀ k ∈ locals, k ∈ key.toList ++ item :: "loop" :: locals := fun k hk =>
    List.mem_append_right _ (List.mem_cons_of_mem _ (List.mem_cons_of_mem _ hk))
  rintro k (hk | hk | hk)
  · rcases List.mem_append.mp hk with hk | hk
    · exact List.mem_append_left _ hk
    · rcases List.mem_cons.mp hk with rfl | hk
      · exact List.mem_append_right _ List.mem_cons_self
      · rcases List.mem_cons.mp hk with rfl | hk
        · exact List.mem_append_right _ (List.mem_cons_of_mem _ List.mem_cons_self)
        · exact hkeep k (h k (.inl hk))
  · exact hkeep k (h k (.inr (.inl hk)))
  · exact hkeep k (h k (.inr (.inr hk)))

theorem behind (h : s.Within locals) (node : Node) :
    (s.behind node).Within (node.reads locals).2 := by
  rintro k (hk | hk | hk)
  · exact node.known_behind locals (.inl (h k (.inl hk)))
  · rcases List.mem_append.mp hk with hk | hk
    · exact node.known_behind locals (.inr (.inl hk))
    · exact node.known_behind locals (.inl (h k (.inr (.inl hk))))
  · rcases List.mem_append.mp hk with hk | hk
    · exact node.known_behind locals (.inr (.inr hk))
    · exact node.known_behind locals (.inl (h k (.inr (.inr hk))))

theorem behindBody (h : s.Within locals) (body : List Node) :
    (s.behindBody body).Within (readsOfNodes locals body).2 := by
  rintro k (hk | hk | hk)
  · exact known_behindNodes body locals (.inl (h k (.inl hk)))
  · exact known_behindNodes body locals (.inl (h k (.inr (.inl hk))))
  · rcases List.mem_append.mp hk with hk | hk
    · exact known_behindNodes body locals (.inr hk)
    · exact known_behindNodes body locals (.inl (h k (.inr (.inr hk))))

theorem behindArms (h : s.Within locals) (arms : List (Expr × List Node)) :
    (s.behindArms arms).Within (readsOfArms locals arms).2 := by
  rintro k (hk | hk | hk)
  · exact known_behindArms arms locals (.inl (h k (.inl hk)))
  · exact known_behindArms arms locals (.inl (h k (.inr (.inl hk))))
  · rcases List.mem_append.mp hk with hk | hk
    · exact known_behindArms arms locals (.inr hk)
    · exact known_behindArms arms locals (.inl (h k (.inr (.inr hk))))

end Within

end Binders

/-- A condition or a container asks for a name that has no value where it stands. -/
def Lacks (places : List Place) (k : String) : Prop :=
  ∃ place ∈ places, k ∈ place.expr.roots ∧ ¬ place.scope.Knows k

section

variable {k : String}

theorem Lacks.left {places more : List Place} (h : Lacks places k) :
    Lacks (places ++ more) k := by
  obtain ⟨place, hmem, h⟩ := h
  exact ⟨place, List.mem_append_left _ hmem, h⟩

theorem Lacks.right {places more : List Place} (h : Lacks more k) :
    Lacks (places ++ more) k := by
  obtain ⟨place, hmem, h⟩ := h
  exact ⟨place, List.mem_append_right _ hmem, h⟩

/-- What the scan finds in an expression has no value at the point of the expression. -/
theorem lacks_of_reads {s : Binders} {locals : List String} (hs : s.Within locals) {e : Expr}
    (h : k ∈ (e.reads locals).names) : Lacks [⟨e, s⟩] k := by
  obtain ⟨hroots, hlocals⟩ := e.roots_of_reads h
  exact ⟨⟨e, s⟩, List.mem_singleton.mpr rfl, hroots, fun hk => hlocals (hs k hk)⟩

mutual

theorem Node.lacks_of_reads : ∀ (node : Node) {s : Binders} {locals : List String},
    s.Within locals → k ∈ (node.reads locals).1.names → Lacks (node.places s) k
  | .branch arms none, s, locals, hs, h => Lacks.left (lacks_of_readsArms arms hs h)
  | .branch arms (some body), s, locals, hs, h => by
      rcases List.mem_append.mp h with h | h
      · exact Lacks.left (lacks_of_readsArms arms hs h)
      · exact Lacks.right (lacks_of_readsNodes body (hs.behindArms arms) h)
  | .loop key item container body none, s, locals, hs, h => by
      rcases List.mem_append.mp h with h | h
      · exact (Template.lacks_of_reads hs h).left.left
      · exact (lacks_of_readsNodes body (hs.enter key item) h).right.left
  | .loop key item container body (some last), s, locals, hs, h => by
      rcases List.mem_append.mp h with h | h
      · rcases List.mem_append.mp h with h | h
        · exact (Template.lacks_of_reads hs h).left.left
        · exact (lacks_of_readsNodes body (hs.enter key item) h).right.left
      · have hbehind : (s.behindLoop body).Within locals := hs
        exact (lacks_of_readsNodes last hbehind h).right
  | .block _ body, s, locals, hs, h | .filtered _ body, s, locals, hs, h =>
      lacks_of_readsNodes body hs h
  | .assign _ _ _, s, locals, hs, h | .definition _ _ _, s, locals, hs, h
  | .text _, s, locals, hs, h | .verbatim _, s, locals, hs, h | .comment, s, locals, hs, h
  | .output _, s, locals, hs, h | .stop, s, locals, hs, h | .skip, s, locals, hs, h
  | .insert _ _, s, locals, hs, h => absurd h List.not_mem_nil

theorem lacks_of_readsNodes : ∀ (nodes : List Node) {s : Binders} {locals : List String},
    s.Within locals → k ∈ (readsOfNodes locals nodes).1.names → Lacks (placesOfNodes s nodes) k
  | [], s, locals, hs, h => absurd h List.not_mem_nil
  | node :: nodes, s, locals, hs, h => by
      rcases List.mem_append.mp h with h | h
      · exact (Node.lacks_of_reads node hs h).left
      · exact (lacks_of_readsNodes nodes (hs.behind node) h).right

theorem lacks_of_readsArms : ∀ (arms : List (Expr × List Node)) {s : Binders}
    {locals : List String}, s.Within locals → k ∈ (readsOfArms locals arms).1.names →
      Lacks (placesOfArms s arms) k
  | [], s, locals, hs, h => absurd h List.not_mem_nil
  | (condition, body) :: arms, s, locals, hs, h => by
      rcases List.mem_append.mp h with h | h
      · rcases List.mem_append.mp h with h | h
        · exact (Template.lacks_of_reads hs h).left.left
        · exact (lacks_of_readsNodes body hs h).right.left
      · exact (lacks_of_readsArms arms (hs.behindBody body) h).right

end

end

end Scaffold.Template

namespace Scaffold.CompiledTemplate

open Template

/-- A name that the scan lists is asked for by a condition or a container at a point
where nothing gives it a value, other than loops that have ended and definitions. -/
theorem lacks_of_mem_conditions {t : CompiledTemplate} {k : String} (h : k ∈ t.conditions) :
    Lacks t.tree.places k := by
  obtain ⟨hmem, -⟩ := List.mem_filter.mp h
  exact lacks_of_readsNodes t.tree.nodes (Binders.Within.top []) (Reads.mem_distinct.mp hmem)

/-- The scan of the conditions follows the scopes of a template, where what is set for the
whole template is set outside of loops that have ended. A name that it lists is asked for
by a condition or a container at a point where no loop and no tag in front gives it a
value. And a template that gives the name a value before each condition or container that
asks for it is never refused for the lack of it. -/
theorem conditions_follow_scopes {t : CompiledTemplate} {k : String}
    (hkept : ∀ place ∈ t.tree.places, k ∈ place.expr.roots → k ∈ place.scope.globals →
      k ∈ place.scope.kept) :
    (k ∈ t.conditions → ∃ place ∈ t.tree.places, k ∈ place.expr.roots ∧
      k ∉ place.scope.loops ∧ k ∉ place.scope.sets ∧ k ∉ place.scope.globals) ∧
    ((∀ place ∈ t.tree.places, k ∈ place.expr.roots →
        k ∈ place.scope.loops ∨ k ∈ place.scope.sets ∨ k ∈ place.scope.globals) →
      ∀ (required : List String) (context : Context), k ∉ required →
        (t.requiring required).firstMissing? context ≠ some k) := by
  have hlisted : k ∈ t.conditions → ∃ place ∈ t.tree.places, k ∈ place.expr.roots ∧
      k ∉ place.scope.loops ∧ k ∉ place.scope.sets ∧ k ∉ place.scope.globals := by
    intro h
    obtain ⟨place, hplace, hroots, hunknown⟩ := lacks_of_mem_conditions h
    exact ⟨place, hplace, hroots, fun hk => hunknown (.inl hk),
      fun hk => hunknown (.inr (.inl hk)),
      fun hk => hunknown (.inr (.inr (hkept place hplace hroots hk)))⟩
  refine ⟨hlisted, fun hbound required context hrequired hmissing => ?_⟩
  rcases List.mem_append.mp (List.mem_of_find?_eq_some hmissing) with hk | hk
  · exact hrequired hk
  · obtain ⟨place, hplace, hroots, hloops, hsets, hglobals⟩ := hlisted hk
    rcases hbound place hplace hroots with h | h | h
    · exact hloops h
    · exact hsets h
    · exact hglobals h

/-- A template that sets a name for the whole template before all that asks for it. -/
def announced : String :=
  "\x7b% set_global found = true %\x7d\x7b% for i in items %\x7d\x7b% set_global last = i %\x7d" ++
    "\x7b% if found and last %\x7d\x7b\x7b last \x7d\x7d\x7b% endif %\x7d\x7b% endfor %\x7d" ++
    "\x7b% if found %\x7dyes\x7b% endif %\x7d"

theorem conditions_follow_scopes_announced : ∃ t, compile "t" announced = .ok t ∧
    (∃ place ∈ t.tree.places, "items" ∈ place.expr.roots ∧ "items" ∉ place.scope.loops ∧
      "items" ∉ place.scope.sets ∧ "items" ∉ place.scope.globals) ∧
    (t.requiring ["items"]).firstMissing? .empty ≠ some "found" ∧
    (t.requiring ["items"]).firstMissing? .empty ≠ some "last" := by
  obtain ⟨t, hcompile, h⟩ : ∃ t, compile "t" announced = .ok t ∧
      decide ("items" ∈ t.conditions ∧ (∀ k ∈ ["items", "found", "last"],
        ∀ place ∈ t.tree.places, k ∈ place.expr.roots → k ∈ place.scope.globals →
          k ∈ place.scope.kept) ∧
        ∀ k ∈ ["found", "last"], ∀ place ∈ t.tree.places, k ∈ place.expr.roots →
          k ∈ place.scope.loops ∨ k ∈ place.scope.sets ∨ k ∈ place.scope.globals) = true :=
    exists_of_satisfies (by decide +kernel)
  obtain ⟨hlisted, hkept, hbound⟩ := of_decide_eq_true h
  exact ⟨t, hcompile, (conditions_follow_scopes (hkept "items" (by decide))).1 hlisted,
    (conditions_follow_scopes (hkept "found" (by decide))).2 (hbound "found" (by decide))
      ["items"] .empty (by decide),
    (conditions_follow_scopes (hkept "last" (by decide))).2 (hbound "last" (by decide))
      ["items"] .empty (by decide)⟩

/-- A template that sets a name for the whole template in a loop and asks for it behind. -/
def forgotten : String :=
  "\x7b% for i in items %\x7d\x7b% set_global found = true %\x7d\x7b% endfor %\x7d" ++
    "\x7b% if found %\x7dyes\x7b% endif %\x7d"

/-- What a loop has set for the whole template is forgotten when the loop ends: the name is
asked for at no point without a value, and still the template is refused without it. -/
theorem conditions_forget_globals_of_loops : ∃ t, compile "t" forgotten = .ok t ∧
    "found" ∈ t.conditions ∧
    (¬ ∃ place ∈ t.tree.places, "found" ∈ place.expr.roots ∧ "found" ∉ place.scope.loops ∧
      "found" ∉ place.scope.sets ∧ "found" ∉ place.scope.globals) ∧
    t.execute (.ofList [("items", .list [.bool true])]) = .error (.missingContextKey "t" "found") ∧
    t.execute (.ofList [("items", .list [.bool true]), ("found", .bool false)]) = .ok "yes" := by
  obtain ⟨t, hcompile, h⟩ : ∃ t, compile "t" forgotten = .ok t ∧
      decide ("found" ∈ t.conditions ∧
        (¬ ∃ place ∈ t.tree.places, "found" ∈ place.expr.roots ∧ "found" ∉ place.scope.loops ∧
          "found" ∉ place.scope.sets ∧ "found" ∉ place.scope.globals) ∧
        t.execute (.ofList [("items", .list [.bool true])]) =
          .error (.missingContextKey "t" "found") ∧
        t.execute (.ofList [("items", .list [.bool true]), ("found", .bool false)]) =
          .ok "yes") = true :=
    exists_of_satisfies (by decide +kernel)
  exact ⟨t, hcompile, of_decide_eq_true h⟩

end Scaffold.CompiledTemplate
