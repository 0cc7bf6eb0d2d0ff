import Mathlib.Control.Monad.Basic
import Scaffold.Proofs.Template.Extension
import Scaffold.Proofs.Template.Scan
import Scaffold.Template.Compiled

/-!
# No silent defaults

Executing a template asks the context for the names that its conditions read, so
that a name without a value fails there as it does in an output. A rendering
that succeeds without a name then succeeds with it, and with the same text. The
scan of the conditions does not look everywhere, though: the paths that a survey
calls hidden are the exceptions.
-/

namespace Scaffold.Template

section

variable {x : String} {unmentioned : Prop} {strict : Bool} {stage stage' : Stage}

/-! ## Bodies -/

theorem agrees_renderRounds {body body' : Eval String} (h : Agrees strict body body')
    (rounds : Nat) : Agrees strict (renderRounds body rounds) (renderRounds body' rounds) := by
  induction rounds with
  | zero => exact Agrees.refl _
  | succ rounds ih =>
      rw [renderRounds, renderRounds]
      refine h.bind fun text => (Agrees.refl Eval.frames).bind fun frames => ?_
      split
      · exact Agrees.refl _
      · exact (Agrees.refl _).bind fun _ => ih.bind fun _ => Agrees.refl _

theorem agrees_applySection (h : StageExtends x unmentioned stage stage') {filter : Call}
    (hclear : (surveyOfCalls [filter]).Clear x unmentioned strict) (text : String) :
    Agrees strict (applySection stage filter text) (applySection stage' filter text) := by
  obtain ⟨name, args⟩ := filter
  rw [surveyOfCalls] at hclear
  unfold applySection
  split
  · exact Agrees.refl _
  · exact (agrees_apply h (agrees_argValues h args hclear.left.right) _).bind fun _ =>
      Agrees.refl _

/-- A loop agrees when its container and its bodies do. -/
theorem agrees_loop {key : Option String} {item : String} {container : Expr} {body : List Node}
    {otherwise : Option (List Node)}
    (hcontainer : Agrees strict (container.value stage) (container.value stage'))
    (hbody : Agrees strict (renderNodes stage body) (renderNodes stage' body))
    (hotherwise : ∀ last, otherwise = some last →
      Agrees strict (renderNodes stage last) (renderNodes stage' last)) :
    Agrees strict ((Node.loop key item container body otherwise).render stage)
      ((Node.loop key item container body otherwise).render stage') := by
  cases otherwise with
  | none =>
      rw [Node.render, Node.render]
      refine (Agrees.refl _).bind fun place => hcontainer.bind fun v =>
        (Agrees.refl _).bind fun items => ?_
      split
      · exact Agrees.refl _
      · exact (Agrees.refl _).bind fun _ => (agrees_renderRounds hbody _).bind fun _ =>
          Agrees.refl _
  | some last =>
      rw [Node.render, Node.render]
      refine (Agrees.refl _).bind fun place => hcontainer.bind fun v =>
        (Agrees.refl _).bind fun items => ?_
      split
      · exact hotherwise last rfl
      · exact (Agrees.refl _).bind fun _ => (agrees_renderRounds hbody _).bind fun _ =>
          Agrees.refl _

mutual

theorem Node.agrees (h : StageExtends x unmentioned stage stage')
    (hstrict : strict = true → unmentioned) : ∀ (node : Node) {scanned : Bool},
      (node.survey scanned).Clear x unmentioned strict →
      Agrees strict (node.render stage) (node.render stage')
  | .output e, _, hclear => by
      rw [Node.survey] at hclear
      rw [Node.render, Node.render]
      exact (Expr.agrees_value h e hclear).bind fun _ => Agrees.refl _
  | .assign _ _ e, _, hclear => by
      rw [Node.survey] at hclear
      rw [Node.render, Node.render]
      exact (Expr.agrees_value h e hclear.right).bind fun _ => Agrees.refl _
  | .branch arms none, _, hclear => by
      rw [Node.survey] at hclear
      rw [Node.render, Node.render]
      exact (agrees_renderArms h hstrict arms hclear.left).bind fun _ => Agrees.refl _
  | .branch arms (some body), _, hclear => by
      rw [Node.survey] at hclear
      rw [Node.render, Node.render]
      refine (agrees_renderArms h hstrict arms hclear.left).bind fun chosen => ?_
      cases chosen with
      | some text => exact Agrees.refl _
      | none => exact agrees_renderNodes h hstrict body hclear.right
  | .loop key item container body none, _, hclear => by
      rw [Node.survey] at hclear
      exact agrees_loop (Expr.agrees_value h container hclear.left.left.right)
        (agrees_renderNodes h hstrict body hclear.left.right) (fun _ he => absurd he (by simp))
  | .loop key item container body (some last), _, hclear => by
      rw [Node.survey] at hclear
      have hlast := agrees_renderNodes h hstrict last hclear.right
      exact agrees_loop (Expr.agrees_value h container hclear.left.left.right)
        (agrees_renderNodes h hstrict body hclear.left.right)
        (fun _ he => Option.some.inj he ▸ hlast)
  -- the body that the name of a block stands for need not be the one that stands here
  | .block name body, _, hclear => by
      rw [Node.survey] at hclear
      rw [Node.render, Node.render, h.tree]
      cases hbody : stage.tree.blocks.lookup name with
      | some body => exact h.bodies hstrict (block_mem_bodies hbody)
      | none => exact agrees_renderNodes h hstrict body hclear
  | .filtered filter body, _, hclear => by
      rw [Node.survey] at hclear
      rw [Node.render, Node.render]
      exact (agrees_renderNodes h hstrict body hclear.right).bind
        (agrees_applySection h hclear.left)
  | .insert names optional, _, _ => by
      rw [Node.render, Node.render, h.template, h.tree]
      split
      · exact (Agrees.refl _).bind fun _ =>
          (h.bodies hstrict List.mem_cons_self).bind fun _ => Agrees.refl _
      · exact Agrees.refl _
  | .definition _ _ _, _, _ | .text _, _, _ | .verbatim _, _, _ | .comment, _, _ | .stop, _, _
  | .skip, _, _ => by
      rw [Node.render, Node.render]
      exact Agrees.refl _

theorem agrees_renderNodes (h : StageExtends x unmentioned stage stage')
    (hstrict : strict = true → unmentioned) : ∀ (nodes : List Node) {scanned : Bool},
      (surveyOfNodes scanned nodes).Clear x unmentioned strict →
      Agrees strict (renderNodes stage nodes) (renderNodes stage' nodes)
  | [], _, _ => by
      rw [renderNodes, renderNodes]
      exact Agrees.refl _
  | node :: nodes, _, hclear => by
      rw [surveyOfNodes] at hclear
      rw [renderNodes, renderNodes]
      refine (Node.agrees h hstrict node hclear.left).bind fun text =>
        (Agrees.refl Eval.frames).bind fun frames => ?_
      split
      · exact (agrees_renderNodes h hstrict nodes hclear.right).bind fun _ => Agrees.refl _
      · exact Agrees.refl _

theorem agrees_renderArms (h : StageExtends x unmentioned stage stage')
    (hstrict : strict = true → unmentioned) :
    ∀ (arms : List (Expr × List Node)) {scanned : Bool},
      (surveyOfArms scanned arms).Clear x unmentioned strict →
      Agrees strict (renderArms stage arms) (renderArms stage' arms)
  | [], _, _ => by
      rw [renderArms, renderArms]
      exact Agrees.refl _
  | (condition, body) :: arms, _, hclear => by
      rw [surveyOfArms] at hclear
      rw [renderArms, renderArms]
      refine (Expr.agrees_truth h condition hclear.left.left).bind fun holds => ?_
      cases holds with
      | true =>
          exact (agrees_renderNodes h hstrict body hclear.left.right).bind fun _ => Agrees.refl _
      | false => exact agrees_renderArms h hstrict arms hclear.right

end

/-! ## Templates -/

/-- A part of a template that does not mention the name at all is clear strictly. -/
theorem Survey.Clear.strictly {s : Survey} (h : s.Clear x unmentioned false)
    (hpaths : unmentioned → ∀ path ∈ s.paths, ¬ Mentions x path)
    (hstrict : strict = true → unmentioned) : s.Clear x unmentioned strict :=
  ⟨h.lacksDefault, h.undumped, h.roots, h.hidden, h.hiddenExpansions,
    fun hs => hpaths (hstrict hs), fun hs _ => hstrict hs⟩

theorem template_stageAt (engine : Engine) (template : String) (tree : Tree)
    (context : SortedMap Value) (depth : Nat) :
    (stageAt engine template tree context depth).template = template := by
  cases depth <;> rfl

theorem context_stageAt (engine : Engine) (template : String) (tree : Tree)
    (context : SortedMap Value) (depth : Nat) :
    (stageAt engine template tree context depth).context = context := by
  cases depth <;> rfl

/-- The stages for two contexts, by induction on how deep bodies nest: the bodies
on one stage are rendered on the stage below it. -/
theorem stageExtends_stageAt {tree : Tree} {context context' : SortedMap Value}
    (hcontext : Extends x context context') (hgathered : tree.Gathered)
    (hclear : tree.survey.Clear x unmentioned false)
    (hpaths : unmentioned → ∀ path ∈ tree.survey.paths, ¬ Mentions x path) (engine : Engine)
    (template : String) (depth : Nat) :
    StageExtends x unmentioned (stageAt engine template tree context depth)
      (stageAt engine template tree context' depth) := by
  induction depth with
  | zero => exact ⟨rfl, rfl, rfl, hcontext, fun _ _ _ => Agrees.refl _⟩
  | succ depth ih =>
      refine ⟨rfl, rfl, rfl, hcontext, fun hstrict body hbody => ?_⟩
      obtain ⟨scanned, hbodyClear⟩ := survey_bodies Survey.Clear.hereditary hgathered
        (hclear.strictly hpaths hstrict) hbody
      exact agrees_renderNodes ih hstrict body hbodyClear

theorem render_extends {tree : Tree} {context context' : SortedMap Value}
    (hcontext : Extends x context context') (hgathered : tree.Gathered)
    (hclear : tree.survey.Clear x unmentioned false)
    (hpaths : unmentioned → ∀ path ∈ tree.survey.paths, ¬ Mentions x path) {engine : Engine}
    {world : World} {template text : String} {after : Situation}
    (h : tree.render template context engine world = some (.ok text, after)) :
    tree.render template context' engine world = some (.ok text, after) := by
  unfold Tree.render at h ⊢
  split at h
  · next himports =>
      rw [if_pos himports]
      have hagrees := agrees_renderNodes
        (stageExtends_stageAt hcontext hgathered hclear hpaths engine template engine.depth)
        (fun hfalse => absurd hfalse (by simp)) tree.nodes hclear
      exact hagrees.runOn_ok h
  · exact absurd h (by simp)

end

/-! ## Absent names -/

/-- A part that has no way of its own to do without a value for `x`: no filter
`default`, no test on `x`, no name `x` that it binds, and no name that the
language reserves. -/
structure Survey.Undefended (x : String) (s : Survey) : Prop where
  lacksDefault : s.LacksDefault
  untested : ∀ path ∈ s.tests, rootName path ≠ x
  unbound : x ∉ s.bound
  unreserved : ∀ path ∈ s.paths, Text.startsWith "__tera" (rootName path) = false

instance (x : String) (s : Survey) : Decidable (s.Undefended x) :=
  decidable_of_iff
    ("default" ∉ s.filters ∧ (∀ path ∈ s.tests, rootName path ≠ x) ∧ x ∉ s.bound ∧
      ∀ path ∈ s.paths, Text.startsWith "__tera" (rootName path) = false)
    ⟨fun ⟨hdefault, htests, hbound, hpaths⟩ => ⟨hdefault, htests, hbound, hpaths⟩,
      fun ⟨hdefault, htests, hbound, hpaths⟩ => ⟨hdefault, htests, hbound, hpaths⟩⟩

/-- A part in which the scan reads every place where a failure to look `x` up is
an answer. -/
structure Survey.Exposes (x : String) (s : Survey) : Prop where
  hidden : ∀ path ∈ s.hidden, ¬ Mentions x path
  hiddenExpansions : s.hiddenExpansions = [] ∨ ∀ path ∈ s.paths, ¬ Mentions x path

end Scaffold.Template

namespace Scaffold

open Template

namespace CompiledTemplate

/-- A name that no condition is listed to read is the root of no guarded path. -/
theorem clear_of_unlisted {tree : Tree} {x : String} (hundefended : tree.survey.Undefended x)
    (hexposes : tree.survey.Exposes x) (hunlisted : x ∉ conditionNames tree.nodes) :
    tree.survey.Clear x (∀ path ∈ tree.survey.paths, ¬ Mentions x path) false where
  lacksDefault := hundefended.lacksDefault
  undumped hmem := absurd (hundefended.unreserved _ hmem) (by decide)
  roots hx path hpath hroot := by
    subst hroot
    rcases hpath with htest | hguarded
    · exact hundefended.untested path htest rfl
    · have hreserved := hundefended.unreserved path
        (List.mem_append_left _ (List.mem_append_right _ hguarded))
      have hname : isOutside [] (rootName path) = true := by
        unfold isName at hx
        unfold isOutside
        rw [hreserved, (Bool.and_eq_true_iff.mp hx).1]
        rfl
      exact hunlisted (mem_conditionNames hguarded hname
        ⟨hundefended.unbound, hundefended.lacksDefault⟩ hundefended.untested)
  hidden := hexposes.hidden
  hiddenExpansions hne := hexposes.hiddenExpansions.resolve_left hne
  paths hfalse := absurd hfalse (by simp)
  expansions hfalse := absurd hfalse (by simp)

theorem firstMissing?_eq_none {t : CompiledTemplate} {c : Context} : t.firstMissing? c = none ↔
    ∀ key ∈ t.required ++ t.conditions, c.contains key = true := by
  unfold firstMissing?
  rw [List.find?_eq_none]
  simp

/-- A template is rendered where the context has every name that it asks for. -/
theorem execute_eq_ok_iff {t : CompiledTemplate} {c : Context} {engine : Engine} {world : World}
    {out : String} :
    t.execute c engine world = .ok out ↔
      (∀ key ∈ t.required ++ t.conditions, c.contains key = true) ∧
        ∃ after, t.tree.render t.name c.values engine world = some (.ok out, after) := by
  rw [← firstMissing?_eq_none]
  unfold execute outcome?
  cases hfirst : t.firstMissing? c with
  | some key => simp
  | none =>
      match hrender : t.tree.render t.name c.values engine world with
      | none => simp
      | some (.ok text, after) => simp
      | some (.error fault, after) => simp

theorem gathered_of_compile {name text : String} {t : CompiledTemplate}
    (h : compile name text = .ok t) : t.tree.Gathered := by
  unfold compile at h
  split at h
  · next tree hparse =>
      obtain rfl := Except.ok.inj h
      exact gathered_of_parse hparse
  · exact absurd h (by simp)

/-- Whether a text is a template of which something holds. -/
def satisfies (text : String) (p : CompiledTemplate → Bool) : Bool :=
  match compile "t" text with
  | .ok t => p t
  | .error _ => false

theorem exists_of_satisfies {text : String} {p : CompiledTemplate → Bool}
    (h : satisfies text p = true) : ∃ t, compile "t" text = .ok t ∧ p t = true := by
  unfold satisfies at h
  split at h
  · next t hcompile => exact ⟨t, hcompile, h⟩
  · exact absurd h (by simp)

/-- A context without a value for the name of a key. -/
def keyless : Context :=
  .ofList [("m", .object [("k", .bool true)]), ("a", .bool true), ("s", .text "k")]

/-- A template that renders without a name renders the same with it, whatever its
value and whatever the surroundings answer, unless the name stands where nothing asks
for it. -/
theorem execute_insert_of_ok {name text : String} {t : CompiledTemplate} {required : List String}
    {c : Context} {x out : String} {engine : Engine} {world : World}
    (hcompile : compile name text = .ok t)
    (habsent : c.contains x = false) (hundefended : t.tree.survey.Undefended x)
    (hexposes : x ∉ t.conditions → t.tree.survey.Exposes x)
    (hrun : (t.requiring required).execute c engine world = .ok out) (v : Value) :
    (t.requiring required).execute (c.insert x v) engine world = .ok out := by
  obtain ⟨hpresent, after, hrender⟩ := execute_eq_ok_iff.mp hrun
  have hunlisted : x ∉ t.conditions := by
    intro hmem
    have hcontains := hpresent x (List.mem_append_right _ hmem)
    rw [habsent] at hcontains
    exact absurd hcontains (by simp)
  have hclear := clear_of_unlisted hundefended (hexposes hunlisted) hunlisted
  have hmore := render_extends (extends_insert habsent v) (gathered_of_compile hcompile) hclear
    (fun h => h) hrender
  refine execute_eq_ok_iff.mpr ⟨fun key hkey => ?_, after, hmore⟩
  have hkeyPresent := hpresent key hkey
  unfold Context.contains at hkeyPresent ⊢
  rw [Context.get?_insert]
  split
  · rfl
  · exact hkeyPresent

/-- A template that looks a name up in one of its branches only. -/
def branching : String := "\x7b% if a %\x7dyes\x7b% else %\x7d\x7b\x7b x \x7d\x7d\x7b% endif %\x7d"

theorem execute_insert_of_unread : ∃ t, compile "t" branching = .ok t ∧
    (t.requiring ["a"]).execute keyless = .ok "yes" ∧
    (t.requiring ["a"]).execute (keyless.insert "x" .null) = .ok "yes" := by
  obtain ⟨t, hcompile, h⟩ : ∃ t, compile "t" branching = .ok t ∧
      decide (t.tree.survey.Undefended "x" ∧ t.tree.survey.hidden = [] ∧
        t.tree.survey.hiddenExpansions = [] ∧
        (t.requiring ["a"]).execute keyless = .ok "yes") = true :=
    exists_of_satisfies (by decide +kernel)
  obtain ⟨hundefended, hhidden, hexpansions, hrun⟩ := of_decide_eq_true h
  have hexposes : t.tree.survey.Exposes "x" :=
    ⟨fun path hpath => absurd (hhidden ▸ hpath) List.not_mem_nil, Or.inl hexpansions⟩
  exact ⟨t, hcompile, hrun, execute_insert_of_ok hcompile (by decide +kernel) hundefended
    (fun _ => hexposes) hrun .null⟩

/-- One template for each kind of place where a failure is an answer and nothing
asks for the name: between the brackets of a condition or of a test, behind `not`
and beside `and` outside of conditions, in the argument of a filter in a
condition, and in the condition of a definition. -/
def hiddenPlaces : List String :=
  ["\x7b% if m[x] %\x7dyes\x7b% else %\x7dno\x7b% endif %\x7d",
    "\x7b% if m[x] is defined %\x7dyes\x7b% else %\x7dno\x7b% endif %\x7d",
    "\x7b\x7b not x \x7d\x7d",
    "\x7b\x7b a and x \x7d\x7d",
    "\x7b% if s | replace(from=x, to=\"z\") %\x7dyes\x7b% else %\x7dno\x7b% endif %\x7d",
    "\x7b% macro f() %\x7d\x7b% if x %\x7dyes\x7b% else %\x7dno\x7b% endif %\x7d" ++
      "\x7b% endmacro %\x7d\x7b\x7b self::f() \x7d\x7d"]

/-- At each of these places the text depends on a name being absent. -/
theorem execute_insert_of_hidden : keyless.contains "x" = false ∧ ∀ text ∈ hiddenPlaces,
    ∃ t, compile "t" text = .ok t ∧ t.tree.survey.Undefended "x" ∧
      ∃ out, t.execute keyless = .ok out ∧
        t.execute (keyless.insert "x" (.text "k")) ≠ .ok out := by
  refine ⟨by decide +kernel, fun text htext => ?_⟩
  have hall : ∀ text ∈ hiddenPlaces, satisfies text fun t =>
      decide (t.tree.survey.Undefended "x" ∧ (t.execute keyless).toOption.isSome ∧
        t.execute (keyless.insert "x" (.text "k")) ≠ t.execute keyless) := by decide +kernel
  obtain ⟨t, hcompile, h⟩ := exists_of_satisfies (hall text htext)
  obtain ⟨hundefended, hok, hne⟩ := of_decide_eq_true h
  cases hrun : t.execute keyless with
  | error fault =>
      rw [hrun] at hok
      exact absurd hok (by simp [Except.toOption])
  | ok out => exact ⟨t, hcompile, hundefended, out, hrun, hrun ▸ hne⟩

end CompiledTemplate

end Scaffold
