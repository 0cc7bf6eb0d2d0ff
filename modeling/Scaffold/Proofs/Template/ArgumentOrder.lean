import Mathlib
import Scaffold.Proofs.Template.Absence
import Scaffold.Proofs.Template.ReorderedEvaluation

/-!
# The order of arguments in conditions

The scan of the conditions goes through the arguments of a function in the order in which
they stand, and lists each name at its first place. So the names that it lists do not
depend on the order of arguments, but their order does, and with it which one of several
missing names is reported. Nothing changes where at most one of the arguments that change
places reads a name, and whether the template can be rendered does not change either,
unless an argument expands a definition.
-/

namespace Scaffold.Template

/-! ## Bodies -/

section

variable {l : Leeway} {stage stage' : Stage}

theorem matches_renderRounds {faithful : Bool} {body body' : Eval String}
    (h : Matches faithful Eq body body') (rounds : Nat) :
    Matches faithful Eq (renderRounds body rounds) (renderRounds body' rounds) := by
  induction rounds with
  | zero => exact .refl _
  | succ rounds ih =>
      rw [renderRounds, renderRounds]
      refine h.andThen fun text => (Matches.refl Eval.frames).andThen fun frames => ?_
      split
      · exact .refl _
      · exact (Matches.refl _).andThen fun _ => ih.andThen fun _ => .refl _

theorem matches_containerName {container container' : Expr}
    (h : container.Reordered l container')
    (hquoted : l.faithful = true → containerName container' = containerName container) :
    Matches l.faithful Eq (Eval.ofExcept (containerName container))
      (Eval.ofExcept (containerName container')) := by
  obtain ⟨hoperand, -⟩ := h
  cases hoperand
  case name | call | list => exact .refl _
  all_goals exact .ofExcept_error fun hf => Except.error.inj (hquoted hf)

theorem matches_applySection (hsound : l.Sound) (h : StageReordered l stage stage')
    (name : String) {args args' : List (String × Expr)} (hargs : ArgsReordered l args args')
    (text : String) :
    Matches l.faithful Eq (applySection stage (.mk name args) text)
      (applySection stage' (.mk name args') text) := by
  unfold applySection
  by_cases hname : name = "safe"
  · rw [if_pos (show (Call.mk name args).name = "safe" from hname),
      if_pos (show (Call.mk name args').name = "safe" from hname)]
    exact .refl _
  · rw [if_neg (show (Call.mk name args).name ≠ "safe" from hname),
      if_neg (show (Call.mk name args').name ≠ "safe" from hname)]
    exact (matches_apply h name (hargs.argValues hsound h) _).andThen fun _ => .refl _

theorem matches_loop {key : Option String} {item : String} {container container' : Expr}
    {body body' : List Node} {otherwise otherwise' : Option (List Node)}
    (hname : Matches l.faithful Eq (Eval.ofExcept (containerName container))
      (Eval.ofExcept (containerName container')))
    (hcontainer : Matches l.faithful Eq (container.value stage) (container'.value stage'))
    (hbody : Matches l.faithful Eq (renderNodes stage body) (renderNodes stage' body'))
    (hotherwise : Option.Rel
      (fun last last' => Matches l.faithful Eq (renderNodes stage last) (renderNodes stage' last'))
      otherwise otherwise') :
    Matches l.faithful Eq ((Node.loop key item container body otherwise).render stage)
      ((Node.loop key item container' body' otherwise').render stage') := by
  cases hotherwise with
  | none =>
      rw [Node.render, Node.render]
      refine hname.andThen fun place => hcontainer.andThen fun v =>
        (Matches.refl _).andThen fun items => ?_
      split
      · exact .refl _
      · exact (Matches.refl _).andThen fun _ => (matches_renderRounds hbody _).andThen fun _ =>
          .refl _
  | some hlast =>
      rw [Node.render, Node.render]
      refine hname.andThen fun place => hcontainer.andThen fun v =>
        (Matches.refl _).andThen fun items => ?_
      split
      · exact hlast
      · exact (Matches.refl _).andThen fun _ => (matches_renderRounds hbody _).andThen fun _ =>
          .refl _

/-- The blocks of a name are both there or both missing. -/
theorem lookup_blocks (name : String) {bs bs' : List (String × List Node)}
    (h : List.Forall₂ (fun b b' => b'.1 = b.1 ∧ NodesReordered l b.2 b'.2) bs bs') :
    Option.Rel (NodesReordered l) (bs.lookup name) (bs'.lookup name) := by
  induction h with
  | nil => exact .none
  | @cons b b' bs bs' hb _ ih =>
      obtain ⟨target, body⟩ := b
      obtain ⟨target', body'⟩ := b'
      obtain ⟨rfl, hbody⟩ : target' = target ∧ NodesReordered l body body' := hb
      rw [List.lookup_cons, List.lookup_cons]
      cases name == target' with
      | true => exact .some hbody
      | false => exact ih

mutual

theorem Node.Reordered.render (hsound : l.Sound) (h : StageReordered l stage stage') :
    ∀ {node node' : Node}, node.Reordered l node' →
      Matches l.faithful Eq (node.render stage) (node'.render stage')
  | _, _, .output he => by
      rw [Node.render, Node.render]
      exact (he.matches hsound h).1.andThen fun _ => .refl _
  | _, _, .assign he => by
      rw [Node.render, Node.render]
      exact (he.matches hsound h).1.andThen fun _ => .refl _
  | _, _, .branch harms .none => by
      rw [Node.render, Node.render]
      exact (harms.render hsound h).andThen fun _ => .refl _
  | _, _, .branch harms (.some hbody) => by
      have hlast := hbody.render hsound h
      rw [Node.render, Node.render]
      refine (harms.render hsound h).andThen fun chosen => ?_
      cases chosen with
      | some text => exact .refl _
      | none => exact hlast
  | _, _, .loop hcontainer hbody .none hquoted =>
      matches_loop (matches_containerName hcontainer hquoted) (hcontainer.matches hsound h).1
        (hbody.render hsound h) .none
  | _, _, .loop hcontainer hbody (.some hlast) hquoted =>
      matches_loop (matches_containerName hcontainer hquoted) (hcontainer.matches hsound h).1
        (hbody.render hsound h) (.some (hlast.render hsound h))
  -- the body that the name of a block stands for need not be the one that stands here
  | _, _, @Node.Reordered.block _ name _ _ hbody => by
      have hhere := hbody.render hsound h
      have hfound := lookup_blocks name h.tree.blocks
      rw [Node.render, Node.render]
      generalize stage.tree.blocks.lookup name = found,
        stage'.tree.blocks.lookup name = found' at hfound
      cases hfound with
      | none => exact hhere
      | some hother => exact h.bodies hother
  | _, _, .filtered hargs hbody => by
      rw [Node.render, Node.render]
      exact (hbody.render hsound h).andThen (matches_applySection hsound h _ hargs)
  | _, _, .insert names optional => by
      rw [Node.render, Node.render, h.template]
      split
      · exact (Matches.refl _).andThen fun _ =>
          (h.bodies h.tree.nodes).andThen fun _ => .refl _
      · exact .refl _
  | _, _, .definition _ | _, _, .text _ | _, _, .verbatim _ | _, _, .comment | _, _, .stop
  | _, _, .skip => by
      simp only [Node.render]
      exact .refl _

theorem NodesReordered.render (hsound : l.Sound) (h : StageReordered l stage stage') :
    ∀ {nodes nodes' : List Node}, NodesReordered l nodes nodes' →
      Matches l.faithful Eq (renderNodes stage nodes) (renderNodes stage' nodes')
  | _, _, .nil => by
      rw [renderNodes, renderNodes]
      exact .refl _
  | _, _, .cons hnode hnodes => by
      have hrest := hnodes.render hsound h
      rw [renderNodes, renderNodes]
      refine (hnode.render hsound h).andThen fun text =>
        (Matches.refl Eval.frames).andThen fun frames => ?_
      split
      · exact hrest.andThen fun _ => .refl _
      · exact .refl _

theorem ArmsReordered.render (hsound : l.Sound) (h : StageReordered l stage stage') :
    ∀ {arms arms' : List (Expr × List Node)}, ArmsReordered l arms arms' →
      Matches l.faithful Eq (renderArms stage arms) (renderArms stage' arms')
  | _, _, .nil => by
      rw [renderArms, renderArms]
      exact .refl _
  | _, _, .cons hcondition hbody harms => by
      have hinner := hbody.render hsound h
      have hrest := harms.render hsound h
      rw [renderArms, renderArms]
      refine (hcondition.matches hsound h).2.1.andThen fun holds => ?_
      cases holds with
      | true => exact hinner.andThen fun _ => .refl _
      | false => exact hrest

end

/-! ## Templates -/

/-- The stages for a template and a reordering of it, by induction on how deep bodies nest. -/
theorem stageReordered_stageAt (hsound : l.Sound) {tree tree' : Tree} (h : tree.Reordered l tree')
    (engine : Engine) (template : String) (context : SortedMap Value) (depth : Nat) :
    StageReordered l (stageAt engine template tree context depth)
      (stageAt engine template tree' context depth) := by
  induction depth with
  | zero => exact ⟨rfl, rfl, rfl, h, fun _ => .refl _⟩
  | succ depth ih => exact ⟨rfl, rfl, rfl, h, fun hbody => hbody.render hsound ih⟩

/-- A reordering renders what the template renders. Both fail where one of them does, and
both have an end or none. -/
theorem Tree.Reordered.render (hsound : l.Sound) {tree tree' : Tree} (h : tree.Reordered l tree')
    (template : String) (context : SortedMap Value) (engine : Engine) (world : World) :
    ResultsMatch l.faithful Eq (tree.render template context engine world)
      (tree'.render template context engine world) := by
  unfold Tree.render
  rw [h.imports]
  split
  · exact h.nodes.render hsound
      (stageReordered_stageAt hsound h engine template context engine.depth) ⟨[⟨.whole, []⟩], world⟩
  · exact .endless

end

/-! ## Lists of conditions -/

namespace Reads

theorem nodup_distinct (names : List String) : (distinct names).Nodup := by
  induction names with
  | nil => exact List.nodup_nil
  | cons name names ih =>
      exact List.nodup_cons.mpr ⟨by simp, ih.filter _⟩

theorem distinct_append (names more : List String) :
    distinct (names ++ more) =
      distinct names ++ (distinct more).filter fun name => !names.contains name := by
  induction names with
  | nil => simp [distinct]
  | cons first names ih =>
      rw [List.cons_append, distinct, distinct, ih, List.filter_append, List.filter_filter,
        List.cons_append]
      refine congrArg (first :: ·) (congrArg _ (List.filter_congr fun name _ => ?_))
      rw [List.contains_cons, Bool.not_or]
      rfl

/-- Where the names of two parts are at their first places is a matter of the parts alone. -/
theorem distinct_append_congr {names names' more more' : List String}
    (hnames : distinct names' = distinct names) (hmore : distinct more' = distinct more) :
    distinct (names' ++ more') = distinct (names ++ more) := by
  have hmem : ∀ name, name ∈ names' ↔ name ∈ names := fun name => by
    rw [← mem_distinct, hnames, mem_distinct]
  rw [distinct_append, distinct_append, hnames, hmore]
  refine congrArg _ (List.filter_congr fun name _ => ?_)
  rw [Bool.eq_iff_iff]
  simp [hmem]

theorem perm_distinct {names names' : List String} (h : names'.Perm names) :
    (distinct names').Perm (distinct names) :=
  (List.perm_ext_iff_of_nodup (nodup_distinct _) (nodup_distinct _)).mpr fun name => by
    rw [mem_distinct, mem_distinct, h.mem_iff]

theorem untested_congr {r q : Reads} (h : ∀ name, name ∈ q.tested ↔ name ∈ r.tested) :
    (fun name => !q.tested.contains name) = fun name => !r.tested.contains name := by
  funext name
  rw [Bool.eq_iff_iff]
  simp [h]

/-- Readings that differ in order alone. -/
def SameUpToOrder (r q : Reads) : Prop := q.names.Perm r.names ∧ q.tested.Perm r.tested

/-- Readings that ask for the same names in the same order. -/
def SameOrder (r q : Reads) : Prop :=
  distinct q.names = distinct r.names ∧ ∀ name, name ∈ q.tested ↔ name ∈ r.tested

theorem SameUpToOrder.perm_required {r q : Reads} (h : SameUpToOrder r q) :
    q.required.Perm r.required := by
  unfold required
  rw [untested_congr fun _ => h.2.mem_iff]
  exact (perm_distinct h.1).filter _

theorem SameOrder.required_eq {r q : Reads} (h : SameOrder r q) : q.required = r.required := by
  unfold required
  rw [untested_congr h.2, h.1]

/-- The names that are read do not depend on the order of arguments. -/
theorem tolerates_sameUpToOrder (l : Leeway) : Tolerates l SameUpToOrder where
  refl _ := ⟨.refl _, .refl _⟩
  trans h h' := ⟨h'.1.trans h.1, h'.2.trans h.2⟩
  append h h' := ⟨h.1.append h'.1, h.2.append h'.2⟩
  swap _ _ := ⟨List.perm_append_comm, List.perm_append_comm⟩

end Reads

/-- Exchanges that do not change which names are read first. -/
def Leeway.KeepsReads (l : Leeway) : Prop := ∀ {e f : Expr}, l.swaps e f →
  ∀ locals : List String, Reads.distinct ((f.reads locals).names ++ (e.reads locals).names) =
    Reads.distinct ((e.reads locals).names ++ (f.reads locals).names)

theorem Reads.tolerates_sameOrder {l : Leeway} (h : l.KeepsReads) : Tolerates l SameOrder where
  refl _ := ⟨rfl, fun _ => .rfl⟩
  trans h h' := ⟨h'.1.trans h.1, fun name => (h'.2 name).trans (h.2 name)⟩
  append h h' := by
    refine ⟨distinct_append_congr h.1 h'.1, fun name => ?_⟩
    exact List.mem_append.trans ((or_congr (h.2 name) (h'.2 name)).trans List.mem_append.symm)
  swap locals hswap :=
    ⟨h hswap locals, fun name => List.mem_append.trans (or_comm.trans List.mem_append.symm)⟩

theorem Expr.IsLiteral.reads {e : Expr} (h : e.IsLiteral) (locals : List String) :
    (e.reads locals).names = [] := by
  cases h <;> rfl

/-- Literals read nothing. -/
theorem Leeway.Sound.keepsReads {l : Leeway} (h : l.Sound) (hfaithful : l.faithful = true) :
    l.KeepsReads := by
  intro e f hswap locals
  rcases h hswap with he | hf | ⟨hfalse, -⟩
  · rw [he.reads, List.nil_append, List.append_nil]
  · rw [hf.reads, List.nil_append, List.append_nil]
  · exact absurd (hfaithful.symm.trans hfalse) nofun

end Scaffold.Template

namespace Scaffold.CompiledTemplate

open Template

/-- The same template but for the order of arguments. -/
structure Reordered (l : Leeway) (t t' : CompiledTemplate) : Prop where
  name : t'.name = t.name
  required : t'.required = t.required
  tree : t.tree.Reordered l t'.tree

section

variable {l : Leeway} {t t' : CompiledTemplate}

/-- Only a rendering that comes to an end gives a text. -/
theorem execute_eq_ok {context : Context} {engine : Engine} {world : World} {text : String} :
    t.execute context engine world = .ok text ↔
      t.outcome? context engine world = some (.ok text) := by
  unfold execute
  cases t.outcome? context engine world with
  | none => simp
  | some r => simp

theorem Reordered.perm_conditions (h : t.Reordered l t') : t'.conditions.Perm t.conditions := by
  obtain ⟨hreads, -⟩ := h.tree.nodes.reads (Reads.tolerates_sameUpToOrder l) (.refl [])
  exact hreads.perm_required

theorem Reordered.perm_asked (h : t.Reordered l t') :
    (t'.required ++ t'.conditions).Perm (t.required ++ t.conditions) := by
  rw [h.required]
  exact h.perm_conditions.append_left _

theorem Reordered.conditions_eq (h : t.Reordered l t') (hkeeps : l.KeepsReads) :
    t'.conditions = t.conditions := by
  obtain ⟨hreads, -⟩ := h.tree.nodes.reads (Reads.tolerates_sameOrder hkeeps) (.refl [])
  exact hreads.required_eq

theorem Reordered.firstMissing?_eq (h : t.Reordered l t') (hkeeps : l.KeepsReads)
    (context : Context) : t'.firstMissing? context = t.firstMissing? context := by
  unfold firstMissing?
  rw [h.required, h.conditions_eq hkeeps]

theorem Reordered.firstMissing?_eq_none (h : t.Reordered l t') (context : Context) :
    t'.firstMissing? context = none ↔ t.firstMissing? context = none := by
  rw [CompiledTemplate.firstMissing?_eq_none, CompiledTemplate.firstMissing?_eq_none]
  exact forall_congr' fun key => imp_congr_left h.perm_asked.mem_iff

/-- Where only one name is missing, it is the one that is reported. -/
theorem Reordered.firstMissing?_of_only (h : t.Reordered l t') {context : Context} {key : String}
    (hmissing : t.firstMissing? context = some key)
    (honly : ∀ k ∈ t.required ++ t.conditions, context.contains k = false → k = key) :
    t'.firstMissing? context = some key := by
  cases hfound : t'.firstMissing? context with
  | none => exact absurd ((h.firstMissing?_eq_none context).mp hfound) (by simp [hmissing])
  | some k =>
      have hmem : k ∈ t.required ++ t.conditions :=
        h.perm_asked.mem_iff.mp (List.mem_of_find?_eq_some hfound)
      have habsent : context.contains k = false := by simpa using List.find?_some hfound
      rw [honly k hmem habsent]

theorem Reordered.outcome_iff (h : t.Reordered l t') (hsound : l.Sound) (context : Context)
    (engine : Engine) (world : World) :
    (t'.outcome? context engine world = none ↔ t.outcome? context engine world = none) ∧
    (∀ text, t'.outcome? context engine world = some (.ok text) ↔
      t.outcome? context engine world = some (.ok text)) ∧
    (l.faithful = true → t'.outcome? context engine world = t.outcome? context engine world) := by
  have hmissing := h.firstMissing?_eq_none context
  unfold CompiledTemplate.outcome?
  cases hfirst : t.firstMissing? context with
  | some key =>
      cases hfirst' : t'.firstMissing? context with
      | some key' =>
          refine ⟨by simp, by simp, fun hfaithful => ?_⟩
          have hsame := h.firstMissing?_eq (hsound.keepsReads hfaithful) context
          rw [hfirst, hfirst'] at hsame
          rw [h.name, Option.some.inj hsame]
      | none => exact absurd (hmissing.mp hfirst') (by simp [hfirst])
  | none =>
      rw [hmissing.mpr hfirst, h.name]
      have hresults := h.tree.render hsound t.name context.values engine world
      generalize t.tree.render t.name context.values engine world = r,
        t'.tree.render t.name context.values engine world = r' at hresults
      cases hresults with
      | ok after heq =>
          subst heq
          exact ⟨Iff.rfl, fun _ => Iff.rfl, fun _ => rfl⟩
      | error after hfault =>
          refine ⟨by simp, by simp, fun hfaithful => ?_⟩
          rw [hfault hfaithful]
      | endless => exact ⟨Iff.rfl, fun _ => Iff.rfl, fun _ => rfl⟩

/-- Whatever arguments change places, the conditions list the same names, if in another order:
a name is missing in both templates or in neither, and it is the same one if there is only
one. The list itself and the name that is reported first are the same when the arguments that
change places read the same names first in either order, as they do when only one of them
reads any. In all surroundings, both templates render the same text or fail or have no end when
no such argument expands a definition or asks the surroundings, and they fail in the same way
when one of two such arguments is a literal. -/
theorem conditions_up_to_order (h : t.Reordered l t') :
    t'.conditions.Perm t.conditions ∧
    (∀ context, t'.firstMissing? context = none ↔ t.firstMissing? context = none) ∧
    (∀ context key, t.firstMissing? context = some key →
      (∀ k ∈ t.required ++ t.conditions, context.contains k = false → k = key) →
      t'.firstMissing? context = some key) ∧
    (l.KeepsReads → t'.conditions = t.conditions ∧
      ∀ context, t'.firstMissing? context = t.firstMissing? context) ∧
    (l.Sound → ∀ context engine world,
      (t'.outcome? context engine world = none ↔ t.outcome? context engine world = none) ∧
      ∀ text, t'.execute context engine world = .ok text ↔
        t.execute context engine world = .ok text) ∧
    (l.Sound → l.faithful = true → ∀ context engine world,
      t'.execute context engine world = t.execute context engine world) := by
  refine ⟨h.perm_conditions, h.firstMissing?_eq_none, fun _ _ => h.firstMissing?_of_only,
    fun hkeeps => ⟨h.conditions_eq hkeeps, h.firstMissing?_eq hkeeps⟩,
    fun hsound context engine world => ?_, fun hsound hfaithful context engine world => ?_⟩
  · obtain ⟨hendless, hok, -⟩ := h.outcome_iff hsound context engine world
    exact ⟨hendless, fun text => execute_eq_ok.trans ((hok text).trans execute_eq_ok.symm)⟩
  · obtain ⟨-, -, hsame⟩ := h.outcome_iff hsound context engine world
    unfold execute
    rw [hsame hfaithful, h.name]

/-- A template that counts. -/
def counting (args : List (String × Expr)) : CompiledTemplate :=
  ⟨"t", ⟨[.loop none "i" (.ofOperand (.call (.mk "range" args)))
    [.output (.ofOperand (.name "i"))] none], [], [], []⟩, []⟩

theorem reordered_counting {args args' : List (String × Expr)} (h : Exchanged l args args') :
    (counting args).Reordered l (counting args') where
  name := rfl
  required := rfl
  tree := .of_nodes ⟨rfl, rfl⟩ ⟨rfl, rfl⟩ rfl <|
    .cons (.loop (.mk (.call (.mk (eachReordered_refl args) h)) .nil)
      (.cons (.output (.refl _)) .nil) .none fun _ => rfl) .nil

def literalLast : String :=
  "\x7b% for i in range(start=a, end=5) %\x7d\x7b\x7b i \x7d\x7d\x7b% endfor %\x7d"

def literalFirst : String :=
  "\x7b% for i in range(end=5, start=a) %\x7d\x7b\x7b i \x7d\x7d\x7b% endfor %\x7d"

/-- A literal changes places, which nothing shows. -/
theorem conditions_up_to_order_counting : ∃ t t' : CompiledTemplate,
    compile "t" literalLast = .ok t ∧ compile "t" literalFirst = .ok t' ∧
    t'.conditions = t.conditions ∧ t.conditions = ["a"] ∧
    t'.execute .empty = t.execute .empty ∧
    t'.execute .empty = .error (.missingContextKey "t" "a") ∧
    t'.execute (.ofList [("a", .int 2)]) = .ok "234" := by
  have hparse : compile "t" literalLast =
      .ok (counting [("start", .ofOperand (.name "a")), ("end", .ofOperand (.int 5))]) := by cbv
  have hparse' : compile "t" literalFirst =
      .ok (counting [("end", .ofOperand (.int 5)), ("start", .ofOperand (.name "a"))]) := by cbv
  have hsound : Leeway.Sound ⟨fun e f => e.IsLiteral ∨ f.IsLiteral, true⟩ :=
    fun hswap => hswap.imp_right .inl
  have hswap : Exchanged ⟨fun e f => e.IsLiteral ∨ f.IsLiteral, true⟩
      [("start", .ofOperand (.name "a")), ("end", .ofOperand (.int 5))]
      [("end", .ofOperand (.int 5)), ("start", .ofOperand (.name "a"))] :=
    .swap [] (by decide) (.inr (.int 5 false))
  obtain ⟨-, -, -, hkept, hrendered, hsame⟩ := conditions_up_to_order (reordered_counting hswap)
  exact ⟨_, _, hparse, hparse', (hkept (hsound.keepsReads rfl)).1, by decide +kernel,
    hsame hsound rfl .empty .standard .silent, by decide +kernel,
    ((hrendered hsound (.ofList [("a", .int 2)]) .standard .silent).2 "234").mpr
      (by decide +kernel)⟩

def startFirst : String :=
  "\x7b% for i in range(start=a, end=b) %\x7d\x7b\x7b i \x7d\x7d\x7b% endfor %\x7d"

def endFirst : String :=
  "\x7b% for i in range(end=b, start=a) %\x7d\x7b\x7b i \x7d\x7d\x7b% endfor %\x7d"

/-- A template that sets a variable, asks for a value with two arguments, one of which
expands a definition that fails, and prints the variable. -/
def leaking (args : List (String × Expr)) : CompiledTemplate :=
  ⟨"t", ⟨[.definition "m" [] [.output (.ofOperand (.name "nope"))],
    .assign false "w" (.ofOperand (.int 1)),
    .branch [(.mk (.name "v") false [.mk "get" args], [])] none,
    .output (.ofOperand (.name "w"))], [],
    [⟨"m", [], [.output (.ofOperand (.name "nope"))]⟩], []⟩, []⟩

theorem reordered_leaking {args args' : List (String × Expr)} (h : Exchanged l args args') :
    (leaking args).Reordered l (leaking args') where
  name := rfl
  required := rfl
  tree := .of_nodes ⟨rfl, rfl⟩ ⟨rfl, rfl⟩ rfl <|
    .cons (.definition (.cons (.output (.refl _)) .nil)) <| .cons (.assign (.refl _)) <|
      .cons (.branch (.cons (.mk (.name "v") (.cons (.mk (eachReordered_refl args) h) .nil))
        .nil .nil) .none) <|
      .cons (.output (.refl _)) .nil

def expandsFirst : String :=
  "\x7b% macro m() %\x7d\x7b\x7b nope \x7d\x7d\x7b% endmacro %\x7d\x7b% set w = 1 %\x7d" ++
    "\x7b% if v | get(key=self::m(), default=u) %\x7d\x7b% endif %\x7d\x7b\x7b w \x7d\x7d"

def expandsLast : String :=
  "\x7b% macro m() %\x7d\x7b\x7b nope \x7d\x7d\x7b% endmacro %\x7d\x7b% set w = 1 %\x7d" ++
    "\x7b% if v | get(default=u, key=self::m()) %\x7d\x7b% endif %\x7d\x7b\x7b w \x7d\x7d"

/-- Two names as arguments of one function are listed in the order in which they stand, and
the first one is reported. And an argument whose definition fails leaves its frame behind,
unless an argument in front of it fails before: then the rest of the template is rendered,
which fails otherwise. -/
theorem conditions_depend_on_order :
    (∃ t t' : CompiledTemplate, compile "t" startFirst = .ok t ∧ compile "t" endFirst = .ok t' ∧
      t.Reordered ⟨fun _ _ => True, false⟩ t' ∧
      t.conditions = ["a", "b"] ∧ t'.conditions = ["b", "a"] ∧
      t.execute .empty = .error (.missingContextKey "t" "a") ∧
      t'.execute .empty = .error (.missingContextKey "t" "b")) ∧
    ∃ t t' : CompiledTemplate, compile "t" expandsFirst = .ok t ∧
      compile "t" expandsLast = .ok t' ∧ t.Reordered ⟨fun _ _ => True, false⟩ t' ∧
      t.execute (.ofList [("v", .int 1)]) = .error (.missingContextKey "t" "w") ∧
      t'.execute (.ofList [("v", .int 1)]) = .ok "1" := by
  refine ⟨⟨counting [("start", .ofOperand (.name "a")), ("end", .ofOperand (.name "b"))],
    counting [("end", .ofOperand (.name "b")), ("start", .ofOperand (.name "a"))], by cbv, by cbv,
    reordered_counting (.swap [] (by decide) trivial), by decide +kernel, by decide +kernel,
    by decide +kernel, by decide +kernel⟩, ?_⟩
  exact ⟨
    leaking [("key", .ofOperand (.expand "self" "m" [])), ("default", .ofOperand (.name "u"))],
    leaking [("default", .ofOperand (.name "u")), ("key", .ofOperand (.expand "self" "m" []))],
    by cbv, by cbv, reordered_leaking (.swap [] (by decide) trivial), by decide +kernel,
    by decide +kernel⟩

end

end Scaffold.CompiledTemplate
