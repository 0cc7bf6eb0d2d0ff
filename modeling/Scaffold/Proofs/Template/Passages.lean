import Scaffold.Proofs.Template.Outline

/-!
# Passages of templates

A passage is a run of nodes in a template. Where the nodes around it ask for other names
than the ones that change, the text in front of the passage and the text behind it stay as
they are, and only what the passage itself says is to be looked at.
-/

namespace Scaffold.Template

/-! ## Views that agree -/

/-- Views with the same values for all paths that have a shape. -/
def View.Agree (sig : Signature) (loops : List Row) (view view' : View) : Prop :=
  ∀ path shape, shapeOf? sig loops path = some shape → view' path = view path

section

variable {sig : Signature} {loops : List Row} {view view' : View}

theorem View.Agree.inside (h : View.Agree sig loops view view') (item : String)
    (columns : List String) (v : Value) :
    View.Agree sig (⟨item, columns⟩ :: loops) (view.inside item v) (view'.inside item v) := by
  intro path shape hshape
  have hcases := shapeOf?_cons hshape
  unfold View.inside
  by_cases hitem : item = (splitPath path).1
  · rw [if_pos hitem, if_pos hitem]
  · rw [if_neg hitem] at hcases ⊢
    rw [if_neg hitem]
    exact h path shape hcases

theorem Expr.seen_congr (h : View.Agree sig loops view view') {e : Expr}
    (hshape : (e.shape? sig loops).isSome = true) : e.seen view' = e.seen view := by
  unfold Expr.shape? at hshape
  split at hshape
  · next path =>
    obtain ⟨shape, hshape⟩ := Option.isSome_iff_exists.mp hshape
    exact h path shape hshape
  · exact absurd hshape nofun

mutual

/-- Admitted nodes say the same in views that agree. -/
theorem Node.said_congr : ∀ (node : Node) {loops : List Row} {view view' : View},
    View.Agree sig loops view view' → node.isAdmitted sig loops = true →
      node.said view' = node.said view
  | .text _, _, _, _, _, _ | .verbatim _, _, _, _, _, _ | .comment, _, _, _, _, _ => by
      rw [Node.said, Node.said]
  | .output e, _, _, _, hagree, h => by
      rw [Node.isAdmitted] at h
      rw [Node.said, Node.said, Expr.seen_congr hagree h]
  | .branch arms none, _, _, _, hagree, h => by
      rw [Node.isAdmitted] at h
      rw [Node.said, Node.said, armsSay_congr arms hagree h]
  | .branch arms (some body), _, _, _, hagree, h => by
      rw [Node.isAdmitted, Bool.and_eq_true] at h
      rw [Node.said, Node.said, armsSay_congr arms hagree h.1, nodesSay_congr body hagree h.2]
  | .loop none item container body none, loops, view, view', hagree, h => by
      rw [Node.isAdmitted] at h
      rw [Node.said, Node.said]
      split at h
      · next columns hshape =>
        rw [Expr.seen_congr hagree (Option.isSome_of_mem hshape)]
        refine congrArg (List.flatMap · _) (funext fun v => ?_)
        exact nodesSay_congr body (hagree.inside item columns v) h
      · exact absurd h Bool.false_ne_true
  | .loop (some _) _ _ _ _, _, _, _, _, h | .loop none _ _ _ (some _), _, _, _, _, h
  | .assign _ _ _, _, _, _, _, h | .block _ _, _, _, _, _, h | .filtered _ _, _, _, _, _, h
  | .definition _ _ _, _, _, _, _, h | .stop, _, _, _, _, h | .skip, _, _, _, _, h
  | .insert _ _, _, _, _, _, h => by
      exact absurd h nofun

theorem nodesSay_congr : ∀ (nodes : List Node) {loops : List Row} {view view' : View},
    View.Agree sig loops view view' → areAdmitted sig loops nodes = true →
      nodesSay nodes view' = nodesSay nodes view
  | [], _, _, _, _, _ => by
      rw [nodesSay, nodesSay]
  | node :: nodes, _, _, _, hagree, h => by
      rw [areAdmitted, Bool.and_eq_true] at h
      rw [nodesSay, nodesSay, Node.said_congr node hagree h.1, nodesSay_congr nodes hagree h.2]

theorem armsSay_congr : ∀ (arms : List (Expr × List Node)) {loops : List Row}
    {view view' : View}, View.Agree sig loops view view' → areAdmittedArms sig loops arms = true →
      ∀ {otherwise : List Char}, armsSay arms otherwise view' = armsSay arms otherwise view
  | [], _, _, _, _, _, _ => by
      rw [armsSay, armsSay]
  | (condition, body) :: arms, _, _, _, hagree, h, _ => by
      rw [areAdmittedArms, Bool.and_eq_true, Bool.and_eq_true] at h
      rw [armsSay, armsSay, Expr.seen_congr hagree h.1.1, nodesSay_congr body hagree h.1.2,
        armsSay_congr arms hagree h.2]

end

/-! ## Contexts that agree -/

/-- Contexts with the same values for all names but some. -/
def AlikeBut (changing : List String) (context context' : SortedMap Value) : Prop :=
  ∀ name, name ∉ changing → context'.get? name = context.get? name

def Signature.without (sig : Signature) (names : List String) : Signature :=
  sig.filter fun entry => !names.contains entry.1

theorem AlikeBut.agree {changing : List String} {context context' : SortedMap Value}
    (h : AlikeBut changing context context') :
    View.Agree (sig.without changing) [] (.ofContext context) (.ofContext context') := by
  intro path shape hshape
  have hmem := mem_of_lookup (lookup_of_shapeOf? hshape)
  have hother : path ∉ changing := by
    simpa using (List.mem_filter.mp hmem).2
  unfold View.ofContext
  rw [h path hother]

end

/-! ## Passages -/

/-- Nodes of a template from some place on. -/
def passageOf (start length : Nat) (nodes : List Node) : List Node :=
  (nodes.drop start).take length

theorem passageOf_append_drop (start length : Nat) (nodes : List Node) :
    passageOf start length nodes ++ nodes.drop (start + length) = nodes.drop start := by
  rw [passageOf, ← List.drop_drop, List.take_append_drop]

theorem nodesSay_append (nodes more : List Node) (view : View) :
    nodesSay (nodes ++ more) view = nodesSay nodes view ++ nodesSay more view := by
  induction nodes with
  | nil =>
      rw [nodesSay]
      rfl
  | cons node nodes ih => rw [List.cons_append, nodesSay, nodesSay, ih, List.append_assoc]

theorem nodesSay_cut (start length : Nat) (nodes : List Node) (view : View) :
    nodesSay nodes view = nodesSay (nodes.take start) view ++
      (nodesSay (passageOf start length nodes) view ++
        nodesSay (nodes.drop (start + length)) view) := by
  rw [← nodesSay_append, passageOf_append_drop, ← nodesSay_append, List.take_append_drop]

/-- Whether what stands around a passage is admitted for a signature. -/
def isSurrounded (sig : Signature) (start length : Nat) (nodes : List Node) : Bool :=
  areAdmitted sig [] (nodes.take start) && areAdmitted sig [] (nodes.drop (start + length))

/-- The sketch of a passage in the template with some characters, if the names that change
stand in it alone. -/
def passageOutline? (sig : Signature) (changing : List String) (start length : Nat)
    (cs : List Char) : Option Outline :=
  (nodesOfChars? cs).bind fun nodes =>
    if isSurrounded (sig.without changing) start length nodes then
      sketchOf? [] (passageOf start length nodes)
    else none

/-- The sketches of the rounds of a loop. -/
structure RoundOutline where
  item : String
  container : String
  /-- A round in which the condition holds. -/
  full : Outline
  bare : Outline
  deriving DecidableEq

/-- The loop at a place in the template with some characters, if the names that change stand
in it alone and one condition decides its rounds. -/
def roundOutline? (sig : Signature) (changing : List String) (condition : String) (start : Nat)
    (cs : List Char) : Option RoundOutline :=
  (nodesOfChars? cs).bind fun nodes =>
    if isSurrounded (sig.without changing) start 1 nodes then
      match passageOf start 1 nodes with
      | [.loop none item container body none] => do
        return ⟨item, ← container.path?, ← sketchOf? [(condition, true)] body,
          ← sketchOf? [(condition, false)] body⟩
      | _ => none
    else none

/-- What the rounds of a loop come to in a view. -/
def RoundOutline.seen (rounds : RoundOutline) (condition : String) (view : View) : List Char :=
  (itemsOf (view rounds.container)).flatMap fun v =>
    (if (view.inside rounds.item v condition).isTruthy then rounds.full else rounds.bare).seen
      (view.inside rounds.item v)

theorem nodesSay_rounds {item condition path : String} {container : Expr} {body : List Node}
    {full bare : Outline} (hcontainer : container.path? = some path)
    (hfull : sketchOf? [(condition, true)] body = some full)
    (hbare : sketchOf? [(condition, false)] body = some bare) (view : View) :
    nodesSay [.loop none item container body none] view =
      RoundOutline.seen ⟨item, path, full, bare⟩ condition view := by
  rw [nodesSay, nodesSay, List.append_nil, Node.said, Expr.seen_of_path? hcontainer]
  refine congrArg (List.flatMap · _) (funext fun v => ?_)
  cases hcondition : (view.inside item v condition).isTruthy with
  | true =>
      rw [if_pos rfl]
      exact nodesSay_of_sketch? (List.forall_mem_singleton.mpr hcondition) body hfull
  | false =>
      rw [if_neg Bool.false_ne_true]
      exact nodesSay_of_sketch? (List.forall_mem_singleton.mpr hcondition) body hbare

end Scaffold.Template

namespace Scaffold

open Template

section

variable {key : TemplateKey} {text : String} {changing : List String} {start : Nat}

/-- What stands around a passage of a builtin template stays as it is while the context
changes nothing but names in the passage. -/
theorem TemplateKey.exists_content_around {nodes : List Node} {length : Nat}
    (hbuiltin : key.builtinText? = some text) (hnodes : nodesOfChars? text.toList = some nodes)
    (hsurrounded : isSurrounded (key.signature.without changing) start length nodes = true)
    (context : SortedMap Value) :
    ∃ front back : List Char, ∀ (g : Generator) (d : Disk) (t : Target), t.template = key →
      g.repository.textOf d key = .ok text → key.signature.Met t.context.values →
        AlikeBut changing context t.context.values →
          g.content t d = .ok (String.ofList (front ++
            (nodesSay (passageOf start length nodes) (.ofContext t.context.values) ++ back))) := by
  unfold isSurrounded at hsurrounded
  rw [Bool.and_eq_true] at hsurrounded
  refine ⟨nodesSay (nodes.take start) (.ofContext context),
    nodesSay (nodes.drop (start + length)) (.ofContext context), ?_⟩
  rintro g d t rfl htext hmet halike
  rw [Generator.content_of_nodes htext hbuiltin hnodes hmet, nodesSay_cut start length,
    nodesSay_congr _ halike.agree hsurrounded.1, nodesSay_congr _ halike.agree hsurrounded.2]

theorem TemplateKey.exists_content_of_passage {length : Nat} {o : Outline}
    (hbuiltin : key.builtinText? = some text)
    (hpassage : passageOutline? key.signature changing start length text.toList = some o)
    (context : SortedMap Value) :
    ∃ front back : List Char, ∀ (g : Generator) (d : Disk) (t : Target), t.template = key →
      g.repository.textOf d key = .ok text → key.signature.Met t.context.values →
        AlikeBut changing context t.context.values →
          g.content t d = .ok (String.ofList (front ++
            (o.seen (.ofContext t.context.values) ++ back))) := by
  obtain ⟨nodes, hnodes, hpassage⟩ := Option.bind_eq_some_iff.mp hpassage
  obtain ⟨hsurrounded, hsketch⟩ := Option.ite_none_right_eq_some.mp hpassage
  obtain ⟨front, back, hcontent⟩ :=
    exists_content_around hbuiltin hnodes hsurrounded context
  refine ⟨front, back, fun g d t htemplate htext hmet halike => ?_⟩
  rw [hcontent g d t htemplate htext hmet halike,
    nodesSay_of_sketch? (List.forall_mem_nil _) _ hsketch]

theorem TemplateKey.exists_content_of_rounds {condition : String} {rounds : RoundOutline}
    (hbuiltin : key.builtinText? = some text)
    (hrounds : roundOutline? key.signature changing condition start text.toList = some rounds)
    (context : SortedMap Value) :
    ∃ front back : List Char, ∀ (g : Generator) (d : Disk) (t : Target), t.template = key →
      g.repository.textOf d key = .ok text → key.signature.Met t.context.values →
        AlikeBut changing context t.context.values →
          g.content t d = .ok (String.ofList (front ++
            (rounds.seen condition (.ofContext t.context.values) ++ back))) := by
  obtain ⟨nodes, hnodes, hrounds⟩ := Option.bind_eq_some_iff.mp hrounds
  obtain ⟨hsurrounded, hloop⟩ := Option.ite_none_right_eq_some.mp hrounds
  obtain ⟨front, back, hcontent⟩ :=
    exists_content_around hbuiltin hnodes hsurrounded context
  refine ⟨front, back, fun g d t htemplate htext hmet halike => ?_⟩
  rw [hcontent g d t htemplate htext hmet halike]
  split at hloop
  · next item container body hpassage =>
    obtain ⟨path, hcontainer, hloop⟩ := Option.bind_eq_some_iff.mp hloop
    obtain ⟨full, hfull, hloop⟩ := Option.bind_eq_some_iff.mp hloop
    obtain ⟨bare, hbare, hloop⟩ := Option.bind_eq_some_iff.mp hloop
    obtain rfl := Option.some.inj hloop
    rw [hpassage, nodesSay_rounds hcontainer hfull hbare]
  · exact absurd hloop nofun

end

end Scaffold
