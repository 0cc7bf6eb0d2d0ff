import Mathlib.Data.List.Forall2
import Mathlib.Data.List.Perm.Basic
import Scaffold.Proofs.Template.Survey

/-!
# Arguments in another order

The named arguments of a call have no order of their own. A template is told from a
reordering of it by the order of arguments alone, at any depth: the arguments of a
function inside an argument of a filter may change places as well. What a reordering may
do is a parameter, so that the effects of different kinds of reorderings can be told apart.
-/

namespace Scaffold.Template

/-- What reorderings may do. -/
structure Leeway where
  /-- Whether two arguments of one call may change places. -/
  swaps : Expr → Expr → Prop
  /-- Whether expressions stay as they are where an explanation quotes them. -/
  faithful : Bool

/-- Arguments in another order, one exchange of neighbours after the other. -/
inductive Exchanged (l : Leeway) : List (String × Expr) → List (String × Expr) → Prop
  | refl (args : List (String × Expr)) : Exchanged l args args
  | cons (arg : String × Expr) {args args' : List (String × Expr)} (h : Exchanged l args args') :
      Exchanged l (arg :: args) (arg :: args')
  | swap {m n : String} {e f : Expr} (args : List (String × Expr)) (hnames : m ≠ n)
      (hswap : l.swaps e f) : Exchanged l ((m, e) :: (n, f) :: args) ((n, f) :: (m, e) :: args)
  | trans {args args' args'' : List (String × Expr)} (h : Exchanged l args args')
      (h' : Exchanged l args' args'') : Exchanged l args args''

/-- Arguments with distinct names, of which any two may change places, may stand in any
order. -/
theorem exchanged_of_perm {l : Leeway} {args args' : List (String × Expr)}
    (hperm : args.Perm args') (hnames : (args.map Prod.fst).Nodup)
    (hswaps : ∀ a ∈ args, ∀ b ∈ args, l.swaps a.2 b.2) : Exchanged l args args' := by
  induction hperm with
  | nil => exact .refl []
  | cons arg hperm ih =>
      rw [List.map_cons, List.nodup_cons] at hnames
      exact .cons arg <| ih hnames.2 fun a ha b hb =>
        hswaps a (List.mem_cons_of_mem _ ha) b (List.mem_cons_of_mem _ hb)
  | swap arg other args =>
      have hdiffer : other.1 ≠ arg.1 := fun heq =>
        (List.nodup_cons.mp hnames).1 (List.mem_cons.mpr (.inl heq))
      exact .swap args hdiffer
        (hswaps other List.mem_cons_self arg (List.mem_cons_of_mem _ List.mem_cons_self))
  | trans hfirst _ ih ih' =>
      refine .trans (ih hnames hswaps) (ih' ((hfirst.map Prod.fst).nodup_iff.mp hnames) ?_)
      exact fun a ha b hb => hswaps a (hfirst.mem_iff.mpr ha) b (hfirst.mem_iff.mpr hb)

/-! ## Expressions -/

mutual

inductive Expr.Reordered (l : Leeway) : Expr → Expr → Prop
  | mk {operand operand' : Operand} {negated : Bool} {filters filters' : List Call}
      (hoperand : operand.Reordered l operand') (hfilters : CallsReordered l filters filters') :
      Expr.Reordered l (.mk operand negated filters) (.mk operand' negated filters')

inductive Operand.Reordered (l : Leeway) : Operand → Operand → Prop
  | text (s : String) : Operand.Reordered l (.text s) (.text s)
  | int (n : Int) : Operand.Reordered l (.int n) (.int n)
  | float (x : Binary64) : Operand.Reordered l (.float x) (.float x)
  | bool (b : Bool) : Operand.Reordered l (.bool b) (.bool b)
  | name (path : String) : Operand.Reordered l (.name path) (.name path)
  /-- A remainder that fails quotes its sides. -/
  | math {op : MathOp} {left left' right right' : Expr}
      (hleft : left.Reordered l left') (hright : right.Reordered l right')
      (hquoted : op = .rem → l.faithful = true → divisionOf left' right' = divisionOf left right) :
      Operand.Reordered l (.math op left right) (.math op left' right')
  | logic {op : LogicOp} {left left' right right' : Expr}
      (hleft : left.Reordered l left') (hright : right.Reordered l right') :
      Operand.Reordered l (.logic op left right) (.logic op left' right')
  | member {negated : Bool} {item item' container container' : Expr}
      (hitem : item.Reordered l item') (hcontainer : container.Reordered l container') :
      Operand.Reordered l (.member negated item container) (.member negated item' container')
  | test {path : String} {negated : Bool} {name : String} {args args' : List Expr}
      (hargs : ItemsReordered l args args') :
      Operand.Reordered l (.test path negated name args) (.test path negated name args')
  | call {name : String} {args args' : List (String × Expr)} (hargs : ArgsReordered l args args') :
      Operand.Reordered l (.call (.mk name args)) (.call (.mk name args'))
  | expand {space name : String} {args args' : List (String × Expr)}
      (hargs : ArgsReordered l args args') :
      Operand.Reordered l (.expand space name args) (.expand space name args')
  | list {items items' : List Expr} (hitems : ItemsReordered l items items') :
      Operand.Reordered l (.list items) (.list items')
  | concat {parts parts' : List Operand} (hparts : PartsReordered l parts parts') :
      Operand.Reordered l (.concat parts) (.concat parts')

inductive CallsReordered (l : Leeway) : List Call → List Call → Prop
  | nil : CallsReordered l [] []
  | cons {name : String} {args args' : List (String × Expr)} {calls calls' : List Call}
      (hargs : ArgsReordered l args args') (hcalls : CallsReordered l calls calls') :
      CallsReordered l (.mk name args :: calls) (.mk name args' :: calls')

inductive ItemsReordered (l : Leeway) : List Expr → List Expr → Prop
  | nil : ItemsReordered l [] []
  | cons {item item' : Expr} {items items' : List Expr} (hitem : item.Reordered l item')
      (hitems : ItemsReordered l items items') :
      ItemsReordered l (item :: items) (item' :: items')

inductive PartsReordered (l : Leeway) : List Operand → List Operand → Prop
  | nil : PartsReordered l [] []
  | cons {part part' : Operand} {parts parts' : List Operand} (hpart : part.Reordered l part')
      (hparts : PartsReordered l parts parts') :
      PartsReordered l (part :: parts) (part' :: parts')

/-- Arguments that are exchanged after each of them was reordered by itself. -/
inductive ArgsReordered (l : Leeway) : List (String × Expr) → List (String × Expr) → Prop
  | mk {args args' args'' : List (String × Expr)} (heach : EachReordered l args args')
      (hexchanged : Exchanged l args' args'') : ArgsReordered l args args''

inductive EachReordered (l : Leeway) : List (String × Expr) → List (String × Expr) → Prop
  | nil : EachReordered l [] []
  | cons {name : String} {e e' : Expr} {args args' : List (String × Expr)}
      (he : e.Reordered l e') (hargs : EachReordered l args args') :
      EachReordered l ((name, e) :: args) ((name, e') :: args')

end

section

variable {l : Leeway}

mutual

theorem Expr.Reordered.refl : ∀ e : Expr, e.Reordered l e
  | .mk operand _ filters => .mk (Operand.Reordered.refl operand) (callsReordered_refl filters)

theorem Operand.Reordered.refl : ∀ operand : Operand, operand.Reordered l operand
  | .text s => .text s
  | .int n => .int n
  | .float x => .float x
  | .bool b => .bool b
  | .name path => .name path
  | .math _ left right =>
      .math (Expr.Reordered.refl left) (Expr.Reordered.refl right) fun _ _ => rfl
  | .logic _ left right => .logic (Expr.Reordered.refl left) (Expr.Reordered.refl right)
  | .member _ item container =>
      .member (Expr.Reordered.refl item) (Expr.Reordered.refl container)
  | .test _ _ _ args => .test (itemsReordered_refl args)
  | .call (.mk _ args) => .call (argsReordered_refl args)
  | .expand _ _ args => .expand (argsReordered_refl args)
  | .list items => .list (itemsReordered_refl items)
  | .concat parts => .concat (partsReordered_refl parts)

theorem callsReordered_refl : ∀ calls : List Call, CallsReordered l calls calls
  | [] => .nil
  | .mk _ args :: calls => .cons (argsReordered_refl args) (callsReordered_refl calls)

theorem itemsReordered_refl : ∀ items : List Expr, ItemsReordered l items items
  | [] => .nil
  | item :: items => .cons (Expr.Reordered.refl item) (itemsReordered_refl items)

theorem partsReordered_refl : ∀ parts : List Operand, PartsReordered l parts parts
  | [] => .nil
  | part :: parts => .cons (Operand.Reordered.refl part) (partsReordered_refl parts)

theorem argsReordered_refl (args : List (String × Expr)) : ArgsReordered l args args :=
  .mk (eachReordered_refl args) (.refl args)

theorem eachReordered_refl : ∀ args : List (String × Expr), EachReordered l args args
  | [] => .nil
  | (_, e) :: args => .cons (Expr.Reordered.refl e) (eachReordered_refl args)

end

end

/-! ## Arguments as they are read -/

namespace Grammar

theorem mem_names_putArg {name key : String} {value : Expr} {args : List (String × Expr)} :
    key ∈ (putArg name value args).map Prod.fst ↔ key = name ∨ key ∈ args.map Prod.fst := by
  induction args with
  | nil => simp [putArg]
  | cons arg args ih =>
      unfold putArg
      split
      · next h => simp [h]
      · simp only [List.map_cons, List.mem_cons, ih]
        tauto

theorem nodup_putArg {name : String} {value : Expr} {args : List (String × Expr)}
    (h : (args.map Prod.fst).Nodup) : ((putArg name value args).map Prod.fst).Nodup := by
  induction args with
  | nil => simp [putArg]
  | cons arg args ih =>
      unfold putArg
      rw [List.map_cons, List.nodup_cons] at h
      split
      · exact List.nodup_cons.mpr h
      · next hname =>
          refine List.nodup_cons.mpr ⟨fun hmem => ?_, ih h.2⟩
          rcases mem_names_putArg.mp hmem with heq | hmem
          · exact hname heq
          · exact h.1 hmem

theorem nodup_namedArgs : ∀ (fuel : Nat) (done : List (String × Expr)) (cs : List Char),
    (done.map Prod.fst).Nodup → ((namedArgs fuel done cs).1.map Prod.fst).Nodup
  | 0, _, _, h => by
      rw [namedArgs]
      exact h
  | fuel + 1, done, cs, h => by
      rw [namedArgs]
      dsimp only
      split
      · exact h
      · exact nodup_namedArgs fuel _ _ (nodup_putArg h)

/-- The arguments of a call have distinct names. -/
theorem nodup_arguments {fuel : Nat} {cs rest : List Char} {args : List (String × Expr)}
    (h : arguments fuel cs = some (args, rest)) : (args.map Prod.fst).Nodup := by
  cases fuel with
  | zero =>
      rw [arguments] at h
      exact absurd h (by simp)
  | succ fuel =>
      rw [arguments] at h
      split at h
      · exact absurd h (by simp)
      · next inner _ =>
          obtain ⟨_, -, heq⟩ := Option.map_eq_some_iff.mp h
          obtain ⟨rfl, -⟩ := Prod.mk.inj heq
          exact nodup_namedArgs fuel [] inner List.nodup_nil

/-- The arguments of a call that is read may stand in any order. -/
theorem exchanged_of_arguments {l : Leeway} {fuel : Nat} {cs rest : List Char}
    {args args' : List (String × Expr)} (h : arguments fuel cs = some (args, rest))
    (hperm : args.Perm args') (hswaps : ∀ a ∈ args, ∀ b ∈ args, l.swaps a.2 b.2) :
    Exchanged l args args' :=
  exchanged_of_perm hperm (nodup_arguments h) hswaps

end Grammar

/-! ## Templates -/

mutual

inductive Node.Reordered (l : Leeway) : Node → Node → Prop
  | text (s : String) : Node.Reordered l (.text s) (.text s)
  | verbatim (s : String) : Node.Reordered l (.verbatim s) (.verbatim s)
  | comment : Node.Reordered l .comment .comment
  | stop : Node.Reordered l .stop .stop
  | skip : Node.Reordered l .skip .skip
  | insert (names : List String) (optional : Bool) :
      Node.Reordered l (.insert names optional) (.insert names optional)
  | output {e e' : Expr} (he : e.Reordered l e') : Node.Reordered l (.output e) (.output e')
  | assign {whole : Bool} {name : String} {e e' : Expr} (he : e.Reordered l e') :
      Node.Reordered l (.assign whole name e) (.assign whole name e')
  | branch {arms arms' : List (Expr × List Node)} {otherwise otherwise' : Option (List Node)}
      (harms : ArmsReordered l arms arms') (hotherwise : BodyReordered l otherwise otherwise') :
      Node.Reordered l (.branch arms otherwise) (.branch arms' otherwise')
  /-- A loop over what no loop can run over quotes it. -/
  | loop {key : Option String} {item : String} {container container' : Expr}
      {body body' : List Node} {otherwise otherwise' : Option (List Node)}
      (hcontainer : container.Reordered l container') (hbody : NodesReordered l body body')
      (hotherwise : BodyReordered l otherwise otherwise')
      (hquoted : l.faithful = true → containerName container' = containerName container) :
      Node.Reordered l (.loop key item container body otherwise)
        (.loop key item container' body' otherwise')
  | block {name : String} {body body' : List Node} (hbody : NodesReordered l body body') :
      Node.Reordered l (.block name body) (.block name body')
  | filtered {name : String} {args args' : List (String × Expr)} {body body' : List Node}
      (hargs : ArgsReordered l args args') (hbody : NodesReordered l body body') :
      Node.Reordered l (.filtered (.mk name args) body) (.filtered (.mk name args') body')
  | definition {name : String} {params : List (String × Option Operand)} {body body' : List Node}
      (hbody : NodesReordered l body body') :
      Node.Reordered l (.definition name params body) (.definition name params body')

inductive NodesReordered (l : Leeway) : List Node → List Node → Prop
  | nil : NodesReordered l [] []
  | cons {node node' : Node} {nodes nodes' : List Node} (hnode : node.Reordered l node')
      (hnodes : NodesReordered l nodes nodes') :
      NodesReordered l (node :: nodes) (node' :: nodes')

inductive ArmsReordered (l : Leeway) : List (Expr × List Node) → List (Expr × List Node) → Prop
  | nil : ArmsReordered l [] []
  | cons {condition condition' : Expr} {body body' : List Node}
      {arms arms' : List (Expr × List Node)} (hcondition : condition.Reordered l condition')
      (hbody : NodesReordered l body body') (harms : ArmsReordered l arms arms') :
      ArmsReordered l ((condition, body) :: arms) ((condition', body') :: arms')

/-- The body of `else`, if there is one. -/
inductive BodyReordered (l : Leeway) : Option (List Node) → Option (List Node) → Prop
  | none : BodyReordered l none none
  | some {body body' : List Node} (hbody : NodesReordered l body body') :
      BodyReordered l (some body) (some body')

end

/-- The same template but for the order of arguments. -/
structure Tree.Reordered (l : Leeway) (tree tree' : Tree) : Prop where
  nodes : NodesReordered l tree.nodes tree'.nodes
  blocks : List.Forall₂ (fun b b' => b'.1 = b.1 ∧ NodesReordered l b.2 b'.2) tree.blocks
    tree'.blocks
  definitions : List.Forall₂
    (fun d d' => d'.name = d.name ∧ d'.params = d.params ∧ NodesReordered l d.body d'.body)
    tree.definitions tree'.definitions
  imports : tree'.imports = tree.imports

section

variable {l : Leeway}

mutual

theorem Node.Reordered.blocks : ∀ {node node' : Node}, node.Reordered l node' →
    List.Forall₂ (fun b b' => b'.1 = b.1 ∧ NodesReordered l b.2 b'.2) node.blocks node'.blocks
  | _, _, .block hbody => .cons ⟨rfl, hbody⟩ hbody.blocks
  | _, _, .text _ | _, _, .verbatim _ | _, _, .comment | _, _, .stop | _, _, .skip
  | _, _, .insert _ _ | _, _, .output _ | _, _, .assign _ | _, _, .branch _ _
  | _, _, .loop _ _ _ _ | _, _, .filtered _ _ | _, _, .definition _ => .nil

theorem NodesReordered.blocks : ∀ {nodes nodes' : List Node}, NodesReordered l nodes nodes' →
    List.Forall₂ (fun b b' => b'.1 = b.1 ∧ NodesReordered l b.2 b'.2) (Node.blocksOf nodes)
      (Node.blocksOf nodes')
  | _, _, .nil => .nil
  | _, _, .cons hnode hnodes => List.rel_append hnode.blocks hnodes.blocks

end

theorem NodesReordered.definitions {nodes nodes' : List Node} (h : NodesReordered l nodes nodes') :
    List.Forall₂
      (fun d d' => d'.name = d.name ∧ d'.params = d.params ∧ NodesReordered l d.body d'.body)
      (definitionsOf nodes) (definitionsOf nodes') := by
  match h with
  | .nil => exact .nil
  | .cons (.definition hbody) hnodes => exact .cons ⟨rfl, rfl, hbody⟩ hnodes.definitions
  | .cons (.text _) hnodes | .cons (.verbatim _) hnodes | .cons .comment hnodes
  | .cons .stop hnodes | .cons .skip hnodes | .cons (.insert _ _) hnodes
  | .cons (.output _) hnodes | .cons (.assign _) hnodes | .cons (.branch _ _) hnodes
  | .cons (.loop _ _ _ _) hnodes | .cons (.block _) hnodes | .cons (.filtered _ _) hnodes =>
      exact hnodes.definitions

/-- The bodies that names stand for follow the nodes. -/
theorem Tree.Reordered.of_nodes {tree tree' : Tree} (hgathered : tree.Gathered)
    (hgathered' : tree'.Gathered) (himports : tree'.imports = tree.imports)
    (hnodes : NodesReordered l tree.nodes tree'.nodes) : tree.Reordered l tree' where
  nodes := hnodes
  blocks := hgathered.blocks ▸ hgathered'.blocks ▸ hnodes.blocks
  definitions := hgathered.definitions ▸ hgathered'.definitions ▸ hnodes.definitions
  imports := himports

end

/-! ## What conditions read -/

theorem Reads.append_assoc (r q p : Reads) : r ++ q ++ p = r ++ (q ++ p) :=
  congrArg₂ Reads.mk (List.append_assoc _ _ _) (List.append_assoc _ _ _)

/-- A comparison of readings that reorderings keep to when exchanges of arguments do. -/
structure Reads.Tolerates (l : Leeway) (R : Reads → Reads → Prop) : Prop where
  refl : ∀ r, R r r
  trans : ∀ {r q p}, R r q → R q p → R r p
  append : ∀ {r r' q q'}, R r r' → R q q' → R (r ++ q) (r' ++ q')
  swap : ∀ {e f} (locals : List String), l.swaps e f →
    R (e.reads locals ++ f.reads locals) (f.reads locals ++ e.reads locals)

section

variable {l : Leeway} {R : Reads → Reads → Prop}

theorem CallsReordered.any_name {p : String → Bool} {calls calls' : List Call}
    (h : CallsReordered l calls calls') : calls'.any (p ·.name) = calls.any (p ·.name) := by
  match h with
  | .nil => rfl
  | .cons _ hcalls =>
      rw [List.any_cons, List.any_cons, hcalls.any_name]
      rfl

theorem Exchanged.reads (hR : Reads.Tolerates l R) (locals : List String)
    {args args' : List (String × Expr)} (h : Exchanged l args args') :
    R (readsOfArgs locals args) (readsOfArgs locals args') := by
  induction h with
  | refl args => exact hR.refl _
  | cons arg _ ih => exact hR.append (hR.refl _) ih
  | swap args _ hswap =>
      have hpair := hR.append (hR.swap locals hswap) (hR.refl (readsOfArgs locals args))
      rw [Reads.append_assoc, Reads.append_assoc] at hpair
      exact hpair
  | trans _ _ ih ih' => exact hR.trans ih ih'

mutual

theorem Expr.Reordered.reads (hR : Reads.Tolerates l R) (locals : List String) :
    ∀ {e e' : Expr}, e.Reordered l e' → R (e.reads locals) (e'.reads locals)
  | _, _, .mk hoperand hfilters => by
      rw [Expr.reads, Expr.reads, hfilters.any_name (p := (· == "default"))]
      split
      · exact hR.refl _
      · exact hoperand.reads hR locals

theorem Operand.Reordered.reads (hR : Reads.Tolerates l R) (locals : List String) :
    ∀ {operand operand' : Operand}, operand.Reordered l operand' →
      R (operand.reads locals) (operand'.reads locals)
  | _, _, .math hleft hright _ => hR.append (hleft.reads hR locals) (hright.reads hR locals)
  | _, _, .logic hleft hright => hR.append (hleft.reads hR locals) (hright.reads hR locals)
  | _, _, .member hitem hcontainer =>
      hR.append (hitem.reads hR locals) (hcontainer.reads hR locals)
  | _, _, .call hargs => hargs.reads hR locals
  | _, _, .list hitems => hitems.reads hR locals
  | _, _, .concat hparts => hparts.reads hR locals
  | _, _, .test _ => hR.refl _
  | _, _, .text _ | _, _, .int _ | _, _, .float _ | _, _, .bool _ | _, _, .name _
  | _, _, .expand _ => hR.refl _

theorem ItemsReordered.reads (hR : Reads.Tolerates l R) (locals : List String) :
    ∀ {items items' : List Expr}, ItemsReordered l items items' →
      R (readsOfItems locals items) (readsOfItems locals items')
  | _, _, .nil => hR.refl _
  | _, _, .cons hitem hitems => hR.append (hitem.reads hR locals) (hitems.reads hR locals)

theorem PartsReordered.reads (hR : Reads.Tolerates l R) (locals : List String) :
    ∀ {parts parts' : List Operand}, PartsReordered l parts parts' →
      R (readsOfParts locals parts) (readsOfParts locals parts')
  | _, _, .nil => hR.refl _
  | _, _, .cons hpart hparts => hR.append (hpart.reads hR locals) (hparts.reads hR locals)

theorem ArgsReordered.reads (hR : Reads.Tolerates l R) (locals : List String) :
    ∀ {args args' : List (String × Expr)}, ArgsReordered l args args' →
      R (readsOfArgs locals args) (readsOfArgs locals args')
  | _, _, .mk heach hexchanged => hR.trans (heach.reads hR locals) (hexchanged.reads hR locals)

theorem EachReordered.reads (hR : Reads.Tolerates l R) (locals : List String) :
    ∀ {args args' : List (String × Expr)}, EachReordered l args args' →
      R (readsOfArgs locals args) (readsOfArgs locals args')
  | _, _, .nil => hR.refl _
  | _, _, .cons he hargs => hR.append (he.reads hR locals) (hargs.reads hR locals)

end

mutual

theorem Node.Reordered.reads (hR : Reads.Tolerates l R) :
    ∀ {node node' : Node} {locals locals' : List String}, node.Reordered l node' →
      locals' = locals → R (node.reads locals).1 (node'.reads locals').1 ∧
        (node'.reads locals').2 = (node.reads locals).2
  | _, _, _, _, .branch harms .none, rfl => harms.reads hR rfl
  | _, _, _, _, .branch harms (.some hbody), rfl => by
      obtain ⟨hfirst, hlocals⟩ := harms.reads hR rfl
      obtain ⟨hlast, hbehind⟩ := hbody.reads hR hlocals
      exact ⟨hR.append hfirst hlast, hbehind⟩
  | _, _, _, _, .loop hcontainer hbody .none _, rfl =>
      ⟨hR.append (hcontainer.reads hR _) (hbody.reads hR rfl).1, rfl⟩
  | _, _, _, _, .loop hcontainer hbody (.some hlast) _, rfl => by
      obtain ⟨hreads, hbehind⟩ := hlast.reads hR rfl
      exact ⟨hR.append (hR.append (hcontainer.reads hR _) (hbody.reads hR rfl).1) hreads, hbehind⟩
  | _, _, _, _, .block hbody, rfl => hbody.reads hR rfl
  | _, _, _, _, .filtered _ hbody, rfl => hbody.reads hR rfl
  | _, _, _, _, .assign _, rfl => ⟨hR.refl _, rfl⟩
  | _, _, _, _, .text _, rfl | _, _, _, _, .verbatim _, rfl | _, _, _, _, .comment, rfl
  | _, _, _, _, .stop, rfl | _, _, _, _, .skip, rfl | _, _, _, _, .insert _ _, rfl
  | _, _, _, _, .output _, rfl | _, _, _, _, .definition _, rfl => ⟨hR.refl _, rfl⟩

theorem NodesReordered.reads (hR : Reads.Tolerates l R) :
    ∀ {nodes nodes' : List Node} {locals locals' : List String}, NodesReordered l nodes nodes' →
      locals' = locals → R (readsOfNodes locals nodes).1 (readsOfNodes locals' nodes').1 ∧
        (readsOfNodes locals' nodes').2 = (readsOfNodes locals nodes).2
  | _, _, _, _, .nil, rfl => ⟨hR.refl _, rfl⟩
  | _, _, _, _, .cons hnode hnodes, rfl => by
      obtain ⟨hfirst, hlocals⟩ := hnode.reads hR rfl
      obtain ⟨hrest, hbehind⟩ := hnodes.reads hR hlocals
      exact ⟨hR.append hfirst hrest, hbehind⟩

theorem ArmsReordered.reads (hR : Reads.Tolerates l R) :
    ∀ {arms arms' : List (Expr × List Node)} {locals locals' : List String},
      ArmsReordered l arms arms' →
      locals' = locals → R (readsOfArms locals arms).1 (readsOfArms locals' arms').1 ∧
        (readsOfArms locals' arms').2 = (readsOfArms locals arms).2
  | _, _, _, _, .nil, rfl => ⟨hR.refl _, rfl⟩
  | _, _, _, _, .cons hcondition hbody harms, rfl => by
      obtain ⟨hinner, hlocals⟩ := hbody.reads hR rfl
      obtain ⟨hrest, hbehind⟩ := harms.reads hR hlocals
      exact ⟨hR.append (hR.append (hcondition.reads hR _) hinner) hrest, hbehind⟩

end

end

end Scaffold.Template
