import Scaffold.Proofs.Template.Wording
import Scaffold.Template.Detail
import Scaffold.Template.Parser

/-!
# Texts in tags

What the tags of a template write is what explanations quote, and what they give as
values can be quoted as well. The text outside of the tags is rendered as it stands, but
where a rendered text becomes a value it can come back in an explanation too.
-/

namespace Scaffold.Template

open Text

/-- What a template writes, as explanations come to quote it. -/
inductive Written where
  /-- A path, or the name of a parameter. -/
  | path (s : String)
  /-- The name by which a definition is called. -/
  | called (s : String)
  /-- Another text in a tag. -/
  | tag (s : String)
  /-- A text outside of the tags. -/
  | prose (s : String)
  /-- A place where a rendered text becomes a value. -/
  | capture
  deriving DecidableEq

/-- Whether an explanation that quotes it keeps its own words apart. `captures` says that
rendered texts become values. -/
def Written.Plain (captures : Bool) : Written → Prop
  | path s => IsNamed s
  | called s => IsWord s
  | tag s => Unticked s
  | prose s => captures = true → Unticked s
  | capture => captures = true

instance (captures : Bool) : (w : Written) → Decidable (w.Plain captures)
  | .path s => inferInstanceAs (Decidable (IsNamed s))
  | .called s => inferInstanceAs (Decidable (IsWord s))
  | .tag s => inferInstanceAs (Decidable (Unticked s))
  | .prose s => inferInstanceAs (Decidable (captures = true → Unticked s))
  | .capture => inferInstanceAs (Decidable (captures = true))

def AllPlain (captures : Bool) (written : List Written) : Prop :=
  ∀ w ∈ written, w.Plain captures

instance (captures : Bool) (written : List Written) : Decidable (AllPlain captures written) :=
  inferInstanceAs (Decidable (∀ w ∈ written, w.Plain captures))

section

variable {captures : Bool} {w : Written} {some more : List Written}

theorem allPlain_cons : AllPlain captures (w :: more) ↔ w.Plain captures ∧ AllPlain captures more :=
  List.forall_mem_cons

theorem allPlain_append :
    AllPlain captures (some ++ more) ↔ AllPlain captures some ∧ AllPlain captures more :=
  List.forall_mem_append

theorem unticked_of_tags {names : List String} (h : AllPlain captures (names.map .tag)) :
    ∀ name ∈ names, Unticked name :=
  fun name hname => h (.tag name) (List.mem_map.mpr ⟨name, hname, rfl⟩)

theorem AllPlain.of_subset (h : AllPlain captures more) (hsub : some ⊆ more) :
    AllPlain captures some := fun w hw => h w (hsub hw)

end

/-! ## Expressions -/

mutual

def Expr.writes : Expr → List Written
  | .mk operand _ filters => operand.writes ++ writesOfCalls filters

def Operand.writes : Operand → List Written
  | .text s => [.tag s]
  | .int _ | .float _ | .bool _ => []
  | .name path => [.path path]
  | .math _ left right => left.writes ++ right.writes
  | .logic _ left right => left.writes ++ right.writes
  | .member _ item container => item.writes ++ container.writes
  | .test path _ name args => .path path :: .tag name :: writesOfItems args
  | .call call => call.writes
  | .expand space name args => .capture :: .tag space :: .called name :: writesOfArgs args
  | .list items => writesOfItems items
  | .concat parts => writesOfParts parts

def Call.writes : Call → List Written
  | .mk name args => .tag name :: writesOfArgs args

def writesOfCalls : List Call → List Written
  | [] => []
  | call :: calls => call.writes ++ writesOfCalls calls

def writesOfItems : List Expr → List Written
  | [] => []
  | item :: items => item.writes ++ writesOfItems items

def writesOfParts : List Operand → List Written
  | [] => []
  | part :: parts => part.writes ++ writesOfParts parts

def writesOfArgs : List (String × Expr) → List Written
  | [] => []
  | (name, value) :: args => .tag name :: (value.writes ++ writesOfArgs args)

end

/-! ## Expressions in detail -/

theorem unticked_boolText (b : Bool) : Unticked (boolText b) := by
  cases b <;> decide

theorem unticked_detailOf {kind : String} {parts : List (String × String)} (hkind : Unticked kind)
    (hparts : ∀ part ∈ parts, Unticked part.1 ∧ Unticked part.2) :
    Unticked (detailOf kind parts) := by
  unfold detailOf
  refine unticked_append.mpr ⟨unticked_append.mpr ⟨unticked_append.mpr ⟨hkind, by decide⟩, ?_⟩,
    by decide⟩
  refine unticked_intercalate (by decide) fun text htext => ?_
  obtain ⟨part, hpart, rfl⟩ := List.mem_map.mp htext
  exact unticked_append.mpr ⟨unticked_append.mpr ⟨(hparts part hpart).1, by decide⟩,
    (hparts part hpart).2⟩

/-- The details of two sides of an operator. -/
theorem unticked_sides {kind left right name last : String} (hkind : Unticked kind)
    (hleft : Unticked left) (hright : Unticked right) (hname : Unticked name)
    (hlast : Unticked last) :
    Unticked (detailOf kind [("lhs", left), ("rhs", right), (name, last)]) := by
  refine unticked_detailOf hkind ?_
  simp only [List.forall_mem_cons]
  exact ⟨⟨by decide, hleft⟩, ⟨by decide, hright⟩, ⟨hname, hlast⟩, List.forall_mem_nil _⟩

/-- Parts that are listed with commas between them. -/
theorem unticked_listed {α : Type} {w : List α → String} {f : α → String}
    (hnil : w [] = "") (hone : ∀ a, w [a] = f a)
    (hmore : ∀ a b items, w (a :: b :: items) = f a ++ ", " ++ w (b :: items))
    {items : List α} (h : ∀ a ∈ items, Unticked (f a)) {before after : String}
    (hbefore : Unticked before) (hafter : Unticked after) :
    Unticked (before ++ w items ++ after) :=
  unticked_between hbefore (unticked_separated hnil hone hmore (by decide) h) hafter

theorem unticked_items {items : List Expr} (h : ∀ item ∈ items, Unticked item.detail)
    {before after : String} (hbefore : Unticked before) (hafter : Unticked after) :
    Unticked (before ++ detailExprs items ++ after) :=
  unticked_listed rfl (fun _ => rfl) (fun _ _ _ => rfl) h hbefore hafter

theorem unticked_args {args : List (String × Expr)}
    (h : ∀ arg ∈ args, Unticked (literal arg.1 ++ ": " ++ arg.2.detail))
    {before after : String} (hbefore : Unticked before) (hafter : Unticked after) :
    Unticked (before ++ detailArgs args ++ after) :=
  unticked_listed rfl (fun ⟨_, _⟩ => rfl) (fun ⟨_, _⟩ _ _ => rfl) h hbefore hafter

section

variable {captures : Bool}

mutual

theorem Expr.unticked_detail : ∀ e : Expr, AllPlain captures e.writes → Unticked e.detail
  | .mk operand negated filters, h => by
      rw [Expr.writes, allPlain_append] at h
      rw [Expr.detail]
      refine unticked_detailOf (by decide) ?_
      simp only [List.forall_mem_cons]
      exact ⟨⟨by decide, operand.unticked_detail h.1⟩, ⟨by decide, unticked_boolText negated⟩,
        ⟨by decide, unticked_listed rfl (fun _ => rfl) (fun _ _ _ => rfl)
          (unticked_detailCalls filters h.2) (by decide) (by decide)⟩,
        List.forall_mem_nil _⟩

theorem Operand.unticked_detail :
    ∀ operand : Operand, AllPlain captures operand.writes → Unticked operand.detail
  | .text s, h => by
      rw [Operand.writes, allPlain_cons] at h
      have hs : Unticked s := h.1
      exact unticked_between (by decide) hs.literal (by decide)
  | .int n, _ => unticked_between (by decide) (unticked_toString_int n) (by decide)
  | .float x, _ => unticked_between (by decide) (unticked_scientific x) (by decide)
  | .bool b, _ => unticked_between (by decide) (unticked_boolText b) (by decide)
  | .name path, h => by
      rw [Operand.writes, allPlain_cons] at h
      have hpath : IsNamed path := h.1
      exact unticked_between (by decide) hpath.1.literal (by decide)
  | .math op left right, h => by
      rw [Operand.writes, allPlain_append] at h
      rw [Operand.detail]
      exact unticked_between (by decide) (unticked_sides (by decide) (left.unticked_detail h.1)
        (right.unticked_detail h.2) (by decide) (by cases op <;> decide)) (by decide)
  | .logic op left right, h => by
      rw [Operand.writes, allPlain_append] at h
      rw [Operand.detail]
      exact unticked_between (by decide) (unticked_sides (by decide) (left.unticked_detail h.1)
        (right.unticked_detail h.2) (by decide) (by cases op <;> decide)) (by decide)
  | .member negated item container, h => by
      rw [Operand.writes, allPlain_append] at h
      rw [Operand.detail]
      exact unticked_between (by decide) (unticked_sides (by decide) (item.unticked_detail h.1)
        (container.unticked_detail h.2) (by decide) (unticked_boolText negated)) (by decide)
  | .test path negated name args, h => by
      rw [Operand.writes, allPlain_cons, allPlain_cons] at h
      have hpath : IsNamed path := h.1
      have hname : Unticked name := h.2.1
      rw [Operand.detail]
      refine unticked_between (by decide) (unticked_detailOf (by decide) ?_) (by decide)
      simp only [List.forall_mem_cons]
      exact ⟨⟨by decide, hpath.1.literal⟩, ⟨by decide, unticked_boolText negated⟩,
        ⟨by decide, hname.literal⟩,
        ⟨by decide, unticked_items (unticked_detailExprs args h.2.2) (by decide) (by decide)⟩,
        List.forall_mem_nil _⟩
  | .call call, h => by
      rw [Operand.writes] at h
      rw [Operand.detail]
      exact unticked_between (by decide) (call.unticked_detail h) (by decide)
  | .expand space name args, h => by
      rw [Operand.writes, allPlain_cons, allPlain_cons, allPlain_cons] at h
      have hspace : Unticked space := h.2.1
      have hname : IsWord name := h.2.2.1
      rw [Operand.detail]
      refine unticked_between (by decide) (unticked_detailOf (by decide) ?_) (by decide)
      simp only [List.forall_mem_cons]
      exact ⟨⟨by decide, hspace.literal⟩, ⟨by decide, hname.2.1.literal⟩,
        ⟨by decide, unticked_args (unticked_detailArgs args h.2.2.2) (by decide) (by decide)⟩,
        List.forall_mem_nil _⟩
  | .list items, h => by
      rw [Operand.writes] at h
      rw [Operand.detail]
      exact unticked_items (unticked_detailExprs items h) (by decide) (by decide)
  | .concat parts, h => by
      rw [Operand.writes] at h
      rw [Operand.detail]
      refine unticked_between (by decide) (unticked_detailOf (by decide) ?_) (by decide)
      simp only [List.forall_mem_cons]
      exact ⟨⟨by decide, unticked_listed rfl (fun _ => rfl) (fun _ _ _ => rfl)
        (unticked_detailParts parts h) (by decide) (by decide)⟩, List.forall_mem_nil _⟩

theorem Call.unticked_detail : ∀ call : Call, AllPlain captures call.writes → Unticked call.detail
  | .mk name args, h => by
      rw [Call.writes, allPlain_cons] at h
      have hname : Unticked name := h.1
      rw [Call.detail]
      refine unticked_detailOf (by decide) ?_
      simp only [List.forall_mem_cons]
      exact ⟨⟨by decide, hname.literal⟩,
        ⟨by decide, unticked_args (unticked_detailArgs args h.2) (by decide) (by decide)⟩,
        List.forall_mem_nil _⟩

theorem unticked_detailExprs : ∀ items : List Expr, AllPlain captures (writesOfItems items) →
    ∀ item ∈ items, Unticked item.detail
  | [], _ => List.forall_mem_nil _
  | item :: items, h => by
      rw [writesOfItems, allPlain_append] at h
      exact List.forall_mem_cons.mpr ⟨item.unticked_detail h.1, unticked_detailExprs items h.2⟩

theorem unticked_detailParts : ∀ parts : List Operand, AllPlain captures (writesOfParts parts) →
    ∀ part ∈ parts, Unticked part.detail
  | [], _ => List.forall_mem_nil _
  | part :: parts, h => by
      rw [writesOfParts, allPlain_append] at h
      exact List.forall_mem_cons.mpr ⟨part.unticked_detail h.1, unticked_detailParts parts h.2⟩

theorem unticked_detailCalls : ∀ calls : List Call, AllPlain captures (writesOfCalls calls) →
    ∀ call ∈ calls, Unticked call.detail
  | [], _ => List.forall_mem_nil _
  | call :: calls, h => by
      rw [writesOfCalls, allPlain_append] at h
      exact List.forall_mem_cons.mpr ⟨call.unticked_detail h.1, unticked_detailCalls calls h.2⟩

theorem unticked_detailArgs : ∀ args : List (String × Expr), AllPlain captures (writesOfArgs args) →
    ∀ arg ∈ args, Unticked (literal arg.1 ++ ": " ++ arg.2.detail)
  | [], _ => List.forall_mem_nil _
  | (name, value) :: args, h => by
      rw [writesOfArgs, allPlain_cons, allPlain_append] at h
      have hname : Unticked name := h.1
      exact List.forall_mem_cons.mpr
        ⟨unticked_append.mpr ⟨unticked_append.mpr ⟨hname.literal, by decide⟩,
          value.unticked_detail h.2.1⟩, unticked_detailArgs args h.2.2⟩

end

end

/-! ## Bodies -/

/-- The parameters of a definition with their values. -/
def writesOfParams : List (String × Option Operand) → List Written
  | [] => []
  | (param, value) :: params =>
    .path param :: ((value.map Operand.writes).getD [] ++ writesOfParams params)

/-- The parameters of a definition are plain one by one, in whatever order. -/
theorem allPlain_writesOfParams {captures : Bool} {params : List (String × Option Operand)} :
    AllPlain captures (writesOfParams params) ↔ ∀ param ∈ params,
      IsNamed param.1 ∧ AllPlain captures ((param.2.map Operand.writes).getD []) := by
  induction params with
  | nil => exact ⟨fun _ => List.forall_mem_nil _, fun _ => List.forall_mem_nil _⟩
  | cons param params ih =>
      rw [writesOfParams, allPlain_cons, allPlain_append, List.forall_mem_cons, ih, and_assoc]
      exact Iff.rfl

mutual

def Node.writes : Node → List Written
  | .text s | .verbatim s => [.prose s]
  | .comment | .stop | .skip => []
  | .output e => e.writes
  | .assign _ name e => .tag name :: e.writes
  | .branch arms otherwise =>
    writesOfArms arms ++
      match otherwise with
      | some body => writesOfNodes body
      | none => []
  | .loop key item container body otherwise =>
    (key.toList ++ [item]).map .tag ++ container.writes ++ writesOfNodes body ++
      match otherwise with
      | some body => writesOfNodes body
      | none => []
  | .block _ body => writesOfNodes body
  | .filtered filter body => .capture :: (filter.writes ++ writesOfNodes body)
  | .definition _ params body => writesOfParams params ++ writesOfNodes body
  | .insert names _ => names.map .tag

def writesOfNodes : List Node → List Written
  | [] => []
  | node :: nodes => node.writes ++ writesOfNodes nodes

def writesOfArms : List (Expr × List Node) → List Written
  | [] => []
  | (condition, body) :: arms => condition.writes ++ writesOfNodes body ++ writesOfArms arms

end

/-- A template in which nothing that an explanation can quote passes for the words around
a name. -/
def Tree.Plain (tree : Tree) : Prop :=
  AllPlain ((writesOfNodes tree.nodes).contains .capture) (writesOfNodes tree.nodes)

instance (tree : Tree) : Decidable tree.Plain :=
  inferInstanceAs (Decidable (AllPlain _ (writesOfNodes tree.nodes)))

end Scaffold.Template
