import Scaffold.Proofs.Template.Absence

/-!
# Templates that cannot fail

A signature says which names a context gives values to and what shape these
have. A template is admitted for a signature when every path that it prints,
asks for or loops over is one of these names, or a column of the item that a
loop is at. What admitted nodes say is a function of the values that their paths
have. They render to it in every context that meets the signature and in all
surroundings, and they leave the frames as they find them.
-/

namespace Scaffold.Template

/-! ## Signatures -/

/-- What a value has to be: anything at all, or a list whose items all have some
columns. -/
inductive Shape where
  | single
  | rows (columns : List String)
  deriving DecidableEq

/-- A value of which columns can be asked. -/
def HasColumns (columns : List String) (v : Value) : Prop :=
  ∀ column ∈ columns, (v.at? column).isSome = true

def Shape.Fits : Shape → Value → Prop
  | .single, _ => True
  | .rows columns, v => ∃ items, v = .list items ∧ ∀ item ∈ items, HasColumns columns item

/-- The names that a context has to give values to. -/
abbrev Signature := List (String × Shape)

/-- Every name of the signature has a value of its shape. -/
def Signature.Met (sig : Signature) (context : SortedMap Value) : Prop :=
  ∀ name shape, sig.lookup name = some shape → ∃ v, context.get? name = some v ∧ shape.Fits v

/-! ## Admitted nodes -/

/-- A loop over rows: the name of its item and the columns that the item has. -/
structure Row where
  item : String
  columns : List String

/-- A path without brackets that does not ask for all names or for the state of a loop. -/
def isPlain (path : String) : Bool :=
  path != "__tera_context" && !path.toList.contains '[' && !Text.startsWith "loop" path

/-- The shape of what a path leads to inside some loops, the innermost first. -/
def shapeOf? (sig : Signature) (loops : List Row) (path : String) : Option Shape :=
  if isPlain path then
    match loops.find? (·.item == (splitPath path).1), (splitPath path).2 with
    | some _, none => some .single
    | some row, some column => if column ∈ row.columns then some .single else none
    | none, none => sig.lookup (splitPath path).1
    | none, some _ => none
  else none

def Expr.shape? (sig : Signature) (loops : List Row) : Expr → Option Shape
  | .mk (.name path) false [] => shapeOf? sig loops path
  | _ => none

mutual

/-- Texts, outputs and conditions on paths that have a shape, and loops over rows. -/
def Node.isAdmitted (sig : Signature) (loops : List Row) : Node → Bool
  | .text _ | .verbatim _ | .comment => true
  | .output e => (e.shape? sig loops).isSome
  | .branch arms none => areAdmittedArms sig loops arms
  | .branch arms (some body) => areAdmittedArms sig loops arms && areAdmitted sig loops body
  | .loop none item container body none =>
    match container.shape? sig loops with
    | some (.rows columns) => areAdmitted sig (⟨item, columns⟩ :: loops) body
    | _ => false
  | _ => false

def areAdmitted (sig : Signature) (loops : List Row) : List Node → Bool
  | [] => true
  | node :: nodes => node.isAdmitted sig loops && areAdmitted sig loops nodes

def areAdmittedArms (sig : Signature) (loops : List Row) : List (Expr × List Node) → Bool
  | [] => true
  | (condition, body) :: arms =>
    (condition.shape? sig loops).isSome && areAdmitted sig loops body &&
      areAdmittedArms sig loops arms

end

/-! ## Computations that succeed -/

section

variable {α β : Type}

theorem Eval.runOn_bind_of_ok {m : Eval α} {k : α → Eval β} {a : α} {s after : Situation}
    (h : m.runOn s = some (.ok a, after)) : (m >>= k).runOn s = (k a).runOn after := by
  rw [Eval.runOn_bind, h]

theorem Eval.runOn_frames (s : Situation) : Eval.frames.runOn s = some (.ok s.frames, s) := rfl

theorem Eval.runOn_change {f : List Frame → Option (List Frame)} {frames after : List Frame}
    (fault : Fault) (world : World) (h : f frames = some after) :
    (Eval.change fault f).runOn ⟨frames, world⟩ = some (.ok (), ⟨after, world⟩) := by
  unfold Eval.change
  rw [Eval.runOn_bind_of_ok (Eval.runOn_frames _), h]
  rfl

end

/-! ## Frames inside loops -/

/-- A loop at one of its items, all of which have the columns. -/
structure Loop.Ready (l : Loop) (columns : List String) : Prop where
  unkeyed : l.key = none
  onward : l.flow = .onward
  items : ∀ entry ∈ l.items, HasColumns columns entry.2

/-- The frames of loops that are running, none of which names anything but its item. -/
inductive Running : List Row → List Frame → Prop
  | start : Running [] [⟨.whole, []⟩]
  | round {loops : List Row} {frames : List Frame} {l : Loop} {columns : List String}
      (hready : l.Ready columns) (hindex : l.index < l.items.length) (h : Running loops frames) :
      Running (⟨l.item, columns⟩ :: loops) (⟨.loop l, []⟩ :: frames)

variable {sig : Signature} {loops : List Row} {frames : List Frame} {stage : Stage} {world : World}

theorem Running.flowOf_eq (h : Running loops frames) : flowOf frames = .onward := by
  cases h with
  | start => rfl
  | round hready hindex h => exact hready.onward

theorem Loop.find?_of_unkeyed {l : Loop} (h : l.key = none) {path : String}
    (hplain : Text.startsWith "loop" path = false) :
    l.find? path = if (splitPath path).1 = l.item then
      l.current?.bind (partOf · (splitPath path).2) else none := by
  unfold Loop.find?
  rw [hplain, h]
  rfl

/-- A loop knows of the paths that begin with its item and of no others. -/
theorem findInFrames_loop {l : Loop} (hready : l.Ready columns) (hindex : l.index < l.items.length)
    {path : String} (hplain : Text.startsWith "loop" path = false) :
    findInFrames path (⟨.loop l, []⟩ :: frames) =
      if l.item = (splitPath path).1 then
        (partOf l.items[l.index].2 (splitPath path).2).or (findInFrames path frames)
      else findInFrames path frames := by
  have hcurrent : l.current? = some l.items[l.index].2 := by
    unfold Loop.current?
    rw [List.getElem?_eq_getElem hindex]
    rfl
  have hframe : Frame.find? ⟨.loop l, []⟩ path = if (splitPath path).1 = l.item then
      partOf l.items[l.index].2 (splitPath path).2 else none := by
    refine (Loop.find?_of_unkeyed hready.unkeyed hplain).trans ?_
    rw [hcurrent]
    rfl
  rw [findInFrames, hframe]
  by_cases hitem : l.item = (splitPath path).1
  · rw [if_pos hitem, if_pos hitem.symm]
    cases partOf l.items[l.index].2 (splitPath path).2 <;> rfl
  · rw [if_neg hitem, if_neg (Ne.symm hitem)]
    rfl

/-! ## What admitted nodes say -/

/-- The values that paths lead to. -/
abbrev View := String → Value

/-- The view from outside all loops. -/
def View.ofContext (context : SortedMap Value) : View :=
  fun path => (context.get? path).getD .null

/-- The view from inside a loop that is at some value. -/
def View.inside (view : View) (item : String) (v : Value) : View := fun path =>
  if item = (splitPath path).1 then (partOf v (splitPath path).2).getD .null else view path

/-- The value of a path that stands alone. -/
def Expr.seen (view : View) : Expr → Value
  | .mk (.name path) false [] => view path
  | _ => .null

/-- The items of a list. -/
def itemsOf : Value → List Value
  | .list items => items
  | _ => []

mutual

/-- The characters of an admitted node. -/
def Node.said : Node → View → List Char
  | .text s, _ | .verbatim s, _ => s.toList
  | .comment, _ => []
  | .output e, view => (e.seen view).print.toList
  | .branch arms none, view => armsSay arms [] view
  | .branch arms (some body), view => armsSay arms (nodesSay body view) view
  | .loop none item container body none, view =>
    (itemsOf (container.seen view)).flatMap fun v => nodesSay body (view.inside item v)
  | _, _ => []

def nodesSay : List Node → View → List Char
  | [], _ => []
  | node :: nodes, view => node.said view ++ nodesSay nodes view

/-- The characters of the first arm whose condition holds, or others if there is none. -/
def armsSay : List (Expr × List Node) → List Char → View → List Char
  | [], otherwise, _ => otherwise
  | (condition, body) :: arms, otherwise, view =>
    if (condition.seen view).isTruthy then nodesSay body view else armsSay arms otherwise view

end

/-- Frames in which every path that has a shape leads to what a view says. -/
structure Shown (sig : Signature) (stage : Stage) (loops : List Row) (frames : List Frame)
    (view : View) : Prop where
  running : Running loops frames
  sees : ∀ path shape, shapeOf? sig loops path = some shape →
    stage.lookup frames path = .ok (view path) ∧ shape.Fits (view path)

variable {view : View}

theorem isPlain_of_shapeOf? {path : String} {shape : Shape}
    (h : shapeOf? sig loops path = some shape) : path ≠ "__tera_context" ∧
      path.toList.contains '[' = false ∧ Text.startsWith "loop" path = false := by
  unfold shapeOf? at h
  obtain ⟨hplain, -⟩ := Option.ite_none_right_eq_some.mp h
  unfold isPlain at hplain
  simpa [and_assoc] using hplain

/-- A path inside a loop leads to a part of its item, or to where it leads outside. -/
theorem shapeOf?_cons {item : String} {columns : List String} {path : String} {shape : Shape}
    (h : shapeOf? sig (⟨item, columns⟩ :: loops) path = some shape) :
    if item = (splitPath path).1 then
      shape = .single ∧ ∀ column, (splitPath path).2 = some column → column ∈ columns
    else shapeOf? sig loops path = some shape := by
  by_cases hitem : item = (splitPath path).1
  · rw [if_pos hitem]
    unfold shapeOf? at h
    obtain ⟨-, h⟩ := Option.ite_none_right_eq_some.mp h
    rw [List.find?_cons_of_pos (by simpa using hitem)] at h
    cases hcolumn : (splitPath path).2 with
    | none =>
        rw [hcolumn] at h
        exact ⟨(Option.some.inj h).symm, nofun⟩
    | some column =>
        rw [hcolumn] at h
        obtain ⟨hmem, h⟩ := Option.ite_none_right_eq_some.mp h
        refine ⟨(Option.some.inj h).symm, fun other hother => ?_⟩
        obtain rfl := Option.some.inj hother
        exact hmem
  · rw [if_neg hitem]
    unfold shapeOf? at h ⊢
    rwa [List.find?_cons_of_neg (by simpa using hitem)] at h

theorem Stage.lookup_eq_ok {path : String} {v : Value} (hdump : path ≠ "__tera_context")
    (hbracket : path.toList.contains '[' = false) (h : find? stage.context frames path = some v) :
    stage.lookup frames path = .ok v := by
  have hnot : '[' ∉ path.toList := by simpa using hbracket
  unfold Stage.lookup
  rw [if_neg hdump, valueAt_of_no_bracket hnot, h]
  rfl

/-- Outside all loops a path that has a shape is a name. -/
theorem splitPath_of_shapeOf? {path : String} {shape : Shape}
    (h : shapeOf? sig [] path = some shape) : splitPath path = (path, none) := by
  unfold shapeOf? at h
  obtain ⟨-, h⟩ := Option.ite_none_right_eq_some.mp h
  unfold splitPath at h ⊢
  cases hcut : Text.cut "." path with
  | none => rfl
  | some parts =>
      rw [hcut] at h
      exact absurd h nofun

theorem lookup_of_shapeOf? {path : String} {shape : Shape}
    (h : shapeOf? sig [] path = some shape) : sig.lookup path = some shape := by
  have hsplit := splitPath_of_shapeOf? h
  unfold shapeOf? at h
  obtain ⟨-, h⟩ := Option.ite_none_right_eq_some.mp h
  rwa [hsplit] at h

/-- Outside all loops a path leads to the value of a name in the context. -/
theorem shown_start (hmet : sig.Met stage.context) :
    Shown sig stage [] [⟨.whole, []⟩] (.ofContext stage.context) := by
  refine ⟨.start, fun path shape h => ?_⟩
  obtain ⟨hdump, hbracket, -⟩ := isPlain_of_shapeOf? h
  obtain ⟨v, hv, hfits⟩ := hmet _ _ (lookup_of_shapeOf? h)
  have hcontext : findInContext path stage.context = some v := by
    unfold findInContext
    rw [splitPath_of_shapeOf? h]
    exact hv
  have hsaid : View.ofContext stage.context path = v := by
    unfold View.ofContext
    rw [hv]
    rfl
  rw [hsaid]
  exact ⟨Stage.lookup_eq_ok hdump hbracket hcontext, hfits⟩

/-- Inside a loop the paths that begin with its item lead to parts of the current one. -/
theorem Shown.inside (h : Shown sig stage loops frames view) {l : Loop} {columns : List String}
    (hready : l.Ready columns) (hindex : l.index < l.items.length) :
    Shown sig stage (⟨l.item, columns⟩ :: loops) (⟨.loop l, []⟩ :: frames)
      (view.inside l.item l.items[l.index].2) := by
  refine ⟨.round hready hindex h.running, fun path shape hshape => ?_⟩
  obtain ⟨hdump, hbracket, hloop⟩ := isPlain_of_shapeOf? hshape
  have hfound : findInFrames path (⟨.loop l, []⟩ :: frames) = _ :=
    findInFrames_loop hready hindex hloop
  have hcases := shapeOf?_cons hshape
  unfold View.inside
  by_cases hitem : l.item = (splitPath path).1
  · rw [if_pos hitem] at hcases hfound ⊢
    obtain ⟨rfl, hcolumns⟩ := hcases
    obtain ⟨v, hv⟩ : ∃ v, partOf l.items[l.index].2 (splitPath path).2 = some v := by
      cases hcolumn : (splitPath path).2 with
      | none => exact ⟨_, rfl⟩
      | some column =>
          exact Option.isSome_iff_exists.mp
            (hready.items _ (List.getElem_mem hindex) column (hcolumns column hcolumn))
    rw [hv] at hfound ⊢
    refine ⟨Stage.lookup_eq_ok hdump hbracket ?_, trivial⟩
    rw [find?, hfound]
    rfl
  · rw [if_neg hitem] at hcases hfound ⊢
    obtain ⟨hlookup, hfits⟩ := h.sees path shape hcases
    refine ⟨?_, hfits⟩
    have hnot : '[' ∉ path.toList := by simpa using hbracket
    unfold Stage.lookup at hlookup ⊢
    rw [if_neg hdump, valueAt_of_no_bracket hnot, find?] at hlookup ⊢
    rw [hfound]
    exact hlookup

/-! ## Expressions -/

theorem settle_ok (negated : Bool) (v : Value) (filters : Value → Eval Value) :
    settle negated (.ok v) none filters = do return negate negated (← filters v) := by
  cases v <;> rfl

theorem runOn_settle (v : Value) (s : Situation) :
    (settle false (.ok v) (defaultOf stage []) fun v => applyFilters stage v []).runOn s =
      some (.ok v, s) := by
  rw [defaultOf, settle_ok]
  rfl

theorem Expr.runOn_value (h : Shown sig stage loops frames view) {e : Expr} {shape : Shape}
    (hshape : e.shape? sig loops = some shape) :
    (e.value stage).runOn ⟨frames, world⟩ = some (.ok (e.seen view), ⟨frames, world⟩) ∧
      shape.Fits (e.seen view) := by
  unfold Expr.shape? at hshape
  split at hshape
  · next path =>
    obtain ⟨hlookup, hfits⟩ := h.sees path shape hshape
    refine ⟨?_, hfits⟩
    rw [Expr.value, Eval.runOn_bind_of_ok (Eval.runOn_frames _), hlookup]
    exact runOn_settle _ _
  · cases hshape

theorem Expr.runOn_truth (h : Shown sig stage loops frames view) {e : Expr}
    (hsome : (e.shape? sig loops).isSome = true) (world : World) :
    (e.truth stage).runOn ⟨frames, world⟩ =
      some (.ok (e.seen view).isTruthy, ⟨frames, world⟩) := by
  obtain ⟨shape, hshape⟩ := Option.isSome_iff_exists.mp hsome
  clear hsome
  unfold Expr.shape? at hshape
  split at hshape
  · next path =>
    obtain ⟨hlookup, -⟩ := h.sees path shape hshape
    have houtcome : (settle false (.ok (view path)) (defaultOf stage []) fun v =>
        applyFilters stage v []).outcome.runOn ⟨frames, world⟩ =
          some (.ok (.ok (view path)), ⟨frames, world⟩) := by
      rw [Eval.runOn_outcome, runOn_settle]
      rfl
    rw [Expr.truth, Eval.runOn_bind_of_ok (Eval.runOn_frames _), hlookup,
      Eval.runOn_bind_of_ok houtcome]
    rfl
  · exact absurd hshape nofun

/-! ## Rounds -/

theorem Loop.Ready.advance {l : Loop} {columns : List String} (h : l.Ready columns) :
    l.advance.Ready columns := ⟨h.unkeyed, rfl, h.items⟩

/-- The rounds that are left of a loop say what its body says of each item that is left. -/
theorem runOn_renderRounds {body : Eval String} {columns : List String} {item : String}
    {said : View → List Char}
    (hbody : ∀ inner view', Shown sig stage (⟨item, columns⟩ :: loops) inner view' →
      body.runOn ⟨inner, world⟩ = some (.ok (String.ofList (said view')), ⟨inner, world⟩))
    (h : Shown sig stage loops frames view) (rounds : Nat) {l : Loop} (hready : l.Ready columns)
    (hitem : l.item = item) (hrounds : l.index + rounds = l.items.length) :
    ∃ last, (renderRounds body rounds).runOn ⟨⟨.loop l, []⟩ :: frames, world⟩ =
      some (.ok (String.ofList ((l.items.drop l.index).flatMap fun entry =>
        said (view.inside item entry.2))), ⟨⟨.loop last, []⟩ :: frames, world⟩) := by
  induction rounds generalizing l with
  | zero =>
      rw [List.drop_eq_nil_of_le (by omega)]
      exact ⟨l, rfl⟩
  | succ rounds ih =>
      have hindex : l.index < l.items.length := by omega
      have hshown := h.inside hready hindex
      rw [hitem] at hshown
      have hnext : l.advance.index + rounds = l.advance.items.length := by
        change l.index + 1 + rounds = l.items.length
        omega
      obtain ⟨last, hrest⟩ := ih hready.advance hitem hnext
      have hadvance : ∀ fault,
          (Eval.change fault advance?).runOn ⟨⟨.loop l, []⟩ :: frames, world⟩ =
            some (.ok (), ⟨⟨.loop l.advance, []⟩ :: frames, world⟩) :=
        fun fault => Eval.runOn_change fault world rfl
      refine ⟨last, ?_⟩
      rw [renderRounds, Eval.runOn_bind_of_ok (hbody _ _ hshown),
        Eval.runOn_bind_of_ok (Eval.runOn_frames _), hshown.running.flowOf_eq,
        if_neg (by decide),
        Eval.runOn_bind_of_ok (hadvance _), Eval.runOn_bind_of_ok hrest,
        List.drop_eq_getElem_cons hindex, List.flatMap_cons, String.ofList_append]
      rfl

theorem exists_containerName {e : Expr} {shape : Shape} (h : e.shape? sig loops = some shape) :
    ∃ place, containerName e = .ok place := by
  unfold Expr.shape? at h
  split at h
  · next path => exact ⟨path, rfl⟩
  · exact absurd h nofun

/-- A loop over rows says what its body says of every item of them. -/
theorem runOn_loop (h : Shown sig stage loops frames view) {item : String} {columns : List String}
    {container : Expr} {body : List Node}
    (hshape : container.shape? sig loops = some (.rows columns))
    (hbody : ∀ inner view', Shown sig stage (⟨item, columns⟩ :: loops) inner view' →
      (renderNodes stage body).runOn ⟨inner, world⟩ =
        some (.ok (String.ofList (nodesSay body view')), ⟨inner, world⟩)) :
    ((Node.loop none item container body none).render stage).runOn ⟨frames, world⟩ =
      some (.ok (String.ofList ((Node.loop none item container body none).said view)),
        ⟨frames, world⟩) := by
  obtain ⟨place, hplace⟩ := exists_containerName hshape
  obtain ⟨hv, items, hitems, hcolumns⟩ := Expr.runOn_value h hshape
  have hname : (Eval.ofExcept (containerName container)).runOn ⟨frames, world⟩ =
      some (.ok place, ⟨frames, world⟩) := by
    rw [hplace]
    rfl
  have hloop : (Eval.ofExcept (loopItems place false (.list items))).runOn ⟨frames, world⟩ =
      some (.ok (items.map (none, ·)), ⟨frames, world⟩) := rfl
  rw [hitems] at hv
  rw [Node.said, hitems]
  rw [Node.render, Eval.runOn_bind_of_ok hname, Eval.runOn_bind_of_ok hv, Option.isSome_none,
    Eval.runOn_bind_of_ok hloop]
  split
  · next hempty =>
    obtain rfl : items = [] := by simpa using hempty
    rfl
  · have hready : Loop.Ready ⟨none, item, items.map (none, ·), 0, .onward⟩ columns := by
      refine ⟨rfl, rfl, fun entry hentry => ?_⟩
      obtain ⟨v, hmem, rfl⟩ := List.mem_map.mp hentry
      exact hcolumns v hmem
    obtain ⟨last, hlast⟩ := runOn_renderRounds hbody h _ hready rfl (Nat.zero_add _)
    have hpush : ∀ f : Frame, (Eval.push f).runOn ⟨frames, world⟩ =
        some (.ok (), ⟨f :: frames, world⟩) := fun _ => rfl
    rw [Eval.runOn_bind_of_ok (hpush _), Eval.runOn_bind_of_ok hlast, List.drop_zero,
      List.flatMap_map]
    rfl

/-! ## Nodes -/

mutual

/-- Admitted nodes have the text that they say and leave the frames as they are. -/
theorem Node.runOn_render : ∀ (node : Node) {loops : List Row} {frames : List Frame} {view : View},
    Shown sig stage loops frames view → node.isAdmitted sig loops = true →
      (node.render stage).runOn ⟨frames, world⟩ =
        some (.ok (String.ofList (node.said view)), ⟨frames, world⟩)
  | .text s, _, _, _, _, _ | .verbatim s, _, _, _, _, _ => by
      rw [Node.render, Node.said, String.ofList_toList]
      rfl
  | .comment, _, _, _, _, _ => by
      rw [Node.render, Node.said]
      rfl
  | .output e, _, _, _, hshown, h => by
      rw [Node.isAdmitted] at h
      obtain ⟨shape, h⟩ := Option.isSome_iff_exists.mp h
      rw [Node.render, Node.said, Eval.runOn_bind_of_ok (Expr.runOn_value hshown h).1,
        String.ofList_toList]
      rfl
  | .branch arms none, _, _, _, hshown, h => by
      rw [Node.isAdmitted] at h
      obtain ⟨chosen, hrun, hsaid⟩ := runOn_renderArms arms hshown h
      rw [Node.render, Node.said, Eval.runOn_bind_of_ok hrun, ← hsaid]
      cases chosen <;> rfl
  | .branch arms (some body), _, _, _, hshown, h => by
      rw [Node.isAdmitted, Bool.and_eq_true] at h
      obtain ⟨chosen, hrun, hsaid⟩ := runOn_renderArms arms hshown h.1
      rw [Node.render, Node.said, Eval.runOn_bind_of_ok hrun, ← hsaid]
      cases chosen with
      | some text => rfl
      | none => exact runOn_renderNodes body hshown h.2
  | .loop none item container body none, loops, frames, view, hshown, h => by
      rw [Node.isAdmitted] at h
      cases hshape : container.shape? sig loops with
      | none =>
          rw [hshape] at h
          exact absurd h nofun
      | some shape =>
          cases shape with
          | single =>
              rw [hshape] at h
              exact absurd h nofun
          | rows columns =>
              rw [hshape] at h
              exact runOn_loop hshown hshape fun inner view' hinner =>
                runOn_renderNodes body hinner h
  -- what else a template can hold is not admitted
  | .loop (some _) _ _ _ _, _, _, _, _, h | .loop none _ _ _ (some _), _, _, _, _, h
  | .assign _ _ _, _, _, _, _, h | .block _ _, _, _, _, _, h | .filtered _ _, _, _, _, _, h
  | .definition _ _ _, _, _, _, _, h | .stop, _, _, _, _, h | .skip, _, _, _, _, h
  | .insert _ _, _, _, _, _, h => by
      exact absurd h nofun

theorem runOn_renderNodes : ∀ (nodes : List Node) {loops : List Row} {frames : List Frame}
    {view : View}, Shown sig stage loops frames view → areAdmitted sig loops nodes = true →
      (renderNodes stage nodes).runOn ⟨frames, world⟩ =
        some (.ok (String.ofList (nodesSay nodes view)), ⟨frames, world⟩)
  | [], _, _, _, _, _ => by
      rw [renderNodes, nodesSay]
      rfl
  | node :: nodes, _, frames, _, hshown, h => by
      rw [areAdmitted, Bool.and_eq_true] at h
      have hnode := Node.runOn_render node hshown h.1
      have hnodes := runOn_renderNodes nodes hshown h.2
      rw [renderNodes, nodesSay, String.ofList_append, Eval.runOn_bind_of_ok hnode,
        Eval.runOn_bind_of_ok (Eval.runOn_frames _), hshown.running.flowOf_eq,
        if_pos (by decide), Eval.runOn_bind_of_ok hnodes]
      rfl

theorem runOn_renderArms : ∀ (arms : List (Expr × List Node)) {loops : List Row}
    {frames : List Frame} {view : View}, Shown sig stage loops frames view →
      areAdmittedArms sig loops arms = true → ∃ chosen,
        (renderArms stage arms).runOn ⟨frames, world⟩ = some (.ok chosen, ⟨frames, world⟩) ∧
          ∀ otherwise, chosen.getD (String.ofList otherwise) =
            String.ofList (armsSay arms otherwise view)
  | [], _, _, _, _, _ => by
      rw [renderArms]
      exact ⟨none, rfl, fun otherwise => by rw [armsSay]; rfl⟩
  | (condition, body) :: arms, _, _, view, hshown, h => by
      rw [areAdmittedArms, Bool.and_eq_true, Bool.and_eq_true] at h
      have htruth := Expr.runOn_truth hshown h.1.1 world
      rw [renderArms, Eval.runOn_bind_of_ok htruth]
      cases hholds : (condition.seen view).isTruthy with
      | true =>
          refine ⟨some _, Eval.runOn_bind_of_ok (runOn_renderNodes body hshown h.1.2),
            fun otherwise => ?_⟩
          rw [armsSay, if_pos hholds]
          rfl
      | false =>
          obtain ⟨chosen, hrun, hsaid⟩ := runOn_renderArms arms hshown h.2
          refine ⟨chosen, hrun, fun otherwise => ?_⟩
          rw [armsSay, hholds, if_neg Bool.false_ne_true]
          exact hsaid otherwise

end

/-! ## Templates -/

/-- A template that imports nothing and is admitted has the text that its nodes say
in every context that meets the signature, whatever engine renders it and wherever. -/
theorem render_of_admitted {tree : Tree} (himports : tree.imports.isEmpty = true)
    (hnodes : areAdmitted sig [] tree.nodes = true) {context : SortedMap Value}
    (hmet : sig.Met context) (template : String) (engine : Engine) (world : World) :
    tree.render template context engine world =
      some (.ok (String.ofList (nodesSay tree.nodes (.ofContext context))),
        ⟨[⟨.whole, []⟩], world⟩) := by
  have hshown : Shown sig (stageAt engine template tree context engine.depth) []
      [⟨.whole, []⟩] (.ofContext context) := by
    have hstart : sig.Met (stageAt engine template tree context engine.depth).context →
        Shown sig (stageAt engine template tree context engine.depth) [] [⟨.whole, []⟩]
          (.ofContext (stageAt engine template tree context engine.depth).context) := shown_start
    rw [context_stageAt] at hstart
    exact hstart hmet
  unfold Tree.render
  rw [if_pos himports]
  exact runOn_renderNodes tree.nodes hshown hnodes

end Scaffold.Template
