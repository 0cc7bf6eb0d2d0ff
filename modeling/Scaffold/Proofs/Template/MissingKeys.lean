import Scaffold.Proofs.Template.Absence
import Scaffold.Proofs.Template.HonestEvaluation

/-!
# Missing keys

The error of a failed rendering is told from the words of its explanation: one that names
a variable without a value is reported as a key that the context misses, and every other
one as a failure to render. Explanations quote texts of the template and of the context.
Where none of these passes for the words around a name, the key that is reported is one
that was asked for beforehand, or a variable that rendering read and that had no value
at that point.
-/

namespace Scaffold.Template

open Text

section

variable {captures : Bool} {stage : Stage}

/-! ## Loops and sections -/

theorem captured_append {s t : String} (hs : Captured captures s) (ht : Captured captures t) :
    Captured captures (s ++ t) :=
  fun hcaptures => unticked_append.mpr ⟨hs hcaptures, ht hcaptures⟩

theorem captured_empty : Captured captures "" := fun _ => unticked_empty

/-- The items of a loop, with the keys of a loop over fields. -/
def PlainItems (items : List (Option String × Value)) : Prop :=
  ∀ entry ∈ items, (∀ key ∈ entry.1, Unticked key) ∧ entry.2.Plain

theorem meets_loopItems {place : String} (hplace : Unticked place) (keyed : Bool) {v : Value}
    (hv : v.Plain) : Meets PlainItems Fault.Quiet (loopItems place keyed v) := by
  unfold loopItems
  split
  · next items =>
    intro entry hentry
    obtain ⟨item, hitem, rfl⟩ := List.mem_map.mp hentry
    exact ⟨fun _ hkey => absurd hkey nofun, Value.plain_list.mp hv item hitem⟩
  · next s =>
    intro entry hentry
    obtain ⟨letter, hletter, rfl⟩ := List.mem_map.mp hentry
    exact ⟨fun _ hkey => absurd hkey nofun,
      .text ((Value.plain_text.mp hv).of_mem_clusters letter hletter)⟩
  · next fields =>
    cases hv with
    | object hkeys hvalues =>
        intro entry hentry
        obtain ⟨field, hfield, rfl⟩ := List.mem_map.mp hentry
        exact ⟨fun key hkey => Option.some.inj hkey ▸ hkeys field hfield, hvalues field hfield⟩
  · exact Fault.quiet_other (silent_wording
      [.words "Tried to iterate using key value on variable \x60", .quoted,
        .words "\x60, but it isn't an object/map"] [place] (by decide) ⟨hplace, rfl⟩)
  · exact Fault.quiet_other (silent_wording
      [.words "Tried to iterate using key value on variable \x60", .quoted,
        .words "\x60, but it isn't an object/map"] [place] (by decide) ⟨hplace, rfl⟩)
  · exact Fault.quiet_other (silent_wording
      [.words "Tried to iterate using key value on variable \x60", .quoted,
        .words "\x60, but it is missing a key"] [place] (by decide) ⟨hplace, rfl⟩)
  · exact Fault.quiet_other (silent_wording
      [.words "Tried to iterate on a container (\x60", .quoted,
        .words "\x60) that has a unsupported type"] [place] (by decide) ⟨hplace, rfl⟩)

theorem meets_containerName {container : Expr} (h : AllPlain captures container.writes) :
    Meets Unticked Fault.Quiet (containerName container) := by
  obtain ⟨operand, negated, filters⟩ := container
  rw [Expr.writes, allPlain_append] at h
  have hdetail := operand.unticked_detail h.1
  unfold containerName
  dsimp only [Expr.operand]
  split
  · next path =>
    have hpath : IsNamed path := h.1 (.path path) (List.mem_singleton.mpr rfl)
    exact hpath.1
  · next call =>
    obtain ⟨name, args⟩ := call
    exact h.1 (.tag name) List.mem_cons_self
  · exact (by decide : Unticked "an array literal")
  · exact Fault.quiet_of_unticked (unticked_between (by decide) hdetail (by decide))

theorem honest_renderRounds {template : String} {context : SortedMap Value} {body : Eval String}
    (h : HonestRun template context (Captured captures) body) (rounds : Nat) :
    HonestRun template context (Captured captures) (renderRounds body rounds) := by
  induction rounds with
  | zero => exact .pure captured_empty
  | succ rounds ih =>
      rw [renderRounds]
      refine h.bind fun text htext => .read fun s hs => ?_
      split
      · exact HonestRun.pure htext s hs
      · have hadvance : HonestRun template context (fun _ => True)
            (Eval.change (.other "Attempted \x60increment\x60 while not in a for loop") advance?) :=
          .change (Fault.quiet_other (silent_words _ (by decide)))
            fun _ _ hframes hafter => hframes.advance hafter
        exact hadvance.bind (fun _ _ => ih.bind fun _ hmore => .pure (captured_append htext hmore))
          s hs

theorem honest_applySection (h : stage.Plain captures) {filter : Call}
    (hfilter : AllPlain captures filter.writes) {text : String} (htext : Unticked text) :
    HonestRun stage.template stage.context Unticked (applySection stage filter text) := by
  obtain ⟨name, args⟩ := filter
  rw [Call.writes, allPlain_cons] at hfilter
  unfold applySection
  split
  · exact .pure htext
  · exact (honest_apply h hfilter.1 (honest_argValues h args hfilter.2) (.text htext)).bind
      fun v hv => .pure hv.print

/-- A loop is rendered honestly when its container and its bodies are. -/
theorem honest_loop {key : Option String} {item : String} {container : Expr} {body : List Node}
    {otherwise : Option (List Node)} (hkey : ∀ name ∈ key, Unticked name) (hitem : Unticked item)
    (hwrites : AllPlain captures container.writes)
    (hcontainer : HonestRun stage.template stage.context Value.Plain (container.value stage))
    (hbody : HonestRun stage.template stage.context (Captured captures) (renderNodes stage body))
    (hotherwise : ∀ last, otherwise = some last →
      HonestRun stage.template stage.context (Captured captures) (renderNodes stage last)) :
    HonestRun stage.template stage.context (Captured captures)
      ((Node.loop key item container body otherwise).render stage) := by
  have hrounds : ∀ items, PlainItems items → HonestRun stage.template stage.context
      (Captured captures) (do
        Eval.push ⟨.loop ⟨key, item, items, 0, .onward⟩, []⟩
        let text ← renderRounds (renderNodes stage body) items.length
        Eval.pop
        return text) := by
    intro items hitems
    have hframe : Frame.Plain ⟨.loop ⟨key, item, items, 0, .onward⟩, []⟩ :=
      ⟨List.forall_mem_nil _, ⟨hkey, hitem, hitems⟩⟩
    exact (HonestRun.push hframe).bind fun _ _ => (honest_renderRounds hbody _).bind
      fun text htext => HonestRun.pop.bind fun _ _ => .pure htext
  cases otherwise with
  | none =>
      rw [Node.render]
      refine (HonestRun.ofExcept (meets_containerName hwrites)).bind fun place hplace =>
        hcontainer.bind fun v hv =>
        (HonestRun.ofExcept (meets_loopItems hplace _ hv)).bind fun items hitems => ?_
      split
      · exact .pure captured_empty
      · exact hrounds items hitems
  | some last =>
      rw [Node.render]
      refine (HonestRun.ofExcept (meets_containerName hwrites)).bind fun place hplace =>
        hcontainer.bind fun v hv =>
        (HonestRun.ofExcept (meets_loopItems hplace _ hv)).bind fun items hitems => ?_
      split
      · exact hotherwise last rfl
      · exact hrounds items hitems

/-! ## Bodies -/

mutual

theorem Node.honest (h : stage.Plain captures) : ∀ node : Node, AllPlain captures node.writes →
    HonestRun stage.template stage.context (Captured captures) (node.render stage)
  | .text s, hwrites | .verbatim s, hwrites => by
      rw [Node.render]
      exact .pure (hwrites (.prose s) (List.mem_singleton.mpr rfl))
  | .comment, _ | .definition _ _ _, _ => by
      rw [Node.render]
      exact .pure captured_empty
  | .output e, hwrites => by
      rw [Node.writes] at hwrites
      rw [Node.render]
      exact (e.honest_value h hwrites).bind fun v hv => .pure fun _ => hv.print
  | .assign whole name e, hwrites => by
      rw [Node.writes, allPlain_cons] at hwrites
      rw [Node.render]
      exact (e.honest_value h hwrites.2).bind fun v hv =>
        (HonestRun.update fun _ hframes => hframes.assign whole hwrites.1 hv).bind
          fun _ _ => .pure captured_empty
  | .branch arms none, hwrites => by
      rw [Node.writes, allPlain_append] at hwrites
      rw [Node.render]
      refine (honest_renderArms h arms hwrites.1).bind fun chosen hchosen => ?_
      cases chosen with
      | some text => exact .pure (hchosen text rfl)
      | none => exact .pure captured_empty
  | .branch arms (some body), hwrites => by
      rw [Node.writes, allPlain_append] at hwrites
      rw [Node.render]
      refine (honest_renderArms h arms hwrites.1).bind fun chosen hchosen => ?_
      cases chosen with
      | some text => exact .pure (hchosen text rfl)
      | none => exact honest_renderNodes h body hwrites.2
  | .loop key item container body none, hwrites => by
      rw [Node.writes, allPlain_append, allPlain_append, allPlain_append] at hwrites
      obtain ⟨⟨⟨hnames, hcontainer⟩, hbody⟩, -⟩ := hwrites
      obtain ⟨hkey, hitem⟩ := List.forall_mem_append.mp (unticked_of_tags hnames)
      exact honest_loop (fun name hname => hkey name (Option.mem_toList.mpr hname))
        (hitem item List.mem_cons_self) hcontainer (container.honest_value h hcontainer)
        (honest_renderNodes h body hbody) (fun _ he => absurd he nofun)
  | .loop key item container body (some last), hwrites => by
      rw [Node.writes, allPlain_append, allPlain_append, allPlain_append] at hwrites
      obtain ⟨⟨⟨hnames, hcontainer⟩, hbody⟩, hlast⟩ := hwrites
      obtain ⟨hkey, hitem⟩ := List.forall_mem_append.mp (unticked_of_tags hnames)
      have hotherwise := honest_renderNodes h last hlast
      exact honest_loop (fun name hname => hkey name (Option.mem_toList.mpr hname))
        (hitem item List.mem_cons_self) hcontainer (container.honest_value h hcontainer)
        (honest_renderNodes h body hbody) (fun _ he => Option.some.inj he ▸ hotherwise)
  -- the body that the name of a block stands for need not be the one that stands here
  | .block name body, hwrites => by
      rw [Node.writes] at hwrites
      rw [Node.render]
      cases hbody : stage.tree.blocks.lookup name with
      | some body => exact h.bodies body (block_mem_bodies hbody)
      | none => exact honest_renderNodes h body hwrites
  | .filtered filter body, hwrites => by
      rw [Node.writes, allPlain_cons, allPlain_append] at hwrites
      have hcaptures : captures = true := hwrites.1
      rw [Node.render]
      exact (honest_renderNodes h body hwrites.2.2).bind fun text htext =>
        (honest_applySection h hwrites.2.1 (htext hcaptures)).imp fun _ hs _ => hs
  | .stop, _ => by
      rw [Node.render]
      exact (HonestRun.change (Fault.quiet_other (silent_words _ (by decide)))
        fun _ _ hframes hafter => hframes.redirect hafter).bind fun _ _ => .pure captured_empty
  | .skip, _ => by
      rw [Node.render]
      exact (HonestRun.change (Fault.quiet_other (silent_words _ (by decide)))
        fun _ _ hframes hafter => hframes.redirect hafter).bind fun _ _ => .pure captured_empty
  | .insert names optional, hwrites => by
      rw [Node.render]
      split
      · have hframe : Frame.Plain ⟨.insertion, []⟩ := ⟨List.forall_mem_nil _, trivial⟩
        exact (HonestRun.push hframe).bind fun _ _ => (h.bodies _ List.mem_cons_self).bind
          fun text htext => HonestRun.pop.bind fun _ _ => .pure htext
      · split
        · exact .pure captured_empty
        · rw [Node.writes] at hwrites
          have hnames := unticked_intercalate (by decide : Unticked ", ") (unticked_of_tags hwrites)
          have hsilent : Silent (Fault.noTemplate names).message :=
            silent_of_unticked (unticked_between (by decide) hnames (by decide))
          exact .throw ⟨hsilent, hsilent⟩

theorem honest_renderNodes (h : stage.Plain captures) : ∀ nodes : List Node,
    AllPlain captures (writesOfNodes nodes) →
    HonestRun stage.template stage.context (Captured captures) (renderNodes stage nodes)
  | [], _ => by
      rw [renderNodes]
      exact .pure captured_empty
  | node :: nodes, hwrites => by
      rw [writesOfNodes, allPlain_append] at hwrites
      rw [renderNodes]
      refine (node.honest h hwrites.1).bind fun text htext => .read fun s hs => ?_
      split
      · exact (honest_renderNodes h nodes hwrites.2).bind
          (fun _ hmore => .pure (captured_append htext hmore)) s hs
      · exact HonestRun.pure htext s hs

theorem honest_renderArms (h : stage.Plain captures) : ∀ arms : List (Expr × List Node),
    AllPlain captures (writesOfArms arms) →
    HonestRun stage.template stage.context (fun chosen => ∀ text ∈ chosen, Captured captures text)
      (renderArms stage arms)
  | [], _ => by
      rw [renderArms]
      exact .pure fun _ htext => absurd htext nofun
  | (condition, body) :: arms, hwrites => by
      rw [writesOfArms, allPlain_append, allPlain_append] at hwrites
      rw [renderArms]
      refine (condition.honest_truth h hwrites.1.1).bind fun holds _ => ?_
      cases holds with
      | true =>
          exact (honest_renderNodes h body hwrites.1.2).bind fun text htext =>
            .pure fun _ hs => Option.some.inj hs ▸ htext
      | false => exact honest_renderArms h arms hwrites.2

end

end

/-! ## Templates -/

section

variable {captures : Bool}

mutual

theorem Node.writes_of_mem_blocks {name : String} {body : List Node} : ∀ node : Node,
    (name, body) ∈ node.blocks → writesOfNodes body ⊆ node.writes
  | .block _ inner, hmem => by
      rw [Node.writes]
      rw [Node.blocks] at hmem
      rcases List.mem_cons.mp hmem with heq | hmem
      · obtain ⟨-, rfl⟩ := Prod.mk.inj heq
        exact List.Subset.refl _
      · exact writes_of_mem_blocksOf inner hmem
  | .text _, hmem | .verbatim _, hmem | .comment, hmem | .output _, hmem | .assign _ _ _, hmem
  | .branch _ _, hmem | .loop _ _ _ _ _, hmem | .filtered _ _, hmem | .definition _ _ _, hmem
  | .stop, hmem | .skip, hmem | .insert _ _, hmem => by simp [Node.blocks] at hmem

theorem writes_of_mem_blocksOf {name : String} {body : List Node} : ∀ nodes : List Node,
    (name, body) ∈ Node.blocksOf nodes → writesOfNodes body ⊆ writesOfNodes nodes
  | [], hmem => by simp [Node.blocksOf] at hmem
  | node :: nodes, hmem => by
      rw [Node.blocksOf] at hmem
      rw [writesOfNodes]
      rcases List.mem_append.mp hmem with hmem | hmem
      · exact List.subset_append_of_subset_left _ (node.writes_of_mem_blocks hmem)
      · exact List.subset_append_of_subset_right _ (writes_of_mem_blocksOf nodes hmem)

end

theorem writes_of_mem_nodes {node : Node} {nodes : List Node} (h : node ∈ nodes) :
    node.writes ⊆ writesOfNodes nodes := by
  induction nodes with
  | nil => exact absurd h List.not_mem_nil
  | cons first nodes ih =>
      rw [writesOfNodes]
      rcases List.mem_cons.mp h with rfl | h
      · exact List.subset_append_left _ _
      · exact List.subset_append_of_subset_right _ (ih h)

theorem writes_of_mem_definitionsOf {d : Definition} {nodes : List Node}
    (h : d ∈ definitionsOf nodes) :
    writesOfParams d.params ++ writesOfNodes d.body ⊆ writesOfNodes nodes := by
  obtain ⟨node, hnode, hd⟩ := List.mem_filterMap.mp h
  split at hd
  · next name params body =>
    obtain rfl := Option.some.inj hd
    have hsub := writes_of_mem_nodes hnode
    rwa [Node.writes] at hsub
  · exact absurd hd nofun

theorem plain_body {tree : Tree} (hgathered : tree.Gathered)
    (hplain : AllPlain captures (writesOfNodes tree.nodes)) {body : List Node}
    (hbody : body ∈ tree.bodies) : AllPlain captures (writesOfNodes body) := by
  rcases List.mem_cons.mp hbody with rfl | hbody
  · exact hplain
  · rcases List.mem_append.mp hbody with hbody | hbody
    · obtain ⟨⟨name, inner⟩, hmem, rfl⟩ := List.mem_map.mp hbody
      rw [hgathered.blocks] at hmem
      exact hplain.of_subset (writes_of_mem_blocksOf tree.nodes hmem)
    · obtain ⟨d, hmem, rfl⟩ := List.mem_map.mp hbody
      rw [hgathered.definitions] at hmem
      exact (allPlain_append.mp (hplain.of_subset (writes_of_mem_definitionsOf hmem))).2

/-- The stages of a plain template, by induction on how deep bodies nest: the bodies on one
stage are rendered on the stage below it. -/
theorem plain_stageAt {engine : Engine} {tree : Tree} {template : String}
    {context : SortedMap Value} (hengine : engine.Plain) (htemplate : IsNamed template)
    (hcontext : PlainEntries context.entries) (hgathered : tree.Gathered)
    (hplain : AllPlain captures (writesOfNodes tree.nodes)) (depth : Nat) :
    (stageAt engine template tree context depth).Plain captures := by
  have hparams : ∀ d ∈ tree.definitions, AllPlain captures (writesOfParams d.params) := by
    intro d hd
    rw [hgathered.definitions] at hd
    exact (allPlain_append.mp (hplain.of_subset (writes_of_mem_definitionsOf hd))).1
  induction depth with
  | zero => exact ⟨hengine, htemplate, hcontext, hparams, fun _ _ => .endless⟩
  | succ depth ih =>
      refine ⟨hengine, htemplate, hcontext, hparams, fun body hbody => ?_⟩
      have hhonest := honest_renderNodes ih body (plain_body hgathered hplain hbody)
      rwa [template_stageAt, context_stageAt] at hhonest

/-- A plain template is rendered honestly, beginning with the frame of the whole template. -/
theorem honest_render {engine : Engine} {tree : Tree} {template : String}
    {context : SortedMap Value} (hengine : engine.Plain) (htemplate : IsNamed template)
    (hcontext : PlainEntries context.entries) (hgathered : tree.Gathered)
    (hplain : AllPlain captures (writesOfNodes tree.nodes)) {world : World}
    (hworld : world.Plain) {r : Except Fault String} {after : Situation}
    (hrun : tree.render template context engine world = some (r, after)) :
    after.Plain ∧ Meets (Captured captures) (Honest template context after.frames) r := by
  unfold Tree.render at hrun
  split at hrun
  · have hhonest := honest_renderNodes
      (plain_stageAt hengine htemplate hcontext hgathered hplain engine.depth) tree.nodes hplain
    rw [template_stageAt, context_stageAt] at hhonest
    have hwhole : Frame.Plain ⟨.whole, []⟩ := ⟨List.forall_mem_nil _, trivial⟩
    exact hhonest ⟨[⟨.whole, []⟩], world⟩
      ⟨PlainFrames.cons hwhole (List.forall_mem_nil _), hworld⟩ r after hrun
  · exact absurd hrun nofun

end

end Scaffold.Template

namespace Scaffold.CompiledTemplate

open Text Template

/-- Rendering stops at a path: it fails for the lack of a value of that path, which has
none in the frames as they are then. -/
def StopsAt (t : CompiledTemplate) (context : Context) (engine : Engine) (world : World)
    (path : String) : Prop :=
  ∃ fault after resolved,
    t.tree.render t.name context.values engine world = some (.error fault, after) ∧
    (Fault.undefined path t.name resolved).StemsFrom fault ∧
    valueAt t.name context.values after.frames (path.toList.length + 1) path =
      .error (.undefined path t.name resolved)

theorem name_of_compile {name text : String} {t : CompiledTemplate}
    (h : compile name text = .ok t) : t.name = name := by
  unfold compile at h
  split at h
  · obtain rfl := Except.ok.inj h
    rfl
  · exact absurd h nofun

/-- The words about the definition whose body failed name no variable, for no definition is
called by a name that ends in a blank. -/
theorem named_behind_placeOf {name : String} {context : SortedMap Value} {frames : List Frame}
    (hframes : PlainFrames frames) {fault : Fault} {explanation : String}
    (h : Named name context frames fault explanation) :
    Named name context frames fault (placeOf frames ++ explanation) := by
  unfold placeOf
  split
  · next space called names outer =>
    have hkind : Unticked space ∧ IsWord called := (hframes _ List.mem_cons_self).kind
    obtain ⟨hspace, hcalled⟩ := hkind
    intro front hfront key hkey
    have hbegin : '\x60' ∉ front ++ ": error while rendering macro ".toList := fun hmem =>
      (List.mem_append.mp hmem).elim hfront (by decide)
    have hopens : ¬ opening <:+ front ++ ": error while rendering macro ".toList := by
      intro hopening
      rcases List.suffix_or_suffix_of_suffix hopening (List.suffix_append front _) with h | h
      · exact absurd h (by decide)
      · exact absurd h (by decide)
    have hparts : front ++ (": error while rendering macro \x60" ++ space ++ "::" ++ called ++
        "\x60" ++ explanation).toList =
        (front ++ ": error while rendering macro ".toList) ++ '\x60' ::
          (space.toList ++ "::".toList ++ called.toList ++ '\x60' :: explanation.toList) := by
      simp only [String.toList_append, List.append_assoc]
      rfl
    rw [hparts, undefinedNameIn_of_word hbegin hopens hspace (by decide) hcalled] at hkey
    exact h [] List.not_mem_nil key hkey
  · exact Named.append unticked_empty h

/-- An honest failure is reported as a missing key only where that key has no value. -/
theorem errorOf_of_honest {name : String} (hname : Unticked name) {context : SortedMap Value}
    {frames : List Frame} (hframes : PlainFrames frames) {fault : Fault}
    (h : Honest name context frames fault) :
    (∃ path resolved, errorOf name frames fault = .missingContextKey name path ∧
      (Fault.undefined path name resolved).StemsFrom fault ∧
      valueAt name context frames (path.toList.length + 1) path =
        .error (.undefined path name resolved)) ∨
    ∃ detail, errorOf name frames fault = .render name detail := by
  have hdetail : Named name context frames fault
      ("Failed to render '" ++ name ++ "'" ++ (placeOf frames ++ (": " ++ fault.message))) :=
    (named_behind_placeOf hframes (h.message.append (by decide))).append
      (unticked_between (by decide) hname (by decide))
  rw [← String.append_assoc, ← String.append_assoc] at hdetail
  unfold errorOf
  dsimp only
  split
  · next key hkey =>
    obtain ⟨resolved, hstems, hvalue⟩ := hdetail [] List.not_mem_nil key hkey
    refine Or.inl ⟨String.ofList key, resolved, rfl, hstems, ?_⟩
    rw [String.toList_ofList]
    exact hvalue
  · exact Or.inr ⟨_, rfl⟩

/-- A key is reported as missing only when it really is: a template whose texts and whose
context hold nothing that passes for the words around a name, in surroundings and with
filters that do not bring such words in, fails with a key that the context was asked for and
does not have, or with a variable that rendering read and that had no value then. Every other
failure of rendering is reported as one, whatever texts its explanation quotes. -/
theorem missing_keys_are_missing {name text : String} {t : CompiledTemplate}
    (hcompile : compile name text = .ok t) (hname : IsNamed name) (hplain : t.tree.Plain)
    {context : Context} (hcontext : PlainEntries context.entries) {engine : Engine}
    (hengine : engine.Plain) {world : World} (hworld : world.Plain) {required : List String}
    {error : Error}
    (herror : (t.requiring required).outcome? context engine world = some (.error error)) :
    (∃ key, error = .missingContextKey name key ∧
      (key ∈ required ++ t.conditions ∧ context.contains key = false ∨
        t.StopsAt context engine world key)) ∨
    ∃ detail, error = .render name detail := by
  obtain rfl := name_of_compile hcompile
  have hgathered := gathered_of_compile hcompile
  have hvalues : PlainEntries context.values.entries := fun entry hentry =>
    hcontext entry (SortedMap.mem_of_mem_ofList hentry)
  unfold outcome? at herror
  split at herror
  · next key hkey =>
    obtain rfl := Except.error.inj (Option.some.inj herror)
    have hmissing := List.find?_some hkey
    exact Or.inl ⟨key, rfl, Or.inl ⟨List.mem_of_find?_eq_some hkey, by simpa using hmissing⟩⟩
  · obtain ⟨⟨r, after⟩, hrender, houtcome⟩ := Option.map_eq_some_iff.mp herror
    obtain ⟨hafter, hresult⟩ := honest_render hengine hname hvalues hgathered hplain hworld hrender
    cases r with
    | ok text => cases houtcome
    | error fault =>
        obtain rfl := Except.error.inj houtcome
        rcases errorOf_of_honest hname.1 hafter.frames hresult with
          ⟨path, resolved, herror, hstems, hvalue⟩ | hrendered
        · exact Or.inl ⟨path, herror, Or.inr ⟨fault, after, resolved, hrender, hstems, hvalue⟩⟩
        · exact Or.inr hrendered

/-- A template with backticks around its tags, a variable of the environment and a variable
that nothing asks for beforehand. -/
def quoting : String :=
  "\x60json\x60 \x7b% if note %\x7d\x7b\x7b note | upper \x7d\x7d\x7b% endif %\x7d" ++
    "\x7b\x7b get_env(name=\"HOME\") \x7d\x7d\x7b\x7b missing \x7d\x7d"

/-- A context with a note that reads like an explanation, but for the backticks. -/
def noted : Context := .ofList [("note", .text "Variable missing not found in context")]

/-- Surroundings with one variable of the environment. -/
def homely : World := fun _ q =>
  match q.function, q.given "name" with
  | "get_env", some (.text "HOME") => .ok (.text "/root")
  | _, _ => .error (.other "Environment variable not found")

theorem missing_keys_are_missing_quoting : ∃ t, compile "t" quoting = .ok t ∧ IsNamed "t" ∧
    t.tree.Plain ∧ PlainEntries noted.entries ∧ Engine.standard.Plain ∧ homely.Plain ∧
    (t.requiring []).outcome? noted .standard homely =
      some (.error (.missingContextKey "t" "missing")) ∧
    t.StopsAt noted .standard homely "missing" := by
  obtain ⟨t, hcompile, h⟩ : ∃ t, compile "t" quoting = .ok t ∧
      decide (t.tree.Plain ∧ "missing" ∉ t.conditions ∧
        (t.requiring []).outcome? noted .standard homely =
          some (.error (.missingContextKey "t" "missing"))) = true :=
    exists_of_satisfies (by decide +kernel)
  obtain ⟨hplain, hunlisted, herror⟩ := of_decide_eq_true h
  have hcontext : PlainEntries noted.entries :=
    List.forall_mem_singleton.mpr ⟨by decide, .text (by decide)⟩
  have hname : IsNamed "t" := by decide
  have hengine : Engine.standard.Plain := fun _ _ hf => absurd hf nofun
  have hworld : homely.Plain := by
    intro n q hq
    unfold homely
    split
    · exact .text (by decide)
    · exact Fault.quiet_of_unticked (by decide)
  refine ⟨t, hcompile, hname, hplain, hcontext, hengine, hworld, herror, ?_⟩
  rcases missing_keys_are_missing hcompile hname hplain hcontext hengine hworld herror with
    ⟨key, hkey, h⟩ | ⟨detail, hdetail⟩
  · obtain rfl : "missing" = key := (Error.missingContextKey.inj hkey).2
    exact h.resolve_left fun h => hunlisted (by simpa using h.1)
  · exact absurd hdetail nofun

/-- A template that reads no variable and fails with a text that reads like an explanation. -/
def throwing : String :=
  "\x7b\x7b throw(message=\"Variable \x60x\x60 not found in context\") \x7d\x7d"

/-- Whether a failure is that of a call that throws a text. -/
def throws : Option (Except Fault String × Situation) → Bool
  | some (.error (.inCall _ _ (.thrown _)), _) => true
  | _ => false

theorem not_throws_of_stemsFrom {path template : String} {resolved : Option String} {fault : Fault}
    (h : (Fault.undefined path template resolved).StemsFrom fault) (after : Situation) :
    throws (some (.error fault, after)) = false := by
  have hthrown : ∀ text, ¬ (Fault.undefined path template resolved).StemsFrom (.thrown text) := by
    intro text h
    generalize hf : Fault.thrown text = f at h
    cases h <;> exact absurd hf nofun
  cases h with
  | self => rfl
  | brackets path h => rfl
  | bare h => rfl
  | @call cause kind name h =>
      cases cause with
      | thrown text => exact absurd h (hthrown text)
      | _ => rfl

/-- A message that a template throws passes for a variable without a value: nothing is read,
the context has the key, and still it is reported as missing. -/
theorem thrown_messages_pass_for_missing_keys : ∃ t, compile "t" throwing = .ok t ∧
    t.conditions = [] ∧ (∀ path, .path path ∉ writesOfNodes t.tree.nodes) ∧
    (t.requiring []).execute (.ofList [("x", .int 1)]) = .error (.missingContextKey "t" "x") ∧
    ¬ t.StopsAt (.ofList [("x", .int 1)]) .standard .silent "x" := by
  obtain ⟨t, hcompile, h⟩ : ∃ t, compile "t" throwing = .ok t ∧
      (decide (t.conditions = [] ∧
        (t.requiring []).execute (.ofList [("x", .int 1)]) =
          .error (.missingContextKey "t" "x") ∧
        ∀ w ∈ writesOfNodes t.tree.nodes, w = .tag "throw" ∨ w = .tag "message" ∨
          w = .tag "Variable \x60x\x60 not found in context") &&
        throws (t.tree.render t.name (Context.ofList [("x", .int 1)]).values .standard
          .silent)) = true :=
    exists_of_satisfies (by decide +kernel)
  rw [Bool.and_eq_true] at h
  obtain ⟨hconditions, herror, hwrites⟩ := of_decide_eq_true h.1
  refine ⟨t, hcompile, hconditions, fun path hpath => ?_, herror, ?_⟩
  · rcases hwrites _ hpath with heq | heq | heq <;> exact absurd heq nofun
  · rintro ⟨fault, after, resolved, hrun, hstems, -⟩
    have hthrows := h.2
    rw [hrun, not_throws_of_stemsFrom hstems] at hthrows
    exact absurd hthrows (by decide)

end Scaffold.CompiledTemplate
