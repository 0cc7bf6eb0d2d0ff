import Scaffold.Proofs.Catalog.Initialization
import Scaffold.Proofs.Generation.Completeness
import Scaffold.Proofs.Template.Passages
import Scaffold.Proofs.Text.Remarks

/-!
# Notes in comments

Summaries, tags, paths and methods of routes and the comments of columns are notes: they are
printed in comments and nowhere else. Specifications that differ in notes alone therefore
give files with the same lines of code, as long as the notes have no line breaks of their own.
Each break adds a line, which no slashes set off.
-/

namespace Scaffold

open Text Template BuiltinText

/-! ## Specifications that differ in notes -/

/-- Annotations that differ in summaries and tags at most. -/
def Annotations.SameCode (a a' : Annotations) : Prop :=
  ∀ key, key ≠ "summary" → key ≠ "tag" → a'.get? key = a.get? key

structure Route.SameCode (r r' : Route) : Prop where
  handler : r'.handler = r.handler
  requestType : r'.requestType = r.requestType
  responseType : r'.responseType = r.responseType
  annotations : r.annotations.SameCode r'.annotations

structure Group.SameCode (group group' : Group) : Prop where
  annotations : group.annotations.SameCode group'.annotations
  routes : List.Forall₂ Route.SameCode group.routes group'.routes

structure ApiSpec.SameCode (s s' : ApiSpec) : Prop where
  module_ : s'.module_ = s.module_
  groups : List.Forall₂ Group.SameCode s.service.groups s'.service.groups

structure Column.SameCode (c c' : Column) : Prop where
  name : c'.name = c.name
  typeName : c'.typeName = c.typeName

structure Table.SameCode (t t' : Table) : Prop where
  name : t'.name = t.name
  columns : List.Forall₂ Column.SameCode t.columns t'.columns

structure ModelSpec.SameCode (s s' : ModelSpec) : Prop where
  package : s'.package = s.package
  cache : s'.cache = s.cache
  tables : List.Forall₂ Table.SameCode s.tables s'.tables

/-- Specifications of routes or of tables that differ in notes alone. -/
def Specification.SameCode : Specification → Specification → Prop
  | .api s, .api s' => s.SameCode s'
  | .model s, .model s' => s.SameCode s'
  | _, _ => False

/-! ## Files with notes -/

/-- The texts that the comments of a builtin template print. -/
def Target.commentTexts (t : Target) : List String :=
  let value (name : String) : Value := (t.context.get? name).getD .null
  match t.template.category, t.template.name with
  | .api, "handler.tpl" =>
    ["handler_name", "summary", "tag", "path", "method"].map fun name => (value name).print
  | .api, "logic.tpl" => ["function", "summary"].map fun name => (value name).print
  | .model, "model.tpl" =>
    (itemsOf (value "fields")).map fun field => ((field.at? "comment").getD .null).print
  | _, _ => []

/-- A target has a text on a disk, with the lines of some code and one more for each line
break in a comment. Without such breaks every line is one of the code, alone or with a
remark behind it. -/
def Generator.Annotates (g : Generator) (d : Disk) (code : List String) (t : Target) : Prop :=
  ∃ text, g.content t d = .ok text ∧
    (splitOn '\n' text).length = code.length + breaks t.commentTexts ∧
    (breaks t.commentTexts = 0 → List.Forall₂ Remarked code (splitOn '\n' text))

section

variable {g : Generator} {d : Disk} {t : Target}

/-- A text that is made of pieces has the lines of their code. -/
theorem Generator.annotates_of_pieces {pieces pieces' : List (List Char × List Char)}
    {front back : List Char}
    (hcontent : g.content t d = .ok (String.ofList (front ++ withRemarks pieces' back)))
    (hcode : pieces'.map (·.1) = pieces.map (·.1))
    (hremarks : ∀ piece ∈ pieces', piece.2 = [] ∨ IsRemark piece.2)
    (hnotes : breaks t.commentTexts = breaksBehind pieces') :
    g.Annotates d (splitOn '\n' (String.ofList (front ++ withoutRemarks pieces back))) t := by
  rw [← withoutRemarks_congr hcode]
  refine ⟨_, hcontent, ?_, fun hnone => ?_⟩
  · rw [length_splitOn, length_splitOn, String.toList_ofList, String.toList_ofList,
      List.count_append, List.count_append, count_withRemarks, hnotes]
    omega
  · exact ((remarkedLines_withRemarks hremarks (hnotes ▸ hnone) back).prepend front).lines

/-! ## The templates of routes -/

def handlerPassage : Outline :=
  literalOutline ")\n\n// " ++ [.value "handler_name"] ++ literalOutline " " ++
    [.value "summary"] ++ literalOutline "\n// @Tags " ++ [.value "tag"] ++
    literalOutline "\n// @Router " ++ [.value "path"] ++ literalOutline " [" ++
    [.value "method"] ++ literalOutline "]\n"

/-- The end of the function in front of the comment of a logic file. -/
def logicLead : String :=
  "\x7b\n\t\tLogger: logx.WithContext(ctx),\n\t\tctx:    ctx,\n" ++
    "\t\tsvcCtx: svcCtx,\n\t\x7d\n\x7d\n\n"

def logicPassage : Outline :=
  literalOutline logicLead ++ literalOutline "// " ++ [.value "function"] ++ literalOutline " " ++
    [.value "summary"] ++ literalOutline "\nfunc (l *"

set_option maxRecDepth 4000 in
theorem passageOutline?_apiHandler :
    passageOutline? (TemplateKey.signature ⟨.api, "handler.tpl"⟩)
      ["summary", "tag", "method", "path"] 5 11 apiHandler.toList = some handlerPassage := by
  apply Spelled.read (passageOutline? _ _ 5 11)
  · repeat
      apply Spelled.cons
      · exact rfl
    exact Spelled.nil
  · decide +kernel

set_option maxRecDepth 4000 in
theorem passageOutline?_apiLogic :
    passageOutline? (TemplateKey.signature ⟨.api, "logic.tpl"⟩) ["summary"] 12 5
      apiLogic.toList = some logicPassage := by
  apply Spelled.read (passageOutline? _ _ 12 5)
  · repeat
      apply Spelled.cons
      · exact rfl
    exact Spelled.nil
  · decide +kernel

/-- The characters that a name prints in a view. -/
def printed (view : View) (name : String) : List Char := (view name).print.toList

/-- The pieces of a handler up to its comments. -/
def handlerPieces (view : View) : List (List Char × List Char) :=
  [(")\n\n".toList, "// ".toList ++ (printed view "handler_name" ++ ' ' :: printed view "summary")),
    ([], "// ".toList ++ ("@Tags ".toList ++ printed view "tag")),
    ([], "// ".toList ++ ("@Router ".toList ++ (printed view "path" ++ (" [".toList ++
      (printed view "method" ++ [']'])))))]

theorem handlerPassage_seen (view : View) (back : List Char) :
    handlerPassage.seen view ++ back = withRemarks (handlerPieces view) ([] ++ back) := by
  simp [handlerPassage, handlerPieces, withRemarks, printed]

def logicPieces (view : View) : List (List Char × List Char) :=
  [(logicLead.toList, "// ".toList ++ (printed view "function" ++ ' ' :: printed view "summary"))]

theorem logicPassage_seen (view : View) (back : List Char) :
    logicPassage.seen view ++ back =
      withRemarks (logicPieces view) ("func (l *".toList ++ back) := by
  simp [logicPassage, logicPieces, withRemarks, printed]

/-- A passage that comes to pieces leaves the lines of their code to its template. -/
theorem exists_code_of_passage {key : TemplateKey} {text : String} {changing : List String}
    {start length : Nat} {o : Outline} {pieces : View → List (List Char × List Char)}
    {tail : List Char} (htext : g.repository.textOf d key = .ok text)
    (hbuiltin : key.builtinText? = some text)
    (hpassage : passageOutline? key.signature changing start length text.toList = some o)
    (hseen : ∀ view back, o.seen view ++ back = withRemarks (pieces view) (tail ++ back))
    (hcode : ∀ view view', (pieces view').map (·.1) = (pieces view).map (·.1))
    (hremarks : ∀ view, ∀ piece ∈ pieces view, piece.2 = [] ∨ IsRemark piece.2)
    (hnotes : ∀ t : Target, t.template = key →
      breaks t.commentTexts = breaksBehind (pieces (.ofContext t.context.values)))
    (context : Context) :
    ∃ code, ∀ t : Target, t.template = key → t.template.signature.Met t.context.values →
      AlikeBut changing context.values t.context.values → g.Annotates d code t := by
  obtain ⟨front, back, hcontent⟩ :=
    TemplateKey.exists_content_of_passage hbuiltin hpassage context.values
  refine ⟨splitOn '\n' (String.ofList
    (front ++ withoutRemarks (pieces (.ofContext context.values)) (tail ++ back))),
    fun t htemplate hmet halike => ?_⟩
  rw [htemplate] at hmet
  have htarget := hcontent g d t htemplate htext hmet halike
  rw [hseen] at htarget
  exact Generator.annotates_of_pieces htarget (hcode _ _) (hremarks _) (hnotes t htemplate)

/-- The lines of a handler apart from its comments. -/
theorem exists_handlerCode
    (htext : g.repository.textOf d ⟨.api, "handler.tpl"⟩ = .ok apiHandler) (context : Context) :
    ∃ code, ∀ t : Target, t.template = ⟨.api, "handler.tpl"⟩ →
      t.template.signature.Met t.context.values →
        AlikeBut ["summary", "tag", "method", "path"] context.values t.context.values →
          g.Annotates d code t := by
  refine exists_code_of_passage htext rfl passageOutline?_apiHandler handlerPassage_seen
    (fun _ _ => rfl) ?_ ?_ context
  · intro view
    simp only [handlerPieces, List.forall_mem_cons]
    exact ⟨.inr (isRemark_append _), .inr (isRemark_append _), .inr (isRemark_append _),
      List.forall_mem_nil _⟩
  · intro t htemplate
    unfold Target.commentTexts
    rw [htemplate]
    simp [breaks, breaksBehind, handlerPieces, printed, View.ofContext, Context.get?_values]

/-- The lines of a logic file apart from its comment. -/
theorem exists_logicCode
    (htext : g.repository.textOf d ⟨.api, "logic.tpl"⟩ = .ok apiLogic) (context : Context) :
    ∃ code, ∀ t : Target, t.template = ⟨.api, "logic.tpl"⟩ →
      t.template.signature.Met t.context.values →
        AlikeBut ["summary"] context.values t.context.values → g.Annotates d code t := by
  refine exists_code_of_passage htext rfl passageOutline?_apiLogic logicPassage_seen
    (fun _ _ => rfl) ?_ ?_ context
  · exact fun _ => List.forall_mem_singleton.mpr (.inr (isRemark_append _))
  · intro t htemplate
    unfold Target.commentTexts
    rw [htemplate]
    simp [breaks, breaksBehind, logicPieces, printed, View.ofContext, Context.get?_values]

/-! ## The template of tables -/

def rowOutline (comment : Outline) : Outline :=
  literalOutline "\t\t" ++ [.value "field.name"] ++ literalOutline " " ++
    [.value "field.type_name"] ++ literalOutline " \x60db:\"" ++ [.value "field.column"] ++
    literalOutline "\"\x60" ++ comment ++ literalOutline "\n"

def modelRounds : RoundOutline where
  item := "field"
  container := "fields"
  full := rowOutline (literalOutline " // " ++ [.value "field.comment"])
  bare := rowOutline []

set_option maxRecDepth 4000 in
theorem roundOutline?_modelModel :
    roundOutline? (TemplateKey.signature ⟨.model, "model.tpl"⟩) ["fields"] "field.comment" 27
      modelModel.toList = some modelRounds := by
  apply Spelled.read (roundOutline? _ _ _ 27)
  · repeat
      apply Spelled.cons
      · exact rfl
    exact Spelled.nil
  · decide +kernel

/-- What the comment of a column says. -/
def Column.note (c : Column) : String := (c.comment.map trim).getD ""

/-- The line of a column and the remark behind it. -/
def Column.piece (c : Column) : List Char × List Char :=
  ("\t\t".toList ++ ((camelCase c.name).toList ++ ' ' :: ((trim c.typeName).toList ++
      (" \x60db:\"".toList ++ (c.name.toList ++ "\"\x60".toList)))),
    if c.note = "" then [] else " // ".toList ++ c.note.toList)

theorem Column.inside_field (c : Column) (view : View) {path column : String}
    (hpath : splitPath path = ("field", some column))
    (h : column ∈ ["name", "type_name", "column", "comment"]) :
    view.inside "field" c.value path = (List.lookup column [("name", .text (camelCase c.name)),
      ("type_name", .text (trim c.typeName)), ("column", .text c.name),
        ("comment", .text c.note)]).getD .null := by
  unfold View.inside
  rw [hpath, if_pos rfl, partOf, c.at?_value h]
  rfl

/-- The line of a column, in the view of a round at it. -/
theorem rowOutline_seen (c : Column) (view : View) :
    (if (view.inside "field" c.value "field.comment").isTruthy then modelRounds.full
      else modelRounds.bare).seen (view.inside "field" c.value) =
        c.piece.1 ++ (c.piece.2 ++ ['\n']) := by
  have hname : view.inside "field" c.value "field.name" = .text (camelCase c.name) :=
    c.inside_field view (by decide +kernel : splitPath "field.name" = ("field", some "name"))
      (by simp)
  have htype : view.inside "field" c.value "field.type_name" = .text (trim c.typeName) :=
    c.inside_field view
      (by decide +kernel : splitPath "field.type_name" = ("field", some "type_name")) (by simp)
  have hcolumn : view.inside "field" c.value "field.column" = .text c.name :=
    c.inside_field view (by decide +kernel : splitPath "field.column" = ("field", some "column"))
      (by simp)
  have hnote : view.inside "field" c.value "field.comment" = .text c.note :=
    c.inside_field view (by decide +kernel : splitPath "field.comment" = ("field", some "comment"))
      (by simp)
  have htruthy : (Value.text c.note).isTruthy = !(c.note == "") := rfl
  rw [hnote, htruthy]
  by_cases hempty : c.note = ""
  · simp [hempty, modelRounds, rowOutline, Column.piece, hname, htype, hcolumn, Value.print]
  · simp [hempty, modelRounds, rowOutline, Column.piece, hname, htype, hcolumn, hnote, Value.print]

theorem modelRounds_seen (view : View) {columns : List Column}
    (h : view "fields" = .list (columns.map Column.value)) (back : List Char) :
    modelRounds.seen "field.comment" view ++ back =
      withRemarks (columns.map Column.piece) back := by
  have hitem : modelRounds.item = "field" := rfl
  have hcontainer : modelRounds.container = "fields" := rfl
  unfold RoundOutline.seen
  rw [hitem, hcontainer, h, itemsOf, List.flatMap_map]
  clear h
  induction columns with
  | nil => rfl
  | cons c columns ih =>
      have hcons : withRemarks ((c :: columns).map Column.piece) back = c.piece.1 ++
          (c.piece.2 ++ '\n' :: withRemarks (columns.map Column.piece) back) := rfl
      rw [List.flatMap_cons, List.append_assoc, ih, hcons, rowOutline_seen]
      simp

theorem Column.count_piece (c : Column) : c.piece.2.count '\n' = c.note.toList.count '\n' := by
  unfold piece
  by_cases hempty : c.note = ""
  · simp [hempty]
  · simp [hempty]

/-- The lines of a model apart from the comments of its columns. -/
theorem exists_modelCode
    (htext : g.repository.textOf d ⟨.model, "model.tpl"⟩ = .ok modelModel) (context : Context)
    (columns : List Column) :
    ∃ code, ∀ (t : Target) (columns' : List Column), t.template = ⟨.model, "model.tpl"⟩ →
      t.template.signature.Met t.context.values →
        AlikeBut ["fields"] context.values t.context.values →
          t.context.get? "fields" = some (.list (columns'.map Column.value)) →
            List.Forall₂ Column.SameCode columns columns' → g.Annotates d code t := by
  obtain ⟨front, back, hcontent⟩ :=
    TemplateKey.exists_content_of_rounds rfl roundOutline?_modelModel context.values
  refine ⟨splitOn '\n' (String.ofList
    (front ++ withoutRemarks (columns.map Column.piece) back)),
    fun t columns' htemplate hmet halike hfields hcolumns => ?_⟩
  rw [htemplate] at hmet
  have htarget := hcontent g d t htemplate htext hmet halike
  have hview : View.ofContext t.context.values "fields" = .list (columns'.map Column.value) := by
    rw [View.ofContext, Context.get?_values, hfields]
    rfl
  rw [modelRounds_seen _ hview] at htarget
  refine Generator.annotates_of_pieces htarget ?_ ?_ ?_
  -- the code around the notes is that of the given columns
  · rw [List.map_map, List.map_map]
    refine map_of_forall₂ hcolumns fun c c' h => ?_
    simp [Column.piece, h.name, h.typeName]
  -- each note is a comment of its own, or nothing
  · refine List.forall_mem_map.mpr fun c _ => ?_
    unfold Column.piece
    by_cases hempty : c.note = ""
    · exact .inl (if_pos hempty)
    · rw [if_neg hempty]
      exact .inr (isRemark_gap_append _)
  -- and a comment breaks lines where its note does
  · have hnotes : t.commentTexts = columns'.map Column.note := by
      unfold Target.commentTexts
      rw [htemplate]
      dsimp only
      rw [hfields, Option.getD_some, itemsOf, List.map_map]
      refine List.map_congr_left fun c _ => ?_
      rw [Function.comp_apply, c.at?_value (by simp)]
      rfl
    rw [hnotes, breaks, breaksBehind, List.flatMap_map, List.flatMap_map, List.count_flatMap,
      List.count_flatMap]
    refine congrArg List.sum (List.map_congr_left fun c _ => ?_)
    exact c.count_piece.symm

end

/-! ## Contexts that differ in notes -/

theorem alikeBut_ofList {changing : List String} {entries entries' : List (String × Value)}
    (hnames : (entries.map (·.1)).Nodup)
    (h : List.Forall₂ (fun entry entry' => entry'.1 = entry.1 ∧
      (entry.1 ∉ changing → entry'.2 = entry.2)) entries entries') :
    AlikeBut changing (Context.ofList entries).values (Context.ofList entries').values := by
  have hnames' : entries'.map (·.1) = entries.map (·.1) := map_of_forall₂ h fun _ _ h => h.1
  intro name hname
  rw [Context.get?_values, Context.get?_values, Context.get?_ofList hnames,
    Context.get?_ofList (hnames' ▸ hnames)]
  clear hnames hnames'
  induction h with
  | nil => rfl
  | @cons entry entry' rest rest' hentry _ ih =>
      obtain ⟨key, v⟩ := entry
      obtain ⟨key', v'⟩ := entry'
      obtain ⟨hkey, hvalue⟩ := hentry
      obtain rfl : key' = key := hkey
      rw [List.lookup_cons, List.lookup_cons, ih]
      by_cases hhere : name = key'
      · have hsame : v' = v := hvalue (hhere ▸ hname)
        rw [hsame]
      · rw [beq_eq_false_iff_ne.mpr hhere]

theorem Annotations.lookup_congr {key : String} (hsummary : key ≠ "summary") (htag : key ≠ "tag")
    {chain chain' : List Annotations} (h : List.Forall₂ Annotations.SameCode chain chain') :
    lookup key chain' = lookup key chain := by
  have hfound : chain'.filterMap (fun a => a.get? key) = chain.filterMap fun a => a.get? key := by
    induction h with
    | nil => rfl
    | cons ha _ ih => rw [List.filterMap_cons, List.filterMap_cons, ha key hsummary htag, ih]
  unfold lookup
  rw [hfound]

section

variable {s s' : ApiSpec} {group group' : Group} {r r' : Route}

theorem Route.SameCode.stem_eq (h : r.SameCode r') : r'.stem = r.stem := by
  unfold Route.stem
  rw [h.handler]

theorem Route.SameCode.requestTitle?_eq (h : r.SameCode r') :
    r'.requestTitle? = r.requestTitle? := by
  unfold Route.requestTitle? Route.requestTypeName?
  rw [h.requestType]

theorem Route.SameCode.responseTypeName?_eq (h : r.SameCode r') :
    r'.responseTypeName? = r.responseTypeName? := by
  unfold Route.responseTypeName?
  rw [h.responseType]

theorem folder_congr (default : String) (hgroup : group.annotations.SameCode group'.annotations)
    (hr : r.SameCode r') :
    Annotations.folder default (group'.chain r') = Annotations.folder default (group.chain r) := by
  have hchain : List.Forall₂ Annotations.SameCode (group.chain r) (group'.chain r') :=
    .cons hr.annotations (.cons hgroup .nil)
  unfold Annotations.folder
  rw [Annotations.lookup_congr (by decide) (by decide) hchain]

/-- The context of a handler with other notes. -/
theorem alikeBut_handlerContext (hmodule : s'.module_ = s.module_)
    (hgroup : group.annotations.SameCode group'.annotations) (hr : r.SameCode r')
    (gate : VersionGate) (base : String) :
    AlikeBut ["summary", "tag", "method", "path"] (s.handlerContext gate group r base).values
      (s'.handlerContext gate group' r' base).values := by
  have hhandler : group'.handlerFolder r' = group.handlerFolder r := folder_congr _ hgroup hr
  have hlogic : group'.logicFolder r' = group.logicFolder r := folder_congr _ hgroup hr
  have hsecured : group'.isSecured = group.isSecured := by
    unfold Group.isSecured
    rw [Annotations.lookup_congr (by decide) (by decide) (.cons hgroup .nil),
      Annotations.lookup_congr (by decide) (by decide) (.cons hgroup .nil)]
  have himports : s'.handlerImports gate group' r' = s.handlerImports gate group r := by
    unfold ApiSpec.handlerImports
    rw [hmodule, hlogic, hr.requestTitle?_eq]
  refine alikeBut_ofList (by simp) ?_
  rw [hhandler, hlogic, hsecured, himports, hr.requestTitle?_eq, hr.responseTypeName?_eq]
  simp

/-- The context of a logic file with other notes. -/
theorem alikeBut_logicContext (hmodule : s'.module_ = s.module_)
    (hgroup : group.annotations.SameCode group'.annotations) (hr : r.SameCode r') (base : String) :
    AlikeBut ["summary"] (s.logicContext group r base).values
      (s'.logicContext group' r' base).values := by
  have hlogic : group'.logicFolder r' = group.logicFolder r := folder_congr _ hgroup hr
  have hresponse : r'.responseTitle? = r.responseTitle? := by
    unfold Route.responseTitle?
    rw [hr.responseTypeName?_eq]
  have himports : s'.logicImports r' = s.logicImports r := by
    unfold ApiSpec.logicImports
    rw [hmodule, hr.requestTitle?_eq, hresponse]
  have hresults : ApiSpec.logicResults r' = ApiSpec.logicResults r := by
    unfold ApiSpec.logicResults
    rw [hresponse]
  refine alikeBut_ofList (by simp) ?_
  rw [hlogic, himports, hresults, hr.requestTitle?_eq]
  simp

end

/-- The context of a model with other notes. -/
theorem alikeBut_tableContext {s s' : ModelSpec} {table table' : Table} (hs : s.SameCode s')
    (htable : table.SameCode table') (g : Generator) (imports : String) :
    AlikeBut ["fields"] (s.tableTarget g table imports).context.values
      (s'.tableTarget g table' imports).context.values := by
  refine alikeBut_ofList (by simp) ?_
  unfold Table.typeName
  rw [hs.package, hs.cache, htable.name]
  simp

/-! ## Plans -/

section

variable {g : Generator} {d : Disk}

theorem forall₂_trans {α β γ : Type} {R : α → β → Prop} {S : β → γ → Prop} {T : α → γ → Prop}
    {xs : List α} {ys : List β} {zs : List γ} (h : List.Forall₂ R xs ys)
    (h' : List.Forall₂ S ys zs) (hRS : ∀ x y z, R x y → S y z → T x z) :
    List.Forall₂ T xs zs := by
  induction h generalizing zs with
  | nil =>
      cases h'
      exact .nil
  | cons hxy _ ih =>
      cases h' with
      | cons hyz hrest => exact .cons (hRS _ _ _ hxy hyz) (ih hrest)

/-- The files of routes have the same code for all specifications that differ in notes alone. -/
theorem ApiSpec.exists_codes
    (hhandler : g.repository.textOf d ⟨.api, "handler.tpl"⟩ = .ok apiHandler)
    (hlogic : g.repository.textOf d ⟨.api, "logic.tpl"⟩ = .ok apiLogic) (s : ApiSpec) :
    ∃ codes : List (List String), ∀ s' ts after, s.SameCode s' →
      (s'.backend.plan g).runOn d = (.ok ts, after) → List.Forall₂ (g.Annotates d) codes ts := by
  choose handlerCode hhandlerCode using exists_handlerCode hhandler
  choose logicCode hlogicCode using exists_logicCode hlogic
  refine ⟨s.service.groups.flatMap fun group => group.routes.flatMap fun r =>
    [handlerCode (s.handlerContext g.gate group r (title r.stem)),
      logicCode (s.logicContext group r (title r.stem))], fun s' ts after hs hplan => ?_⟩
  obtain ⟨-, rfl, -⟩ := (s'.plansRoutes g d).complete ts after hplan
  refine List.rel_flatMap hs.groups @fun group group' hgroup => ?_
  refine List.rel_flatMap hgroup.routes @fun r r' hr => ?_
  rw [hr.stem_eq]
  refine .cons ?_ (.cons ?_ .nil)
  · exact hhandlerCode _ _ rfl (Specification.Offers.handler s' group' r' _ :
      Specification.Offers g _ _).met (alikeBut_handlerContext hs.module_ hgroup.annotations hr _ _)
  · exact hlogicCode _ _ rfl (Specification.Offers.apiLogic s' group' r' _ :
      Specification.Offers g _ _).met (alikeBut_logicContext hs.module_ hgroup.annotations hr _)

theorem ModelSpec.SameCode.importKey_eq {s s' : ModelSpec} (h : s.SameCode s') :
    s'.importKey = s.importKey := by
  unfold ModelSpec.importKey
  rw [h.cache]

theorem Table.SameCode.usesTime_eq {table table' : Table} (h : table.SameCode table') :
    table'.usesTime = table.usesTime := by
  have htypes : table'.columns.map (·.typeName) = table.columns.map (·.typeName) :=
    map_of_forall₂ h.columns fun _ _ hc => hc.typeName
  have hany : ∀ table : Table,
      table.usesTime = (table.columns.map (·.typeName)).any (contains "time.Time") := by
    intro table
    rw [List.any_map]
    rfl
  rw [hany, hany, htypes]

/-- The imports of the model of a table, where they are rendered. -/
def ModelSpec.importsOf (s : ModelSpec) (g : Generator) (d : Disk) (table : Table) : String :=
  (((g.renderFragment s.importKey (Context.ofList [("time", .bool table.usesTime)])
    table.node).runOn d).1.toOption).getD ""

theorem ModelSpec.SameCode.importsOf_eq {s s' : ModelSpec} (h : s.SameCode s')
    {table table' : Table} (htable : table.SameCode table') :
    s'.importsOf g d table' = s.importsOf g d table := by
  unfold ModelSpec.importsOf Table.node
  rw [h.importKey_eq, htable.usesTime_eq, htable.name]

/-- The files of tables have the same code for all specifications that differ in notes alone. -/
theorem ModelSpec.exists_codes
    (hfile : ∀ key : TemplateKey, key.isBuiltin = true → d.isFile (g.repository.pathOf key) = false)
    (s : ModelSpec) :
    ∃ codes : List (List String), ∀ s' ts after, s.SameCode s' →
      (s'.backend.plan g).runOn d = (.ok ts, after) → List.Forall₂ (g.Annotates d) codes ts := by
  have htext : ∀ name text, TemplateKey.builtinText? ⟨.model, name⟩ = some text →
      TemplateKey.isBuiltin ⟨.model, name⟩ = true →
        g.repository.textOf d ⟨.model, name⟩ = .ok text :=
    fun name text hbuiltin hkey => Repository.textOf_of_builtin (hfile _ hkey) hbuiltin
  choose modelCode hmodelCode using exists_modelCode (htext "model.tpl" _ rfl rfl)
  obtain ⟨vars, hvars⟩ := Generator.exists_content (t := s.variablesTarget g)
    (htext "vars.tpl" _ rfl rfl) rfl (Specification.Offers.vars s : Specification.Offers g _ _).met
  refine ⟨s.tables.map (fun table =>
    modelCode (s.tableTarget g table (s.importsOf g d table)).context table.columns) ++
      [splitOn '\n' vars], fun s' ts after hs hplan => ?_⟩
  have hplans := s'.plansTables hfile
  have hne : s'.tables ≠ [] := by
    intro hnone
    obtain ⟨e, he⟩ := hplans.fails_iff.mpr hnone
    exact absurd (Prod.mk.inj (hplan.symm.trans he)).1 nofun
  obtain ⟨models, hmodels, hall, -⟩ := hplans.complete hne
  obtain rfl := Except.ok.inj (Prod.mk.inj (hplan.symm.trans hmodels)).1
  refine List.rel_append ?_ (.cons ?_ .nil)
  · rw [List.forall₂_map_left_iff]
    refine forall₂_trans hs.tables hall ?_
    rintro table table' t htable ⟨imports, himports, rfl⟩
    -- the imports are a fragment that is rendered while the plan is made: they are code too
    have hfound : s'.importsOf g d table' = imports := by
      unfold ModelSpec.importsOf
      rw [himports]
      rfl
    rw [hs.importsOf_eq htable] at hfound
    refine hmodelCode _ _ _ table'.columns rfl
      (Specification.Offers.table s' table' imports : Specification.Offers g _ _).met ?_ ?_
      htable.columns
    · rw [hfound]
      exact alikeBut_tableContext hs htable g imports
    · rw [ModelSpec.tableTarget, Context.get?_ofList (by simp)]
      rfl
  · have hsame : s'.variablesTarget g = s.variablesTarget g := by
      unfold ModelSpec.variablesTarget
      rw [hs.package]
    rw [hsame]
    exact ⟨vars, hvars, rfl, fun _ => List.forall₂_same.mpr fun _ _ => .bare⟩

/-- Without custom templates a specification of routes or tables gives the same lines of
code as any other one that differs from it in notes alone. Where no comment has a line break
in it, every line of a file is such a line, alone or with a remark behind slashes at its end;
every line break in a comment makes one line more. -/
theorem Specification.notes_stay_in_comments
    (hfile : ∀ key : TemplateKey, key.isBuiltin = true → d.isFile (g.repository.pathOf key) = false)
    (s : Specification) :
    ∃ codes : List (List String), ∀ s' ts after, s.SameCode s' →
      (s'.backend.plan g).runOn d = (.ok ts, after) → List.Forall₂ (g.Annotates d) codes ts := by
  cases s with
  | api s =>
      obtain ⟨codes, hcodes⟩ := s.exists_codes (g := g)
        (Repository.textOf_of_builtin (hfile ⟨.api, "handler.tpl"⟩ rfl) rfl)
        (Repository.textOf_of_builtin (hfile ⟨.api, "logic.tpl"⟩ rfl) rfl)
      refine ⟨codes, fun s' ts after hs hplan => ?_⟩
      cases s' with
      | api s' => exact hcodes s' ts after hs hplan
      | _ => exact hs.elim
  | model s =>
      obtain ⟨codes, hcodes⟩ := s.exists_codes hfile
      refine ⟨codes, fun s' ts after hs hplan => ?_⟩
      cases s' with
      | model s' => exact hcodes s' ts after hs hplan
      | _ => exact hs.elim
  | _ => exact ⟨[], fun s' ts after hs => hs.elim⟩

/-- A route that says hello. -/
def hello (summary : String) : Route :=
  ⟨"get", "/hello", "HelloHandler", none, none, .insert .empty "summary" summary⟩

/-- A service that can do nothing else. -/
def helloService (summary : String) : ApiSpec :=
  ⟨"greet", ⟨"greet", .empty, [⟨.empty, [hello summary]⟩]⟩⟩

def helloHandler (summary : String) : Target :=
  (helloService summary).handlerTarget .plain ⟨.empty, [hello summary]⟩ (hello summary)
    (title (hello summary).stem)

def helloLogic (summary : String) : Target :=
  (helloService summary).logicTarget .plain ⟨.empty, [hello summary]⟩ (hello summary)
    (title (hello summary).stem)

theorem hello_sameCode (summary summary' : String) : (hello summary).SameCode (hello summary') := by
  refine ⟨rfl, rfl, rfl, fun key hsummary _ => ?_⟩
  have hempty : ∀ text : String, (hello text).annotations.get? key = none := by
    intro text
    change List.lookup key [("summary", text)] = none
    rw [List.lookup_cons, beq_eq_false_iff_ne.mpr hsummary]
    rfl
  rw [hempty, hempty]

theorem helloService_sameCode (summary summary' : String) :
    (helloService summary).SameCode (helloService summary') :=
  ⟨rfl, .cons ⟨fun _ _ _ => rfl, .cons (hello_sameCode summary summary') .nil⟩ .nil⟩

theorem plan_helloService (summary : String) :
    ((helloService summary).backend.plan .plain).runOn Generator.blocked =
      (.ok [helloHandler summary, helloLogic summary], Generator.blocked) := by
  have hplans := (helloService summary).plansRoutes .plain Generator.blocked
  have husable : trim "HelloHandler" ∉ ["", "handler", "Handler", "Handlerhandler"] := by decide
  obtain ⟨ts, hts⟩ := hplans.succeeds_iff.mpr
    (List.forall_mem_singleton.mpr (List.forall_mem_singleton.mpr husable))
  obtain ⟨-, rfl, -⟩ := hplans.complete ts _ hts
  exact hts

theorem Specification.notes_stay_in_comments_hello :
    (∀ key : TemplateKey, key.isBuiltin = true →
      Generator.blocked.isFile (Generator.plain.repository.pathOf key) = false) ∧
    breaks (helloHandler "Says hello.").commentTexts = 0 ∧
    breaks (helloHandler "Says\nhello.").commentTexts = 1 ∧
    ∃ codes : List (List String),
      List.Forall₂ (Generator.plain.Annotates Generator.blocked) codes
        [helloHandler "Says hello.", helloLogic "Says hello."] ∧
      List.Forall₂ (Generator.plain.Annotates Generator.blocked) codes
        [helloHandler "Says\nhello.", helloLogic "Says\nhello."] := by
  have hfile := Generator.uncustomized_blocked.noFile
  obtain ⟨codes, hcodes⟩ := notes_stay_in_comments hfile (.api (helloService "Hello"))
  have hfiles : ∀ summary, List.Forall₂ (Generator.plain.Annotates Generator.blocked) codes
      [helloHandler summary, helloLogic summary] := fun summary =>
    hcodes (.api (helloService summary)) _ _ (helloService_sameCode _ _) (plan_helloService summary)
  exact ⟨hfile, by decide, by decide, codes, hfiles _, hfiles _⟩

/-! ## A summary of two lines -/

/-- What stands behind a line break in the summary of a route is a line of its own. -/
theorem ApiSpec.exists_line_of_summary
    (htext : g.repository.textOf d ⟨.api, "handler.tpl"⟩ = .ok apiHandler) (s : ApiSpec)
    (group : Group) {r : Route} (base : String) {first second : String}
    (hsummary : r.summary "Summary" = first ++ "\n" ++ second) (hbreak : '\n' ∉ second.toList) :
    ∃ text, g.content (s.handlerTarget g group r base) d = .ok text ∧
      second ∈ splitOn '\n' text := by
  have hmet := (Specification.Offers.handler s group r base : Specification.Offers g _ _).met
  obtain ⟨front, back, hcontent⟩ := TemplateKey.exists_content_of_passage rfl
    passageOutline?_apiHandler (s.handlerTarget g group r base).context.values
  have htarget := hcontent g d _ rfl htext hmet fun _ _ => rfl
  have hprinted : printed (.ofContext (s.handlerTarget g group r base).context.values) "summary" =
      first.toList ++ '\n' :: second.toList := by
    rw [printed, View.ofContext, Context.get?_values, handlerTarget, handlerContext,
      Context.get?_ofList (by simp)]
    change (r.summary "Summary").toList = _
    rw [hsummary]
    simp
  have hremark : ∀ name : List Char, "// ".toList ++ (name ++ ' ' :: (first.toList ++
      '\n' :: second.toList)) = ("// ".toList ++ (name ++ ' ' :: first.toList)) ++
        '\n' :: second.toList := by
    intro name
    simp only [List.append_assoc, List.cons_append]
  rw [handlerPassage_seen, handlerPieces, hprinted, hremark] at htarget
  have hline : ∀ code before more, second ∈ splitOn '\n' (String.ofList (front ++
      withRemarks ((code, before ++ '\n' :: second.toList) :: more) back)) := by
    intro code before more
    have hmem := mem_lines_of_break hbreak front code before more back
    rwa [String.ofList_toList] at hmem
  exact ⟨_, htarget, hline _ _ _⟩

/-- The second line of a summary can be a declaration, and the handler is one line longer. -/
theorem ApiSpec.summary_becomes_code : ∃ text text' : String,
    Generator.plain.content (helloHandler "Says hello.") Generator.blocked = .ok text ∧
    Generator.plain.content (helloHandler "Says hello.\nfunc init() \x7b\x7d") Generator.blocked =
      .ok text' ∧
    (splitOn '\n' text').length = (splitOn '\n' text).length + 1 ∧
    "func init() \x7b\x7d" ∈ splitOn '\n' text' := by
  have htext := Repository.textOf_of_builtin
    (Generator.uncustomized_blocked.noFile ⟨.api, "handler.tpl"⟩ rfl) rfl
  obtain ⟨code, hcode⟩ := exists_handlerCode htext (helloHandler "Hello").context
  have hannotates : ∀ summary,
      Generator.plain.Annotates Generator.blocked code (helloHandler summary) := fun summary =>
    hcode _ rfl (Specification.Offers.handler (helloService summary) _ _ _ :
        Specification.Offers Generator.plain _ _).met
      (alikeBut_handlerContext rfl (fun _ _ _ => rfl) (hello_sameCode _ summary) _ _)
  obtain ⟨text, hcontent, hlines, -⟩ := hannotates "Says hello."
  obtain ⟨text', hcontent', hlines', -⟩ := hannotates "Says hello.\nfunc init() \x7b\x7d"
  have hbreaks : breaks (helloHandler "Says hello.").commentTexts = 0 := by decide
  have hbreaks' : breaks (helloHandler "Says hello.\nfunc init() \x7b\x7d").commentTexts = 1 := by
    decide
  have hsummary : (hello "Says hello.\nfunc init() \x7b\x7d").summary "Summary" =
      "Says hello." ++ "\n" ++ "func init() \x7b\x7d" := by decide
  obtain ⟨text'', hcontent'', hline⟩ :=
    exists_line_of_summary htext (helloService _) ⟨.empty, [hello _]⟩ _ hsummary (by decide)
  obtain rfl := Except.ok.inj (hcontent'.symm.trans hcontent'')
  exact ⟨text, text', hcontent, hcontent', by omega, hline⟩

end

end Scaffold
