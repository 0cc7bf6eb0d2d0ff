import Scaffold.Proofs.Generation.Signatures

/-!
# Documentation of remote methods

The documentation of a method stands in front of its function, each line behind two slashes of
its own. So nothing that it says becomes code, whatever ends its lines and however many of
them are blank, and a method without documentation has a blank line there.
-/

namespace Scaffold

open Text

/-! ## Lines -/

namespace Text

/-- A carriage return at the end is a blank as any other. -/
theorem trim_dropReturn (cs : List Char) :
    trim (String.ofList (dropReturn cs)) = trim (String.ofList cs) := by
  apply String.toList_inj.mp
  rw [toList_trim, toList_trim, String.toList_ofList, String.toList_ofList]
  unfold dropReturn
  split
  · next rest hrest =>
    have hcs : cs = rest.reverse ++ ['\r'] := by
      rw [← List.reverse_reverse cs, hrest, List.reverse_cons]
    rw [hcs, trimChars_concat _ (by decide)]
  · rfl

/-- The lines of a text that does not end in a line feed stand between its line feeds, but for
carriage returns at their ends. -/
theorem map_trim_lines {s : String} (hne : s ≠ "") (hlast : s.toList.getLast? ≠ some '\n') :
    (lines s).map trim = (splitOn '\n' s).map trim := by
  obtain ⟨before, last, hsplit, hfilled⟩ := splitOn_last hne hlast
  -- the last of the pieces is a line, since something stands behind the last line feed
  obtain ⟨pieces, piece, hpieces⟩ : ∃ pieces piece,
      splitCharsWhere (· == '\n') s.toList = pieces ++ [piece] :=
    ⟨_, _, (List.dropLast_append_getLast (splitCharsWhere_ne_nil _ _)).symm⟩
  have hpiece : piece ≠ [] := by
    rintro rfl
    rw [splitOn, hpieces, List.map_append] at hsplit
    have hempty := (List.append_inj' hsplit rfl).2
    exact hfilled (List.cons.inj hempty).1.symm
  have hlines : lines s =
      pieces.map (fun piece => String.ofList (dropReturn piece)) ++ [String.ofList piece] := by
    unfold lines
    simp only [hpieces, List.getLast?_concat, List.dropLast_concat]
  rw [hlines, splitOn, hpieces, List.map_append, List.map_append, List.map_append, List.map_map,
    List.map_map]
  congr 1
  exact List.map_congr_left fun piece _ => trim_dropReturn piece

theorem map_trim_lines_trim {s : String} (hne : trim s ≠ "") :
    (lines (trim s)).map trim = (splitOn '\n' (trim s)).map trim := by
  refine map_trim_lines hne fun hlast => ?_
  have hsolid := getLast?_trimWhere isBlank s hlast
  exact absurd hsolid (by decide)

end Text

/-! ## Comments -/

namespace RpcMethod

variable {m : RpcMethod} {doc : String}

theorem comment_of_blank (h : ∀ doc, m.doc = some doc → trim doc = "") : m.comment = "" := by
  unfold comment nonBlank
  cases hdoc : m.doc with
  | none => rfl
  | some doc => simp [h doc hdoc, Option.filter]

/-- The lines of a comment are those of the documentation, each behind slashes. -/
theorem splitOn_comment (hdoc : m.doc = some doc) (hsaid : trim doc ≠ "") :
    splitOn '\n' m.comment = (lines (trim doc)).map fun line => "// " ++ trim line := by
  have hcomment : m.comment = String.intercalate (String.singleton '\n')
      ((lines (trim doc)).map fun line => "// " ++ trim line) := by
    have hnonBlank : nonBlank m.doc = some (trim doc) := by simp [nonBlank, hdoc, hsaid]
    rw [comment, hnonBlank]
    rfl
  have htrimmed := map_trim_lines_trim hsaid
  rw [hcomment, splitOn_intercalate]
  · intro hnone
    rw [List.map_eq_nil_iff.mp hnone, List.map_nil, eq_comm, List.map_eq_nil_iff] at htrimmed
    exact splitOn_ne_nil _ _ htrimmed
  · -- a trimmed line is a trimmed piece between line feeds, so it holds none
    intro line hline
    obtain ⟨said, hsaid, rfl⟩ := List.mem_map.mp hline
    obtain ⟨piece, hpiece, hsame⟩ := List.mem_map.mp (htrimmed ▸ List.mem_map_of_mem hsaid)
    rw [← hsame, String.toList_append, List.mem_append, not_or]
    constructor
    · decide
    · intro hbreak
      exact not_mem_of_mem_splitOn hpiece (trimWhere_subset isBlank piece hbreak)

theorem startsWith_of_mem_comment (hdoc : m.doc = some doc) (hsaid : trim doc ≠ "") :
    ∀ line ∈ splitOn '\n' m.comment, startsWith "//" line = true := by
  intro line hline
  rw [splitOn_comment hdoc hsaid] at hline
  obtain ⟨said, -, rfl⟩ := List.mem_map.mp hline
  rw [startsWith_iff, String.toList_append]
  exact ⟨' ' :: (trim said).toList, rfl⟩

theorem trim_ne_empty_of_comment (h : m.comment ≠ "") : ∃ doc, m.doc = some doc ∧ trim doc ≠ "" := by
  by_contra hnone
  push Not at hnone
  exact h (comment_of_blank hnone)

theorem comment_eq_empty_iff :
    m.comment = "" ↔ ∀ doc, m.doc = some doc → ∀ c ∈ doc.toList, isBlank c = true := by
  have hblank : ∀ doc, trim doc = "" ↔ ∀ c ∈ doc.toList, isBlank c = true :=
    fun doc => trimWhere_eq_empty_iff isBlank doc
  constructor
  · intro h doc hdoc
    rw [← hblank]
    by_contra hsaid
    have hline := startsWith_of_mem_comment hdoc hsaid "" (by rw [h]; decide)
    exact absurd hline (by decide)
  · intro h
    exact comment_of_blank fun doc hdoc => (hblank doc).mpr (h doc hdoc)

/-- A comment is a blank line, or every line of it stands behind slashes. -/
theorem blank_or_startsWith (m : RpcMethod) :
    ∀ line ∈ splitOn '\n' m.comment, line = "" ∨ startsWith "//" line = true := by
  intro line hline
  by_cases h : m.comment = ""
  · rw [h] at hline
    exact Or.inl (List.mem_singleton.mp hline)
  · obtain ⟨doc, hdoc, hsaid⟩ := trim_ne_empty_of_comment h
    exact Or.inr (startsWith_of_mem_comment hdoc hsaid line hline)

end RpcMethod

/-- The lines of a function are its comment, the declaration and what follows. -/
theorem RpcSpec.splitOn_functionText (s : RpcSpec) (package : String) (m : RpcMethod) :
    ∃ declaration rest, splitOn '\n' (s.functionText package m) =
        splitOn '\n' m.comment ++ declaration :: rest ∧
      startsWith "func (l *" declaration = true := by
  obtain ⟨body, hbody⟩ := s.functionText_eq package m
  obtain ⟨code, hcode⟩ : ∃ code, s.functionText package m =
      m.comment ++ String.singleton '\n' ++ ("func (l *" ++ code) := by
    refine ⟨m.logicName ++ ") " ++ s.signatureText package m (camelCase m.name)
      (camelCase m.requestType) (camelCase m.responseType) ++ " \x7b" ++ body, hbody.trans ?_⟩
    apply String.toList_inj.mp
    simp
  have hunbroken : '\n' ∉ "func (l *".toList := by decide
  obtain ⟨piece, pieces, -, hpieces⟩ := splitOn_front hunbroken code
  refine ⟨"func (l *" ++ piece, pieces, ?_, ?_⟩
  · rw [hcode, splitOn_append, hpieces]
  · rw [startsWith_iff, String.toList_append]
    exact List.prefix_append _ _

/-- A method without documentation, or with a blank one, has no comment. Any other comment has
the lines of the trimmed documentation, each one trimmed, behind slashes, and no others. In the
fragment that the builtin template gives the function of a method, every line in front of the
declaration is blank or starts with slashes. -/
theorem RpcMethod.documentation_is_comment (m : RpcMethod) :
    (m.comment = "" ↔ ∀ doc, m.doc = some doc → ∀ c ∈ doc.toList, isBlank c = true) ∧
    (∀ doc, m.doc = some doc → m.comment ≠ "" →
      splitOn '\n' m.comment = (lines (trim doc)).map (fun line => "// " ++ trim line) ∧
      (splitOn '\n' m.comment).length = (lines (trim doc)).length ∧
      (lines (trim doc)).map trim = (splitOn '\n' (trim doc)).map trim ∧
      ∀ line ∈ splitOn '\n' m.comment, startsWith "//" line = true) ∧
    ∀ (s : RpcSpec) (g : Generator) (d : Disk),
      d.isFile (g.repository.pathOf RpcSpec.functionKey) = false →
        ∃ text declaration rest,
          (g.renderFragment RpcSpec.functionKey (s.functionContext m) m.node).runOn d =
            (.ok text, d) ∧
          splitOn '\n' text = splitOn '\n' m.comment ++ declaration :: rest ∧
          startsWith "func (l *" declaration = true ∧
          ∀ line ∈ splitOn '\n' m.comment, line = "" ∨ startsWith "//" line = true := by
  refine ⟨comment_eq_empty_iff, ?_, ?_⟩
  · intro doc hdoc hcomment
    have hsaid : trim doc ≠ "" := by
      intro hblank
      refine hcomment (comment_of_blank fun doc' hdoc' => ?_)
      rw [hdoc] at hdoc'
      rwa [← Option.some.inj hdoc']
    have hlines := splitOn_comment hdoc hsaid
    refine ⟨hlines, ?_, map_trim_lines_trim hsaid, startsWith_of_mem_comment hdoc hsaid⟩
    rw [hlines, List.length_map]
  · intro s g d hfile
    obtain ⟨declaration, rest, hlines, hdeclaration⟩ :=
      s.splitOn_functionText s.service.pbName m
    exact ⟨_, declaration, rest, s.renderFragment_function_of_builtin m hfile, hlines,
      hdeclaration, m.blank_or_startsWith⟩

/-- A method with blank lines, several kinds of line ends and code in its documentation. -/
def RpcMethod.documented : RpcMethod :=
  ⟨"SayHello", "HelloReq", "HelloReply", false, false,
    some " Says hello.\r\n\n\tfunc init() \x7b\x7d\r \n"⟩

theorem RpcMethod.documentation_is_comment_hello :
    RpcMethod.documented.comment ≠ "" ∧
    splitOn '\n' RpcMethod.documented.comment =
      ["// Says hello.", "// ", "// func init() \x7b\x7d"] ∧
    Generator.blocked.isFile
      (Generator.plain.repository.pathOf RpcSpec.functionKey) = false ∧
    ∃ text declaration rest,
      (Generator.plain.renderFragment RpcSpec.functionKey
        (Generator.quiet.functionContext .documented) RpcMethod.documented.node).runOn
          Generator.blocked = (.ok text, Generator.blocked) ∧
      splitOn '\n' text =
        splitOn '\n' RpcMethod.documented.comment ++ declaration :: rest ∧
      startsWith "func (l *" declaration = true ∧
      ∀ line ∈ splitOn '\n' RpcMethod.documented.comment,
        line = "" ∨ startsWith "//" line = true := by
  have hcomment : RpcMethod.documented.comment ≠ "" := by decide +kernel
  have hfile : Generator.blocked.isFile
      (Generator.plain.repository.pathOf RpcSpec.functionKey) = false :=
    Generator.uncustomized_blocked.noFile RpcSpec.functionKey rfl
  obtain ⟨-, hlines, hfragment⟩ := RpcMethod.documented.documentation_is_comment
  refine ⟨hcomment, ?_, hfile, hfragment _ _ _ hfile⟩
  exact (hlines _ rfl hcomment).1.trans (by decide +kernel)

end Scaffold
