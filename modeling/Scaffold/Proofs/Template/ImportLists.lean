import Scaffold.Generation.Imports
import Scaffold.Proofs.Template.Passages
import Scaffold.Proofs.Text.Splitting

/-!
# Import blocks

The import block of a file is the lines between the one that opens it and the one that
closes it, and a line of it imports what stands between its two quotes. Where a builtin
template lists imports, each of them is a line of its own, and the text in front of them and
behind them is known as soon as the conditions there are.
-/

namespace Scaffold

open Text Template BuiltinText

/-! ## Lines -/

@[simp] theorem ofLines_nil : ofLines [] = "" := rfl

theorem toList_ofLines_cons (line : String) (lines : List String) :
    (ofLines (line :: lines)).toList = line.toList ++ '\n' :: (ofLines lines).toList := by
  simp [ofLines]

theorem toList_ofLines_append (lines more : List String) :
    (ofLines (lines ++ more)).toList = (ofLines lines).toList ++ (ofLines more).toList := by
  simp [ofLines]

/-- Lines in front of a text are its first lines. -/
theorem splitOn_ofLines {lines : List String} (h : ∀ line ∈ lines, '\n' ∉ line.toList)
    (rest : List Char) :
    splitOn '\n' (String.ofList ((ofLines lines).toList ++ rest)) =
      lines ++ splitOn '\n' (String.ofList rest) := by
  induction lines with
  | nil => rfl
  | cons line lines ih =>
      obtain ⟨hline, hlines⟩ := List.forall_mem_cons.mp h
      have hseam : String.ofList ((ofLines (line :: lines)).toList ++ rest) =
          line ++ String.singleton '\n' ++ String.ofList ((ofLines lines).toList ++ rest) :=
        String.toList_inj.mp (by simp [toList_ofLines_cons])
      rw [hseam, splitOn_append, splitOn_of_not_mem hline, ih hlines]
      rfl

/-! ## Reading a block -/

/-- The lines of the import block of a file. -/
def importBlock (file : String) : List String :=
  (((splitOn '\n' file).dropWhile (· != "import (")).drop 1).takeWhile (· != ")")

/-- What stands between the quotes of a line, if it has two of them. -/
def importOf? (line : String) : Option String :=
  match splitOn '"' line with
  | [_, path, _] => some path
  | _ => none

/-- The paths that a file imports. -/
def importedPaths (file : String) : List String := (importBlock file).filterMap importOf?

/-- The line of an import. -/
def importLine (path : String) : String := "\t\"" ++ path ++ "\""

/-- A text that can stand between the quotes of a line. -/
structure Quotable (s : String) : Prop where
  unbroken : '\n' ∉ s.toList
  unquoted : '"' ∉ s.toList

theorem Quotable.of_subset {s t : String} (hs : Quotable s) (h : t.toList ⊆ s.toList) :
    Quotable t :=
  ⟨fun hmem => hs.unbroken (h hmem), fun hmem => hs.unquoted (h hmem)⟩

theorem Quotable.append {s t : String} (hs : Quotable s) (ht : Quotable t) : Quotable (s ++ t) := by
  constructor
  · rw [String.toList_append, List.mem_append, not_or]
    exact ⟨hs.unbroken, ht.unbroken⟩
  · rw [String.toList_append, List.mem_append, not_or]
    exact ⟨hs.unquoted, ht.unquoted⟩

theorem importOf?_importLine {path : String} (h : '"' ∉ path.toList) :
    importOf? (importLine path) = some path := by
  have hpieces : splitOn '"' (importLine path) = ["\t", path, ""] := by
    have hline : importLine path =
        "\t" ++ String.singleton '"' ++ (path ++ String.singleton '"' ++ "") :=
      String.toList_inj.mp (by simp [importLine])
    rw [hline, splitOn_append, splitOn_append, splitOn_of_not_mem (by decide),
      splitOn_of_not_mem h, splitOn_of_not_mem (by decide)]
    rfl
  rw [importOf?, hpieces]

theorem newline_not_mem_importLine {path : String} (h : '\n' ∉ path.toList) :
    '\n' ∉ (importLine path).toList := by
  simpa [importLine] using h

/-- A line that starts with a tab is none of those around the block. -/
theorem importLine_ne (path : String) : importLine path ≠ "import (" ∧ importLine path ≠ ")" := by
  have hhead : (importLine path).toList.head? = some '\t' := by simp [importLine]
  constructor
  · intro h
    rw [h] at hhead
    exact absurd hhead (by decide)
  · intro h
    rw [h] at hhead
    exact absurd hhead (by decide)

theorem filterMap_importLine {paths : List String} (h : ∀ path ∈ paths, Quotable path) :
    (paths.map importLine).filterMap importOf? = paths := by
  induction paths with
  | nil => rfl
  | cons path paths ih =>
      obtain ⟨hpath, hpaths⟩ := List.forall_mem_cons.mp h
      rw [List.map_cons, List.filterMap_cons, importOf?_importLine hpath.unquoted, ih hpaths]

/-- The block of a file of known lines, with none that opens a block in front of it and none
that closes it inside. -/
theorem importBlock_ofLines {front block : List String} (rest : List Char)
    (hlines : ∀ line ∈ front ++ block, '\n' ∉ line.toList)
    (hfront : ∀ line ∈ front, line ≠ "import (") (hblock : ∀ line ∈ block, line ≠ ")") :
    importBlock (String.ofList
      ((ofLines (front ++ "import (" :: (block ++ [")"]))).toList ++ rest)) = block := by
  have hunbroken : ∀ line ∈ front ++ "import (" :: (block ++ [")"]), '\n' ∉ line.toList := by
    simp only [List.forall_mem_append, List.forall_mem_cons] at hlines ⊢
    exact ⟨hlines.1, by decide, hlines.2, by decide, List.forall_mem_nil _⟩
  unfold importBlock
  rw [splitOn_ofLines hunbroken, List.append_assoc, List.cons_append, List.append_assoc,
    List.dropWhile_append_of_pos fun line hline => by simpa using hfront line hline]
  rw [List.dropWhile_cons_of_neg (by simp), List.drop_one, List.tail_cons,
    List.takeWhile_append_of_pos fun line hline => by simpa using hblock line hline]
  simp

/-! ## Where templates list imports -/

namespace Template

/-- What a template prints for each import. -/
def importRow : Outline := literalOutline "\t" ++ [.value "imp"] ++ literalOutline "\n"

/-- The sketches of what stands around a list of imports. -/
structure ImportFrame where
  front : Outline
  back : Outline
  /-- Whether nothing comes behind what is sketched. -/
  isWhole : Bool
  deriving DecidableEq

/-- What stands in front of the list of imports at a place of the template with some
characters, and behind it up to some number of nodes. -/
def importFrame? (truths : List (String × Bool)) (start length : Nat) (cs : List Char) :
    Option ImportFrame :=
  (nodesOfChars? cs).bind fun nodes =>
    match passageOf start 1 nodes with
    | [.loop none item container body none] =>
      if item = "imp" ∧ container.path? = some "imports" ∧ sketchOf? [] body = some importRow then
        do return ⟨← sketchOf? truths (nodes.take start),
          ← sketchOf? truths (passageOf (start + 1) length nodes),
          (nodes.drop (start + 1 + length)).isEmpty⟩
      else none
    | _ => none

/-- Each import has a line. -/
theorem nodesSay_imports {container : Expr} {body : List Node} {view : View} {set : ImportSet}
    (hcontainer : container.path? = some "imports") (hbody : sketchOf? [] body = some importRow)
    (hview : view "imports" = .texts set.quoted) :
    nodesSay [.loop none "imp" container body none] view =
      (ofLines (set.paths.map importLine)).toList := by
  have hitems : itemsOf (view "imports") =
      set.paths.map fun path => .text ("\"" ++ path ++ "\"") := by
    rw [hview, ImportSet.quoted, Value.texts, itemsOf, List.map_map]
    rfl
  rw [nodesSay, nodesSay, List.append_nil, Node.said, Expr.seen_of_path? hcontainer, hitems]
  -- the text goes with the paths alone, so they need not be those of a set any longer
  clear hitems
  induction set.paths with
  | nil => rfl
  | cons path paths ih =>
      have hitem : view.inside "imp" (.text ("\"" ++ path ++ "\"")) "imp" =
          .text ("\"" ++ path ++ "\"") := by
        have hsplit : splitPath "imp" = ("imp", none) := by decide +kernel
        rw [View.inside, hsplit]
        rfl
      rw [List.map_cons, List.flatMap_cons, ih, List.map_cons, toList_ofLines_cons,
        nodesSay_of_sketch? (List.forall_mem_nil _) body hbody]
      simp [importRow, hitem, Value.print, importLine]

end Template

/-- The text of a target whose builtin template lists imports. -/
theorem Generator.content_of_frame {g : Generator} {t : Target} {d : Disk} {text : String}
    {truths : List (String × Bool)} {start length : Nat} {frame : ImportFrame} {set : ImportSet}
    (htext : g.repository.textOf d t.template = .ok text)
    (hbuiltin : t.template.builtinText? = some text)
    (hframe : importFrame? truths start length text.toList = some frame)
    (hmet : t.template.signature.Met t.context.values)
    (htruths : ∀ entry ∈ truths,
      ((t.context.values.get? entry.1).getD .null).isTruthy = entry.2)
    (himports : t.context.get? "imports" = some (.texts set.quoted)) :
    ∃ rest : List Char, (frame.isWhole = true → rest = []) ∧
      g.content t d = .ok (String.ofList (frame.front.seen (.ofContext t.context.values) ++
        ((ofLines (set.paths.map importLine)).toList ++
          (frame.back.seen (.ofContext t.context.values) ++ rest)))) := by
  obtain ⟨nodes, hnodes, hframe⟩ := Option.bind_eq_some_iff.mp hframe
  split at hframe
  · next item container body hpassage =>
    obtain ⟨⟨hitem, hcontainer, hbody⟩, hsketches⟩ := Option.ite_none_right_eq_some.mp hframe
    obtain ⟨front, hfront, hsketches⟩ := Option.bind_eq_some_iff.mp hsketches
    obtain ⟨back, hback, hsketches⟩ := Option.bind_eq_some_iff.mp hsketches
    obtain rfl := Option.some.inj hsketches
    subst hitem
    have hview : View.ofContext t.context.values "imports" = .texts set.quoted := by
      rw [View.ofContext, Context.get?_values, himports]
      rfl
    refine ⟨nodesSay (nodes.drop (start + 1 + length)) (.ofContext t.context.values), ?_, ?_⟩
    · intro hwhole
      rw [List.isEmpty_iff.mp hwhole, nodesSay]
    · -- behind the loop stand the sketched nodes and the rest, which nothing is known of
      have hbehind : nodesSay (nodes.drop (start + 1)) (.ofContext t.context.values) =
          back.seen (.ofContext t.context.values) ++
            nodesSay (nodes.drop (start + 1 + length)) (.ofContext t.context.values) := by
        rw [← nodesSay_of_sketch? htruths _ hback, ← nodesSay_append, passageOf_append_drop]
      rw [content_of_nodes htext hbuiltin hnodes hmet, nodesSay_cut start 1, hpassage,
        nodesSay_of_sketch? htruths _ hfront, nodesSay_imports hcontainer hbody hview, hbehind]
  · exact absurd hframe nofun

end Scaffold
