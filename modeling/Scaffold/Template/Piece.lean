import Scaffold.Template.Grammar

/-!
# Pieces of a template

A template text is cut into pieces: text to copy, comments, sections to copy as
they stand, expressions to print, and tags. A dash inside a mark asks for the
blanks on that side of the piece to go.
-/

namespace Scaffold.Template

open Grammar

inductive Tag where
  | branch (condition : Expr)
  | orBranch (condition : Expr)
  | otherwise
  | endBranch
  | loop (key : Option String) (item : String) (container : Expr)
  | endLoop
  | assign (whole : Bool) (name : String) (value : Expr)
  | block (name : String)
  | endBlock
  | definition (name : String) (params : List (String × Option Operand))
  | endDefinition
  | filtered (filter : Call)
  | endFiltered
  | stop
  | skip
  | insert (names : List String) (optional : Bool)

inductive Content where
  | text (s : String)
  | comment
  /-- A section to copy, with the dashes on the inner sides of its two tags. -/
  | verbatim (dashBefore : Bool) (s : String) (dashAfter : Bool)
  | output (e : Expr)
  | tag (t : Tag)

/-- A piece with the dashes on its outer sides. -/
structure Piece where
  dashBefore : Bool
  content : Content
  dashAfter : Bool

namespace Piece

/-! ## Marks -/

/-- A mark that opens a piece, with or without a dash behind it. -/
def opening (mark : List Char) (cs : List Char) : Reading Bool :=
  match Text.stripPrefixChars mark cs with
  | some ('-' :: rest) => some (true, rest)
  | some rest => some (false, rest)
  | none => none

/-- A mark that closes a piece, with or without a dash before it. -/
def closing (mark : List Char) (cs : List Char) : Reading Bool :=
  match Text.stripPrefixChars ('-' :: mark) cs with
  | some rest => some (true, rest)
  | none => (Text.stripPrefixChars mark cs).map fun rest => (false, rest)

def outputStart : List Char := ['\x7b', '\x7b']
def outputEnd : List Char := ['\x7d', '\x7d']
def tagStart : List Char := ['\x7b', '%']
def tagEnd : List Char := ['%', '\x7d']
def commentStart : List Char := ['\x7b', '#']
def commentEnd : List Char := ['#', '\x7d']

def closesOutput (cs : List Char) : Reading Bool := closing outputEnd (skipSpace cs)

def closesTag (cs : List Char) : Reading Bool := closing tagEnd (skipSpace cs)

/-- Whether a piece other than text starts here. -/
def startsPiece : List Char → Bool
  | '\x7b' :: c :: _ => c = '\x7b' || c = '%' || c = '#'
  | _ => false

/-! ## Operands of tags -/

/-- The name of a tag and a blank behind it. -/
def keyword (word : String) (cs : List Char) : Option (List Char) :=
  match Text.stripPrefixChars word.toList cs with
  | some (c :: rest) => if isSpace c then some rest else none
  | _ => none

/-- A name, an equals sign and any expression. -/
def assignment (whole : Bool) (cs : List Char) : Reading Tag :=
  match name cs with
  | none => none
  | some (target, rest) =>
    match token "=" rest with
    | none => none
    | some rest => (anyExpr rest).map fun (value, rest) => (.assign whole target value, rest)

/-- One or two names, `in` between blanks, and what the loop runs over. -/
def loopHead (cs : List Char) : Reading Tag :=
  match name cs with
  | none => none
  | some (first, rest) =>
    let second : Reading String :=
      match rest with
      | ',' :: rest => name rest
      | _ => none
    let (names, rest) :=
      match second with
      | some (item, rest) => ((some first, item), rest)
      | none => ((none, first), rest)
    match rest with
    | [] => none
    | c :: _ =>
      if isSpace c then
        match spacedWord "in" rest with
        | none => none
        | some rest =>
          (loopContainer rest).map fun (e, rest) => (.loop names.1 names.2 e, rest)
      else none

/-- A parameter and the value it has when no argument is given. No blanks stand
around the sign between them. -/
def parameter (cs : List Char) : Reading (String × Option Operand) :=
  match name cs with
  | some (key, '=' :: after) =>
    match literalHere after with
    | some (value, rest) => some ((key, some value), rest)
    | none => some ((key, none), '=' :: after)
  | some (key, rest) => some ((key, none), rest)
  | none => none

/-- Parameters between commas; of two with one name the later counts. -/
def parameters : Nat → List Char → List (String × Option Operand) × List Char
  | 0, cs => ([], cs)
  | fuel + 1, cs =>
    match parameter cs with
    | none => ([], cs)
    | some (first, rest) =>
      match token "," rest with
      | none => ([first], rest)
      | some after =>
        match parameters fuel after with
        | ([], _) => ([first], rest)
        | (more, rest) =>
          (if more.any (·.1 == first.1) then more else first :: more, rest)

/-- A name and parameters in parentheses. -/
def definitionHead (cs : List Char) : Reading Tag :=
  match name cs with
  | none => none
  | some (target, rest) =>
    match token "(" rest with
    | none => none
    | some rest =>
      let (params, rest) := parameters (rest.length + 1) rest
      (token ")" rest).map fun rest => (.definition target params, rest)

/-- Quoted names between commas. -/
def quotedNames : Nat → List Char → List String × List Char
  | 0, cs => ([], cs)
  | fuel + 1, cs =>
    match quoted cs with
    | none => ([], cs)
    | some (first, rest) =>
      match token "," rest with
      | none => ([first], rest)
      | some after =>
        match quotedNames fuel after with
        | ([], _) => ([first], rest)
        | (more, rest) => (first :: more, rest)

/-- A quoted name or a list of them, and `ignore missing` or nothing. -/
def insertion (cs : List Char) : Reading Tag :=
  let names : Reading (List String) :=
    match quoted cs with
    | some (one, rest) => some ([one], rest)
    | none =>
      match token "[" cs with
      | none => none
      | some rest =>
        let (names, rest) := quotedNames (rest.length + 1) rest
        let rest := if names.isEmpty then rest else (token "," rest).getD rest
        (token "]" rest).map fun rest => (names, rest)
  match names with
  | none => none
  | some (names, rest) =>
    match (token "ignore" rest).bind (token "missing") with
    | some after => some (.insert names true, after)
    | none => some (.insert names false, rest)

/-- An end tag may repeat a name. -/
def optionalName (cs : List Char) : List Char :=
  match name cs with
  | some (_, rest) => rest
  | none => cs

/-- The tags that are one word. -/
def plainTags : List (String × Tag) :=
  [("else", .otherwise), ("endif", .endBranch), ("endfor", .endLoop),
    ("endfilter", .endFiltered), ("break", .stop), ("continue", .skip)]

/-- The tags whose word a blank and operands follow. -/
def operandTags : List (String × (List Char → Reading Tag)) :=
  [("if", fun cs => (condition cs).map fun (e, rest) => (.branch e, rest)),
    ("elif", fun cs => (condition cs).map fun (e, rest) => (.orBranch e, rest)),
    ("for", loopHead),
    ("set", assignment false),
    ("set_global", assignment true),
    ("block", fun cs => (name cs).map fun (target, rest) => (.block target, rest)),
    ("macro", definitionHead),
    ("filter", fun cs => (sectionFilter cs).map fun (f, rest) => (.filtered f, rest)),
    ("include", insertion)]

/-- The tag that starts with the first word of the list that leads to one with
its closing mark, and whether a dash stands in that mark. -/
def firstTag (readers : List (List Char → Reading Tag)) (cs : List Char) :
    Reading (Tag × Bool) :=
  readers.findSome? fun reader =>
    match reader cs with
    | none => none
    | some (tag, rest) => (closesTag rest).map fun (dash, rest) => ((tag, dash), rest)

def tagReaders : List (List Char → Reading Tag) :=
  operandTags.map (fun (word, reader) => fun cs => (keyword word cs).bind reader) ++
    plainTags.map (fun (word, tag) => fun cs =>
      (Text.stripPrefixChars word.toList cs).map fun rest => (tag, rest)) ++
    [fun cs => (Text.stripPrefixChars "endblock".toList cs).map fun rest =>
        (.endBlock, optionalName rest),
      fun cs => (Text.stripPrefixChars "endmacro".toList cs).map fun rest =>
        (.endDefinition, optionalName rest)]

/-! ## Pieces -/

/-- The rest behind a comment of which at least one character was read. -/
def comment : List Char → Reading Bool
  | [] => none
  | c :: cs =>
    match closing commentEnd (c :: cs) with
    | some found => some found
    | none => comment cs

/-- The rest behind a comment whose start was read. A comment is never empty. -/
def commentBody (cs : List Char) : Reading Bool :=
  match closing commentEnd cs with
  | some _ => none
  | none => comment cs

/-- A tag that holds one word and nothing else, from its start mark on. -/
def wordTag (word : String) (cs : List Char) : Reading (Bool × Bool) :=
  match opening tagStart cs with
  | none => none
  | some (before, rest) =>
    match token word rest with
    | none => none
    | some rest => (closesTag rest).map fun (after, rest) => ((before, after), rest)

/-- The characters before the tag that ends a section to copy, the dashes of
that tag, and the rest. -/
def verbatim : List Char → Reading (List Char × Bool × Bool)
  | [] => none
  | c :: cs =>
    match wordTag "endraw" (c :: cs) with
    | some ((before, after), rest) => some (([], before, after), rest)
    | none =>
      match verbatim cs with
      | some ((copied, dashes), rest) => some ((c :: copied, dashes), rest)
      | none => none

/-- The characters before the next piece that is not text, and the rest. -/
def text : List Char → List Char × List Char
  | [] => ([], [])
  | c :: cs =>
    if startsPiece (c :: cs) then ([], c :: cs)
    else
      let (copied, rest) := text cs
      (c :: copied, rest)

/-- The first piece and the rest. -/
def first? (cs : List Char) : Reading Piece :=
  match opening outputStart cs with
  | some (before, rest) =>
    match anyExpr rest with
    | none => none
    | some (e, rest) =>
      (closesOutput rest).map fun (after, rest) => (⟨before, .output e, after⟩, rest)
  | none =>
    match opening commentStart cs with
    | some (before, rest) =>
      (commentBody rest).map fun (after, rest) => (⟨before, .comment, after⟩, rest)
    | none =>
      match wordTag "raw" cs with
      | some ((before, innerBefore), rest) =>
        (verbatim rest).map fun ((copied, innerAfter, after), rest) =>
          (⟨before, .verbatim innerBefore (String.ofList copied) innerAfter, after⟩, rest)
      | none =>
        match opening tagStart cs with
        | some (before, rest) =>
          (firstTag tagReaders (skipSpace rest)).map fun ((tag, after), rest) =>
            (⟨before, .tag tag, after⟩, rest)
        | none =>
          match text cs with
          | ([], _) => none
          | (copied, rest) => some (⟨false, .text (String.ofList copied), false⟩, rest)

/-! ## The start of a template -/

/-- What stands behind the comments at the very start. Their dashes do not count. -/
def skipComments : Nat → List Char → List Char
  | 0, cs => cs
  | fuel + 1, cs =>
    match opening commentStart cs with
    | none => cs
    | some (_, rest) =>
      match commentBody rest with
      | some (_, rest) => skipComments fuel rest
      | none => cs

/-- A tag that asks for the definitions of a template under a name, with the
blanks around it. -/
def importTag (cs : List Char) : Reading String :=
  match opening tagStart (skipSpace cs) with
  | none => none
  | some (_, rest) =>
    match (keyword "import" (skipSpace rest)).bind quoted with
    | none => none
    | some (_, []) => none
    | some (file, c :: rest) =>
      if isSpace c then
        match (spacedWord "as" rest).bind name with
        | none => none
        | some (_, rest) => (closesTag rest).map fun (_, rest) => (file, skipSpace rest)
      else none

/-- The templates that the tags at the start ask for, and the rest. -/
def importTags : Nat → List Char → List String × List Char
  | 0, cs => ([], cs)
  | fuel + 1, cs =>
    match importTag cs with
    | none => ([], cs)
    | some (file, rest) =>
      let (files, rest) := importTags fuel rest
      (file :: files, rest)

/-- The templates that a text imports and its pieces, or nothing when some tag
or expression cannot be read. -/
def all? (s : String) : Option (List String × List Piece) :=
  let cs := skipComments s.toList.length s.toList
  let (imports, cs) := importTags cs.length cs
  (go cs.length cs).map fun pieces => (imports, pieces)
where
  go : Nat → List Char → Option (List Piece)
    | _, [] => some []
    | 0, _ => none
    | fuel + 1, cs =>
      match first? cs with
      | none => none
      | some (piece, rest) => (go fuel rest).map (piece :: ·)

end Piece

end Scaffold.Template
