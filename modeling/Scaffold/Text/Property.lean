import Scaffold.Text.CodeSet
import Scaffold.Text.Property.AgeTable
import Scaffold.Text.Property.BreakTable
import Scaffold.Text.Property.CaseTable
import Scaffold.Text.Property.CategoryTable
import Scaffold.Text.Property.MarkTable
import Scaffold.Text.Property.ScriptTable

/-!
# Properties of characters

The sets of characters that the Unicode character database names: general
categories, scripts, ages, binary properties and the classes of the break
rules. Names are compared without regard to case, blanks, dashes, underscores
and a leading "is".
-/

namespace Scaffold.Text.Property

/-- A name in the form in which names are compared. -/
def plainName (name : String) : String :=
  let marked := (name.toList.take 2).map Char.toLower = ['i', 's']
  let cs := if marked then name.toList.drop 2 else name.toList
  let letters := (cs.filter fun c => c.toNat < 0x80 && !(c = ' ' || c = '_' || c = '-')).map
    Char.toLower
  -- The comment of a character is no category of its own.
  if marked && letters = ['c'] then "isc" else String.ofList letters

abbrev Table := List (List String × List String)

/-- The lines of the value that has a name in its plain form. -/
def lines? (table : Table) (name : String) : Option (List String) :=
  (table.find? fun (names, _) => names.any (plainName · == name)).map (·.2)

def value? (table : Table) (name : String) : Option CodeSet :=
  (lines? table name).map CodeSet.ofLines

/-! ## General categories -/

/-- The categories that consist of others. -/
def categoryGroups : List (List String × List String) := [
  (["LC", "Cased_Letter"], ["lu", "ll", "lt"]),
  (["L", "Letter"], ["lu", "ll", "lt", "lm", "lo"]),
  (["M", "Mark", "Combining_Mark"], ["mn", "mc", "me"]),
  (["N", "Number"], ["nd", "nl", "no"]),
  (["P", "Punctuation", "Punct"], ["pc", "pd", "ps", "pe", "pi", "pf", "po"]),
  (["S", "Symbol"], ["sm", "sc", "sk", "so"]),
  (["Z", "Separator"], ["zs", "zl", "zp"])]

def assigned : CodeSet := CodeSet.ofLines (categories.flatMap (·.2))

def category? (name : String) : Option CodeSet :=
  match lines? categoryGroups name with
  | some parts => some (CodeSet.unions (parts.filterMap (value? categories)))
  | none =>
    match name with
    | "any" => some CodeSet.all
    | "ascii" => some (CodeSet.range 0 0x7f)
    | "assigned" => some assigned
    | "cn" | "unassigned" => some assigned.complement
    | "c" | "other" =>
      some (CodeSet.unions (assigned.complement :: ["cc", "cf", "co"].filterMap (value? categories)))
    | name => value? categories name

/-! ## Binary properties -/

/-- How a property follows from others: from all of `parts`, by their plain
names, and the code points of `more`, without those of `less` and `gone`. -/
structure Rule where
  names : List String
  parts : List String
  more : List String
  less : List String
  gone : List String

def rules : List Rule := [
  ⟨["Alphabetic", "Alpha"], ["l", "nl", "otheralphabetic"], [], [], []⟩,
  ⟨["Lowercase", "Lower"], ["ll", "otherlowercase"], [], [], []⟩,
  ⟨["Uppercase", "Upper"], ["lu", "otheruppercase"], [], [], []⟩,
  ⟨["Math"], ["sm", "othermath"], [], [], []⟩,
  ⟨["Cased"], ["lc", "otherlowercase", "otheruppercase"], [], [], []⟩,
  ⟨["Case_Ignorable", "CI"], ["mn", "me", "cf", "lm", "sk"],
    ["27 2e 3a b7 387 55f 5f4 2018-2019 2024 2027 fe13 fe52 fe55 ff07 ff0e ff1a"], [], []⟩,
  ⟨["Changes_When_Casemapped", "CWCM"], ["cwl", "cwt", "cwu"], [], [], []⟩,
  ⟨["ID_Start", "IDS"], ["l", "nl", "otheridstart"], [],
    ["patternsyntax", "patternwhitespace"], []⟩,
  ⟨["ID_Continue", "IDC"], ["l", "nl", "otheridstart", "mn", "mc", "nd", "pc", "otheridcontinue"],
    [], ["patternsyntax", "patternwhitespace"], []⟩,
  ⟨["XID_Start", "XIDS"], ["l", "nl", "otheridstart"], [],
    ["patternsyntax", "patternwhitespace"],
    ["37a e33 eb3 309b-309c fc5e-fc63 fdfa-fdfb fe70-fe7e/2 ff9e-ff9f"]⟩,
  ⟨["XID_Continue", "XIDC"],
    ["l", "nl", "otheridstart", "mn", "mc", "nd", "pc", "otheridcontinue"], [],
    ["patternsyntax", "patternwhitespace"],
    ["37a 309b-309c fc5e-fc63 fdfa-fdfb fe70-fe7e/2"]⟩,
  ⟨["Default_Ignorable_Code_Point", "DI"],
    ["otherdefaultignorablecodepoint", "cf", "variationselector"], [],
    ["whitespace", "prependedconcatenationmark"], ["fff9-fffb 13430-1343f"]⟩,
  ⟨["Grapheme_Extend", "Gr_Ext"], ["me", "mn", "othergraphemeextend"], [], [], []⟩,
  ⟨["Grapheme_Base", "Gr_Base"], ["l", "m", "n", "p", "s", "zs"], [],
    ["me", "mn", "othergraphemeextend"], []⟩]

/-- The set of a category or a property that stands for itself. -/
def part (name : String) : CodeSet :=
  ((value? marks name).orElse fun _ => category? name).getD CodeSet.empty

def Rule.set (r : Rule) : CodeSet :=
  CodeSet.diff (CodeSet.unions (CodeSet.ofLines r.more :: r.parts.map part))
    (CodeSet.unions (CodeSet.ofLines r.gone :: r.less.map part))

def binary? (name : String) : Option CodeSet :=
  match rules.find? fun r => r.names.any (plainName · == name) with
  | some r => some r.set
  | none => value? marks name

/-! ## Other properties -/

/-- The characters that a script uses, shared ones among them. -/
def scriptUse? (name : String) : Option CodeSet :=
  (value? scripts name).map fun own =>
    CodeSet.union (own.diff (CodeSet.ofLines (sharedBy.flatMap (·.2))))
      ((value? sharedBy name).getD CodeSet.empty)

/-- The characters assigned in a version or before it. -/
def age? (name : String) : Option CodeSet :=
  (ages.findIdx? fun (names, _) => names.any (plainName · == name)).map fun i =>
    CodeSet.ofLines ((ages.take (i + 1)).flatMap (·.2))

/-- The Hangul syllables with a final consonant are those between the ones without. -/
def clusterBreak? (name : String) : Option CodeSet :=
  if name = "lvt" then
    (value? clusterBreaks "lv").map (CodeSet.range 0xac00 0xd7a3).diff
  else value? clusterBreaks name

/-- The properties that have values. -/
def valued : List (List String × (String → Option CodeSet)) := [
  (["General_Category", "gc"], category?),
  (["Script", "sc"], value? scripts),
  (["Script_Extensions", "scx"], scriptUse?),
  (["Age"], age?),
  (["Grapheme_Cluster_Break", "GCB"], clusterBreak?),
  (["Word_Break", "WB"], value? wordBreaks),
  (["Sentence_Break", "SB"], value? sentenceBreaks)]

/-! ## Queries -/

/-- The set that a single name stands for: a property, a category or a script. -/
def named? (name : String) : Option CodeSet :=
  let name := plainName name
  -- Three short names of categories are also names of properties with values.
  let asProperty := if name ∈ ["cf", "sc", "lc"] then none else binary? name
  (asProperty.orElse fun _ => category? name).orElse fun _ => value? scripts name

/-- The set of the characters that have a value for a property. -/
def ofValue? (name value : String) : Option CodeSet :=
  (valued.find? fun (names, _) => names.any (plainName · == plainName name)).bind fun (_, sets) =>
    sets (plainName value)

/-! ## Words, digits and letter case -/

/-- The characters of words. -/
def words : CodeSet :=
  CodeSet.unions (["l", "nl", "otheralphabetic", "m", "nd", "pc", "joincontrol"].map part)

def digits : CodeSet := part "nd"

def blanks : CodeSet := part "whitespace"

def letters : CodeSet := CodeSet.unions (["l", "nl", "otheralphabetic"].map part)

def numbers : CodeSet := part "n"

/-- The orbits of more than one code point under simple case folding. -/
def orbits : List (List Nat) :=
  caseOrbits.flatMap fun line =>
    (splitOn ' ' line).map fun word => (splitOn '=' word).filterMap (hexValue? ·.toList)

end Scaffold.Text.Property

namespace Scaffold.Text

/-- The set with every code point that differs from one of it in case only. -/
def CodeSet.folded (set : CodeSet) : CodeSet :=
  ofRuns (set.runs ++ ((Property.orbits.filter (·.any set.has)).flatten.map fun n => (n, n)))

/-- The set with both cases of its ASCII letters. -/
def CodeSet.foldedAscii (set : CodeSet) : CodeSet :=
  let letters := (List.range 26).filter fun i => set.has (0x41 + i) || set.has (0x61 + i)
  ofRuns (set.runs ++ letters.flatMap fun i => [(0x41 + i, 0x41 + i), (0x61 + i, 0x61 + i)])

/-- Whether a character can stand inside a word. -/
def isWordChar (c : Char) : Bool :=
  if c.toNat < 0x80 then c.isAlphanum || c = '_' else Property.words.has c.toNat

end Scaffold.Text
