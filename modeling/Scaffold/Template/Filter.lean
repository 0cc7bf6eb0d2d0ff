import Scaffold.Template.Fault
import Scaffold.Text.Cluster
import Scaffold.Text.Blank
import Scaffold.Text.Property
import Scaffold.Value.Dotted

/-!
# Filters

A filter makes a value of a value and named arguments. Filters on texts refuse
every other value, filters on lists refuse all but lists, and an argument of the
wrong type is refused even where the default would do.
-/

namespace Scaffold.Template

open Text

/-- Arguments that were evaluated. -/
abbrev Args := List (String × Value)

abbrev Filter := Value → Args → Except Fault Value

namespace Filter

/-! ## Arguments -/

/-- The argument as `read` takes it, if it is given. -/
def argument {α : Type} (filter name expected : String) (read : Value → Option α) (args : Args) :
    Except Fault (Option α) :=
  match args.lookup name with
  | none => .ok none
  | some v =>
    match read v with
    | some a => .ok (some a)
    | none => .error (.wrongArgument .filter filter name v expected)

def required {α : Type} (filter name expected : String) (read : Value → Option α) (args : Args) :
    Except Fault α := do
  match ← argument filter name expected read args with
  | some a => .ok a
  | none => .error (.missingArgument .filter filter name)

def optional {α : Type} (filter name expected : String) (read : Value → Option α) (default : α)
    (args : Args) : Except Fault α := do
  return (← argument filter name expected read args).getD default

def asText : Value → Option String
  | .text s => some s
  | _ => none

def asBool : Value → Option Bool
  | .bool b => some b
  | _ => none

/-- A whole number that is not negative. -/
def asNatural : Value → Option Nat
  | .int n => if 0 ≤ n then some n.toNat else none
  | _ => none

/-- A base of 32 bits. -/
def asBase (v : Value) : Option Nat := (asNatural v).filter (· < 0x100000000)

/-- A whole number of the signed range. -/
def asSigned : Value → Option Int
  | .int n => if n ≤ Value.signedMax then some n else none
  | _ => none

/-! ## Kinds of filters -/

/-- A filter on texts. -/
def onText (name : String) (f : String → Args → Except Fault Value) : Filter := fun v args =>
  match v with
  | .text s => f s args
  | v => .error (.wrongValue name v "a text")

def onTextAlone (name : String) (f : String → Value) : Filter :=
  onText name fun s _ => .ok (f s)

/-- A filter on lists. -/
def onList (name : String) (f : List Value → Args → Except Fault Value) : Filter := fun v args =>
  match v with
  | .list items => f items args
  | v => .error (.wrongValue name v "a list")

/-- Turns a backslash with the letter n or t into the character that it stands for. -/
def unescape (s : String) : String := replace "\\t" "\t" (replace "\\n" "\n" s)

/-! ## Texts -/

def capitalize (s : String) : String :=
  match s.toList with
  | [] => ""
  | c :: cs => String.ofList (upperChar c) ++ toLower (String.ofList cs)

def isTitleChar (c : Char) : Bool := isWordChar c || c = '\''

/-- Whether a word starts or ends between two characters. -/
def isEdge (before after : Option Char) : Bool :=
  (before.map isWordChar).getD false != (after.map isWordChar).getD false

/-- The number of characters of the longest word that starts here and ends at
an edge; `n` characters can belong to it. -/
def titleLength (cs : List Char) : Nat → Nat
  | 0 => 0
  | n + 1 => if isEdge cs[n]? cs[n + 1]? then n + 1 else titleLength cs n

/-- Capitalizes every word; an apostrophe can stand inside a word. -/
def titleWords : Nat → Option Char → List Char → List Char
  | 0, _, cs => cs
  | _ + 1, _, [] => []
  | fuel + 1, before, c :: cs =>
    let run := ((c :: cs).takeWhile isTitleChar).length
    let n := if isEdge before (some c) then titleLength (c :: cs) run else 0
    if n = 0 then c :: titleWords fuel (some c) cs
    else
      upperChar c ++ lowerChars [] (cs.take (n - 1)) ++
        titleWords fuel (c :: cs)[n - 1]? ((c :: cs).drop n)

def truncate (s : String) (args : Args) : Except Fault Value := do
  let length ← optional "truncate" "length" "a whole number" asNatural 255 args
  let ending ← optional "truncate" "end" "a text" asText "…" args
  let parts := clusters s
  if parts.length ≤ length then return .text s
  return .text (String.join (parts.take length) ++ ending)

/-- Puts a backslash before backslashes and quotes. -/
def addSlashes (s : String) : String :=
  String.ofList (s.toList.flatMap fun c =>
    if c = '\\' || c = '"' || c = '\'' then ['\\', c] else [c])

/-- Writes the characters that markup gives a meaning to as entities. -/
def escapeMarkup (s : String) : String :=
  String.join (s.toList.map fun c =>
    if c = '&' then "&amp;" else if c = '<' then "&lt;" else if c = '>' then "&gt;"
    else if c = '"' then "&quot;" else if c = '\'' then "&#x27;"
    else if c = '/' then "&#x2F;" else String.singleton c)

/-- The same for the characters that are special in documents of markup. -/
def escapeDocument (s : String) : String :=
  String.join (s.toList.map fun c =>
    if c = '&' then "&amp;" else if c = '<' then "&lt;" else if c = '>' then "&gt;"
    else if c = '"' then "&quot;" else if c = '\'' then "&apos;" else String.singleton c)

/-- What stands behind the first end of a comment on the line. -/
def behindComment : List Char → Option (List Char)
  | [] => none
  | '-' :: '-' :: '>' :: cs => some cs
  | c :: cs => if c = '\n' then none else behindComment cs

/-- What stands behind the first closing bracket. -/
def behindBracket : List Char → Option (List Char)
  | [] => none
  | c :: cs => if c = '>' then some cs else behindBracket cs

/-- What stands behind a tag or comment whose opening bracket was read. -/
def behindTag (cs : List Char) : Option (List Char) :=
  ((stripPrefixChars "!--".toList cs).bind behindComment).or (behindBracket cs)

/-- Leaves tags and comments out. An opening bracket that nothing closes stays. -/
def stripTags : Nat → List Char → List Char
  | 0, cs => cs
  | _ + 1, [] => []
  | fuel + 1, c :: cs =>
    match if c = '<' then behindTag cs else none with
    | some rest => stripTags fuel rest
    | none => c :: stripTags fuel cs

/-- Leaves the blanks between two tags out. -/
def joinTags : List Char → List Char
  | [] => []
  | c :: cs =>
    if c = '>' && (cs.dropWhile isBlank).head? = some '<' then
      c :: joinTags (cs.dropWhile isBlank)
    else c :: joinTags cs
termination_by cs => cs.length
decreasing_by
  · exact Nat.lt_succ_of_le (List.dropWhile_suffix _).length_le
  · exact Nat.lt_succ_self _

def indent (s : String) (args : Args) : Except Fault Value := do
  let space ← optional "indent" "prefix" "a text" asText "    " args
  let first ← optional "indent" "first" "a truth value" asBool false args
  let blank ← optional "indent" "blank" "a truth value" asBool false args
  let later (line : String) : String :=
    if blank || trimStart line != "" then space ++ line else line
  match lines s with
  | [] => return .text ""
  | line :: more =>
    let line := if first then space ++ line else line
    return .text (String.intercalate "\n" (line :: more.map later))

def trimCopies (name : String) (trim : String → String → String) (s : String) (args : Args) :
    Except Fault Value := do
  let pat ← required name "pat" "a text" asText args
  return .text (trim (unescape pat) s)

def replaceText (s : String) (args : Args) : Except Fault Value := do
  let from_ ← required "replace" "from" "a text" asText args
  let to_ ← required "replace" "to" "a text" asText args
  return .text (replace from_ to_ s)

def split (s : String) (args : Args) : Except Fault Value := do
  let pat ← required "split" "pat" "a text" asText args
  return .texts (splitText (unescape pat) s)

/-! ## Numbers -/

/-- The digit that a character is in a base. -/
def digitIn (base : Nat) (c : Char) : Option Nat :=
  let value :=
    if isAsciiDigit c then some (c.toNat - 48)
    else if 'a' ≤ c && c ≤ 'z' then some (c.toNat - 87)
    else if 'A' ≤ c && c ≤ 'Z' then some (c.toNat - 55)
    else none
  value.filter (· < base)

/-- A whole number of 64 bits in a base, with or without a sign. -/
def wholeIn (base : Nat) (s : String) : Option Int :=
  let (negative, digits) := match s.toList with
    | '-' :: rest => (true, rest)
    | '+' :: rest => (false, rest)
    | rest => (false, rest)
  if digits.isEmpty then none
  else
    match digits.foldlM (fun n c => (digitIn base c).map (base * n + ·)) 0 with
    | none => none
    | some n =>
      let n : Int := if negative then -(n : Int) else n
      if Value.intMin ≤ n && n ≤ Value.signedMax then some n else none

/-- A decimal number, with or without sign, point and exponent. -/
def numeral (s : String) : Option Binary64 :=
  let (negative, cs) := match s.toList with
    | '-' :: rest => (true, rest)
    | '+' :: rest => (false, rest)
    | rest => (false, rest)
  let whole := cs.takeWhile isAsciiDigit
  let (fraction, rest) := match cs.drop whole.length with
    | '.' :: cs =>
      let fraction := cs.takeWhile isAsciiDigit
      (fraction, cs.drop fraction.length)
    | rest => ([], rest)
  if whole.isEmpty && fraction.isEmpty then none
  else
    let exponent : Option Int :=
      match rest with
      | [] => some 0
      | e :: rest =>
        if e = 'e' || e = 'E' then
          let (negative, digits) := match rest with
            | '-' :: rest => (true, rest)
            | '+' :: rest => (false, rest)
            | rest => (false, rest)
          if digits.isEmpty || !digits.all isAsciiDigit then none
          else
            let n : Int := digitsValue digits
            some (if negative then -n else n)
        else none
    exponent.map fun e =>
      Binary64.ofDecimal negative (digitsValue (whole ++ fraction))
        (e - (fraction.length : Nat))

/-- A decimal number with a point. -/
def decimal (s : String) : Option Binary64 := if s.toList.contains '.' then numeral s else none

def int (v : Value) (args : Args) : Except Fault Value := do
  let default ← optional "int" "default" "a whole number" asSigned 0 args
  let base ← optional "int" "base" "a whole number" asBase 10 args
  match v with
  | .text s =>
    let s := trim s
    let s :=
      if base = 2 then trimStartCopies "0b" s
      else if base = 8 then trimStartCopies "0o" s
      else if base = 16 then trimStartCopies "0x" s
      else s
    match wholeIn base s with
    | some n => return .int n
    | none => return .int (((decimal s).map Binary64.truncate).getD default)
  | .int n => return .int (Binary64.ofInt n).truncate
  | .float x => return .int x.truncate
  | _ => throw (.other "Filter \x60int\x60 received an unexpected type")

/-- The words for what is no finite number. -/
def isNotFinite (s : String) : Bool :=
  let word := match s.toList with
    | '-' :: rest => rest
    | '+' :: rest => rest
    | rest => rest
  ["inf", "infinity", "nan"].contains (toLower (String.ofList word))

/-- A number as a value. There are no values for numbers that are not finite. -/
def numberOrNull (x : Binary64) : Value := if x.isFinite then .float x else .null

def float (v : Value) (args : Args) : Except Fault Value := do
  let default ← optional "float" "default" "a number" Value.toFloat? .zero args
  match v with
  | .text s =>
    if isNotFinite (trim s) then return .null
    else return numberOrNull ((numeral (trim s)).getD default)
  | .int n => return .float (.ofInt n)
  | .float x => return .float x
  | _ => throw (.other "Filter \x60float\x60 received an unexpected type")

/-- A whole number of 32 bits with a sign. -/
def asPrecision : Value → Option Int
  | .int n => if -0x80000000 ≤ n && n ≤ 0x7fffffff then some n else none
  | _ => none

/-- Rounds a number to a number of decimals, which can be negative. -/
def round (v : Value) (args : Args) : Except Fault Value := do
  match v.toFloat? with
  | none => throw (.wrongValue "round" v "a number")
  | some x =>
    let method ← optional "round" "method" "a text" asText "common" args
    let precision ← optional "round" "precision" "a whole number" asPrecision 0 args
    let scale := Binary64.powerOfTen precision
    let scaled := scale.mul x
    let rounded ←
      match method with
      | "common" => pure scaled.round
      | "ceil" => pure scaled.ceil
      | "floor" => pure scaled.floor
      | _ =>
        throw (.other ("Filter \x60round\x60 received an incorrect value for arg " ++
          "\x60method\x60: got \x60" ++ literal method ++
          "\x60, only common, ceil and floor are allowed"))
    return numberOrNull (rounded.div scale)

def abs (v : Value) (_ : Args) : Except Fault Value :=
  match v with
  | .int n => .ok (.int (if n = Value.intMin then n else n.natAbs))
  | .float x => .ok (.float x.abs)
  | _ => .error (.other "Filter \x60abs\x60 was used on a value that isn't a number.")

def pluralize (v : Value) (args : Args) : Except Fault Value := do
  match v.toFloat? with
  | none => throw (.wrongValue "pluralize" v "a number")
  | some x =>
    let plural ← optional "pluralize" "plural" "a text" asText "s" args
    let singular ← optional "pluralize" "singular" "a text" asText "" args
    let gap := (x.abs.sub (.ofInt 1)).abs
    return .text (if Binary64.less ⟨0x3cb0000000000000⟩ gap then plural else singular)

/-! ## Lists -/

/-- The item at a place, or the empty text. -/
def itemOr (items : List Value) (n : Nat) : Value := (items[n]?).getD (.text "")

def nth (items : List Value) (args : Args) : Except Fault Value := do
  if items.isEmpty then return .text ""
  return itemOr items (← required "nth" "n" "a whole number" asNatural args)

def join (items : List Value) (args : Args) : Except Fault Value := do
  let sep ← optional "join" "sep" "a text" asText "" args
  return .text (String.intercalate (unescape sep) (items.map Value.print))

def noField {α : Type} (field : String) : Except Fault α :=
  .error (.other ("attribute '" ++ field ++ "' does not reference a field"))

/-- What items are sorted by. All keys of one sorting have the same form. -/
inductive SortKey where
  | bool (b : Bool)
  | number (x : Binary64)
  | text (s : String)
  | length (n : Nat)

def SortKey.lessOrEqual : SortKey → SortKey → Bool
  | bool a, bool b => !a || b
  | number a, number b => a.rank ≤ b.rank
  | text a, text b => a ≤ b
  | length a, length b => a ≤ b
  | _, _ => true

/-- The key of a value among values like `first`. -/
def sortKey (first v : Value) : Except Fault SortKey :=
  match first, v with
  | .null, _ => .error (.other "Null is not a sortable value")
  | .object _, _ => .error (.other "Object is not a sortable value")
  | .bool _, .bool b => .ok (.bool b)
  | .bool _, v => .error (.other ("expected bool got " ++ v.shown))
  | .text _, .text s => .ok (.text s)
  | .text _, v => .error (.other ("expected string got " ++ v.shown))
  | .list _, .list items => .ok (.length items.length)
  | .list _, v => .error (.other ("expected array got " ++ v.shown))
  | .int _, v | .float _, v =>
    match v.toFloat? with
    | some x => .ok (.number x)
    | none => .error (.other ("expected number got " ++ v.shown))

/-- Sorts by the value at an attribute. Numbers compare by their rank as
floating-point numbers and lists by length; items with equal keys keep their
order. -/
def sort (items : List Value) (args : Args) : Except Fault Value := do
  match items with
  | [] => return .list []
  | head :: _ =>
    let field ← optional "sort" "attribute" "a text" asText "" args
    match head.at? field with
    | none => noField field
    | some first =>
      let keyed ← items.mapM fun item =>
        match item.at? field with
        | none => noField field
        | some v => (sortKey first v).map fun key => (key, item)
      return .list ((keyed.mergeSort fun a b => a.1.lessOrEqual b.1).map (·.2))

/-- The key by which equal items are recognized among items like `first`. -/
def uniqueKey (caseSensitive : Bool) (first v : Value) : Except Fault Value :=
  match first, v with
  | .bool _, .bool b => .ok (.bool b)
  | .int _, .int n =>
    if n ≤ Value.signedMax then .ok (.int n)
    else .error (.other ("expected integer got " ++ v.shown))
  | .int _, .float _ => .error (.other ("expected integer got " ++ v.shown))
  | .text _, .text s => .ok (.text (if caseSensitive then s else toLower s))
  | _, _ => .error (.other "unique filter can't compare multiple types")

def uniqueFrom (caseSensitive : Bool) (field : String) (first : Value) (seen : List Value) :
    List Value → Except Fault (List Value)
  | [] => .ok []
  | item :: items =>
    match item.at? field with
    | none => uniqueFrom caseSensitive field first seen items
    | some v => do
      let key ← uniqueKey caseSensitive first v
      if seen.any (·.same key) then uniqueFrom caseSensitive field first seen items
      else return item :: (← uniqueFrom caseSensitive field first (key :: seen) items)

/-- Drops items whose value at an attribute occurred before. -/
def unique (items : List Value) (args : Args) : Except Fault Value := do
  match items with
  | [] => return .list []
  | head :: _ =>
    let caseSensitive ← optional "unique" "case_sensitive" "a truth value" asBool false args
    let field ← optional "unique" "attribute" "a text" asText "" args
    match head.at? field with
    | none => noField field
    | some .null => throw (.other "Null is not a unique value")
    | some (.float _) => throw (.other "Unique floats are not implemented")
    | some (.list _) => throw (.other "Unique arrays are not implemented")
    | some (.object _) => throw (.other "Unique objects are not implemented")
    | some first => return .list (← uniqueFrom caseSensitive field first [] items)

/-- The place that a number names, counted from the end when it is negative. -/
def place (length : Nat) (x : Binary64) : Nat :=
  let x := if x.less .zero then (Binary64.ofInt length).add x else x
  x.truncate.toNat

def slice (items : List Value) (args : Args) : Except Fault Value := do
  if items.isEmpty then return .list []
  let start ← argument "slice" "start" "a number" Value.toFloat? args
  let stop ← argument "slice" "end" "a number" Value.toFloat? args
  let first := (start.map (place items.length)).getD 0
  let last := min ((stop.map (place items.length)).getD items.length) items.length
  return .list ((items.take last).drop first)

def concat (items : List Value) (args : Args) : Except Fault Value :=
  match args.lookup "with" with
  | none => .error (.missingArgument .filter "concat" "with")
  | some (.list more) => .ok (.list (items ++ more))
  | some v => .ok (.list (items ++ [v]))

def isNull : Value → Bool
  | .null => true
  | _ => false

/-- The values at an attribute, those of items without it left out. -/
def map (items : List Value) (args : Args) : Except Fault Value := do
  if items.isEmpty then return .list []
  let field ← required "map" "attribute" "a text" asText args
  return .list ((items.filterMap fun item => item.at? field).filter (!isNull ·))

/-- The items whose attribute has a value, or the given one. -/
def filter (items : List Value) (args : Args) : Except Fault Value := do
  if items.isEmpty then return .list []
  let field ← required "filter" "attribute" "a text" asText args
  let wanted := (args.lookup "value").getD .null
  return .list (items.filter fun item =>
    let v := (item.at? field).getD .null
    if isNull wanted then !isNull v else v.same wanted)

/-- What an item is grouped under: the text at an attribute, or the text that shows
another value. -/
def groupKey (field : String) (item : Value) : Option String :=
  match item.at? field with
  | none | some .null => none
  | some (.text s) => some s
  | some v => some v.shown

/-- The items under their keys, those without a key left out. -/
def groups (field : String) (items : List Value) : List (String × Value) :=
  let keyed := items.filterMap fun item => (groupKey field item).map (·, item)
  keyed.map fun (key, _) => (key, .list ((keyed.filter (·.1 == key)).map (·.2)))

def groupBy (items : List Value) (args : Args) : Except Fault Value := do
  if items.isEmpty then return .object []
  match ← argument "group_by" "attribute" "a text" asText args with
  | some field => return .ofFields (groups field items)
  | none =>
    throw (.other ("The \x60group_by\x60 filter has to have an \x60attribute\x60 argument"))

/-! ## Several kinds of values -/

def length (v : Value) (_ : Args) : Except Fault Value :=
  match v with
  | .list items => .ok (.int items.length)
  | .object fields => .ok (.int fields.length)
  | .text s => .ok (.int s.toList.length)
  | _ => .error (.other ("Filter \x60length\x60 was used on a value that isn't an array, an " ++
      "object, or a string."))

def reverse (v : Value) (_ : Args) : Except Fault Value :=
  match v with
  | .list items => .ok (.list items.reverse)
  | .text s => .ok (.text (String.ofList s.toList.reverse))
  | v => .error (.wrongValue "reverse" v "a list or a text")

def get (v : Value) (args : Args) : Except Fault Value := do
  let key ← required "get" "key" "a text" asText args
  match v with
  | .object fields =>
    match fields.lookup key, args.lookup "default" with
    | some found, _ => return found
    | none, some default => return default
    | none, none => throw (.other ("Filter \x60get\x60 tried to get key \x60" ++ key ++
        "\x60 but it wasn't found"))
  | _ => throw (.other "Filter \x60get\x60 was used on a value that isn't an object")

/-- Writes a value as JSON, over many lines when asked; what is no truth value does not ask. -/
def jsonEncode (v : Value) (args : Args) : Except Fault Value :=
  let pretty := ((args.lookup "pretty").bind asBool).getD false
  .ok (.text (if pretty then v.toJson.pretty else v.toJson.compact))

/-! ## All filters -/

def all : List (String × Filter) :=
  [("upper", onTextAlone "upper" fun s => .text (toUpper s)),
    ("lower", onTextAlone "lower" fun s => .text (toLower s)),
    ("trim", onTextAlone "trim" fun s => .text (trim s)),
    ("trim_start", onTextAlone "trim_start" fun s => .text (trimStart s)),
    ("trim_end", onTextAlone "trim_end" fun s => .text (trimEnd s)),
    ("trim_start_matches",
      onText "trim_start_matches" (trimCopies "trim_start_matches" trimStartCopies)),
    ("trim_end_matches",
      onText "trim_end_matches" (trimCopies "trim_end_matches" trimEndCopies)),
    ("capitalize", onTextAlone "capitalize" fun s => .text (capitalize s)),
    ("title", onTextAlone "title" fun s =>
      .text (String.ofList (titleWords s.toList.length none s.toList))),
    ("truncate", onText "truncate" truncate),
    ("wordcount", onTextAlone "wordcount" fun s => .int (piecesWhere isBlank s).length),
    ("addslashes", onTextAlone "addslashes" fun s => .text (addSlashes s)),
    ("escape", onTextAlone "escape_html" fun s => .text (escapeMarkup s)),
    ("escape_xml", onTextAlone "escape_html" fun s => .text (escapeDocument s)),
    ("striptags", onTextAlone "striptags" fun s =>
      .text (String.ofList (stripTags s.toList.length s.toList))),
    ("spaceless", onTextAlone "spaceless" fun s => .text (String.ofList (joinTags s.toList))),
    ("linebreaksbr", onTextAlone "linebreaksbr" fun s =>
      .text (replace "\n" "<br>" (replace "\r\n" "<br>" s))),
    ("indent", onText "indent" indent),
    ("replace", onText "replace" replaceText),
    ("split", onText "split" split),
    ("int", int),
    ("float", float),
    ("round", round),
    ("abs", abs),
    ("pluralize", pluralize),
    ("first", onList "first" fun items _ => .ok (itemOr items 0)),
    ("last", onList "last" fun items _ => .ok (itemOr items (items.length - 1))),
    ("nth", onList "nth" nth),
    ("join", onList "join" join),
    ("sort", onList "sort" sort),
    ("unique", onList "unique" unique),
    ("slice", onList "slice" slice),
    ("concat", onList "concat" concat),
    ("map", onList "map" map),
    ("filter", onList "filter" filter),
    ("group_by", onList "group_by" groupBy),
    ("length", length),
    ("reverse", reverse),
    ("get", get),
    ("json_encode", jsonEncode),
    ("as_str", fun v _ => .ok (.text v.print))]

end Filter

/-- The filter of a name. -/
def filter? (name : String) : Option Filter := Filter.all.lookup name

end Scaffold.Template
