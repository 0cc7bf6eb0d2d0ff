import Scaffold.Text.Blank
import Scaffold.Text.LetterCase

/-!
# Names and naming styles

An identifier is a run of words; a naming style says how the words of a file
name are joined and cased. A style is written with the two markers `go` and
`zero`: the case of each marker is the case of the first word and of the other
words, and what stands between the markers separates the words.
-/

namespace Scaffold

open Text

/-! ## Words -/

/-- The characters that end a word and belong to none. -/
def isWordSeparator (c : Char) : Bool :=
  c = '_' || c = '-' || c = '.' || isBlank c

/-- Whether a word ends between `prev` and the upper-case character that
follows it: after a lower-case letter or a digit, and before the last capital
of an acronym when a lower-case letter follows that. -/
def breaksAfter (prev : Char) (next : Option Char) : Bool :=
  isLower prev || isAsciiDigit prev || (isUpper prev && next.any isLower)

/-- The words of an identifier, given the word read so far and the character
before. -/
def wordsFrom (current : List Char) (prev : Option Char) : List Char → List (List Char)
  | [] => if current.isEmpty then [] else [current]
  | c :: cs =>
    if isWordSeparator c then
      if current.isEmpty then wordsFrom [] (some c) cs
      else current :: wordsFrom [] (some c) cs
    else if isUpper c && !current.isEmpty && prev.any (breaksAfter · cs.head?) then
      current :: wordsFrom (lowerChar c) (some c) cs
    else
      wordsFrom (current ++ lowerChar c) (some c) cs

/-- The words of an identifier, in lower case. -/
def splitWords (identifier : String) : List String :=
  (wordsFrom [] none identifier.toList).map String.ofList

/-- The words of an identifier, each capitalized, without separators. -/
def camelCase (identifier : String) : String :=
  String.join ((splitWords identifier).map title)

/-! ## Styles -/

inductive WordCase where
  | lower
  | title
  | upper
  deriving DecidableEq, Repr

/-- The case that a marker shows: all lower case, all upper case, or lower case
after one capital. -/
def WordCase.ofMarker? : List Char → Option WordCase
  | [] => none
  | first :: rest =>
    if (first :: rest).all Char.isLower then some .lower
    else if (first :: rest).all Char.isUpper then some .upper
    else if first.isUpper && rest.all Char.isLower then some .title
    else none

def WordCase.apply : WordCase → String → String
  | .lower, word => toLower word
  | .upper, word => toUpper word
  | .title, word => Text.title (toLower word)

structure NamingStyle where
  /-- The text of the style. -/
  source : String
  /-- Copied in front of every name. -/
  lead : String
  first : WordCase
  separator : String
  rest : WordCase
  /-- Copied behind every name. -/
  tail : String
  deriving DecidableEq, Repr

/-- Where `marker` first occurs in `cs`, upper and lower case alike. -/
def markerIndex? (marker : List Char) : List Char → Option Nat
  | [] => none
  | c :: cs =>
    if ((c :: cs).take marker.length).map Char.toUpper = marker then some 0
    else (markerIndex? marker cs).map (· + 1)

/-- The style that a text writes. The markers count at their first places, so
`zero` must not begin before `go` has ended. -/
def NamingStyle.parse? (source : String) : Option NamingStyle :=
  let cs := source.toList
  if !isAscii source || cs.any (fun c => c = '/' || c = '\\') then none
  else
    match markerIndex? ['G', 'O'] cs, markerIndex? ['Z', 'E', 'R', 'O'] cs with
    | some goAt, some zeroAt =>
      if zeroAt < goAt + 2 then none
      else
        match WordCase.ofMarker? ((cs.drop goAt).take 2),
            WordCase.ofMarker? ((cs.drop zeroAt).take 4) with
        | some first, some rest =>
          some {
            source := source
            lead := String.ofList (cs.take goAt)
            first := first
            separator := String.ofList ((cs.drop (goAt + 2)).take (zeroAt - (goAt + 2)))
            rest := rest
            tail := String.ofList (cs.drop (zeroAt + 4)) }
        | _, _ => none
    | _, _ => none

/-- The words joined in lower case. -/
def NamingStyle.default : NamingStyle where
  source := "gozero"
  lead := ""
  first := .lower
  separator := ""
  rest := .lower
  tail := ""

instance : Inhabited NamingStyle := ⟨NamingStyle.default⟩

/-- The words of a name in a style, each cased and the later ones behind the
separator. -/
def NamingStyle.joined (style : NamingStyle) : List String → String
  | [] => ""
  | word :: words =>
    style.first.apply word ++
      String.join (words.map fun w => style.separator ++ style.rest.apply w)

/-- The file name, without extension, of an identifier. -/
def NamingStyle.format (style : NamingStyle) (identifier : String) : String :=
  style.lead ++ style.joined (splitWords identifier) ++ style.tail

end Scaffold
