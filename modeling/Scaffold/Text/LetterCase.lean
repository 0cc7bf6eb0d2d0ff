import Scaffold.Text.Digit
import Scaffold.Text.LetterTable

/-!
# Letter case

Case properties and case conversion for all of Unicode. A single character
converts to a list of characters, because some characters have no one-character
form in the other case. A whole text converts character by character, except
that a capital sigma at the end of a word becomes the final small sigma.
-/

namespace Scaffold.Text

/-! ## Looking up runs -/

def inRun (n : Nat) : Nat × Nat × Nat → Bool
  | (first, last, step) => first ≤ n && n ≤ last && (n - first) % step == 0

def inRuns (runs : List (Nat × Nat × Nat)) (n : Nat) : Bool := runs.any (inRun n)

/-- The shift that the runs give to `n`, zero where no run holds it. -/
def shiftOf : List (Nat × Nat × Nat × Int) → Nat → Int
  | [], _ => 0
  | (first, last, step, shift) :: runs, n =>
    if inRun n (first, last, step) then shift else shiftOf runs n

/-! ## Properties of characters -/

def isLower (c : Char) : Bool :=
  if c.toNat < 0x80 then c.isLower else inRuns LetterTable.lowercase c.toNat

def isUpper (c : Char) : Bool :=
  if c.toNat < 0x80 then c.isUpper else inRuns LetterTable.uppercase c.toNat

def isCased (c : Char) : Bool :=
  isLower c || isUpper c || inRuns LetterTable.titlecase c.toNat

def isCaseIgnorable (c : Char) : Bool := inRuns LetterTable.caseIgnorable c.toNat

/-! ## Conversion of characters -/

def convertWith (runs : List (Nat × Nat × Nat × Int)) (long : List (Nat × List Nat))
    (c : Char) : List Char :=
  match long.lookup c.toNat with
  | some codes => codes.map Char.ofNat
  | none => [Char.ofNat ((c.toNat : Int) + shiftOf runs c.toNat).toNat]

def lowerChar (c : Char) : List Char :=
  if c.toNat < 0x80 then [c.toLower]
  else convertWith LetterTable.toLower LetterTable.toLowerLong c

def upperChar (c : Char) : List Char :=
  if c.toNat < 0x80 then [c.toUpper]
  else convertWith LetterTable.toUpper LetterTable.toUpperLong c

/-! ## Conversion of texts -/

/-- Whether the first character that is not case-ignorable is a letter with case. -/
def meetsCased : List Char → Bool
  | [] => false
  | c :: cs => if isCaseIgnorable c then meetsCased cs else isCased c

/-- A capital sigma ends a word when a cased letter stands before it and none
after it, case-ignorable characters aside. -/
def lowerChars (before : List Char) : List Char → List Char
  | [] => []
  | c :: cs =>
    let low :=
      if c = 'Σ' then
        if meetsCased before && !meetsCased cs then ['ς'] else ['σ']
      else lowerChar c
    low ++ lowerChars (c :: before) cs

def toLower (s : String) : String := String.ofList (lowerChars [] s.toList)

def toUpper (s : String) : String := String.ofList (s.toList.flatMap upperChar)

/-- Capitalizes the first character and leaves the rest as it is. -/
def titleChars : List Char → List Char
  | [] => []
  | c :: cs => upperChar c ++ cs

/-- Turns the first character to lower case and leaves the rest as it is. -/
def untitleChars : List Char → List Char
  | [] => []
  | c :: cs => lowerChar c ++ cs

def title (s : String) : String := String.ofList (titleChars s.toList)

def untitle (s : String) : String := String.ofList (untitleChars s.toList)

/-! ## ASCII classes -/

def isAscii (s : String) : Bool := s.toList.all (·.toNat < 0x80)

end Scaffold.Text
