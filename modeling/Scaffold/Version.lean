import Scaffold.Text.Blank
import Scaffold.Text.Cut
import Scaffold.Text.LetterCase

/-!
# Versions

A version is a list of numbers between points. Versions compare number by
number, the shorter one filled up with zeros; a malformed version is greater
than nothing and less than nothing.
-/

namespace Scaffold

open Text

namespace Version

/-- The version of this tool, which also names the directory of custom templates. -/
def tool : String := "1.2.0"

/-- Handlers import the response helpers in their template from the first
version after this one on. -/
def httpxInTemplateSince : String := "1.1.10"

/-- The largest number that a segment may write. -/
def segmentLimit : Nat := 0xffffffffffffffff

def parseSegment? (cs : List Char) : Option Nat :=
  if cs.isEmpty || !cs.all isAsciiDigit then none
  else if digitsValue cs ≤ segmentLimit then some (digitsValue cs)
  else none

/-- The numbers of a version, blanks at its ends aside. -/
def parse? (version : String) : Option (List Nat) :=
  (splitCharsWhere (· == '.') (trimChars version.toList)).mapM parseSegment?

/-- Whether the first list is greater, missing numbers counting as zero. -/
def segmentsGreater : List Nat → List Nat → Bool
  | [], _ => false
  | a :: as, [] => 0 < a || segmentsGreater as []
  | a :: as, b :: bs => b < a || (a == b && segmentsGreater as bs)

/-- Whether `current` is greater than `threshold`; false when either is malformed. -/
def isGreater (current threshold : String) : Bool :=
  match parse? current, parse? threshold with
  | some a, some b => segmentsGreater a b
  | _, _ => false

end Version

/-- The switches of generated code that depend on the version it targets. -/
structure VersionGate where
  current : String := Version.tool
  deriving DecidableEq, Repr

def VersionGate.isGreaterThan (gate : VersionGate) (threshold : String) : Bool :=
  Version.isGreater gate.current threshold

/-- Whether handlers import the response helpers in their template. -/
def VersionGate.httpxInTemplate (gate : VersionGate) : Bool :=
  gate.isGreaterThan Version.httpxInTemplateSince

end Scaffold
