import Scaffold.Text.Cut
import Scaffold.Text.Digit

/-!
# Sets of code points

A set of code points is a list of runs in rising order. Surrogates belong to no
set, because no text holds one. Tables write runs in hexadecimal: a lone code
point, `first-last`, or `first-last/step` for every `step`-th code point.
-/

namespace Scaffold.Text

/-- A set of code points, as runs from a first to a last one. -/
structure CodeSet where
  runs : List (Nat × Nat)
  deriving DecidableEq, Repr, Inhabited

namespace CodeSet

def has (set : CodeSet) (n : Nat) : Bool :=
  set.runs.any fun (first, last) => first ≤ n && n ≤ last

def empty : CodeSet := ⟨[]⟩

def isEmpty (set : CodeSet) : Bool := set.runs.isEmpty

/-- Runs in rising order with those joined that touch or overlap. -/
def joined : List (Nat × Nat) → List (Nat × Nat)
  | [] => []
  | run :: runs => go run runs
where
  go (run : Nat × Nat) : List (Nat × Nat) → List (Nat × Nat)
    | [] => [run]
    | next :: runs =>
      if next.1 ≤ run.2 + 1 then go (run.1, max run.2 next.2) runs else run :: go next runs

/-- The set of some runs in any order. -/
def ofRuns (runs : List (Nat × Nat)) : CodeSet :=
  ⟨joined (runs.mergeSort fun a b => a.1 ≤ b.1)⟩

/-- The code points from `first` to `last`, without the surrogates between them. -/
def range (first last : Nat) : CodeSet :=
  ⟨[(first, min last 0xd7ff), (max first 0xe000, last)].filter fun run => run.1 ≤ run.2⟩

def single (n : Nat) : CodeSet := ⟨[(n, n)]⟩

/-- The only code point of a set that has one. -/
def single? (set : CodeSet) : Option Nat :=
  match set.runs with
  | [(first, last)] => if first = last then some first else none
  | _ => none

def union (a b : CodeSet) : CodeSet := ofRuns (a.runs ++ b.runs)

def unions (sets : List CodeSet) : CodeSet := ofRuns (sets.flatMap runs)

/-- The gaps before, between and behind runs in rising order, from `start` on. -/
def gaps (start : Nat) : List (Nat × Nat) → List (Nat × Nat)
  | [] => if start ≤ 0x10ffff then [(start, 0x10ffff)] else []
  | (first, last) :: runs =>
    if start < first then (start, first - 1) :: gaps (last + 1) runs else gaps (last + 1) runs

/-- All other code points. -/
def complement (set : CodeSet) : CodeSet :=
  ⟨gaps 0 (ofRuns ((0xd800, 0xdfff) :: set.runs)).runs⟩

def all : CodeSet := complement empty

def inter (a b : CodeSet) : CodeSet := complement (union (complement a) (complement b))

def diff (a b : CodeSet) : CodeSet := inter a (complement b)

/-- The code points of one set but not of both. -/
def symmDiff (a b : CodeSet) : CodeSet := union (diff a b) (diff b a)

/-- Whether no code point is beyond ASCII. -/
def isAscii (set : CodeSet) : Bool := set.runs.all (·.2 < 0x80)

/-! ## Reading tables -/

/-- The runs that one word of a table writes. -/
def runsOfWord (word : String) : List (Nat × Nat) :=
  let code (s : String) : Nat := (hexValue? s.toList).getD 0
  match splitOn '-' word with
  | [one] => [(code one, code one)]
  | [first, last] =>
    match splitOn '/' last with
    | [last, step] =>
      let count := (code last - code first) / code step
      (List.range (count + 1)).map fun i => (code first + i * code step, code first + i * code step)
    | _ => [(code first, code last)]
  | _ => []

/-- The set that the lines of a table write. -/
def ofLines (lines : List String) : CodeSet :=
  ofRuns (lines.flatMap fun line => (splitOn ' ' line).flatMap runsOfWord)

end CodeSet

end Scaffold.Text
