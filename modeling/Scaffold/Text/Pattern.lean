import Scaffold.Text.Property

/-!
# Search patterns

Regular expressions over the characters of Unicode: sets of characters, groups,
choices, repetition and anchors, without references back and without looking
around. A pattern denotes, for a set of places in a text, the places where the
matches that start there can end; `found` asks whether any match exists.
-/

namespace Scaffold.Text

/-- What an anchor asks of the word characters before and behind its place. -/
inductive Boundary where
  | edge
  | noEdge
  | start
  | stop
  | noneBefore
  | noneBehind
  deriving DecidableEq, Repr

/-- A place in a text that holds or not, whatever the characters around match. -/
inductive Anchor where
  | textStart
  | textEnd
  /-- The start of a line; lines can also end in a carriage return. -/
  | lineStart (carriage : Bool)
  | lineEnd (carriage : Bool)
  /-- Words consist of all of Unicode's word characters, or of those of ASCII only. -/
  | word (boundary : Boundary) (wide : Bool)
  deriving DecidableEq, Repr

inductive Pattern where
  | empty
  | one (set : CodeSet)
  | anchor (kind : Anchor)
  | seq (a b : Pattern)
  | alt (a b : Pattern)
  /-- From `least` to `most` copies, or any number from `least` on. -/
  | copies (a : Pattern) (least : Nat) (most : Option Nat)
  /-- A group whose match is remembered; it matches what its part matches. -/
  | group (a : Pattern)
  deriving DecidableEq, Repr, Inhabited

/-! ## Anchors -/

def isWordPart (wide : Bool) (c : Char) : Bool :=
  if wide then isWordChar c else c.isAlphanum || c = '_'

def Boundary.holds (b : Boundary) (before behind : Bool) : Bool :=
  match b with
  | .edge => before != behind
  | .noEdge => before == behind
  | .start => !before && behind
  | .stop => before && !behind
  | .noneBefore => !before
  | .noneBehind => !behind

/-- Whether an anchor holds between two characters; nothing stands outside the text. -/
def Anchor.holds (kind : Anchor) (before behind : Option Char) : Bool :=
  match kind with
  | .textStart => before.isNone
  | .textEnd => behind.isNone
  | .lineStart false => before.isNone || before == some '\n'
  | .lineEnd false => behind.isNone || behind == some '\n'
  | .lineStart true =>
    before.isNone || before == some '\n' || (before == some '\r' && behind != some '\n')
  | .lineEnd true =>
    behind.isNone || behind == some '\r' || (behind == some '\n' && before != some '\r')
  | .word boundary wide =>
    boundary.holds ((before.map (isWordPart wide)).getD false)
      ((behind.map (isWordPart wide)).getD false)

/-! ## Sets of places -/

/-- The places of two rising lists, in rising order. -/
def mergePlaces : List Nat → List Nat → List Nat
  | [], ys => ys
  | xs, [] => xs
  | x :: xs, y :: ys =>
    if x < y then x :: mergePlaces xs (y :: ys)
    else if y < x then y :: mergePlaces (x :: xs) ys
    else x :: mergePlaces xs ys
termination_by xs ys => xs.length + ys.length

/-- The places of the first rising list that are not in the second. -/
def freshPlaces : List Nat → List Nat → List Nat
  | [], _ => []
  | xs, [] => xs
  | x :: xs, y :: ys =>
    if x < y then x :: freshPlaces xs (y :: ys)
    else if y < x then freshPlaces (x :: xs) ys
    else freshPlaces xs ys
termination_by xs ys => xs.length + ys.length

/-- What `count` steps make of some places. A set that a step leaves as it is
stays so. -/
def stepped (step : List Nat → List Nat) : Nat → List Nat → List Nat
  | 0, places => places
  | count + 1, places =>
    let next := step places
    if next = places then places else stepped step count next

/-- The places of `found` and those that up to `rounds` steps from `frontier` reach. -/
def reached (step : List Nat → List Nat) : Nat → List Nat → List Nat → List Nat
  | 0, _, found => found
  | rounds + 1, frontier, found =>
    let fresh := freshPlaces (step frontier) found
    if fresh.isEmpty then found else reached step rounds fresh (mergePlaces found fresh)

/-! ## Matching -/

namespace Pattern

/-- The places where the matches end that start at one of `places`. -/
def ends (text : Array Char) : Pattern → List Nat → List Nat
  | empty, places => places
  | one set, places =>
    places.filterMap fun i =>
      match text[i]? with
      | some c => if set.has c.toNat then some (i + 1) else none
      | none => none
  | anchor kind, places =>
    places.filter fun i => kind.holds (if i = 0 then none else text[i - 1]?) text[i]?
  | seq a b, places => b.ends text (a.ends text places)
  | alt a b, places => mergePlaces (a.ends text places) (b.ends text places)
  | group a, places => a.ends text places
  | copies a least most, places =>
    let forced := stepped (a.ends text) least places
    -- Every round reaches a new place, so more rounds than places add nothing.
    let rounds := match most with
      | some most => min (most - least) (text.size + 1)
      | none => text.size + 1
    reached (a.ends text) rounds forced forced

/-- Whether the pattern matches anywhere in a text. -/
def found (p : Pattern) (s : String) : Bool :=
  let text := s.toList.toArray
  !(p.ends text (List.range (text.size + 1))).isEmpty

/-! ## Building -/

/-- Characters that follow each other, or match any of several. -/
def sequence (parts : List Pattern) : Pattern :=
  match parts.filter (· != empty) with
  | [] => empty
  | p :: ps => (p :: ps).dropLast.foldr seq ((p :: ps).getLast (by simp))

/-- The choices of a pattern. -/
def choices : Pattern → List Pattern
  | alt a b => a.choices ++ b.choices
  | p => [p]

def set? : Pattern → Option CodeSet
  | one set => some set
  | _ => none

/-- A choice between patterns. One between single characters, or between sets
of characters, is itself a set. -/
def choice (options : List Pattern) : Pattern :=
  let options := options.flatMap choices
  let sets := options.filterMap set?
  let alike := sets.all (·.single?.isSome) || sets.all (·.single?.isNone)
  if options.length = 1 || sets.length < options.length || !alike then
    match options with
    | [] => empty
    | p :: ps => (p :: ps).dropLast.foldr alt ((p :: ps).getLast (by simp))
  else one (CodeSet.unions sets)

/-- Whether the pattern matches the empty text only. -/
def isWidthless : Pattern → Bool
  | empty | anchor _ => true
  | one _ => false
  | seq a b | alt a b => a.isWidthless && b.isWidthless
  | copies a _ _ | group a => a.isWidthless

/-- Copies of a pattern. More than one copy of what takes no character is one copy. -/
def repeated (p : Pattern) (least : Nat) (most : Option Nat) : Pattern :=
  let (least, most) :=
    if p.isWidthless then (min least 1, some ((most.map (min · 1)).getD 1)) else (least, most)
  if least = 0 && most = some 0 then empty
  else if least = 1 && most = some 1 then p
  else copies p least most

end Pattern

end Scaffold.Text
