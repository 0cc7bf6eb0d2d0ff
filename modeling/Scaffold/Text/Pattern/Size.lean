import Scaffold.Text.Pattern

/-!
# The size of a pattern's automata

A pattern is matched byte by byte of UTF-8, forward by one automaton and
backward by another. An automaton has states, which take 32 bytes each;
transitions of a state take 8 bytes and choices of a state 4 bytes more. Copies
of a pattern are copies of its states, so counts make automata large; a pattern
is refused when one of its automata takes more than `Pattern.sizeLimit` bytes.
-/

namespace Scaffold.Text

/-! ## Bytes of code points -/

/-- The bytes of UTF-8 that the code points of a run have at one place. -/
abbrev ByteRun := Nat × Nat

/-- Cuts a run into those whose code points share their bytes but for a last
part that takes all values. -/
def byteAligned : Nat → Nat → Nat → List (Nat × Nat)
  | 0, first, last => [(first, last)]
  | fuel + 1, first, last =>
    let cut := [64, 64 * 64, 64 * 64 * 64].find? fun block =>
      first / block != last / block && (first % block != 0 || last % block != block - 1)
    match cut with
    | none => [(first, last)]
    | some block =>
      let next := if first % block != 0 then (first / block + 1) * block else last / block * block
      byteAligned fuel first (next - 1) ++ byteAligned fuel next last

def byteCount (n : Nat) : Nat :=
  if n < 0x80 then 1 else if n < 0x800 then 2 else if n < 0x10000 then 3 else 4

/-- The bytes of a code point that `count` bytes write. -/
def bytesOf (count n : Nat) : List Nat :=
  match count with
  | 1 => [n]
  | 2 => [0xc0 + n / 64, 0x80 + n % 64]
  | 3 => [0xe0 + n / 64 / 64, 0x80 + n / 64 % 64, 0x80 + n % 64]
  | _ => [0xf0 + n / 64 / 64 / 64, 0x80 + n / 64 / 64 % 64, 0x80 + n / 64 % 64, 0x80 + n % 64]

/-- The byte runs, one behind the other, that a run of code points consists of. -/
def byteRuns (run : Nat × Nat) : List (List ByteRun) :=
  let byCount := [(0, 0x7f), (0x80, 0x7ff), (0x800, 0xd7ff), (0xe000, 0xffff), (0x10000, 0x10ffff)]
  byCount.flatMap fun (low, high) =>
    let first := max low run.1
    let last := min high run.2
    if last < first then []
    else
      let aligned := if last < 0x80 then [(first, last)] else byteAligned 16 first last
      aligned.map fun (first, last) =>
        List.zip (bytesOf (byteCount first) first) (bytesOf (byteCount last) last)

/-- What can follow each first byte run. -/
def followers : List (List ByteRun) → List (List (List ByteRun))
  | [] => []
  | [] :: rest => followers rest
  | (head :: tail) :: rest =>
    match rest with
    | (next :: _) :: _ =>
      if next = head then
        match followers rest with
        | group :: groups => (tail :: group) :: groups
        | [] => [[tail]]
      else [tail] :: followers rest
    | _ => [tail] :: followers rest

/-- The continuations that are possible behind any number of bytes. -/
def continuations : Nat → List (List ByteRun) → List (List (List ByteRun))
  | 0, _ => []
  | depth + 1, runs =>
    if runs.all (·.isEmpty) then []
    else runs :: (followers runs).flatMap (continuations depth)

/-! ## Costs -/

def stateCost : Nat := 32

def CodeSet.bytes (set : CodeSet) : List (List ByteRun) := set.runs.flatMap byteRuns

/-- A state for every continuation that differs from the others, and one behind them all. -/
def CodeSet.forwardCost (set : CodeSet) : Nat :=
  let states := (continuations 4 set.bytes).eraseDups
  states.foldl (fun n runs => n + stateCost + 8 * (followers runs).length) stateCost

/-- A state for every beginning, and a choice of the ends. -/
def CodeSet.backwardCost (set : CodeSet) : Nat :=
  if set.isAscii then set.forwardCost
  else
    let steps := (continuations 4 set.bytes).foldl (fun n runs => n + (followers runs).length) 0
    stateCost * (2 + steps) + 4 * set.bytes.length

namespace Pattern

/-- Whether every match takes a character. -/
def takes : Pattern → Bool
  | empty | anchor _ => false
  | one set => !set.isEmpty
  | seq a b => a.takes || b.takes
  | alt a b => a.takes && b.takes
  | copies a least _ => 0 < least && a.takes
  | group a => a.takes

/-- The bytes that a pattern's states take, alone and as one of several choices.
A group keeps its place only in the forward direction. -/
def costs (forward : Bool) : Pattern → Nat × Nat
  | empty | anchor _ => (stateCost, stateCost + 4)
  | one set =>
    let n := match set.single? with
      | some code => stateCost * byteCount code
      | none => if forward then set.forwardCost else set.backwardCost
    (n, n + 4)
  | seq a b =>
    let n := (a.costs forward).1 + (b.costs forward).1
    (n, n + 4)
  | alt a b =>
    let n := (a.costs forward).2 + (b.costs forward).2
    (2 * stateCost + n, n)
  | group a =>
    let n := (a.costs forward).1 + if forward then 2 * stateCost else 0
    (n, n + 4)
  | copies a least most =>
    let one := (a.costs forward).1
    let forced := if least = 0 then stateCost else least * one
    let n := match most with
      | none =>
        if 0 < least then least * one + stateCost + 8
        else if a.takes then one + stateCost + 8
        else one + 3 * stateCost + 16
      | some most =>
        if least = most then forced
        else if least = 0 && most = 1 then one + 2 * stateCost + 8
        else forced + stateCost + (most - least) * (one + stateCost + 8)
    (n, n + 4)

def sizeLimit : Nat := 10 * 1024 * 1024

/-- What leads to a match from any place, and the state behind it. -/
def frameCost (forward : Bool) : Nat := 144 + if forward then 2 * stateCost else 0

def isTooLarge (p : Pattern) : Bool :=
  [true, false].any fun forward => sizeLimit < (p.costs forward).1 + frameCost forward

end Pattern

end Scaffold.Text
