import Scaffold.Text.Pattern.Escape

/-!
# Bracketed sets of patterns

A set in brackets lists characters, ranges and other sets. It can be cut with
another set, made smaller by one, or joined with one but for what both hold;
these operations bind equally and to the left.
-/

namespace Scaffold.Text.Pattern

/-- A set, and how deep the brackets, lists and operations in it are nested. -/
structure Nested where
  set : CodeSet
  depth : Nat

/-- An operation between two sets. -/
inductive SetOp where
  | inter
  | diff
  | symmDiff

def SetOp.apply : SetOp → CodeSet → CodeSet → CodeSet
  | .inter => CodeSet.inter
  | .diff => CodeSet.diff
  | .symmDiff => CodeSet.symmDiff

/-- A set that is left of an operation, and the operation. -/
abbrev Pending := Option (Nested × SetOp)

/-- The list of some members. -/
def Nested.ofMembers (members : List Nested) : Nested :=
  match members with
  | [] => ⟨.empty, 0⟩
  | [only] => only
  | members => ⟨CodeSet.unions (members.map (·.set)), 1 + (members.map (·.depth)).foldl max 0⟩

/-- Does the operation that waits for its right side. Both sides are closed under
case first. -/
def Flags.combine (flags : Flags) (pending : Pending) (right : Nested) : Option Nested :=
  match pending with
  | none => some right
  | some (left, op) => do
    let a ← flags.close false left.set
    let b ← flags.close false right.set
    return ⟨op.apply a b, 1 + max left.depth right.depth⟩

/-- The first character behind the current one that counts; behind a number sign
it is the first that is no blank. -/
def peekBehind (flags : Flags) (cs : List Char) : Option Char :=
  if !flags.spaced then cs.head?
  else
    let visible := match cs.dropWhile isBlank with
      | '#' :: rest => rest.dropWhile isBlank
      | rest => rest
    (visible.head?).orElse fun _ => cs.head?

/-- A named class of ASCII characters behind its bracket. -/
def namedClass (flags : Flags) : List Char → Option (Option CodeSet × List Char)
  | ':' :: cs =>
    let (negated, cs) := match cs with
      | '^' :: rest => (true, rest)
      | cs => (false, cs)
    let name := cs.takeWhile (· != ':')
    match cs.drop name.length with
    | ':' :: ']' :: rest =>
      (asciiClass? (String.ofList name)).map fun set => (flags.close negated set, rest)
    | _ => none
  | _ => none

/-- A member of a set: a character or a set of characters. -/
inductive Member where
  | char (c : Char)
  | set (set : CodeSet)

/-- A character of a set of bytes must be one of ASCII. -/
def Flags.allows (flags : Flags) (c : Char) : Bool := flags.wide || c.toNat < 0x80

def member (flags : Flags) : List Char → Reading Member
  | [] => none
  | '\\' :: rest =>
    match escape flags rest with
    | some (.char c _, rest) => if flags.allows c then some (.char c, rest) else none
    | some (.set set, rest) => some (.set set, rest)
    | _ => none
  | c :: rest => if flags.allows c then some (.char c, rest) else none

/-- A member, or the range that it starts. -/
def memberOrRange (flags : Flags) (cs : List Char) : Reading CodeSet :=
  match member flags cs with
  | none => none
  | some (first, rest) =>
    let alone (rest : List Char) : Reading CodeSet :=
      match first with
      | .char c => some (CodeSet.single c.toNat, rest)
      | .set set => some (set, rest)
    match flags.skip rest with
    | [] => none
    | '-' :: behind =>
      if peekBehind flags behind == some ']' || peekBehind flags behind == some '-' then
        alone ('-' :: behind)
      else
        match first, member flags (flags.skip behind) with
        | .char first, some (.char last, rest) =>
          if first ≤ last then some (CodeSet.range first.toNat last.toNat, rest) else none
        | _, _ => none
    | rest => alone rest

/-- The dashes at the start of a set, without those blanks that do not count. -/
def leadingDashes (flags : Flags) : Nat → List Char → List Char × Nat
  | 0, cs => (cs, 0)
  | fuel + 1, '-' :: cs =>
    let (rest, count) := leadingDashes flags fuel (flags.skip cs)
    (rest, count + 1)
  | _, cs => (cs, 0)

/-- The members at the start of a set that would end it or be an operation elsewhere. -/
def firstMembers (flags : Flags) (cs : List Char) : List Nested × List Char :=
  let literal (c : Char) : Nested := ⟨.single c.toNat, 0⟩
  let (rest, count) := leadingDashes flags cs.length cs
  match count, rest with
  | 0, ']' :: rest => ([literal ']'], flags.skip rest)
  | count, rest => (List.replicate count (literal '-'), rest)

/-- A set behind its first bracket, given the reader of its members. -/
def openedWith (flags : Flags) (rest : Pending → List Nested → List Char → Reading Nested)
    (cs : List Char) : Reading Nested :=
  let (negated, cs) := match flags.skip cs with
    | '^' :: cs => (true, flags.skip cs)
    | cs => (false, cs)
  let (first, cs) := firstMembers flags cs
  (rest none first cs).bind fun (inner, cs) =>
    (flags.close negated inner.set).map fun set => (⟨set, 1 + inner.depth⟩, cs)

/-- The operation that two equal signs write. -/
def operation? : List Char → Option (SetOp × List Char)
  | '&' :: '&' :: rest => some (.inter, rest)
  | '-' :: '-' :: rest => some (.diff, rest)
  | '~' :: '~' :: rest => some (.symmDiff, rest)
  | _ => none

/-- The members of a set up to its last bracket. -/
def members (flags : Flags) : Nat → Pending → List Nested → List Char → Reading Nested
  | 0, _, _, _ => none
  | fuel + 1, pending, found, cs =>
    let cs := flags.skip cs
    match operation? cs with
    | some (op, rest) =>
      (flags.combine pending (.ofMembers found)).bind fun left =>
        members flags fuel (some (left, op)) [] rest
    | none =>
      match cs with
      | [] => none
      | ']' :: rest =>
        (flags.combine pending (.ofMembers found)).map fun set => (set, rest)
      | '[' :: rest =>
        match namedClass flags rest with
        | some (set, rest) =>
          set.bind fun set => members flags fuel pending (found ++ [⟨set, 0⟩]) rest
        | none =>
          (openedWith flags (members flags fuel) rest).bind fun (inner, rest) =>
            members flags fuel pending (found ++ [inner]) rest
      | cs =>
        (memberOrRange flags cs).bind fun (set, rest) =>
          members flags fuel pending (found ++ [⟨set, 0⟩]) rest

/-- A bracketed set behind its first bracket. -/
def bracketed (flags : Flags) (cs : List Char) : Reading Nested :=
  openedWith flags (members flags (cs.length + 1)) cs

end Scaffold.Text.Pattern
