import Scaffold.Text.ClusterTable

/-!
# Clusters

A cluster is what a reader takes for one letter: a character with its marks, a
pair of letters that names a flag, the parts of a Hangul syllable, consonants
that a sign joins, or pictures that joiners bind. Cutting a text between
clusters never changes how a part looks.
-/

namespace Scaffold.Text

/-- The classes of characters that decide where clusters end. -/
inductive ClusterClass where
  | other
  | return_
  | newline
  | control
  | extender
  | joiner
  | spacing
  | leader
  /-- A letter that names a flag together with another one. -/
  | flag
  | picture
  | consonant
  /-- The parts of Hangul syllables. -/
  | lead
  | vowel
  | tail
  | openSyllable
  | closedSyllable
  deriving DecidableEq, Repr

def holdsCode (runs : List (Nat × Nat)) (n : Nat) : Bool :=
  runs.any fun (first, last) => first ≤ n && n ≤ last

namespace ClusterClass

def isBetween (first last n : Nat) : Bool := first ≤ n && n ≤ last

def ofCode (n : Nat) : ClusterClass :=
  if n = 0x0d then return_
  else if n = 0x0a then newline
  else if isBetween 0x20 0x7e n then other
  else if n = 0x200d then joiner
  else if isBetween 0x1f1e6 0x1f1ff n then flag
  else if isBetween 0x1100 0x115f n || isBetween 0xa960 0xa97c n then lead
  else if isBetween 0x1160 0x11a7 n || isBetween 0xd7b0 0xd7c6 n || n = 0x16d63 ||
      isBetween 0x16d67 0x16d6a n then vowel
  else if isBetween 0x11a8 0x11ff n || isBetween 0xd7cb 0xd7fb n then tail
  else if isBetween 0xac00 0xd7a3 n then
    if (n - 0xac00) % 28 = 0 then openSyllable else closedSyllable
  else if holdsCode ClusterTable.extenders n then extender
  else if holdsCode ClusterTable.spacingMarks n then spacing
  else if holdsCode ClusterTable.leaders n then leader
  else if holdsCode ClusterTable.controls n then control
  else if holdsCode ClusterTable.pictures n then picture
  else if holdsCode ClusterTable.consonants n then consonant
  else other

/-- Whether a cluster ends before and after every character of the class. -/
def isAlone : ClusterClass → Bool
  | return_ | newline | control => true
  | _ => false

end ClusterClass

/-- Whether a sign joins the consonant before it to the one behind it. -/
def isLinker (c : Char) : Bool := holdsCode ClusterTable.linkers c.toNat

/-- How far the end of a cluster is on its way to take another picture or
another consonant. -/
inductive Binding where
  | none
  /-- A picture and extenders. -/
  | picture
  /-- A picture, extenders and a joiner. -/
  | joinedPicture
  /-- A consonant and marks without a linker among them. -/
  | consonant
  /-- A consonant and marks with a linker among them. -/
  | linkedConsonant
  deriving DecidableEq, Repr

/-- The end of a cluster: the class of its last character, the number of flag
letters there, and what it can take. -/
structure ClusterEnd where
  last : ClusterClass
  flags : Nat
  binding : Binding

namespace ClusterEnd

open ClusterClass

def empty : ClusterEnd := ⟨.other, 0, .none⟩

/-- Whether a character of the next class belongs to the cluster. -/
def takes (e : ClusterEnd) (next : ClusterClass) : Bool :=
  match e.last, next with
  | .return_, .newline => true
  | .lead, .lead | .lead, .vowel | .lead, .openSyllable | .lead, .closedSyllable => true
  | .openSyllable, .vowel | .openSyllable, .tail | .vowel, .vowel | .vowel, .tail => true
  | .closedSyllable, .tail | .tail, .tail => true
  | last, next =>
    if last.isAlone || next.isAlone then false
    else
      match next with
      | .extender | .joiner | .spacing => true
      | .picture => last == .leader || e.binding == .joinedPicture
      | .consonant => last == .leader || e.binding == .linkedConsonant
      | .flag => last == .leader || (last == .flag && e.flags % 2 == 1)
      | _ => last == .leader

/-- What the end can take after one more character. -/
def bindingAfter (e : ClusterEnd) (c : Char) (next : ClusterClass) : Binding :=
  match next, e.binding with
  | .picture, _ => .picture
  | .consonant, _ => .consonant
  | .extender, .picture => .picture
  | .joiner, .picture => .joinedPicture
  | .extender, .consonant | .extender, .linkedConsonant =>
    if isLinker c then .linkedConsonant
    else if c.toNat = 0x200c then .none
    else e.binding
  | .joiner, .consonant | .joiner, .linkedConsonant => e.binding
  | _, _ => .none

/-- The end of the cluster with one more character. -/
def push (e : ClusterEnd) (c : Char) : ClusterEnd :=
  let next := ClusterClass.ofCode c.toNat
  ⟨next, if next = .flag then e.flags + 1 else 0, e.bindingAfter c next⟩

end ClusterEnd

/-- The clusters of a list of characters, `current` being the start of the first
one in reverse, which ends in `e`. -/
def clustersFrom (current : List Char) (e : ClusterEnd) : List Char → List (List Char)
  | [] => if current.isEmpty then [] else [current.reverse]
  | c :: cs =>
    if current.isEmpty || e.takes (ClusterClass.ofCode c.toNat) then
      clustersFrom (c :: current) (e.push c) cs
    else
      current.reverse :: clustersFrom [c] (ClusterEnd.empty.push c) cs

def clusterChars (cs : List Char) : List (List Char) := clustersFrom [] .empty cs

def clusters (s : String) : List String := (clusterChars s.toList).map String.ofList

theorem flatten_clustersFrom (current : List Char) (e : ClusterEnd) (cs : List Char) :
    (clustersFrom current e cs).flatten = current.reverse ++ cs := by
  induction cs generalizing current e with
  | nil =>
    unfold clustersFrom
    cases current <;> simp
  | cons c cs ih =>
    unfold clustersFrom
    split
    · rw [ih]; simp
    · rw [List.flatten_cons, ih]; simp

/-- The clusters of a text are all of it. -/
theorem flatten_clusterChars (cs : List Char) : (clusterChars cs).flatten = cs := by
  simp [clusterChars, flatten_clustersFrom]

end Scaffold.Text
