/-!
# Cutting texts

Searching, replacing and splitting. Every function works on lists of
characters; the ones on texts convert at the boundary. A pattern is found at
its leftmost place and matches never overlap.
-/

namespace Scaffold.Text

/-! ## Prefixes and suffixes -/

/-- What follows `pat` in `cs`, when `cs` starts with `pat`. -/
def stripPrefixChars : List Char → List Char → Option (List Char)
  | [], cs => some cs
  | _ :: _, [] => none
  | p :: ps, c :: cs => if p = c then stripPrefixChars ps cs else none

theorem stripPrefixChars_eq_some_iff {pat cs rest : List Char} :
    stripPrefixChars pat cs = some rest ↔ cs = pat ++ rest := by
  induction pat generalizing cs with
  | nil => simp [stripPrefixChars]
  | cons p ps ih =>
    cases cs with
    | nil => simp [stripPrefixChars]
    | cons c cs =>
      by_cases h : p = c
      · subst h
        simp [stripPrefixChars, ih]
      · have h' : ¬ c = p := fun e => h e.symm
        simp [stripPrefixChars, h, h']

def startsWith (pat s : String) : Bool := (stripPrefixChars pat.toList s.toList).isSome

def endsWith (pat s : String) : Bool :=
  (stripPrefixChars pat.toList.reverse s.toList.reverse).isSome

/-- The text without `pat` at its end, or the text itself. -/
def stripSuffix (pat s : String) : String :=
  match stripPrefixChars pat.toList.reverse s.toList.reverse with
  | some rest => String.ofList rest.reverse
  | none => s

/-- The text without every copy of `pat` at its start; an empty `pat` removes nothing. -/
def trimStartCopies (pat s : String) : String :=
  let rec go : Nat → List Char → List Char
    | 0, cs => cs
    | fuel + 1, cs =>
      match stripPrefixChars pat.toList cs with
      | some rest => if rest.length < cs.length then go fuel rest else cs
      | none => cs
  String.ofList (go s.toList.length s.toList)

/-- The text without every copy of `pat` at its end. -/
def trimEndCopies (pat s : String) : String :=
  let turn (t : String) : String := String.ofList t.toList.reverse
  turn (trimStartCopies (turn pat) (turn s))

/-! ## Searching -/

/-- The characters before the first copy of `pat` and those after it. -/
def cutAt (pat : List Char) : List Char → Option (List Char × List Char)
  | [] => if pat.isEmpty then some ([], []) else none
  | c :: cs =>
    match stripPrefixChars pat (c :: cs) with
    | some rest => some ([], rest)
    | none => (cutAt pat cs).map fun (before, after) => (c :: before, after)

/-- A cut loses nothing but the copy of `pat`. -/
theorem eq_of_cutAt {pat cs before after : List Char}
    (h : cutAt pat cs = some (before, after)) : cs = before ++ (pat ++ after) := by
  induction cs generalizing before with
  | nil =>
    unfold cutAt at h
    split at h
    · next he =>
      rw [List.isEmpty_iff] at he
      simp_all
    · exact absurd h (by simp)
  | cons c cs ih =>
    unfold cutAt at h
    split at h
    · next rest hs =>
      obtain ⟨rfl, rfl⟩ : [] = before ∧ rest = after := by simpa using h
      simpa using stripPrefixChars_eq_some_iff.mp hs
    · obtain ⟨⟨b, a⟩, hc, he⟩ := Option.map_eq_some_iff.mp h
      obtain ⟨rfl, rfl⟩ : c :: b = before ∧ a = after := by simpa using he
      rw [ih hc]
      rfl

def contains (pat s : String) : Bool := (cutAt pat.toList s.toList).isSome

/-- The texts before and after the first copy of `pat`. -/
def cut (pat s : String) : Option (String × String) :=
  (cutAt pat.toList s.toList).map fun (before, after) =>
    (String.ofList before, String.ofList after)

/-! ## Splitting -/

/-- The pieces between the characters of `p`; there is always one more piece
than separators. -/
def splitCharsWhere (p : Char → Bool) : List Char → List (List Char)
  | [] => [[]]
  | c :: cs =>
    match splitCharsWhere p cs with
    | [] => [[]]
    | piece :: pieces => if p c then [] :: piece :: pieces else (c :: piece) :: pieces

theorem splitCharsWhere_ne_nil (p : Char → Bool) (cs : List Char) :
    splitCharsWhere p cs ≠ [] := by
  induction cs with
  | nil => simp [splitCharsWhere]
  | cons c cs ih =>
    unfold splitCharsWhere
    split
    · simp
    · split <;> simp

/-- No piece holds a separator. -/
theorem not_of_mem_splitCharsWhere {p : Char → Bool} {cs piece : List Char}
    (h : piece ∈ splitCharsWhere p cs) {c : Char} (hc : c ∈ piece) : p c = false := by
  induction cs generalizing piece with
  | nil => simp_all [splitCharsWhere]
  | cons d ds ih =>
    unfold splitCharsWhere at h
    split at h
    · next he => exact absurd he (splitCharsWhere_ne_nil p ds)
    · next first rest he =>
      split at h
      · rcases List.mem_cons.mp h with rfl | h
        · simp at hc
        · exact ih (he ▸ h) hc
      · next hd =>
        rcases List.mem_cons.mp h with rfl | h
        · rcases List.mem_cons.mp hc with rfl | hc
          · simpa using hd
          · exact ih (he ▸ List.mem_cons_self) hc
        · exact ih (he ▸ List.mem_cons_of_mem _ h) hc

/-- The pieces with the separators between them are the whole text. -/
theorem intercalate_splitCharsWhere (sep : Char) (cs : List Char) :
    [sep].intercalate (splitCharsWhere (· == sep) cs) = cs := by
  induction cs with
  | nil => simp [splitCharsWhere, List.intercalate]
  | cons c cs ih =>
    unfold splitCharsWhere
    split
    · next he => exact absurd he (splitCharsWhere_ne_nil _ cs)
    · next first rest he =>
      rw [he] at ih
      split
      · next hc =>
        obtain rfl : c = sep := by simpa using hc
        rw [← ih]
        simp [List.intercalate]
      · rw [← ih]
        cases rest <;> simp [List.intercalate]

def splitOn (sep : Char) (s : String) : List String :=
  (splitCharsWhere (· == sep) s.toList).map String.ofList

/-- The nonempty pieces between blanks or other characters of `p`. -/
def piecesWhere (p : Char → Bool) (s : String) : List String :=
  ((splitCharsWhere p s.toList).filter (! ·.isEmpty)).map String.ofList

/-- The pieces between copies of `pat`. Between the characters of a text there
is an empty text, so an empty `pat` gives every character between two empty
pieces. -/
def splitText (pat s : String) : List String :=
  let rec go : Nat → List Char → List (List Char)
    | 0, cs => [cs]
    | fuel + 1, cs =>
      match cutAt pat.toList cs with
      | some (before, after) => before :: go fuel after
      | none => [cs]
  if pat.isEmpty then
    "" :: s.toList.map String.singleton ++ [""]
  else
    (go s.toList.length s.toList).map String.ofList

/-- The text with every copy of `pat` replaced by `by_`. -/
def replace (pat by_ s : String) : String :=
  String.intercalate by_ (splitText pat s)

/-! ## Lines -/

/-- Drops one carriage return at the end. -/
def dropReturn (cs : List Char) : List Char :=
  match cs.reverse with
  | '\r' :: rest => rest.reverse
  | _ => cs

/-- The lines of a text: the pieces that end in a line feed, each without it
and without a carriage return before it, and what follows the last line feed
unless that is empty. -/
def lines (s : String) : List String :=
  let pieces := splitCharsWhere (· == '\n') s.toList
  let ended := pieces.dropLast.map fun piece => String.ofList (dropReturn piece)
  match pieces.getLast? with
  | some [] | none => ended
  | some last => ended ++ [String.ofList last]

end Scaffold.Text
