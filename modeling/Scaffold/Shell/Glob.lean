import Scaffold.Shell.OctetMap

/-!
# Patterns of scripts

A pattern is a text in which `*`, `?` and brackets stand for other octets where
they are not quoted.
-/

namespace Scaffold.Shell

/-- What a pattern asks of a text, from left to right. -/
inductive GlobItem where
  | exactly (c : Char)
  | any
  /-- Any number of octets. -/
  | many
  | oneOf (negated : Bool) (cs : List Char)
  deriving DecidableEq

/-- A pattern as it is written: each octet with whether it is quoted. -/
abbrev GlobText := List (Char × Bool)

namespace Glob

/-- The octets of a bracket up to its end, and the rest. -/
def members : Nat → GlobText → Option (List Char × GlobText)
  | 0, _ | _ + 1, [] => none
  | fuel + 1, (c, quoted) :: rest =>
    if c = ']' && !quoted then some ([], rest)
    else
      let name := (rest.drop 1).takeWhile fun (c, _) => c.isAlpha
      let isNamed := c = '[' && (rest.head?.map (·.1)) = some ':' &&
        ((rest.drop (1 + name.length)).take 2).map (·.1) = [':', ']']
      match isNamed, OctetMap.classes.lookup (String.ofList (name.map (·.1))) with
      | true, some cs =>
        (members fuel (rest.drop (name.length + 3))).map fun (more, rest) => (cs ++ more, rest)
      | _, _ =>
        match rest with
        | ('-', _) :: (last, quotedLast) :: rest' =>
          if last = ']' && !quotedLast then
            (members fuel rest).map fun (more, rest) => (c :: more, rest)
          else
            let range := OctetMap.octetsWhere (OctetMap.between c.toNat last.toNat)
            (members fuel rest').map fun (more, rest) => (range ++ more, rest)
        | rest => (members fuel rest).map fun (more, rest) => (c :: more, rest)

/-- The set of a bracket, from behind it on; a closing bracket at the start is a member. -/
def bracket? (text : GlobText) : Option (GlobItem × GlobText) :=
  let (negated, text) := match text with
    | ('!', false) :: rest | ('^', false) :: rest => (true, rest)
    | rest => (false, rest)
  match text with
  | (']', false) :: rest =>
    (members (text.length + 1) rest).map fun (cs, rest) => (.oneOf negated (']' :: cs), rest)
  | text => (members (text.length + 1) text).map fun (cs, rest) => (.oneOf negated cs, rest)

/-- Reads a pattern; `fuel` bounds its length. -/
def items : Nat → GlobText → List GlobItem
  | 0, _ | _ + 1, [] => []
  | fuel + 1, (c, quoted) :: rest =>
    match quoted, c with
    | false, '*' => .many :: items fuel rest
    | false, '?' => .any :: items fuel rest
    | false, '[' =>
      match bracket? rest with
      | some (item, rest) => item :: items fuel rest
      | none => .exactly '[' :: items fuel rest
    | _, c => .exactly c :: items fuel rest

def read (text : GlobText) : List GlobItem := items (text.length + 1) text

end Glob

def GlobItem.accepts (c : Char) : GlobItem → Bool
  | .exactly d => c = d
  | .any => true
  | .many => false
  | .oneOf negated cs => cs.contains c != negated

/-- Whether a whole text is what the items ask for. -/
def fits : List GlobItem → Octets → Bool
  | [], text => text.isEmpty
  | .many :: items, text =>
    (List.range (text.length + 1)).any fun n => fits items (text.drop n)
  | item :: items, text =>
    match text with
    | [] => false
    | c :: text => item.accepts c && fits items text

/-- The text without its shortest or longest start that fits. -/
def cutStart (items : List GlobItem) (longest : Bool) (text : Octets) : Octets :=
  let lengths := List.range (text.length + 1)
  let lengths := if longest then lengths.reverse else lengths
  match lengths.find? fun n => fits items (text.take n) with
  | some n => text.drop n
  | none => text

/-- The text without its shortest or longest end that fits. -/
def cutEnd (items : List GlobItem) (longest : Bool) (text : Octets) : Octets :=
  let starts := List.range (text.length + 1)
  let starts := if longest then starts else starts.reverse
  match starts.find? fun n => fits items (text.drop n) with
  | some n => text.take n
  | none => text

end Scaffold.Shell
