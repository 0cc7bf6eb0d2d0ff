import Scaffold.Shell.Program

/-!
# Replacing octets

`tr` replaces, removes and squeezes octets. Its sets are written with ranges,
named classes, repetitions and escapes.
-/

namespace Scaffold.Shell.OctetMap

open Text

/-! ## Sets -/

/-- An octet of a set as it is written, and whether a backslash stood before it. -/
abbrev Written := List (Char × Bool)

def octalDigit? (c : Char) : Option Nat := (hexDigit? c).filter (· < 8)

/-- The octet that up to three octal digits write, and the number of the digits. -/
def octalOf (cs : List Char) : Nat × Nat :=
  let digits := (cs.take 3).takeWhile fun c => (octalDigit? c).isSome
  let value (ds : List Char) : Nat := ds.foldl (fun n c => 8 * n + (octalDigit? c).getD 0) 0
  if value digits < 256 then (value digits, digits.length) else (value (digits.take 2), 2)

def letterEscapes : List (Char × Char) :=
  [('a', '\x07'), ('b', '\x08'), ('f', '\x0c'), ('n', '\n'), ('r', '\x0d'), ('t', '\t'),
    ('v', '\x0b')]

/-- Reads escapes; `fuel` bounds the length of the text. -/
def unescaped : Nat → List Char → Written
  | 0, _ => []
  | _ + 1, [] => []
  | _ + 1, ['\\'] => [('\\', false)]
  | fuel + 1, '\\' :: c :: rest =>
    if (octalDigit? c).isSome then
      let (value, count) := octalOf (c :: rest)
      (Char.ofNat value, true) :: unescaped fuel ((c :: rest).drop count)
    else ((letterEscapes.lookup c).getD c, true) :: unescaped fuel rest
  | fuel + 1, c :: rest => (c, false) :: unescaped fuel rest

/-- What is said of escapes that are read but doubtful: a backslash with nothing
behind it, and three octal digits of a number that is no octet. -/
def warningsFrom : Nat → List Char → List String
  | 0, _ => []
  | _ + 1, [] => []
  | _ + 1, ['\\'] => ["an unescaped backslash at end of string is not portable"]
  | fuel + 1, '\\' :: rest =>
    let count := (octalOf rest).2
    let digits := rest.take 3
    let overflows := count = 2 && digits.length = 3 && digits.all fun c => (octalDigit? c).isSome
    let more := warningsFrom fuel (rest.drop (max 1 count))
    if overflows then
      ("the ambiguous octal escape \\" ++ String.ofList digits ++
        " is being\n\tinterpreted as the 2-byte sequence \\0" ++ String.ofList (digits.take 2) ++
        ", " ++ String.ofList (digits.drop 2)) :: more
    else more
  | fuel + 1, _ :: rest => warningsFrom fuel rest

def warnings (set : List Char) : Octets :=
  (warningsFrom (set.length + 1) set).flatMap fun warning =>
    octets ("tr: warning: " ++ warning ++ "\n")

/-- What a set consists of. -/
inductive Member where
  | octets (cs : List Char)
  | named (name : String) (cs : List Char)
  /-- An octet and those that are equivalent to it, which is no other. -/
  | equivalent (c : Char)
  /-- An octet again and again, without a count as often as there is need. -/
  | copies (c : Char) (count : Option Nat)

def octetsWhere (p : Nat → Bool) : List Char := ((List.range 256).filter p).map Char.ofNat

def between (first last n : Nat) : Bool := first ≤ n && n ≤ last

def isLetter (n : Nat) : Bool := between 0x41 0x5a n || between 0x61 0x7a n

def isDigit (n : Nat) : Bool := between 0x30 0x39 n

def classes : List (String × List Char) := [
  ("alnum", octetsWhere fun n => isLetter n || isDigit n), ("alpha", octetsWhere isLetter),
  ("blank", ['\t', ' ']), ("cntrl", octetsWhere fun n => n < 0x20 || n = 0x7f),
  ("digit", octetsWhere isDigit), ("graph", octetsWhere (between 0x21 0x7e)),
  ("lower", octetsWhere (between 0x61 0x7a)), ("print", octetsWhere (between 0x20 0x7e)),
  ("punct", octetsWhere fun n => between 0x21 0x7e n && !isLetter n && !isDigit n),
  ("space", octetsWhere fun n => between 0x09 0x0d n || n = 0x20),
  ("upper", octetsWhere (between 0x41 0x5a)),
  ("xdigit", octetsWhere fun n => isDigit n || between 0x41 0x46 n || between 0x61 0x66 n)]

/-- What stands between `[` with a mark and the mark with `]`, and the rest. -/
def enclosed (mark : Char) : Written → Option (List Char × Written)
  | [] => none
  | [_] => none
  | (a, escapedA) :: (b, escapedB) :: rest =>
    if a = mark && !escapedA && b = ']' && !escapedB then some ([], rest)
    else (enclosed mark ((b, escapedB) :: rest)).map fun (name, rest) => (a :: name, rest)

/-- The octet and count of a repetition behind its bracket, and the rest. Nothing when
there is no repetition, and a complaint when its count is no number. -/
def repetition? : Written → Except Octets (Option (Member × Written))
  | (c, _) :: ('*', false) :: rest =>
    let inner := rest.takeWhile fun (d, escaped) => !escaped && d != ']'
    match rest.drop inner.length with
    | (']', false) :: rest =>
      let digits := inner.map (·.1)
      let base := if digits.head? = some '0' then 8 else 10
      if digits.all fun d => ((hexDigit? d).filter (· < base)).isSome then
        let count := digits.foldl (fun n d => base * n + (hexDigit? d).getD 0) 0
        .ok (some (.copies c (if count = 0 then none else some count), rest))
      else
        .error (octets "invalid repeat count " ++ quotedText digits ++ octets " in [c*n] construct")
    | _ => .ok none
  | _ => .ok none

/-- Whether a star, digits and a closing bracket stand one octet behind a bracket. -/
def isRepetition : Written → Bool
  | _ :: ('*', false) :: rest =>
    ((rest.dropWhile fun (d, escaped) => isDigit d.toNat && !escaped).head?) = some (']', false)
  | _ => false

/-- The members of a set, or what is wrong with it; `fuel` bounds its length. -/
def members : Nat → Written → Except Octets (List Member)
  | 0, _ => .ok []
  | fuel + 1, written =>
    let plain (written : Written) : Except Octets (List Member) :=
      match written with
      | (a, _) :: ('-', false) :: (b, _) :: rest =>
        if b < a then
          let shown (c : Char) : Octets := if c = '\\' then [c] else numberedOctet c
          .error (octets "range-endpoints of '" ++ shown a ++ ['-'] ++ shown b ++
            octets "' are in reverse collating sequence order")
        else
          (members fuel rest).map (.octets (octetsWhere (between a.toNat b.toNat)) :: ·)
      | (a, _) :: rest => (members fuel rest).map (.octets [a] :: ·)
      | [] => .ok []
    if written.isEmpty then .ok []
    else if written.length < 3 then .ok [.octets (written.map (·.1))]
    else
      let repeated (rest : Written) : Except Octets (List Member) := do
        match ← repetition? rest with
        | some (member, after) => (members fuel after).map (member :: ·)
        | none => plain written
      match written with
      | ('[', false) :: (mark, false) :: rest =>
        match if mark = ':' || mark = '=' then enclosed mark rest else none with
        | some (name, after) =>
          let refused (problem : Octets) : Except Octets (List Member) :=
            if isRepetition ((mark, false) :: rest) then repeated ((mark, false) :: rest)
            else .error problem
          if name.isEmpty then
            .error (octets (if mark = ':' then "missing character class name '[::]'"
              else "missing equivalence class character '[==]'"))
          else if mark = ':' then
            match classes.lookup (String.ofList name) with
            | some cs => (members fuel after).map (.named (String.ofList name) cs :: ·)
            | none => refused (octets "invalid character class " ++ quotedText name)
          else
            match name with
            | [c] => (members fuel after).map (.equivalent c :: ·)
            | _ => refused (name ++
                octets ": equivalence class operand must be a single character")
        | none => repeated ((mark, false) :: rest)
      | ('[', false) :: rest => repeated rest
      | written => plain written

def membersOf (set : List Char) : Except Octets (List Member) :=
  members (set.length + 1) (unescaped (set.length + 1) set)

/-- The octets of a member; one without a count is there `need` times. -/
def Member.expand (need : Nat) : Member → List Char
  | .octets cs | .named _ cs => cs
  | .equivalent c => [c]
  | .copies c count => List.replicate (count.getD need) c

/-- The octets of a set, filled up to `length` by its repetitions without a count. -/
def expand (length : Nat) (ms : List Member) : List Char :=
  let known := ms.foldl (fun n m => n + (m.expand 0).length) 0
  ms.flatMap (·.expand (length - known))

/-- All other octets. -/
def complement (set : List Char) : List Char :=
  (octetsWhere fun _ => true).filter (!set.contains ·)

/-! ## What is done with them -/

/-- Replaces an octet of the first set by that at the same place of the second,
whose last one stands for all further places. Of two equal octets in the first
set the later counts. -/
def replace (from_ to_ : List Char) (c : Char) : Char :=
  match (from_.zipIdx.reverse).find? (·.1 == c) with
  | none => c
  | some (_, n) => (to_[n]?).getD ((to_.getLast?).getD c)

/-- Keeps one of equal neighbours of a set. -/
def squeeze (set : List Char) : Option Char → Octets → Octets
  | _, [] => []
  | before, c :: cs =>
    if before == some c && set.contains c then squeeze set before cs
    else c :: squeeze set (some c) cs

def Member.isNamed : Member → Bool
  | .named _ _ => true
  | _ => false

/-- A class other than those of letters that have another case. -/
def Member.isForeign : Member → Bool
  | .named name _ => name != "upper" && name != "lower"
  | _ => false

def Member.isEquivalent : Member → Bool
  | .equivalent _ => true
  | _ => false

/-- A repetition that fills the set up. -/
def Member.isFilling : Member → Bool
  | .copies _ none => true
  | _ => false

/-- The places at which classes of letters of a case start. -/
def caseStarts (need : Nat) : (place : Nat) → List Member → List Nat
  | _, [] => []
  | place, m :: ms =>
    let rest := caseStarts need (place + (m.expand need).length) ms
    if m.isNamed && !m.isForeign then place :: rest else rest

/-- What is wrong with sets of which the first is replaced by the second. -/
def mapFault? (o : Options) (from_ to_ : List Member) (domain image : List Char) :
    Option String :=
  let complemented := o.has ['c', 'C']
  let known := to_.foldl (fun n m => n + (m.expand 0).length) 0
  let misaligned := (caseStarts (domain.length - known) 0 to_).any fun place =>
    place ≤ domain.length && !(caseStarts 0 0 from_).contains place
  if to_.any (·.isEquivalent) then
    some "[=c=] expressions may not appear in string2 when translating"
  else if to_.any (·.isForeign) then
    some ("when translating, the only character classes that may appear in\n" ++
      "string2 are 'upper' and 'lower'")
  else if !complemented && misaligned then
    some "misaligned [:upper:] and/or [:lower:] construct"
  else if image.length < domain.length && !o.has ['t'] && image.isEmpty then
    some "when not truncating set1, string2 must be non-empty"
  else if image.length < domain.length && !o.has ['t'] && (to_.getLast?.map (·.isNamed)) = some true
  then
    some ("when translating with string1 longer than string2,\n" ++
      "the latter string must not end with a character class")
  else if complemented && from_.any (·.isNamed) &&
      !(image.eraseDups.length = 1 && (!o.has ['t'] || domain.length ≤ image.length)) then
    some ("when translating with complemented character classes,\n" ++
      "string2 must map all characters in the domain to one")
  else none

/-- The octets that become of the input by sets that are read. -/
def applied (o : Options) (from_ : List Member) (to_ : Option (List Member)) (input : Octets) :
    Except Octets Octets :=
  let deletes := o.has ['d']
  let squeezes := o.has ['s']
  let domain :=
    if o.has ['c', 'C'] then complement (expand 0 from_) else expand 0 from_
  if from_.any (·.isFilling) then
    .error (octets "the [c*] repeat construct may not appear in string1")
  else
    match to_ with
    | none =>
      .ok (if deletes then input.filter (!domain.contains ·) else squeeze domain none input)
    | some to_ =>
      let image := expand domain.length to_
      if (to_.filter (·.isFilling)).length > 1 then
        .error (octets "only one [c*] repeat construct may appear in string2")
      else if deletes then
        if to_.any (·.isFilling) then
          .error (octets "the [c*] construct may appear in string2 only when translating")
        else .ok (squeeze image none (input.filter (!domain.contains ·)))
      else
        match mapFault? o from_ to_ domain image with
        | some fault => .error (octets fault)
        | none =>
          let domain := if o.has ['t'] then domain.take image.length else domain
          let changed := input.map (replace domain image)
          .ok (if squeezes then squeeze image none changed else changed)

/-- The warnings, and the octets that become of the input or a complaint. -/
def answer (o : Options) (input : Octets) : Octets × Except Octets Octets :=
  let deletes := o.has ['d']
  let squeezes := o.has ['s']
  let wants := ['\n'] ++ seeHelp "tr"
  let least := if deletes == squeezes then 2 else 1
  let most := if deletes && !squeezes then 1 else 2
  match o.operands, o.operands[most]? with
  | [], _ => ([], .error (octets "missing operand" ++ wants))
  | operands, some extra =>
    let hint := if operands.length = 2 then
        "\nOnly one string may be given when deleting without squeezing repeats." else ""
    ([], .error (octets "extra operand " ++ quotedText extra ++ octets hint ++ wants))
  | from_ :: more, none =>
    if more.length + 1 < least then
      let reason := if squeezes then "both deleting and squeezing repeats" else "translating"
      ([], .error (octets "missing operand after " ++ quotedText from_ ++
        octets ("\nTwo strings must be given when " ++ reason ++ ".") ++ wants))
    else
      match membersOf from_, more with
      | .error problem, _ => (warnings from_, .error problem)
      | .ok first, [] => (warnings from_, applied o first none input)
      | .ok first, to_ :: _ =>
        (warnings from_ ++ warnings to_, do applied o first (some (← membersOf to_)) input)

def tr : Program :=
  withOptions "tr" "AcCdst".toList
    [("complement", 'c'), ("delete", 'd'), ("squeeze-repeats", 's'), ("truncate-set1", 't')] false
    fun _ options input =>
      match answer options input with
      | (warnings, .ok output) => ⟨output, warnings, 0, []⟩
      | (warnings, .error problem) =>
        let ending := if problem.getLast? = some '\n' then [] else ['\n']
        .refused (warnings ++ octets "tr: " ++ problem ++ ending) 1 input

end Scaffold.Shell.OctetMap
