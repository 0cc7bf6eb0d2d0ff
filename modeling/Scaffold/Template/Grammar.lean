import Scaffold.Json.Reader
import Scaffold.Template.Tree
import Scaffold.Text.Cut

/-!
# The grammar of expressions

Each reader takes the characters that are left and returns what it read with
the characters after it. Choices are ordered: the first alternative that reads
something is final, and an optional part that can be read always is. Blanks may
stand between any two parts of an expression but not inside a path.
-/

namespace Scaffold.Template.Grammar

open Text

/-- What a reader gives back. -/
abbrev Reading (α : Type) := Option (α × List Char)

/-! ## Characters and words -/

def isSpace (c : Char) : Bool := c = ' ' || c = '\t' || c = '\r' || c = '\n'

def skipSpace (cs : List Char) : List Char := cs.dropWhile isSpace

def isNameStart (c : Char) : Bool :=
  ('a' ≤ c && c ≤ 'z') || ('A' ≤ c && c ≤ 'Z') || c = '_'

def isNameChar (c : Char) : Bool := isNameStart c || isAsciiDigit c

/-- A fixed text, after blanks. -/
def token (word : String) (cs : List Char) : Option (List Char) :=
  stripPrefixChars word.toList (skipSpace cs)

/-- A word that a blank must follow, after blanks. -/
def spacedWord (word : String) (cs : List Char) : Option (List Char) :=
  match token word cs with
  | some (c :: rest) => if isSpace c then some rest else none
  | _ => none

/-- A name, at once. -/
def nameHere : List Char → Reading String
  | c :: rest =>
    if isNameStart c then
      some (String.ofList (c :: rest.takeWhile isNameChar), rest.dropWhile isNameChar)
    else none
  | [] => none

/-- A name, after blanks. -/
def name (cs : List Char) : Reading String := nameHere (skipSpace cs)

/-! ## Literals -/

/-- The characters of a quoted text, whose quote cannot stand inside it. -/
def quotedHere : List Char → Reading String
  | q :: rest =>
    if q = '"' || q = '\'' || q = '\x60' then
      match rest.dropWhile (· != q) with
      | _ :: after => some (String.ofList (rest.takeWhile (· != q)), after)
      | [] => none
    else none
  | [] => none

def quoted (cs : List Char) : Reading String := quotedHere (skipSpace cs)

/-- The digits of a whole number: a zero alone or digits that start with another one. -/
def wholeDigits : List Char → Reading (List Char)
  | '0' :: rest => some (['0'], rest)
  | c :: rest =>
    if isAsciiDigit c then some (c :: rest.takeWhile isAsciiDigit, rest.dropWhile isAsciiDigit)
    else none
  | [] => none

def sign : List Char → Bool × List Char
  | '-' :: rest => (true, rest)
  | cs => (false, cs)

/-- A number with a point, at once. -/
def floatHere (cs : List Char) : Reading Binary64 :=
  let (negative, cs) := sign cs
  match wholeDigits cs with
  | some (whole, '.' :: rest) =>
    let fraction := rest.takeWhile isAsciiDigit
    if fraction.isEmpty then none
    else
      some (Binary64.ofDecimal negative (digitsValue (whole ++ fraction))
        (-(fraction.length : Int)), rest.dropWhile isAsciiDigit)
  | _ => none

/-- A whole number as it is written, at once. -/
def intHere (cs : List Char) : Reading Int :=
  let (negative, cs) := sign cs
  match wholeDigits cs with
  | some (digits, rest) =>
    let n : Int := digitsValue digits
    some (if negative then -n else n, rest)
  | none => none

/-- Whole numbers have 64 bits and a sign. -/
def isInRange (n : Int) : Bool := -0x8000000000000000 ≤ n && n < 0x8000000000000000

def boolHere (cs : List Char) : Reading Bool :=
  match stripPrefixChars "true".toList cs, stripPrefixChars "false".toList cs,
      stripPrefixChars "True".toList cs, stripPrefixChars "False".toList cs with
  | some rest, _, _, _ => some (true, rest)
  | _, some rest, _, _ => some (false, rest)
  | _, _, some rest, _ => some (true, rest)
  | _, _, _, some rest => some (false, rest)
  | _, _, _, _ => none

/-! ## Paths -/

/-- One or more name characters after a point. -/
def pointStep : List Char → Reading (List Char)
  | '.' :: rest =>
    let part := rest.takeWhile isNameChar
    if part.isEmpty then none else some ('.' :: part, rest.dropWhile isNameChar)
  | _ => none

mutual

/-- The characters of a path: a name with points and square brackets behind it. -/
def pathChars : Nat → List Char → Reading (List Char)
  | 0, _ => none
  | fuel + 1, cs =>
    match nameHere cs with
    | none => none
    | some (first, rest) =>
      let (tail, rest) := pathTail fuel rest
      some (first.toList ++ tail, rest)

/-- The steps behind the first name. -/
def pathTail : Nat → List Char → List Char × List Char
  | 0, cs => ([], cs)
  | fuel + 1, cs =>
    match pointStep cs with
    | some (part, rest) =>
      let (tail, rest) := pathTail fuel rest
      (part ++ tail, rest)
    | none =>
      match bracketStep fuel cs with
      | some (part, rest) =>
        let (tail, rest) := pathTail fuel rest
        (part ++ tail, rest)
      | none => ([], cs)

/-- A whole number, a quoted text or a path between square brackets. -/
def bracketStep : Nat → List Char → Reading (List Char)
  | 0, _ => none
  | fuel + 1, '[' :: cs =>
    let inner : Reading (List Char) :=
      match intHere cs with
      | some (_, rest) => some (cs.take (cs.length - rest.length), rest)
      | none =>
        match quotedHere cs with
        | some (_, rest) => some (cs.take (cs.length - rest.length), rest)
        | none => pathChars fuel cs
    match inner with
    | some (part, ']' :: rest) => some ('[' :: part ++ [']'], rest)
    | _ => none
  | _ + 1, _ => none

end

def pathHere (cs : List Char) : Reading String :=
  (pathChars (2 * cs.length + 2) cs).map fun (path, rest) => (String.ofList path, rest)

def path (cs : List Char) : Reading String := pathHere (skipSpace cs)

/-! ## Operators -/

def mathOp (cs : List Char) : Reading MathOp :=
  match skipSpace cs with
  | '+' :: rest => some (.add, rest)
  | '-' :: rest => some (.sub, rest)
  | '*' :: rest => some (.mul, rest)
  | '/' :: rest => some (.div, rest)
  | '%' :: rest => some (.rem, rest)
  | _ => none

def comparisonOp (cs : List Char) : Reading LogicOp :=
  match skipSpace cs with
  | '<' :: '=' :: rest => some (.le, rest)
  | '>' :: '=' :: rest => some (.ge, rest)
  | '>' :: rest => some (.gt, rest)
  | '<' :: rest => some (.lt, rest)
  | '=' :: '=' :: rest => some (.eq, rest)
  | '!' :: '=' :: rest => some (.ne, rest)
  | _ => none

def connective (cs : List Char) : Reading LogicOp :=
  match spacedWord "or" cs with
  | some rest => some (.or, rest)
  | none => (spacedWord "and" cs).map fun rest => (.and, rest)

/-- Whether an operator binds its operands before the other kind does. -/
def MathOp.isTight : MathOp → Bool
  | .mul | .div | .rem => true
  | .add | .sub => false

/-- Groups operands from the left, those of tight operators first. `done` is
the sum so far with the operator behind it, `current` the product so far. -/
def climb {α β : Type} (tight : β → Bool) (combine : β → α → α → α) :
    Option (α × β) → α → List (β × α) → α
  | none, current, [] => current
  | some (done, op), current, [] => combine op done current
  | done, current, (op, next) :: rest =>
    if tight op then climb tight combine done (combine op current next) rest
    else
      match done with
      | none => climb tight combine (some (current, op)) next rest
      | some (before, earlier) =>
        climb tight combine (some (combine earlier before current, op)) next rest

def climbOperands (first : Operand) (rest : List (MathOp × Operand)) : Operand :=
  climb MathOp.isTight (fun op a b => .math op (.ofOperand a) (.ofOperand b)) none first rest

def climbMath (first : Expr) (rest : List (MathOp × Expr)) : Expr :=
  climb MathOp.isTight (fun op a b => .ofOperand (.math op a b)) none first rest

def climbLogic (first : Expr) (rest : List (LogicOp × Expr)) : Expr :=
  climb (· == .and) (fun op a b => .ofOperand (.logic op a b)) none first rest

/-! ## Joined texts -/

/-- Joins neighbouring texts; a join of nothing but texts is a text. -/
def foldConcat (parts : List Operand) : Operand :=
  let step (part : Operand) (folded : List Operand) : List Operand :=
    match part, folded with
    | .text "", folded => folded
    | .text s, .text t :: rest => .text (s ++ t) :: rest
    | part, folded => part :: folded
  match parts.foldr step [] with
  | [] => .text ""
  | [.text s] => .text s
  | folded => .concat folded

/-- Replaces the value of an argument that was given before, else adds it. -/
def putArg (name : String) (value : Expr) : List (String × Expr) → List (String × Expr)
  | [] => [(name, value)]
  | (k, v) :: rest => if k = name then (k, value) :: rest else (k, v) :: putArg name value rest

/-! ## Expressions -/

mutual

/-- Logic values joined by `or` and `and`; `and` binds tighter. -/
def logicExpr : Nat → List Char → Reading Expr
  | 0, _ => none
  | fuel + 1, cs =>
    match logicValue fuel cs with
    | none => none
    | some (first, rest) =>
      let (more, rest) := logicRest fuel rest
      some (climbLogic first more, rest)

def logicRest : Nat → List Char → List (LogicOp × Expr) × List Char
  | 0, cs => ([], cs)
  | fuel + 1, cs =>
    match connective cs with
    | none => ([], cs)
    | some (op, rest) =>
      match logicValue fuel rest with
      | none => ([], cs)
      | some (value, rest) =>
        let (more, rest) := logicRest fuel rest
        ((op, value) :: more, rest)

/-- A condition, with or without `not`, or an expression in parentheses. -/
def logicValue : Nat → List Char → Reading Expr
  | 0, _ => none
  | fuel + 1, cs =>
    let condition : Reading Expr :=
      match spacedWord "not" cs with
      | some rest => (comparison fuel rest).map fun (e, rest) => (e.withNegation true, rest)
      | none => (comparison fuel cs).map fun (e, rest) => (e.withNegation false, rest)
    match condition with
    | some found => some found
    | none =>
      match token "(" cs with
      | none => none
      | some rest =>
        match logicExpr fuel rest with
        | none => none
        | some (e, rest) => (token ")" rest).map fun rest => (e.withNegation false, rest)

/-- Membership or a comparison of at most two values. -/
def comparison : Nat → List Char → Reading Expr
  | 0, _ => none
  | fuel + 1, cs =>
    match textExpr fuel cs with
    | some (left, rest) =>
      match membership fuel left rest with
      | some found => some found
      | none => comparisonRest fuel left rest
    | none =>
      match basicExpr fuel cs with
      | none => none
      | some (left, rest) =>
        match membership fuel left rest with
        | some found => some found
        | none =>
          let (more, rest) := mathRest fuel rest
          comparisonRest fuel (climbMath left more) rest

/-- `in` or `not in` and a container, behind the item. -/
def membership : Nat → Expr → List Char → Reading Expr
  | 0, _, _ => none
  | fuel + 1, item, cs =>
    let (negated, rest) :=
      match spacedWord "not" cs with
      | some rest => (true, rest)
      | none => (false, cs)
    match token "in" rest with
    | none => none
    | some rest =>
      (container fuel rest).map fun (e, rest) => (.ofOperand (.member negated item e), rest)

/-- What `in` looks into: a text, a list or a path. -/
def container : Nat → List Char → Reading Expr
  | 0, _ => none
  | fuel + 1, cs =>
    match textExpr fuel cs with
    | some found => some found
    | none =>
      match listExpr fuel cs with
      | some found => some found
      | none => (path cs).map fun (p, rest) => (.ofOperand (.name p), rest)

/-- A comparison operator and the right side, if they are there. -/
def comparisonRest : Nat → Expr → List Char → Reading Expr
  | 0, left, cs => some (left, cs)
  | fuel + 1, left, cs =>
    match comparisonOp cs with
    | none => some (left, cs)
    | some (op, rest) =>
      match textExpr fuel rest with
      | some (right, rest) => some (.ofOperand (.logic op left right), rest)
      | none =>
        match basicExpr fuel rest with
        | none => some (left, cs)
        | some (right, rest) =>
          let (more, rest) := mathRest fuel rest
          some (.ofOperand (.logic op left (climbMath right more)), rest)

/-- Arithmetic behind a filtered value. -/
def mathRest : Nat → List Char → List (MathOp × Expr) × List Char
  | 0, cs => ([], cs)
  | fuel + 1, cs =>
    match mathOp cs with
    | none => ([], cs)
    | some (op, rest) =>
      match basicExpr fuel rest with
      | none => ([], cs)
      | some (value, rest) =>
        let (more, rest) := mathRest fuel rest
        ((op, value) :: more, rest)

/-- A quoted or joined text with filters. -/
def textExpr : Nat → List Char → Reading Expr
  | 0, _ => none
  | fuel + 1, cs =>
    let joined : Reading Operand :=
      match concatPart fuel cs with
      | none => none
      | some (first, rest) =>
        match concatRest fuel rest with
        | ([], _) => none
        | (more, rest) => some (foldConcat (first :: more), rest)
    let operand : Reading Operand :=
      match joined with
      | some found => some found
      | none => (quoted cs).map fun (s, rest) => (.text s, rest)
    match operand with
    | none => none
    | some (operand, rest) =>
      let (filters, rest) := filterChain fuel rest
      some (.mk operand false filters, rest)

/-- The parts behind the first one of a joined text. -/
def concatRest : Nat → List Char → List Operand × List Char
  | 0, cs => ([], cs)
  | fuel + 1, cs =>
    match token "~" cs with
    | none => ([], cs)
    | some rest =>
      match concatPart fuel rest with
      | none => ([], cs)
      | some (part, rest) =>
        let (more, rest) := concatRest fuel rest
        (part :: more, rest)

def concatPart : Nat → List Char → Reading Operand
  | 0, _ => none
  | fuel + 1, cs =>
    let here := skipSpace cs
    match callHere fuel here with
    | some (c, rest) => some (.call c, rest)
    | none =>
      match floatHere here with
      | some (x, rest) => some (.float x, rest)
      | none =>
        match intHere here with
        | some (n, rest) => if isInRange n then some (.int n, rest) else none
        | none =>
          match quotedHere here with
          | some (s, rest) => some (.text s, rest)
          | none => (pathHere here).map fun (p, rest) => (.name p, rest)

/-- Arithmetic with filters behind the whole of it. -/
def basicExpr : Nat → List Char → Reading Expr
  | 0, _ => none
  | fuel + 1, cs =>
    match arithmetic fuel cs with
    | none => none
    | some (operand, rest) =>
      let (filters, rest) := filterChain fuel rest
      some (.mk operand false filters, rest)

/-- Operands joined by arithmetic operators. -/
def arithmetic : Nat → List Char → Reading Operand
  | 0, _ => none
  | fuel + 1, cs =>
    match operandOrGroup fuel cs with
    | none => none
    | some (first, rest) =>
      let (more, rest) := arithmeticRest fuel rest
      some (climbOperands first more, rest)

def arithmeticRest : Nat → List Char → List (MathOp × Operand) × List Char
  | 0, cs => ([], cs)
  | fuel + 1, cs =>
    match mathOp cs with
    | none => ([], cs)
    | some (op, rest) =>
      match operandOrGroup fuel rest with
      | none => ([], cs)
      | some (value, rest) =>
        let (more, rest) := arithmeticRest fuel rest
        ((op, value) :: more, rest)

/-- An operand or arithmetic in parentheses. -/
def operandOrGroup : Nat → List Char → Reading Operand
  | 0, _ => none
  | fuel + 1, cs =>
    let group : Reading Operand :=
      match token "(" cs with
      | none => none
      | some rest =>
        match arithmetic fuel rest with
        | none => none
        | some (operand, rest) => (token ")" rest).map fun rest => (operand, rest)
    match group with
    | some found => some found
    | none => operand fuel cs

def operand : Nat → List Char → Reading Operand
  | 0, _ => none
  | fuel + 1, cs =>
    let here := skipSpace cs
    match boolHere here with
    | some (b, rest) => some (.bool b, rest)
    | none =>
      match test fuel here with
      | some found => some found
      | none =>
        match expansion fuel here with
        | some found => some found
        | none =>
          match callHere fuel here with
          | some (c, rest) => some (.call c, rest)
          | none =>
            match pathHere here with
            | some (p, rest) => some (.name p, rest)
            | none =>
              match floatHere here with
              | some (x, rest) => some (.float x, rest)
              | none =>
                match intHere here with
                | some (n, rest) => if isInRange n then some (.int n, rest) else none
                | none => none

/-- A path, `is` or `is not`, and a test with or without arguments. -/
def test : Nat → List Char → Reading Operand
  | 0, _ => none
  | fuel + 1, cs =>
    match pathHere cs with
    | none => none
    | some (p, rest) =>
      match token "is" rest with
      | none => none
      | some rest =>
        let negative : Reading Operand :=
          match token "not" rest with
          | none => none
          | some rest =>
            (testCall fuel rest).map fun ((t, args), rest) => (.test p true t args, rest)
        match negative with
        | some found => some found
        | none =>
          (testCall fuel rest).map fun ((t, args), rest) => (.test p false t args, rest)

def testCall : Nat → List Char → Reading (String × List Expr)
  | 0, _ => none
  | fuel + 1, cs =>
    match name cs with
    | none => none
    | some (t, rest) =>
      match token "(" rest with
      | none => some ((t, []), rest)
      | some inner =>
        match testArgs fuel inner with
        | ([], _) => some ((t, []), rest)
        | (args, after) =>
          match token ")" after with
          | some after => some ((t, args), after)
          | none => some ((t, []), rest)

/-- Arguments between commas. -/
def testArgs : Nat → List Char → List Expr × List Char
  | 0, cs => ([], cs)
  | fuel + 1, cs =>
    match argument fuel cs with
    | none => ([], cs)
    | some (arg, rest) =>
      match token "," rest with
      | none => ([arg], rest)
      | some after =>
        match testArgs fuel after with
        | ([], _) => ([arg], rest)
        | (more, rest) => (arg :: more, rest)

/-- What an argument can be: any expression or a list. -/
def argument : Nat → List Char → Reading Expr
  | 0, _ => none
  | fuel + 1, cs =>
    match logicExpr fuel cs with
    | some found => some found
    | none => listExpr fuel cs

/-- Two names with two colons between them, and arguments. -/
def expansion : Nat → List Char → Reading Operand
  | 0, _ => none
  | fuel + 1, cs =>
    match nameHere cs with
    | none => none
    | some (space, rest) =>
      match token "::" rest with
      | none => none
      | some rest =>
        match name rest with
        | none => none
        | some (target, rest) =>
          (arguments fuel rest).map fun (args, rest) => (.expand space target args, rest)

/-- A name and arguments in parentheses. -/
def callHere : Nat → List Char → Reading Call
  | 0, _ => none
  | fuel + 1, cs =>
    match nameHere cs with
    | none => none
    | some (function, rest) =>
      (arguments fuel rest).map fun (args, rest) => (.mk function args, rest)

/-- Named arguments in parentheses; of two with one name the later counts. -/
def arguments : Nat → List Char → Reading (List (String × Expr))
  | 0, _ => none
  | fuel + 1, cs =>
    match token "(" cs with
    | none => none
    | some rest =>
      let (args, rest) := namedArgs fuel [] rest
      let rest :=
        if args.isEmpty then rest
        else
          match token "," rest with
          | some after => after
          | none => rest
      (token ")" rest).map fun rest => (args, rest)

def namedArgs : Nat → List (String × Expr) → List Char → List (String × Expr) × List Char
  | 0, done, cs => (done, cs)
  | fuel + 1, done, cs =>
    let start : Option (List Char) :=
      if done.isEmpty then some cs else token "," cs
    let one : Reading (String × Expr) :=
      match start.bind name with
      | none => none
      | some (key, rest) =>
        match token "=" rest with
        | none => none
        | some rest => (argument fuel rest).map fun (value, rest) => ((key, value), rest)
    match one with
    | none => (done, cs)
    | some ((key, value), rest) => namedArgs fuel (putArg key value done) rest

/-- Filters behind bars. -/
def filterChain : Nat → List Char → List Call × List Char
  | 0, cs => ([], cs)
  | fuel + 1, cs =>
    match token "|" cs with
    | none => ([], cs)
    | some rest =>
      match filterCall fuel rest with
      | none => ([], cs)
      | some (call, rest) =>
        let (more, rest) := filterChain fuel rest
        (call :: more, rest)

/-- A filter, whose parentheses may be left out. -/
def filterCall : Nat → List Char → Reading Call
  | 0, _ => none
  | fuel + 1, cs =>
    match callHere fuel (skipSpace cs) with
    | some found => some found
    | none => (name cs).map fun (filter, rest) => (.mk filter [], rest)

/-- A list with filters. -/
def listExpr : Nat → List Char → Reading Expr
  | 0, _ => none
  | fuel + 1, cs =>
    match token "[" cs with
    | none => none
    | some rest =>
      let (items, rest) := listItems fuel rest
      let rest := if items.isEmpty then rest else (token "," rest).getD rest
      match token "]" rest with
      | none => none
      | some rest =>
        let (filters, rest) := filterChain fuel rest
        some (.mk (.list items) false filters, rest)

def listItems : Nat → List Char → List Expr × List Char
  | 0, cs => ([], cs)
  | fuel + 1, cs =>
    match logicValue fuel cs with
    | none => ([], cs)
    | some (item, rest) =>
      match token "," rest with
      | none => ([item], rest)
      | some after =>
        match listItems fuel after with
        | ([], _) => ([item], rest)
        | (more, rest) => (item :: more, rest)

end

/-- Steps of depth that reading a text can take: a fixed number per character. -/
def depthFor (cs : List Char) : Nat := 32 * (cs.length + 1)

/-- Any expression or a list. -/
def anyExpr (cs : List Char) : Reading Expr := argument (depthFor cs) cs

/-- Any expression but a list alone. -/
def condition (cs : List Char) : Reading Expr := logicExpr (depthFor cs) cs

/-- What a loop runs over: arithmetic with filters, or a list. -/
def loopContainer (cs : List Char) : Reading Expr :=
  match basicExpr (depthFor cs) cs with
  | some found => some found
  | none => listExpr (depthFor cs) cs

/-- The filter of a section. -/
def sectionFilter (cs : List Char) : Reading Call := filterCall (depthFor cs) cs

/-- The value that a parameter has when no argument is given, at once. -/
def literalHere (cs : List Char) : Reading Operand :=
  match boolHere cs with
  | some (b, rest) => some (.bool b, rest)
  | none =>
    match quotedHere cs with
    | some (s, rest) => some (.text s, rest)
    | none =>
      match floatHere cs with
      | some (x, rest) => some (.float x, rest)
      | none =>
        match intHere cs with
        | some (n, rest) => if isInRange n then some (.int n, rest) else none
        | none => none

end Scaffold.Template.Grammar
