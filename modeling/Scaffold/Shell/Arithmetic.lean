import Scaffold.Shell.Program

/-!
# Arithmetic

Expressions on numbers of 64 bits, with variables that they can also assign.
-/

namespace Scaffold.Shell.Arithmetic

open Text

inductive Token where
  | number (n : Nat)
  | name (x : Octets)
  | mark (s : String)
  deriving DecidableEq

inductive Term where
  | number (n : Int)
  | name (x : Octets)
  | unary (op : String) (a : Term)
  | binary (op : String) (a b : Term)
  | choice (condition yes no : Term)
  /-- The variable gets the value, or that of an operator on its own and the value. -/
  | assign (x : Octets) (op : String) (a : Term)
  deriving Inhabited

/-! ## Reading -/

/-- The marks, each before its own beginnings. -/
def marks : List String :=
  ["<<=", ">>=", "&&", "||", "<<", ">>", "<=", ">=", "==", "!=", "+=", "-=", "*=", "/=", "%=", "&=",
    "|=", "^=", "=", "<", ">", "&", "|", "^", "+", "-", "*", "/", "%", "!", "~", "?", ":", "(", ")"]

def isNameStart (c : Char) : Bool := c.isAlpha || c = '_'

/-- The number at the start, in base 16 behind `0x` and in base 8 behind `0`. -/
def numberHere (cs : Octets) : Nat × Octets :=
  let inBase (base : Nat) (cs : Octets) : Nat × Octets :=
    let digits := cs.takeWhile fun c => ((hexDigit? c).filter (· < base)).isSome
    (digits.foldl (fun n c => base * n + (hexDigit? c).getD 0) 0, cs.drop digits.length)
  match cs with
  | '0' :: 'x' :: rest | '0' :: 'X' :: rest => inBase 16 rest
  | '0' :: rest => inBase 8 rest
  | cs => inBase 10 cs

/-- The tokens of an expression; what is no token is a mark of its own. -/
def tokens : Nat → Octets → List Token
  | 0, _ | _ + 1, [] => []
  | fuel + 1, c :: cs =>
    if c = ' ' || c = '\t' || c = '\n' then tokens fuel cs
    else if isAsciiDigit c then
      let (n, rest) := numberHere (c :: cs)
      .number n :: tokens fuel rest
    else if isNameStart c then
      let name := (c :: cs).takeWhile fun c => isNameStart c || isAsciiDigit c
      .name name :: tokens fuel ((c :: cs).drop name.length)
    else
      match marks.findSome? fun m => (stripPrefixChars m.toList (c :: cs)).map fun rest => (m, rest) with
      | some (m, rest) => .mark m :: tokens fuel rest
      | none => [.mark ""]

abbrev Reading (α : Type) := StateT (List Token) (Except String) α

/-- Takes one of some marks when it comes next. -/
def mark? (among : List String) : Reading (Option String) := do
  match ← get with
  | .mark m :: rest =>
    if among.contains m then
      set rest
      return some m
    else return none
  | _ => return none

def need (m : String) (problem : String) : Reading Unit := do
  if (← mark? [m]).isNone then throw problem

/-- The binary operators from the loosest to the tightest. -/
def levels : List (List String) :=
  [["||"], ["&&"], ["|"], ["^"], ["&"], ["==", "!="], ["<=", ">=", "<", ">"], ["<<", ">>"],
    ["+", "-"], ["*", "/", "%"]]

def assignments : List String :=
  ["=", "+=", "-=", "*=", "/=", "%=", "&=", "|=", "^=", "<<=", ">>="]

mutual

/-- An expression that may assign or choose. -/
def expression : Nat → Reading Term
  | 0 => throw "expecting primary"
  | fuel + 1 => do
    match ← get with
    | .name x :: .mark m :: rest =>
      if assignments.contains m then
        set rest
        return .assign x (String.ofList m.toList.dropLast) (← expression fuel)
      else choice fuel
    | _ => choice fuel

def choice : Nat → Reading Term
  | 0 => throw "expecting primary"
  | fuel + 1 => do
    let condition ← operations fuel levels
    if (← mark? ["?"]).isSome then
      let yes ← expression fuel
      need ":" "expecting ':'"
      return .choice condition yes (← choice fuel)
    else return condition

/-- Operations of some levels. -/
def operations : Nat → List (List String) → Reading Term
  | 0, _ => throw "expecting primary"
  | fuel + 1, [] => operand fuel
  | fuel + 1, level :: tighter => do
    let first ← operations fuel tighter
    moreOperations fuel level tighter first

def moreOperations : Nat → List String → List (List String) → Term → Reading Term
  | 0, _, _, first => return first
  | fuel + 1, level, tighter, first => do
    match ← mark? level with
    | some op =>
      let next ← operations fuel tighter
      moreOperations fuel level tighter (.binary op first next)
    | none => return first

def operand : Nat → Reading Term
  | 0 => throw "expecting primary"
  | fuel + 1 => do
    match ← get with
    | .number n :: rest =>
      set rest
      return .number n
    | .name x :: rest =>
      set rest
      return .name x
    | .mark "(" :: rest =>
      set rest
      let inner ← expression fuel
      need ")" "expecting ')'"
      return inner
    | _ =>
      match ← mark? ["+", "-", "!", "~"] with
      | some op => return .unary op (← operand fuel)
      | none => throw "expecting primary"

end

/-- Reads an expression, or tells what is missing; an empty one is zero. -/
def parse (text : Octets) : Except String Term :=
  match tokens (text.length + 1) text with
  | [] => .ok (.number 0)
  | ts =>
    let fuel := 16 * ts.length + 32
    match (expression fuel).run ts with
    | .ok (term, []) => .ok term
    | .ok _ => .error "expecting EOF"
    | .error problem => .error problem

/-! ## Values -/

/-- The number of 64 bits that agrees with `n`. -/
def wrapped (n : Int) : Int := n.bmod 0x10000000000000000

def ofBool (b : Bool) : Int := if b then 1 else 0

def bitwise (f : Nat → Nat → Nat) (a b : Int) : Int :=
  wrapped (f (a % 0x10000000000000000).toNat (b % 0x10000000000000000).toNat)

/-- The value of an operation; there is none of a division by zero. -/
def applied? (op : String) (a b : Int) : Option Int :=
  match op with
  | "+" => some (wrapped (a + b))
  | "-" => some (wrapped (a - b))
  | "*" => some (wrapped (a * b))
  | "/" => if b = 0 then none else some (wrapped (a.tdiv b))
  | "%" => if b = 0 then none else some (a.tmod b)
  | "<<" => some (wrapped (a * Nat.pow 2 (b % 64).toNat))
  | ">>" => some (a / Nat.pow 2 (b % 64).toNat)
  | "<" => some (ofBool (a < b))
  | "<=" => some (ofBool (a ≤ b))
  | ">" => some (ofBool (b < a))
  | ">=" => some (ofBool (b ≤ a))
  | "==" => some (ofBool (a = b))
  | "!=" => some (ofBool (a ≠ b))
  | "&" => some (bitwise (· &&& ·) a b)
  | "^" => some (bitwise (· ^^^ ·) a b)
  | "|" => some (bitwise (· ||| ·) a b)
  | _ => some b

/-- Why an expression has no value. -/
inductive Fault where
  /-- Something is wrong with the expression. -/
  | expression (problem : String)
  /-- A variable does not hold a number. -/
  | number (text : Octets)

/-- The number that a text holds, with a sign and blanks around it. -/
def number? (text : Octets) : Option Int :=
  let isBlank (c : Char) : Bool := c = ' ' || ('\t' ≤ c && c ≤ '\x0d')
  let trimmed := (((text.dropWhile isBlank).reverse).dropWhile isBlank).reverse
  let (negative, digits) := match trimmed with
    | '-' :: rest => (true, rest)
    | '+' :: rest => (false, rest)
    | rest => (false, rest)
  match digits with
  | [] => none
  | c :: _ =>
    match numberHere digits with
    | (n, []) => if isAsciiDigit c then some (if negative then -(n : Int) else n) else none
    | _ => none

/-- The values of variables that an expression assigned, the last ones first. -/
abbrev Assigned := List (Octets × Int)

abbrev Evaluation (α : Type) := StateT Assigned (Except Fault) α

/-- The number that a variable holds; one that is empty or not set counts as zero. -/
def valueOf (vars : Octets → Option Octets) (x : Octets) : Evaluation Int := do
  match (← get).lookup x with
  | some n => return n
  | none =>
    match vars x with
    | none | some [] => return 0
    | some text =>
      match number? text with
      | some n => return wrapped n
      | none => throw (.number text)

def applied (op : String) (a b : Int) : Evaluation Int :=
  match applied? op a b with
  | some n => return n
  | none => throw (.expression "division by zero")

def Term.value (vars : Octets → Option Octets) : Term → Evaluation Int
  | .number n => return wrapped n
  | .name x => valueOf vars x
  | .unary op a => do
    let n ← a.value vars
    match op with
    | "-" => return wrapped (-n)
    | "!" => return ofBool (n = 0)
    | "~" => return -n - 1
    | _ => return n
  | .binary op a b => do
    let n ← a.value vars
    if op = "&&" then
      if n = 0 then return 0 else return ofBool ((← b.value vars) ≠ 0)
    else if op = "||" then
      if n ≠ 0 then return 1 else return ofBool ((← b.value vars) ≠ 0)
    else applied op n (← b.value vars)
  | .choice condition yes no => do
    if (← condition.value vars) ≠ 0 then yes.value vars else no.value vars
  | .assign x op a => do
    let new ← a.value vars
    let n ← if op = "" then pure new else applied op (← valueOf vars x) new
    modify fun assigned => (x, n) :: assigned
    return n

/-- The value of an expression, and the variables that it assigned. -/
def evaluate (vars : Octets → Option Octets) (text : Octets) : Except Fault (Int × Assigned) :=
  match parse text with
  | .error problem => .error (.expression problem)
  | .ok term => (term.value vars).run []

end Scaffold.Shell.Arithmetic
