import Scaffold.Shell.Arithmetic

/-!
# Conditions

The expressions of `test` and `[`: texts and numbers are compared, files looked
up, and the outcomes joined.
-/

namespace Scaffold.Shell.Condition

def unaryOperators : List String :=
  ["-n", "-z", "-b", "-c", "-d", "-e", "-f", "-g", "-G", "-h", "-k", "-L", "-O", "-p", "-r", "-s",
    "-S", "-t", "-u", "-w", "-x"]

def numberOperators : List String := ["-eq", "-ne", "-lt", "-le", "-gt", "-ge"]

def binaryOperators : List String :=
  ["=", "!=", "<", ">", "-nt", "-ot", "-ef"] ++ numberOperators

def isIn (operators : List String) (arg : Octets) : Bool := operators.contains (String.ofList arg)

/-- Directories that are always there. -/
def directories : List String := ["/", ".", "..", "/bin", "/dev", "/etc", "/tmp", "/usr", "/usr/bin"]

/-- Whether a file is what an operator asks for. -/
def fileIs (files : Files) (op : String) (name : Octets) : Bool :=
  let isDirectory := isIn directories name
  let isDevice := name = octets "/dev/null"
  let content := files.lookup name
  match op with
  | "-d" => isDirectory
  | "-c" => isDevice
  | "-f" => content.isSome
  | "-s" => isDirectory || (content.map (!·.isEmpty)).getD false
  | "-x" => isDirectory
  | "-e" | "-r" | "-w" | "-O" | "-G" => isDirectory || isDevice || content.isSome
  | _ => false

def numberOf (arg : Octets) : Except Octets Int :=
  match Arithmetic.number? arg with
  | some n => .ok n
  | none => .error (octets "Illegal number: " ++ arg)

def unary (files : Files) (op : String) (arg : Octets) : Except Octets Bool :=
  match op with
  | "-n" => .ok (!arg.isEmpty)
  | "-z" => .ok arg.isEmpty
  | "-t" => (numberOf arg).map fun _ => false
  | op => .ok (fileIs files op arg)

def binary (op : String) (a b : Octets) : Except Octets Bool := do
  match op with
  | "=" => return a == b
  | "!=" => return a != b
  | "<" => return a < b
  | ">" => return b < a
  | "-nt" | "-ot" | "-ef" => return false
  | op =>
    let m ← numberOf a
    let n ← numberOf b
    match op with
    | "-eq" => return m == n
    | "-ne" => return m != n
    | "-lt" => return m < n
    | "-le" => return m ≤ n
    | "-gt" => return n < m
    | _ => return n ≤ m

abbrev Reading (α : Type) := StateT (List Octets) (Except Octets) α

/-- Whether the first argument stands for itself though it looks like an operator:
it is the last one, or a binary operator and an operand follow. -/
def isOperand : List Octets → Bool
  | [_] => true
  | [_, _] => false
  | _ :: next :: _ :: _ => isIn binaryOperators next
  | [] => true

mutual

/-- Conditions of which one must hold. -/
def anyOf (files : Files) : Nat → Reading Bool
  | 0 => return false
  | fuel + 1 => do
    let first ← allOf files fuel
    match ← get with
    | ['-', 'o'] :: rest =>
      set rest
      let more ← anyOf files fuel
      return first || more
    | _ => return first

def allOf (files : Files) : Nat → Reading Bool
  | 0 => return false
  | fuel + 1 => do
    let first ← single files fuel
    match ← get with
    | ['-', 'a'] :: rest =>
      set rest
      let more ← allOf files fuel
      return first && more
    | _ => return first

def single (files : Files) : Nat → Reading Bool
  | 0 => return false
  | fuel + 1 => do
    let args ← get
    match args with
    | [] => return false
    | arg :: rest =>
      if arg = ['!'] && !isOperand args then
        set rest
        return !(← single files fuel)
      else if arg = ['('] && !isOperand args then
        set rest
        let inner ← anyOf files fuel
        match ← get with
        | [')'] :: rest =>
          set rest
          return inner
        | _ => throw (octets "closing paren expected")
      else if isIn unaryOperators arg && !isOperand args then
        set (rest.drop 1)
        unary files (String.ofList arg) (rest.headD [])
      else
        match rest with
        | op :: operands =>
          if isIn binaryOperators op then
            match operands with
            | [] => throw (op ++ octets ": argument expected")
            | b :: rest =>
              set rest
              binary (String.ofList op) arg b
          else
            set rest
            return !arg.isEmpty
        | [] =>
          set rest
          return !arg.isEmpty

end

/-- Conditions joined without a special reading of three arguments. -/
def joined (files : Files) (args : List Octets) : Except Octets Bool := do
  let (outcome, rest) ← (anyOf files (4 * args.length + 4)).run args
  match rest, (args.take (args.length - rest.length)).getLast? with
  | _ :: _, some last => throw (last ++ octets ": unexpected operator")
  | _, _ => return outcome

/-- Whether the condition that some arguments state holds, or what is wrong with them.
Three arguments with a binary operator between compare, whatever the others look like. -/
def holds (files : Files) : List Octets → Except Octets Bool
  | [] => .ok false
  | [a, op, b] =>
    if isIn binaryOperators op then binary (String.ofList op) a b
    else if a = ['('] && b = [')'] then .ok (!op.isEmpty)
    else if a = ['!'] then (joined files [op, b]).map (!·)
    else joined files [a, op, b]
  | ['!'] :: a :: b :: c :: [] => (holds files [a, b, c]).map (!·)
  | args => joined files args

/-- The outcome of `test` or of `[` with its arguments: the status, or a complaint. -/
def status (files : Files) (name : Octets) (args : List Octets) : Except Octets Nat := do
  let args ← if name = ['['] then
      if args.getLast? = some [']'] then pure args.dropLast else throw (octets "missing ]")
    else pure args
  return if ← holds files args then 0 else 1

end Scaffold.Shell.Condition
