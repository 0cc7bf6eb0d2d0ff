import Scaffold.Template.Filter
import Scaffold.Text.Pattern.Grammar

/-!
# Tests and functions

A test asks something of a value that need not exist; only the tests about
existence answer for a value that does not. A function makes a value of named
arguments.
-/

namespace Scaffold.Template

open Text

abbrev Test := Option Value → List Value → Except Fault Bool

namespace Test

/-- A test with at most `most` arguments. -/
def limited (name : String) (most : Nat) (test : Test) : Test := fun v args =>
  if most < args.length then
    if most = 0 then
      .error (.other ("Tester \x60" ++ name ++
        "\x60 was called with some args but this test doesn't take args"))
    else
      .error (.other ("Tester \x60" ++ name ++ "\x60 was called with " ++ toString args.length ++
        " args, the max number is " ++ toString most))
  else test v args

/-- A test about a value that exists. -/
def onValue (name : String) (most : Nat) (test : Value → List Value → Except Fault Bool) : Test :=
  limited name most fun v args =>
    match v with
    | some v => test v args
    | none =>
      .error (.other ("Tester \x60" ++ name ++ "\x60 was called on an undefined variable"))

/-- A property of values. -/
def property (name : String) (holds : Value → Bool) : Test :=
  onValue name 0 fun v _ => .ok (holds v)

def notANumber {α : Type} (name place : String) : Except Fault α :=
  .error (.other ("Tester \x60" ++ name ++ "\x60 was called " ++ place ++ " that isn't a number"))

def textOf (name place : String) (v : Option Value) : Except Fault String :=
  match v with
  | some (.text s) => .ok s
  | _ =>
    .error (.other ("Tester \x60" ++ name ++ "\x60 was called " ++ place ++
      " that isn't a string"))

def isOdd (v : Value) : Except Fault Bool :=
  match v.toFloat? with
  | some x => .ok !(x.rem (.ofInt 2)).isZero
  | none => notANumber "odd" "on a variable"

def isDivisible (v : Value) (args : List Value) : Except Fault Bool :=
  match v.toFloat?, args.head?.bind Value.toFloat? with
  | some x, some y => .ok (x.rem y).isZero
  | some _, none => notANumber "divisibleby" "with a parameter"
  | none, _ => notANumber "divisibleby" "on a variable"

/-- A test that compares a text with a text argument. -/
def onTexts (name : String) (test : String → String → Except Fault Bool) : Test :=
  onValue name 1 fun v args => do
    let s ← textOf name "on a variable" (some v)
    let arg ← textOf name "with a parameter" args.head?
    test arg s

def isContaining (v : Value) (args : List Value) : Except Fault Bool :=
  match v with
  | .text s => (textOf "containing" "with a parameter" args.head?).map fun arg => contains arg s
  | .list items =>
    match args.head? with
    | some arg => .ok (items.any (·.same arg))
    | none => .error (.other "Tester \x60containing\x60 was called without a parameter")
  | .object fields =>
    (textOf "containing" "with a parameter" args.head?).map fun arg =>
      (fields.lookup arg).isSome
  | _ => .error (.other "Tester \x60containing\x60 can only be used on string, array or map")

def isMatching (arg s : String) : Except Fault Bool :=
  match Pattern.parse? arg with
  | .ok p => .ok (p.found s)
  | .error fault =>
    .error (.other ("Tester \x60matching\x60: Invalid regular expression: " ++ fault.message))

def all : List (String × Test) :=
  [("defined", limited "defined" 0 fun v _ => .ok v.isSome),
    ("undefined", limited "undefined" 0 fun v _ => .ok v.isNone),
    ("odd", onValue "odd" 0 fun v _ => isOdd v),
    ("even", onValue "odd" 0 fun v _ => (isOdd v).map (!·)),
    ("string", property "string" fun v => (Filter.asText v).isSome),
    ("number", property "number" Value.isNumber),
    ("divisibleby", onValue "divisibleby" 1 isDivisible),
    ("iterable", property "iterable" fun
      | .list _ | .object _ => true
      | _ => false),
    ("object", property "object" fun
      | .object _ => true
      | _ => false),
    ("starting_with", onTexts "starting_with" fun arg s => .ok (startsWith arg s)),
    ("ending_with", onTexts "ending_with" fun arg s => .ok (endsWith arg s)),
    ("containing", onValue "containing" 1 isContaining),
    ("matching", onTexts "matching" isMatching)]

end Test

def test? (name : String) : Option Test := Test.all.lookup name

/-! ## Functions -/

abbrev Function := Args → Except Fault Value

namespace Function

/-- The numbers `n, n + step, …` below `stop`; `fuel` bounds their count. -/
def numbersFrom (step stop : Nat) : Nat → Nat → List Value
  | 0, _ => []
  | fuel + 1, n => if n < stop then .int n :: numbersFrom step stop fuel (n + step) else []

def natural (name : String) (default : Option Nat) (args : Args) : Except Fault Nat :=
  match args.lookup name with
  | none =>
    match default with
    | some n => .ok n
    | none => .error (.missingArgument .function "range" name)
  | some v =>
    match Filter.asNatural v with
    | some n => .ok n
    | none => .error (.wrongArgument .function "range" name v "a whole number")

/-- The numbers from `start` up to but not with `end`. -/
def range (args : Args) : Except Fault Value := do
  let start ← natural "start" (some 0) args
  let step ← natural "step_by" (some 1) args
  let stop ← natural "end" none args
  if stop < start then
    throw (.other ("Function \x60range\x60 was called with a \x60start\x60 argument greater " ++
      "than the \x60end\x60 one"))
  if step = 0 && start < stop then
    throw (.other "Function \x60range\x60 was called with a step of zero")
  return .list (numbersFrom step stop (stop - start) start)

/-- Always fails, with a message of the template's choice. -/
def failing (args : Args) : Except Fault Value :=
  match args.lookup "message" with
  | none => .error (.missingArgument .function "throw" "message")
  | some (.text s) => .error (.thrown s)
  | some v => .error (.wrongArgument .function "throw" "message" v "a text")

def all : List (String × Function) := [("range", range), ("throw", failing)]

end Function

def function? (name : String) : Option Function := Function.all.lookup name

end Scaffold.Template
