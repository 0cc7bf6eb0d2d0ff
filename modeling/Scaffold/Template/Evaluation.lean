import Scaffold.Template.Detail
import Scaffold.Template.Engine
import Scaffold.Template.Frame

/-!
# Evaluating expressions

An expression has a value, a truth and a number, which are not read off each
other: a name without a value is false where truth is asked for and an error
elsewhere, and arithmetic does not see filters of the places where it looks for
numbers only. What a definition expands to comes from outside, through the
stage, so that evaluation follows the form of the expression.

Evaluation changes the stack of frames where a definition is expanded, and a
failure leaves the stack as it is at that point. A condition takes a failure of
a name for false and goes on with that stack. A question to the surroundings uses
one of their answers up. A computation that needs a deeper stack than the engine
has does not come to an end: it is no failure, and no condition takes it for one.
-/

namespace Scaffold.Template

/-- What changes while a template is rendered: the frames, and the answers that
the surroundings have left. -/
structure Situation where
  frames : List Frame
  world : World

/-- A computation that reads and changes the situation and may fail, or that does
not come to an end. The situation survives a failure. -/
abbrev Eval (α : Type) := ExceptT Fault (StateT Situation Option) α

namespace Eval

def ofExcept {α : Type} (r : Except Fault α) : Eval α := ExceptT.mk (pure r)

/-- Maps the failure of a computation. -/
def mapFault {α : Type} (f : Fault → Fault) (m : Eval α) : Eval α :=
  ExceptT.mk ((·.mapError f) <$> m.run)

/-- The outcome of a computation, which does not fail any more. -/
def outcome {α : Type} (m : Eval α) : Eval (Except Fault α) := ExceptT.mk (.ok <$> m.run)

/-- A computation that does not come to an end. -/
def endless {α : Type} : Eval α := ExceptT.mk fun _ => none

def frames : Eval (List Frame) := do return (← get).frames

def update (f : List Frame → List Frame) : Eval Unit := modify fun s => ⟨f s.frames, s.world⟩

/-- Changes the frames, or fails where that is impossible. -/
def change (fault : Fault) (f : List Frame → Option (List Frame)) : Eval Unit := do
  match f (← frames) with
  | some after => update fun _ => after
  | none => throw fault

def push (f : Frame) : Eval Unit := update (f :: ·)

def pop : Eval Unit := update (·.drop 1)

/-- The next answer of the surroundings. -/
def ask (q : Question) : Eval Value := do
  let s ← get
  set (⟨s.frames, s.world.rest⟩ : Situation)
  ofExcept (s.world.answer q)

end Eval

/-- What stays the same while a template is rendered. `render` gives the text of
bodies that are reached by name. -/
structure Stage where
  engine : Engine
  template : String
  tree : Tree
  context : SortedMap Value
  render : List Node → Eval String

namespace Stage

/-- The value of a path. -/
def lookup (stage : Stage) (frames : List Frame) (path : String) : Except Fault Value :=
  if path = "__tera_context" then .ok (.text (dump stage.context frames))
  else valueAt stage.template stage.context frames (path.toList.length + 1) path

/-- The value of a path in the frames as they are. -/
def find (stage : Stage) (path : String) : Eval Value := do
  Eval.ofExcept (stage.lookup (← Eval.frames) path)

end Stage

/-! ## Numbers -/

/-- The number of a value of arithmetic; nothing for the result of an impossible operation. -/
abbrev NumberResult := Except Fault (Option Value)

/-- The same, computed. -/
abbrev NumberEval := Eval (Option Value)

def outOfBounds (sign : String) (a b : Int) (range : String) : NumberResult :=
  .error (.other (toString a ++ " " ++ sign ++ " " ++ toString b ++
    " results in an out of bounds " ++ range))

def finite (x : Binary64) : NumberResult := .ok (if x.isFinite then some (.float x) else none)

/-- An operation that is exact on whole numbers of one range and rounds on others. -/
def arithmetic (sign : String) (exact : Int → Int → Int)
    (rounded : Binary64 → Binary64 → Binary64) : Value → Value → NumberResult
  | .int a, .int b =>
    let n := exact a b
    if a ≤ Value.signedMax && b ≤ Value.signedMax then
      if Value.intMin ≤ n && n ≤ Value.signedMax then .ok (some (.int n))
      else outOfBounds sign a b "i64"
    else if 0 ≤ a && 0 ≤ b then
      if 0 ≤ n && n ≤ Value.intMax then .ok (some (.int n)) else outOfBounds sign a b "u64"
    else finite (rounded (.ofInt a) (.ofInt b))
  | a, b =>
    match a.toFloat?, b.toFloat? with
    | some x, some y => finite (rounded x y)
    | _, _ => .ok none

/-- How an explanation writes a division. -/
def divisionOf (left right : Expr) : String := left.detail ++ "/" ++ right.detail

/-- The remainder takes the sign of its first operand. A failure writes the two
operands as they stand in the template. -/
def remainder (left right : Expr) : Value → Value → NumberResult
  | .int a, .int b =>
    if (a ≤ Value.signedMax && b ≤ Value.signedMax) || (0 ≤ a && 0 ≤ b) then
      if b = 0 then .error (.other ("Tried to do a modulo by zero: " ++ divisionOf left right))
      else .ok (some (.int (a.tmod b)))
    else finite ((Binary64.ofInt a).rem (.ofInt b))
  | a, b =>
    match a.toFloat?, b.toFloat? with
    | some x, some y => finite (x.rem y)
    | _, _ => .ok none

/-- Division computes with floating-point numbers. A quotient without a fraction
is a whole number, kept within the signed range. -/
def quotient (a b : Value) : NumberResult :=
  match a.toFloat?, b.toFloat? with
  | some x, some y =>
    let q := x.div y
    if q.isFinite && q.isWhole then .ok (some (.int q.truncate)) else finite q
  | _, _ => .ok none

/-- The result of an operation on two numbers that are there. -/
def MathOp.apply (left right : Expr) : MathOp → Value → Value → NumberResult
  | .add => arithmetic "+" (· + ·) Binary64.add
  | .sub => arithmetic "-" (· - ·) Binary64.sub
  | .mul => arithmetic "x" (· * ·) Binary64.mul
  | .div => quotient
  | .rem => remainder left right

/-- An operation on the numbers of two expressions, which may be missing. -/
def applyMath (op : MathOp) (left right : Expr) (a b : NumberEval) : NumberEval := do
  match ← a, ← b with
  | some x, some y => Eval.ofExcept (op.apply left right x y)
  | _, _ => return none

/-- The number of a value, or a failure that says where it was found. -/
def numberOrFail (place : String) (v : Value) : NumberEval :=
  if v.isNumber then pure (some v)
  else throw (.other (place ++ " was used in a math operation but is not a number"))

/-! ## Comparison -/

/-- Compares two numbers as floating-point numbers. -/
def compareNumbers (op : LogicOp) (a b : NumberEval) : Eval Bool := do
  match (← a).bind Value.toFloat?, (← b).bind Value.toFloat? with
  | some x, some y =>
    match op with
    | .lt => return x.less y
    | .le => return x.lessOrEqual y
    | .gt => return y.less x
    | _ => return y.lessOrEqual x
  | _, _ => throw (.other "Comparison to NaN")

/-- Whether two values are equal; numbers compare as floating-point numbers, and
a number cannot be compared with anything else. -/
def comparable (a b : Value) : Option Bool :=
  match a.toFloat?, b.toFloat? with
  | some x, some y => some (x.same y)
  | none, none => some (a.same b)
  | _, _ => none

/-- Whether two values are equal or differ, turned round by `not`. A number
compared with something else gives false either way. -/
def decideEqual (op : LogicOp) (negated : Bool) (a b : Value) : Bool :=
  match comparable a b with
  | some equal => ((op == .ne) != equal) != negated
  | none => false

/-- Whether a container holds an item. -/
def holds (item container : Value) : Except Fault Bool :=
  match container, item with
  | .list items, v => .ok (items.any fun candidate => candidate.same v)
  | .text s, .text part => .ok (Text.contains part s)
  | .text _, v =>
    .error (.other ("Tried to check if " ++ v.detail ++ " is in a string, but it isn't a string"))
  | .object fields, .text key => .ok (fields.lookup key).isSome
  | .object _, v =>
    .error (.other ("Tried to check if " ++ v.detail ++ " is in a object, but it isn't a string"))
  | _, _ => .error (.other "The \x60in\x60 operator only supports strings, arrays and objects.")

/-- The truth of two sides joined by an operator, turned round by `not`. One side
can make the other one superfluous. -/
def decideLogic (op : LogicOp) (negated : Bool) (leftTruth rightTruth : Eval Bool)
    (leftNumber rightNumber : NumberEval) (leftValue rightValue : Eval Value) : Eval Bool := do
  match op with
  | .or =>
    match ← leftTruth with
    | true => return !negated
    | false => return (← rightTruth) != negated
  | .and =>
    match ← leftTruth with
    | true => return (← rightTruth) != negated
    | false => return negated
  | .eq | .ne => return decideEqual op negated (← leftValue) (← rightValue)
  | .lt | .le | .gt | .ge => return (← compareNumbers op leftNumber rightNumber) != negated

def findTest (name : String) : Except Fault Test :=
  match test? name with
  | some test => .ok test
  | none => .error (.unknown .test name)

/-! ## Names -/

def negate (negated : Bool) (v : Value) : Value := if negated then .bool !v.isTruthy else v

/-- The value of a name with filters behind it: the default where the name has
no value or null, and true for `not` in front of a name without a value. -/
def settle (negated : Bool) (found : Except Fault Value) (default : Option (Eval Value))
    (filters : Value → Eval Value) : Eval Value := do
  match found, default with
  | .ok .null, some default => return negate negated (← filters (← default))
  | .ok v, _ => return negate negated (← filters v)
  | .error _, some default => return negate negated (← filters (← default))
  | .error fault, none => if negated then return .bool true else throw fault

/-- The text of a part of a joined text. -/
def joinedText (place : String) : Value → Eval String
  | .text s => pure s
  | .int n => pure (toString n)
  | .float x => pure (Value.float x).shown
  | _ =>
    throw (.other ("Tried to concat a value that is not a string or a number from " ++ place))

/-- A definition of the template itself. -/
def findDefinition (stage : Stage) (space name : String) : Except Fault Definition :=
  if space = "self" then
    match stage.tree.definitions.find? (·.name == name) with
    | some d => .ok d
    | none =>
      .error (.other ("Macro \x60" ++ space ++ "::" ++ name ++ "\x60 not found in template \x60" ++
        stage.template ++ "\x60"))
  else
    .error (.other ("Macro namespace \x60" ++ space ++ "\x60 was not found in template \x60" ++
      stage.template ++ "\x60. Have you maybe forgotten to import it, or misspelled it?"))

/-- The answer of a test about the value of a path, which need not have one. -/
def asks (stage : Stage) (path name : String) (args : Eval (List Value)) : Eval Bool := do
  let test ← Eval.ofExcept (findTest name)
  let args ← args.mapFault (.inCall .test name)
  let v := (stage.lookup (← Eval.frames) path).toOption
  (Eval.ofExcept (test v args)).mapFault (.inCall .test name)

/-- The values of the parameters a definition has: the arguments, or the values
that stand in the definition. -/
def bindParams (name : String) (args : List (String × Eval Value)) :
    List (String × Option Operand) → Eval (List (String × Value))
  | [] => pure []
  | (param, default) :: params => do
    let v ← match args.lookup param, default with
      | some v, _ => v
      | none, some (.text s) => pure (.text s)
      | none, some (.int n) => pure (.int n)
      | none, some (.float x) => pure (.float x)
      | none, some (.bool b) => pure (.bool b)
      | none, _ =>
        throw (.other ("Macro \x60" ++ name ++ "\x60 is missing the argument \x60" ++ param ++
          "\x60"))
    return (param, v) :: (← bindParams name args params)

/-- The text that a definition expands to. Its parameters get their values in the
order of the engine. Its frame is gone afterwards, except when the body fails. -/
def expandDefinition (stage : Stage) (space name : String) (args : List (String × Eval Value)) :
    Eval String := do
  let d ← Eval.ofExcept (findDefinition stage space name)
  Eval.push ⟨.definition space name, ← bindParams name args (stage.engine.arrange d.params)⟩
  let text ← stage.render d.body
  Eval.pop
  return text

/-- Puts the call around a failure inside it. -/
def within {α : Type} (kind : Callable) (name : String) (m : Eval α) : Eval α :=
  m.mapFault (.inCall kind name)

/-- What a function of a name does with its arguments, if there is such a function:
it computes a value, or it asks the surroundings. -/
def invoke? (name : String) : Option (Args → Eval Value) :=
  match function? name with
  | some f => some fun args => Eval.ofExcept (f args)
  | none =>
    if Function.asking.contains name then some fun args => Eval.ask ⟨name, (args.lookup ·)⟩
    else none

/-- How an explanation writes a joined text. -/
def joinedOutline (parts : List Operand) : String :=
  String.intercalate " ~ " (parts.map fun
    | .text s => "'" ++ s ++ "'"
    | .name path => path
    | _ => "unknown")

/-! ## Expressions -/

mutual

def Expr.value (stage : Stage) : Expr → Eval Value
  | .mk operand negated filters =>
    match operand with
    | .name path => do
      settle negated (stage.lookup (← Eval.frames) path) (defaultOf stage filters)
        fun v => applyFilters stage v filters
    | operand => do
      let v ← operand.base stage negated
      return negate negated (← applyFilters stage v filters)

/-- Whether a condition holds. Filters do not matter except behind names and
joined texts. -/
def Expr.truth (stage : Stage) : Expr → Eval Bool
  | .mk operand negated filters =>
    match operand with
    | .name path => do
      let v ← (settle negated (stage.lookup (← Eval.frames) path) (defaultOf stage filters)
        fun v => applyFilters stage v filters).outcome
      return (v.toOption.map Value.isTruthy).getD false
    | .concat parts => do
      match ← applyFilters stage (.text (← joinParts stage parts)) filters with
      | .text s => return (s != "") != negated
      | _ => throw (.other "a joined text was made into another value")
    | operand => operand.truth stage negated

/-- The number that a side of an operation is. -/
def Expr.number (stage : Stage) : Expr → NumberEval
  | .mk operand negated filters =>
    if filters.isEmpty then operand.number stage
    else do
      let v ←
        match operand with
        | .name path => do
          settle negated (stage.lookup (← Eval.frames) path) (defaultOf stage filters)
            fun v => applyFilters stage v filters
        | operand => do
          let v ← operand.base stage negated
          pure (negate negated (← applyFilters stage v filters))
      if v.isNumber then return some v
      else throw (.other "Tried to do math with an expression not resulting in a number")

/-- The value of an operand other than a name, without its filters. `negated`
says that `not` stands in front of it, which conditions take into account. A
failure of arithmetic does not keep what caused it. -/
def Operand.base (stage : Stage) (negated : Bool) : Operand → Eval Value
  | .text s => pure (.text s)
  | .int n => pure (.int n)
  | .float x => pure (.float x)
  | .bool b => pure (.bool b)
  | .name path => stage.find path
  | .math op left right => do
    match ← (applyMath op left right (left.number stage)
        (right.number stage)).mapFault Fault.withoutCause with
    | some v => return v
    | none => return .text "NaN"
  | .logic op left right => do
    return .bool (← decideLogic op negated (left.truth stage) (right.truth stage)
      (left.number stage) (right.number stage) (left.value stage) (right.value stage))
  | .member absent item container => do
    let item ← item.value stage
    return .bool ((← Eval.ofExcept (holds item (← container.value stage))) != absent)
  | .test path absent name args => do
    return .bool ((← asks stage path name (valuesOf stage args)) != absent)
  | .call call => call.value stage
  | .expand space name args => do
    return .text (← expandDefinition stage space name (argsOf stage args))
  | .list items => do return .list (← valuesOf stage items)
  | .concat parts => do return .text (← joinParts stage parts)

/-- Whether a condition that is no name and no joined text holds. -/
def Operand.truth (stage : Stage) (negated : Bool) : Operand → Eval Bool
  | .text s => pure ((s != "") != negated)
  | .int n => pure ((n != 0) != negated)
  | .float x => pure ((!x.isZero) != negated)
  | .bool b => pure (b != negated)
  | .math op left right => do
    match (← applyMath op left right (left.number stage)
        (right.number stage)).bind Value.toFloat? with
    | some x => return (!x.isZero) != negated
    | none => return negated
  | .logic op left right =>
    decideLogic op negated (left.truth stage) (right.truth stage)
      (left.number stage) (right.number stage) (left.value stage) (right.value stage)
  | .member absent item container => do
    let item ← item.value stage
    return ((← Eval.ofExcept (holds item (← container.value stage))) != absent) != negated
  | .test path absent name args => do
    return ((← asks stage path name (valuesOf stage args)) != absent) != negated
  | .call call => do
    match ← call.value stage with
    | .bool b => return b != negated
    | _ =>
      throw (.other ("Function \x60" ++ call.name ++
        "\x60 was used in a logic operation but is not returning a bool"))
  | .expand space name args => do
    return ((← expandDefinition stage space name (argsOf stage args)) != "") != negated
  | .name _ | .list _ | .concat _ => throw (.other "the expression is no condition")

def Operand.number (stage : Stage) : Operand → NumberEval
  | .int n => pure (some (.int n))
  | .float x => pure (some (.float x))
  | .name path => do numberOrFail ("Variable \x60" ++ path ++ "\x60") (← stage.find path)
  | .math op left right =>
    applyMath op left right (left.number stage) (right.number stage)
  | .call call => do
    numberOrFail ("Function \x60" ++ call.name ++ "\x60") (← call.value stage)
  | .text s => throw (.other ("Tried to do math with a string: \x60" ++ s ++ "\x60"))
  | .bool _ => throw (.other "Tried to do math with a boolean")
  | .concat parts =>
    throw (.other ("Tried to do math with a string concatenation: " ++ joinedOutline parts))
  | .test _ _ name _ => throw (.other ("Tried to do math with a test: " ++ name))
  | .logic _ _ _ | .member _ _ _ | .expand _ _ _ | .list _ =>
    throw (.other "the expression is no number")

/-- The value of a function call. -/
def Call.value (stage : Stage) : Call → Eval Value
  | .mk name args => do
    match invoke? name with
    | none => throw (.unknown .function name)
    | some invoke =>
      let args ← within .function name (argValues stage args)
      within .function name (invoke args)

/-- The value that a call makes of another one as a filter. -/
def Call.apply (stage : Stage) (v : Value) : Call → Eval Value
  | .mk name args => do
    match stage.engine.filter? name with
    | none => throw (.unknown .filter name)
    | some f =>
      let args ← within .filter name (argValues stage args)
      within .filter name (Eval.ofExcept (f v args))

/-- The value of the filter `default` at the head of a list of filters. -/
def defaultOf (stage : Stage) : List Call → Option (Eval Value)
  | [] => none
  | .mk name args :: _ => if name = "default" then some (argNamed stage "value" args) else none

/-- Applies filters one after the other, passing over those that do nothing here. -/
def applyFilters (stage : Stage) (v : Value) : List Call → Eval Value
  | [] => pure v
  | call :: calls =>
    if call.name = "safe" || call.name = "default" then applyFilters stage v calls
    else do applyFilters stage (← call.apply stage v) calls

def valuesOf (stage : Stage) : List Expr → Eval (List Value)
  | [] => pure []
  | e :: es => do
    let v ← e.value stage
    return v :: (← valuesOf stage es)

def joinParts (stage : Stage) : List Operand → Eval String
  | [] => pure ""
  | part :: parts => do
    let s ← match part with
      | .text s => pure s
      | .int n => pure (toString n)
      | .float x => pure (Number.positional x)
      | .name path => do joinedText ("ident " ++ path) (← stage.find path)
      | .call call => do joinedText ("function call " ++ call.name) (← call.value stage)
      | _ => throw (.other "the expression cannot be joined to a text")
    return s ++ (← joinParts stage parts)

/-- The values of named arguments. -/
def argValues (stage : Stage) : List (String × Expr) → Eval Args
  | [] => pure []
  | (name, e) :: args => do
    let v ← e.value stage
    return (name, v) :: (← argValues stage args)

/-- The values of named arguments, to be computed one by one. -/
def argsOf (stage : Stage) : List (String × Expr) → List (String × Eval Value)
  | [] => []
  | (name, e) :: args => (name, e.value stage) :: argsOf stage args

def argNamed (stage : Stage) (wanted : String) : List (String × Expr) → Eval Value
  | [] => throw (.other ("The \x60default\x60 filter requires a \x60" ++ wanted ++
      "\x60 argument."))
  | (name, e) :: args => if name = wanted then e.value stage else argNamed stage wanted args

end

end Scaffold.Template
