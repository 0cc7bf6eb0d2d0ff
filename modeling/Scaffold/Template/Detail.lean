import Scaffold.Number.Shortest
import Scaffold.Template.Tree
import Scaffold.Text.Literal

/-!
# Expressions in detail

Expressions as explanations quote them: every part with its kind and its name.
-/

namespace Scaffold.Template

open Text

/-- A part with a name and parts of its own. -/
def detailOf (kind : String) (parts : List (String × String)) : String :=
  kind ++ " \x7b " ++ String.intercalate ", " (parts.map fun (name, part) => name ++ ": " ++ part) ++
    " \x7d"

def boolText (b : Bool) : String := if b then "true" else "false"

def MathOp.detail : MathOp → String
  | .add => "Add"
  | .sub => "Sub"
  | .mul => "Mul"
  | .div => "Div"
  | .rem => "Modulo"

def LogicOp.detail : LogicOp → String
  | .or => "Or"
  | .and => "And"
  | .eq => "Eq"
  | .ne => "NotEq"
  | .lt => "Lt"
  | .le => "Lte"
  | .gt => "Gt"
  | .ge => "Gte"

mutual

def Expr.detail : Expr → String
  | .mk operand negated filters =>
    detailOf "Expr" [("val", operand.detail), ("negated", boolText negated),
      ("filters", "[" ++ detailCalls filters ++ "]")]

def Operand.detail : Operand → String
  | .text s => "String(" ++ literal s ++ ")"
  | .int n => "Int(" ++ toString n ++ ")"
  | .float x => "Float(" ++ Number.scientific x ++ ")"
  | .bool b => "Bool(" ++ boolText b ++ ")"
  | .name path => "Ident(" ++ literal path ++ ")"
  | .math op left right =>
    "Math(" ++ detailOf "MathExpr" [("lhs", left.detail), ("rhs", right.detail),
      ("operator", op.detail)] ++ ")"
  | .logic op left right =>
    "Logic(" ++ detailOf "LogicExpr" [("lhs", left.detail), ("rhs", right.detail),
      ("operator", op.detail)] ++ ")"
  | .member negated item container =>
    "In(" ++ detailOf "In" [("lhs", item.detail), ("rhs", container.detail),
      ("negated", boolText negated)] ++ ")"
  | .test path negated name args =>
    "Test(" ++ detailOf "Test" [("ident", literal path), ("negated", boolText negated),
      ("name", literal name), ("args", "[" ++ detailExprs args ++ "]")] ++ ")"
  | .call call => "FunctionCall(" ++ call.detail ++ ")"
  | .expand space name args =>
    "MacroCall(" ++ detailOf "MacroCall" [("namespace", literal space), ("name", literal name),
      ("args", "\x7b" ++ detailArgs args ++ "\x7d")] ++ ")"
  | .list items => "Array([" ++ detailExprs items ++ "])"
  | .concat parts =>
    "StringConcat(" ++ detailOf "StringConcat" [("values", "[" ++ detailParts parts ++ "]")] ++ ")"

def Call.detail : Call → String
  | .mk name args =>
    detailOf "FunctionCall" [("name", literal name), ("args", "\x7b" ++ detailArgs args ++ "\x7d")]

def detailExprs : List Expr → String
  | [] => ""
  | [e] => e.detail
  | e :: es => e.detail ++ ", " ++ detailExprs es

def detailParts : List Operand → String
  | [] => ""
  | [part] => part.detail
  | part :: parts => part.detail ++ ", " ++ detailParts parts

def detailCalls : List Call → String
  | [] => ""
  | [call] => call.detail
  | call :: calls => call.detail ++ ", " ++ detailCalls calls

def detailArgs : List (String × Expr) → String
  | [] => ""
  | [(name, e)] => literal name ++ ": " ++ e.detail
  | (name, e) :: args => literal name ++ ": " ++ e.detail ++ ", " ++ detailArgs args

end

end Scaffold.Template
