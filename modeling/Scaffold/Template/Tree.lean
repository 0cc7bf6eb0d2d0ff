import Scaffold.Number.Binary64

/-!
# Parsed templates

A template is a list of nodes: text to copy, expressions to print, and tags
with bodies. An expression is an operand with filters behind it; the flag says
whether `not` stands in front.
-/

namespace Scaffold.Template

inductive MathOp where
  | add
  | sub
  | mul
  | div
  | rem
  deriving DecidableEq, Repr, Inhabited

inductive LogicOp where
  | or
  | and
  | eq
  | ne
  | lt
  | le
  | gt
  | ge
  deriving DecidableEq, Repr, Inhabited

mutual

inductive Expr where
  | mk (operand : Operand) (negated : Bool) (filters : List Call)

inductive Operand where
  | text (s : String)
  | int (n : Int)
  | float (x : Binary64)
  | bool (b : Bool)
  /-- A dotted path with square brackets, as it is written. -/
  | name (path : String)
  | math (op : MathOp) (left right : Expr)
  | logic (op : LogicOp) (left right : Expr)
  /-- Whether a container holds an item. -/
  | member (negated : Bool) (item container : Expr)
  /-- A test on the value of a path, which need not have one. -/
  | test (path : String) (negated : Bool) (test : String) (args : List Expr)
  | call (call : Call)
  /-- The rendered body of a definition. -/
  | expand (space name : String) (args : List (String × Expr))
  | list (items : List Expr)
  /-- Texts, numbers, paths and calls joined into one text. -/
  | concat (parts : List Operand)

/-- A function or filter with named arguments. -/
inductive Call where
  | mk (name : String) (args : List (String × Expr))

end

instance : Inhabited Operand := ⟨.bool false⟩
instance : Inhabited Expr := ⟨.mk default false []⟩
instance : Inhabited Call := ⟨.mk "" []⟩

namespace Call

def name : Call → String
  | mk name _ => name

def args : Call → List (String × Expr)
  | mk _ args => args

end Call

namespace Expr

def operand : Expr → Operand
  | mk operand _ _ => operand

def negated : Expr → Bool
  | mk _ negated _ => negated

def filters : Expr → List Call
  | mk _ _ filters => filters

/-- An operand alone. -/
def ofOperand (operand : Operand) : Expr := .mk operand false []

/-- The expression with the flag of `not` replaced. -/
def withNegation (negated : Bool) : Expr → Expr
  | mk operand _ filters => mk operand negated filters

end Expr

inductive Node where
  | text (s : String)
  /-- Text that dashes on neighbouring tags leave alone. -/
  | verbatim (s : String)
  | comment
  | output (e : Expr)
  /-- Gives a name a value, in the current scope or in that of the whole template. -/
  | assign (whole : Bool) (name : String) (value : Expr)
  | branch (arms : List (Expr × List Node)) (otherwise : Option (List Node))
  | loop (key : Option String) (item : String) (container : Expr) (body : List Node)
      (otherwise : Option (List Node))
  | block (name : String) (body : List Node)
  /-- The rendered body passed through a filter. -/
  | filtered (filter : Call) (body : List Node)
  /-- A named body with parameters, which calls expand. -/
  | definition (name : String) (params : List (String × Option Operand)) (body : List Node)
  /-- Leaves the loop. -/
  | stop
  /-- Goes on with the next item of the loop. -/
  | skip
  /-- The first of some templates that exists; no template needs to when `optional` holds. -/
  | insert (names : List String) (optional : Bool)
  deriving Inhabited

end Scaffold.Template
