import Scaffold.Text.Literal
import Scaffold.Value

/-!
# Values in detail

Values as explanations quote them where their kind matters.
-/

namespace Scaffold.Value

open Text

mutual

def detail : Value → String
  | null => "Null"
  | bool b => "Bool(" ++ (if b then "true" else "false") ++ ")"
  | int n => "Number(" ++ toString n ++ ")"
  | float x => "Number(" ++ Number.scientific x ++ ")"
  | text s => "String(" ++ literal s ++ ")"
  | list items => "Array [" ++ detailItems items ++ "]"
  | object fields => "Object \x7b" ++ detailFields fields ++ "\x7d"

def detailItems : List Value → String
  | [] => ""
  | [item] => item.detail
  | item :: items => item.detail ++ ", " ++ detailItems items

def detailFields : List (String × Value) → String
  | [] => ""
  | [(key, item)] => literal key ++ ": " ++ item.detail
  | (key, item) :: fields => literal key ++ ": " ++ item.detail ++ ", " ++ detailFields fields

end

end Scaffold.Value
