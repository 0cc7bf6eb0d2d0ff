import Scaffold.Json.Printer
import Scaffold.Number.Shortest
import Scaffold.SortedMap
import Scaffold.Text.Cut
import Scaffold.Text.LetterCase

/-!
# Values

The values that a template reads: those of a JSON document, with numbers that
are either whole or floating-point. The fields of an object stand in the order
of their keys.
-/

namespace Scaffold

open Text Number

inductive Value where
  | null
  | bool (b : Bool)
  | int (n : Int)
  | float (x : Binary64)
  | text (s : String)
  | list (items : List Value)
  | object (fields : List (String × Value))
  deriving Inhabited, Repr

namespace Value

/-! ## Deciding equality -/

mutual

def decideEq : (a b : Value) → Decidable (a = b)
  | .null, .null => isTrue rfl
  | .bool a, .bool b => if h : a = b then isTrue (h ▸ rfl) else isFalse fun e => h (by injection e)
  | .int a, .int b => if h : a = b then isTrue (h ▸ rfl) else isFalse fun e => h (by injection e)
  | .float a, .float b =>
    if h : a = b then isTrue (h ▸ rfl) else isFalse fun e => h (by injection e)
  | .text a, .text b => if h : a = b then isTrue (h ▸ rfl) else isFalse fun e => h (by injection e)
  | .list a, .list b =>
    match decideEqItems a b with
    | isTrue h => isTrue (h ▸ rfl)
    | isFalse h => isFalse fun e => h (by injection e)
  | .object a, .object b =>
    match decideEqFields a b with
    | isTrue h => isTrue (h ▸ rfl)
    | isFalse h => isFalse fun e => h (by injection e)
  | .null, .bool _ | .null, .int _ | .null, .float _ | .null, .text _ | .null, .list _
  | .null, .object _ | .bool _, .null | .bool _, .int _ | .bool _, .float _ | .bool _, .text _
  | .bool _, .list _ | .bool _, .object _ | .int _, .null | .int _, .bool _ | .int _, .float _
  | .int _, .text _ | .int _, .list _ | .int _, .object _ | .float _, .null | .float _, .bool _
  | .float _, .int _ | .float _, .text _ | .float _, .list _ | .float _, .object _
  | .text _, .null | .text _, .bool _ | .text _, .int _ | .text _, .float _ | .text _, .list _
  | .text _, .object _ | .list _, .null | .list _, .bool _ | .list _, .int _ | .list _, .float _
  | .list _, .text _ | .list _, .object _ | .object _, .null | .object _, .bool _
  | .object _, .int _ | .object _, .float _ | .object _, .text _ | .object _, .list _ =>
    isFalse nofun

def decideEqItems : (as bs : List Value) → Decidable (as = bs)
  | [], [] => isTrue rfl
  | a :: as, b :: bs =>
    match decideEq a b, decideEqItems as bs with
    | isTrue h, isTrue hs => isTrue (h ▸ hs ▸ rfl)
    | isFalse h, _ => isFalse fun e => h (by injection e)
    | _, isFalse hs => isFalse fun e => hs (by injection e)
  | [], _ :: _ | _ :: _, [] => isFalse nofun

def decideEqFields : (as bs : List (String × Value)) → Decidable (as = bs)
  | [], [] => isTrue rfl
  | (k, a) :: as, (l, b) :: bs =>
    if hk : k = l then
      match decideEq a b, decideEqFields as bs with
      | isTrue h, isTrue hs => isTrue (hk ▸ h ▸ hs ▸ rfl)
      | isFalse h, _ => isFalse fun e => h (by injection e with e; injection e)
      | _, isFalse hs => isFalse fun e => hs (by injection e)
    else isFalse fun e => hk (by injection e with e; injection e)
  | [], _ :: _ | _ :: _, [] => isFalse nofun

end

instance : DecidableEq Value := decideEq

/-- The object of a list of fields; of two fields with one key the later counts. -/
def ofFields (fields : List (String × Value)) : Value :=
  .object (fields.foldl (fun sorted (key, value) => SortedMap.insertKey key value sorted) [])

def texts (items : List String) : Value := .list (items.map .text)

/-! ## Numbers -/

/-- The least whole number. -/
def intMin : Int := -0x8000000000000000

/-- The greatest whole number of the signed range. -/
def signedMax : Int := 0x7fffffffffffffff

/-- The greatest whole number. -/
def intMax : Int := 0xffffffffffffffff

/-- The mark, digits and power of ten of a number as it is written. -/
def splitWritten (written : String) : Bool × Nat × Int :=
  let cs := written.toList
  let (negative, cs) := match cs with
    | '-' :: rest => (true, rest)
    | cs => (false, cs)
  let mantissa := cs.takeWhile fun c => c != 'e' && c != 'E'
  let power := cs.drop (mantissa.length + 1)
  let whole := mantissa.takeWhile (· != '.')
  let fraction := mantissa.drop (whole.length + 1)
  let exponent : Int := match power with
    | '-' :: digits => -(Text.digitsValue digits : Nat)
    | '+' :: digits => (Text.digitsValue digits : Nat)
    | digits => (Text.digitsValue digits : Nat)
  (negative, Text.digitsValue (whole ++ fraction), exponent - (fraction.length : Nat))

/-- The value of a number as it is written. It is whole when it is written
without point and exponent, is no negative zero and lies in the range; a number
too large for a floating-point number has no value. -/
def ofWritten? (written : String) : Option Value :=
  let (negative, digits, exponent) := splitWritten written
  let float :=
    let x := Binary64.ofDecimal negative digits exponent
    if x.isFinite then some (.float x) else none
  if written.toList.any fun c => c = '.' || c = 'e' || c = 'E' then float
  else if negative then
    if digits = 0 || 0x8000000000000000 < digits then float else some (.int (-(digits : Int)))
  else if (digits : Int) ≤ intMax then some (.int digits)
  else float

def isNumber : Value → Bool
  | int _ | float _ => true
  | _ => false

/-- The number as a floating-point number. -/
def toFloat? : Value → Option Binary64
  | int n => some (.ofInt n)
  | float x => some x
  | _ => none

/-! ## Documents -/

mutual

def ofJson? : Json → Option Value
  | .null => some .null
  | .bool b => some (.bool b)
  | .number written => ofWritten? written
  | .string content => content.map .text
  | .array items => (ofJsonItems? items).map .list
  | .object fields => (ofJsonFields? fields).map ofFields

def ofJsonItems? : List Json → Option (List Value)
  | [] => some []
  | item :: items =>
    match ofJson? item, ofJsonItems? items with
    | some v, some vs => some (v :: vs)
    | _, _ => none

def ofJsonFields? : List (Option String × Json) → Option (List (String × Value))
  | [] => some []
  | (key, value) :: fields =>
    match key, ofJson? value, ofJsonFields? fields with
    | some k, some v, some vs => some ((k, v) :: vs)
    | _, _, _ => none

end

mutual

def toJson : Value → Json
  | null => .null
  | bool b => .bool b
  | int n => .number (toString n)
  | float x => .number (scientific x)
  | text s => .string (some s)
  | list items => .array (toJsonItems items)
  | object fields => .object (toJsonFields fields)

def toJsonItems : List Value → List Json
  | [] => []
  | item :: items => item.toJson :: toJsonItems items

def toJsonFields : List (String × Value) → List (Option String × Json)
  | [] => []
  | (key, value) :: fields => (some key, value.toJson) :: toJsonFields fields

end

/-! ## Printing -/

mutual

/-- How a value prints inside rendered text. -/
def print : Value → String
  | null => ""
  | bool b => if b then "true" else "false"
  | int n => toString n
  | float x => positional x
  | text s => s
  | list items => "[" ++ printItems items ++ "]"
  | object _ => "[object]"

def printItems : List Value → String
  | [] => ""
  | [item] => item.print
  | item :: items => item.print ++ ", " ++ printItems items

end

/-- How a value is quoted in an explanation. -/
def shown (v : Value) : String := v.toJson.compact

/-! ## Truth and equality -/

/-- Zero, nothing and everything empty count as false. -/
def isTruthy : Value → Bool
  | null => false
  | bool b => b
  | int n => n != 0
  | float x => !x.isZero && !x.isNaN
  | text s => s != ""
  | list items => !items.isEmpty
  | object fields => !fields.isEmpty

mutual

/-- Equality of values; a whole number never equals a floating-point one, and
the two zeros of floating-point numbers are equal. -/
def same : Value → Value → Bool
  | null, null => true
  | bool a, bool b => a == b
  | int a, int b => a == b
  | float a, float b => a.same b
  | text a, text b => a == b
  | list a, list b => sameItems a b
  | object a, object b => sameFields a b
  | _, _ => false

def sameItems : List Value → List Value → Bool
  | [], [] => true
  | a :: as, b :: bs => a.same b && sameItems as bs
  | _, _ => false

def sameFields : List (String × Value) → List (String × Value) → Bool
  | [], [] => true
  | (k, a) :: as, (l, b) :: bs => k == l && a.same b && sameFields as bs
  | _, _ => false

end

/-! ## Parts -/

/-- The index that a text writes: digits, without a sign or a leading zero. -/
def index? (s : String) : Option Nat :=
  match s.toList with
  | ['0'] => some 0
  | [] | '0' :: _ => none
  | cs => if cs.all isAsciiDigit then some (Text.digitsValue cs) else none

/-- The field or item that one step of a dotted path names. -/
def child? (v : Value) (step : String) : Option Value :=
  match v with
  | object fields => fields.lookup step
  | list items => (index? step).bind (items[·]?)
  | _ => none

end Value

end Scaffold
