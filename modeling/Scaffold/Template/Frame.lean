import Scaffold.SortedMap
import Scaffold.Template.Fault
import Scaffold.Template.Parser
import Scaffold.Value.Dotted

/-!
# Scopes of names

Names get their values from a stack of frames, innermost first: the names that
the template sets, the variables of loops, the parameters of definitions. What
no frame knows comes from the context. The body of a definition does not see
the frames of its caller, but it sees the context.
-/

namespace Scaffold.Template

open Text

/-- How a round of a loop goes on: to its end, out of the loop or to the next
round. -/
inductive Flow where
  | onward
  | stop
  | skip
  deriving DecidableEq, Repr

/-- A loop that is running: the names of its variables, its items, which alone
have keys in a loop over fields, and the place of the current one. -/
structure Loop where
  key : Option String
  item : String
  items : List (Option String × Value)
  index : Nat
  flow : Flow

inductive FrameKind where
  | whole
  | insertion
  /-- The body of a definition, by the name it was called with. -/
  | definition (space name : String)
  | loop (loop : Loop)

/-- Names with values, the latest first. -/
structure Frame where
  kind : FrameKind
  names : List (String × Value)

/-- Splits a path at its first point. -/
def splitPath (path : String) : String × Option String :=
  match cut "." path with
  | some (head, tail) => (head, some tail)
  | none => (path, none)

/-- The part of a value that the rest of a path leads to, or the value itself. -/
def partOf (v : Value) : Option String → Option Value
  | none => some v
  | some path => v.at? path

namespace Loop

/-- The values that every loop gives. -/
def builtin? (l : Loop) (path : String) : Option Value :=
  if path = "loop.index" then some (.int (l.index + 1))
  else if path = "loop.index0" then some (.int l.index)
  else if path = "loop.first" then some (.bool (l.index == 0))
  else if path = "loop.last" then some (.bool (l.index + 1 == l.items.length))
  else none

def current? (l : Loop) : Option Value := l.items[l.index]?.map (·.2)

def currentKey? (l : Loop) : Option String := l.items[l.index]?.bind (·.1)

/-- The value of a path in a loop: one that every loop gives, the key, or a part
of the item. A path that begins with `loop` never leads to the key or the item. -/
def find? (l : Loop) (path : String) : Option Value :=
  if startsWith "loop" path then l.builtin? path
  else if l.key = some path then l.currentKey?.map .text
  else
    let (head, tail) := splitPath path
    if head = l.item then l.current?.bind (partOf · tail) else none

def withFlow (l : Loop) (flow : Flow) : Loop := ⟨l.key, l.item, l.items, l.index, flow⟩

def advance (l : Loop) : Loop := ⟨l.key, l.item, l.items, l.index + 1, .onward⟩

end Loop

namespace Frame

def find? (f : Frame) (path : String) : Option Value :=
  let (head, tail) := splitPath path
  match (f.names.lookup head).bind (partOf · tail), f.kind with
  | some v, _ => some v
  | none, .loop l => l.find? path
  | none, _ => none

/-- Whether the frames behind this one cannot be seen from it. -/
def isOpaque (f : Frame) : Bool :=
  match f.kind with
  | .whole | .definition _ _ => true
  | .insertion | .loop _ => false

def loop? (f : Frame) : Option Loop :=
  match f.kind with
  | .loop l => some l
  | _ => none

def put (f : Frame) (name : String) (v : Value) : Frame := ⟨f.kind, (name, v) :: f.names⟩

end Frame

/-- Gives a name a value in the innermost frame, or in the innermost one that is
no loop. -/
def assign (whole : Bool) (name : String) (v : Value) : List Frame → List Frame
  | [] => []
  | f :: frames =>
    if whole && f.loop?.isSome then f :: assign whole name v frames
    else f.put name v :: frames

/-- How the innermost frame goes on. -/
def flowOf : List Frame → Flow
  | f :: _ => (f.loop?.map (·.flow)).getD .onward
  | [] => .onward

/-- Makes the innermost frame, which must be a loop, go on in a way. -/
def redirect? (flow : Flow) : List Frame → Option (List Frame)
  | ⟨.loop l, names⟩ :: frames => some (⟨.loop (l.withFlow flow), names⟩ :: frames)
  | _ => none

/-- Goes to the next round of the innermost frame, which must be a loop. The
names that were set in the round before are gone. -/
def advance? : List Frame → Option (List Frame)
  | ⟨.loop l, _⟩ :: frames => some (⟨.loop l.advance, []⟩ :: frames)
  | _ => none

/-- The value of a path in the frames that can be seen. -/
def findInFrames (path : String) : List Frame → Option Value
  | [] => none
  | f :: frames =>
    match f.find? path with
    | some v => some v
    | none => if f.isOpaque then none else findInFrames path frames

def findInContext (path : String) (context : SortedMap Value) : Option Value :=
  let (head, tail) := splitPath path
  match tail with
  | none => context.get? head
  | some _ =>
    (context.get? (replace "~0" "~" (replace "~1" "/" head))).bind (partOf · tail)

/-- The value of a path without brackets. -/
def find? (context : SortedMap Value) (frames : List Frame) (path : String) : Option Value :=
  match findInFrames path frames with
  | some v => some v
  | none => findInContext path context

/-! ## Brackets -/

/-- The characters up to the bracket that closes the one before them, and the
rest behind it. -/
def bracketed : Nat → List Char → List Char × List Char
  | _, [] => ([], [])
  | depth, c :: cs =>
    if c = ']' && depth = 0 then ([], cs)
    else
      let depth := if c = '[' then depth + 1 else if c = ']' then depth - 1 else depth
      let (inner, rest) := bracketed depth cs
      (c :: inner, rest)

theorem length_bracketed_le (depth : Nat) (cs : List Char) :
    (bracketed depth cs).2.length ≤ cs.length := by
  induction cs generalizing depth with
  | nil => simp [bracketed]
  | cons c cs ih =>
    unfold bracketed
    split
    · simp
    · exact Nat.le_succ_of_le (ih _)

/-- The paths between brackets: what is neither quoted nor an index. -/
def innerPaths : List Char → List String
  | [] => []
  | '[' :: q :: cs =>
    if q = '"' || q = '\'' then innerPaths cs
    else
      let inner := bracketed 0 (q :: cs)
      let later := innerPaths inner.2
      let path := String.ofList inner.1
      if inner.1.all isAsciiDigit && digitsValue inner.1 < 0x10000000000000000 then later
      else path :: later
  | _ :: cs => innerPaths cs
termination_by cs => cs.length
decreasing_by
  all_goals simp_wf
  all_goals first
    | omega
    | (have h := length_bracketed_le 0 (q :: cs); simp only [List.length_cons] at h ⊢; omega)

/-- Puts a step in the place of the first copy of a bracketed path. -/
def resolveFirst (inner step path : String) : String :=
  match cut ("[" ++ inner ++ "]") path with
  | some (before, after) => before ++ "." ++ step ++ after
  | none => path ++ "." ++ step

/-- Writes brackets as steps between points. -/
def dotted (path : String) : String :=
  replace "]" "" (replace "\"]" "\"" (replace "']" "\"" (replace "[" "."
    (replace "[\"" ".\"" (replace "['" ".\"" (replace "/" "~1" path))))))

/-- The step that a value between brackets makes. -/
def indexStep (inner path : String) : Value → Except Fault String
  | .text s => .ok ("\"" ++ s ++ "\"")
  | .int n => .ok (toString n)
  | .float x => .ok (Value.float x).shown
  | _ => .error (.noIndex inner path)

/-- The value of a path. Paths between brackets are looked up first; `depth`
bounds how deep brackets nest. -/
def valueAt (template : String) (context : SortedMap Value) (frames : List Frame) :
    Nat → String → Except Fault Value
  | 0, path => .error (.undefined path template none)
  | depth + 1, path =>
    if !path.toList.contains '[' then
      match find? context frames path with
      | some v => .ok v
      | none => .error (.undefined path template none)
    else
      let resolve (resolved inner : String) : Except Fault String :=
        match valueAt template context frames depth inner with
        | .error cause => .error (.badBrackets path cause)
        | .ok v => (indexStep inner path v).map fun step => resolveFirst inner step resolved
      match (innerPaths path.toList).foldlM resolve path with
      | .error fault => .error fault
      | .ok resolved =>
        match find? context frames (dotted resolved) with
        | some v => .ok v
        | none => .error (.undefined path template (some (dotted resolved)))

/-! ## All names at once -/

/-- The names that a frame gives values to, the latest last. -/
def Frame.visible (f : Frame) : List (String × Value) :=
  let ofLoop : List (String × Value) :=
    match f.kind with
    | .loop l =>
      (l.current?.map fun v => (l.item, v)).toList ++
        (l.key.bind fun name => l.currentKey?.map fun key => (name, .text key)).toList
    | _ => []
  f.names.reverse ++ ofLoop

/-- The names that are seen from the innermost frame, outer frames last. -/
def visibleNames : List Frame → List (String × Value)
  | [] => []
  | f :: frames =>
    match f.kind with
    | .definition _ _ => f.visible
    | _ => f.visible ++ visibleNames frames

/-- Whether the body of a definition is being rendered. -/
def insideDefinition (frames : List Frame) : Bool :=
  frames.any fun f =>
    match f.kind with
    | .definition _ _ => true
    | _ => false

/-- All names with their values as a document. -/
def dump (context : SortedMap Value) (frames : List Frame) : String :=
  let base := if insideDefinition frames then [] else context.entries
  (Value.ofFields (base ++ visibleNames frames)).toJson.pretty

end Scaffold.Template
