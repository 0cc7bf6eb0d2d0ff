import Scaffold.Text.Blank
import Scaffold.Text.Cut

/-!
# Imports of a generated file

The packages that a file imports, each once, in the order in which they were
first asked for.
-/

namespace Scaffold

open Text

structure ImportSet where
  paths : List String
  distinct : paths.Nodup
  deriving DecidableEq

namespace ImportSet

def empty : ImportSet := ⟨[], List.nodup_nil⟩

instance : Inhabited ImportSet := ⟨empty⟩

/-- Adds a path at the end unless it is present. -/
def add (s : ImportSet) (path : String) : ImportSet :=
  if h : path ∈ s.paths then s
  else ⟨s.paths ++ [path], List.nodup_append.mpr ⟨s.distinct, by simp, by
    intro a ha b hb e
    rw [List.mem_singleton] at hb
    subst hb; subst e
    exact h ha⟩⟩

def ofList (paths : List String) : ImportSet := paths.foldl add empty

def contains (s : ImportSet) (path : String) : Bool := s.paths.contains path

def size (s : ImportSet) : Nat := s.paths.length

def isEmpty (s : ImportSet) : Bool := s.paths.isEmpty

/-- The paths as they stand in an import block. -/
def quoted (s : ImportSet) : List String := s.paths.map fun path => "\"" ++ path ++ "\""

/-- Adding a path changes nothing else. -/
theorem mem_add (s : ImportSet) (path p : String) :
    p ∈ (s.add path).paths ↔ p ∈ s.paths ∨ p = path := by
  unfold add
  split
  · next h =>
    refine ⟨Or.inl, ?_⟩
    rintro (hp | rfl)
    · exact hp
    · exact h
  · simp

end ImportSet

/-- The package of a directory below a module. -/
def joinPackage (module_ dir : String) : String :=
  let module_ := trimEndWhere (· == '/') (trim module_)
  let dir := trimWhere (· == '/') (trim dir)
  if module_ = "" then dir
  else if dir = "" then module_
  else module_ ++ "/" ++ dir

end Scaffold
