import Scaffold.SortedMap
import Scaffold.Value

/-!
# Contexts

A context gives values to the names that a template may use. It keeps its names
in the order in which they were first inserted; inserting a name again replaces
its value and keeps its place.
-/

namespace Scaffold

structure Context where
  entries : List (String × Value)
  distinct : (entries.map (·.1)).Nodup
  deriving DecidableEq

namespace Context

def empty : Context := ⟨[], List.nodup_nil⟩

instance : Inhabited Context := ⟨empty⟩

/-! ## Inserting -/

/-- Replaces the value of a name that is present, else adds it at the end. -/
def insertEntry (key : String) (value : Value) : List (String × Value) → List (String × Value)
  | [] => [(key, value)]
  | (k, v) :: rest => if k = key then (k, value) :: rest else (k, v) :: insertEntry key value rest

theorem keys_insertEntry (key : String) (value : Value) (entries : List (String × Value)) :
    (insertEntry key value entries).map (·.1) =
      if key ∈ entries.map (·.1) then entries.map (·.1) else entries.map (·.1) ++ [key] := by
  induction entries with
  | nil => simp [insertEntry]
  | cons head rest ih =>
    obtain ⟨k, v⟩ := head
    by_cases h : k = key
    · simp [insertEntry, h]
    · have hne : ¬ key = k := fun e => h e.symm
      by_cases hm : key ∈ rest.map (·.1)
      · rw [if_pos hm] at ih
        rw [if_pos (by simp only [List.map_cons, List.mem_cons]; exact Or.inr hm)]
        simp [insertEntry, h, ih]
      · rw [if_neg hm] at ih
        rw [if_neg (by simp only [List.map_cons, List.mem_cons, not_or]; exact ⟨hne, hm⟩)]
        simp [insertEntry, h, ih]

theorem nodup_insertEntry (key : String) (value : Value) {entries : List (String × Value)}
    (h : (entries.map (·.1)).Nodup) : ((insertEntry key value entries).map (·.1)).Nodup := by
  rw [keys_insertEntry]
  split
  · exact h
  · next hm => exact List.nodup_append.mpr ⟨h, by simp, by
      intro a ha b hb e
      rw [List.mem_singleton] at hb
      subst hb; subst e
      exact hm ha⟩

def insert (c : Context) (key : String) (value : Value) : Context :=
  ⟨insertEntry key value c.entries, nodup_insertEntry key value c.distinct⟩

/-- The context of a list of entries, inserted one after the other. -/
def ofList (entries : List (String × Value)) : Context :=
  entries.foldl (fun c (key, value) => c.insert key value) empty

/-! ## Asking -/

def keys (c : Context) : List String := c.entries.map (·.1)

def get? (c : Context) (key : String) : Option Value := c.entries.lookup key

def contains (c : Context) (key : String) : Bool := (c.get? key).isSome

def size (c : Context) : Nat := c.entries.length

def isEmpty (c : Context) : Bool := c.entries.isEmpty

/-- The values of the names, whatever the order of insertion. -/
def values (c : Context) : SortedMap Value := SortedMap.ofList c.entries

theorem lookup_insertEntry (key k : String) (value : Value) (entries : List (String × Value)) :
    (insertEntry key value entries).lookup k =
      if k = key then some value else entries.lookup k := by
  induction entries with
  | nil =>
    by_cases h : k = key
    · subst h; simp [insertEntry]
    · have : (k == key) = false := by simpa using h
      simp [insertEntry, List.lookup_cons, h, this]
  | cons head rest ih =>
    obtain ⟨m, old⟩ := head
    by_cases hm : m = key
    · subst hm
      by_cases hk : k = m
      · subst hk; simp [insertEntry]
      · have : (k == m) = false := by simpa using hk
        simp [insertEntry, List.lookup_cons, hk, this]
    · by_cases hk : k = m
      · subst hk; simp [insertEntry, hm]
      · have : (k == m) = false := by simpa using hk
        simp [insertEntry, List.lookup_cons, hm, this, ih]

/-- Inserting a name changes its own value and no other. -/
theorem get?_insert (c : Context) (key k : String) (value : Value) :
    (c.insert key value).get? k = if k = key then some value else c.get? k :=
  lookup_insertEntry key k value c.entries

end Context

end Scaffold
