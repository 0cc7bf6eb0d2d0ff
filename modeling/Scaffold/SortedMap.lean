/-!
# Maps with sorted keys

A map from texts is the list of its entries with strictly increasing keys, so
two maps with the same entries are equal. Putting an entry keeps the order and
replaces the value of a key that is present.
-/

namespace Scaffold

namespace SortedMap

/-- Puts an entry at its place in a list with increasing keys. -/
def insertKey {α : Type} (key : String) (value : α) : List (String × α) → List (String × α)
  | [] => [(key, value)]
  | (k, v) :: rest =>
    if key < k then (key, value) :: (k, v) :: rest
    else if key = k then (key, value) :: rest
    else (k, v) :: insertKey key value rest

/-- Keys strictly increase. -/
def Increasing {α : Type} (entries : List (String × α)) : Prop :=
  entries.Pairwise fun a b => a.1 < b.1

theorem mem_insertKey {α : Type} {key : String} {value : α} {entries : List (String × α)}
    {e : String × α} (h : e ∈ insertKey key value entries) : e = (key, value) ∨ e ∈ entries := by
  induction entries with
  | nil => exact Or.inl (by simpa [insertKey] using h)
  | cons head rest ih =>
    obtain ⟨k, v⟩ := head
    unfold insertKey at h
    split at h
    · simpa using h
    · split at h
      · rcases List.mem_cons.mp h with h | h
        · exact Or.inl h
        · exact Or.inr (List.mem_cons_of_mem _ h)
      · rcases List.mem_cons.mp h with h | h
        · exact Or.inr (by simp [h])
        · exact (ih h).imp_right (List.mem_cons_of_mem _)

theorem increasing_insertKey {α : Type} (key : String) (value : α)
    {entries : List (String × α)} (h : Increasing entries) :
    Increasing (insertKey key value entries) := by
  induction entries with
  | nil => simp [insertKey, Increasing]
  | cons head rest ih =>
    obtain ⟨k, v⟩ := head
    have hk := List.pairwise_cons.mp h
    unfold insertKey
    split
    · next hlt =>
      refine List.pairwise_cons.mpr ⟨?_, h⟩
      intro e he
      rcases List.mem_cons.mp he with he | he
      · simpa [he] using hlt
      · exact String.lt_trans hlt (hk.1 e he)
    · split
      · next heq =>
        subst heq
        exact List.pairwise_cons.mpr ⟨hk.1, hk.2⟩
      · next hlt hne =>
        refine List.pairwise_cons.mpr ⟨?_, ih hk.2⟩
        intro e he
        rcases mem_insertKey he with he | he
        · subst he
          exact Std.lt_of_le_of_ne (Std.not_lt.mp hlt) (fun h => hne h.symm)
        · exact hk.1 e he

end SortedMap

/-- A map from texts to values. -/
structure SortedMap (α : Type) where
  entries : List (String × α)
  increasing : SortedMap.Increasing entries
  deriving DecidableEq

namespace SortedMap

theorem eq_of_entries {α : Type} {m m' : SortedMap α} (h : m.entries = m'.entries) : m = m' := by
  cases m
  cases m'
  obtain rfl := h
  rfl

def empty {α : Type} : SortedMap α := ⟨[], List.Pairwise.nil⟩

instance {α : Type} : Inhabited (SortedMap α) := ⟨empty⟩

def insert {α : Type} (m : SortedMap α) (key : String) (value : α) : SortedMap α :=
  ⟨insertKey key value m.entries, increasing_insertKey key value m.increasing⟩

def get? {α : Type} (m : SortedMap α) (key : String) : Option α := m.entries.lookup key

/-- The map of a list of entries; of two entries with one key the later counts. -/
def ofList {α : Type} (entries : List (String × α)) : SortedMap α :=
  entries.foldl (fun m (key, value) => m.insert key value) empty

end SortedMap

end Scaffold
