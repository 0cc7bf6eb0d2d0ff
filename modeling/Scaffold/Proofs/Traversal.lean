import Mathlib.Data.List.Basic

/-!
# Mappings that may fail

A list is mapped by a function without a result for some members. The whole has
a result exactly when every member has one. What is known of the results of steps and
of their failures is known of those of a whole computation.
-/

namespace Scaffold

/-- What is found under a key is listed with it. -/
theorem mem_of_lookup {κ α : Type} [BEq κ] [LawfulBEq κ] {key : κ} {a : α} {entries : List (κ × α)}
    (h : entries.lookup key = some a) : (key, a) ∈ entries := by
  obtain ⟨before, after, rfl, -⟩ := List.lookup_eq_some_iff.mp h
  exact List.mem_append_right _ List.mem_cons_self

variable {α β γ : Type} {f : α → Option β}

theorem mapM_cons_eq_some {x : α} {xs : List α} {ys : List β} :
    (x :: xs).mapM f = some ys ↔ ∃ y rest, f x = some y ∧ xs.mapM f = some rest ∧
      ys = y :: rest := by
  rw [List.mapM_cons]
  cases f x with
  | none => simp
  | some y =>
      cases xs.mapM f with
      | none => simp
      | some rest => simp [eq_comm]

/-- What is known of the results of single members is known of those of lists. -/
theorem map_of_mapM {g : α → γ} {k : β → γ} (h : ∀ x y, f x = some y → g x = k y) {xs : List α}
    {ys : List β} (hxs : xs.mapM f = some ys) : xs.map g = ys.map k := by
  induction xs generalizing ys with
  | nil =>
      obtain rfl := Option.some.inj hxs
      rfl
  | cons x xs ih =>
      obtain ⟨y, rest, hy, hrest, rfl⟩ := mapM_cons_eq_some.mp hxs
      rw [List.map_cons, List.map_cons, h x y hy, ih hrest]

/-- A function with a result that turns another function round does so on lists. -/
theorem mapM_map_eq_some {k : β → α} (h : ∀ y, f (k y) = some y) (ys : List β) :
    (ys.map k).mapM f = some ys := by
  induction ys with
  | nil => rfl
  | cons y ys ih => exact mapM_cons_eq_some.mpr ⟨y, ys, h y, ih, rfl⟩

/-- A function with results of one form on the members of a kind maps lists of that kind. -/
theorem mapM_eq_some_iff_map {P : α → Prop} {k : α → β}
    (h : ∀ x y, f x = some y ↔ P x ∧ y = k x) {xs : List α} {ys : List β} :
    xs.mapM f = some ys ↔ (∀ x ∈ xs, P x) ∧ ys = xs.map k := by
  induction xs generalizing ys with
  | nil => simp [eq_comm]
  | cons x xs ih =>
      rw [mapM_cons_eq_some]
      constructor
      · rintro ⟨y, rest, hy, hrest, rfl⟩
        obtain ⟨hx, rfl⟩ := (h x y).mp hy
        obtain ⟨hxs, rfl⟩ := ih.mp hrest
        exact ⟨List.forall_mem_cons.mpr ⟨hx, hxs⟩, rfl⟩
      · rintro ⟨hall, rfl⟩
        obtain ⟨hx, hxs⟩ := List.forall_mem_cons.mp hall
        exact ⟨_, _, (h x _).mpr ⟨hx, rfl⟩, ih.mpr ⟨hxs, rfl⟩, rfl⟩

/-- A mapping fails for the first member that is not good, or comes to what all give. -/
theorem mapM_ok_or_first {ε : Type} {f : α → Except ε β} {P : α → Prop} {k : α → β} {blame : α → ε}
    (hgood : ∀ x, P x → f x = .ok (k x)) (hbad : ∀ x, ¬ P x → f x = .error (blame x))
    (xs : List α) :
    (∀ x ∈ xs, P x) ∧ xs.mapM f = .ok (xs.map k) ∨
      ∃ before x after, xs = before ++ x :: after ∧ (∀ y ∈ before, P y) ∧ ¬ P x ∧
        xs.mapM f = .error (blame x) := by
  induction xs with
  | nil => exact .inl ⟨fun x hx => absurd hx List.not_mem_nil, rfl⟩
  | cons x xs ih =>
      by_cases hx : P x
      · rcases ih with ⟨hall, hmap⟩ | ⟨before, y, after, rfl, hbefore, hy, hmap⟩
        · refine .inl ⟨List.forall_mem_cons.mpr ⟨hx, hall⟩, ?_⟩
          rw [List.mapM_cons, hgood x hx, hmap]
          rfl
        · refine .inr ⟨x :: before, y, after, rfl, List.forall_mem_cons.mpr ⟨hx, hbefore⟩, hy, ?_⟩
          rw [List.mapM_cons, hgood x hx, hmap]
          rfl
      · refine .inr ⟨[], x, xs, rfl, fun y hy => absurd hy List.not_mem_nil, hx, ?_⟩
        rw [List.mapM_cons, hbad x hx]
        rfl

/-! ## Results and failures -/

/-- A good result, or a failure that is allowed. -/
def Meets {ε α : Type} (good : α → Prop) (allowed : ε → Prop) : Except ε α → Prop
  | .ok a => good a
  | .error e => allowed e

namespace Meets

variable {ε : Type} {allowed more : ε → Prop} {good good' : α → Prop} {better : β → Prop}
  {r : Except ε α}

theorem ok {a : α} (h : good a) : Meets good allowed (.ok a) := h

theorem error {e : ε} (h : allowed e) : Meets good allowed (.error e) := h

theorem imp (h : Meets good allowed r) (hgood : ∀ a, good a → good' a)
    (hallowed : ∀ e, allowed e → more e) : Meets good' more r := by
  cases r with
  | ok a => exact hgood a h
  | error e => exact hallowed e h

theorem bind (h : Meets good allowed r) {k : α → Except ε β}
    (hk : ∀ a, good a → Meets better allowed (k a)) : Meets better allowed (r >>= k) := by
  cases r with
  | ok a => exact hk a h
  | error e => exact h

theorem map (h : Meets good allowed r) {k : α → β} (hk : ∀ a, good a → better (k a)) :
    Meets better allowed (r.map k) := by
  cases r with
  | ok a => exact hk a h
  | error e => exact h

theorem foldlM {f : β → α → Except ε β} {xs : List α}
    (h : ∀ x ∈ xs, ∀ b, better b → Meets better allowed (f b x)) {b : β} (hb : better b) :
    Meets better allowed (xs.foldlM f b) := by
  induction xs generalizing b with
  | nil => exact hb
  | cons x xs ih =>
      rw [List.foldlM_cons]
      exact (h x List.mem_cons_self b hb).bind fun b hb =>
        ih (fun y hy => h y (List.mem_cons_of_mem _ hy)) hb

theorem mapM {f : α → Except ε β} {xs : List α}
    (h : ∀ x ∈ xs, Meets better allowed (f x)) :
    Meets (fun ys => ∀ y ∈ ys, better y) allowed (xs.mapM f) := by
  induction xs with
  | nil => exact List.forall_mem_nil better
  | cons x xs ih =>
      rw [List.mapM_cons]
      refine (h x List.mem_cons_self).bind fun y hy => ?_
      refine (ih fun z hz => h z (List.mem_cons_of_mem _ hz)).bind fun ys hys => ?_
      exact List.forall_mem_cons.mpr ⟨hy, hys⟩

end Meets

end Scaffold
