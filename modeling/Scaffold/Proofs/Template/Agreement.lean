import Scaffold.Template.Evaluation

/-!
# Computations that agree

Two renderings of a template with contexts of which one extends the other run in
step until the smaller context lacks a name. They either agree strictly, with
the same outcome from the same situation, or only as far as the first one succeeds.
Most steps keep both kinds of agreement; a step that takes a failure for an
answer makes the weaker kind out of the stronger one and of nothing less.
-/

namespace Scaffold.Template

variable {α β : Type}

namespace Eval

/-- The outcome of a computation in a situation and the situation behind it, if it comes
to an end. -/
def runOn (m : Eval α) (s : Situation) : Option (Except Fault α × Situation) := m s

theorem runOn_bind (m : Eval α) (k : α → Eval β) (s : Situation) :
    (m >>= k).runOn s =
      match m.runOn s with
      | some (.ok a, after) => (k a).runOn after
      | some (.error fault, after) => some (.error fault, after)
      | none => none := by
  unfold runOn
  simp only [bind, ExceptT.bind, ExceptT.mk, StateT.bind]
  rcases m s with _ | ⟨r, after⟩
  · rfl
  · cases r <;> rfl

theorem runOn_mapFault (f : Fault → Fault) (m : Eval α) (s : Situation) :
    (m.mapFault f).runOn s = (m.runOn s).map fun (r, after) => (r.mapError f, after) := by
  unfold runOn mapFault
  simp only [Functor.map, ExceptT.run, ExceptT.mk, StateT.map]
  rcases m s with _ | ⟨r, after⟩ <;> rfl

theorem runOn_outcome (m : Eval α) (s : Situation) :
    m.outcome.runOn s = (m.runOn s).map fun (r, after) => (.ok r, after) := by
  unfold runOn outcome
  simp only [Functor.map, ExceptT.run, ExceptT.mk, StateT.map]
  rcases m s with _ | ⟨r, after⟩ <;> rfl

end Eval

/-! ## Results -/

/-- Two results that are equal, or of which the first is a failure unless
`strict` holds. -/
def SameResult (strict : Bool) (r r' : Except Fault α) : Prop :=
  r' = r ∨ strict = false ∧ ∃ fault, r = .error fault

theorem SameResult.refl {strict : Bool} (r : Except Fault α) : SameResult strict r r := Or.inl rfl

theorem SameResult.eq {r r' : Except Fault α} (h : SameResult true r r') : r' = r := by
  rcases h with h | ⟨hfalse, -⟩
  · exact h
  · exact absurd hfalse (by simp)

theorem SameResult.bind {strict : Bool} {r r' : Except Fault α} {k k' : α → Except Fault β}
    (h : SameResult strict r r') (hk : ∀ a, SameResult strict (k a) (k' a)) :
    SameResult strict (r >>= k) (r' >>= k') := by
  rcases h with rfl | ⟨hstrict, fault, rfl⟩
  · cases r' with
    | error fault => exact Or.inl rfl
    | ok a => exact hk a
  · exact Or.inr ⟨hstrict, fault, rfl⟩

theorem SameResult.foldlM {strict : Bool} {f f' : β → α → Except Fault β} {items : List α}
    (h : ∀ item ∈ items, ∀ b, SameResult strict (f b item) (f' b item)) (b : β) :
    SameResult strict (items.foldlM f b) (items.foldlM f' b) := by
  induction items generalizing b with
  | nil => exact SameResult.refl _
  | cons item items ih =>
      rw [List.foldlM_cons, List.foldlM_cons]
      exact (h item List.mem_cons_self b).bind
        fun b => ih (fun item hitem => h item (List.mem_cons_of_mem _ hitem)) b

/-! ## Computations -/

/-- Two computations with the same outcome in every situation, unless the first one does
not succeed and `strict` does not hold. -/
def Agrees (strict : Bool) (m m' : Eval α) : Prop :=
  ∀ s, m'.runOn s = m.runOn s ∨ strict = false ∧ ∀ a after, m.runOn s ≠ some (.ok a, after)

namespace Agrees

variable {strict : Bool}

theorem refl (m : Eval α) : Agrees strict m m := fun _ => Or.inl rfl

theorem runOn_eq {m m' : Eval α} (h : Agrees true m m') (s : Situation) :
    m'.runOn s = m.runOn s := by
  rcases h s with h | ⟨hfalse, -⟩
  · exact h
  · exact absurd hfalse (by simp)

/-- What succeeds succeeds in the same way, however strictly two computations agree. -/
theorem runOn_ok {m m' : Eval α} (h : Agrees strict m m') {s after : Situation} {a : α}
    (hrun : m.runOn s = some (.ok a, after)) : m'.runOn s = some (.ok a, after) := by
  rcases h s with heq | ⟨-, hfails⟩
  · exact heq.trans hrun
  · exact absurd hrun (hfails a after)

theorem ofExcept {r r' : Except Fault α} (h : SameResult strict r r') :
    Agrees strict (Eval.ofExcept r) (Eval.ofExcept r') := by
  intro s
  rcases h with rfl | ⟨hstrict, fault, rfl⟩
  · exact Or.inl rfl
  · exact Or.inr ⟨hstrict, fun a after hrun => by cases hrun⟩

theorem bind {m m' : Eval α} {k k' : α → Eval β} (h : Agrees strict m m')
    (hk : ∀ a, Agrees strict (k a) (k' a)) : Agrees strict (m >>= k) (m' >>= k') := by
  intro s
  rw [Eval.runOn_bind, Eval.runOn_bind]
  rcases h s with heq | ⟨hstrict, hfails⟩
  · rw [heq]
    match m.runOn s with
    | some (.ok a, after) => exact hk a after
    | some (.error fault, after) => exact Or.inl rfl
    | none => exact Or.inl rfl
  · refine Or.inr ⟨hstrict, fun b after hrun => ?_⟩
    split at hrun
    · next a inner hinner => exact hfails a inner hinner
    · cases hrun
    · cases hrun

theorem mapFault {m m' : Eval α} (f : Fault → Fault) (h : Agrees strict m m') :
    Agrees strict (m.mapFault f) (m'.mapFault f) := by
  intro s
  rw [Eval.runOn_mapFault, Eval.runOn_mapFault]
  rcases h s with heq | ⟨hstrict, hfails⟩
  · rw [heq]
    exact Or.inl rfl
  · refine Or.inr ⟨hstrict, fun a after hrun => ?_⟩
    obtain ⟨⟨r, inner⟩, hinner, hmapped⟩ := Option.map_eq_some_iff.mp hrun
    cases r with
    | ok a => exact hfails a inner hinner
    | error fault => cases hmapped

/-- A failure that becomes an answer has to be the same failure. -/
theorem outcome {m m' : Eval α} (h : Agrees true m m') : Agrees strict m.outcome m'.outcome := by
  intro s
  rw [Eval.runOn_outcome, Eval.runOn_outcome, h.runOn_eq s]
  exact Or.inl rfl

end Agrees

end Scaffold.Template
