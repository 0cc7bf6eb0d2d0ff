import Scaffold.Disk.Action

/-!
# Taking actions apart

One lemma for each way of building an action says what it does to a disk, so
that later proofs run actions step by step and never open the monad.
-/

namespace Scaffold.Action

variable {α β : Type}

theorem runOn_pure (x : α) (d : Disk) : (pure x : Action α).runOn d = (.ok x, d) := rfl

theorem runOn_throw (e : Error) (d : Disk) : (throw e : Action α).runOn d = (.error e, d) := rfl

theorem runOn_ask (f : Disk → α) (d : Disk) : (ask f).runOn d = (.ok (f d), d) := rfl

theorem runOn_ofExcept (r : Except Error α) (d : Disk) : (ofExcept r).runOn d = (r, d) := rfl

theorem runOn_readText (p : Path) (d : Disk) :
    (readText p).runOn d = ((d.readText p).mapError (.io p.text ·), d) := by
  unfold runOn readText
  cases d.readText p <;> rfl

theorem runOn_bind (a : Action α) (f : α → Action β) (d : Disk) :
    (a >>= f).runOn d =
      match a.runOn d with
      | (.ok x, e) => (f x).runOn e
      | (.error err, e) => (.error err, e) := by
  unfold runOn
  simp only [bind, ExceptT.bind, ExceptT.mk, StateT.bind]
  rcases a d with ⟨r, e⟩
  cases r <;> rfl

theorem runOn_bind_of_ok {a : Action α} {f : α → Action β} {d e : Disk} {x : α}
    (h : a.runOn d = (.ok x, e)) : (a >>= f).runOn d = (f x).runOn e := by
  rw [runOn_bind, h]

theorem runOn_bind_of_error {a : Action α} {f : α → Action β} {d e : Disk} {err : Error}
    (h : a.runOn d = (.error err, e)) : (a >>= f).runOn d = (.error err, e) := by
  rw [runOn_bind, h]

theorem runOn_bind_pure (a : Action α) (f : α → β) (d : Disk) :
    (a >>= fun x => pure (f x)).runOn d = ((a.runOn d).1.map f, (a.runOn d).2) := by
  rw [runOn_bind]
  rcases a.runOn d with ⟨r, e⟩
  cases r <;> rfl

/-- A sequence succeeds through a success of its first part. -/
theorem bind_eq_ok {a : Action α} {f : α → Action β} {d e : Disk} {y : β}
    (h : (a >>= f).runOn d = (.ok y, e)) :
    ∃ x m, a.runOn d = (.ok x, m) ∧ (f x).runOn m = (.ok y, e) := by
  rcases ha : a.runOn d with ⟨r, m⟩
  cases r with
  | ok x => exact ⟨x, m, rfl, (runOn_bind_of_ok ha).symm.trans h⟩
  | error err =>
      rw [runOn_bind_of_error ha] at h
      exact absurd h (by simp)

/-- A sequence fails where its first part does or its second. -/
theorem bind_eq_error {a : Action α} {f : α → Action β} {d e : Disk} {err : Error}
    (h : (a >>= f).runOn d = (.error err, e)) :
    a.runOn d = (.error err, e) ∨
      ∃ x m, a.runOn d = (.ok x, m) ∧ (f x).runOn m = (.error err, e) := by
  rcases ha : a.runOn d with ⟨r, m⟩
  cases r with
  | ok x => exact Or.inr ⟨x, m, rfl, (runOn_bind_of_ok ha).symm.trans h⟩
  | error err' =>
      rw [runOn_bind_of_error ha] at h
      obtain ⟨rfl, rfl⟩ : err' = err ∧ m = e := by simpa using h
      exact Or.inl rfl

/-- What holds behind the first part of a sequence, and what the second part keeps, holds
behind the sequence, whether or not it succeeds. -/
theorem bind_keeps {P : Disk → Prop} {a : Action α} {f : α → Action β} {d : Disk}
    (hfirst : P (a.runOn d).2) (hnext : ∀ x e, P e → P ((f x).runOn e).2) :
    P ((a >>= f).runOn d).2 := by
  rcases ha : a.runOn d with ⟨r, e⟩
  rw [ha] at hfirst
  cases r with
  | error err =>
      rw [runOn_bind_of_error ha]
      exact hfirst
  | ok x =>
      rw [runOn_bind_of_ok ha]
      exact hnext x e hfirst

theorem runOn_mapError (a : Action α) (f : Error → Error) (d : Disk) :
    (mapError a f).runOn d = ((a.runOn d).1.mapError f, (a.runOn d).2) := by
  unfold runOn mapError
  rcases a d with ⟨r, e⟩
  cases r <;> rfl

theorem mapError_eq_ok {a : Action α} {f : Error → Error} {d e : Disk} {x : α} :
    (mapError a f).runOn d = (.ok x, e) ↔ a.runOn d = (.ok x, e) := by
  rw [runOn_mapError]
  rcases a.runOn d with ⟨r, m⟩
  cases r with
  | error err =>
      change (Except.error (f err), m) = _ ↔ _
      simp
  | ok y => exact Iff.rfl

theorem writeFile_of_none {p : Path} (h : p.parent? = none) (text : String) :
    writeFile p text = writeBytes p text.toUTF8 := by
  unfold writeFile
  rw [h]

theorem writeFile_of_some {p up : Path} (h : p.parent? = some up) (text : String) :
    writeFile p text = makeDirectories up >>= fun _ => writeBytes p text.toUTF8 := by
  unfold writeFile
  rw [h]

/-! ## Actions that only read -/

/-- An action that leaves every disk as it is. -/
def Reads (a : Action α) : Prop := ∀ d, (a.runOn d).2 = d

/-- What a reading action does to a disk is its answer. -/
theorem Reads.runOn_eq {a : Action α} (ha : Reads a) (d : Disk) :
    a.runOn d = ((a.runOn d).1, d) := Prod.ext rfl (ha d)

theorem reads_pure (x : α) : Reads (pure x : Action α) := fun _ => rfl

theorem reads_throw (e : Error) : Reads (throw e : Action α) := fun _ => rfl

theorem reads_ask (f : Disk → α) : Reads (ask f) := fun _ => rfl

theorem reads_ofExcept (r : Except Error α) : Reads (ofExcept r) := fun _ => rfl

theorem reads_readText (p : Path) : Reads (readText p) := by
  intro d
  unfold runOn readText
  split <;> rfl

theorem reads_bind {a : Action α} {f : α → Action β} (ha : Reads a) (hf : ∀ x, Reads (f x)) :
    Reads (a >>= f) := by
  intro d
  rw [runOn_bind, ha.runOn_eq]
  cases (a.runOn d).1 with
  | ok x => exact hf x d
  | error err => rfl

theorem reads_mapError {a : Action α} (ha : Reads a) (f : Error → Error) :
    Reads (mapError a f) := by
  intro d
  rw [runOn_mapError]
  exact ha d

/-- Sequences are equal on a disk that the first part leaves as it is, where their parts are. -/
theorem Reads.bind_congr {a a' : Action α} {f f' : α → Action β} {d : Disk} (hreads : Reads a)
    (ha : a'.runOn d = a.runOn d) (hf : ∀ x, (f' x).runOn d = (f x).runOn d) :
    (a' >>= f').runOn d = (a >>= f).runOn d := by
  rw [runOn_bind, runOn_bind, ha, hreads.runOn_eq d]
  cases (a.runOn d).1 with
  | ok x => exact hf x
  | error e => rfl

/-! ## Actions that answer alike -/

/-- An action that gives the same answer on two disks. -/
def SameAnswer (d e : Disk) (a : Action α) : Prop := (a.runOn e).1 = (a.runOn d).1

theorem sameAnswer_pure (d e : Disk) (x : α) : SameAnswer d e (pure x : Action α) := rfl

theorem sameAnswer_throw (d e : Disk) (err : Error) : SameAnswer d e (throw err : Action α) := rfl

theorem sameAnswer_ofExcept (d e : Disk) (r : Except Error α) : SameAnswer d e (ofExcept r) := rfl

/-- A sequence answers alike where its second part does so for the answer of the first. -/
theorem sameAnswer_bind {a : Action α} {f : α → Action β} {d e : Disk} (hreads : Reads a)
    (ha : SameAnswer d e a) (hf : ∀ x, (a.runOn d).1 = .ok x → SameAnswer d e (f x)) :
    SameAnswer d e (a >>= f) := by
  unfold SameAnswer at *
  rw [runOn_bind, runOn_bind, hreads.runOn_eq e, hreads.runOn_eq d, ha]
  cases hx : (a.runOn d).1 with
  | ok x => exact hf x hx
  | error err => rfl

theorem sameAnswer_mapError {a : Action α} {d e : Disk} (h : SameAnswer d e a)
    (f : Error → Error) : SameAnswer d e (mapError a f) := by
  unfold SameAnswer at *
  rw [runOn_mapError, runOn_mapError, h]

/-! ## Actions with known errors -/

/-- An action all of whose errors satisfy a predicate. -/
def FailsWith (P : Error → Prop) (a : Action α) : Prop :=
  ∀ d e after, a.runOn d = (.error e, after) → P e

variable {P : Error → Prop}

theorem failsWith_pure (x : α) : FailsWith P (pure x : Action α) := by
  intro d e after h
  rw [runOn_pure] at h
  exact absurd h (by simp)

theorem failsWith_throw {e : Error} (h : P e) : FailsWith P (throw e : Action α) := by
  intro d e' after he
  rw [runOn_throw] at he
  obtain ⟨rfl, -⟩ : e = e' ∧ d = after := by simpa using he
  exact h

theorem failsWith_ask (f : Disk → α) : FailsWith P (ask f) := by
  intro d e after h
  rw [runOn_ask] at h
  exact absurd h (by simp)

theorem failsWith_ofExcept {r : Except Error α} (h : ∀ e, r = .error e → P e) :
    FailsWith P (ofExcept r) := by
  intro d e after he
  rw [runOn_ofExcept] at he
  obtain ⟨he, -⟩ : r = .error e ∧ d = after := by simpa using he
  exact h e he

theorem failsWith_bind {a : Action α} {f : α → Action β} (ha : FailsWith P a)
    (hf : ∀ x, FailsWith P (f x)) : FailsWith P (a >>= f) := by
  intro d e after h
  rcases bind_eq_error h with he | ⟨x, m, -, he⟩
  · exact ha d e after he
  · exact hf x m e after he

theorem FailsWith.imp {Q : Error → Prop} {a : Action α} (h : FailsWith P a)
    (himp : ∀ e, P e → Q e) : FailsWith Q a := fun d e after he => himp e (h d e after he)

theorem failsWith_mapError {Q : Error → Prop} {a : Action α} {f : Error → Error}
    (h : FailsWith P a) (hf : ∀ e, P e → Q (f e)) : FailsWith Q (mapError a f) := by
  intro d e after he
  rw [runOn_mapError] at he
  obtain ⟨he, -⟩ := Prod.ext_iff.mp he
  cases ha : (a.runOn d).1 with
  | ok x =>
      rw [ha] at he
      cases he
  | error e' =>
      rw [ha] at he
      obtain rfl := Except.error.inj he
      exact hf e' (h d e' _ (Prod.ext ha rfl))

/-! Operations on files fail with faults of the disk. -/

variable (hP : ∀ path fault, P (.io path fault))

include hP

theorem failsWith_readText (p : Path) : FailsWith P (readText p) := by
  intro d e after h
  unfold runOn readText at h
  split at h
  · exact absurd h (by simp)
  · obtain ⟨he, -⟩ := Prod.ext_iff.mp h
    rw [← Except.error.inj he]
    exact hP _ _

theorem failsWith_makeDirectories (p : Path) : FailsWith P (makeDirectories p) := by
  intro d e after h
  unfold runOn makeDirectories at h
  split at h
  · exact absurd h (by simp)
  · obtain ⟨he, -⟩ := Prod.ext_iff.mp h
    rw [← Except.error.inj he]
    exact hP _ _

theorem failsWith_writeBytes (p : Path) (content : ByteArray) :
    FailsWith P (writeBytes p content) := by
  intro d e after h
  unfold runOn writeBytes change at h
  split at h
  · exact absurd h (by simp)
  · obtain ⟨he, -⟩ := Prod.ext_iff.mp h
    rw [← Except.error.inj he]
    exact hP _ _

theorem failsWith_writeFile (p : Path) (text : String) : FailsWith P (writeFile p text) := by
  cases hup : p.parent? with
  | none =>
      rw [writeFile_of_none hup]
      exact failsWith_writeBytes hP p _
  | some up =>
      rw [writeFile_of_some hup]
      exact failsWith_bind (failsWith_makeDirectories hP up) fun _ => failsWith_writeBytes hP p _

omit hP in
/-- What stops a file from being written is a fault of the disk. -/
theorem io_of_writeFile {p : Path} {text : String} {d after : Disk} {e : Error}
    (h : (writeFile p text).runOn d = (.error e, after)) : ∃ path fault, e = .io path fault :=
  failsWith_writeFile (P := fun e => ∃ path fault, e = .io path fault)
    (fun path fault => ⟨path, fault, rfl⟩) p text d e after h

end Scaffold.Action
