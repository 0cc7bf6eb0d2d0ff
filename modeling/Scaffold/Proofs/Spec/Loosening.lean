import Mathlib.Data.List.Nodup
import Scaffold.Proofs.Traversal
import Scaffold.Spec.Decoding

/-!
# Loosened documents

A document can be loosened without a change to what it stands for: a field that
holds its default may be missing from a record, and a record may have fields
that nobody knows. The relation of a type says where its documents have records
and which fields these know; a reading is right when it gives the same value for
a document and for every loosened form of it.
-/

namespace Scaffold

open DocumentNode

/-- Whether a document is a loosened form of another one. -/
abbrev Loosening := Json → Json → Prop

/-- A field that a record knows: what loosens its document, and the document of
its default if it has one. -/
structure KnownField where
  name : String
  loosening : Loosening
  default : Option Json

namespace Loosening

/-- An array of loosened items. -/
def items (R : Loosening) : Loosening := fun d e =>
  ∃ xs ys, d = .array xs ∧ e = .array ys ∧ List.Forall₂ R xs ys

/-- The entries of a record while it is loosened: some known ones are kept, some
that hold their default are left out, and unknown ones come in between. -/
inductive Entries (fields : List KnownField) : List (String × Json) → List (String × Json) → Prop
  | done : Entries fields [] []
  | keep {f : KnownField} {d e : Json} {before after : List (String × Json)} (hf : f ∈ fields)
      (hloose : f.loosening d e) (h : Entries fields before after) :
      Entries fields ((f.name, d) :: before) ((f.name, e) :: after)
  | leaveOut {f : KnownField} {d : Json} {before after : List (String × Json)} (hf : f ∈ fields)
      (hdefault : f.default = some d) (h : Entries fields before after) :
      Entries fields ((f.name, d) :: before) after
  | addUnknown {name : String} (d : Json) {before after : List (String × Json)}
      (hname : ∀ f ∈ fields, f.name ≠ name) (h : Entries fields before after) :
      Entries fields before ((name, d) :: after)

/-- A record with loosened entries. -/
def record (fields : List KnownField) : Loosening := fun d e =>
  ∃ before after, d = .record before ∧ e = .record after ∧ Entries fields before after

end Loosening

/-! ## Slots -/

/-- What becomes of the document of a field. -/
inductive Slot (f : KnownField) (d : Json) : Option Json → Prop
  | kept {e : Json} (h : f.loosening d e) : Slot f d (some e)
  | leftOut (h : f.default = some d) : Slot f d none

/-- What becomes of the entries of all fields. -/
inductive Slots : List KnownField → List (String × Json) → List (Option Json) → Prop
  | nil : Slots [] [] []
  | cons {f : KnownField} {name : String} {d : Json} {slot : Option Json}
      {fields : List KnownField} {entries : List (String × Json)} {slots : List (Option Json)}
      (hslot : Slot f d slot) (h : Slots fields entries slots) :
      Slots (f :: fields) ((name, d) :: entries) (slot :: slots)

/-- An entry for each of some fields, in their order. -/
def Spells (fields : List KnownField) (entries : List (String × Json)) : Prop :=
  List.Forall₂ (fun f entry => entry.1 = f.name ∧ f.loosening entry.2 entry.2) fields entries

section

variable {entries : List (String × Json)} {name : String}

theorem filter_of_not_mem (h : name ∉ entries.map (·.1)) : entries.filter (·.1 == name) = [] := by
  rw [List.filter_eq_nil_iff]
  intro entry hentry
  have hne : entry.1 ≠ name := fun e => h (e ▸ List.mem_map_of_mem hentry)
  simpa using hne

theorem fieldAt_of_not_mem (h : name ∉ entries.map (·.1)) : fieldAt entries name = some none := by
  unfold fieldAt
  rw [filter_of_not_mem h]

theorem fieldAt_cons_self (d : Json) (h : name ∉ entries.map (·.1)) :
    fieldAt ((name, d) :: entries) name = some (some d) := by
  unfold fieldAt
  rw [List.filter_cons_of_pos (by simp), filter_of_not_mem h]

theorem fieldAt_cons_of_ne {entry : String × Json} (h : entry.1 ≠ name) :
    fieldAt (entry :: entries) name = fieldAt entries name := by
  unfold fieldAt
  rw [List.filter_cons_of_neg (by simpa using h)]

end

section

variable {fields : List KnownField} {before after : List (String × Json)}

/-- A known name that a record lacks is not added to it. -/
theorem Loosening.Entries.not_mem (h : Entries fields before after) {f : KnownField}
    (hf : f ∈ fields) (hbefore : f.name ∉ before.map (·.1)) : f.name ∉ after.map (·.1) := by
  induction h with
  | done => exact hbefore
  | keep _ _ _ ih =>
      rw [List.map_cons, List.mem_cons, not_or] at hbefore ⊢
      exact ⟨hbefore.1, ih hbefore.2⟩
  | leaveOut _ _ _ ih =>
      rw [List.map_cons, List.mem_cons, not_or] at hbefore
      exact ih hbefore.2
  | addUnknown d hname _ ih =>
      rw [List.map_cons, List.mem_cons, not_or]
      exact ⟨hname f hf, ih hbefore⟩

/-- A field of a record has its slot in every loosened form of it. -/
theorem Loosening.Entries.exists_slot (h : Entries fields before after)
    (hnames : (fields.map (·.name)).Nodup) (hkeys : (before.map (·.1)).Nodup) {f : KnownField}
    (hf : f ∈ fields) {d : Json} (hd : (f.name, d) ∈ before) :
    ∃ slot, fieldAt after f.name = some slot ∧ Slot f d slot := by
  -- keys do not repeat, so the field is the entry at hand or an entry behind it
  induction h with
  | done => exact absurd hd List.not_mem_nil
  | @keep f' d' e before after hf' hloose h ih =>
      rw [List.map_cons, List.nodup_cons] at hkeys
      rcases List.mem_cons.mp hd with heq | hd
      · obtain ⟨hname, rfl⟩ := Prod.mk.inj heq
        obtain rfl : f = f' := List.inj_on_of_nodup_map hnames hf hf' hname
        exact ⟨some e, fieldAt_cons_self e (h.not_mem hf hkeys.1), .kept hloose⟩
      · have hne : f'.name ≠ f.name := by
          rintro hname
          refine hkeys.1 ?_
          rw [hname]
          exact List.mem_map.mpr ⟨_, hd, rfl⟩
        rw [fieldAt_cons_of_ne hne]
        exact ih hkeys.2 hd
  | @leaveOut f' d' before after hf' hdefault h ih =>
      rw [List.map_cons, List.nodup_cons] at hkeys
      rcases List.mem_cons.mp hd with heq | hd
      · obtain ⟨hname, rfl⟩ := Prod.mk.inj heq
        obtain rfl : f = f' := List.inj_on_of_nodup_map hnames hf hf' hname
        exact ⟨none, fieldAt_of_not_mem (h.not_mem hf hkeys.1), .leftOut hdefault⟩
      · exact ih hkeys.2 hd
  | addUnknown d hname h ih =>
      rw [fieldAt_cons_of_ne (hname f hf).symm]
      exact ih hkeys hd

end

theorem readableEntries_record (entries : List (String × Json)) :
    readableEntries (entries.map fun (key, value) => (some key, value)) = some entries := by
  unfold readableEntries
  apply mapM_map_eq_some
  rintro ⟨key, value⟩
  rfl

theorem record_injective {before after : List (String × Json)}
    (h : Json.record before = .record after) : before = after := by
  have hreadable := congrArg readableEntries (Json.object.inj h)
  rw [readableEntries_record, readableEntries_record] at hreadable
  exact Option.some.inj hreadable

theorem Spells.names {fields : List KnownField} {entries : List (String × Json)}
    (h : Spells fields entries) : entries.map (·.1) = fields.map (·.name) := by
  induction h with
  | nil => rfl
  | cons hentry _ ih => rw [List.map_cons, List.map_cons, hentry.1, ih]

theorem Spells.exists_slots {fields : List KnownField} {before after : List (String × Json)}
    (hspells : Spells fields before) (h : ∀ f ∈ fields, ∀ d, (f.name, d) ∈ before →
      ∃ slot, fieldAt after f.name = some slot ∧ Slot f d slot) :
    ∃ slots, (fields.map (·.name)).mapM (fieldAt after) = some slots ∧
      Slots fields before slots := by
  induction hspells with
  | nil => exact ⟨[], rfl, .nil⟩
  | @cons f entry fields before hentry _ ih =>
      obtain ⟨name, d⟩ := entry
      obtain rfl : name = f.name := hentry.1
      obtain ⟨hf, hfields⟩ := List.forall_mem_cons.mp h
      obtain ⟨slot, hslot, hd⟩ := hf d List.mem_cons_self
      obtain ⟨slots, hslots, hds⟩ :=
        ih fun f hf d hd => hfields f hf d (List.mem_cons_of_mem _ hd)
      exact ⟨slot :: slots, mapM_cons_eq_some.mpr ⟨slot, slots, hslot, hslots, rfl⟩, .cons hd hds⟩

/-- The slots of all fields of a record are found in every loosened form of it. -/
theorem Loosening.exists_slots {fields : List KnownField} {before : List (String × Json)}
    {e : Json} (hnames : (fields.map (·.name)).Nodup) (hspells : Spells fields before)
    (h : record fields (.record before) e) :
    ∃ slots, fields? (fields.map (·.name)) e = some slots ∧ Slots fields before slots := by
  obtain ⟨before', after, hbefore, rfl, hentries⟩ := h
  obtain rfl := record_injective hbefore
  have hkeys : (before.map (·.1)).Nodup := by
    rw [hspells.names]
    exact hnames
  obtain ⟨slots, hfound, hslots⟩ :=
    hspells.exists_slots fun f hf d hd => hentries.exists_slot hnames hkeys hf hd
  refine ⟨slots, ?_, hslots⟩
  change (readableEntries _).bind _ = _
  rw [readableEntries_record]
  exact hfound

/-- A record is a loosened form of itself. -/
theorem Loosening.record_refl {fields : List KnownField} {before : List (String × Json)}
    (h : Spells fields before) : record fields (.record before) (.record before) := by
  refine ⟨before, before, rfl, rfl, ?_⟩
  have hkeep : ∀ {part : List KnownField} {entries : List (String × Json)},
      (∀ f ∈ part, f ∈ fields) → Spells part entries → Entries fields entries entries := by
    intro part entries hpart hentries
    induction hentries with
    | nil => exact .done
    | @cons f entry part entries hentry _ ih =>
        obtain ⟨hf, hpart⟩ := List.forall_mem_cons.mp hpart
        obtain ⟨name, d⟩ := entry
        obtain rfl : name = f.name := hentry.1
        exact .keep hf hentry.2 (ih hpart)
  exact hkeep (fun _ => id) h

/-! ## Readings -/

variable {α : Type} {read : Json → Option α} {name : String} {R : Loosening} {d : Json} {a : α}

/-- A reading that gives a value for a document and for its loosened forms. -/
structure ReadsAs (read : Json → Option α) (R : Loosening) (d : Json) (a : α) : Prop where
  refl : R d d
  read : ∀ e, R d e → read e = some a

theorem readsAs_exact (h : read d = some a) : ReadsAs read Eq d a := by
  constructor
  · rfl
  · rintro e rfl
    exact h

theorem ReadsAs.read_self (h : ReadsAs read R d a) : read d = some a := h.read d h.refl

theorem ReadsAs.items {encode : α → Json} {xs : List α}
    (h : ∀ x ∈ xs, ReadsAs read R (encode x) x) :
    ReadsAs (Decoding.list read) (Loosening.items R) (.array (xs.map encode)) xs := by
  constructor
  · exact ⟨_, _, rfl, rfl, List.forall₂_same.mpr fun d hd => by
      obtain ⟨x, hx, rfl⟩ := List.mem_map.mp hd
      exact (h x hx).refl⟩
  · rintro e ⟨ds, es, hds, rfl, hes⟩
    obtain rfl := Json.array.inj hds
    rw [List.forall₂_map_left_iff] at hes
    change es.mapM read = some xs
    induction hes with
    | nil => rfl
    | @cons x e xs es hx hxs ih =>
        obtain ⟨hhead, htail⟩ := List.forall_mem_cons.mp h
        exact mapM_cons_eq_some.mpr ⟨x, xs, hhead.read e hx, ih htail rfl, rfl⟩

theorem ReadsAs.needed (h : ReadsAs read R d a) {slot : Option Json}
    (hslot : Slot ⟨name, R, none⟩ d slot) : Decoding.needed read slot = some a := by
  cases hslot with
  | kept he => exact h.read _ he
  | leftOut hdefault => exact absurd hdefault nofun

theorem ReadsAs.defaulted (h : ReadsAs read R d a) {default : α} {document : Json}
    (hdefault : read document = some default) {slot : Option Json}
    (hslot : Slot ⟨name, R, some document⟩ d slot) :
    Decoding.defaulted default read slot = some a := by
  cases hslot with
  | kept he => exact h.read _ he
  | leftOut hd =>
      -- what was left out is the document of the default, which has one reading
      obtain rfl := Option.some.inj hd
      have heq := hdefault.symm.trans h.read_self
      exact heq

/-- A document of something that may be nothing. -/
theorem readsAs_optional (encode : α → Json) {s : Option α}
    (hread : ∀ x, s = some x → read (encode x) = some x ∧ nothing? (encode x) = some false)
    {slot : Option Json} (hslot : Slot ⟨name, Eq, some .null⟩ ((s.map encode).getD .null) slot) :
    Decoding.optional read slot = some s := by
  cases s with
  | none =>
      cases hslot with
      | kept he =>
          obtain rfl := he
          rfl
      | leftOut _ => rfl
  | some x =>
      obtain ⟨hx, hthere⟩ := hread x rfl
      cases hslot with
      | kept he =>
          obtain rfl := he
          unfold Decoding.optional
          dsimp only [Option.map_some, Option.getD_some]
          rw [hthere]
          exact congrArg (Option.map some) hx
      | leftOut hnull =>
          obtain hnull : Json.null = encode x := Option.some.inj hnull
          rw [← hnull] at hthere
          exact absurd hthere (by decide)

/-- A reading that asks for the fields of a record is decided by their slots. -/
theorem readsAs_record {fields : List KnownField} {entries : List (String × Json)}
    {k : List (Option Json) → Option α}
    (hread : ∀ e, read e = (fields? (fields.map (·.name)) e).bind k)
    (hnames : (fields.map (·.name)).Nodup) (hspells : Spells fields entries)
    (hslots : ∀ slots, Slots fields entries slots → k slots = some a) :
    ReadsAs read (Loosening.record fields) (.record entries) a := by
  constructor
  · exact Loosening.record_refl hspells
  · intro e he
    obtain ⟨slots, hfields, h⟩ := Loosening.exists_slots hnames hspells he
    rw [hread, hfields]
    exact hslots slots h

end Scaffold
