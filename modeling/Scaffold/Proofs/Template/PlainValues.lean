import Scaffold.Proofs.Template.Wording
import Scaffold.Template.Frame

/-!
# Values without backticks

A value is plain when no text and no key in it holds a backtick. The parts of a plain
value are plain, however a path leads to them, and so is what it prints. Frames are plain
when the names and values in them are, and definitions are called by plain words.
-/

namespace Scaffold

open Text

namespace SortedMap

variable {α : Type} {entries sorted : List (String × α)} {entry : String × α}

theorem mem_foldl_insertKey
    (h : entry ∈ entries.foldl (fun sorted (key, value) => insertKey key value sorted) sorted) :
    entry ∈ sorted ∨ entry ∈ entries := by
  induction entries generalizing sorted with
  | nil => exact Or.inl h
  | cons first entries ih =>
      rcases ih h with h | h
      · exact (mem_insertKey h).elim (fun h => Or.inr (h ▸ List.mem_cons_self)) Or.inl
      · exact Or.inr (List.mem_cons_of_mem _ h)

/-- The entries of a map are those that it was made of. -/
theorem mem_of_mem_ofList (h : entry ∈ (ofList entries).entries) : entry ∈ entries := by
  have hfold : ∀ m : SortedMap α,
      (entries.foldl (fun m (key, value) => m.insert key value) m).entries =
      entries.foldl (fun sorted (key, value) => insertKey key value sorted) m.entries := by
    clear h
    induction entries with
    | nil => exact fun m => rfl
    | cons first entries ih => exact fun m => ih (m.insert first.1 first.2)
  rw [ofList, hfold] at h
  exact (mem_foldl_insertKey h).resolve_left List.not_mem_nil

end SortedMap

/-! ## Values -/

namespace Value

/-- A value in which no text holds a backtick. -/
inductive Plain : Value → Prop
  | null : Plain .null
  | bool (b : Bool) : Plain (.bool b)
  | int (n : Int) : Plain (.int n)
  | float (x : Binary64) : Plain (.float x)
  | text {s : String} (h : Unticked s) : Plain (.text s)
  | list {items : List Value} (h : ∀ item ∈ items, Plain item) : Plain (.list items)
  | object {fields : List (String × Value)} (hkeys : ∀ field ∈ fields, Unticked field.1)
      (hvalues : ∀ field ∈ fields, Plain field.2) : Plain (.object fields)

section

variable {v w : Value} {s : String} {items : List Value} {fields : List (String × Value)}

@[simp] theorem plain_text : (Value.text s).Plain ↔ Unticked s :=
  ⟨fun h => by cases h; assumption, .text⟩

@[simp] theorem plain_list : (Value.list items).Plain ↔ ∀ item ∈ items, item.Plain :=
  ⟨fun h => by cases h; assumption, .list⟩

theorem plain_texts {texts : List String} (h : ∀ s ∈ texts, Unticked s) :
    (Value.texts texts).Plain := by
  refine .list fun item hitem => ?_
  obtain ⟨s, hs, rfl⟩ := List.mem_map.mp hitem
  exact .text (h s hs)

/-- The object of plain fields is plain. -/
theorem plain_ofFields (hkeys : ∀ field ∈ fields, Unticked field.1)
    (hvalues : ∀ field ∈ fields, field.2.Plain) : (ofFields fields).Plain := by
  unfold ofFields
  refine .object (fun field hfield => hkeys field ?_) (fun field hfield => hvalues field ?_) <;>
    exact (SortedMap.mem_foldl_insertKey hfield).resolve_left List.not_mem_nil

/-! ### Parts -/

theorem Plain.child (h : v.Plain) {step : String} (hw : v.child? step = some w) : w.Plain := by
  cases h with
  | list h =>
      obtain ⟨n, -, hitem⟩ := Option.bind_eq_some_iff.mp hw
      exact h w (List.mem_of_getElem? hitem)
  | object hkeys hvalues => exact hvalues _ (mem_of_lookup hw)
  | _ => exact absurd hw (by simp [child?])

theorem Plain.part (h : v.Plain) {path : String} (hw : v.at? path = some w) : w.Plain := by
  unfold at? at hw
  generalize Value.steps path = steps at hw
  induction steps generalizing v with
  | nil =>
      obtain rfl : v = w := Option.some.inj hw
      exact h
  | cons step steps ih =>
      rw [List.foldlM_cons] at hw
      obtain ⟨next, hnext, hw⟩ := Option.bind_eq_some_iff.mp hw
      exact ih (h.child hnext) hw

/-! ### Printing -/

theorem Plain.print (h : v.Plain) : Unticked v.print := by
  induction h with
  | null => decide
  | bool b => cases b <;> decide
  | int n => exact unticked_toString_int n
  | float x => exact unticked_positional x
  | text h => exact h
  | list h ih =>
      exact unticked_between (by decide) (unticked_separated rfl (fun _ => rfl)
        (fun _ _ _ => rfl) (by decide : Unticked ", ") ih) (by decide)
  | object hkeys hvalues ih => exact (by decide : Unticked "[object]")

theorem not_mem_escapeChar {c : Char} (h : c ≠ '\x60') : '\x60' ∉ Json.escapeChar c := by
  have hhex : ∀ n < 0x20, '\x60' ∉ ['\\', 'u', '0', '0'] ++ Json.hex2 n := by decide
  unfold Json.escapeChar
  repeat' split
  all_goals first
    | decide
    | exact hhex _ (by assumption)
    | exact fun hmem => h (List.mem_singleton.mp hmem).symm

theorem unticked_quote (h : Unticked s) : Unticked (Json.quote s) := by
  refine unticked_between (by decide) (unticked_ofList.mpr fun hmem => ?_) (by decide)
  obtain ⟨c, hc, hmem⟩ := List.mem_flatMap.mp hmem
  exact not_mem_escapeChar (fun heq => h (heq ▸ hc)) hmem

theorem Plain.shown (h : v.Plain) : Unticked v.shown := by
  unfold Value.shown
  induction h with
  | null => decide
  | bool b => cases b <;> decide
  | int n => exact unticked_toString_int n
  | float x => exact unticked_scientific x
  | text h => exact unticked_quote h
  | @list items h ih =>
      exact unticked_between (by decide) (unticked_separated
        (w := fun items => Json.compactItems (toJsonItems items)) rfl (fun _ => rfl)
        (fun _ _ _ => rfl) (by decide : Unticked ",") ih) (by decide)
  | @object fields hkeys hvalues ih =>
      refine unticked_between (by decide) (unticked_separated
        (w := fun fields => Json.compactFields (toJsonFields fields))
        (f := fun field => Json.quote field.1 ++ ":" ++ field.2.toJson.compact) rfl
        (fun ⟨_, _⟩ => rfl) (fun ⟨_, _⟩ ⟨_, _⟩ _ => rfl) (by decide : Unticked ",") ?_) (by decide)
      exact fun field hfield => unticked_append.mpr
        ⟨unticked_append.mpr ⟨unticked_quote (hkeys field hfield), by decide⟩, ih field hfield⟩

/-- The blanks in front of a line of a document. -/
theorem unticked_newline (depth : Nat) : Unticked (Json.newline depth) :=
  unticked_append.mpr ⟨by decide, unticked_ofList.mpr fun hmem =>
    absurd (List.eq_of_mem_replicate hmem) (by decide)⟩

theorem unticked_separator (depth : Nat) : Unticked ("," ++ Json.newline depth) :=
  unticked_append.mpr ⟨by decide, unticked_newline depth⟩

theorem unticked_prettyItems {depth : Nat}
    (h : ∀ item ∈ items, Unticked (item.toJson.prettyAt depth)) :
    Unticked (Json.prettyItems depth (toJsonItems items)) := by
  refine unticked_separated (w := fun items => Json.prettyItems depth (toJsonItems items)) rfl
    (fun _ => rfl) (fun a b items => ?_) (unticked_separator depth) h
  rw [← String.append_assoc]
  rfl

theorem unticked_prettyFields {depth : Nat} (hkeys : ∀ field ∈ fields, Unticked field.1)
    (hvalues : ∀ field ∈ fields, Unticked (field.2.toJson.prettyAt depth)) :
    Unticked (Json.prettyFields depth (toJsonFields fields)) := by
  refine unticked_separated (w := fun fields => Json.prettyFields depth (toJsonFields fields))
    (f := fun field => Json.quote field.1 ++ ": " ++ field.2.toJson.prettyAt depth) rfl
    (fun ⟨_, _⟩ => rfl) (fun ⟨_, _⟩ ⟨_, _⟩ fields => ?_) (unticked_separator depth)
    (fun field hfield => ?_)
  · rw [← String.append_assoc]
    rfl
  · exact unticked_append.mpr
      ⟨unticked_append.mpr ⟨unticked_quote (hkeys field hfield), by decide⟩, hvalues field hfield⟩

/-- A body between brackets on lines of their own. -/
theorem unticked_enclosed {depth : Nat} {before body after : String} (hbefore : Unticked before)
    (hbody : Unticked body) (hafter : Unticked after) :
    Unticked (before ++ Json.newline (depth + 1) ++ body ++ Json.newline depth ++ after) :=
  unticked_append.mpr ⟨unticked_between (unticked_append.mpr ⟨hbefore, unticked_newline _⟩) hbody
    (unticked_newline depth), hafter⟩

theorem Plain.prettyAt (h : v.Plain) (depth : Nat) : Unticked (v.toJson.prettyAt depth) := by
  induction h generalizing depth with
  | null => exact (by decide : Unticked "null")
  | bool b =>
      cases b with
      | false => exact (by decide : Unticked "false")
      | true => exact (by decide : Unticked "true")
  | int n => exact unticked_toString_int n
  | float x => exact unticked_scientific x
  | text h => exact unticked_quote h
  | @list items h ih =>
      cases items with
      | nil => exact (by decide : Unticked "[]")
      | cons item items =>
          exact unticked_enclosed (by decide)
            (unticked_prettyItems fun item hitem => ih item hitem (depth + 1)) (by decide)
  | @object fields hkeys hvalues ih =>
      cases fields with
      | nil => exact (by decide : Unticked "\x7b\x7d")
      | cons field fields =>
          exact unticked_enclosed (by decide)
            (unticked_prettyFields hkeys fun field hfield => ih field hfield (depth + 1))
            (by decide)

theorem Plain.detail (h : v.Plain) : Unticked v.detail := by
  induction h with
  | null => decide
  | bool b => cases b <;> decide
  | int n => exact unticked_between (by decide) (unticked_toString_int n) (by decide)
  | float x => exact unticked_between (by decide) (unticked_scientific x) (by decide)
  | text h => exact unticked_between (by decide) h.literal (by decide)
  | list h ih =>
      exact unticked_between (by decide) (unticked_separated rfl (fun _ => rfl)
        (fun _ _ _ => rfl) (by decide : Unticked ", ") ih) (by decide)
  | object hkeys hvalues ih =>
      refine unticked_between (by decide) (unticked_separated
        (f := fun field => literal field.1 ++ ": " ++ field.2.detail) rfl
        (fun ⟨_, _⟩ => rfl) (fun ⟨_, _⟩ ⟨_, _⟩ _ => rfl) (by decide : Unticked ", ") ?_) (by decide)
      exact fun field hfield => unticked_append.mpr
        ⟨unticked_append.mpr ⟨(hkeys field hfield).literal, by decide⟩, ih field hfield⟩

end

end Value

/-! ## Frames -/

namespace Template

/-- Names and values without backticks. -/
def PlainEntries (entries : List (String × Value)) : Prop :=
  ∀ entry ∈ entries, Unticked entry.1 ∧ entry.2.Plain

/-- A loop whose variables have names, keys and values without backticks. -/
structure Loop.Plain (l : Loop) : Prop where
  key : ∀ name ∈ l.key, Unticked name
  item : Unticked l.item
  items : ∀ entry ∈ l.items, (∀ key ∈ entry.1, Unticked key) ∧ entry.2.Plain

/-- A loop that is plain, or a definition that is called by a plain word. -/
def FrameKind.Plain : FrameKind → Prop
  | .whole | .insertion => True
  | .definition space name => Unticked space ∧ IsWord name
  | .loop l => l.Plain

structure Frame.Plain (f : Frame) : Prop where
  names : PlainEntries f.names
  kind : f.kind.Plain

def PlainFrames (frames : List Frame) : Prop := ∀ f ∈ frames, f.Plain

section

variable {f : Frame} {frames : List Frame} {v : Value} {name path : String}
  {context : SortedMap Value}

theorem plain_partOf (h : v.Plain) {tail : Option String} {w : Value}
    (hw : partOf v tail = some w) : w.Plain := by
  cases tail with
  | none => exact Option.some.inj hw ▸ h
  | some path => exact h.part hw

theorem PlainEntries.lookup {entries : List (String × Value)} (h : PlainEntries entries)
    (hv : entries.lookup name = some v) : v.Plain := (h _ (mem_of_lookup hv)).2

theorem Loop.Plain.current {l : Loop} (h : l.Plain) (hv : l.current? = some v) : v.Plain := by
  obtain ⟨entry, hentry, rfl⟩ := Option.map_eq_some_iff.mp hv
  exact (h.items entry (List.mem_of_getElem? hentry)).2

theorem Loop.Plain.currentKey {l : Loop} (h : l.Plain) (hkey : l.currentKey? = some name) :
    Unticked name := by
  obtain ⟨entry, hentry, hname⟩ := Option.bind_eq_some_iff.mp hkey
  exact (h.items entry (List.mem_of_getElem? hentry)).1 name hname

theorem Loop.Plain.find {l : Loop} (h : l.Plain) (hv : l.find? path = some v) : v.Plain := by
  unfold Loop.find? at hv
  split at hv
  · unfold Loop.builtin? at hv
    repeat' split at hv
    all_goals first
      | (obtain rfl := Option.some.inj hv; constructor)
      | exact absurd hv (by simp)
  · split at hv
    · obtain ⟨key, hkey, rfl⟩ := Option.map_eq_some_iff.mp hv
      exact .text (h.currentKey hkey)
    · dsimp only at hv
      split at hv
      · obtain ⟨w, hw, hv⟩ := Option.bind_eq_some_iff.mp hv
        exact plain_partOf (h.current hw) hv
      · exact absurd hv (by simp)

theorem Frame.Plain.of_loop (h : f.Plain) {l : Loop} (hkind : f.kind = .loop l) : l.Plain := by
  have hplain := h.kind
  rwa [hkind] at hplain

theorem Frame.Plain.find (h : f.Plain) (hv : f.find? path = some v) : v.Plain := by
  unfold Frame.find? at hv
  dsimp only at hv
  split at hv
  · next w hw =>
    obtain ⟨whole, hwhole, hpart⟩ := Option.bind_eq_some_iff.mp hw
    obtain rfl := Option.some.inj hv
    exact plain_partOf (h.names.lookup hwhole) hpart
  · next l _ hkind =>
    exact (h.of_loop hkind).find hv
  · exact absurd hv (by simp)

theorem PlainFrames.find (h : PlainFrames frames) (hv : findInFrames path frames = some v) :
    v.Plain := by
  induction frames with
  | nil => exact absurd hv (by simp [findInFrames])
  | cons f frames ih =>
      unfold findInFrames at hv
      split at hv
      · next w hw =>
        obtain rfl := Option.some.inj hv
        exact (h f List.mem_cons_self).find hw
      · split at hv
        · exact absurd hv (by simp)
        · exact ih (fun g hg => h g (List.mem_cons_of_mem _ hg)) hv

theorem plain_find (hcontext : PlainEntries context.entries) (hframes : PlainFrames frames)
    (hv : find? context frames path = some v) : v.Plain := by
  unfold find? at hv
  split at hv
  · next w hw =>
    obtain rfl := Option.some.inj hv
    exact hframes.find hw
  · unfold findInContext at hv
    dsimp only at hv
    split at hv
    · exact hcontext.lookup hv
    · obtain ⟨whole, hwhole, hpart⟩ := Option.bind_eq_some_iff.mp hv
      exact plain_partOf (hcontext.lookup hwhole) hpart

/-! ### Changes of frames -/

theorem PlainFrames.cons (hf : f.Plain) (h : PlainFrames frames) : PlainFrames (f :: frames) :=
  List.forall_mem_cons.mpr ⟨hf, h⟩

theorem PlainFrames.assign (h : PlainFrames frames) (whole : Bool) (hname : Unticked name)
    (hv : v.Plain) : PlainFrames (assign whole name v frames) := by
  induction frames with
  | nil => exact h
  | cons f frames ih =>
      obtain ⟨hf, hframes⟩ := List.forall_mem_cons.mp h
      unfold Template.assign
      split
      · exact .cons hf (ih hframes)
      · refine .cons ⟨List.forall_mem_cons.mpr ⟨⟨hname, hv⟩, hf.names⟩, ?_⟩ hframes
        exact hf.kind

theorem PlainFrames.redirect (h : PlainFrames frames) {flow : Flow} {after : List Frame}
    (hafter : redirect? flow frames = some after) : PlainFrames after := by
  unfold redirect? at hafter
  split at hafter
  · next l names frames =>
    obtain rfl := Option.some.inj hafter
    obtain ⟨hf, hframes⟩ := List.forall_mem_cons.mp h
    have hl := hf.of_loop rfl
    exact .cons ⟨hf.names, ⟨hl.key, hl.item, hl.items⟩⟩ hframes
  · exact absurd hafter (by simp)

theorem PlainFrames.advance (h : PlainFrames frames) {after : List Frame}
    (hafter : advance? frames = some after) : PlainFrames after := by
  unfold advance? at hafter
  split at hafter
  · next l names frames =>
    obtain rfl := Option.some.inj hafter
    obtain ⟨hf, hframes⟩ := List.forall_mem_cons.mp h
    have hl := hf.of_loop rfl
    exact .cons ⟨List.forall_mem_nil _, ⟨hl.key, hl.item, hl.items⟩⟩ hframes
  · exact absurd hafter (by simp)

/-! ### All names at once -/

theorem Frame.Plain.visible (h : f.Plain) : PlainEntries f.visible := by
  unfold Frame.visible
  refine List.forall_mem_append.mpr
    ⟨fun entry hentry => h.names entry (List.mem_reverse.mp hentry), ?_⟩
  split
  · next l hkind =>
    have hl : l.Plain := h.of_loop hkind
    refine List.forall_mem_append.mpr ⟨fun entry hentry => ?_, fun entry hentry => ?_⟩
    · obtain ⟨v, hv, rfl⟩ := Option.map_eq_some_iff.mp (Option.mem_toList.mp hentry)
      exact ⟨hl.item, hl.current hv⟩
    · obtain ⟨name, hname, hentry⟩ := Option.bind_eq_some_iff.mp (Option.mem_toList.mp hentry)
      obtain ⟨key, hkey, rfl⟩ := Option.map_eq_some_iff.mp hentry
      exact ⟨hl.key name hname, .text (hl.currentKey hkey)⟩
  · exact fun _ hmem => absurd hmem List.not_mem_nil

theorem PlainFrames.visible (h : PlainFrames frames) : PlainEntries (visibleNames frames) := by
  induction frames with
  | nil => exact fun _ hmem => absurd hmem List.not_mem_nil
  | cons f frames ih =>
      obtain ⟨hf, hframes⟩ := List.forall_mem_cons.mp h
      unfold visibleNames
      split
      · exact hf.visible
      · exact List.forall_mem_append.mpr ⟨hf.visible, ih hframes⟩

theorem unticked_dump (hcontext : PlainEntries context.entries) (hframes : PlainFrames frames) :
    Unticked (dump context frames) := by
  have hentries : PlainEntries
      ((if insideDefinition frames then [] else context.entries) ++ visibleNames frames) := by
    refine List.forall_mem_append.mpr ⟨?_, hframes.visible⟩
    split
    · exact fun _ hmem => absurd hmem List.not_mem_nil
    · exact hcontext
  exact (Value.plain_ofFields (fun entry hentry => (hentries entry hentry).1)
    (fun entry hentry => (hentries entry hentry).2)).prettyAt 0

end

end Template

end Scaffold
