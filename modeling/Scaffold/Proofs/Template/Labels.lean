import Mathlib.Data.List.ReduceOption
import Scaffold.Proofs.Template.Outline
import Scaffold.Proofs.Text.Splitting
import Scaffold.Proofs.Traversal

/-!
# Labels of rendered lines

A file of lines consists of documents, which lines of dashes separate, and in a
document a line with a label has an entry behind it. Whether a line has a label
can be read off an outline, unless a value takes part in it; then the entries of
the text are those of the outline with the values filled in, as long as no value
breaks a line.
-/

namespace Scaffold

open Text

/-! ## Documents and entries -/

/-- What stands behind a label in the lines that have it, blanks in front of the
label aside. -/
def entries (label : String) (lines : List String) : List String :=
  lines.filterMap fun line =>
    (stripPrefixChars label.toList (line.toList.dropWhile (· == ' '))).map String.ofList

/-- The documents of a file, each with its lines. -/
def documents (text : String) : List (List String) :=
  (splitOn '\n' text).splitOnP (startsWith "---")

namespace Template

variable {context : SortedMap Value}

/-! ## Lines of outlines -/

/-- No value of a context breaks a line. -/
def Unbroken (context : SortedMap Value) : Prop :=
  ∀ name, '\n' ∉ ((context.get? name).getD .null).print.toList

def Outline.lines (o : Outline) : List Outline := o.splitOnP (· == .char '\n')

theorem Outline.splitChars_chars (hunbroken : Unbroken context) (o : Outline) :
    splitCharsWhere (· == '\n') (o.chars context) = o.lines.map (Outline.chars context) := by
  unfold lines
  induction o with
  | nil => rfl
  | cons item o ih =>
      rw [List.splitOnP_cons_eq_if_modifyHead]
      obtain ⟨line, rest, hlines⟩ :=
        List.exists_cons_of_ne_nil (List.splitOnP_ne_nil (· == .char '\n') o)
      rw [hlines] at ih ⊢
      by_cases hitem : item = .char '\n'
      · subst hitem
        have hseam := splitCharsWhere_append (· == '\n') '\n' rfl [] (chars context o)
        change splitCharsWhere _ ('\n' :: chars context o) = _
        rw [List.nil_append] at hseam
        rw [hseam, ih]
        rfl
      · -- the characters of the item go to the first line
        have hclear : ∀ c ∈ item.chars context, (c == '\n') = false := by
          intro c hc
          cases item with
          | char c' =>
              obtain rfl := List.mem_singleton.mp hc
              simpa using hitem
          | value name =>
              have hne : c ≠ '\n' := fun e => hunbroken name (e ▸ hc)
              simpa using hne
        have hglue : ∀ (cs : List Char), (∀ c ∈ cs, (c == '\n') = false) →
            splitCharsWhere (· == '\n') (cs ++ chars context o) =
              (cs ++ chars context line) :: rest.map (chars context) := by
          intro cs hcs
          induction cs with
          | nil => exact ih
          | cons c cs ihcs =>
              obtain ⟨hc, hrest⟩ := List.forall_mem_cons.mp hcs
              rw [List.cons_append, splitCharsWhere, ihcs hrest]
              simp [hc]
        rw [if_neg (by simpa using hitem)]
        exact hglue _ hclear

theorem Outline.splitOn_text (hunbroken : Unbroken context) (o : Outline) :
    splitOn '\n' (o.text context) = o.lines.map (Outline.text context) := by
  unfold splitOn text
  rw [String.toList_ofList, o.splitChars_chars hunbroken, List.map_map]
  rfl

/-! ## Labels of outlines -/

namespace Outline

/-- What stands behind a label at the head of an outline, if no value takes part. -/
def behind? : List Char → Outline → Option (Option Outline)
  | [], o => some (some o)
  | _ :: _, [] => some none
  | _ :: _, .value _ :: _ => none
  | p :: label, .char c :: o => if p = c then behind? label o else some none

/-- The outline without blanks at its head, if no value stands there. -/
def unindented? : Outline → Option Outline
  | [] => some []
  | .value _ :: _ => none
  | .char c :: o => if c = ' ' then unindented? o else some (.char c :: o)

theorem stripPrefix_of_behind? {label : List Char} {o : Outline} {rest : Option Outline}
    (h : behind? label o = some rest) :
    stripPrefixChars label (o.chars context) = rest.map (chars context) := by
  induction label generalizing o with
  | nil =>
      obtain rfl := Option.some.inj h
      rfl
  | cons p label ih =>
      rcases o with _ | ⟨_ | _, o⟩
      · obtain rfl := Option.some.inj h
        rfl
      · rename_i c
        change stripPrefixChars (p :: label) (c :: chars context o) = _
        rw [behind?] at h
        rw [stripPrefixChars]
        split at h
        · next hp => rw [if_pos hp, ih h]
        · next hp =>
          obtain rfl := Option.some.inj h
          rw [if_neg hp]
          rfl
      · rw [behind?] at h
        exact absurd h (Option.some_ne_none _).symm

theorem startsWith_text {label : String} {o : Outline} {rest : Option Outline}
    (h : behind? label.toList o = some rest) :
    startsWith label (o.text context) = rest.isSome := by
  unfold startsWith text
  rw [String.toList_ofList, stripPrefix_of_behind? h, Option.isSome_map]

theorem dropWhile_of_unindented? {o rest : Outline} (h : o.unindented? = some rest) :
    (o.chars context).dropWhile (· == ' ') = rest.chars context := by
  induction o with
  | nil =>
      obtain rfl := Option.some.inj h
      rfl
  | cons item o ih =>
      cases item with
      | value name => exact absurd h nofun
      | char c =>
          change (c :: chars context o).dropWhile (· == ' ') = _
          rw [unindented?] at h
          split at h
          · next hc => rw [List.dropWhile_cons_of_pos (by simpa using hc), ih h]
          · next hc =>
            obtain rfl := Option.some.inj h
            rw [List.dropWhile_cons_of_neg (by simpa using hc)]
            rfl

/-! ## Entries of outlines -/

def entries? (label : String) (lines : List Outline) : Option (List Outline) :=
  (lines.mapM fun line : Outline => line.unindented?.bind (behind? label.toList)).map
    List.reduceOption

theorem entries_of_entries? {label : String} {lines found : List Outline}
    (h : entries? label lines = some found) :
    entries label (lines.map (text context)) = found.map (text context) := by
  obtain ⟨rests, hrests, rfl⟩ := Option.map_eq_some_iff.mp h
  have hline : ∀ (line : Outline) (rest : Option Outline),
      line.unindented?.bind (behind? label.toList) = some rest →
        (stripPrefixChars label.toList
          ((text context line).toList.dropWhile (· == ' '))).map String.ofList =
            rest.map (text context) := by
    intro line rest hrest
    obtain ⟨bare, hbare, hbehind⟩ := Option.bind_eq_some_iff.mp hrest
    unfold text
    rw [String.toList_ofList, dropWhile_of_unindented? hbare, stripPrefix_of_behind? hbehind,
      Option.map_map]
    rfl
  unfold entries
  rw [List.filterMap_map, ← List.reduceOption_map, ← map_of_mapM hline hrests, List.reduceOption,
    List.filterMap_map]
  rfl

/-- Whether a line of an outline separates documents. -/
def separates? (line : Outline) : Option Bool := (behind? "---".toList line).map Option.isSome

/-- The documents of an outline, if it is known of each line whether it separates them. -/
def documents? (o : Outline) : Option (List (List Outline)) :=
  if o.lines.all (fun line => line.separates?.isSome) then
    some (o.lines.splitOnP fun line => line.separates? == some true)
  else none

theorem splitOnP_map {α β : Type} {p : β → Bool} {q : α → Bool} {f : α → β} {xs : List α}
    (h : ∀ x ∈ xs, p (f x) = q x) :
    (xs.map f).splitOnP p = (xs.splitOnP q).map (List.map f) := by
  induction xs with
  | nil => rfl
  | cons x xs ih =>
      obtain ⟨hx, hxs⟩ := List.forall_mem_cons.mp h
      rw [List.map_cons, List.splitOnP_cons_eq_if_modifyHead, List.splitOnP_cons_eq_if_modifyHead,
        hx, ih hxs]
      split
      · rfl
      · cases xs.splitOnP q <;> rfl

theorem documents_of_documents? (hunbroken : Unbroken context) {o : Outline}
    {found : List (List Outline)} (h : o.documents? = some found) :
    documents (o.text context) = found.map (List.map (text context)) := by
  obtain ⟨hknown, hfound⟩ := Option.ite_none_right_eq_some.mp h
  obtain rfl := Option.some.inj hfound
  unfold documents
  rw [o.splitOn_text hunbroken]
  refine splitOnP_map fun line hline => ?_
  obtain ⟨b, hb⟩ := Option.isSome_iff_exists.mp (List.all_eq_true.mp hknown line hline)
  obtain ⟨rest, hrest, rfl⟩ := Option.map_eq_some_iff.mp hb
  rw [startsWith_text hrest, hb]
  cases rest <;> rfl

/-- The entries of some labels in every document, if they are known. -/
def readings? (labels : List String) (o : Outline) : Option (List (List (List Outline))) := do
  (← o.documents?).mapM fun lines => labels.mapM fun label => entries? label lines

theorem readings_of_readings? (hunbroken : Unbroken context) {labels : List String} {o : Outline}
    {found : List (List (List Outline))} (h : readings? labels o = some found) :
    (documents (o.text context)).map (fun lines => labels.map fun label => entries label lines) =
      found.map (List.map (List.map (text context))) := by
  obtain ⟨inside, hinside, hfound⟩ := Option.bind_eq_some_iff.mp h
  rw [documents_of_documents? hunbroken hinside, List.map_map]
  exact map_of_mapM (fun lines reading hreading =>
    map_of_mapM (fun label found hfound => entries_of_entries? hfound) hreading) hfound

end Outline

end Template

end Scaffold
