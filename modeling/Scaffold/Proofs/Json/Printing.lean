import Scaffold.Proofs.Json.Spelling

/-!
# Printed documents

The compact form of a document spells it, and so does the pretty form, as long as
its numbers are numbers and its strings and keys can be read. So printing loses
nothing that a reader would find.
-/

namespace Scaffold.Json

open Text

/-! ## Documents that can be written -/

mutual

/-- Numbers are as the standard writes them, and strings and keys can be read. -/
def Writable : Json → Prop
  | .null | .bool _ => True
  | .number written => Numeral written.toList
  | .string s => s.isSome = true
  | .array items => AllWritable items
  | .object fields => FieldsWritable fields

def AllWritable : List Json → Prop
  | [] => True
  | item :: items => item.Writable ∧ AllWritable items

def FieldsWritable : List (Option String × Json) → Prop
  | [] => True
  | (key, value) :: fields => key.isSome = true ∧ value.Writable ∧ FieldsWritable fields

end

theorem writable_array {items : List Json} (h : ∀ item ∈ items, item.Writable) :
    (Json.array items).Writable := by
  unfold Writable
  induction items with
  | nil =>
      unfold AllWritable
      trivial
  | cons item items ih =>
      obtain ⟨hitem, hitems⟩ := List.forall_mem_cons.mp h
      unfold AllWritable
      exact ⟨hitem, ih hitems⟩

theorem writable_record {fields : List (String × Json)} (h : ∀ f ∈ fields, f.2.Writable) :
    (Json.record fields).Writable := by
  unfold record Writable
  induction fields with
  | nil =>
      rw [List.map_nil]
      unfold FieldsWritable
      trivial
  | cons f fields ih =>
      obtain ⟨hf, hfields⟩ := List.forall_mem_cons.mp h
      rw [List.map_cons]
      unfold FieldsWritable
      exact ⟨rfl, hf, ih hfields⟩

@[simp]
theorem writable_text (s : String) : (Json.text s).Writable := by
  unfold text Writable
  rfl

theorem numeral_toString (n : Nat) : Numeral (toString n).toList := by
  have hdigits : (toString n).toList = Nat.toDigits 10 n := String.toList_ofList
  have hwhole : WholePart (Nat.toDigits 10 n) := by
    rcases Nat.eq_zero_or_pos n with rfl | hpos
    · exact .zero
    · -- only zero itself starts with a zero
      have hhead := head_toDigits_ne_zero hpos
      have hall : ∀ c ∈ Nat.toDigits 10 n, isAsciiDigit c = true :=
        fun _ => isAsciiDigit_of_mem_toDigits
      obtain ⟨c, cs, hcs⟩ := List.exists_cons_of_ne_nil (Nat.toDigits_ne_nil (n := n) (b := 10))
      rw [hcs] at hhead hall ⊢
      exact .digits ⟨List.cons_ne_nil _ _, hall⟩ fun heq => hhead (congrArg some heq)
  have hparts := Numeral.mk (Or.inl rfl) hwhole .none .none
  rw [List.nil_append, List.append_nil, List.append_nil] at hparts
  rw [hdigits]
  exact hparts

@[simp]
theorem writable_natural (n : Nat) : (Json.natural n).Writable := by
  unfold natural Writable
  exact numeral_toString n

/-! ## Items and fields with few blanks -/

section

variable {item value : Json} {items : List Json} {fields : List (Option String × Json)}
  {before between cs after rest : List Char}

theorem SpellsItems.single (h : Spells item cs) : SpellsItems [item] cs := by
  have hitems := SpellsItems.last blank_nil h blank_nil
  rw [List.nil_append, List.append_nil] at hitems
  exact hitems

theorem SpellsItems.cons (h : Spells item cs) (hrest : SpellsItems items rest) :
    SpellsItems (item :: items) (cs ++ ',' :: rest) :=
  .more blank_nil h blank_nil hrest

theorem SpellsFields.single (key : String) (hbetween : Blank between) (h : Spells value cs) :
    SpellsFields [(some key, value)] (quotedChars key ++ ':' :: (between ++ cs)) := by
  have hfields : SpellsFields [(some key, value)]
      (quotedChars key ++ ':' :: (between ++ (cs ++ []))) :=
    .last blank_nil blank_nil hbetween h blank_nil
  rw [List.append_nil] at hfields
  exact hfields

theorem SpellsFields.cons (key : String) (hbetween : Blank between) (h : Spells value cs)
    (hrest : SpellsFields fields rest) : SpellsFields ((some key, value) :: fields)
      (quotedChars key ++ ':' :: (between ++ (cs ++ ',' :: rest))) :=
  .more blank_nil blank_nil hbetween h blank_nil hrest

theorem blank_append (hbefore : Blank before) (hafter : Blank after) : Blank (before ++ after) :=
  List.forall_mem_append.mpr ⟨hbefore, hafter⟩

theorem SpellsItems.pad_before (hbefore : Blank before) (h : SpellsItems items cs) :
    SpellsItems items (before ++ cs) := by
  cases h with
  | last hinner h hafter =>
      rw [← List.append_assoc]
      exact .last (blank_append hbefore hinner) h hafter
  | more hinner h hafter hrest =>
      rw [← List.append_assoc]
      exact .more (blank_append hbefore hinner) h hafter hrest

theorem SpellsFields.pad_before (hbefore : Blank before) (h : SpellsFields fields cs) :
    SpellsFields fields (before ++ cs) := by
  cases h with
  | last hinner hmiddle hbetween h hafter =>
      rw [← List.append_assoc]
      exact .last (blank_append hbefore hinner) hmiddle hbetween h hafter
  | more hinner hmiddle hbetween h hafter hrest =>
      rw [← List.append_assoc]
      exact .more (blank_append hbefore hinner) hmiddle hbetween h hafter hrest

end

/-! ## The compact form -/

theorem spells_bool (b : Bool) : Spells (.bool b) (if b then "true" else "false").toList := by
  cases b with
  | true => exact .boolTrue
  | false => exact .boolFalse

mutual

theorem spells_compact : ∀ j : Json, j.Writable → Spells j j.compact.toList
  | .null, _ => .null
  | .bool b, _ => by
      rw [compact]
      exact spells_bool b
  | .number written, h => by
      rw [Writable] at h
      rw [compact]
      exact .number h
  | .string none, h => by
      rw [Writable] at h
      exact absurd h (by decide)
  | .string (some s), _ => by
      rw [compact, Option.getD_some, toList_quote]
      exact .string s
  | .array [], _ => .emptyArray blank_nil
  | .array (item :: items), h => by
      rw [Writable] at h
      rw [compact, String.toList_append, String.toList_append]
      exact .array (spellsItems_compact (item :: items) (List.cons_ne_nil _ _) h)
  | .object [], _ => .emptyObject blank_nil
  | .object (f :: fields), h => by
      rw [Writable] at h
      rw [compact, String.toList_append, String.toList_append]
      exact .object (spellsFields_compact (f :: fields) (List.cons_ne_nil _ _) h)

theorem spellsItems_compact : ∀ items : List Json, items ≠ [] → AllWritable items →
    SpellsItems items (compactItems items).toList
  | [], hne, _ => absurd rfl hne
  | [item], _, h => by
      rw [AllWritable] at h
      exact .single (spells_compact item h.1)
  | item :: next :: items, _, h => by
      rw [AllWritable] at h
      have hrest := spellsItems_compact (next :: items) (List.cons_ne_nil _ _) h.2
      rw [compactItems, String.toList_append, String.toList_append, List.append_assoc]
      · exact .cons (spells_compact item h.1) hrest
      · exact nofun

theorem spellsFields_compact : ∀ fields : List (Option String × Json), fields ≠ [] →
    FieldsWritable fields → SpellsFields fields (compactFields fields).toList
  | [], hne, _ => absurd rfl hne
  | (none, _) :: _, _, h => by
      rw [FieldsWritable] at h
      exact absurd h.1 (by decide)
  | [(some key, value)], _, h => by
      rw [FieldsWritable] at h
      rw [compactFields, String.toList_append, String.toList_append, Option.getD_some, toList_quote,
        List.append_assoc]
      exact .single key blank_nil (spells_compact value h.2.1)
  | (some key, value) :: next :: fields, _, h => by
      rw [FieldsWritable] at h
      have hrest := spellsFields_compact (next :: fields) (List.cons_ne_nil _ _) h.2.2
      rw [compactFields]
      · simp only [String.toList_append, Option.getD_some, toList_quote, List.append_assoc]
        exact .cons key blank_nil (spells_compact value h.2.1) hrest
      · exact nofun

end

/-- What is printed without blanks spells the document. -/
theorem spelledBy_compact {j : Json} (h : j.Writable) : j.SpelledBy j.compact := by
  refine ⟨[], _, [], blank_nil, spells_compact j h, blank_nil, ?_⟩
  rw [List.nil_append, List.append_nil, String.ofList_toList]

/-! ## The pretty form -/

theorem blank_newline (depth : Nat) : Blank (newline depth).toList := by
  unfold newline
  rw [String.toList_append]
  apply blank_append
  · exact List.forall_mem_singleton.mpr (by decide)
  · intro c hc
    rw [String.toList_ofList] at hc
    obtain rfl := List.eq_of_mem_replicate hc
    decide

theorem blank_space : Blank [' '] := List.forall_mem_singleton.mpr (by decide)

mutual

theorem spells_prettyAt : ∀ (j : Json) (depth : Nat), j.Writable →
    Spells j (j.prettyAt depth).toList
  | .null, _, _ => by
      rw [prettyAt]
      exact .null
  | .bool b, _, _ => by
      rw [prettyAt]
      exact spells_bool b
  | .number written, _, h => by
      rw [Writable] at h
      rw [prettyAt]
      exact .number h
  | .string none, _, h => by
      rw [Writable] at h
      exact absurd h (by decide)
  | .string (some s), _, _ => by
      rw [prettyAt, Option.getD_some, toList_quote]
      exact .string s
  | .array [], _, _ => by
      rw [prettyAt]
      exact .emptyArray blank_nil
  | .array (item :: items), depth, h => by
      rw [Writable] at h
      have hitems := spellsItems_pretty (item :: items) (depth + 1) (blank_newline depth)
        (List.cons_ne_nil _ _) h
      have harray := Spells.array (hitems.pad_before (blank_newline (depth + 1)))
      rw [List.append_assoc, List.append_assoc] at harray
      rw [prettyAt]
      simp only [String.toList_append, List.append_assoc]
      exact harray
  | .object [], _, _ => by
      rw [prettyAt]
      exact .emptyObject blank_nil
  | .object (f :: fields), depth, h => by
      rw [Writable] at h
      have hfields := spellsFields_pretty (f :: fields) (depth + 1) (blank_newline depth)
        (List.cons_ne_nil _ _) h
      have hobject := Spells.object (hfields.pad_before (blank_newline (depth + 1)))
      rw [List.append_assoc, List.append_assoc] at hobject
      rw [prettyAt]
      simp only [String.toList_append, List.append_assoc]
      exact hobject

/-- The blanks behind the last item are those before the closing bracket. -/
theorem spellsItems_pretty {after : List Char} : ∀ (items : List Json) (depth : Nat), Blank after →
    items ≠ [] → AllWritable items →
      SpellsItems items ((prettyItems depth items).toList ++ after)
  | [], _, _, hne, _ => absurd rfl hne
  | [item], depth, hafter, _, h => by
      rw [AllWritable] at h
      exact .last blank_nil (spells_prettyAt item depth h.1) hafter
  | item :: next :: items, depth, hafter, _, h => by
      rw [AllWritable] at h
      have hrest := spellsItems_pretty (next :: items) depth hafter (List.cons_ne_nil _ _) h.2
      have hpadded := hrest.pad_before (blank_newline depth)
      rw [prettyItems]
      · simp only [String.toList_append, List.append_assoc]
        exact .cons (spells_prettyAt item depth h.1) hpadded
      · exact nofun

theorem spellsFields_pretty {after : List Char} : ∀ (fields : List (Option String × Json))
    (depth : Nat), Blank after → fields ≠ [] → FieldsWritable fields →
      SpellsFields fields ((prettyFields depth fields).toList ++ after)
  | [], _, _, hne, _ => absurd rfl hne
  | (none, _) :: _, _, _, _, h => by
      rw [FieldsWritable] at h
      exact absurd h.1 (by decide)
  | [(some key, value)], depth, hafter, _, h => by
      rw [FieldsWritable] at h
      rw [prettyFields]
      simp only [String.toList_append, Option.getD_some, toList_quote, List.append_assoc]
      exact .last blank_nil blank_nil blank_space (spells_prettyAt value depth h.2.1) hafter
  | (some key, value) :: next :: fields, depth, hafter, _, h => by
      rw [FieldsWritable] at h
      have hrest := spellsFields_pretty (next :: fields) depth hafter (List.cons_ne_nil _ _) h.2.2
      have hpadded := hrest.pad_before (blank_newline depth)
      rw [prettyFields]
      · simp only [String.toList_append, Option.getD_some, toList_quote, List.append_assoc]
        exact .cons key blank_space (spells_prettyAt value depth h.2.1) hpadded
      · exact nofun

end

/-- What is printed over several lines spells the document too. -/
theorem spelledBy_pretty {j : Json} (h : j.Writable) : j.SpelledBy j.pretty := by
  refine ⟨[], _, [], blank_nil, spells_prettyAt j 0 h, blank_nil, ?_⟩
  rw [List.nil_append, List.append_nil, String.ofList_toList]
  rfl

end Scaffold.Json
