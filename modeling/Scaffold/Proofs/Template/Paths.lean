import Scaffold.Context
import Scaffold.Proofs.Template.Agreement
import Scaffold.Proofs.Text.Replacing
import Scaffold.Template.Conditions

/-!
# Looking up paths in a larger context

A path asks the context for one name, its root, once the paths between its
brackets have values. A context with one more name therefore gives the same
value to every path that does not mention the name, at its root or between
brackets, and to every path that had a value before.
-/

namespace Scaffold

open Text

/-! ## Larger contexts -/

/-- A context that may give a value to one more name. -/
structure Extends (x : String) (context context' : SortedMap Value) : Prop where
  missing : context.get? x = none
  others : ∀ key, key ≠ x → context'.get? key = context.get? key

/-! ## Maps of entries -/

/-- Entries with distinct keys are all found once they are put, one after the other. -/
theorem lookup_foldl {α M : Type} {get? : M → String → Option α} {put : M → String → α → M}
    (hput : ∀ m key k v, get? (put m key v) k = if k = key then some v else get? m k)
    {entries : List (String × α)} (h : (entries.map (·.1)).Nodup) (m : M) (k : String) :
    get? (entries.foldl (fun m (key, value) => put m key value) m) k =
      (entries.lookup k).or (get? m k) := by
  induction entries generalizing m with
  | nil => rfl
  | cons head rest ih =>
      obtain ⟨key, value⟩ := head
      obtain ⟨hnew, hrest⟩ := List.nodup_cons.mp h
      rw [List.foldl_cons, ih hrest, hput, List.lookup_cons]
      by_cases hk : k = key
      · have hlater : rest.lookup key = none := by
          rw [List.lookup_eq_none_iff]
          intro entry hentry
          have hne : key ≠ entry.1 := fun e =>
            hnew (List.mem_map.mpr ⟨entry, hentry, e.symm⟩)
          simpa using hne
        simp [hk, hlater]
      · have hne : (k == key) = false := by simpa using hk
        rw [if_neg hk, hne]

namespace SortedMap

variable {α : Type}

theorem lookup_insertKey (key k : String) (value : α) (entries : List (String × α)) :
    (insertKey key value entries).lookup k =
      if k = key then some value else entries.lookup k := by
  induction entries with
  | nil =>
      by_cases hk : k = key
      · simp [insertKey, hk]
      · have hne : (k == key) = false := by simpa using hk
        simp [insertKey, List.lookup_cons, hk, hne]
  | cons head rest ih =>
      obtain ⟨first, old⟩ := head
      rw [insertKey]
      by_cases hk : k = key
      · subst hk
        rw [if_pos rfl] at ih ⊢
        split
        · simp
        · split
          · simp
          · next hne =>
              have hfirst : (k == first) = false := by simpa using hne
              rw [List.lookup_cons, hfirst, ih]
      · have hself : (k == key) = false := by simpa using hk
        rw [if_neg hk] at ih ⊢
        split
        · rw [List.lookup_cons, hself]
        · split
          · next heq => rw [List.lookup_cons, List.lookup_cons, ← heq, hself]
          · rw [List.lookup_cons, List.lookup_cons, ih]

theorem get?_insert (m : SortedMap α) (key k : String) (value : α) :
    (m.insert key value).get? k = if k = key then some value else m.get? k :=
  lookup_insertKey key k value m.entries

theorem get?_foldl_insert {entries : List (String × α)} (h : (entries.map (·.1)).Nodup)
    (m : SortedMap α) (k : String) :
    (entries.foldl (fun m (key, value) => m.insert key value) m).get? k =
      (entries.lookup k).or (m.get? k) := lookup_foldl get?_insert h m k

end SortedMap

theorem Context.get?_values (c : Context) (key : String) : c.values.get? key = c.get? key := by
  show (c.entries.foldl _ SortedMap.empty).get? key = c.entries.lookup key
  rw [SortedMap.get?_foldl_insert c.distinct]
  exact Option.or_none

/-- Inserting a name that was missing extends the values. -/
theorem extends_insert {c : Context} {x : String} (h : c.contains x = false) (v : Value) :
    Extends x c.values (c.insert x v).values := by
  refine ⟨?_, fun key hkey => ?_⟩
  · rw [Context.get?_values]
    simpa [Context.contains] using h
  · rw [Context.get?_values, Context.get?_values, Context.get?_insert, if_neg hkey]

namespace Template

/-! ## Names that a path mentions -/

/-- Whether a text is a name as the grammar reads it. -/
def isName (s : String) : Bool := s != "" && s.toList.all Grammar.isNameChar

/-- A path mentions the name at its root and those that the paths between its
brackets mention. A root that is no name can turn into any name on the way. -/
inductive Mentions (x : String) : String → Prop where
  | root {path : String} (h : rootName path = x) : Mentions x path
  | odd {path : String} (h : isName (rootName path) = false) : Mentions x path
  | inner {path inside : String} (hmem : inside ∈ innerPaths path.toList)
      (h : Mentions x inside) : Mentions x path

theorem not_mem_of_isName {name : String} (h : isName name = true) {c : Char}
    (hc : Grammar.isNameChar c = false) : c ∉ name.toList := by
  intro hmem
  have hall : name.toList.all Grammar.isNameChar = true := by
    unfold isName at h
    exact (Bool.and_eq_true_iff.mp h).2
  rw [List.all_eq_true.mp hall c hmem] at hc
  exact absurd hc (by simp)

/-- The characters that end the root of a path. -/
def isSeam (c : Char) : Prop := c = '.' ∨ c = '['

theorem rootName_or_stemmed (path : String) :
    rootName path = path ∨ Stemmed (rootName path) isSeam path := by
  have hsplit := List.takeWhile_append_dropWhile
    (p := fun c => c != '.' && c != '[') (l := path.toList)
  cases hrest : path.toList.dropWhile (fun c => c != '.' && c != '[') with
  | nil =>
      rw [hrest, List.append_nil] at hsplit
      exact Or.inl (by rw [rootName, hsplit, String.ofList_toList])
  | cons c rest =>
      refine Or.inr ⟨c, rest, ?_, ?_⟩
      · rw [rootName, String.toList_ofList, ← hrest, hsplit]
      · have hc := List.head_dropWhile_not (fun c => c != '.' && c != '[') (l := path.toList)
          (by simp [hrest])
        simp only [hrest, List.head_cons] at hc
        unfold isSeam
        by_cases hpoint : c = '.'
        · exact Or.inl hpoint
        · exact Or.inr (by simpa [hpoint] using hc)

theorem not_mem_rootName {path : String} : '[' ∉ (rootName path).toList := by
  intro hmem
  rw [rootName, String.toList_ofList] at hmem
  have hc := List.all_eq_true.mp List.all_takeWhile '[' hmem
  exact absurd hc (by decide)

/-! ## Paths without brackets -/

section

variable {x : String} {context context' : SortedMap Value}

/-- A path that is a name or goes on with a point behind it. -/
def StartsAt (name path : String) : Prop := path = name ∨ Stemmed name (· = '.') path

theorem startsAt_rootName {path : String} (h : '[' ∉ path.toList) :
    StartsAt (rootName path) path := by
  rcases rootName_or_stemmed path with heq | ⟨c, rest, hpath, hc⟩
  · exact Or.inl heq.symm
  · rcases hc with rfl | rfl
    · exact Or.inr ⟨'.', rest, hpath, rfl⟩
    · exact absurd (by simp [hpath]) h

theorem splitPath_of_startsAt {name path : String} (hname : isName name = true)
    (h : StartsAt name path) : ∃ tail, splitPath path = (name, tail) := by
  have hpoint : '.' ∉ name.toList := not_mem_of_isName hname (by decide)
  rcases h with rfl | ⟨c, rest, hpath, rfl⟩
  · refine ⟨none, ?_⟩
    have hcut : cut "." path = none := by
      unfold cut
      rw [show ".".toList = ['.'] from rfl, cutAt_of_not_mem [] hpoint]
      rfl
    unfold splitPath
    rw [hcut]
  · refine ⟨some (String.ofList rest), ?_⟩
    have hcut : cut "." path = some (name, String.ofList rest) := by
      unfold cut
      rw [show ".".toList = ['.'] from rfl, hpath, cutAt_append hpoint, cutAt, stripPrefixChars,
        if_pos rfl, stripPrefixChars]
      simp
    unfold splitPath
    rw [hcut]

/-- A path that starts at a name asks the context for nothing else. -/
theorem findInContext_eq (h : Extends x context context') {name path : String}
    (hname : isName name = true) (hx : name ≠ x) (hpath : StartsAt name path) :
    findInContext path context' = findInContext path context := by
  obtain ⟨tail, hsplit⟩ := splitPath_of_startsAt hname hpath
  have htilde : '~' ∉ name.toList := not_mem_of_isName hname (by decide)
  unfold findInContext
  rw [hsplit]
  cases tail with
  | none => exact h.others name hx
  | some tail =>
      have hslash : replace "~1" "/" name = name := replace_of_not_mem rfl htilde
      have htildes : replace "~0" "~" name = name := replace_of_not_mem rfl htilde
      dsimp only
      rw [hslash, htildes, h.others name hx]

/-- What a context has a value for keeps it. -/
theorem findInContext_of_some (h : Extends x context context') {path : String} {v : Value}
    (hv : findInContext path context = some v) : findInContext path context' = some v := by
  have hkeep : ∀ {key : String} {w : Value}, context.get? key = some w →
      context'.get? key = some w := by
    intro key w hw
    have hkey : key ≠ x := by
      rintro rfl
      rw [h.missing] at hw
      exact absurd hw (by simp)
    rw [h.others key hkey, hw]
  rcases hsplit : splitPath path with ⟨head, tail⟩
  unfold findInContext at hv ⊢
  rw [hsplit] at hv ⊢
  cases tail with
  | none => exact hkeep hv
  | some tail =>
      obtain ⟨w, hw, hpart⟩ := Option.bind_eq_some_iff.mp hv
      dsimp only
      rw [hkeep hw]
      exact hpart

theorem find?_eq (h : Extends x context context') (frames : List Frame) {name path : String}
    (hname : isName name = true) (hx : name ≠ x) (hpath : StartsAt name path) :
    find? context' frames path = find? context frames path := by
  unfold find?
  rw [findInContext_eq h hname hx hpath]

theorem find?_of_some (h : Extends x context context') {frames : List Frame} {path : String}
    {v : Value} (hv : find? context frames path = some v) :
    find? context' frames path = some v := by
  unfold find? at hv ⊢
  cases hframes : findInFrames path frames with
  | some w =>
      rw [hframes] at hv
      exact hv
  | none =>
      rw [hframes] at hv
      exact findInContext_of_some h hv

end

/-! ## Paths with brackets -/

/-- Steps in the place of brackets leave the root alone. -/
theorem stemmed_resolveFirst {name path : String} (hname : '[' ∉ name.toList)
    (h : Stemmed name isSeam path) (inside step : String) :
    Stemmed name isSeam (resolveFirst inside step path) := by
  obtain ⟨c, rest, hpath, hc⟩ := h
  have hpat : ("[" ++ inside ++ "]").toList = '[' :: (inside.toList ++ [']']) := by simp
  unfold resolveFirst cut
  rw [hpat, hpath, cutAt_append hname]
  cases hcut : cutAt ('[' :: (inside.toList ++ [']'])) (c :: rest) with
  | none => exact ⟨c, rest ++ '.' :: step.toList, by simp [hpath], hc⟩
  | some parts =>
      obtain ⟨before, after⟩ := parts
      cases before with
      | nil => exact ⟨'.', step.toList ++ after, by simp, Or.inl rfl⟩
      | cons d before =>
          have hsplit := eq_of_cutAt hcut
          obtain ⟨rfl, -⟩ := List.cons.inj hsplit
          exact ⟨c, before ++ '.' :: (step.toList ++ after), by simp, hc⟩

/-- Brackets that are written as steps come behind the root. -/
theorem stemmed_dotted {name path : String} (hname : isName name = true)
    (h : Stemmed name isSeam path) : Stemmed name (· = '.') (dotted path) := by
  have hlacks : ∀ {c : Char}, Grammar.isNameChar c = false → c ∉ name.toList :=
    fun hc => not_mem_of_isName hname hc
  have hslash : ∀ {s : String}, Stemmed name isSeam s → Stemmed name isSeam (replace "/" "~1" s) :=
    fun hs => hs.replace rfl (hlacks (by decide)) (fun _ hc => Or.inl hc)
      (fun hc => absurd hc (by unfold isSeam; decide))
  have hquoted : ∀ {s q : String}, q = "['" ∨ q = "[\"" → Stemmed name isSeam s →
      Stemmed name isSeam (replace q ".\"" s) := by
    rintro s q (rfl | rfl) hs <;>
      exact hs.replace rfl (hlacks (by decide)) (fun _ hc => Or.inl hc)
        (fun _ => ⟨'.', ['"'], rfl, Or.inl rfl⟩)
  have hopen : ∀ {s : String}, Stemmed name isSeam s → Stemmed name (· = '.') (replace "[" "." s) :=
    fun hs => hs.replace rfl (hlacks (by decide)) (fun _ hc => hc.imp_right fun hc => ⟨hc, rfl⟩)
      (fun _ => ⟨'.', [], rfl, rfl⟩)
  have hclose : ∀ {s q r : String}, q = "']" ∨ q = "\"]" ∨ q = "]" → Stemmed name (· = '.') s →
      Stemmed name (· = '.') (replace q r s) := by
    rintro s q r (rfl | rfl | rfl) hs <;>
      exact hs.replace rfl (hlacks (by decide)) (fun _ hc => Or.inl hc)
        (fun hc => absurd hc (by decide))
  have hopened := hopen (hquoted (Or.inr rfl) (hquoted (Or.inl rfl) (hslash h)))
  exact hclose (Or.inr (Or.inr rfl))
    (hclose (Or.inr (Or.inl rfl)) (hclose (Or.inl rfl) hopened))

section

variable {x template : String} {context context' : SortedMap Value} {frames : List Frame}

/-- A value that was found, or a failure. -/
def orFail (fault : Fault) : Option Value → Except Fault Value
  | some v => .ok v
  | none => .error fault

/-- Puts the step that a path between brackets makes in its place. -/
def stepInto (template : String) (context : SortedMap Value) (frames : List Frame) (depth : Nat)
    (path resolved inside : String) : Except Fault String :=
  match valueAt template context frames depth inside with
  | .error cause => .error (.badBrackets path cause)
  | .ok v => (indexStep inside path v).map fun step => resolveFirst inside step resolved

theorem valueAt_of_bracket {path : String} (h : '[' ∈ path.toList) (depth : Nat) :
    valueAt template context frames (depth + 1) path =
      match (innerPaths path.toList).foldlM (stepInto template context frames depth path) path with
      | .error fault => .error fault
      | .ok resolved =>
        orFail (.undefined path template (some (dotted resolved)))
          (find? context frames (dotted resolved)) := by
  rw [valueAt, if_neg (by simpa using h)]
  rfl

theorem valueAt_of_no_bracket {path : String} (h : '[' ∉ path.toList) (depth : Nat) :
    valueAt template context frames (depth + 1) path =
      orFail (.undefined path template none) (find? context frames path) := by
  rw [valueAt, if_pos (by simpa using h)]
  rfl

theorem stemmed_of_steps {name path resolved : String} {depth : Nat} (hname : '[' ∉ name.toList)
    (insides : List String) (start : String) (h : Stemmed name isSeam start)
    (hsteps : insides.foldlM (stepInto template context frames depth path) start = .ok resolved) :
    Stemmed name isSeam resolved := by
  induction insides generalizing start with
  | nil =>
      obtain rfl : start = resolved := Except.ok.inj hsteps
      exact h
  | cons inside insides ih =>
      rw [List.foldlM_cons] at hsteps
      cases hstep : stepInto template context frames depth path start inside with
      | error fault =>
          rw [hstep] at hsteps
          exact absurd hsteps (by simp [bind, Except.bind])
      | ok next =>
          rw [hstep] at hsteps
          refine ih next ?_ hsteps
          unfold stepInto at hstep
          split at hstep
          · exact absurd hstep (by simp)
          · next v _ =>
              cases hindex : indexStep inside path v with
              | error fault =>
                  rw [hindex] at hstep
                  exact absurd hstep (by simp [Except.map])
              | ok step =>
                  rw [hindex] at hstep
                  obtain rfl : resolveFirst inside step start = next := by
                    simpa [Except.map] using hstep
                  exact stemmed_resolveFirst hname h inside step

theorem sameResult_orFail {strict : Bool} {found found' : Option Value} (fault : Fault)
    (hsome : ∀ v, found = some v → found' = some v) (hstrict : strict = true → found' = found) :
    SameResult strict (orFail fault found) (orFail fault found') := by
  cases found with
  | some v => exact Or.inl (by rw [hsome v rfl])
  | none =>
      cases strict with
      | true => exact Or.inl (by rw [hstrict rfl])
      | false => exact Or.inr ⟨rfl, fault, rfl⟩

theorem sameResult_steps {strict : Bool} {depth : Nat} {insides : List String}
    (hvalues : ∀ inside ∈ insides, SameResult strict
      (valueAt template context frames depth inside)
      (valueAt template context' frames depth inside)) (path start : String) :
    SameResult strict (insides.foldlM (stepInto template context frames depth path) start)
      (insides.foldlM (stepInto template context' frames depth path) start) := by
  refine SameResult.foldlM (fun inside hinside resolved => ?_) start
  unfold stepInto
  rcases hvalues inside hinside with heq | ⟨hstrict, fault, hfail⟩
  · exact Or.inl (by rw [heq])
  · exact Or.inr ⟨hstrict, .badBrackets path fault, by rw [hfail]⟩

/-- A path that does not mention the new name has the same value, and any path
keeps the value that it had. The induction is on the depth of brackets. -/
theorem sameResult_valueAt {strict : Bool} (h : Extends x context context') (depth : Nat)
    (path : String) (hpath : strict = true → ¬ Mentions x path) :
    SameResult strict (valueAt template context frames depth path)
      (valueAt template context' frames depth path) := by
  induction depth generalizing path with
  | zero => exact SameResult.refl _
  | succ depth ih =>
      have hname : strict = true → isName (rootName path) = true := fun hstrict =>
        Bool.not_eq_false _ ▸ fun hodd => hpath hstrict (Mentions.odd hodd)
      have hroot : strict = true → rootName path ≠ x := fun hstrict hx =>
        hpath hstrict (Mentions.root hx)
      by_cases hbracket : '[' ∈ path.toList
      · rw [valueAt_of_bracket hbracket, valueAt_of_bracket hbracket]
        have hvalues : ∀ inside ∈ innerPaths path.toList, SameResult strict
            (valueAt template context frames depth inside)
            (valueAt template context' frames depth inside) := fun inside hinside =>
          ih inside fun hstrict hm => hpath hstrict (Mentions.inner hinside hm)
        rcases sameResult_steps hvalues path path with heq | ⟨hstrict, fault, hfail⟩
        · rw [heq]
          cases hresolved : (innerPaths path.toList).foldlM
              (stepInto template context frames depth path) path with
          | error fault => exact SameResult.refl _
          | ok resolved =>
              -- the steps between brackets leave the root where it was
              have hstem : Stemmed (rootName path) isSeam path :=
                (rootName_or_stemmed path).resolve_left fun he =>
                  not_mem_rootName (he ▸ hbracket)
              have hresolvedStem := stemmed_of_steps not_mem_rootName _ path hstem hresolved
              exact sameResult_orFail _ (fun v hv => find?_of_some h hv) fun hstrict =>
                find?_eq h frames (hname hstrict) (hroot hstrict)
                  (Or.inr (stemmed_dotted (hname hstrict) hresolvedStem))
        · rw [hfail]
          exact Or.inr ⟨hstrict, fault, rfl⟩
      · rw [valueAt_of_no_bracket hbracket, valueAt_of_no_bracket hbracket]
        exact sameResult_orFail _ (fun v hv => find?_of_some h hv) fun hstrict =>
          find?_eq h frames (hname hstrict) (hroot hstrict) (startsAt_rootName hbracket)

end

end Template

end Scaffold
