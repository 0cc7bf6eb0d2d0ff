import Scaffold.Plan.RemoteService
import Scaffold.Proofs.Generation.Packages
import Scaffold.Proofs.Text.Pieces

/-!
# Keys of services

The key of a service is its name in camel case and then in lower case, where no capital
shows any longer where a word starts, without the word `service` at the end. The word is
looked for from the start and everything behind it goes with it, so the key is the
documented one exactly where the first `service` is also the last thing in the name, or
the name has the word in front and nowhere at its end.
-/

namespace Scaffold

open Text

namespace RpcService

/-- The name of a service as its key spells it. -/
def squeezed (name : String) : String := toLower (camelCase name)

/-- What is left of a text without the word `service` at its end, unless that is nothing. -/
inductive CutsSuffix (s : String) : String → Prop
  | cut (stem : String) (hstem : stem ≠ "") (hs : s = stem ++ "service") : CutsSuffix s stem
  | whole (h : ∀ stem, s = stem ++ "service" → stem = "") : CutsSuffix s s

/-- What stands in front of the first `service` of a text, unless that is nothing. -/
inductive CutsFirst (s : String) : String → Prop
  | absent (h : ∀ before after, s ≠ before ++ "service" ++ after) : CutsFirst s s
  | front (after : String) (h : s = "service" ++ after) : CutsFirst s s
  | behind (stem after : String) (hstem : stem ≠ "") (hs : s = stem ++ "service" ++ after)
      (hfirst : ∀ b a, s = b ++ "service" ++ a → stem.length ≤ b.length) : CutsFirst s stem

/-- A text with `service` in front does not end in another one, and a text without it in
front has it nowhere but at its end. -/
structure ServiceLast (s : String) : Prop where
  front : ∀ rest stem, s = "service" ++ rest → s = stem ++ "service" → stem = ""
  behind : (∀ rest, s ≠ "service" ++ rest) →
    ∀ before after, s = before ++ "service" ++ after → after = ""

/-! ## The first place of the word -/

section

variable {s key : String}

theorem cutsFirst_of_cut {before after : String} (h : cut "service" s = some (before, after)) :
    CutsFirst s (if before = "" then s else before) := by
  obtain ⟨⟨b, a⟩, hcut, hparts⟩ := Option.map_eq_some_iff.mp h
  obtain ⟨rfl, rfl⟩ : String.ofList b = before ∧ String.ofList a = after := by simpa using hparts
  have hs : s = String.ofList b ++ "service" ++ String.ofList a :=
    String.toList_inj.mp (by simpa using eq_of_cutAt hcut)
  by_cases hempty : String.ofList b = ""
  · rw [if_pos hempty]
    rw [hempty, String.empty_append] at hs
    exact .front _ hs
  · rw [if_neg hempty]
    refine .behind _ _ hempty hs fun b' a' hs' => ?_
    have hfirst := length_le_of_cutAt hcut (b := b'.toList) (a := a'.toList) (by
      rw [hs', String.toList_append, String.toList_append, List.append_assoc])
    rwa [String.length_ofList, ← String.length_toList]

theorem absent_of_cut (h : cut "service" s = none) (before after : String) :
    s ≠ before ++ "service" ++ after := by
  intro hs
  refine cutAt_eq_none_iff.mp (Option.map_eq_none_iff.mp h) before.toList after.toList ?_
  rw [hs, String.toList_append, String.toList_append, List.append_assoc]

theorem hyphen_not_mem_squeezed (name : String) : '-' ∉ (squeezed name).toList := by
  intro hmem
  have hcaseless : isCaseless '-' = true := by decide +kernel
  rw [squeezed, toLower, String.toList_ofList] at hmem
  have htitles := mem_of_mem_lowerChars hcaseless hmem
  rw [toList_camelCase] at htitles
  obtain ⟨word, hword, htitle⟩ := List.mem_flatMap.mp htitles
  have hflat : '-' ∈ ((splitWords name).map String.toList).flatten :=
    List.mem_flatten.mpr ⟨word, hword, mem_of_mem_titleChars hcaseless htitle⟩
  have hwords : (splitWords name).map String.toList = wordsFrom [] none name.toList := by
    simp [splitWords]
  rw [hwords, flatten_wordsFrom, List.nil_append] at hflat
  obtain ⟨c, hc, hlower⟩ := List.mem_flatMap.mp hflat
  have hsolid : isWordSeparator c = false := by simpa using (List.mem_filter.mp hc).2
  exact absurd (not_isWordSeparator_of_mem_lowerChar hsolid hlower) (by decide)

/-- Words hold no hyphens, so none are left to be trimmed in front of the word. -/
theorem keyOf_cutsFirst (name : String) : CutsFirst (squeezed name) (keyOf name) := by
  unfold keyOf
  rw [← squeezed]
  dsimp only
  split
  · next before after hcut =>
    have hfirst := cutsFirst_of_cut hcut
    have htrim : trimEndWhere (· == '-') before = before := by
      obtain ⟨⟨b, a⟩, hb, hparts⟩ := Option.map_eq_some_iff.mp hcut
      obtain ⟨rfl, -⟩ : String.ofList b = before ∧ _ := by simpa using hparts
      have hlast : ∀ c, b.getLast? = some c → (c == '-') = false := by
        intro c hc
        rw [beq_eq_false_iff_ne]
        rintro rfl
        refine hyphen_not_mem_squeezed name ?_
        rw [eq_of_cutAt hb]
        exact List.mem_append_left _ (List.mem_of_getLast? hc)
      rw [trimEndWhere, String.toList_ofList, dropEndWhile_of_last hlast]
    rwa [htrim]
  · next hcut => exact .absent (absent_of_cut hcut)

/-! ## The documented key -/

theorem ne_append_service (stem after : String) : stem ≠ stem ++ "service" ++ after := by
  intro h
  have hlength := congrArg String.length h
  have hword : "service".length = 7 := rfl
  simp only [String.length_append] at hlength
  omega

namespace CutsSuffix

/-- A stem that is not empty is what is left. -/
theorem eq_of_append {stem : String} (h : CutsSuffix s key) (hstem : stem ≠ "")
    (hs : s = stem ++ "service") : key = stem := by
  cases h with
  | cut _ _ hs' => exact (String.append_left_inj _).mp (hs'.symm.trans hs)
  | whole h => exact absurd (h stem hs) hstem

theorem append_of_ne (h : CutsSuffix s key) (hne : key ≠ s) : s = key ++ "service" := by
  cases h with
  | cut _ _ hs => exact hs
  | whole h => exact absurd rfl hne

theorem eq_of_not_endsWith (h : CutsSuffix s key) (hend : endsWith "service" s = false) :
    key = s := by
  cases h with
  | cut _ _ hs => exact absurd (endsWith_iff.mpr ⟨key, hs⟩) (Bool.eq_false_iff.mp hend)
  | whole h => rfl

end CutsSuffix

/-- Behind a first place with nothing after it there is no other place. -/
theorem after_eq_empty {stem : String} (hs : s = stem ++ "service")
    (hfirst : ∀ b a, s = b ++ "service" ++ a → stem.length ≤ b.length) {b a : String}
    (hsplit : s = b ++ "service" ++ a) : a = "" := by
  have hle := hfirst b a hsplit
  have hlength := congrArg String.length (hs.symm.trans hsplit)
  simp only [String.length_append] at hlength
  exact String.length_eq_zero_iff.mp (by omega)

/-- The first place is the end exactly where the text has the word last. -/
theorem CutsFirst.cutsSuffix_iff (h : CutsFirst s key) : CutsSuffix s key ↔ ServiceLast s := by
  cases h with
  | absent hnone =>
      have hend : ∀ stem, s ≠ stem ++ "service" := fun stem hs =>
        hnone stem "" (by rw [String.append_empty, hs])
      exact iff_of_true (.whole fun stem hs => absurd hs (hend stem))
        ⟨fun _ stem _ hs => absurd hs (hend stem),
          fun _ before after hs => absurd hs (hnone before after)⟩
  | front after hs =>
      constructor
      · refine fun hcut => ⟨fun _ stem _ hend => ?_, fun hnot => absurd hs (hnot after)⟩
        refine Decidable.byContradiction fun hstem => ne_append_service stem "" ?_
        rw [String.append_empty]
        exact (hcut.eq_of_append hstem hend).symm.trans hend
      · exact fun hlast => .whole fun stem hend => hlast.front after stem hs hend
  | behind _ after hstem hs hfirst =>
      -- a word in front would be an earlier place
      have hfront : ∀ rest, s ≠ "service" ++ rest := fun rest hrest => by
        have hle := hfirst "" rest (by rw [String.empty_append, hrest])
        exact hstem (String.length_eq_zero_iff.mp (Nat.le_zero.mp hle))
      constructor
      · intro hcut
        have hend : s = key ++ "service" :=
          hcut.append_of_ne fun heq => ne_append_service s after (heq ▸ hs)
        exact ⟨fun rest _ hrest => absurd hrest (hfront rest),
          fun _ b a hsplit => after_eq_empty hend hfirst hsplit⟩
      · intro hlast
        obtain rfl := hlast.behind hfront key after hs
        exact .cut key hstem (by rwa [String.append_empty] at hs)

theorem ServiceLast.of_absent (h : contains "service" s = false) : ServiceLast s := by
  have hnone : ∀ before after, s ≠ before ++ "service" ++ after := by
    refine absent_of_cut ?_
    rw [contains, Option.isSome_eq_false_iff, Option.isNone_iff_eq_none] at h
    rw [cut, h, Option.map_none]
  exact ⟨fun rest _ hs => absurd (by rw [String.empty_append, hs]) (hnone "" rest),
    fun _ before after hs => absurd hs (hnone before after)⟩

end

/-- A service has the documented key exactly where the word `service` stands in front in
its squeezed name and not at the end as well, or not in front and nowhere but at the end.
Among such services whose squeezed names do not end in the word, the key tells the squeezed
names apart. -/
theorem key_cuts_suffix (name : String) :
    (CutsSuffix (squeezed name) (keyOf name) ↔ ServiceLast (squeezed name)) ∧
    ∀ other, ServiceLast (squeezed name) → ServiceLast (squeezed other) →
      endsWith "service" (squeezed name) = false → endsWith "service" (squeezed other) = false →
      keyOf name = keyOf other → squeezed name = squeezed other := by
  have hkey : ∀ name, CutsSuffix (squeezed name) (keyOf name) ↔ ServiceLast (squeezed name) :=
    fun name => (keyOf_cutsFirst name).cutsSuffix_iff
  have hwhole : ∀ name, ServiceLast (squeezed name) →
      endsWith "service" (squeezed name) = false → keyOf name = squeezed name :=
    fun name hlast hend => ((hkey name).mpr hlast).eq_of_not_endsWith hend
  refine ⟨hkey name, fun other hname hother hend hend' hsame => ?_⟩
  rw [← hwhole name hname hend, ← hwhole other hother hend', hsame]

theorem key_cuts_suffix_greet :
    ServiceLast (squeezed "greet-service") ∧
      CutsSuffix (squeezed "greet-service") (keyOf "greet-service") ∧
      keyOf "greet-service" = "greet" ∧
      ServiceLast (squeezed "userApi") ∧ ServiceLast (squeezed "User_API") ∧
      keyOf "userApi" = keyOf "User_API" ∧ squeezed "userApi" = squeezed "User_API" := by
  have hname : squeezed "greet-service" = "greetservice" := by decide +kernel
  have hkey : keyOf "greet-service" = "greet" := by decide +kernel
  have hcut : CutsSuffix (squeezed "greet-service") (keyOf "greet-service") := by
    rw [hname, hkey]
    exact .cut "greet" (by decide +kernel) rfl
  have huser : ServiceLast (squeezed "userApi") := .of_absent (by decide +kernel)
  have huser' : ServiceLast (squeezed "User_API") := .of_absent (by decide +kernel)
  have hsame : keyOf "userApi" = keyOf "User_API" := by decide +kernel
  exact ⟨(key_cuts_suffix "greet-service").1.mp hcut, hcut, hkey, huser, huser', hsame,
    (key_cuts_suffix "userApi").2 _ huser huser' (by decide +kernel) (by decide +kernel) hsame⟩

/-- The word in the middle of a name takes the rest of the name with it, so two services
with different names and no word at the end share a key. -/
theorem key_cuts_inner_word :
    squeezed "user-service-admin" = "userserviceadmin" ∧
    keyOf "user-service-admin" = "user" ∧
    ¬ CutsSuffix (squeezed "user-service-admin") (keyOf "user-service-admin") ∧
    endsWith "service" (squeezed "user-service-admin") = false ∧
    endsWith "service" (squeezed "user-service-api") = false ∧
    keyOf "user-service-admin" = keyOf "user-service-api" ∧
    squeezed "user-service-admin" ≠ squeezed "user-service-api" := by
  have hname : squeezed "user-service-admin" = "userserviceadmin" := by decide +kernel
  have hother : squeezed "user-service-api" = "userserviceapi" := by decide +kernel
  have hkey : keyOf "user-service-admin" = "user" := by decide +kernel
  rw [hname, hother, hkey]
  refine ⟨rfl, rfl, fun h => ?_, by decide +kernel, by decide +kernel, by decide +kernel,
    by decide +kernel⟩
  exact absurd (h.append_of_ne (by decide +kernel)) (by decide +kernel)

end RpcService

end Scaffold
