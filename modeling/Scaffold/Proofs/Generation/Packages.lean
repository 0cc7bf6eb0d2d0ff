import Mathlib.Data.List.Basic
import Mathlib.Data.List.Induction
import Scaffold.Generation.Annotations
import Scaffold.Generation.Imports
import Scaffold.Plan.Layout
import Scaffold.Proofs.Generation.Targets
import Scaffold.Proofs.Text.Trimming

/-!
# Folders, packages and imports

A folder that an annotation names is trimmed, so the last folder of a directory
is never an empty text: it is the package of the files there and stands right
before their names in their paths. Below one module, different directories are
different imports, and every import stands in the block once it is asked for.
-/

namespace Scaffold

open Text

/-! ## Folders -/

namespace Annotations

/-- A folder is the default one, where the chain names none or slashes alone, or it is named
by what stands between the slashes at the ends of the annotation. -/
theorem folder_cases (default : String) (chain : List Annotations) :
    (folder default chain = default ∧
      ∀ value, lookup groupKey chain = some value → ∀ c ∈ value.toList, c = '/') ∨
    ∃ name, name ≠ "" ∧ name.toList.head? ≠ some '/' ∧ name.toList.getLast? ≠ some '/' ∧
      folder default chain = default ++ "/" ++ name ∧
      ∃ value, lookup groupKey chain = some value ∧ ∃ front back : List Char,
        value.toList = front ++ (name.toList ++ back) ∧
          (∀ c ∈ front, c = '/') ∧ ∀ c ∈ back, c = '/' := by
  unfold folder
  cases lookup groupKey chain with
  | none => exact Or.inl ⟨rfl, nofun⟩
  | some value =>
      by_cases hempty : trimWhere (· == '/') value = ""
      · have hslashes := (trimWhere_eq_empty_iff (· == '/') value).mp hempty
        refine Or.inl ⟨by simp [hempty], ?_⟩
        rintro value' ⟨rfl⟩ c hc
        simpa using hslashes c hc
      · obtain ⟨front, back, hvalue, hfront, hback⟩ := exists_ends_of_trimWhere (· == '/') value
        refine Or.inr ⟨trimWhere (· == '/') value, hempty, ?_, ?_, by simp [hempty],
          value, rfl, front, back, hvalue, ?_, ?_⟩
        · intro hhead
          simpa using head?_trimWhere _ _ hhead
        · intro hlast
          simpa using getLast?_trimWhere _ _ hlast
        · intro c hc
          simpa using hfront c hc
        · intro c hc
          simpa using hback c hc

/-- A folder of its own is named by a text without slashes around it. -/
theorem folder_eq (default : String) (chain : List Annotations) :
    folder default chain = default ∨
      ∃ name, name ≠ "" ∧ name.toList.head? ≠ some '/' ∧ name.toList.getLast? ≠ some '/' ∧
        folder default chain = default ++ "/" ++ name := by
  rcases folder_cases default chain with ⟨h, -⟩ | ⟨name, hne, hhead, hlast, h, -⟩
  · exact Or.inl h
  · exact Or.inr ⟨name, hne, hhead, hlast, h⟩

/-- No folder ends in a slash. -/
theorem getLast?_folder {default : String} (h : default.toList.getLast? ≠ some '/')
    (chain : List Annotations) : (folder default chain).toList.getLast? ≠ some '/' := by
  rcases folder_eq default chain with hfolder | ⟨name, hne, -, hlast, hfolder⟩
  · rwa [hfolder]
  · have hname : name.toList.getLast?.isSome = true := by
      rw [List.getLast?_isSome]
      exact fun he => hne (String.toList_eq_nil_iff.mp he)
    rwa [hfolder, String.toList_append, List.getLast?_append, Option.or_of_isSome hname]

/-- Every folder starts as the default one. -/
theorem exists_folder (default : String) (chain : List Annotations) :
    ∃ rest, folder default chain = default ++ rest := by
  rcases folder_eq default chain with hfolder | ⟨name, -, -, -, hfolder⟩
  · exact ⟨"", by rw [hfolder, String.append_empty]⟩
  · exact ⟨"/" ++ name, by rw [hfolder, String.append_assoc]⟩

theorem folder_ne_empty {default : String} (h : default ≠ "") (chain : List Annotations) :
    folder default chain ≠ "" := by
  obtain ⟨rest, hrest⟩ := exists_folder default chain
  rw [hrest]
  exact fun he => h (String.append_eq_empty_iff.mp he).1

end Annotations

/-! ## Packages -/

/-- The package of a directory is its last folder and has a name. -/
theorem Layout.packageOf_eq {dir : String} (hne : dir ≠ "")
    (hlast : dir.toList.getLast? ≠ some '/') :
    packageOf dir ≠ "" ∧ ∃ before, splitOn '/' dir = before ++ [packageOf dir] := by
  obtain ⟨before, last, hsplit, hlast⟩ := splitOn_last hne hlast
  have hpackage : packageOf dir = last := by
    unfold packageOf
    rw [hsplit, List.getLast?_concat, Option.getD_some]
  exact ⟨by rwa [hpackage], before, by rw [hsplit, hpackage]⟩

/-- A directory that ends in a slash has no name at its end. -/
theorem Layout.packageOf_ne_empty_iff {dir : String} :
    packageOf dir ≠ "" ↔ dir ≠ "" ∧ dir.toList.getLast? ≠ some '/' := by
  constructor
  · intro h
    constructor
    · rintro rfl
      exact h rfl
    · intro hlast
      obtain ⟨before, hbefore⟩ := List.getLast?_eq_some_iff.mp hlast
      have hdir : dir = String.ofList before ++ String.singleton '/' ++ "" :=
        String.toList_inj.mp (by simp [hbefore])
      refine h ?_
      unfold packageOf
      rw [hdir, splitOn_append, splitOn_of_not_mem (s := "") (by simp), List.getLast?_concat,
        Option.getD_some]
  · rintro ⟨hne, hlast⟩
    exact (packageOf_eq hne hlast).1

/-- An accepted file lies right below the folder of its package. -/
theorem Target.components_of_package {t : Target} {p : Path} (h : t.relativePath = .ok p)
    (hne : t.subdir ≠ "") (hlast : t.subdir.toList.getLast? ≠ some '/') :
    ∃ dirs, p.components =
      dirs ++ [.name (Layout.packageOf t.subdir), .name t.filename] := by
  obtain ⟨hpackage, before, hsplit⟩ := Layout.packageOf_eq hne hlast
  refine ⟨(before.filter (· != "")).map .name, ?_⟩
  rw [components_relativePath h, names, folders, hsplit, List.filter_append,
    List.filter_cons_of_pos (by simpa using hpackage)]
  simp

/-! ## Imports -/

/-- Imports of one module differ where their directories do. -/
theorem exists_joinPackage (module_ : String) :
    ∃ front, ∀ dir, trimWhere (· == '/') (trim dir) ≠ "" →
      joinPackage module_ dir = front ++ trimWhere (· == '/') (trim dir) := by
  by_cases hmodule : trimEndWhere (· == '/') (trim module_) = ""
  · refine ⟨"", fun dir hdir => ?_⟩
    simp [joinPackage, hmodule]
  · refine ⟨trimEndWhere (· == '/') (trim module_) ++ "/", fun dir hdir => ?_⟩
    simp [joinPackage, hmodule, hdir]

namespace ImportSet

theorem paths_add (s : ImportSet) (path : String) :
    (s.add path).paths = if path ∈ s.paths then s.paths else s.paths ++ [path] := by
  unfold add
  split <;> rfl

theorem ofList_concat (paths : List String) (path : String) :
    ofList (paths ++ [path]) = (ofList paths).add path := by
  unfold ofList
  rw [List.foldl_append]
  rfl

theorem mem_ofList {paths : List String} {path : String} :
    path ∈ (ofList paths).paths ↔ path ∈ paths := by
  induction paths using List.reverseRecOn with
  | nil => rfl
  | append_singleton paths last ih =>
      rw [ofList_concat, mem_add, ih, List.mem_append, List.mem_singleton]

theorem quotation_injective : Function.Injective fun path : String => "\"" ++ path ++ "\"" := by
  intro path path' h
  rwa [String.append_left_inj, String.append_right_inj] at h

theorem mem_quoted {s : ImportSet} {path : String} :
    "\"" ++ path ++ "\"" ∈ s.quoted ↔ path ∈ s.paths :=
  List.mem_map_of_injective quotation_injective

end ImportSet

end Scaffold
