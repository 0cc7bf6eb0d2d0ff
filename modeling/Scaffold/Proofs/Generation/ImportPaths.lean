import Scaffold.Proofs.Generation.Pairing

/-!
# Imports and the directories of their files

A handler imports its logic under the module and the folder of the logic, the
folder trimmed at its ends. The path of the file drops empty names anywhere in
the folder and trims nothing. So the import leads to the directory of the file
exactly for tidy folders: those without an empty name and without a blank at the
end.
-/

namespace Scaffold

open Text

/-! ## Tidy folders -/

namespace Layout

/-- No empty name between slashes or at an end, and no blank at the end. -/
structure Tidy (folder : String) : Prop where
  named : "" ∈ splitOn '/' folder → folder = ""
  unblank : ∀ c, folder.toList.getLast? = some c → isBlank c = false

/-- A folder in a tidy one is tidy as it is by itself. -/
theorem tidy_append_iff {front name : String} (hfront : Tidy front) (hne : front ≠ "")
    (hname : name ≠ "") : Tidy (front ++ "/" ++ name) ↔ Tidy name := by
  have hpieces : splitOn '/' (front ++ "/" ++ name) = splitOn '/' front ++ splitOn '/' name :=
    splitOn_append '/' front name
  have hlast : (front ++ "/" ++ name).toList.getLast? = name.toList.getLast? := by
    have hsome : name.toList.getLast?.isSome = true := by
      rw [List.getLast?_isSome]
      exact fun he => hname (String.toList_eq_nil_iff.mp he)
    rw [String.toList_append, List.getLast?_append, Option.or_of_isSome hsome]
  have hfilled : front ++ "/" ++ name ≠ "" := fun he =>
    hname (String.append_eq_empty_iff.mp he).2
  constructor
  · intro h
    refine ⟨fun hempty => ?_, fun c hc => h.unblank c (hlast.trans hc)⟩
    exact absurd (h.named (hpieces ▸ List.mem_append_right _ hempty)) hfilled
  · intro h
    refine ⟨fun hempty => ?_, fun c hc => h.unblank c (hlast.symm.trans hc)⟩
    rw [hpieces] at hempty
    rcases List.mem_append.mp hempty with hempty | hempty
    · exact absurd (hfront.named hempty) hne
    · exact absurd (h.named hempty) hname

/-- The package of directories below a module: the module without blanks around it
and slashes at its end, unless nothing is left of it, and then the directories. -/
def packagePath (module_ : String) (dirs : List String) : String :=
  let root := trimEndWhere (· == '/') (trim module_)
  if root = "" then String.intercalate "/" dirs else root ++ "/" ++ String.intercalate "/" dirs

section Folder

variable {folder : String}
  (hhead : ∃ first, folder.toList.head? = some first ∧ isBlank first = false ∧ first ≠ '/')
  (hlast : folder.toList.getLast? ≠ some '/')

include hhead

theorem head_of_folder {c : Char} (h : folder.toList.head? = some c) :
    isBlank c = false ∧ (c == '/') = false := by
  obtain ⟨first, hfirst, hblank, hslash⟩ := hhead
  obtain rfl := Option.some.inj (hfirst.symm.trans h)
  exact ⟨hblank, by simpa using hslash⟩

/-- Trimming takes nothing from the start of a folder, first blanks and then slashes. -/
theorem prefix_trimmed :
    (trimWhere (· == '/') (trim folder)).toList <+: (trim folder).toList ∧
      (trim folder).toList <+: folder.toList := by
  have hblanks : (trim folder).toList <+: folder.toList :=
    prefix_trimWhere fun c hc => (head_of_folder hhead hc).1
  refine ⟨prefix_trimWhere fun c hc => ?_, hblanks⟩
  obtain ⟨rest, hrest⟩ := hblanks
  refine (head_of_folder hhead (c := c) ?_).2
  rw [← hrest, List.head?_append, hc]
  rfl

theorem trimmed_ne_empty : trimWhere (· == '/') (trim folder) ≠ "" := by
  obtain ⟨first, hfirst, hblank, hslash⟩ := hhead
  obtain ⟨tail, htail⟩ := List.head?_eq_some_iff.mp hfirst
  have hfolder : folder = String.singleton first ++ String.ofList tail :=
    String.toList_inj.mp (by simp [htail])
  have hkept (p : Char → Bool) (hp : p first = false) (s : String) :
      ∃ rest, trimWhere p (String.singleton first ++ s) = String.singleton first ++ rest :=
    trimWhere_append ⟨first, by simp, hp⟩ ⟨first, by simp, hp⟩ s
  obtain ⟨rest, hrest⟩ : ∃ rest, trim folder = String.singleton first ++ rest :=
    hfolder ▸ hkept isBlank hblank (String.ofList tail)
  obtain ⟨rest', hrest'⟩ := hkept (· == '/') (by simpa using hslash) rest
  rw [hrest, hrest']
  exact fun he => absurd (String.append_eq_empty_iff.mp he).1 (by simp)

include hlast

/-- Trimming takes nothing from a tidy folder, and leaving out empty names neither. -/
theorem Tidy.trimmed_eq (h : Tidy folder) :
    trimWhere (· == '/') (trim folder) =
      String.intercalate "/" ((splitOn '/' folder).filter (· != "")) := by
  have hblank : trim folder = folder :=
    trimWhere_of_ends (fun c hc => (head_of_folder hhead hc).1) h.unblank
  have hslash : trimWhere (· == '/') folder = folder := by
    refine trimWhere_of_ends (fun c hc => (head_of_folder hhead hc).2) (fun c hc => ?_)
    have hne : c ≠ '/' := fun heq => hlast (heq ▸ hc)
    simpa using hne
  have hnames : (splitOn '/' folder).filter (· != "") = splitOn '/' folder := by
    refine List.filter_eq_self.mpr fun name hname => ?_
    have hne : name ≠ "" := by
      rintro rfl
      obtain ⟨first, hfirst, -⟩ := hhead
      rw [h.named hname] at hfirst
      exact absurd hfirst nofun
    simpa using hne
  rw [hblank, hslash, hnames]
  exact (intercalate_splitOn '/' folder).symm

/-- If what trimming leaves holds all characters of a folder but slashes, then it is
the folder: a piece of it that was cut off would end as the folder does. -/
theorem trimmed_eq_self
    (h : (trimWhere (· == '/') (trim folder)).toList.filter (· != '/') =
      folder.toList.filter (· != '/')) : trimWhere (· == '/') (trim folder) = folder := by
  obtain ⟨hslashes, hblanks⟩ := prefix_trimmed hhead
  obtain ⟨rest, hrest⟩ := hslashes.trans hblanks
  have hcut : rest.filter (· != '/') = [] := by
    rw [← hrest, List.filter_append] at h
    exact List.self_eq_append_right.mp h
  cases hend : rest.getLast? with
  | none =>
      rw [List.getLast?_eq_none_iff.mp hend, List.append_nil] at hrest
      exact String.toList_inj.mp hrest
  | some c =>
      have hc := List.filter_eq_nil_iff.mp hcut c (List.mem_of_getLast? hend)
      obtain rfl : c = '/' := by simpa using hc
      rw [← hrest, List.getLast?_append, hend] at hlast
      exact absurd rfl hlast

/-- Where trimming and leaving out empty names agree, the folder is tidy. -/
theorem tidy_of_trimmed_eq
    (h : trimWhere (· == '/') (trim folder) =
      String.intercalate "/" ((splitOn '/' folder).filter (· != ""))) : Tidy folder := by
  have hself : trimWhere (· == '/') (trim folder) = folder := by
    refine trimmed_eq_self hhead hlast ?_
    have hall := filter_intercalate '/' (splitOn '/' folder)
    have hnamed := filter_intercalate '/' ((splitOn '/' folder).filter (· != ""))
    rw [intercalate_splitOn] at hall
    rw [flatMap_filter_ne_empty, ← hall] at hnamed
    rw [h]
    exact hnamed
  rw [hself] at h
  refine ⟨fun hempty => ?_, fun c hc => ?_⟩
  · have hsome : (splitOn '/' folder).filter (· != "") ≠ [] := by
      intro hnone
      obtain ⟨first, hfirst, -⟩ := hhead
      rw [h, hnone] at hfirst
      exact absurd hfirst nofun
    have hslashless : ∀ piece ∈ (splitOn '/' folder).filter (· != ""), '/' ∉ piece.toList :=
      fun piece hpiece => not_mem_of_mem_splitOn (List.mem_filter.mp hpiece).1
    have hpieces := splitOn_intercalate hsome hslashless
    rw [show String.singleton '/' = "/" from rfl, ← h] at hpieces
    rw [hpieces] at hempty
    exact absurd (List.mem_filter.mp hempty).2 (by simp)
  · obtain ⟨hslashes, hblanks⟩ := prefix_trimmed hhead
    rw [hself] at hslashes
    have htrim : trim folder = folder :=
      String.toList_inj.mp (hblanks.eq_of_length_le hslashes.length_le)
    rw [← htrim] at hc
    exact getLast?_trimWhere isBlank folder hc

end Folder

end Layout

/-- The folder of a node is tidy exactly when the text that names it is, the slashes
around that text aside. -/
theorem Annotations.tidy_folder_iff {default : String} (hdefault : Layout.Tidy default)
    (hne : default ≠ "") (chain : List Annotations) :
    Layout.Tidy (folder default chain) ↔
      ∀ value, lookup groupKey chain = some value → Layout.Tidy (trimWhere (· == '/') value) := by
  unfold folder
  cases lookup groupKey chain with
  | none => exact ⟨fun _ value hvalue => absurd hvalue nofun, fun _ => hdefault⟩
  | some value =>
      by_cases hempty : trimWhere (· == '/') value = ""
      · simp only [Option.map_some, hempty, if_true, Option.some.injEq]
        refine ⟨fun _ other hother => ?_, fun _ => hdefault⟩
        rw [← hother, hempty]
        exact ⟨fun _ => rfl, fun c hc => absurd hc nofun⟩
      · simp only [Option.map_some, hempty, if_false, Option.some.injEq, forall_eq']
        exact Layout.tidy_append_iff hdefault hne hempty

/-! ## Handlers -/

/-- What is asked for first stands first. -/
theorem ImportSet.head?_ofList_cons (first : String) (paths : List String) :
    (ofList (first :: paths)).paths.head? = some first := by
  have hfold : ∀ (paths : List String) (s : ImportSet), s.paths.head? = some first →
      (paths.foldl add s).paths.head? = some first := by
    intro paths
    induction paths with
    | nil => exact fun s hs => hs
    | cons path paths ih =>
        intro s hs
        refine ih (s.add path) ?_
        unfold add
        split
        · exact hs
        · rw [List.head?_append, hs, Option.some_or]
  exact hfold paths (empty.add first) rfl

namespace ApiSpec

/-- The first package that the handler imports is that of the directory in which the
logic lies. -/
def ImportsDirectory (s : ApiSpec) (handler logic : Target) (logicPath : Path) : Prop :=
  ∃ dirs items, logicPath.components = (dirs ++ [logic.filename]).map .name ∧
    handler.context.get? "imports" = some (.texts items) ∧
    items.head? = some ("\"" ++ Layout.packagePath s.module_ dirs ++ "\"")

theorem joinPackage_eq_packagePath_iff (module_ : String) {folder : String} {dirs : List String}
    (hne : trimWhere (· == '/') (trim folder) ≠ "") :
    joinPackage module_ folder = Layout.packagePath module_ dirs ↔
      trimWhere (· == '/') (trim folder) = String.intercalate "/" dirs := by
  unfold joinPackage Layout.packagePath
  by_cases hmodule : trimEndWhere (· == '/') (trim module_) = ""
  · simp [hmodule]
  · simp [hmodule, hne]

/-- The first import of a handler is that of its logic. -/
theorem head?_handlerImports (s : ApiSpec) (gate : VersionGate) (group : Group) (r : Route) :
    (s.handlerImports gate group r).quoted.head? =
      some ("\"" ++ joinPackage s.module_ (group.logicFolder r) ++ "\"") := by
  have hfirst : (s.handlerImports gate group r).paths.head? =
      some (joinPackage s.module_ (group.logicFolder r)) := by
    unfold handlerImports
    rw [List.cons_append, List.cons_append, List.cons_append]
    exact ImportSet.head?_ofList_cons _ _
  rw [ImportSet.quoted, List.head?_map, hfirst]
  rfl

section Route

variable {s : ApiSpec} {gen : Generator} {group : Group} {r : Route} {base : String}

theorem importsDirectory_iff {logicPath : Path}
    (h : (s.logicTarget gen group r base).relativePath = .ok logicPath) :
    s.ImportsDirectory (s.handlerTarget gen group r base) (s.logicTarget gen group r base)
      logicPath ↔
      ∀ value, Annotations.lookup Annotations.groupKey (group.chain r) = some value →
        Layout.Tidy (trimWhere (· == '/') value) := by
  have hdefault : Layout.Tidy Layout.logic :=
    ⟨fun hempty => absurd hempty (by decide), fun c hc => by
      obtain rfl : 'c' = c := Option.some.inj hc
      decide⟩
  have hhead : ∃ first, (group.logicFolder r).toList.head? = some first ∧
      isBlank first = false ∧ first ≠ '/' := by
    obtain ⟨rest, hrest⟩ := Annotations.exists_folder Layout.logic (group.chain r)
    refine ⟨'i', ?_, by decide, by decide⟩
    rw [Group.logicFolder, hrest, String.toList_append]
    rfl
  have hlast : (group.logicFolder r).toList.getLast? ≠ some '/' :=
    Annotations.getLast?_folder (by decide) _
  have htrimmed : trimWhere (· == '/') (trim (group.logicFolder r)) ≠ "" :=
    Layout.trimmed_ne_empty hhead
  have himports : (s.handlerTarget gen group r base).context.get? "imports" =
      some (.texts (s.handlerImports gen.gate group r).quoted) :=
    Context.get?_ofList (by simp) "imports"
  -- the import of the logic, and the folders that the directory of its file has
  have hmeans : s.ImportsDirectory (s.handlerTarget gen group r base)
      (s.logicTarget gen group r base) logicPath ↔
      joinPackage s.module_ (group.logicFolder r) =
        Layout.packagePath s.module_ (s.logicTarget gen group r base).folders := by
    constructor
    · rintro ⟨dirs, items, hdirs, hitems, hfirst⟩
      have htexts := Value.texts_inj (Option.some.inj (hitems.symm.trans himports))
      have hnames := (Target.components_relativePath h).symm.trans hdirs
      have hdirs := Target.map_name_inj hnames
      rw [Target.names, List.append_left_inj] at hdirs
      rw [htexts, head?_handlerImports, Option.some.injEq, String.append_left_inj,
        String.append_right_inj, ← hdirs] at hfirst
      exact hfirst
    · intro heq
      refine ⟨_, _, Target.components_relativePath h, himports, ?_⟩
      rw [head?_handlerImports, heq]
  rw [hmeans, joinPackage_eq_packagePath_iff _ htrimmed,
    ← Annotations.tidy_folder_iff hdefault (by decide)]
  exact ⟨Layout.tidy_of_trimmed_eq hhead hlast, Layout.Tidy.trimmed_eq hhead hlast⟩

/-- Both files of a route with a usable handler name are planned. If the path of the
logic is accepted, then the handler imports the directory of that file exactly when
the annotation for its folder names no folder, or a tidy one. -/
theorem handler_imports_directory (hbase : r.baseName = .ok base) :
    ∃ handler logic, s.routeTargets gen group r = .ok [handler, logic] ∧
      ∀ logicPath, logic.relativePath = .ok logicPath →
        (s.ImportsDirectory handler logic logicPath ↔
          ∀ value, Annotations.lookup Annotations.groupKey (group.chain r) = some value →
            Layout.Tidy (trimWhere (· == '/') value)) := by
  refine ⟨s.handlerTarget gen group r base, s.logicTarget gen group r base, ?_, ?_⟩
  · rw [routeTargets, hbase]
    rfl
  · intro logicPath hlogic
    exact importsDirectory_iff hlogic

end Route

/-- A group below two folders, with a slash too many at the end. -/
def members : Group := ⟨SortedMap.ofList [("group", "admin/user/")], [login]⟩

theorem handler_imports_directory_members : login.baseName = .ok "Login" ∧
    ∃ handler logic, portal.routeTargets Generator.plain members login = .ok [handler, logic] ∧
      portal.ImportsDirectory handler logic ⟨"internal/logic/admin/user/loginlogic.go"⟩ := by
  have hbase : login.baseName = .ok "Login" := by decide
  obtain ⟨handler, logic, htargets, himports⟩ :=
    @handler_imports_directory portal Generator.plain members login "Login" hbase
  have hplanned : portal.routeTargets Generator.plain members login =
      .ok [portal.handlerTarget Generator.plain members login "Login",
        portal.logicTarget Generator.plain members login "Login"] := by
    rw [routeTargets, hbase]
    rfl
  obtain ⟨rfl, hrest⟩ := List.cons.inj (Except.ok.inj (htargets.symm.trans hplanned))
  obtain ⟨rfl, -⟩ := List.cons.inj hrest
  refine ⟨hbase, _, _, hplanned, (himports _ (by decide)).mpr fun value hvalue => ?_⟩
  obtain rfl : "admin/user/" = value :=
    Option.some.inj ((show _ = some "admin/user/" by decide).symm.trans hvalue)
  exact ⟨fun hempty => absurd hempty (by decide), fun c hc => by
    obtain rfl : 'r' = c := Option.some.inj hc
    decide⟩

/-- The path of a logic file drops the empty name in the annotation `/admin//user/`, and
the import that its handler has keeps it. -/
theorem not_importsDirectory_admins : ∃ handler logic,
    portal.routeTargets Generator.plain admins login = .ok [handler, logic] ∧
      handler.relativePath = .ok ⟨"internal/handler/admin/user/loginhandler.go"⟩ ∧
      logic.relativePath = .ok ⟨"internal/logic/admin/user/loginlogic.go"⟩ ∧
      ¬ portal.ImportsDirectory handler logic ⟨"internal/logic/admin/user/loginlogic.go"⟩ := by
  have hbase : login.baseName = .ok "Login" := by decide
  have hpath : (portal.logicTarget Generator.plain admins login "Login").relativePath =
      .ok ⟨"internal/logic/admin/user/loginlogic.go"⟩ := by decide
  refine ⟨portal.handlerTarget Generator.plain admins login "Login",
    portal.logicTarget Generator.plain admins login "Login", ?_, by decide, hpath,
    fun himports => ?_⟩
  · rw [routeTargets, hbase]
    rfl
  · have htidy := (importsDirectory_iff hpath).mp himports "/admin//user/" (by decide)
    exact absurd (htidy.named (by decide)) (by decide)

end ApiSpec

end Scaffold
