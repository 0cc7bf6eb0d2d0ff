import Scaffold.Proofs.Generation.Reporting
import Scaffold.Proofs.Generation.Specifications
import Scaffold.Proofs.Text.Words

/-!
# Names of the types of a run

The files of a run lie in one package, each with a type named in camel case after a
method or a table. The check before the first write tells paths apart and nothing
else, so two files declare one type where the style of file names keeps names apart
that camel case does not.
-/

namespace Scaffold

open Text Scaffold.Action Scaffold.Generator

/-- The values that targets give to a name, in the order of the targets. -/
def declared (ts : List Target) (key : String) : List Value :=
  ts.filterMap fun t => t.context.get? key

/-- A target whose file is called after `name`, with `tail` behind it, and whose context
gives `value` to `key`. -/
structure Target.CalledAfter (g : Generator) (folders : List String) (tail key name : String)
    (value : Value) (t : Target) : Prop where
  names_eq : t.names = folders ++ [g.fileName (name ++ tail) ".go"]
  value_eq : t.context.get? key = some value

section Plan

variable {g : Generator} {d after : Disk} {dir : Path} {ts : List Target} {other : Target}
  {planned : List (Target × Path)} {folders : List String} {last tail key : String}
  {α : Type} {items : List α} {name : α → String} {value : α → Value}

theorem declared_of_forall₂
    (h : List.Forall₂ (fun x => Target.CalledAfter g folders tail key (name x) (value x)) items ts)
    (hother : other.context.get? key = none) : declared (ts ++ [other]) key = items.map value := by
  have hvalues : ts.map (fun t => t.context.get? key) = items.map (some ∘ value) :=
    map_of_forall₂ h fun _ _ hxt => hxt.value_eq
  calc declared (ts ++ [other]) key
      = declared ts key ++ declared [other] key := List.filterMap_append
    _ = (ts.map fun t => t.context.get? key).filterMap id := by
        rw [show declared [other] key = [] from List.filterMap_cons_none hother, List.append_nil,
          List.filterMap_map]
        rfl
    _ = items.map value := by
        rw [hvalues, List.filterMap_map]
        exact congrFun List.filterMap_eq_map items

/-- Where files called after names pass the check, names that the style of the files
follows have different camel cases. -/
theorem camelCase_ne_of_forall₂
    (h : List.Forall₂ (fun x => Target.CalledAfter g folders tail key (name x) (value x)) items ts)
    (hcheck : checkPaths dir [] (ts ++ [other]) = .ok planned)
    (htail : tail.toList = '_' :: last.toList) (hlast : g.style.Follows last) :
    items.Pairwise fun x y => g.style.Follows (name x) → g.style.Follows (name y) →
      camelCase (name x) ≠ camelCase (name y) := by
  have hnames := map_of_forall₂ h fun _ _ hxt => hxt.names_eq
  have hdiffer : (ts.map Target.names).Pairwise (· ≠ ·) :=
    List.pairwise_map.mpr (List.pairwise_append.mp (names_ne_of_checkPaths hcheck)).1
  rw [hnames, List.pairwise_map] at hdiffer
  refine hdiffer.imp fun {x y} hdiffer hx hy hsame => hdiffer ?_
  rw [fileName, fileName, g.style.format_eq_of_camelCase htail hlast hx hy hsame]

theorem RpcSpec.calledAfter_planMethods {s : RpcSpec} {ms : List RpcMethod}
    (h : (s.planMethods g ms).runOn d = (.ok ts, after)) :
    List.Forall₂ (fun m => Target.CalledAfter g ((splitOn '/' Layout.logic).filter (· != ""))
      "_logic" "logic_name" m.name (.text m.logicName)) ms ts := by
  refine (s.forall₂_planMethods h).imp ?_
  rintro m t ⟨functions, rfl⟩
  exact ⟨rfl, rfl⟩

theorem ModelSpec.calledAfter_planTables {s : ModelSpec} {tables : List Table}
    (h : (s.planTables g tables).runOn d = (.ok ts, after)) :
    List.Forall₂ (fun t => Target.CalledAfter g [] "_model" "upper_table" t.name
      (.text t.typeName)) tables ts := by
  refine (s.forall₂_planTables h).imp ?_
  rintro table t ⟨imports, rfl⟩
  exact ⟨rfl, rfl⟩

/-- When a plan passes the check before the first write, the names of the types that it
declares are those of the methods or tables, and no two of them are the same whose
names are followed by the style of the files. -/
theorem declared_types_distinct (hcheck : checkPaths dir [] ts = .ok planned) :
    (∀ s : RpcSpec, (s.backend.plan g).runOn d = (.ok ts, after) →
      declared ts "logic_name" = s.service.methods.map (fun m => .text m.logicName) ∧
      s.service.methods.Pairwise fun m n => g.style.Follows m.name → g.style.Follows n.name →
        m.logicName ≠ n.logicName) ∧
    (∀ s : ModelSpec, (s.backend.plan g).runOn d = (.ok ts, after) →
      declared ts "upper_table" = s.tables.map (fun t => .text t.typeName) ∧
      s.tables.Pairwise fun t u => g.style.Follows t.name → g.style.Follows u.name →
        t.typeName ≠ u.typeName) := by
  constructor
  · intro s hplan
    obtain ⟨logics, mid, hlogics, hplan⟩ := bind_eq_ok hplan
    obtain rfl := Except.ok.inj (congrArg Prod.fst hplan)
    have hcalled := s.calledAfter_planMethods hlogics
    have hlast : g.style.Follows "logic" :=
      NamingStyle.follows_of_word (by decide) (by decide)
    -- the word at the end of every file name ends every type as well
    have hlogicName : ∀ m : RpcMethod, m.logicName = camelCase m.name ++ camelCase "logic" :=
      fun m => camelCase_append rfl
    have hdiffer := camelCase_ne_of_forall₂ hcalled hcheck rfl hlast
    refine ⟨declared_of_forall₂ hcalled rfl, hdiffer.imp fun {m n} hne hm hn hsame => ?_⟩
    rw [hlogicName, hlogicName, String.append_left_inj] at hsame
    exact hne hm hn hsame
  · intro s hplan
    change ((if s.tables.isEmpty then throw _ else _ : Action (List Target)).runOn d) = _ at hplan
    split at hplan
    · exact absurd (congrArg Prod.fst hplan) nofun
    · obtain ⟨models, mid, hmodels, hplan⟩ := bind_eq_ok hplan
      obtain rfl := Except.ok.inj (congrArg Prod.fst hplan)
      have hcalled := s.calledAfter_planTables hmodels
      have hlast : g.style.Follows "model" :=
        NamingStyle.follows_of_word (by decide) (by decide)
      exact ⟨declared_of_forall₂ hcalled rfl, camelCase_ne_of_forall₂ hcalled hcheck rfl hlast⟩

end Plan

/-- A disk with templates of its own for the fragments of plans. -/
def furnished : Disk where
  entries := [(["home"], .directory), (["home", "1.2.0"], .directory),
    (["home", "1.2.0", "rpc"], .directory),
    (["home", "1.2.0", "rpc", "logic-func.tpl"], .file "hi".toUTF8),
    (["home", "1.2.0", "model"], .directory),
    (["home", "1.2.0", "model", "import-no-cache.tpl"], .file "hi".toUTF8)]

def plainMethod (name : String) : RpcMethod := ⟨name, "Req", "Resp", false, false, none⟩

/-- A service with methods of two names. -/
def servingBoth (name other : String) : RpcSpec :=
  ⟨"shop", ⟨"user", "pb", [plainMethod name, plainMethod other]⟩⟩

/-- A package with tables of two names. -/
def keepingBoth (name other : String) : ModelSpec := ⟨"model", false, [⟨name, []⟩, ⟨other, []⟩]⟩

/-- The style of words in lower case with underscores between them. -/
def snakeCase : NamingStyle where
  source := "go_zero"
  lead := ""
  first := .lower
  separator := "_"
  rest := .lower
  tail := ""

theorem declared_types_distinct_users :
    (∃ ts after planned, ((servingBoth "get_user" "get_users").backend.plan plain).runOn furnished =
        (.ok ts, after) ∧ checkPaths ⟨"out"⟩ [] ts = .ok planned ∧
      (plainMethod "get_user").logicName ≠ (plainMethod "get_users").logicName) ∧
    (∃ ts after planned, ((keepingBoth "user_role" "userrole").backend.plan
        { plain with style := snakeCase }).runOn furnished = (.ok ts, after) ∧
      checkPaths ⟨"out"⟩ [] ts = .ok planned ∧
      Table.typeName ⟨"user_role", []⟩ ≠ Table.typeName ⟨"userrole", []⟩) := by
  constructor
  · have hplans : plain.plans (servingBoth "get_user" "get_users").backend furnished
        (fun _ => true) = true := by decide
    obtain ⟨ts, after, planned, hplan, hcheck, -⟩ := exists_of_plans hplans ⟨"out"⟩
    obtain ⟨-, hdiffer⟩ := (declared_types_distinct hcheck).1 _ hplan
    have hflat : NamingStyle.default.Flat := by
      unfold NamingStyle.Flat
      decide
    exact ⟨ts, after, planned, hplan, hcheck, List.pairwise_pair.mp hdiffer
      (NamingStyle.follows_of_ascii hflat (by decide))
      (NamingStyle.follows_of_ascii hflat (by decide))⟩
  · have hplans : plans { plain with style := snakeCase }
        (keepingBoth "user_role" "userrole").backend furnished (fun _ => true) = true := by
      decide +kernel
    obtain ⟨ts, after, planned, hplan, hcheck, -⟩ := exists_of_plans hplans ⟨"out"⟩
    obtain ⟨-, hdiffer⟩ := (declared_types_distinct hcheck).2 _ hplan
    have hfollows : ∀ {name}, isAscii name = true →
        (∀ word ∈ (splitWords name).tail, title word ≠ word) → snakeCase.Follows name :=
      fun hascii hshown => ⟨fun _ => untitle_title_of_mem_splitWords hascii, .inr hshown⟩
    exact ⟨ts, after, planned, hplan, hcheck, List.pairwise_pair.mp hdiffer
      (hfollows (by decide) (by decide))
      (hfollows (by decide) (by decide))⟩

/-- A plan that passes the check in some style and declares one type twice. -/
def Clashes (b : Backend) (key style : String) : Prop :=
  ∃ parsed ts after planned, NamingStyle.parse? style = some parsed ∧
    (b.plan { plain with style := parsed }).runOn furnished = (.ok ts, after) ∧
    checkPaths ⟨"out"⟩ [] ts = .ok planned ∧ ¬ (declared ts key).Nodup

theorem Clashes.of_plans {b : Backend} {key style : String} (parsed : NamingStyle)
    (hstyle : NamingStyle.parse? style = some parsed)
    (hplans : plans { plain with style := parsed } b furnished (fun ts =>
      decide ¬ (declared ts key).Nodup) = true) : Clashes b key style := by
  obtain ⟨ts, after, planned, hplan, hcheck, htwice⟩ := exists_of_plans hplans ⟨"out"⟩
  exact ⟨parsed, ts, after, planned, hstyle, hplan, hcheck, of_decide_eq_true htwice⟩

/-- A word that begins with a digit does not show in camel case, nor does a letter whose
capital is that of another letter. -/
theorem plans_declare_types_twice :
    Clashes (servingBoth "get_2fa" "get2fa").backend "logic_name" "go_zero" ∧
      Clashes (keepingBoth "get_2fa" "get2fa").backend "upper_table" "go_zero" ∧
      Clashes (servingBoth "get_2fa" "get2fa").backend "logic_name" "goZERO" ∧
      Clashes (servingBoth "ſo" "so").backend "logic_name" "gozero" := by
  refine ⟨.of_plans snakeCase ?_ ?_, .of_plans snakeCase ?_ ?_,
    .of_plans ⟨"goZERO", "", .lower, "", .upper, ""⟩ ?_ ?_,
    .of_plans NamingStyle.default ?_ ?_⟩ <;> decide +kernel

end Scaffold
