import Scaffold.Proofs.Generation.Completeness
import Scaffold.Proofs.Generation.Pairing
import Scaffold.Proofs.Text.Titles
import Scaffold.Proofs.Text.Trimming

/-!
# Names of handlers

The handler of a route is named after what the specification calls it, less the word for a
handler at its end and with a capital in front, and the word is put back behind it. Written
into the specification in place of the name that was there, this name comes to the same files:
only one word is taken off again, and a title is its own title.
-/

namespace Scaffold

open Text

namespace Route

/-- The route with another handler. -/
def withHandler (r : Route) (handler : String) : Route := { r with handler := handler }

/-- The name of the handler that is generated for a route, in the route itself, with blanks
around it. -/
inductive WrittenBack (r : Route) : Route → Prop
  | handler (base lead tail : String) (hbase : r.baseName = .ok base)
      (hlead : ∀ c ∈ lead.toList, isBlank c = true)
      (htail : ∀ c ∈ tail.toList, isBlank c = true) :
      WrittenBack r (r.withHandler (lead ++ (base ++ "Handler") ++ tail))

variable {r : Route} {base : String}

theorem baseName_eq_ok_iff : r.baseName = .ok base ↔ r.IsUsable ∧ base = title r.stem := by
  by_cases h : r.IsUsable
  · rw [baseName_of_usable h, Except.ok.injEq, and_iff_right h, eq_comm]
  · rw [baseName_of_not_usable h]
    exact iff_of_false nofun fun hok => h hok.1

/-- The stem is the start of the trimmed name. -/
theorem exists_stem_append (r : Route) : ∃ rest, trim r.handler = r.stem ++ rest := by
  obtain ⟨cut, hcut⟩ : ∃ cut, trim r.handler = stripSuffix "handler" (trim r.handler) ++ cut := by
    rcases stripSuffix_eq_iff.mp (rfl : _ = stripSuffix "handler" (trim r.handler)) with h | ⟨h, -⟩
    · exact ⟨_, h⟩
    · exact ⟨"", by rw [← h, String.append_empty]⟩
  rcases stripSuffix_eq_iff.mp (rfl : _ = r.stem) with h | ⟨h, -⟩
  · exact ⟨"Handler" ++ cut, by rw [hcut, h, String.append_assoc]⟩
  · exact ⟨cut, by rw [hcut, h]⟩

/-- A stem does not start with a blank, and neither does its title. -/
theorem head_title_stem (h : r.stem ≠ "") :
    ∃ c, (title r.stem).toList.head? = some c ∧ isBlank c = false := by
  obtain ⟨c, cs, hstem⟩ := List.exists_cons_of_ne_nil (mt String.toList_eq_nil_iff.mp h)
  obtain ⟨rest, hrest⟩ := r.exists_stem_append
  have hc : isBlank c = false := by
    refine head?_trimWhere isBlank r.handler ?_
    change (trim r.handler).toList.head? = some c
    rw [hrest, String.toList_append, hstem]
    rfl
  obtain ⟨u, more, hupper⟩ := List.exists_cons_of_ne_nil (upperChar_ne_nil c)
  refine ⟨u, by simp [title, titleChars, hstem, hupper], not_isBlank_of_mem_upperChar hc ?_⟩
  rw [hupper]
  exact List.mem_cons_self

/-- The word for a handler is taken off once, in the case in which it is written back. -/
theorem stripSuffix_handlers (base : String) :
    stripSuffix "Handler" (stripSuffix "handler" (base ++ "Handler")) = base := by
  have hlower : stripSuffix "handler" (base ++ "Handler") = base ++ "Handler" := by
    refine stripSuffix_eq_iff.mpr (.inr ⟨rfl, Bool.eq_false_iff.mpr fun hend => ?_⟩)
    obtain ⟨front, hfront⟩ := endsWith_iff.mp hend
    have hlast := congrArg (fun s => s.toList.reverse.take 7) hfront
    simp only [String.toList_append, List.reverse_append] at hlast
    rw [List.take_append_of_le_length (by decide), List.take_append_of_le_length (by decide)]
      at hlast
    exact absurd hlast (by decide)
  rw [hlower]
  exact stripSuffix_eq_iff.mpr (.inl rfl)

/-- The name of a generated handler comes to the same name, whatever blanks are around it. -/
theorem baseName_withHandler (h : r.baseName = .ok base) {lead tail : String}
    (hlead : ∀ c ∈ lead.toList, isBlank c = true) (htail : ∀ c ∈ tail.toList, isBlank c = true) :
    (r.withHandler (lead ++ (base ++ "Handler") ++ tail)).baseName = .ok base := by
  obtain ⟨husable, rfl⟩ := baseName_eq_ok_iff.mp h
  have hstem : r.stem ≠ "" := fun hempty => stem_eq_empty_iff.mp hempty husable
  obtain ⟨first, hfirst, hsolid⟩ := head_title_stem hstem
  have hhead : ∃ c, (title r.stem ++ "Handler").toList.head? = some c ∧ isBlank c = false :=
    ⟨first, by rw [String.toList_append, List.head?_append, hfirst, Option.some_or], hsolid⟩
  have hlast : ∃ c, (title r.stem ++ "Handler").toList.getLast? = some c ∧ isBlank c = false := by
    refine ⟨'r', ?_, by decide⟩
    rw [String.toList_append, List.getLast?_append]
    rfl
  have hback : (r.withHandler (lead ++ (title r.stem ++ "Handler") ++ tail)).stem =
      title r.stem := by
    rw [stem, withHandler, trim_surrounded hlead htail hhead hlast, stripSuffix_handlers]
  have hagain : (r.withHandler (lead ++ (title r.stem ++ "Handler") ++ tail)).IsUsable := by
    refine Classical.byContradiction fun hnot => ?_
    have hempty := stem_eq_empty_iff.mpr hnot
    rw [hback] at hempty
    exact hstem (title_eq_empty_iff.mp hempty)
  rw [baseName_of_usable hagain, hback, title_title]

theorem baseName_ne_empty (h : r.baseName = .ok base) : base ≠ "" := by
  obtain ⟨husable, rfl⟩ := baseName_eq_ok_iff.mp h
  exact fun hempty => stem_eq_empty_iff.mp (title_eq_empty_iff.mp hempty) husable

end Route

/-! ## Plans -/

/-- A group with the same annotations, in which routes are as they were or written back. -/
structure Group.WrittenBack (group group' : Group) : Prop where
  annotations : group'.annotations = group.annotations
  routes : List.Forall₂ (fun r r' => r' = r ∨ r.WrittenBack r') group.routes group'.routes

namespace ApiSpec

/-- The specification with other groups. -/
def withGroups (s : ApiSpec) (groups : List Group) : ApiSpec :=
  { s with service := { s.service with groups := groups } }

/-- A route that is written back gives the files that it gave. -/
theorem routeTargets_writtenBack (s : ApiSpec) (g : Generator) (groups : List Group)
    {group group' : Group} (hgroup : group'.annotations = group.annotations) {r r' : Route}
    (h : r' = r ∨ r.WrittenBack r') :
    (s.withGroups groups).routeTargets g group' r' = s.routeTargets g group r := by
  obtain ⟨annotations, routes⟩ := group
  obtain ⟨annotations', routes'⟩ := group'
  obtain rfl : annotations' = annotations := hgroup
  rcases h with rfl | ⟨base, lead, tail, hbase, hlead, htail⟩
  · rfl
  · rw [routeTargets, routeTargets, Route.baseName_withHandler hbase hlead htail, hbase]
    rfl

theorem forall₂_routes (s : ApiSpec) {groups : List Group}
    (h : List.Forall₂ Group.WrittenBack s.service.groups groups) :
    List.Forall₂ (fun pair pair' : Group × Route => pair'.1.annotations = pair.1.annotations ∧
      (pair'.2 = pair.2 ∨ pair.2.WrittenBack pair'.2)) s.routes (s.withGroups groups).routes := by
  refine List.rel_flatMap h fun group group' hgroup => ?_
  rw [List.forall₂_map_left_iff, List.forall₂_map_right_iff]
  exact hgroup.routes.imp fun r r' hr => ⟨hgroup.annotations, hr⟩

theorem targets_writtenBack (s : ApiSpec) (g : Generator) {groups : List Group}
    (h : List.Forall₂ Group.WrittenBack s.service.groups groups) :
    (s.withGroups groups).targets g = s.targets g := by
  have heach : (s.withGroups groups).routes.map
        (fun (group, r) => (s.withGroups groups).routeTargets g group r) =
      s.routes.map fun (group, r) => s.routeTargets g group r :=
    map_of_forall₂ (s.forall₂_routes h) fun pair pair' hpair =>
      s.routeTargets_writtenBack g groups hpair.1 hpair.2
  have hall := congrArg (fun results => results.mapM id) heach
  rw [List.mapM_map, List.mapM_map, Function.id_comp, Function.id_comp] at hall
  unfold targets
  rw [hall]

end ApiSpec

/-- The name of the handler that is generated for a route is a fixed point: written into the
route, with blanks around it or without, it comes to the same base again, and a specification in
which any of the routes are written back has the plan that it had, for every generator. -/
theorem handler_names_fixed :
    (∀ (r : Route) (base : String), r.baseName = .ok base →
      base ≠ "" ∧
      (∀ (s : ApiSpec) (g : Generator) (group : Group),
        (s.handlerTarget g group r base).context.get? "handler_name" =
          some (.text (base ++ "Handler"))) ∧
      ∀ lead tail : String, (∀ c ∈ lead.toList, isBlank c = true) →
        (∀ c ∈ tail.toList, isBlank c = true) →
        (r.withHandler (lead ++ (base ++ "Handler") ++ tail)).baseName = .ok base) ∧
    ∀ (s : ApiSpec) (groups : List Group),
      List.Forall₂ Group.WrittenBack s.service.groups groups →
      ∀ g : Generator, (s.withGroups groups).backend.plan g = s.backend.plan g := by
  refine ⟨fun r base h => ⟨Route.baseName_ne_empty h, fun s g group => ?_, ?_⟩, ?_⟩
  · exact Context.get?_ofList (by simp) "handler_name"
  · exact fun lead tail hlead htail => Route.baseName_withHandler h hlead htail
  · intro s groups h g
    change Action.ofExcept ((s.withGroups groups).targets g) = Action.ofExcept (s.targets g)
    rw [s.targets_writtenBack g h]

/-- A handler with the word for one twice at its end, in either case, and blanks around it. -/
def ApiSpec.ping : Route := ⟨"get", "/ping", " pingHandlerhandler\n", none, none, .empty⟩

theorem handler_names_fixed_login :
    ApiSpec.login.baseName = .ok "Login" ∧ ApiSpec.ping.baseName = .ok "Ping" ∧
    (ApiSpec.login.withHandler ("\t" ++ ("Login" ++ "Handler") ++ " ")).baseName = .ok "Login" ∧
    (ApiSpec.ping.withHandler ("" ++ ("Ping" ++ "Handler") ++ "")).baseName = .ok "Ping" ∧
    (ApiSpec.portal.withGroups [{ ApiSpec.admins with
      routes := [ApiSpec.login.withHandler ("\t" ++ ("Login" ++ "Handler") ++ " ")] }]).backend.plan
        Generator.plain = ApiSpec.portal.backend.plan Generator.plain := by
  have hlogin : ApiSpec.login.baseName = .ok "Login" := by decide
  have hping : ApiSpec.ping.baseName = .ok "Ping" := by decide
  have hback : ApiSpec.login.WrittenBack
      (ApiSpec.login.withHandler ("\t" ++ ("Login" ++ "Handler") ++ " ")) :=
    .handler "Login" "\t" " " hlogin (by simp [isBlank]) (by simp [isBlank])
  refine ⟨hlogin, hping, ?_, ?_, ?_⟩
  · exact (handler_names_fixed.1 _ _ hlogin).2.2 _ _ (by simp [isBlank]) (by simp [isBlank])
  · exact (handler_names_fixed.1 _ _ hping).2.2 _ _ (by simp) (by simp)
  · exact handler_names_fixed.2 _ _ (.cons ⟨rfl, .cons (.inr hback) .nil⟩ .nil) _

end Scaffold
