import Scaffold.Proofs.Generation.LastWords
import Scaffold.Proofs.Generation.Qualifiers
import Scaffold.Proofs.Text.CamelCase

/-!
# Names in signatures

The function of a remote method refers to the method, its request and its response in camel
case. A name that is in camel case already is referred to as it stands exactly where all its
capitals but the first show where a word begins. Otherwise the ones that do not are lowered,
once and for all.
-/

namespace Scaffold

open Text

namespace RpcSpec

/-- The stream of a method with some name. -/
def streamText (s : RpcSpec) (package method : String) : String :=
  package ++ "." ++ (camelCase s.service.name ++ "_" ++ method ++ "Server")

/-- The name, the parameters and the results of the function of a method, when the method, its
request and its response have some names. -/
def signatureText (s : RpcSpec) (package : String) (m : RpcMethod)
    (method request response : String) : String :=
  method ++ "(" ++
    (if m.streamsRequest then "stream " ++ s.streamText package method
      else "in *" ++ (package ++ "." ++ request) ++
        if m.streams then ", stream " ++ s.streamText package method else "") ++
    ") (" ++ (if m.streams then "" else "*" ++ (package ++ "." ++ response) ++ ", ") ++ "error)"

theorem functionText_eq (s : RpcSpec) (package : String) (m : RpcMethod) :
    ∃ body, s.functionText package m = m.comment ++ "\nfunc (l *" ++ m.logicName ++ ") " ++
      s.signatureText package m (camelCase m.name) (camelCase m.requestType)
        (camelCase m.responseType) ++ " \x7b" ++ body := by
  refine ⟨"\n\t// todo: add your logic here and delete this line\n\n\treturn " ++
    (if m.streams then "" else "&" ++ (package ++ "." ++ camelCase m.responseType) ++
      "\x7b\x7d, ") ++ "nil\n\x7d\n", String.toList_inj.mp ?_⟩
  unfold functionText signatureText parametersText
  rw [show s.streamText package (camelCase m.name) = s.streamType package m from rfl]
  cases m.streamsRequest <;> cases m.streams <;> simp

end RpcSpec

/-- A name in the camel case that a name has, with capitals that show its words. -/
def IsShownCamel (name : String) : Prop :=
  (∃ written, camelCase written = name) ∧ ShowsWords name.toList

theorem IsShownCamel.camelCase_eq {name : String} (h : IsShownCamel name) :
    camelCase name = name := by
  obtain ⟨⟨written, rfl⟩, hshows⟩ := h
  exact (camelCase_camelCase_iff written).mpr hshows

/-- Camel case of a name in camel case lowers the capitals behind the first that begin no word and
changes nothing else, so it gives the name itself exactly where there are none, and from the
second time on it gives what it gave before. Names of a method and of its messages that are in camel
case and have no such capital stand unchanged in the signature that the builtin template gives
the function of the method. -/
theorem camel_case_lowers_unshown :
    (∀ name, Relowered (camelCase name).toList (camelCase (camelCase name)).toList ∧
      (camelCase (camelCase name) = camelCase name ↔ ShowsWords (camelCase name).toList) ∧
      camelCase (camelCase (camelCase name)) = camelCase (camelCase name)) ∧
    ∀ (s : RpcSpec) (g : Generator) (d : Disk), (∀ key : TemplateKey, key.isBuiltin = true →
        d.isFile (g.repository.pathOf key) = false) →
      ∀ m : RpcMethod, (∀ name ∈ [m.name, m.requestType, m.responseType], IsShownCamel name) →
        ∃ body, (g.renderFragment RpcSpec.functionKey (s.functionContext m) m.node).runOn d =
          (.ok (m.comment ++ "\nfunc (l *" ++ (m.name ++ "Logic") ++ ") " ++
            s.signatureText s.service.pbName m m.name m.requestType m.responseType ++
              " \x7b" ++ body), d) := by
  refine ⟨fun name => ⟨relowered_camelCase name, camelCase_camelCase_iff name,
    camelCase_camelCase_camelCase name⟩, fun s g d hfile m hnames => ?_⟩
  obtain ⟨hmethod, hrequest, hresponse, -⟩ :
      IsShownCamel m.name ∧ IsShownCamel m.requestType ∧ IsShownCamel m.responseType ∧ True := by
    simpa using hnames
  obtain ⟨body, hbody⟩ := s.functionText_eq s.service.pbName m
  rw [m.logicName_eq, hmethod.camelCase_eq, hrequest.camelCase_eq, hresponse.camelCase_eq] at hbody
  exact ⟨body, hbody ▸ s.renderFragment_function m hfile⟩

/-- A method whose names are in camel case already. -/
def RpcMethod.echo : RpcMethod := ⟨"GetHttpStatus", "StatusReq", "HttpStatus", false, false, none⟩

theorem camel_case_lowers_unshown_echo :
    (∀ key : TemplateKey, key.isBuiltin = true →
      Generator.blocked.isFile (Generator.plain.repository.pathOf key) = false) ∧
    (∀ name ∈ [RpcMethod.echo.name, RpcMethod.echo.requestType, RpcMethod.echo.responseType],
      IsShownCamel name) ∧
    ∃ body, (Generator.plain.renderFragment RpcSpec.functionKey
        (Generator.quiet.functionContext .echo) RpcMethod.echo.node).runOn Generator.blocked =
      (.ok (RpcMethod.echo.comment ++ "\nfunc (l *" ++ ("GetHttpStatus" ++ "Logic") ++ ") " ++
        Generator.quiet.signatureText Generator.quiet.service.pbName .echo "GetHttpStatus"
          "StatusReq" "HttpStatus" ++ " \x7b" ++ body), Generator.blocked) := by
  have hfile := Generator.uncustomized_blocked.noFile
  have hshown : ∀ name ∈ ["GetHttpStatus", "StatusReq", "HttpStatus"], IsShownCamel name := by
    intro name hname
    have hself : camelCase name = name := by
      revert name
      decide +kernel
    refine ⟨⟨name, hself⟩, ?_⟩
    have hshows := (camel_case_lowers_unshown.1 name).2.1.mp (by rw [hself, hself])
    rwa [hself] at hshows
  exact ⟨hfile, hshown, camel_case_lowers_unshown.2 _ _ _ hfile _ hshown⟩

/-- The camel case of `a_b` is an acronym of one word, and a method of that name is referred to
by another one. -/
theorem camel_case_lowers_acronym :
    camelCase "a_b" = "AB" ∧ camelCase (camelCase "a_b") = "Ab" ∧
    camelCase (camelCase "a_b") ≠ camelCase "a_b" ∧
    (Generator.quiet.functionContext ⟨"AB", "In", "Out", false, false, none⟩).get? "method" =
      some (.text "Ab") := by
  have hfirst : camelCase "a_b" = "AB" := by decide
  have hagain : camelCase "AB" = "Ab" := by decide
  have hmethod : (Generator.quiet.functionContext ⟨"AB", "In", "Out", false, false, none⟩).get?
      "method" = some (.text (camelCase "AB")) := Context.get?_ofList (by simp) "method"
  rw [hagain] at hmethod
  rw [hfirst, hagain]
  exact ⟨rfl, rfl, by decide, hmethod⟩

end Scaffold
