import Scaffold.Proofs.Generation.Supplies
import Scaffold.Proofs.Text.Words

/-!
# Names with a word at the end

Words never reach across a separator, so a name with a word put behind it has its own
words and then that one. The types of remote methods end in `Logic` for that reason, and
the files of tables in `model`, whatever the method or the table is called.
-/

namespace Scaffold

open Text

theorem RpcMethod.logicName_eq (m : RpcMethod) : m.logicName = camelCase m.name ++ "Logic" := by
  have hlast : camelCase "logic" = "Logic" := by decide
  have hparts : camelCase (m.name ++ "_logic") = camelCase m.name ++ camelCase "logic" :=
    camelCase_append rfl
  rw [logicName, hparts, hlast]

/-- The words of a text with a separator in it are those in front of the separator and then
those behind it, and its camel case is made up in the same way. So the type of a method is
its camel case and `Logic`, wherever a context names it, and the file of a table is called
by its words and `model`, in the style of the files. -/
theorem words_part_at_separators :
    (∀ (a b : String) (sep : Char), isWordSeparator sep = true →
      splitWords (a ++ String.singleton sep ++ b) = splitWords a ++ splitWords b ∧
        camelCase (a ++ String.singleton sep ++ b) = camelCase a ++ camelCase b) ∧
    (∀ (s : RpcSpec) (g : Generator) (m : RpcMethod) (functions : String),
      (s.logicTarget g m functions).context.get? "logic_name" =
          some (.text (camelCase m.name ++ "Logic")) ∧
        (s.functionContext m).get? "logic_name" =
          some (.text (camelCase m.name ++ "Logic"))) ∧
    (∀ (s : ModelSpec) (g : Generator) (t : Table) (imports : String),
      (s.tableTarget g t imports).filename =
        g.style.lead ++ g.style.joined (splitWords t.name ++ ["model"]) ++ g.style.tail ++
          ".go") := by
  refine ⟨fun a b sep hsep => ?_, fun s g m functions => ?_, fun s g t imports => ?_⟩
  · have hlast : (String.singleton sep ++ b).toList = sep :: b.toList := by simp
    rw [String.append_assoc]
    exact ⟨splitWords_append_separator hsep hlast, camelCase_append_separator hsep hlast⟩
  · rw [RpcSpec.logicTarget, RpcSpec.functionContext, Context.get?_ofList (by simp),
      Context.get?_ofList (by simp), m.logicName_eq]
    exact ⟨rfl, rfl⟩
  · have hwords : splitWords (t.name ++ "_model") = splitWords t.name ++ ["model"] :=
      splitWords_append (b := "model") rfl
    rw [ModelSpec.tableTarget, Generator.fileName, NamingStyle.format, hwords]

theorem words_part_at_hyphen : isWordSeparator '-' = true ∧
    splitWords "getHTTP-v2Api" = splitWords "getHTTP" ++ splitWords "v2Api" ∧
    camelCase "getHTTP-v2Api" = "GetHttp" ++ "V2Api" := by
  obtain ⟨hwords, hcamel⟩ := words_part_at_separators.1 "getHTTP" "v2Api" '-' (by decide)
  exact ⟨by decide, hwords, hcamel.trans (by decide)⟩

end Scaffold
