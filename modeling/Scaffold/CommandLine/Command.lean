import Scaffold.Catalog.Category
import Scaffold.Path

/-!
# Commands

What the command line can ask for: to generate files from a specification, or to
look after the custom templates.
-/

namespace Scaffold

/-- What a generating command says besides its specification. -/
structure GenerateOptions where
  dir : Path
  style : Option String
  home : Option Path
  config : Option Path
  deriving DecidableEq, Repr

/-- What to generate from. -/
inductive Subject where
  | api (spec : Path)
  | rpc (spec : Path)
  | model (spec : Path)
  | manifest (spec : Path)
  /-- The types are added to those of the specification, if there is one. -/
  | mongo (spec : Option Path) (types : List String) (cache : Bool)
  deriving DecidableEq, Repr

/-- What to do with the custom templates. -/
inductive Upkeep where
  | init (category : Option Category)
  | clean (category : Option Category)
  | update (category : Category)
  | revert (key : TemplateKey)
  | list (category : Option Category)
  deriving DecidableEq, Repr

inductive Command where
  | generate (subject : Subject) (options : GenerateOptions)
  | upkeep (home : Option Path) (task : Upkeep)
  deriving DecidableEq, Repr

end Scaffold
