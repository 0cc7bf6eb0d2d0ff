import Scaffold.Text.Cut

/-!
# Layout of a generated service

The directories that the files of a service lie in, below its module.
-/

namespace Scaffold.Layout

open Text

def handlers : String := "internal/handler"

def logic : String := "internal/logic"

/-- The package that handlers and logic get their dependencies from. -/
def dependencies : String := "internal/svc"

/-- The package of the types of requests and responses. -/
def types : String := "internal/types"

def settings : String := "etc"

/-- The package in a directory: its last folder. -/
def packageOf (dir : String) : String := ((splitOn '/' dir).getLast?).getD dir

end Scaffold.Layout
