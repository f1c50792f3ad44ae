/-!
# Paths

A path is a text of names with points between them.  Every point separates, so a path may have empty
names, and it always has at least one name.
-/

namespace Stencil.Path

def names (path : String) : List String :=
  (path.toList.splitOn '.').map String.ofList

end Stencil.Path
