/-!
# Paths of files

* `joinPath`: the path of a name within a directory.
-/

namespace SearchKit

/-- The path of a name within a directory.  A name that starts at the root is a path of its own. -/
def joinPath (directory name : String) : String :=
  if name.toList.head? == some '/' then name
  else if directory.isEmpty || directory.toList.getLast? == some '/' then directory ++ name
  else directory ++ "/" ++ name

end SearchKit
