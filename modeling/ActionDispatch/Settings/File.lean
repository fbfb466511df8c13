import ActionDispatch.Settings.Document
import ActionDispatch.Settings.FileTree

/-!
# Settings files

A settings file is a settings document in a file. Reading can fail before there is any text: then the
message names the file and the reason.
-/

namespace ActionDispatch

/-- The settings that a file gives; `path` is how messages name it. -/
def Settings.ofNode (path : String) (node : Except ReadFault FileNode) : Answer Settings :=
  match node >>= FileNode.text with
  | .ok text => Settings.ofText text
  | .error fault => .error (.config ("Cannot read " ++ path ++ ": " ++ fault.reason))

def Settings.ofFile (tree : FileTree) (path : String) : Answer Settings :=
  Settings.ofNode path (tree.lookup path)

end ActionDispatch
