import ActionDispatch.Settings.FileTree

/-!
# The usual file tree

The places that programs rely on in any system of the usual kind. Nothing is known of what the files hold,
so they count as empty.
-/

namespace ActionDispatch

namespace FileTree

/-- The file tree with these entries below the root, which are given by their paths. A place without a
known name is a directory, and relative paths start two levels below the root. -/
def ofEntries (entries : List (String × FileEntry)) : FileTree where
  entry? place :=
    match place.getLast? with
    | none | some "" => some (.directory true)
    | some _ => (entries.find? fun entry => entry.1.splitOn "/" = place).map Prod.snd
  start := ["", ""]

def usual : FileTree :=
  let directories := ["dev", "etc", "tmp", "usr", "usr/bin", "var"]
  let files := ["dev/console", "dev/full", "dev/null", "dev/random", "dev/tty", "dev/urandom", "dev/zero",
    "etc/group", "etc/hosts", "etc/passwd", "usr/bin/env", "usr/bin/sh"]
  ofEntries (directories.map (·, .directory true) ++ files.map (·, .file .empty) ++
    [("bin", .link "usr/bin")])

end FileTree

end ActionDispatch
