import TypeProjection.Path

/-!
Which changes start a round of watching: those of source files, outside of folders that tools keep
for themselves and other than the files that editors leave while they write.
-/

namespace TypeProjection.Command

/-- Folders that tools keep for themselves. -/
def ignoredFolders : List String :=
  ["__pycache__", ".git", ".hg", ".svn", ".tox", ".venv", ".idea", "node_modules",
    ".mypy_cache", ".pytest_cache", ".hypothesis"]

/-- Does a text end with another? -/
def endsWith (s ending : String) : Bool :=
  Text.startsWith s.toList.reverse ending.toList.reverse

/-- Does a text start with another? -/
def beginsWith (s start : String) : Bool := Text.startsWith s.toList start.toList

/-- Is the file one that a tool leaves next to a source file while it is edited or checked? -/
def isTemporary (name : String) : Bool := beginsWith name ".#" || beginsWith name "flycheck_"

/-- Does a change at a path start a round? -/
def isWatched (path : String) : Bool :=
  let names := (Path.ofText path).parts
  endsWith path ".py" && !names.any ignoredFolders.contains &&
    !((names.getLast?.map isTemporary).getD false)

end TypeProjection.Command
