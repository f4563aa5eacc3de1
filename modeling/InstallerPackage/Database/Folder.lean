import Std.Data.TreeMap

/-!
# Folders

The folders of an installation form a forest: a table names the parent of every folder. `Folder.resolve`
finds the path of a folder:

* it climbs from parent to parent, up to a folder without a parent, one that is its own parent, one that
  the table does not have, or one whose path is known already;
* it then comes down again and joins the names on the way.

The table may contain cycles. Where a climb meets a folder for the second time, the folder is taken
for a root, and those of the cycle are left out. Paths that were found are kept in a cache, which
belongs to one pass over the folders.
-/

namespace InstallerPackage

/-- A row of the table of folders. -/
structure Folder where
  parent : String
  name : String
  deriving DecidableEq, Repr

namespace Folder

/-- The folders by key. -/
abbrev Map := Std.TreeMap String Folder

/-- The paths that are known already, by key. -/
abbrev Cache := Std.TreeMap String String

/-- A name appended to a path. The separator between them is left out after an empty path and where
the path ends with one. -/
def join (separator parent name : String) : String :=
  if parent = "" ∨ separator.toList.isSuffixOf parent.toList then parent ++ name
  else parent ++ separator ++ name

/-- The name of a folder, or nothing if the table does not have it. -/
def nameOf (folders : Map) (key : String) : String := (folders[key]?.map Folder.name).getD ""

/-- Where a climb ended. -/
structure Summit where
  /-- The folders below, those nearest to the end first. -/
  below : List String
  /-- The path at the end. -/
  path : String
  cache : Cache

/-- Climbs from a folder; `below` are the folders it has come through, the last one first. -/
def climb (folders : Map) (cache : Cache) :
    (steps : Nat) → (below : List String) → (key : String) → Summit
  | 0, below, key => ⟨below, key, cache⟩
  | steps + 1, below, key =>
    match cache[key]? with
    -- what was looked up before is not climbed again
    | some path => ⟨below, path, cache⟩
    | none =>
      match folders[key]? with
      -- a key without a row stands for itself, and is not remembered
      | none => ⟨below, key, cache⟩
      | some folder =>
        if below.contains key then
          -- the folder was met before: what was climbed since belongs to a cycle
          ⟨(below.dropWhile (· ≠ key)).drop 1, folder.name, cache.insert key folder.name⟩
        else if folder.parent = "" ∨ folder.parent = key then
          ⟨below, folder.name, cache.insert key folder.name⟩
        else climb folders cache steps (key :: below) folder.parent

/-- The path of a folder and the paths known afterwards. Every step of the climb but the last one
meets another folder, so it needs at most one step more than there are folders. -/
def resolve (folders : Map) (separator key : String) (cache : Cache) : String × Cache :=
  let summit := climb folders cache (folders.size + 1) [] key
  summit.below.foldl
    (fun (path, cache) key =>
      let path := join separator path (nameOf folders key)
      (path, cache.insert key path))
    (summit.path, summit.cache)

end Folder

end InstallerPackage
