import InstallerPackage.Database.Folder
import InstallerPackage.Text.Integer

/-!
# The manifest

The manifest lists the files that a package installs. It joins three tables: every file belongs to a
component, every component to a folder.

* `Manifest.folders` and `Manifest.componentFolders` read the tables of folders and components; of
  several rows for one key the last one counts, and rows without a key are ignored.
* `Manifest.files` lists the files in the order of their rows.
-/

namespace InstallerPackage

/-- A file that a package installs. -/
structure InstalledFile where
  name : String
  /-- The path of the folder it goes to. -/
  folder : String
  component : String
  size : Int
  version : String
  deriving DecidableEq, Repr

namespace Manifest

/-- The long form of a name: what follows the first bar, if anything does. -/
def longName (name : String) : String :=
  match name.toList.dropWhile (· ≠ '|') with
  | _ :: c :: rest => String.ofList (c :: rest)
  | _ => name

/-- The folders in the rows of their table. -/
def folders (rows : List (List String)) : Folder.Map :=
  rows.foldl
    (fun map row =>
      match row with
      | key :: parent :: name :: _ =>
        if key = "" then map else map.insert key ⟨parent, longName name⟩
      | _ => map)
    ∅

/-- The folder of every component in the rows of their table. -/
def componentFolders (rows : List (List String)) : Std.TreeMap String String :=
  rows.foldl
    (fun map row =>
      match row with
      | key :: _ :: folder :: _ => if key = "" then map else map.insert key folder
      | _ => map)
    ∅

/-- How paths are written. -/
structure Style where
  /-- Stands between the folders of a path. -/
  separator : String := "\\"
  /-- Stands for the folder of a file whose component is not known. -/
  orphan : String := "<Orphaned>"
  deriving DecidableEq, Repr

/-- The folder of a component's files, and the paths known afterwards. -/
def locate (style : Style) (folders : Folder.Map) (components : Std.TreeMap String String)
    (component : String) (cache : Folder.Cache) : String × Folder.Cache :=
  match components[component]? with
  | some key => Folder.resolve folders style.separator key cache
  | none => (style.orphan, cache)

/-- The files in the rows of their table. Rows of fewer than five cells are ignored; a size that is no
number counts as zero. -/
def filesFrom (style : Style) (folders : Folder.Map) (components : Std.TreeMap String String) :
    Folder.Cache → List (List String) → List InstalledFile
  | _, [] => []
  | cache, (_ :: component :: name :: size :: version :: _) :: rest =>
    -- the cache goes on from row to row
    let (folder, cache) := locate style folders components component cache
    ⟨longName name, folder, component, (Integer.parse? size).getD 0, version⟩ ::
      filesFrom style folders components cache rest
  | cache, _ :: rest => filesFrom style folders components cache rest

/-- The manifest made of the rows of the three tables. -/
def files (style : Style) (folderRows componentRows fileRows : List (List String)) :
    List InstalledFile :=
  filesFrom style (folders folderRows) (componentFolders componentRows) ∅ fileRows

end Manifest

end InstallerPackage
