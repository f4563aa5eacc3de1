import InstallerPackage.Container.Zone
import InstallerPackage.Database
import InstallerPackage.Summary

/-!
# Installer packages

A package is a compound file with summary information and, usually, an installer database.
`Package.load` opens one; only the compound file can make it fail. What was read stays available in the
fields of `Package`, and `Package.openStream?` reads any other stream of the file.
-/

namespace InstallerPackage

/-- The number of rows that a table announces. -/
structure TableEntry where
  name : String
  rowCount : Nat
  deriving DecidableEq, Repr

/-- An open package. -/
structure Package where
  container : Container
  summary : Summary
  database : Database
  /-- The tables in the order of the schema. -/
  tables : List TableEntry
  files : List InstalledFile
  zones : List Zone

namespace Package

/-- What the name of the stream of summary information contains. -/
def summaryFragment : Name := Name.ofString "SummaryInformation"

/-- The summary information of a file. -/
def loadSummary (c : Container) : Noted Summary :=
  let unknown : Summary := { totalSize := c.volume.bytes.size }
  match c.directory.findContaining? summaryFragment with
  | none => pure unknown
  | some record => do
    let bytes ← c.volume.readRecord record
    Summary.apply bytes unknown

/-- Opens a package. -/
def load (b : ByteArray) (style : Manifest.Style) : Attempt Package := do
  let c ← Container.load b
  let summary ← Attempt.ofNoted (loadSummary c)
  let zones := Zone.map c.volume c.header.slots c.header.directoryStart
  match ← Attempt.ofNoted (Database.loadPool c) with
  -- without a string pool this is a compound file, but not an installer database
  | none => pure ⟨c, summary, {}, [], [], zones⟩
  | some pool =>
    let db ← Attempt.ofNoted (Database.loadTables c pool)
    let tables := db.tables.map fun t => ⟨t.name, Database.rowCount c t⟩
    let files ← Attempt.ofNoted (db.manifest c style)
    pure ⟨c, summary, db, tables, files, zones⟩

/-- The records of the file's directory. -/
def records (p : Package) : Array Record := p.container.directory.records

/-- The bytes of the stream that a path leads to, if it leads anywhere. -/
def openStream? (p : Package) (path : Name) : Option (Noted ByteArray) :=
  (p.container.root.find? path).map fun node => p.container.volume.readRecord node.record

/-- The rows of a table. -/
def readTable (p : Package) (name : String) : Noted (List (List String)) :=
  p.database.readTable p.container name

/-- The rows of a table, with every cell labelled by its column. -/
def readLabelled (p : Package) (name : String) : Noted (List (List (String × String))) :=
  p.database.readLabelled p.container name

/-- The table with a name. -/
def table? (p : Package) (name : String) : Option Table := p.database.table? name

end Package

end InstallerPackage
