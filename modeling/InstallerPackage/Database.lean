import InstallerPackage.Container
import InstallerPackage.Database.Manifest
import InstallerPackage.Database.Row

/-!
# Opening the database of a package

The database of an installer package is spread over streams of a compound file. Their names begin with
an exclamation mark; `Database.load` reads, in this order, the string pool, the list of columns and the
three tables that make up the manifest. A file without a string pool is no installer database: it
has no tables and no files.

`Database.readTable` reads the rows of any table.
-/

namespace InstallerPackage

/-- The database of a package. -/
structure Database where
  pool : StringPool := .empty
  /-- The bytes of a reference into the string pool. -/
  referenceWidth : Nat := 2
  tables : List Table := []

namespace Database

/-- The name of the stream that holds the string pool's records. -/
def poolName : Name := Name.ofString "!_StringPool"

/-- The name of the stream that holds the texts. -/
def textName : Name := Name.ofString "!_StringData"

/-- The name of the stream that lists the columns. -/
def columnsName : Name := Name.ofString "!_Columns"

/-- The name of the stream that holds the rows of a table. -/
def streamName (table : String) : Name := Name.ofString ("!" ++ table)

/-- The first record of that name. -/
def find? (c : Container) (name : Name) : Option Record := c.directory.find? name

/-- The string pool of a file. -/
def loadPool (c : Container) : Noted (Option StringPool) :=
  match find? c poolName, find? c textName with
  | some poolRecord, some textRecord => do
    let pool ← c.volume.readRecord poolRecord
    let text ← c.volume.readRecord textRecord
    StringPool.read? pool text
  | _, _ => pure none

/-- The tables of a file, for a given string pool. -/
def loadTables (c : Container) (pool : StringPool) : Noted Database :=
  -- a stream without a size counts as no stream
  match (find? c columnsName).filter (·.size != 0) with
  | none => ⟨{ pool := pool }, [.noColumns]⟩
  | some record => do
    let width := Schema.referenceWidth record.size pool.strings.size
    let raw ← c.volume.readRecord record
    pure
      { pool := pool
        referenceWidth := width
        tables := Schema.read raw pool.strings width }

/-- The number of rows that the record of a table's stream announces. -/
def rowCount (c : Container) (t : Table) : Nat :=
  match find? c (streamName t.name) with
  | none => 0
  | some record => t.rowCount record.size

/-- The table with a name. -/
def table? (db : Database) (name : String) : Option Table := Schema.find? db.tables name

/-- The rows of a table; none if there is no such table, or no stream for it. -/
def readTable (db : Database) (c : Container) (name : String) : Noted (List (List String)) :=
  match db.table? name, find? c (streamName name) with
  | some table, some record => do
    let raw ← c.volume.readRecord record
    pure (table.rows raw db.pool.strings db.referenceWidth)
  | _, _ => pure []

/-- The rows of a table, with every cell labelled by its column. -/
def readLabelled (db : Database) (c : Container) (name : String) :
    Noted (List (List (String × String))) :=
  match db.table? name with
  | none => pure []
  | some table => do
    let rows ← db.readTable c name
    pure (rows.map (Table.labelled table.columns))

/-- The files that a package installs; none if there is no table of files. -/
def manifest (db : Database) (c : Container) (style : Manifest.Style) :
    Noted (List InstalledFile) :=
  match db.table? "File" with
  | none => pure []
  | some _ => do
    let folders ← db.readTable c "Directory"
    let components ← db.readTable c "Component"
    let files ← db.readTable c "File"
    pure (Manifest.files style folders components files)

end Database

end InstallerPackage
