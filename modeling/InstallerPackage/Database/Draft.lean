import InstallerPackage.Container.Name
import InstallerPackage.Database.Row

/-!
# Writing a database

A `Draft` is a database to be written: tables with typed columns and rows of cells. `Draft.streams` are
the streams that hold it, by name:

* `Draft.strings` is the string pool, every text once, in the order in which tables, columns and cells
  mention it;
* `Draft.poolBytes` and `Draft.textBytes` are its two streams. The lengths go to either word of the
  pool's records, and the other word is 1;
* `Draft.columnsBytes` is the list of columns, `DraftTable.bytes` are the cells of a table, column by
  column.
-/

namespace InstallerPackage

/-- A cell to be written. -/
inductive Cell where
  | number (n : Nat)
  | text (s : String)
  deriving DecidableEq, Repr

/-- A column to be written. -/
structure DraftColumn where
  name : String
  /-- The packed type. -/
  packed : Nat
  deriving DecidableEq, Repr

/-- Does the column hold texts? -/
def DraftColumn.isString (c : DraftColumn) : Bool := c.packed.testBit 11

/-- Does the column hold numbers of two bytes? -/
def DraftColumn.isShort (c : DraftColumn) : Bool := c.packed % 0x10 == 2

/-- Does a cell fit into a column? -/
def DraftColumn.Fits (c : DraftColumn) : Cell → Prop
  | .number n => ¬ c.isString ∧ n < if c.isShort then 0x8000 else 0x80000000
  | .text _ => c.isString

instance (c : DraftColumn) (x : Cell) : Decidable (c.Fits x) :=
  match x with
  | .number n => inferInstanceAs (Decidable (¬ c.isString ∧ n < if c.isShort then 0x8000 else 0x80000000))
  | .text _ => inferInstanceAs (Decidable (c.isString = true))

/-- A table to be written. -/
structure DraftTable where
  name : String
  columns : List DraftColumn
  rows : List (List Cell)
  deriving DecidableEq, Repr

/-- A database to be written. -/
abbrev Draft := List DraftTable

namespace Cell

/-- The text of a cell. -/
def texts : Cell → List String
  | number _ => []
  | text s => [s]

/-- What reading the cell gives. -/
def shown : Cell → String
  | number n => toString n
  | text s => s

end Cell

namespace DraftTable

/-- The texts that a table mentions, in order. -/
def texts (t : DraftTable) : List String :=
  t.name :: t.columns.map DraftColumn.name ++ t.rows.flatMap fun row => row.flatMap Cell.texts

end DraftTable

namespace Draft

/-- The string pool. The empty text comes first, mentioned or not. -/
def strings (d : Draft) : List String := ("" :: d.flatMap DraftTable.texts).eraseDups

/-- The position of a text in the pool. -/
def indexOf (d : Draft) (s : String) : Nat := d.strings.idxOf s

/-- The bytes of a text in Latin-1. -/
def latin1 (s : String) : List UInt8 := s.toList.map fun c => UInt8.ofNat c.toNat

/-- A record of the pool. -/
def poolRecord (word : LengthWord) (s : String) : List UInt8 :=
  match word with
  | .low => Bytes.little 2 (latin1 s).length ++ Bytes.little 2 1
  | .high => Bytes.little 2 1 ++ Bytes.little 2 (latin1 s).length

/-- The records of the pool; the first one is code page 0. -/
def poolBytes (d : Draft) (word : LengthWord) : List UInt8 :=
  Bytes.little 4 0 ++ d.strings.tail.flatMap (poolRecord word)

/-- The texts of the pool. -/
def textBytes (d : Draft) : List UInt8 := d.strings.tail.flatMap latin1

/-- The rows of the list of columns. -/
def columnRows (d : Draft) : List Schema.Row :=
  d.flatMap fun t => t.columns.mapIdx fun i c => ⟨t.name, i + 1, c.name, c.packed⟩

/-- The list of columns, for references of `width` bytes. Positions and types have their top bit
set. -/
def columnsBytes (d : Draft) (width : Nat) : List UInt8 :=
  let rows := d.columnRows
  rows.flatMap (fun r => Bytes.little width (d.indexOf r.table)) ++
    rows.flatMap (fun r => Bytes.little 2 (r.position ||| 0x8000)) ++
    rows.flatMap (fun r => Bytes.little width (d.indexOf r.name)) ++
    rows.flatMap (fun r => Bytes.little 2 (r.packed ||| 0x8000))

/-- A cell of a column. Numbers have their top bit set. -/
def cellBytes (d : Draft) (width : Nat) (c : DraftColumn) : Cell → List UInt8
  | .text s => Bytes.little width (d.indexOf s)
  | .number n =>
    if c.isShort then Bytes.little 2 (n ||| 0x8000) else Bytes.little 4 (n ||| 0x80000000)

/-- The cells of a table, column by column. -/
def tableBytes (d : Draft) (width : Nat) (t : DraftTable) : List UInt8 :=
  (t.columns.mapIdx fun i c =>
    t.rows.flatMap fun row => row[i]?.toList.flatMap (d.cellBytes width c)).flatten

/-- The streams that hold the database, by readable name. -/
def streams (d : Draft) (word : LengthWord) (width : Nat) : List (Name × List UInt8) :=
  d.map (fun t => (Name.ofString ("!" ++ t.name), d.tableBytes width t)) ++
    [(Name.ofString "!_Columns", d.columnsBytes width),
      (Name.ofString "!_StringPool", d.poolBytes word),
      (Name.ofString "!_StringData", d.textBytes)]

end Draft

end InstallerPackage
