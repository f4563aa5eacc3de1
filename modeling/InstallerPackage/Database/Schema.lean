import InstallerPackage.Database.StringPool

/-!
# Columns and tables

One stream lists the columns of all tables, in four blocks: the table of every column, its position,
its name and its type. Texts are references into the string pool, of two or three bytes each.

* `Schema.referenceWidth` tells the width of a reference from the size of that stream.
* `Column.ofType` unpacks a type.
* `Schema.read` collects the tables, in the order in which they are met. A position that no
  row describes is filled with a column of width zero, and a position that is described twice has its
  last description.
-/

namespace InstallerPackage

/-- What a column holds. -/
inductive ColumnKind where
  | integer
  | string
  deriving DecidableEq, Repr

/-- A column of a table. -/
structure Column where
  name : String := ""
  kind : ColumnKind := .integer
  /-- The bytes of a cell. -/
  size : Nat := 0
  /-- The bytes of a cell of an integer column, 0 for the others. -/
  intSize : Nat := 0
  /-- The size that the type declares. -/
  declaredSize : Nat := 0
  nullable : Bool := false
  key : Bool := false
  localizable : Bool := false
  deriving DecidableEq, Repr

namespace Column

/-- Fills a position that is not described. -/
def placeholder : Column := {}

/-- The column that a packed type describes, before its width is known. -/
def ofType (name : String) (packed : Nat) : Column :=
  let declared : Column :=
    { name := name
      declaredSize := packed % 0x100
      nullable := packed.testBit 12
      key := packed.testBit 13
      localizable := packed.testBit 9 }
  -- the low byte is the size of a text; for an integer only its low nibble tells the size
  if packed.testBit 11 then { declared with kind := .string }
  else { declared with kind := .integer, intSize := if packed % 0x10 = 2 then 2 else 4 }

/-- The column with its width, when references have `width` bytes. -/
def sized (width : Nat) (c : Column) : Column :=
  { c with size := match c.kind with
      | .string => width
      | .integer => c.intSize }

end Column

/-- A table. -/
structure Table where
  name : String
  columns : List Column
  /-- The bytes of a row. -/
  rowSize : Nat
  deriving DecidableEq, Repr

namespace Table

/-- The bytes that cells of some columns take together. -/
def widthOf (columns : List Column) : Nat := (columns.map Column.size).foldr (· + ·) 0

/-- The columns with one of them replaced; positions begin at 1, and those in between are filled. -/
def place (columns : List Column) (position : Nat) (c : Column) : List Column :=
  (columns ++ List.replicate (position - columns.length) Column.placeholder).set (position - 1) c

theorem length_place (columns : List Column) (position : Nat) (c : Column) :
    (place columns position c).length = max columns.length position := by
  simp only [place, List.length_set, List.length_append, List.length_replicate]
  omega

/-- The table with the widths of its columns. -/
def sized (width : Nat) (t : Table) : Table :=
  let columns := t.columns.map (Column.sized width)
  { t with columns := columns, rowSize := widthOf columns }

end Table

namespace Schema

/-- The strings above which references tend to have three bytes. -/
def largePool : Nat := 65536

/-- The greatest position of a column. -/
def maxColumns : Nat := 255

/-- The bytes of a reference. A row of the list of columns has twice as many and four more, so the
size of the list tells; where it does not, the number of strings decides. -/
def referenceWidth (listSize stringCount : Nat) : Nat :=
  let byTen := listSize % 10 == 0
  let byEight := listSize % 8 == 0
  if byTen && ! byEight then 3
  else if byEight && ! byTen then 2
  else if largePool < stringCount then 3 else 2

/-- A row of the list of columns. -/
structure Row where
  table : String
  position : Nat
  name : String
  packed : Nat
  deriving DecidableEq, Repr

/-- The number of rows in a list of columns. -/
def rowCount (raw : ByteArray) (width : Nat) : Nat := raw.size / (2 * width + 4)

/-- A row of the list of columns. -/
def row (raw : ByteArray) (strings : Array String) (width i : Nat) : Row :=
  let n := rowCount raw width
  -- the four blocks follow each other without a gap
  let positions := n * width
  let names := positions + n * 2
  let types := names + n * width
  { table := StringPool.get strings (Bytes.number raw (i * width) width)
    position := Bytes.number raw (positions + i * 2) 2 % 0x8000
    name := StringPool.get strings (Bytes.number raw (names + i * width) width)
    packed := Bytes.number raw (types + i * 2) 2 }

/-- Does a row describe a column of a table? -/
def Row.isValid (r : Row) : Bool :=
  r.table != "" && r.table != StringPool.missing && 0 < r.position && r.position ≤ maxColumns

/-- The tables with one more row taken in. -/
def insert (r : Row) : List Table → List Table
  | [] => [⟨r.table, Table.place [] r.position (.ofType r.name r.packed), 0⟩]
  | t :: rest =>
    if t.name = r.table then
      { t with columns := Table.place t.columns r.position (.ofType r.name r.packed) } :: rest
    else t :: insert r rest

/-- The rows of a list of columns that describe a column. -/
def rows (raw : ByteArray) (strings : Array String) (width : Nat) : List Row :=
  ((List.range (rowCount raw width)).map (row raw strings width)).filter Row.isValid

/-- The tables that a list of columns describes. -/
def read (raw : ByteArray) (strings : Array String) (width : Nat) : List Table :=
  ((rows raw strings width).foldl (fun tables r => insert r tables) []).map (Table.sized width)

/-- The table with a name. -/
def find? (tables : List Table) (name : String) : Option Table := tables.find? (·.name = name)

end Schema

end InstallerPackage
