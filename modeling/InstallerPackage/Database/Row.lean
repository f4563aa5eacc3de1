import InstallerPackage.Database.Schema

/-!
# Rows

The stream of a table holds its cells column by column: all cells of the first column, then all cells
of the second one, and so on. `Table.blocks` says where the cells of every column begin, `Table.cell`
reads one of them as text, and `Table.rows` puts the cells of a row side by side.

Integers are stored with their top bit set, which is masked out; texts are references into the
string pool.
-/

namespace InstallerPackage

/-- The cells of a column, from `start` on. -/
structure Block where
  column : Column
  start : Nat
  deriving DecidableEq, Repr

/-- The place of the cell in row `i`. -/
def Block.cellStart (b : Block) (i : Nat) : Nat := b.start + i * b.column.size

namespace Table

/-- Stands for a cell that lies outside of the stream. -/
def corrupt : String := "<Corrupt>"

/-- What remains of an integer cell without its top bit. -/
def mask (size value : Nat) : Nat := if size = 2 then value % 0x8000 else value % 0x80000000

/-- The text of the cell of a column at `offset`, when references have `width` bytes. -/
def cell (raw : ByteArray) (strings : Array String) (width : Nat) (c : Column) (offset : Nat) :
    String :=
  if raw.size < offset + c.size then corrupt
  else if c.size = 0 then ""
  else match c.kind with
    | .integer => toString (mask c.size (Bytes.number raw offset c.size))
    | .string => StringPool.get strings (Bytes.number raw offset width)

/-- The blocks of the given columns, `n` cells each, one after the other from `start` on. -/
def blocks (n : Nat) : (start : Nat) → List Column → List Block
  | _, [] => []
  | start, c :: rest => ⟨c, start⟩ :: blocks n (start + c.size * n) rest

/-- The number of whole rows in a stream of `size` bytes. -/
def rowCount (t : Table) (size : Nat) : Nat := if t.rowSize = 0 then 0 else size / t.rowSize

/-- The rows in the stream of a table. -/
def rows (t : Table) (raw : ByteArray) (strings : Array String) (width : Nat) :
    List (List String) :=
  let n := t.rowCount raw.size
  let blocks := blocks n 0 t.columns
  (List.range n).map fun i => blocks.map fun b => cell raw strings width b.column (b.cellStart i)

/-- A row as pairs of a column's name and a cell. Columns without a name are left out; a name that
is repeated keeps its first place and gets its last cell. -/
def labelled (columns : List Column) (row : List String) : List (String × String) :=
  (columns.zip row).foldl
    (fun pairs (c, value) =>
      if c.name = "" then pairs
      -- the later of two cells of one name stays where the first one was
      else if pairs.any (·.1 = c.name) then
        pairs.map fun pair => if pair.1 = c.name then (c.name, value) else pair
      else pairs ++ [(c.name, value)])
    []

@[simp] theorem length_blocks (n start : Nat) (columns : List Column) :
    (blocks n start columns).length = columns.length := by
  induction columns generalizing start with
  | nil => rfl
  | cons c rest ih => simp [blocks, ih]

@[simp] theorem length_rows (t : Table) (raw : ByteArray) (strings : Array String) (width : Nat) :
    (t.rows raw strings width).length = t.rowCount raw.size := by
  simp [rows]

/-- Every row has a cell for every column. -/
theorem length_of_mem_rows {t : Table} {raw : ByteArray} {strings : Array String} {width : Nat}
    {row : List String} (h : row ∈ t.rows raw strings width) : row.length = t.columns.length := by
  simp only [rows, List.mem_map] at h
  obtain ⟨i, -, rfl⟩ := h
  simp

end Table

end InstallerPackage
