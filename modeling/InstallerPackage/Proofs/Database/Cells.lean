import InstallerPackage.Proofs.Database.Rows

/-!
# Where the cells of a table stand

How many columns a table has and how wide they are is said by one stream of a file, and the cells
are in another one. Neither can be trusted, and yet no cell is ever cut short: `Schema.cells_tile`.
The cells of a table that was read from a list of columns lie side by side in its stream, without a
gap and without an overlap, from the first byte to the last one of the last whole row.

* `Table.Assembled` is what every row of the list of columns keeps of the tables before it. A table
  is brought into being by a column with a type, and no column takes its place but another one with
  a type, so a row of the table is never without bytes.
* `Table.flatMap_bytes_blocks` lists the bytes of all cells, column by column: they are the numbers
  from 0 on, each of them once. That the cells are disjoint and that they cover the stream are the
  two halves of this one equation.
* `Column.shown` is what a cell shows when all its bytes are there. The reader's own way out, for
  cells that are not inside their stream, is never taken (`Table.cell_eq_shown`).
-/

namespace InstallerPackage

/-! ### Columns with a type -/

namespace Column

variable {c : Column} {width : Nat}

/-- The column has a type; a placeholder has none. -/
def IsTyped (c : Column) : Prop := c.kind = .string ∨ c.intSize = 2 ∨ c.intSize = 4

theorem isTyped_ofType (name : String) (packed : Nat) : (ofType name packed).IsTyped := by
  unfold ofType IsTyped
  split
  · exact .inl rfl
  · refine .inr ?_
    dsimp only
    split
    · exact .inl rfl
    · exact .inr rfl

/-- A cell of a column with a type has bytes. -/
theorem IsTyped.two_le_size (h : c.IsTyped) (hwidth : 2 ≤ width) : 2 ≤ (c.sized width).size := by
  unfold sized
  cases hkind : c.kind with
  | string => exact hwidth
  | integer =>
    rcases h with hstring | hsize | hsize
    · rw [hkind] at hstring
      cases hstring
    · exact Nat.le_of_eq hsize.symm
    · exact Nat.le_trans (by decide) (Nat.le_of_eq hsize.symm)

/-- Texts are as wide as the references to them. -/
theorem size_sized_of_string (h : c.kind = .string) : (c.sized width).size = width := by
  rw [sized, h]

/-- What a cell at `offset` shows when it lies inside its stream: all its bytes are read, and no
others. -/
def shown (raw : ByteArray) (strings : Array String) (c : Column) (offset : Nat) : String :=
  if c.size = 0 then ""
  else match c.kind with
    | .integer => toString (Table.mask c.size (Bytes.number raw offset c.size))
    | .string => StringPool.get strings (Bytes.number raw offset c.size)

end Column

/-! ### Tables that are put together -/

namespace Table

variable {t : Table} {columns : List Column} {position width : Nat}

/-- A column stands where it was put. -/
theorem mem_place (columns : List Column) (h : 0 < position) (c : Column) :
    c ∈ place columns position c := by
  have hlength := length_place columns position c
  rw [place, List.length_set] at hlength
  exact List.mem_set (by omega) c

/-- The table has at least one column and at most as many as there are positions, and one of its
columns has a type. -/
structure Assembled (t : Table) : Prop where
  length_pos : 1 ≤ t.columns.length
  length_le : t.columns.length ≤ Schema.maxColumns
  typed : ∃ c ∈ t.columns, c.IsTyped

/-- One more column, at whichever position. -/
theorem assembled_place (name : String) {rowSize : Nat} {r : Schema.Row} (hr : r.isValid = true)
    (h : columns.length ≤ Schema.maxColumns) :
    Assembled ⟨name, place columns r.position (.ofType r.name r.packed), rowSize⟩ := by
  simp only [Schema.Row.isValid, Bool.and_eq_true, decide_eq_true_eq] at hr
  obtain ⟨⟨-, hpos⟩, hmax⟩ := hr
  have hlength := length_place columns r.position (.ofType r.name r.packed)
  refine ⟨?_, ?_, ?_⟩
  · rw [hlength]
    exact Nat.le_trans hpos (Nat.le_max_right ..)
  · rw [hlength]
    exact Nat.max_le.mpr ⟨h, hmax⟩
  · exact ⟨_, mem_place columns hpos _, Column.isTyped_ofType r.name r.packed⟩

/-- A table whose columns have their widths, for references of `width` bytes. -/
structure WellSized (width : Nat) (t : Table) : Prop where
  length_pos : 1 ≤ t.columns.length
  length_le : t.columns.length ≤ Schema.maxColumns
  rowSize_eq : t.rowSize = (t.columns.map Column.size).sum
  two_le_rowSize : 2 ≤ t.rowSize
  size_of_string : ∀ c ∈ t.columns, c.kind = .string → c.size = width

theorem Assembled.wellSized (h : t.Assembled) (hwidth : 2 ≤ width) :
    (t.sized width).WellSized width := by
  refine ⟨?_, ?_, rfl, ?_, ?_⟩
  · rw [sized, List.length_map]
    exact h.length_pos
  · rw [sized, List.length_map]
    exact h.length_le
  · -- the column with a type alone has that many bytes
    obtain ⟨c, hc, htyped⟩ := h.typed
    have hmem : (c.sized width).size ∈ (t.columns.map (Column.sized width)).map Column.size :=
      List.mem_map_of_mem (List.mem_map_of_mem hc)
    exact Nat.le_trans (htyped.two_le_size hwidth) (List.le_sum_of_mem hmem)
  · intro c hc hstring
    obtain ⟨c', -, rfl⟩ := List.mem_map.mp hc
    exact Column.size_sized_of_string hstring

end Table

namespace Schema

variable {tables : List Table} {width : Nat}

/-- A row adds a column to one table, or begins a table with one column; the other tables stay. -/
theorem assembled_insert {r : Row} (hr : r.isValid = true) (h : ∀ t ∈ tables, t.Assembled) :
    ∀ t ∈ insert r tables, t.Assembled := by
  -- on the tables, as the row looks for its own
  induction tables with
  | nil =>
    intro t ht
    rw [insert, List.mem_singleton] at ht
    rw [ht]
    exact Table.assembled_place r.table hr (Nat.zero_le _)
  | cons t rest ih =>
    have hrest : ∀ t ∈ rest, t.Assembled := fun t ht => h t (List.mem_cons_of_mem _ ht)
    have hfirst := h t (List.mem_cons_self ..)
    unfold insert
    split
    · intro t' ht'
      rcases List.mem_cons.mp ht' with rfl | ht'
      · exact Table.assembled_place t.name hr hfirst.length_le
      · exact hrest t' ht'
    · intro t' ht'
      rcases List.mem_cons.mp ht' with rfl | ht'
      · exact hfirst
      · exact ih hrest t' ht'

/-- Every table that a list of columns describes has its columns and their widths. -/
theorem wellSized_of_mem_read {raw : ByteArray} {strings : Array String} (hwidth : 2 ≤ width)
    {t : Table} (ht : t ∈ read raw strings width) : t.WellSized width := by
  -- the rows are taken in one after the other, from no tables at all
  have hfold : ∀ (rows : List Row) (tables : List Table), (∀ r ∈ rows, r.isValid = true) →
      (∀ t ∈ tables, t.Assembled) →
      ∀ t ∈ rows.foldl (fun tables r => insert r tables) tables, t.Assembled := by
    intro rows
    induction rows with
    | nil => exact fun tables _ h => h
    | cons r rows ih =>
      intro tables hrows h
      exact ih _ (fun r' hr' => hrows r' (List.mem_cons_of_mem _ hr'))
        (assembled_insert (hrows r (List.mem_cons_self ..)) h)
  obtain ⟨t', ht', rfl⟩ := List.mem_map.mp ht
  -- rows without a table or a position have been left out
  have hvalid : ∀ r ∈ rows raw strings width, r.isValid = true :=
    fun r hr => (List.mem_filter.mp hr).2
  exact (hfold _ [] hvalid (fun t ht => absurd ht List.not_mem_nil) t' ht').wellSized hwidth

end Schema

/-! ### The bytes of the cells -/

/-- The places of the bytes of the cell in row `i`. -/
def Block.bytes (b : Block) (i : Nat) : List Nat := List.range' (b.cellStart i) b.column.size

/-- The cells of one column follow each other. -/
theorem Block.flatMap_bytes (b : Block) (n : Nat) :
    (List.range n).flatMap b.bytes = List.range' b.start (b.column.size * n) := by
  induction n with
  | zero => rfl
  | succ n ih =>
    rw [List.range_succ, List.flatMap_append, ih, List.flatMap_singleton, bytes, cellStart,
      Nat.mul_comm n, List.range'_append_1, Nat.mul_succ]

namespace Table

variable {t : Table} {b b' : Block} {columns : List Column} {width n start i i' j j' p : Nat}

/-- The columns follow each other, so the cells of all columns have consecutive bytes. -/
theorem flatMap_bytes_blocks (n start : Nat) (columns : List Column) :
    (blocks n start columns).flatMap (fun b => (List.range n).flatMap b.bytes) =
      List.range' start (n * (columns.map Column.size).sum) := by
  induction columns generalizing start with
  | nil => rfl
  | cons c columns ih =>
    rw [blocks, List.flatMap_cons, ih, Block.flatMap_bytes, List.range'_append_1, List.map_cons,
      List.sum_cons, Nat.mul_add, Nat.mul_comm c.size]

/-- No byte is in two cells. -/
theorem disjoint_bytes (hb : (blocks n start columns)[j]? = some b)
    (hb' : (blocks n start columns)[j']? = some b') (hi : i < n) (hi' : i' < n)
    (hne : (i, j) ≠ (i', j')) : (b.bytes i).Disjoint (b'.bytes i') := by
  have hnodup := List.nodup_range' (s := start) (n := n * (columns.map Column.size).sum)
  rw [← flatMap_bytes_blocks, List.nodup_flatMap] at hnodup
  obtain ⟨hcolumn, hcolumns⟩ := hnodup
  have hmem : ∀ {b : Block} {i : Nat}, i < n → ∀ p ∈ b.bytes i,
      p ∈ (List.range n).flatMap b.bytes :=
    fun hi p hp => List.mem_flatMap.mpr ⟨_, List.mem_range.mpr hi, hp⟩
  -- of two columns one comes first
  have hlt : ∀ {j j' : Nat} {b b' : Block}, (blocks n start columns)[j]? = some b →
      (blocks n start columns)[j']? = some b' → j < j' →
      ((List.range n).flatMap b.bytes).Disjoint ((List.range n).flatMap b'.bytes) := by
    intro j j' b b' hb hb' hjj
    obtain ⟨hj, rfl⟩ := List.getElem?_eq_some_iff.mp hb
    obtain ⟨hj', rfl⟩ := List.getElem?_eq_some_iff.mp hb'
    exact List.pairwise_iff_getElem.mp hcolumns j j' hj hj' hjj
  -- two cells differ in their columns or, within one, in their rows
  intro p hp hp'
  rcases Nat.lt_trichotomy j j' with hjj | rfl | hjj
  · exact hlt hb hb' hjj (hmem hi p hp) (hmem hi' p hp')
  · -- within a column it is the rows that differ
    obtain rfl : b = b' := Option.some.inj (hb.symm.trans hb')
    have hii : i ≠ i' := fun h => hne (by rw [h])
    have hrows := (List.nodup_flatMap.mp (hcolumn b (List.mem_of_getElem? hb))).2
    rw [List.pairwise_iff_getElem] at hrows
    simp only [List.length_range, List.getElem_range] at hrows
    rcases Nat.lt_or_gt_of_ne hii with hlt' | hgt'
    · exact hrows i i' hi hi' hlt' hp hp'
    · exact hrows i' i hi' hi hgt' hp' hp
  · exact hlt hb' hb hjj (hmem hi' p hp') (hmem hi p hp)

/-- Every byte of the region is in a cell, and no other one is. -/
theorem exists_mem_bytes_iff :
    (∃ (j : Nat) (b : Block) (i : Nat),
        (blocks n 0 columns)[j]? = some b ∧ i < n ∧ p ∈ b.bytes i) ↔
      p < n * (columns.map Column.size).sum := by
  have hmem : p ∈ (blocks n 0 columns).flatMap (fun b => (List.range n).flatMap b.bytes) ↔
      p < n * (columns.map Column.size).sum := by
    rw [flatMap_bytes_blocks, List.mem_range'_1, Nat.zero_add]
    exact ⟨And.right, fun h => ⟨Nat.zero_le _, h⟩⟩
  rw [← hmem, List.mem_flatMap]
  -- a cell is found by its block and its row
  constructor
  · rintro ⟨j, b, i, hb, hi, hp⟩
    exact ⟨b, List.mem_of_getElem? hb, List.mem_flatMap.mpr ⟨i, List.mem_range.mpr hi, hp⟩⟩
  · rintro ⟨b, hb, hp⟩
    obtain ⟨j, hj⟩ := List.mem_iff_getElem?.mp hb
    obtain ⟨i, hi, hp⟩ := List.mem_flatMap.mp hp
    exact ⟨j, b, i, hj, List.mem_range.mp hi, hp⟩

/-! ### Reading them -/

theorem rowCount_eq_div (h : 0 < t.rowSize) (size : Nat) : t.rowCount size = size / t.rowSize := by
  rw [rowCount, if_neg (Nat.ne_of_gt h)]

/-- The end of a cell is at most the end of all of them, a cell without bytes included. -/
theorem cellStart_add_size_le (hb : (blocks n 0 columns)[j]? = some b) (hi : i < n) :
    b.cellStart i + b.column.size ≤ n * (columns.map Column.size).sum := by
  rw [getElem?_blocks] at hb
  obtain ⟨c, hc, rfl⟩ := Option.map_eq_some_iff.mp hb
  rw [Block.cellStart]
  dsimp only
  obtain ⟨hj, rfl⟩ := List.getElem?_eq_some_iff.mp hc
  calc 0 + widthOf (columns.take j) * n + i * columns[j].size + columns[j].size
      = widthOf (columns.take j) * n + (i + 1) * columns[j].size := by
        rw [Nat.zero_add, Nat.add_assoc, ← Nat.succ_mul]
    _ ≤ widthOf (columns.take j) * n + n * columns[j].size :=
        Nat.add_le_add_left (Nat.mul_le_mul_right _ hi) _
    _ = n * ((columns.take (j + 1)).map Column.size).sum := by
        rw [List.take_succ_eq_append_getElem hj, List.map_append, List.sum_append, widthOf_eq,
          List.map_singleton, List.sum_singleton, Nat.mul_add, Nat.mul_comm (List.sum _)]
    _ ≤ n * (columns.map Column.size).sum := by
        refine Nat.mul_le_mul_left n ?_
        rw [List.map_take]
        exact (List.take_sublist _ _).sum_le_sum fun _ _ => Nat.zero_le _

/-- A cell inside its stream is read as what it shows. -/
theorem cell_eq_shown {raw : ByteArray} {strings : Array String} {c : Column} {offset : Nat}
    (hin : offset + c.size ≤ raw.size) (hstring : c.kind = .string → c.size = width) :
    cell raw strings width c offset = c.shown raw strings offset := by
  rw [cell, if_neg (Nat.not_lt.mpr hin), Column.shown]
  split
  · rfl
  cases hkind : c.kind with
  | integer => rfl
  | string => rw [hstring hkind]

/-- The cell of a row and a column in the stream of its table. -/
theorem WellSized.getElem?_rows (h : t.WellSized width) (raw : ByteArray) (strings : Array String)
    (hb : (blocks (raw.size / t.rowSize) 0 t.columns)[j]? = some b)
    (hi : i < raw.size / t.rowSize) :
    b.cellStart i + b.column.size ≤ raw.size ∧
      ((t.rows raw strings width)[i]?.bind (·[j]?)) =
        some (b.column.shown raw strings (b.cellStart i)) := by
  -- the width of the row is that of its columns, so a row of the count ends within the bytes
  have hpos : 0 < t.rowSize := Nat.lt_of_lt_of_le (by decide) h.two_le_rowSize
  have hin : b.cellStart i + b.column.size ≤ raw.size := by
    have hle := cellStart_add_size_le hb hi
    rw [← h.rowSize_eq] at hle
    exact Nat.le_trans hle (Nat.div_mul_le_self ..)
  have hcolumn : b.column ∈ t.columns := by
    rw [getElem?_blocks] at hb
    obtain ⟨c, hc, rfl⟩ := Option.map_eq_some_iff.mp hb
    exact List.mem_of_getElem? hc
  refine ⟨hin, ?_⟩
  rw [rows, rowCount_eq_div hpos, List.getElem?_map, List.getElem?_range hi, Option.map_some,
    Option.bind_some, List.getElem?_map, hb, Option.map_some,
    cell_eq_shown hin (h.size_of_string _ hcolumn)]

end Table

/-- **The cells of a table tile its stream.** Take any list of columns, any strings, and references
of two or more bytes. Every table that is read from them has 1 to 255 columns, and a row has as many
bytes as its cells together, at least two. In any stream, cut into as many whole rows as it has,

* every row has one cell for every column;
* no byte is in two cells, and the bytes in cells are just those of the whole rows;
* every cell lies inside the stream and is read with the width of its column. -/
theorem Schema.cells_tile (list : ByteArray) (strings : Array String) (width : Nat)
    (hwidth : 2 ≤ width) (t : Table) (ht : t ∈ Schema.read list strings width) :
    (1 ≤ t.columns.length ∧ t.columns.length ≤ 255 ∧
      t.rowSize = (t.columns.map Column.size).sum ∧ 2 ≤ t.rowSize) ∧
    ∀ (raw : ByteArray) (strings : Array String),
      let n := raw.size / t.rowSize
      let blocks := Table.blocks n 0 t.columns
      let rows := t.rows raw strings width
      rows.length = n ∧ (∀ row ∈ rows, row.length = t.columns.length) ∧
      (∀ (i j i' j' : Nat) (b b' : Block), i < n → i' < n → blocks[j]? = some b →
        blocks[j']? = some b' → (i, j) ≠ (i', j') → (b.bytes i).Disjoint (b'.bytes i')) ∧
      (∀ p, (∃ (j : Nat) (b : Block) (i : Nat), blocks[j]? = some b ∧ i < n ∧ p ∈ b.bytes i) ↔
        p < n * t.rowSize) ∧
      ∀ (i j : Nat) (b : Block), i < n → blocks[j]? = some b →
        b.cellStart i + b.column.size ≤ raw.size ∧
        rows[i]?.bind (·[j]?) = some (b.column.shown raw strings (b.cellStart i)) := by
  have h := wellSized_of_mem_read hwidth ht
  have hpos : 0 < t.rowSize := Nat.lt_of_lt_of_le (by decide) h.two_le_rowSize
  refine ⟨⟨h.length_pos, h.length_le, h.rowSize_eq, h.two_le_rowSize⟩, ?_⟩
  intro raw strings n blocks rows
  refine ⟨?_, fun row hrow => Table.length_of_mem_rows hrow, ?_, ?_, ?_⟩
  · rw [Table.length_rows, Table.rowCount_eq_div hpos]
  · intro i j i' j' b b' hi hi' hb hb' hne
    exact Table.disjoint_bytes hb hb' hi hi' hne
  · intro p
    rw [h.rowSize_eq]
    exact Table.exists_mem_bytes_iff
  · intro i j b hi hb
    exact h.getElem?_rows raw strings hb hi

/-- A list with one row, which puts a number of four bytes at the second position of a table. -/
def Schema.sampleList : ByteArray :=
  Bytes.ofList ([1, 0x8002, 2, 0x8104].flatMap (Bytes.little 2))

/-- The first column is filled up without any bytes, and nine bytes hold two whole rows. -/
theorem Schema.cells_tile_sample :
    let t : Table := ⟨"T", [.placeholder, Column.sized 2 (.ofType "C" 0x8104)], 4⟩
    let raw := Bytes.ofList [1, 0, 0, 0x80, 2, 0, 0, 0x80, 9]
    2 ≤ 2 ∧ t ∈ Schema.read sampleList #["", "T", "C"] 2 ∧
      t.columns.length ≤ 255 ∧ 2 ≤ t.rowSize ∧ (t.rows raw #[] 2).length = 2 ∧
      (t.rows raw #[] 2)[1]?.bind (·[1]?) = some "2" := by
  intro t raw
  have ht : t ∈ Schema.read sampleList #["", "T", "C"] 2 := by decide +kernel
  have hn : raw.size / t.rowSize = 2 := by decide +kernel
  obtain ⟨⟨-, hle, -, htwo⟩, hrows⟩ :=
    Schema.cells_tile sampleList #["", "T", "C"] 2 (Nat.le_refl 2) t ht
  obtain ⟨hlength, -, -, -, hcell⟩ := hrows raw #[]
  simp only [hn] at hlength hcell
  refine ⟨Nat.le_refl 2, ht, hle, htwo, hlength, ?_⟩
  -- the second column begins at once, as the first one has no bytes
  rw [(hcell 1 1 ⟨_, 0⟩ (by decide) rfl).2]
  decide +kernel

end InstallerPackage
