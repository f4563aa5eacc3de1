import InstallerPackage.Proofs.Database.Columns

/-!
# Tables, written and read

The cells of a column stand next to each other, and the columns follow each other in order. A reader
computes the place of a cell from the sizes of the columns before it (`Table.getElem?_blocks`), and finds
there what was written for it (`Draft.cell_tableBytes`).
-/

namespace InstallerPackage

/-! ### Places -/

theorem Table.widthOf_eq (columns : List Column) : widthOf columns = (columns.map Column.size).sum := rfl

/-- Before the cells of a column stand those of all columns in front of it. -/
theorem Table.getElem?_blocks (n start : Nat) (columns : List Column) (j : Nat) :
    (blocks n start columns)[j]? =
      columns[j]?.map fun c => ⟨c, start + (widthOf (columns.take j)) * n⟩ := by
  induction columns generalizing start j with
  | nil => rfl
  | cons c columns ih =>
    cases j with
    | zero => simp [blocks, widthOf]
    | succ j =>
      -- the later columns start behind the cells of this one
      rw [blocks, List.getElem?_cons_succ, List.getElem?_cons_succ, ih, List.take_succ_cons, widthOf_eq,
        widthOf_eq, List.map_cons, List.sum_cons, Nat.add_mul, Nat.add_assoc]

/-- A list of lists, split at one of them. -/
theorem flatten_split {α : Type} {l : List (List α)} {j : Nat} {b : List α} (hb : l[j]? = some b) :
    ∃ after, l.flatten = (l.take j).flatten ++ (b ++ after) := by
  obtain ⟨hlt, rfl⟩ := List.getElem?_eq_some_iff.mp hb
  refine ⟨(l.drop (j + 1)).flatten, ?_⟩
  rw [← List.flatten_cons, ← List.flatten_append, List.getElem_cons_drop,
    List.take_append_drop]

namespace Draft

variable {d : Draft} {t : DraftTable} {width : Nat}

/-! ### Cells -/

theorem length_cellBytes {c : DraftColumn} {x : Cell} (h : c.Fits x) :
    (d.cellBytes width c x).length = c.size width := by
  cases x with
  | text s =>
    have hstring : c.isString = true := h
    rw [cellBytes, Bytes.length_little, DraftColumn.size, if_pos hstring]
  | number n =>
    obtain ⟨hstring, -⟩ := h
    rw [cellBytes, DraftColumn.size, if_neg hstring]
    split <;> rw [Bytes.length_little]

/-- A number whose top bit was set is read without it. -/
theorem number_little_or {n k u : Nat} (h : n < 2 ^ k) (hk : 256 ^ u = 2 ^ (k + 1)) :
    Bytes.number (Bytes.ofList (Bytes.little u (n ||| 2 ^ k))) 0 u % 2 ^ k = n := by
  have hle : 2 ^ k < 2 ^ (k + 1) := Nat.pow_lt_pow_right (by decide) (Nat.lt_succ_self k)
  have hor : n ||| 2 ^ k < 256 ^ u := by
    rw [hk]
    exact Nat.or_lt_two_pow (Nat.lt_trans h hle) hle
  rw [← List.append_nil (Bytes.little _ _), Bytes.number_ofList_here, Nat.mod_eq_of_lt hor]
  exact or_two_pow_mod h

theorem mask_cellBytes {c : DraftColumn} {n : Nat} (hfits : c.Fits (.number n)) :
    Table.mask (c.size width) (Bytes.number (Bytes.ofList (d.cellBytes width c (.number n))) 0
      (c.size width)) = n := by
  obtain ⟨hstring, hlt⟩ := hfits
  rw [cellBytes, DraftColumn.size, if_neg hstring, Table.mask]
  by_cases hshort : c.isShort = true
  · -- two bytes, the top bit being the 15th
    rw [if_pos hshort] at hlt
    rw [if_pos hshort, if_pos hshort, if_pos rfl]
    exact number_little_or (k := 15) hlt (by decide)
  · -- four bytes, the top bit being the 31st
    rw [if_neg hshort] at hlt
    rw [if_neg hshort, if_neg hshort, if_neg (by decide)]
    exact number_little_or (k := 31) hlt (by decide)

/-- A cell is read as what it shows, whatever stands around it. -/
theorem cell_eq_shown {c : DraftColumn} {x : Cell} (hfits : c.Fits x) (hwidth : 0 < width)
    (hrefs : d.strings.length ≤ 256 ^ width) (hx : ∀ s, x = .text s → s ∈ d.strings)
    {raw : ByteArray} {offset : Nat} (hin : offset + c.size width ≤ raw.size)
    (hnumber : Bytes.number raw offset (c.size width) =
      Bytes.number (Bytes.ofList (d.cellBytes width c x)) 0 (c.size width)) :
    Table.cell raw d.strings.toArray width (c.column width) offset = x.shown := by
  have hsize : (c.column width).size = c.size width := rfl
  have hpos := c.size_pos hwidth
  rw [Table.cell, hsize, if_neg (Nat.not_lt.mpr hin), if_neg (Nat.ne_of_gt hpos)]
  cases x with
  | text s =>
    have hstring : c.isString = true := hfits
    have hmem := hx s rfl
    -- the bytes are a reference, and every reference fits into them
    have hkind : (c.column width).kind = .string := by rw [DraftColumn.column, if_pos hstring]
    have hwidth' : c.size width = width := by rw [DraftColumn.size, if_pos hstring]
    rw [hwidth'] at hnumber
    rw [hkind]
    dsimp only
    rw [hnumber, cellBytes, ← List.append_nil (Bytes.little _ _), Bytes.number_ofList_here,
      Nat.mod_eq_of_lt (Nat.lt_of_lt_of_le (indexOf_lt hmem) hrefs), get_indexOf hmem, Cell.shown]
  | number n =>
    have hkind : (c.column width).kind = .integer := by rw [DraftColumn.column, if_neg hfits.1]
    rw [hkind]
    dsimp only
    rw [hnumber, mask_cellBytes hfits, Cell.shown]

/-! ### Columns of cells -/

/-- The cells of the column at a position. -/
def columnBytes (d : Draft) (width : Nat) (t : DraftTable) (j : Nat) (c : DraftColumn) : List UInt8 :=
  t.rows.flatMap fun row => row[j]?.toList.flatMap (d.cellBytes width c)

theorem tableBytes_eq (d : Draft) (width : Nat) (t : DraftTable) :
    d.tableBytes width t = (t.columns.mapIdx (d.columnBytes width t)).flatten := rfl

theorem WellFormed.fits_cell (hd : d.WellFormed) (ht : t ∈ d) {row : List Cell} (hrow : row ∈ t.rows)
    {j : Nat} {c : DraftColumn} {x : Cell} (hc : t.columns[j]? = some c) (hx : row[j]? = some x) :
    c.Fits x := by
  have hzip : (t.columns.zip row)[j]? = some (c, x) := List.getElem?_zip_eq_some.mpr ⟨hc, hx⟩
  exact hd.fits t ht row hrow _ (List.mem_of_getElem? hzip)

/-- There is one cell in every row. -/
theorem cell_of_row (hd : d.WellFormed) (ht : t ∈ d) {row : List Cell} (hrow : row ∈ t.rows) {j : Nat}
    {c : DraftColumn} (hc : t.columns[j]? = some c) : ∃ x, row[j]? = some x ∧ c.Fits x := by
  have hlt := (List.getElem?_eq_some_iff.mp hc).1
  rw [← hd.length t ht row hrow] at hlt
  have hx : row[j]? = some row[j] := List.getElem?_eq_getElem hlt
  exact ⟨_, hx, hd.fits_cell ht hrow hc hx⟩

theorem length_cells (width : Nat) (hd : d.WellFormed) (ht : t ∈ d) {j : Nat} {c : DraftColumn}
    (hc : t.columns[j]? = some c) :
    ∀ row ∈ t.rows, (row[j]?.toList.flatMap (d.cellBytes width c)).length = c.size width := by
  intro row hrow
  obtain ⟨x, hx, hfits⟩ := cell_of_row hd ht hrow hc
  rw [hx, Option.toList_some, List.flatMap_singleton, length_cellBytes hfits]

theorem length_columnBytes (hd : d.WellFormed) (ht : t ∈ d) {j : Nat} {c : DraftColumn}
    (hc : t.columns[j]? = some c) :
    (d.columnBytes width t j c).length = c.size width * t.rows.length := by
  rw [columnBytes, List.length_flatMap, List.map_congr_left (length_cells width hd ht hc),
    List.map_const', List.sum_replicate_nat, Nat.mul_comm]

/-- The columns in front of a position take as many bytes as their cells. -/
theorem length_take_columns (width : Nat) (hd : d.WellFormed) (ht : t ∈ d) (j : Nat) :
    ((t.columns.mapIdx (d.columnBytes width t)).take j).flatten.length =
      ((t.columns.take j).map (DraftColumn.size width)).sum * t.rows.length := by
  have hlengths : (t.columns.mapIdx (d.columnBytes width t)).map List.length =
      t.columns.map fun c => c.size width * t.rows.length := by
    apply List.ext_getElem?
    intro i
    rw [List.getElem?_map, List.getElem?_mapIdx, List.getElem?_map]
    cases hc : t.columns[i]? with
    | none => rfl
    | some c => exact congrArg some (length_columnBytes hd ht hc)
  rw [List.length_flatten, List.map_take, hlengths, ← List.map_take, List.sum_map_mul_right]

theorem length_tableBytes (hd : d.WellFormed) (ht : t ∈ d) :
    (d.tableBytes width t).length = (t.table width).rowSize * t.rows.length := by
  have h := length_take_columns width hd ht t.columns.length
  rw [List.take_of_length_le (Nat.le_of_eq List.length_mapIdx), List.take_length] at h
  rw [tableBytes_eq, h]
  rfl

theorem rowCount_tableBytes (hd : d.WellFormed) (ht : t ∈ d) (hwidth : 0 < width) :
    (t.table width).rowCount (d.tableBytes width t).length = t.rows.length := by
  -- a table has a column, and no column is without width
  have hpos : 0 < (t.table width).rowSize := by
    obtain ⟨c, columns, hcolumns⟩ := List.exists_cons_of_length_pos (hd.columns t ht).1
    have := c.size_pos hwidth
    change 0 < (t.columns.map (DraftColumn.size width)).sum
    rw [hcolumns, List.map_cons, List.sum_cons]
    exact Nat.add_pos_left this _
  rw [Table.rowCount, if_neg (Nat.ne_of_gt hpos), length_tableBytes hd ht,
    Nat.mul_div_cancel_left _ hpos]

/-- Every cell is read at its place in the stream of its table. -/
theorem cell_tableBytes (hd : d.WellFormed) (ht : t ∈ d) (hwidth : 0 < width)
    (hrefs : d.strings.length ≤ 256 ^ width) {i j : Nat} {row : List Cell} {c : DraftColumn} {x : Cell}
    (hrow : t.rows[i]? = some row) (hc : t.columns[j]? = some c) (hx : row[j]? = some x) :
    Table.cell (Bytes.ofList (d.tableBytes width t)) d.strings.toArray width (c.column width)
      (((t.columns.take j).map (DraftColumn.size width)).sum * t.rows.length + i * c.size width) =
        x.shown := by
  have hmem := List.mem_of_getElem? hrow
  have hfits := hd.fits_cell ht hmem hc hx
  have hblock : (t.columns.mapIdx (d.columnBytes width t))[j]? = some (d.columnBytes width t j c) := by
    rw [List.getElem?_mapIdx, hc, Option.map_some]
  obtain ⟨after, hsplit⟩ := flatten_split hblock
  have hbefore := length_take_columns width hd ht j
  refine cell_eq_shown hfits hwidth hrefs (fun s hs => ?_) ?_ ?_
  · subst hs
    exact cell_mem_strings ht hmem (List.mem_of_getElem? hx)
  · -- the column has room for all its cells
    have hlt := (List.getElem?_eq_some_iff.mp hrow).1
    have hroom := Nat.mul_le_mul_left (c.size width) hlt
    rw [Bytes.size_ofList, tableBytes_eq, hsplit, List.length_append, List.length_append, hbefore,
      length_columnBytes hd ht hc]
    rw [Nat.mul_succ, Nat.mul_comm _ i] at hroom
    omega
  · -- behind the columns in front of it, the cell is one of `rows.length` cells of one size
    rw [tableBytes_eq, hsplit, Bytes.number_ofList_skip (by omega), hbefore, Nat.add_sub_cancel_left]
    have h := Bytes.number_ofList_field (length_cells width hd ht hc) hrow
      (Nat.le_of_eq (Nat.zero_add _)) after
    rw [Nat.add_zero, Nat.mul_comm] at h
    rw [columnBytes, h, hx, Option.toList_some, List.flatMap_singleton]

/-- **The rows of a table are read back**, every cell as what it shows. -/
theorem rows_tableBytes (hd : d.WellFormed) (ht : t ∈ d) (hwidth : 0 < width)
    (hrefs : d.strings.length ≤ 256 ^ width) :
    (t.table width).rows (Bytes.ofList (d.tableBytes width t)) d.strings.toArray width =
      t.rows.map fun row => row.map Cell.shown := by
  have hcount := rowCount_tableBytes hd ht hwidth
  have hoffset : ∀ j, Table.widthOf ((t.table width).columns.take j) =
      ((t.columns.take j).map (DraftColumn.size width)).sum := by
    intro j
    rw [Table.widthOf_eq, DraftTable.table, ← List.map_take, List.map_map]
    rfl
  rw [Table.rows, Bytes.size_ofList, hcount]
  apply List.ext_getElem
  · rw [List.length_map, List.length_map, List.length_range]
  · intro i hi hi'
    have hlt : i < t.rows.length := by rwa [List.length_map] at hi'
    have hrow : t.rows[i]? = some t.rows[i] := List.getElem?_eq_getElem hlt
    -- a row is compared cell by cell
    rw [List.getElem_map, List.getElem_map, List.getElem_range]
    apply List.ext_getElem?
    intro j
    rw [List.getElem?_map, List.getElem?_map, Table.getElem?_blocks, hoffset, Nat.zero_add]
    have hcolumn : (t.table width).columns[j]? = t.columns[j]?.map (DraftColumn.column width) :=
      List.getElem?_map
    rw [hcolumn]
    cases hc : t.columns[j]? with
    | none =>
      -- there is no cell without a column
      have hlength := hd.length t ht _ (List.getElem_mem hlt)
      rw [List.getElem?_eq_none_iff, ← hlength, ← List.getElem?_eq_none_iff] at hc
      rw [hc]
      rfl
    | some c =>
      obtain ⟨x, hx, -⟩ := cell_of_row hd ht (List.getElem_mem hlt) hc
      rw [hx]
      exact congrArg some (cell_tableBytes hd ht hwidth hrefs hrow hc hx)

end Draft

end InstallerPackage
