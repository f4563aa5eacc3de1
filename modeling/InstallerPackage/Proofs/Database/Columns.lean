import InstallerPackage.Proofs.Database.Drafts

/-!
# The list of columns, written and read

The four blocks of the list are read back row by row (`Draft.rows_columnsBytes`), and the rows of a
table, which follow each other in the order of their positions, put the table together again.
`Draft.read_columnsBytes` is the result for all tables.
-/

namespace InstallerPackage

/-- A number is what remains of it without the top bit that was set for it. -/
theorem or_two_pow_mod {n k : Nat} (h : n < 2 ^ k) : (n ||| 2 ^ k) % 2 ^ k = n := by
  rw [Nat.or_mod_two_pow, Nat.mod_self, Nat.or_zero, Nat.mod_eq_of_lt h]

/-! ### What a reader makes of a column -/

namespace DraftColumn

/-- The bytes of a cell. -/
def size (width : Nat) (c : DraftColumn) : Nat :=
  if c.isString then width else if c.isShort then 2 else 4

/-- The column as it is read. -/
def column (width : Nat) (c : DraftColumn) : Column where
  name := c.name
  kind := if c.isString then .string else .integer
  size := c.size width
  intSize := if c.isString then 0 else if c.isShort then 2 else 4
  declaredSize := c.packed % 0x100
  nullable := c.packed.testBit 12
  key := c.packed.testBit 13
  localizable := c.packed.testBit 9

/-- A type is unpacked although its top bit was set. -/
theorem sized_ofType (width : Nat) (c : DraftColumn) :
    (Column.ofType c.name (c.packed ||| 0x8000)).sized width = c.column width := by
  -- everything that a type says stands in the bits below the top one
  have hbit : ∀ i < 15, (c.packed ||| 0x8000).testBit i = c.packed.testBit i := by
    intro i hi
    rw [Nat.testBit_or, show 0x8000 = 2 ^ 15 from rfl, Nat.testBit_two_pow_of_ne (by omega),
      Bool.or_false]
  have hbyte : (c.packed ||| 0x8000) % 0x100 = c.packed % 0x100 := by
    rw [show 0x100 = 2 ^ 8 from rfl, Nat.or_mod_two_pow]
    exact Nat.or_zero _
  have hnibble : (c.packed ||| 0x8000) % 0x10 = c.packed % 0x10 := by
    rw [show 0x10 = 2 ^ 4 from rfl, Nat.or_mod_two_pow]
    exact Nat.or_zero _
  rw [column, size, isString, isShort, Column.ofType, hbit 9 (by decide), hbit 11 (by decide),
    hbit 12 (by decide), hbit 13 (by decide), hbyte, hnibble]
  -- a text of one reference, an integer of two bytes, or one of four
  by_cases hstring : c.packed.testBit 11 = true
  · simp [hstring, Column.sized]
  · by_cases hshort : c.packed % 0x10 = 2
    · simp [hstring, hshort, Column.sized]
    · simp [hstring, hshort, Column.sized]

theorem size_pos {width : Nat} (hwidth : 0 < width) (c : DraftColumn) : 0 < c.size width := by
  unfold size
  split
  · exact hwidth
  · split <;> decide

end DraftColumn

/-- The table as it is read. -/
def DraftTable.table (width : Nat) (t : DraftTable) : Table where
  name := t.name
  columns := t.columns.map (DraftColumn.column width)
  rowSize := (t.columns.map (DraftColumn.size width)).sum

/-! ### Reading the rows -/

namespace Draft

variable {d : Draft} {width : Nat}

/-- The rows of a table in the list of columns. -/
def rowsOf (t : DraftTable) : List Schema.Row :=
  t.columns.mapIdx fun i c => ⟨t.name, i + 1, c.name, c.packed⟩

theorem columnRows_eq (d : Draft) : d.columnRows = d.flatMap rowsOf := rfl

theorem length_columnRows (d : Draft) :
    d.columnRows.length = (d.map fun t => t.columns.length).sum := by
  rw [columnRows_eq, List.length_flatMap]
  simp only [rowsOf, List.length_mapIdx]

theorem mem_columnRows {r : Schema.Row} (h : r ∈ d.columnRows) :
    ∃ t ∈ d, ∃ (i : Nat) (c : DraftColumn), t.columns[i]? = some c ∧
      r = ⟨t.name, i + 1, c.name, c.packed⟩ := by
  obtain ⟨t, ht, hr⟩ := List.mem_flatMap.mp h
  obtain ⟨i, hi, rfl⟩ := List.mem_mapIdx.mp hr
  exact ⟨t, ht, i, _, List.getElem?_eq_getElem hi, rfl⟩

/-- A row as it stands in the list: its type has its top bit set. -/
def stored (r : Schema.Row) : Schema.Row := { r with packed := r.packed ||| 0x8000 }

/-- One of the four blocks: a number of `u` bytes for every row. -/
def block (d : Draft) (u : Nat) (f : Schema.Row → Nat) : List UInt8 :=
  (d.columnRows.map f).flatMap (Bytes.little u)

theorem length_block (d : Draft) (u : Nat) (f : Schema.Row → Nat) :
    (d.block u f).length = d.columnRows.length * u := by
  rw [block, Bytes.length_flatMap_little, List.length_map, Nat.mul_comm]

theorem columnsBytes_eq (d : Draft) (width : Nat) :
    d.columnsBytes width =
      d.block width (fun r => d.indexOf r.table) ++ d.block 2 (fun r => r.position ||| 0x8000) ++
        d.block width (fun r => d.indexOf r.name) ++ d.block 2 (fun r => r.packed ||| 0x8000) := by
  simp only [columnsBytes, block, List.flatMap_map]

theorem length_columnsBytes (d : Draft) (width : Nat) :
    (d.columnsBytes width).length = d.columnRows.length * (2 * width + 4) := by
  rw [columnsBytes_eq]
  simp only [List.length_append, length_block]
  rw [Nat.mul_add, Nat.two_mul, Nat.mul_add]
  omega

theorem rowCount_columnsBytes (d : Draft) (width : Nat) :
    Schema.rowCount (Bytes.ofList (d.columnsBytes width)) width = d.columnRows.length := by
  rw [Schema.rowCount, Bytes.size_ofList, length_columnsBytes, Nat.mul_div_cancel _ (by omega)]

/-- The number of a row is read at the row's place in the block. -/
theorem number_block {u start i : Nat} {f : Schema.Row → Nat} {r : Schema.Row} {bytes : List UInt8}
    (before after : List UInt8) (hbytes : bytes = before ++ (d.block u f ++ after))
    (hstart : before.length = start) (hr : d.columnRows[i]? = some r) (hlt : f r < 256 ^ u) :
    Bytes.number (Bytes.ofList bytes) (start + i * u) u = f r := by
  have hmap : (d.columnRows.map f)[i]? = some (f r) := by rw [List.getElem?_map, hr, Option.map_some]
  rw [hbytes, Bytes.number_ofList_skip (by omega), hstart, Nat.add_sub_cancel_left, Nat.mul_comm,
    block, Bytes.number_ofList_flatMap hmap, Nat.mod_eq_of_lt hlt]

/-- Every row is put together from its places in the four blocks. -/
theorem row_columnsBytes (hd : d.WellFormed) (hrefs : d.strings.length ≤ 256 ^ width) {i : Nat}
    {r : Schema.Row} (hr : d.columnRows[i]? = some r) :
    Schema.row (Bytes.ofList (d.columnsBytes width)) d.strings.toArray width i = stored r := by
  -- the row is that of some column of some table, so the draft's bounds are about it
  obtain ⟨t, ht, j, c, hc, hrow⟩ := mem_columnRows (List.mem_of_getElem? hr)
  have hcmem := List.mem_of_getElem? hc
  have htable : r.table ∈ d.strings := by
    rw [hrow]
    exact name_mem_strings ht
  have hname : r.name ∈ d.strings := by
    rw [hrow]
    exact column_mem_strings ht hcmem
  have hposition : r.position < 2 ^ 15 := by
    have hlt := (List.getElem?_eq_some_iff.mp hc).1
    have hmax := (hd.columns t ht).2
    rw [Schema.maxColumns] at hmax
    rw [hrow]
    dsimp only
    omega
  have hpacked : r.packed < 2 ^ 16 := by
    rw [hrow]
    exact hd.packed t ht c hcmem
  have htop : (r.position ||| 0x8000) % 0x8000 = r.position := or_two_pow_mod hposition
  -- the numbers in the four blocks
  have hbytes := columnsBytes_eq d width
  have h₄ := number_block _ [] (hbytes.trans (congrArg _ (List.append_nil _).symm)) rfl hr
    (Nat.or_lt_two_pow (n := 16) hpacked (by decide))
  rw [List.append_assoc] at hbytes
  have h₃ := number_block _ _ hbytes rfl hr (Nat.lt_of_lt_of_le (indexOf_lt hname) hrefs)
  rw [List.append_assoc] at hbytes
  have h₂ := number_block _ _ hbytes rfl hr
    (Nat.or_lt_two_pow (n := 16) (Nat.lt_trans hposition (by decide)) (by decide))
  have h₁ := number_block [] _ hbytes rfl hr (Nat.lt_of_lt_of_le (indexOf_lt htable) hrefs)
  simp only [List.length_append, length_block, List.length_nil, Nat.zero_add] at h₁ h₂ h₃ h₄
  simp only [Schema.row, rowCount_columnsBytes, h₁, h₂, h₃, h₄, htop, get_indexOf htable,
    get_indexOf hname, stored]

theorem rows_columnsBytes (hd : d.WellFormed) (hrefs : d.strings.length ≤ 256 ^ width) :
    Schema.rows (Bytes.ofList (d.columnsBytes width)) d.strings.toArray width =
      d.columnRows.map stored := by
  -- every row at its place, so all of them in their order
  have hrows : (List.range d.columnRows.length).map
      (Schema.row (Bytes.ofList (d.columnsBytes width)) d.strings.toArray width) =
        d.columnRows.map stored := by
    apply List.ext_getElem
    · rw [List.length_map, List.length_map, List.length_range]
    · intro i hi hi'
      have hlt : i < d.columnRows.length := by rwa [List.length_map] at hi'
      rw [List.getElem_map, List.getElem_map, List.getElem_range]
      exact row_columnsBytes hd hrefs (List.getElem?_eq_getElem hlt)
  rw [Schema.rows, rowCount_columnsBytes, hrows, List.filter_eq_self]
  -- every row describes a column of a table
  intro r hr
  obtain ⟨r', hr', rfl⟩ := List.mem_map.mp hr
  obtain ⟨t, ht, i, c, hc, rfl⟩ := mem_columnRows hr'
  obtain ⟨hne, hnotMissing⟩ := hd.named t ht
  have hmax := (hd.columns t ht).2
  have hlt := (List.getElem?_eq_some_iff.mp hc).1
  have hposition : i + 1 ≤ Schema.maxColumns := Nat.le_trans hlt hmax
  simp [Schema.Row.isValid, stored, hne, hnotMissing, hposition]

end Draft

/-! ### Putting the tables together -/

namespace Schema

variable {tables : List Table} {t : Table} {r : Row}

theorem insert_of_forall_ne (h : ∀ t ∈ tables, t.name ≠ r.table) :
    insert r tables = tables ++ [⟨r.table, Table.place [] r.position (.ofType r.name r.packed), 0⟩] := by
  induction tables with
  | nil => rfl
  | cons t tables ih =>
    rw [insert, if_neg (h t (List.mem_cons_self ..)),
      ih fun t ht => h t (List.mem_cons_of_mem _ ht), List.cons_append]

theorem insert_concat (h : ∀ t ∈ tables, t.name ≠ r.table) (ht : t.name = r.table) :
    insert r (tables ++ [t]) =
      tables ++ [{ t with columns := Table.place t.columns r.position (.ofType r.name r.packed) }] := by
  induction tables with
  | nil => rw [List.nil_append, insert, if_pos ht, List.nil_append]
  | cons t tables ih =>
    rw [List.cons_append, insert, if_neg (h t (List.mem_cons_self ..)),
      ih fun t ht => h t (List.mem_cons_of_mem _ ht), List.cons_append]

/-- A column at the next position is appended. -/
theorem place_succ (columns : List Column) (c : Column) :
    Table.place columns (columns.length + 1) c = columns ++ [c] := by
  rw [Table.place, Nat.add_sub_cancel_left, Nat.add_sub_cancel, List.replicate_one,
    List.set_append_right _ _ (Nat.le_refl _), Nat.sub_self, List.set_cons_zero]

end Schema

namespace Draft

variable {d : Draft} {width : Nat} {tables : List Table}

/-- A table as it is put together, before the widths of its columns are known. -/
def unsized (t : DraftTable) : Table :=
  ⟨t.name, t.columns.map fun c => .ofType c.name (c.packed ||| 0x8000), 0⟩

/-- The rows of a table put it together column by column. -/
theorem foldl_rowsOf {name : String} {columns : List DraftColumn} (hne : columns ≠ [])
    (h : ∀ t ∈ tables, t.name ≠ name) (rows : List (List Cell)) :
    ((rowsOf ⟨name, columns, rows⟩).map stored).foldl (fun tables r => Schema.insert r tables) tables =
      tables ++ [unsized ⟨name, columns, rows⟩] := by
  -- from behind, for a column goes to the end of its table
  induction columns using List.reverseRecOn with
  | nil => exact absurd rfl hne
  | append_singleton columns c ih =>
    have hrows : rowsOf ⟨name, columns ++ [c], rows⟩ =
        rowsOf ⟨name, columns, rows⟩ ++ [⟨name, columns.length + 1, c.name, c.packed⟩] :=
      List.mapIdx_concat
    rw [hrows, List.map_append, List.foldl_append]
    by_cases hnil : columns = []
    · -- the first column brings the table into being
      subst hnil
      exact Schema.insert_of_forall_ne h
    · -- the table is the last one so far, and this is its next column
      rw [ih hnil]
      refine (Schema.insert_concat (r := stored ⟨name, columns.length + 1, c.name, c.packed⟩) h rfl).trans ?_
      have hlen : (unsized ⟨name, columns, rows⟩).columns.length = columns.length := List.length_map _
      dsimp only [stored]
      rw [← hlen, Schema.place_succ, unsized, unsized, List.map_append]
      rfl

/-- The rows of all tables put them together one after the other. -/
theorem foldl_columnRows (hdistinct : (d.map DraftTable.name).Nodup)
    (hne : ∀ t ∈ d, t.columns ≠ []) (h : ∀ t ∈ tables, ∀ t' ∈ d, t.name ≠ t'.name) :
    (d.columnRows.map stored).foldl (fun tables r => Schema.insert r tables) tables =
      tables ++ d.map unsized := by
  -- on the tables, with those that are there already free
  induction d generalizing tables with
  | nil => rw [List.map_nil, List.append_nil]; rfl
  | cons t d ih =>
    rw [List.map_cons, List.nodup_cons] at hdistinct
    rw [columnRows_eq, List.flatMap_cons, List.map_append, List.foldl_append,
      foldl_rowsOf (hne t (List.mem_cons_self ..)) (fun t' ht' => h t' ht' t (List.mem_cons_self ..)),
      ← columnRows_eq, ih hdistinct.2 (fun t ht => hne t (List.mem_cons_of_mem _ ht)) ?_,
      List.map_cons, List.append_assoc, List.singleton_append]
    intro t' ht' t'' ht''
    rcases List.mem_append.mp ht' with ht' | ht'
    · exact h t' ht' t'' (List.mem_cons_of_mem _ ht'')
    · -- the table that was just put together has a name of its own
      rw [List.mem_singleton.mp ht']
      intro heq
      exact hdistinct.1 (List.mem_map.mpr ⟨t'', ht'', heq.symm⟩)

theorem sized_unsized (width : Nat) (t : DraftTable) :
    (unsized t).sized width = t.table width := by
  have hcolumns : (unsized t).columns.map (Column.sized width) =
      t.columns.map (DraftColumn.column width) := by
    rw [unsized, List.map_map]
    exact List.map_congr_left fun c _ => c.sized_ofType width
  rw [Table.sized, hcolumns, Table.widthOf, List.map_map]
  rfl

/-- **The tables are read back**, in order, with all their columns. -/
theorem read_columnsBytes (hd : d.WellFormed) (hrefs : d.strings.length ≤ 256 ^ width) :
    Schema.read (Bytes.ofList (d.columnsBytes width)) d.strings.toArray width =
      d.map (DraftTable.table width) := by
  have hne : ∀ t ∈ d, t.columns ≠ [] := fun t ht => List.ne_nil_of_length_pos (hd.columns t ht).1
  rw [Schema.read, rows_columnsBytes hd hrefs,
    foldl_columnRows hd.distinct hne (fun t ht => absurd ht List.not_mem_nil), List.nil_append,
    List.map_map]
  exact List.map_congr_left fun t _ => sized_unsized width t

/-- The width of the references is told from the size of the list, or else from the number of
strings. -/
theorem referenceWidth_columnsBytes (hrefs : d.strings.length ≤ 256 ^ width)
    (hwidth : width = 2 ∨ width = 3 ∧
      (Schema.largePool < d.strings.length ∨ (d.map fun t => t.columns.length).sum % 4 ≠ 0)) :
    Schema.referenceWidth (d.columnsBytes width).length d.strings.length = width := by
  rw [length_columnsBytes, length_columnRows]
  generalize (d.map fun t => t.columns.length).sum = n at *
  unfold Schema.referenceWidth
  rcases hwidth with rfl | ⟨rfl, hwidth⟩
  · -- all lists with short references can be divided by 8
    have hbyEight : n * (2 * 2 + 4) % 8 = 0 := Nat.mul_mod_left n 8
    have hpool : ¬ Schema.largePool < d.strings.length := Nat.not_lt.mpr hrefs
    simp [hbyEight, hpool]
  · -- those with long ones by 10, which decides if 8 does not divide or the pool is large
    have hbyTen : n * (2 * 3 + 4) % 10 = 0 := Nat.mul_mod_left n 10
    rcases hwidth with hpool | hfour
    · simp [hbyTen, hpool]
    · -- 10 * n can only be divided by 8 if n can be divided by 4
      have hbyEight : n * (2 * 3 + 4) % 8 ≠ 0 := by omega
      simp [hbyTen, hbyEight]

end Draft

end InstallerPackage
