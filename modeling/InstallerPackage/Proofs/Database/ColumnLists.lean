import InstallerPackage.Proofs.RowCounts
import InstallerPackage.Proofs.Strict.Faults

/-!
# Lists of columns in any order

The list of columns is meant to go through the tables one by one, and through the columns of each from
left to right, but nothing forces it to. Its rows may come in any order and more than once, leave gaps,
and be about no table at all. What is read from such a list has a closed form, `Schema.read_eq`: a table
for every name that a valid row has, in the order in which the names are first met, and at every position
of a table the column of the last row that is about it.

* `Schema.tableOf` is the table that some rows describe. Of the rows only `Schema.lastPosition` and
  `Schema.lastRow?` count, and taking in one more row changes them in the way in which
  `Schema.insert` changes the table (`Schema.tableOf_concat_self`, `Schema.tableOf_concat_of_ne`).
* `Strict.wholeRow` reads a row and fails where a byte is missing. It never does
  (`Schema.wholeRow_eq`): the four blocks fit into the list.

`Schema.read_from_last_rows` puts this together, and says that the order of rows about different positions
matters to the order of the tables alone.
-/

namespace InstallerPackage

/-! ### Columns at positions -/

namespace Table

variable {columns : List Column} {position : Nat}

theorem getElem?_place (columns : List Column) (h : 0 < position) (c : Column) (i : Nat) :
    (place columns position c)[i]? =
      if i + 1 = position then some c
      else if i < columns.length then columns[i]?
      else if i < position then some .placeholder else none := by
  have hlength := length_place columns position c
  -- the place itself, then what was there before, then the padding
  by_cases hi : i + 1 = position
  · have hlt : i < (columns ++ List.replicate (position - columns.length) Column.placeholder).length := by
      rw [List.length_append, List.length_replicate]
      omega
    rw [if_pos hi, place, ← hi, Nat.add_sub_cancel, List.getElem?_set_self]
    rw [hi]
    exact hlt
  · rw [if_neg hi, place, List.getElem?_set_ne (by omega), List.getElem?_append]
    split
    · rfl
    · rw [List.getElem?_replicate]
      exact if_congr (by omega) rfl rfl

end Table

namespace Schema

variable {rows rows' : List Row} {r r' : Row} {name : String} {position width : Nat}

theorem Row.isValid_iff :
    r.isValid = true ↔
      r.table ≠ "" ∧ r.table ≠ "<Error>" ∧ 1 ≤ r.position ∧ r.position ≤ maxColumns := by
  simp only [isValid, StringPool.missing, Bool.and_eq_true, bne_iff_ne, decide_eq_true_eq, and_assoc,
    Nat.succ_le_iff]

/-- The row is about a position of a table. -/
def Row.IsAt (r : Row) (name : String) (position : Nat) : Prop :=
  r.table = name ∧ r.position = position

instance (r : Row) (name : String) (position : Nat) : Decidable (r.IsAt name position) :=
  inferInstanceAs (Decidable (_ ∧ _))

/-- The last row about a position, if there is one. -/
def lastRow? (rows : List Row) (name : String) (position : Nat) : Option Row :=
  (rows.filter (·.IsAt name position)).getLast?

/-- The column that some rows put at a position. -/
def columnAt (rows : List Row) (name : String) (position : Nat) : Column :=
  (lastRow? rows name position).elim .placeholder fun r => .ofType r.name r.packed

/-- The greatest position of a table that some rows are about. -/
def lastPosition (rows : List Row) (name : String) : Nat :=
  rows.foldl (fun n r => if r.table = name then max n r.position else n) 0

/-- The table that some rows describe, before the widths of its columns are known. -/
def tableOf (rows : List Row) (name : String) : Table :=
  ⟨name, (List.range (lastPosition rows name)).map fun i => columnAt rows name (i + 1), 0⟩

theorem lastRow?_concat (rows : List Row) (r : Row) (name : String) (position : Nat) :
    lastRow? (rows ++ [r]) name position =
      if r.IsAt name position then some r else lastRow? rows name position := by
  rw [lastRow?, List.filter_append]
  split
  · next h => rw [List.filter_cons_of_pos (by simpa using h), List.filter_nil, List.getLast?_concat]
  · next h =>
    rw [List.filter_cons_of_neg (by simpa using h), List.filter_nil, List.append_nil, lastRow?]

theorem lastRow?_eq_none_iff :
    lastRow? rows name position = none ↔ ∀ r ∈ rows, ¬ r.IsAt name position := by
  rw [lastRow?, List.getLast?_eq_none_iff, List.filter_eq_nil_iff]
  simp only [decide_eq_true_eq]

theorem lastPosition_concat (rows : List Row) (r : Row) (name : String) :
    lastPosition (rows ++ [r]) name =
      if r.table = name then max (lastPosition rows name) r.position
      else lastPosition rows name := by
  rw [lastPosition, List.foldl_append, List.foldl_cons, List.foldl_nil, lastPosition]

/-- A table ends where all rows about it are. -/
theorem lastPosition_le_iff {n : Nat} :
    lastPosition rows name ≤ n ↔ ∀ r ∈ rows, r.table = name → r.position ≤ n := by
  induction rows using List.reverseRecOn with
  | nil => exact iff_of_true (Nat.zero_le n) fun r hr => absurd hr List.not_mem_nil
  | append_singleton rows r ih =>
    rw [lastPosition_concat, List.forall_mem_append, List.forall_mem_singleton, ← ih]
    split
    · next h => rw [Nat.max_le, forall_prop_of_true h]
    · next h => rw [forall_prop_of_false h, and_true]

/-- Behind the last position there is nothing. -/
theorem columnAt_of_lt (h : lastPosition rows name < position) :
    columnAt rows name position = .placeholder := by
  have hnone : lastRow? rows name position = none := by
    rw [lastRow?_eq_none_iff]
    rintro r hr ⟨hname, rfl⟩
    exact absurd (lastPosition_le_iff.mp (Nat.le_refl _) r hr hname) (Nat.not_le.mpr h)
  rw [columnAt, hnone, Option.elim_none]

/-- The last position is one that some row is about. -/
theorem isGreatest_lastPosition (h : ∃ r ∈ rows, r.table = name) :
    IsGreatest {p | ∃ r ∈ rows, r.IsAt name p} (lastPosition rows name) := by
  have hle := lastPosition_le_iff.mp (Nat.le_refl (lastPosition rows name))
  -- a row at the last position has to exist, for otherwise all of them would end one position earlier
  refine ⟨?_, ?_⟩
  · -- otherwise all rows about the table end before it
    by_contra hnot
    obtain ⟨r, hr, hname⟩ := h
    have hlt : ∀ r ∈ rows, r.table = name → r.position < lastPosition rows name :=
      fun r hr hname => Nat.lt_of_le_of_ne (hle r hr hname) fun heq => hnot ⟨r, hr, hname, heq⟩
    have hpos := hlt r hr hname
    have hless := lastPosition_le_iff.mpr fun r hr hname => Nat.le_sub_one_of_lt (hlt r hr hname)
    omega
  · rintro p ⟨r, hr, hname, rfl⟩
    exact hle r hr hname

theorem columnAt_concat (rows : List Row) (r : Row) (name : String) (position : Nat) :
    columnAt (rows ++ [r]) name position =
      if r.IsAt name position then .ofType r.name r.packed else columnAt rows name position := by
  rw [columnAt, lastRow?_concat]
  split
  · rfl
  · rfl

/-- A row about another table changes nothing. -/
theorem tableOf_concat_of_ne (h : name ≠ r.table) : tableOf (rows ++ [r]) name = tableOf rows name := by
  have hcolumn : ∀ p, columnAt (rows ++ [r]) name p = columnAt rows name p :=
    fun p => (columnAt_concat ..).trans (if_neg fun hat => h hat.1.symm)
  simp only [tableOf, lastPosition_concat, if_neg (Ne.symm h), hcolumn]

/-- A row about a table puts its column into place. -/
theorem tableOf_concat_self (hpos : 0 < r.position) :
    tableOf (rows ++ [r]) r.table =
      { tableOf rows r.table with
        columns := Table.place (tableOf rows r.table).columns r.position (.ofType r.name r.packed) } := by
  simp only [tableOf, lastPosition_concat, if_true, columnAt_concat]
  congr 1
  -- the two lists are compared position by position
  apply List.ext_getElem?
  intro i
  rw [Table.getElem?_place _ hpos, List.length_map, List.length_range]
  by_cases hi : i + 1 = r.position
  · have hlt : i < max (lastPosition rows r.table) r.position := by omega
    rw [if_pos hi, List.getElem?_map, List.getElem?_range hlt, Option.map_some, if_pos ⟨rfl, hi.symm⟩]
  rw [if_neg hi]
  by_cases hold : i < lastPosition rows r.table
  · -- a position that the table had before
    have hlt : i < max (lastPosition rows r.table) r.position := by omega
    rw [if_pos hold, List.getElem?_map, List.getElem?_map, List.getElem?_range hlt,
      List.getElem?_range hold, Option.map_some, Option.map_some, if_neg fun hat => hi hat.2.symm]
  rw [if_neg hold]
  split
  · -- a position between the end of the table and the new column
    have hlt : i < max (lastPosition rows r.table) r.position := by omega
    rw [List.getElem?_map, List.getElem?_range hlt, Option.map_some, if_neg fun hat => hi hat.2.symm,
      columnAt_of_lt (by omega)]
  · rw [List.getElem?_eq_none_iff, List.length_map, List.length_range]
    omega

/-! ### The tables of some rows -/

/-- One more name is a new one only if it was not met before. -/
theorem eraseDups_concat (names : List String) (name : String) :
    (names ++ [name]).eraseDups =
      if name ∈ names then names.eraseDups else names.eraseDups ++ [name] := by
  rw [List.eraseDups_append, List.removeAll]
  by_cases h : name ∈ names
  · simp [h]
  · simp [h, List.eraseDups_cons]

/-- Taking in a row changes the table that it is about, if there is one. -/
theorem insert_map {names : List String} {f g : String → Table} (hnodup : names.Nodup)
    (hname : ∀ name, (f name).name = name) (hmem : r.table ∈ names)
    (hself : g r.table = { f r.table with
      columns := Table.place (f r.table).columns r.position (.ofType r.name r.packed) })
    (hother : ∀ name, name ≠ r.table → g name = f name) :
    insert r (names.map f) = names.map g := by
  -- on the names, up to the one that the row is about
  induction names with
  | nil => exact absurd hmem List.not_mem_nil
  | cons name names ih =>
    obtain ⟨hnew, hnodup⟩ := List.nodup_cons.mp hnodup
    rw [List.map_cons, List.map_cons, insert, hname]
    by_cases h : name = r.table
    · -- the other tables have other names
      have hrest : names.map f = names.map g :=
        List.map_congr_left fun n hn => (hother n fun heq => hnew (h.trans heq.symm ▸ hn)).symm
      rw [if_pos h, h, hself, hrest]
      dsimp only
      rw [hname]
    · have hmem' : r.table ∈ names := (List.mem_cons.mp hmem).resolve_left (Ne.symm h)
      rw [if_neg h, hother name h, ih hnodup hmem']

/-- Rows that are taken in one after the other give a table for every name. -/
theorem foldl_insert (hpos : ∀ r ∈ rows, 0 < r.position) :
    rows.foldl (fun tables r => insert r tables) [] =
      (rows.map Row.table).eraseDups.map (tableOf rows) := by
  -- the last row may replace a column, so the rows are taken from behind
  induction rows using List.reverseRecOn with
  | nil => rfl
  | append_singleton rows r ih =>
    obtain ⟨hposRows, hposRow⟩ := List.forall_mem_append.mp hpos
    have hself := @tableOf_concat_self rows r (hposRow r (List.mem_singleton.mpr rfl))
    have hother : ∀ name, name ≠ r.table → tableOf (rows ++ [r]) name = tableOf rows name :=
      fun _ => tableOf_concat_of_ne
    have hnodup := @nodup_names_foldl [] rows List.nodup_nil
    rw [List.foldl_append, List.foldl_cons, List.foldl_nil, List.map_append, List.map_singleton,
      eraseDups_concat]
    rw [ih hposRows] at hnodup ⊢
    rw [List.map_map, show Table.name ∘ tableOf rows = id from rfl, List.map_id] at hnodup
    -- a row changes its table, or begins one that is empty until then
    split
    · next hmem => exact insert_map hnodup (fun _ => rfl) (List.mem_eraseDups.mpr hmem) hself hother
    · next hmem =>
      have hold : (rows.map Row.table).eraseDups.map (tableOf rows) =
          (rows.map Row.table).eraseDups.map (tableOf (rows ++ [r])) :=
        List.map_congr_left fun n hn =>
          (hother n fun heq => hmem (heq ▸ List.mem_eraseDups.mp hn)).symm
      -- no row was about the new name, so its table has no columns yet
      have hempty : tableOf rows r.table = ⟨r.table, [], 0⟩ := by
        have hnone : lastPosition rows r.table ≤ 0 := by
          rw [lastPosition_le_iff]
          exact fun r' hr' heq => absurd (heq ▸ List.mem_map_of_mem hr') hmem
        rw [tableOf, Nat.le_zero.mp hnone]
        rfl
      rw [List.map_append, List.map_singleton, ← hold, hself, hempty]
      refine insert_of_forall_ne fun t ht heq => ?_
      obtain ⟨n, hn, rfl⟩ := List.mem_map.mp ht
      exact hmem (heq ▸ List.mem_eraseDups.mp hn)

/-- A list of columns has a table for every name in it. -/
theorem read_eq (raw : ByteArray) (strings : Array String) (width : Nat) :
    read raw strings width = ((Schema.rows raw strings width).map Row.table).eraseDups.map fun name =>
      (tableOf (Schema.rows raw strings width) name).sized width := by
  have hpos : ∀ r ∈ Schema.rows raw strings width, 0 < r.position :=
    fun r hr => (Row.isValid_iff.mp (List.mem_filter.mp hr).2).2.2.1
  rw [read, foldl_insert hpos, List.map_map]
  rfl

theorem map_name_read (raw : ByteArray) (strings : Array String) (width : Nat) :
    (read raw strings width).map Table.name =
      ((Schema.rows raw strings width).map Row.table).eraseDups := by
  rw [read_eq, List.map_map]
  exact List.map_id _

/-! ### The order of the rows -/

/-- The same rows in another order, except that rows about one position keep theirs. -/
def Reordered (rows rows' : List Row) : Prop :=
  ∀ name position, rows.filter (·.IsAt name position) = rows'.filter (·.IsAt name position)

theorem Reordered.mem_iff (h : Reordered rows rows') : r ∈ rows ↔ r ∈ rows' := by
  have hself : ∀ rows : List Row, r ∈ rows.filter (·.IsAt r.table r.position) ↔ r ∈ rows := by
    intro rows
    rw [List.mem_filter, decide_eq_true_eq]
    exact and_iff_left ⟨rfl, rfl⟩
  rw [← hself rows, h, hself rows']

/-- Rows about one position decide on its column, and only the greatest position on the length. -/
theorem Reordered.tableOf_eq (h : Reordered rows rows') : tableOf rows = tableOf rows' := by
  have hcolumn : columnAt rows = columnAt rows' := by
    funext name p
    rw [columnAt, lastRow?, h name p]
    rfl
  have hlast : lastPosition rows = lastPosition rows' := by
    funext name
    refine eq_of_forall_ge_iff fun n => ?_
    simp only [lastPosition_le_iff, h.mem_iff]
  funext name
  rw [tableOf, hcolumn, hlast, tableOf]

/-- Neighbours about different positions can change places. -/
theorem reordered_swap (h : ¬ (r.table = r'.table ∧ r.position = r'.position)) (rows : List Row) :
    Reordered (r :: r' :: rows) (r' :: r :: rows) := by
  intro name position
  by_cases hr : r.IsAt name position
  · have hr' : ¬ r'.IsAt name position :=
      fun hr' => h ⟨hr.1.trans hr'.1.symm, hr.2.trans hr'.2.symm⟩
    simp [hr, hr']
  · simp [List.filter_cons, hr]

/-- The same tables come out, possibly in another order. -/
theorem read_perm {raw raw' : ByteArray} {strings : Array String}
    (h : Reordered (Schema.rows raw strings width) (Schema.rows raw' strings width)) :
    (read raw strings width).Perm (read raw' strings width) := by
  have hnodup : ∀ raw, ((Schema.rows raw strings width).map Row.table).eraseDups.Nodup := by
    intro raw
    rw [← map_name_read]
    exact nodup_names_read raw strings width
  rw [read_eq, read_eq, h.tableOf_eq]
  refine List.Perm.map _ ((List.perm_ext_iff_of_nodup (hnodup raw) (hnodup raw')).mpr fun name => ?_)
  simp only [List.mem_eraseDups, List.mem_map, h.mem_iff]

end Schema

/-! ### The bytes of a row -/

namespace Strict

/-- A row of a list of columns with `n` rows. All the bytes of its four numbers have to be there. -/
def wholeRow (raw : ByteArray) (strings : Array String) (width n i : Nat) : Strict Schema.Row := do
  let positions := n * width
  let names := positions + n * 2
  let types := names + n * width
  let table ← cut raw (i * width) width
  let position ← cut raw (positions + i * 2) 2
  let name ← cut raw (names + i * width) width
  let packed ← cut raw (types + i * 2) 2
  pure
    { table := StringPool.get strings (Bytes.number table 0 width)
      position := Bytes.number position 0 2 % 0x8000
      name := StringPool.get strings (Bytes.number name 0 width)
      packed := Bytes.number packed 0 2 }

/-- The four blocks fit into the list, so no byte of a row is missing. -/
theorem wholeRow_eq {raw : ByteArray} (strings : Array String) {width i : Nat}
    (hi : i < Schema.rowCount raw width) :
    wholeRow raw strings width (Schema.rowCount raw width) i =
      pure (Schema.row raw strings width i) := by
  have hfit : Schema.rowCount raw width * (2 * width + 4) ≤ raw.size := Nat.div_mul_le_self ..
  -- the four blocks are as long as the list, up to what is left of the division
  have hsplit : Schema.rowCount raw width * (2 * width + 4) =
      2 * (Schema.rowCount raw width * width) + 4 * Schema.rowCount raw width := by ring
  have hrow : i * width + width ≤ Schema.rowCount raw width * width := by
    rw [← Nat.succ_mul]
    exact Nat.mul_le_mul_right width hi
  rw [wholeRow, cut_eq (by omega), pure_bind, cut_eq (by omega), pure_bind, cut_eq (by omega), pure_bind,
    cut_eq (by omega), pure_bind]
  -- all four cuts fit, so the numbers are those of the whole list
  simp only [Bytes.number_slice raw (Nat.le_of_eq (Nat.zero_add _)), Nat.add_zero]
  rfl

end Strict

/-! ### What is read -/

namespace Schema

variable {rows : List Row} {name : String} {width : Nat}

/-- The column at a position, by the last row about it: what the type of that row says, with a width for
its cells, or a column without a name and without a width where there is no row. -/
def Describes (width : Nat) : Option Row → Column → Prop
  | some r, c => c = (Column.ofType r.name r.packed).sized width ∧
      (c.kind = .string ∧ c.size = width ∨ c.kind = .integer ∧ (c.size = 2 ∨ c.size = 4))
  | none, c => c = .placeholder

theorem describes_sized (width : Nat) (rows : List Row) (name : String) (position : Nat) :
    Describes width (lastRow? rows name position) ((columnAt rows name position).sized width) := by
  rw [columnAt]
  cases lastRow? rows name position with
  | none => rfl
  | some r =>
    refine ⟨rfl, ?_⟩
    rcases Column.isTyped_ofType r.name r.packed with hstring | hint
    · exact .inl ⟨hstring, Column.size_sized_of_string hstring⟩
    · cases hkind : (Column.ofType r.name r.packed).kind with
      | string => exact .inl ⟨hkind, Column.size_sized_of_string hkind⟩
      | integer => exact .inr ⟨hkind, by rwa [Option.elim_some, Column.sized, hkind]⟩

theorem rows_eq_filter (raw : ByteArray) (strings : Array String) (width : Nat) :
    Schema.rows raw strings width =
      ((List.range (raw.size / (2 * width + 4))).map (row raw strings width)).filter fun r =>
        r.table ≠ "" ∧ r.table ≠ "<Error>" ∧ 1 ≤ r.position ∧ r.position ≤ 255 := by
  refine List.filter_congr fun r _ => ?_
  rw [Bool.eq_iff_iff, Row.isValid_iff, decide_eq_true_eq]
  rfl

/-- The columns of a table that is read, one for every position. -/
theorem getElem?_columns_tableOf {i : Nat} (hi : i < lastPosition rows name) :
    ((tableOf rows name).sized width).columns[i]? = some ((columnAt rows name (i + 1)).sized width) := by
  rw [Table.sized, tableOf, List.getElem?_map, List.getElem?_map, List.getElem?_range hi,
    Option.map_some, Option.map_some]

/-- **The tables are those of the valid rows, and at every position the last row counts.** Take any list
of columns, any strings, and references of any width. All bytes of all rows are there. A row is valid if
it names a table that is not a missing text, and a position from 1 to 255.

* There is a table for every name in a valid row, in the order in which the names come first.
* It has as many columns as the greatest position in a valid row with its name, and every column is
  described by the last valid row about its position, if there is one.
* When the valid rows come in another order, those about one position excepted, the tables come in
  another order, and each of them is the same. -/
theorem read_from_last_rows (raw : ByteArray) (strings : Array String) (width : Nat) :
    let n := raw.size / (2 * width + 4)
    let valid (raw : ByteArray) : List Row :=
      ((List.range (raw.size / (2 * width + 4))).map (row raw strings width)).filter fun r =>
        r.table ≠ "" ∧ r.table ≠ "<Error>" ∧ 1 ≤ r.position ∧ r.position ≤ 255
    let tables := read raw strings width
    (List.range n).mapM (Strict.wholeRow raw strings width n) =
      pure ((List.range n).map (row raw strings width)) ∧
    tables.map Table.name = ((valid raw).map Row.table).eraseDups ∧
    (∀ t ∈ tables, IsGreatest {p | ∃ r ∈ valid raw, r.IsAt t.name p} t.columns.length ∧
      ∀ i < t.columns.length, ∃ c, t.columns[i]? = some c ∧
        Describes width (lastRow? (valid raw) t.name (i + 1)) c) ∧
    ∀ raw', Reordered (valid raw) (valid raw') → tables.Perm (read raw' strings width) := by
  intro n valid tables
  -- the rows that count are those that the loop keeps
  have hvalid : ∀ raw, valid raw = Schema.rows raw strings width :=
    fun raw => (rows_eq_filter raw strings width).symm
  rw [hvalid]
  refine ⟨Strict.mapM_eq fun i hi => Strict.wholeRow_eq strings (List.mem_range.mp hi),
    map_name_read raw strings width, fun t ht => ?_, fun raw' h => read_perm (hvalid raw' ▸ h)⟩
  change t ∈ read raw strings width at ht
  rw [read_eq, List.mem_map] at ht
  obtain ⟨name, hname, rfl⟩ := ht
  rw [List.mem_eraseDups, List.mem_map] at hname
  -- the width pass keeps the number of columns
  have hlength : ((tableOf (Schema.rows raw strings width) name).sized width).columns.length =
      lastPosition (Schema.rows raw strings width) name := by
    rw [Table.sized, tableOf, List.length_map, List.length_map, List.length_range]
  rw [hlength]
  exact ⟨isGreatest_lastPosition hname, fun i hi =>
    ⟨_, getElem?_columns_tableOf hi, describes_sized width _ name (i + 1)⟩⟩

/-- The names that the two sample lists refer to. -/
def mixedNames : Array String := #["", "T", "U", "A", "B"]

/-- Four rows: two about the second column of a table, one about another table in between, and one
without a position. -/
def mixedList : ByteArray :=
  Bytes.ofList ([1, 2, 1, 1, 0x8002, 0x8001, 0x8002, 0x8000, 3, 3, 4, 4, 0x8104, 0x8D48, 0x8502,
    0x8102].flatMap (Bytes.little 2))

/-- The other table first, and no row without a position. -/
def swappedList : ByteArray :=
  Bytes.ofList ([2, 1, 1, 0x8001, 0x8002, 0x8002, 3, 3, 4, 0x8D48, 0x8104, 0x8502].flatMap
    (Bytes.little 2))

/-- Both lists have the same two tables, in different orders, and the last row about the second column
counts. -/
theorem read_from_last_rows_mixed :
    let first : Table := ⟨"T", [.placeholder, Column.sized 2 (.ofType "B" 0x8502)], 2⟩
    Reordered (Schema.rows mixedList mixedNames 2) (Schema.rows swappedList mixedNames 2) ∧
      (read mixedList mixedNames 2).map Table.name = ["T", "U"] ∧
      (read swappedList mixedNames 2).map Table.name = ["U", "T"] ∧
      (read mixedList mixedNames 2).Perm (read swappedList mixedNames 2) ∧
      first ∈ read mixedList mixedNames 2 ∧ first ∈ read swappedList mixedNames 2 := by
  intro first
  -- the rows of both lists, as they are read
  have hmixed : Schema.rows mixedList mixedNames 2 =
      [⟨"T", 2, "A", 0x8104⟩, ⟨"U", 1, "A", 0x8D48⟩, ⟨"T", 2, "B", 0x8502⟩] := by decide +kernel
  have hswapped : Schema.rows swappedList mixedNames 2 =
      [⟨"U", 1, "A", 0x8D48⟩, ⟨"T", 2, "A", 0x8104⟩, ⟨"T", 2, "B", 0x8502⟩] := by decide +kernel
  have hreordered : Reordered (Schema.rows mixedList mixedNames 2)
      (Schema.rows swappedList mixedNames 2) := by
    rw [hmixed, hswapped]
    exact reordered_swap (by decide) _
  have hfirst : first ∈ read mixedList mixedNames 2 := by decide +kernel
  obtain ⟨-, hnames, -, hperm⟩ := read_from_last_rows mixedList mixedNames 2
  obtain ⟨-, hnames', -, -⟩ := read_from_last_rows swappedList mixedNames 2
  dsimp only at hnames hnames' hperm
  rw [← rows_eq_filter, hmixed] at hnames
  rw [← rows_eq_filter, hswapped] at hnames'
  have hsame := hperm swappedList (by rwa [← rows_eq_filter, ← rows_eq_filter])
  exact ⟨hreordered, hnames.trans (by decide), hnames'.trans (by decide), hsame, hfirst,
    hsame.mem_iff.mp hfirst⟩

end Schema

end InstallerPackage
