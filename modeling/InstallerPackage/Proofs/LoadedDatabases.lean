import InstallerPackage.Proofs.Database.Cells
import InstallerPackage.Proofs.Image.Streams

/-!
# The database of a loaded package

`Package.rows` are the rows of a table of a package, and `Package.files_eq` says how the files are made
of them.

`Package.exists_load_of_carries` goes the whole way for a database that was written: the streams of
a draft are put into an outline, the outline is written as a file, and the package that is loaded
from it has the tables and the rows of the draft. What the file may hold besides is not restricted,
as long as no entry in front of a stream of the database has its name.
-/

namespace InstallerPackage

namespace Schema

theorem two_le_referenceWidth (listSize stringCount : Nat) :
    2 ≤ referenceWidth listSize stringCount := by
  unfold referenceWidth
  dsimp only
  split
  · decide
  split
  · decide
  split <;> decide

end Schema

namespace Package

variable {b : ByteArray} {style : Manifest.Style} {p : Package} {t : Table} {name : String}
  {record : Record}

/-- The tables of a package were read from a list of columns. -/
theorem wellSized_of_load (h : (load b style).outcome.value = .ok p) (ht : p.table? name = some t) :
    t.WellSized p.database.referenceWidth := by
  have hmem : t ∈ p.database.tables := List.mem_of_find?_eq_some ht
  have hdb := (readFrom_of_load h).database
  -- a database without a pool has no tables
  cases hpool : (Database.loadPool p.container).value with
  | none =>
    rw [hdb, hpool] at hmem
    exact absurd hmem List.not_mem_nil
  | some pool =>
    rw [hpool, Option.elim_some] at hdb
    rw [hdb] at hmem ⊢
    unfold Database.loadTables at hmem ⊢
    split at hmem
    · exact absurd hmem List.not_mem_nil
    · exact Schema.wellSized_of_mem_read (Schema.two_le_referenceWidth _ _) hmem

/-- The rows of a table. -/
def rows (p : Package) (name : String) : List (List String) := (p.readTable name).value

theorem rows_of_find? (ht : p.table? name = some t)
    (hrecord : Database.find? p.container (Database.streamName name) = some record) :
    p.rows name = t.rows (p.container.volume.readRecord record).value p.database.pool.strings
      p.database.referenceWidth := by
  have ht' : p.database.table? name = some t := ht
  rw [rows, readTable, Database.readTable, ht', hrecord]
  rfl

/-- Every row of a table has a cell for every column. -/
theorem length_of_mem_rows {row : List String} (ht : p.table? name = some t)
    (hrow : row ∈ p.rows name) : row.length = t.columns.length := by
  cases hrecord : Database.find? p.container (Database.streamName name) with
  | none =>
    have ht' : p.database.table? name = some t := ht
    rw [rows, readTable, Database.readTable, ht', hrecord] at hrow
    exact absurd hrow List.not_mem_nil
  | some record =>
    rw [rows_of_find? ht hrecord] at hrow
    exact Table.length_of_mem_rows hrow

theorem files_eq (h : (load b style).outcome.value = .ok p) (ht : p.table? "File" = some t) :
    p.files = Manifest.files style (p.rows "Directory") (p.rows "Component") (p.rows "File") := by
  have ht' : p.database.table? "File" = some t := ht
  rw [(readFrom_of_load h).files, Database.manifest, ht']
  rfl

end Package

/-! ### Databases that were written -/

open Image

namespace Draft

variable {d : Draft} {t : DraftTable}

theorem columns_mem_streams (d : Draft) (word : LengthWord) (width : Nat) :
    (Database.columnsName, d.columnsBytes width) ∈ d.streams word width :=
  List.mem_append_right _ (List.mem_cons_self ..)

theorem pool_mem_streams (d : Draft) (word : LengthWord) (width : Nat) :
    (Database.poolName, d.poolBytes word) ∈ d.streams word width :=
  List.mem_append_right _ (List.mem_cons_of_mem _ (List.mem_cons_self ..))

theorem text_mem_streams (d : Draft) (word : LengthWord) (width : Nat) :
    (Database.textName, d.textBytes) ∈ d.streams word width :=
  List.mem_append_right _ (List.mem_cons_of_mem _ (List.mem_cons_of_mem _ (List.mem_cons_self ..)))

theorem table_mem_streams (ht : t ∈ d) (word : LengthWord) (width : Nat) :
    (Database.streamName t.name, d.tableBytes width t) ∈ d.streams word width :=
  List.mem_append_left _ (List.mem_map_of_mem ht)

/-- A table is found by its name, since no other one has it. -/
theorem find?_table (hd : d.WellFormed) (ht : t ∈ d) (width : Nat) :
    Schema.find? (d.map (DraftTable.table width)) t.name = some (t.table width) := by
  -- no table in front of this one has its name
  obtain ⟨front, back, rfl⟩ := List.append_of_mem ht
  have hdistinct := hd.distinct
  rw [List.map_append, List.map_cons, List.nodup_append] at hdistinct
  have hfront : ((front.map (DraftTable.table width)).find? (·.name = t.name)) = none := by
    rw [List.find?_eq_none]
    intro t' ht' hname
    obtain ⟨t'', ht'', rfl⟩ := List.mem_map.mp ht'
    exact hdistinct.2.2 _ (List.mem_map_of_mem ht'') _ (List.mem_cons_self ..)
      (decide_eq_true_eq.mp hname)
  rw [Schema.find?, List.map_append, List.find?_append, hfront, Option.none_or, List.map_cons,
    List.find?_cons_of_pos]
  exact decide_eq_true rfl

end Draft

namespace Package

variable {d : Draft} {o : Outline}

/-- An outline with all streams of a database. -/
def Carries (o : Outline) (d : Draft) (word : LengthWord) (width : Nat) : Prop :=
  ∀ stream ∈ d.streams word width, o.Has stream

/-- The streams of a database have names with an exclamation mark in front, unlike the root. -/
theorem rootName_ne {word : LengthWord} {width : Nat} {stream : Name × List UInt8}
    (h : stream ∈ d.streams word width) : Outline.rootName.decode ≠ stream.1 := by
  -- the mark is no character that a name is packed into, so no such name begins with it
  have hmark : ∀ name : String, Outline.rootName.decode ≠ Name.ofString ("!" ++ name) := by
    intro name hroot
    have hhead := congrArg List.head? hroot
    rw [Name.ofString, String.toList_append, List.map_append] at hhead
    exact absurd hhead (by simp [Outline.rootName, Name.ofString, Name.expand, Name.pairBase,
      Name.singleBase, Name.tableMark])
  rw [Draft.streams, List.mem_append] at h
  rcases h with h | h
  · obtain ⟨t, -, rfl⟩ := List.mem_map.mp h
    exact hmark t.name
  · simp only [List.mem_cons, List.not_mem_nil, or_false] at h
    rcases h with rfl | rfl | rfl
    · exact hmark "_Columns"
    · exact hmark "_StringPool"
    · exact hmark "_StringData"

/-- **A database that is written into a file is the one that is loaded.** -/
theorem exists_load_of_carries (l : Layout) (style : Manifest.Style) (word : LengthWord)
    {width : Nat} (hl : l.Valid) (hw : o.WellFormed) (hs : (plan l (o.items l.order)).Small) (hd : d.WellFormed)
    (he : d.Encodable) (hne : d ≠ []) (hrefs : d.strings.length ≤ 256 ^ width)
    (hwidth : width = 2 ∨ width = 3 ∧
      (Schema.largePool < d.strings.length ∨ (d.map fun t => t.columns.length).sum % 4 ≠ 0))
    (hcarries : Carries o d word width) :
    ∃ p, (load (write l o) style).outcome.value = .ok p ∧
      p.database = ⟨⟨.latin1, d.strings.toArray⟩, width, d.map (DraftTable.table width)⟩ ∧
      ∀ t ∈ d, p.table? t.name = some (t.table width) ∧
        p.rows t.name = t.rows.map fun row => row.map Cell.shown := by
  obtain ⟨p, hp, hholding⟩ := exists_load_write hl hw hs style
  -- every part of the database is looked up by the name of its stream
  have hfind : ∀ stream ∈ d.streams word width, ∃ r, Database.find? p.container stream.1 = some r ∧
      r.size = stream.2.length ∧
      p.container.volume.readRecord r = ⟨Bytes.ofList stream.2, []⟩ :=
    fun stream hstream => hholding.find? (rootName_ne hstream) (hcarries stream hstream)
  obtain ⟨columns, hcolumns, hcolumnsSize, hcolumnsBytes⟩ :=
    hfind _ (d.columns_mem_streams word width)
  obtain ⟨pool, hpool, -, hpoolBytes⟩ := hfind _ (d.pool_mem_streams word width)
  obtain ⟨text, htext, -, htextBytes⟩ := hfind _ (d.text_mem_streams word width)
  have hloadPool : (Database.loadPool p.container).value = some ⟨.latin1, d.strings.toArray⟩ := by
    rw [Database.loadPool, hpool, htext]
    dsimp only
    rw [hpoolBytes, htextBytes]
    exact congrArg Noted.value (Draft.read?_pool he word)
  have hdb : p.database = ⟨⟨.latin1, d.strings.toArray⟩, width, d.map (DraftTable.table width)⟩ := by
    -- the stream of the columns is looked into only if it has a size
    have hsize : (columns.size != 0) = true := by
      rw [hcolumnsSize, bne_iff_ne, Draft.length_columnsBytes, Draft.length_columnRows]
      obtain ⟨t, d, rfl⟩ := List.exists_cons_of_ne_nil hne
      have := (hd.columns t (List.mem_cons_self ..)).1
      rw [List.map_cons, List.sum_cons]
      refine Nat.ne_of_gt (Nat.mul_pos ?_ ?_) <;> omega
    rw [(readFrom_of_load hp).database, hloadPool, Option.elim_some, Database.loadTables, hcolumns,
      Option.filter_some, if_pos hsize]
    dsimp only
    rw [hcolumnsSize, List.size_toArray, Draft.referenceWidth_columnsBytes hrefs hwidth,
      hcolumnsBytes]
    exact congrArg (Database.mk _ width) (Draft.read_columnsBytes hd hrefs)
  -- a table is looked up by its name, and its rows by that of its stream
  refine ⟨p, hp, hdb, fun t ht => ?_⟩
  have htable : p.table? t.name = some (t.table width) := by
    rw [table?, Database.table?, hdb]
    exact Draft.find?_table hd ht width
  obtain ⟨record, hrecord, -, hbytes⟩ := hfind _ (Draft.table_mem_streams ht word width)
  refine ⟨htable, ?_⟩
  rw [rows_of_find? htable hrecord, hbytes, hdb]
  exact Draft.rows_tableBytes hd ht (by omega) hrefs

end Package

end InstallerPackage
