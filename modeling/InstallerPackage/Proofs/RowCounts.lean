import InstallerPackage.Proofs.Counts
import InstallerPackage.Proofs.InstalledFiles

/-!
# Announced rows and rows that are read

A package lists its tables with a number of rows for each. That number is the declared size of the
table's stream divided by the size of a row; the rows themselves are read from the bytes that the
chain of the stream supplies. `Package.tables_match_rows` says how the two are related: there are never
more rows than announced (`Table.rowCount_mono`, since a stream is never longer than declared), and
there are just as many if the stream is whole.

The rows of an entry are those of its own table because no two tables of a schema have one name
(`Schema.nodup_names_read`).
-/

namespace InstallerPackage

/-! ### The names of a schema -/

namespace Schema

variable {tables : List Table} {r : Row}

/-- A row adds a table just if there is none of its name. -/
theorem map_name_insert (r : Row) (tables : List Table) :
    (insert r tables).map Table.name =
      if r.table ∈ tables.map Table.name then tables.map Table.name
      else tables.map Table.name ++ [r.table] := by
  -- on the tables, as the row looks for one of its name from the front
  induction tables with
  | nil => rfl
  | cons t tables ih =>
    by_cases hname : t.name = r.table
    · rw [insert, if_pos hname, List.map_cons, List.map_cons, if_pos (by simp [hname])]
    · have hmem : r.table ∈ (t :: tables).map Table.name ↔ r.table ∈ tables.map Table.name := by
        simp [Ne.symm hname]
      rw [insert, if_neg hname, List.map_cons, ih, if_congr hmem rfl rfl]
      split <;> rfl

theorem nodup_names_insert (h : (tables.map Table.name).Nodup) :
    ((insert r tables).map Table.name).Nodup := by
  rw [map_name_insert]
  split
  · exact h
  · next hnew => exact List.nodup_append.mpr ⟨h, List.nodup_singleton _, by grind⟩

theorem nodup_names_foldl (rows : List Row) (h : (tables.map Table.name).Nodup) :
    ((rows.foldl (fun tables r => insert r tables) tables).map Table.name).Nodup := by
  induction rows generalizing tables with
  | nil => exact h
  | cons r rows ih => exact ih (nodup_names_insert h)

/-- No two tables of a schema have one name. -/
theorem nodup_names_read (raw : ByteArray) (strings : Array String) (width : Nat) :
    ((read raw strings width).map Table.name).Nodup := by
  rw [read, List.map_map]
  exact nodup_names_foldl _ List.nodup_nil

/-- Where names are distinct, a table is found by its own. -/
theorem find?_of_mem {t : Table} (h : (tables.map Table.name).Nodup) (ht : t ∈ tables) :
    find? tables t.name = some t := by
  cases hf : find? tables t.name with
  | none => exact absurd (decide_eq_true rfl) (List.find?_eq_none.mp hf t ht)
  | some t' =>
    have hname : t'.name = t.name := by simpa using List.find?_some hf
    rw [List.inj_on_of_nodup_map h (List.mem_of_find?_eq_some hf) ht hname]

end Schema

/-- A longer stream has no fewer rows. -/
theorem Table.rowCount_mono (t : Table) {size size' : Nat} (h : size ≤ size') :
    t.rowCount size ≤ t.rowCount size' := by
  unfold rowCount
  split
  · exact Nat.le_refl 0
  · exact Nat.div_le_div_right h

/-! ### The entries of a package -/

open Image

namespace Package

variable {b : ByteArray} {style : Manifest.Style} {p : Package} {t : Table}

theorem nodup_names_of_load (h : (load b style).outcome.value = .ok p) :
    (p.database.tables.map Table.name).Nodup := by
  rw [(readFrom_of_load h).database]
  cases (Database.loadPool p.container).value with
  | none => exact List.nodup_nil
  | some pool =>
    rw [Option.elim_some, Database.loadTables]
    split
    · exact List.nodup_nil
    · exact Schema.nodup_names_read ..

/-- The rows of a table that has a stream. -/
theorem length_rows_of_find? {record : Record} (ht : p.table? t.name = some t)
    (hrecord : Database.find? p.container (Database.streamName t.name) = some record) :
    (p.rows t.name).length = t.rowCount (p.container.volume.readRecord record).value.size := by
  rw [rows_of_find? ht hrecord, Table.length_rows]

/-- **The rows of a table are as many as announced if its stream is whole, and never more.** The
entries of a loaded package have the names of the tables of its schema, in order and each once. For
every entry, at most the announced number of rows is read; without a stream there are no rows and none
are announced; and if the stream has all the bytes that it declares, just the announced number of
rows is read. -/
theorem tables_match_rows (b : ByteArray) (style : Manifest.Style) (p : Package)
    (h : (load b style).outcome.value = .ok p) :
    p.tables.map TableEntry.name = p.database.tables.map Table.name ∧
    (p.tables.map TableEntry.name).Nodup ∧
    ∀ entry ∈ p.tables,
      (p.readTable entry.name).value.length ≤ entry.rowCount ∧
      (Database.find? p.container (Database.streamName entry.name) = none →
        entry.rowCount = 0 ∧ (p.readTable entry.name).value = []) ∧
      ∀ record, Database.find? p.container (Database.streamName entry.name) = some record →
        record.isStream = true →
        (p.container.volume.readRecord record).value.size = record.size →
        (p.readTable entry.name).value.length = entry.rowCount := by
  have hnodup := nodup_names_of_load h
  -- the entries stand for the tables of the database
  have htables := (readFrom_of_load h).tables
  have hnames : p.tables.map TableEntry.name = p.database.tables.map Table.name := by
    rw [htables, List.map_map]
    rfl
  refine ⟨hnames, hnames ▸ hnodup, fun entry hentry => ?_⟩
  rw [htables] at hentry
  obtain ⟨t, ht, rfl⟩ := List.mem_map.mp hentry
  -- the entry is about the table that its name leads to
  have hfound : p.table? t.name = some t := Schema.find?_of_mem hnodup ht
  change (p.rows t.name).length ≤ Database.rowCount p.container t ∧ _
  -- a table without a stream has no rows; with one, both counts come from it
  cases hrecord : Database.find? p.container (Database.streamName t.name) with
  | none =>
    have hrows : p.rows t.name = [] := by
      rw [rows, readTable, Database.readTable, hrecord]
      cases p.database.table? t.name <;> rfl
    have hcount : Database.rowCount p.container t = 0 := by rw [Database.rowCount, hrecord]
    rw [hrows, hcount]
    exact ⟨Nat.le_refl 0, fun _ => ⟨rfl, hrows⟩,
      fun record hsome => absurd hsome.symm (Option.some_ne_none record)⟩
  | some record =>
    have hcount : Database.rowCount p.container t = t.rowCount record.size := by
      rw [Database.rowCount, hrecord]
    have hlength := length_rows_of_find? hfound hrecord
    rw [hlength, hcount]
    -- what is read is at most what the record says, and the rows grow with the bytes
    refine ⟨t.rowCount_mono (p.container.volume.size_readRecord_le record), ?_, ?_⟩
    · intro hnone
      cases hnone
    · intro record' hrecord' _ hwhole
      obtain rfl : record = record' := Option.some.inj hrecord'
      exact hlength.trans (congrArg t.rowCount hwhole)

/-- In the written file the stream of the table of files is whole, so its three rows are announced. -/
theorem tables_match_rows_sample :
    ∃ p, (load filesImage {}).outcome.value = .ok p ∧
      ∃ entry ∈ p.tables, entry.name = "File" ∧ entry.rowCount = 3 := by
  obtain ⟨p, hp, hholding⟩ := exists_load_write Layout.valid_sample
    (Outline.wellFormed_ofStreams storable_filesSample) small_filesImage {}
  obtain ⟨p', t, hp', ht, -, -, -, hrows⟩ := exists_load_filesImage
  obtain rfl : p = p' := Except.ok.inj (hp.symm.trans hp')
  -- the stream of the table was written, so its record has all its bytes
  have hmem := Draft.table_mem_streams (d := filesSample) (t := fileSample) (by simp [filesSample])
    .low 2
  obtain ⟨record, hrecord, hsize, hbytes⟩ :=
    hholding.find? (rootName_ne hmem) (carries_filesSample _ hmem)
  have hwhole : (p.container.volume.readRecord record).value.size = record.size := by
    rw [hbytes, hsize]
    exact Bytes.size_ofList _
  -- the record is one of a stream, for its bytes were read
  have hstream : record.isStream = true := by
    by_contra hnot
    rw [Image.readRecord_of_not_isStream _ (Bool.eq_false_iff.mpr hnot)] at hwhole
    rw [hsize] at hwhole
    exact absurd hwhole (by decide +kernel)
  obtain ⟨hnames, -, hentries⟩ := tables_match_rows filesImage {} p hp
  have hname : "File" ∈ p.tables.map TableEntry.name := by
    have hfound : t.name = "File" := by simpa using List.find?_some ht
    rw [hnames, ← hfound]
    exact List.mem_map_of_mem (List.mem_of_find?_eq_some ht)
  obtain ⟨entry, hentry, hentryName⟩ := List.mem_map.mp hname
  refine ⟨p, hp, entry, hentry, hentryName, ?_⟩
  have hcount := (hentries entry hentry).2.2 record (by rw [hentryName]; exact hrecord) hstream hwhole
  rw [← hcount, hentryName]
  change (p.rows "File").length = 3
  rw [hrows]
  rfl

end Package

end InstallerPackage
