import InstallerPackage.Proofs.Chains
import InstallerPackage.Proofs.Packages
import InstallerPackage.Proofs.Summary.Entries

/-!
# How large the counts of a package can be

Whatever a file holds, none of the numbers that are counted in a package or read from its summary
information has more than 64 bits: `Package.Loaded.counted`. Every one of them goes back to a field of
fixed width. The rows of a table come from a stream that is not longer than the 64-bit size in its
record, and the records from a chain of which no more than a fixed number of sectors is read.
-/

namespace InstallerPackage

/-! ### Streams -/

namespace Volume

variable (v : Volume)

theorem size_gather_le (sectors : Array Nat) :
    (v.gather .regular sectors).size ≤ sectors.size * v.sectorSize := by
  rw [size_gather, ← Array.length_toList]
  refine (List.sum_le_card_nsmul _ v.sectorSize ?_).trans_eq ?_
  · intro n hn
    obtain ⟨s, -, rfl⟩ := List.mem_map.mp hn
    exact (v.size_sector s).trans_le (Nat.min_le_left ..)
  · rw [List.length_map, smul_eq_mul]

/-- A stream of unknown size ends after a fixed number of sectors. -/
theorem size_materialize_unbounded_le (start : Nat) :
    (v.materialize .regular start 0).value.size ≤ unboundedSteps * v.sectorSize := by
  refine (v.size_gather_le _).trans (Nat.mul_le_mul_right _ ?_)
  exact Chain.size_sectors_walkFrom_le

/-- A record's stream is not longer than the record says. -/
theorem size_readRecord_le (r : Record) : (v.readRecord r).value.size ≤ r.size := by
  unfold readRecord
  split
  · next h =>
    simp only [Bool.and_eq_true, bne_iff_ne, ne_eq] at h
    have hle := v.size_materialize_le (v.spaceOf r.size) r.start r.size (Nat.pos_of_ne_zero h.2)
    simp only [Noted.value_bind]
    split <;> exact hle
  · exact Nat.zero_le _

end Volume

namespace Directory

variable {b : ByteArray} {d : Directory}

theorem size_records_le (h : ofBytes? b = some d) : d.records.size ≤ b.size := by
  unfold ofBytes? at h
  split at h
  · cases h
    rw [Array.size_ofFn]
    exact Nat.div_le_self ..
  · cases h

/-- The size in a record is a field of eight bytes. -/
theorem size_lt_of_mem (h : ofBytes? b = some d) {r : Record} (hr : r ∈ d.records) :
    r.size < 2 ^ 64 := by
  unfold ofBytes? at h
  split at h
  · cases h
    obtain ⟨i, rfl⟩ := Array.mem_ofFn.mp hr
    dsimp only [Record.read]
    exact (Bytes.number_lt b (i * Record.length + 120) 8).trans_eq (by norm_num)
  · cases h

end Directory

/-! ### Tables -/

theorem Schema.length_insert_le (r : Row) (tables : List Table) :
    (insert r tables).length ≤ tables.length + 1 := by
  induction tables with
  | nil => simp [insert]
  | cons t rest ih =>
    unfold insert
    split <;> simp [ih]

/-- Every table has a row in the list of columns. -/
theorem Schema.length_read_le (raw : ByteArray) (strings : Array String) (width : Nat) :
    (read raw strings width).length ≤ raw.size := by
  -- the fold begins with tables in general, as it goes on with those found so far
  have hfold : ∀ (rows : List Row) (tables : List Table),
      (rows.foldl (fun tables r => insert r tables) tables).length ≤ tables.length + rows.length := by
    intro rows
    induction rows with
    | nil => simp
    | cons r rows ih =>
      intro tables
      have := length_insert_le r tables
      have := ih (insert r tables)
      rw [List.foldl_cons, List.length_cons]
      omega
  -- a table for every row at most, and a row for every byte at most
  calc (read raw strings width).length ≤ (rows raw strings width).length := by
        rw [read, List.length_map]
        exact (hfold _ _).trans_eq (Nat.zero_add _)
    _ ≤ rowCount raw width := by
        rw [rows]
        refine (List.length_filter_le ..).trans ?_
        rw [List.length_map, List.length_range]
    _ ≤ raw.size := Nat.div_le_self ..

theorem Table.rowCount_le (t : Table) (size : Nat) : t.rowCount size ≤ size := by
  unfold rowCount
  split
  · exact Nat.zero_le _
  · exact Nat.div_le_self ..

/-- Every file has a row in the table of files. -/
theorem Manifest.length_filesFrom_le (style : Style) (folders : Folder.Map)
    (components : Std.TreeMap String String) (cache : Folder.Cache) (rows : List (List String)) :
    (filesFrom style folders components cache rows).length ≤ rows.length := by
  -- a row gives a file if it has five cells, and none otherwise
  induction rows generalizing cache with
  | nil => simp [filesFrom]
  | cons row rest ih =>
    unfold filesFrom
    split
    · cases ‹row :: rest = []›
    · next h =>
      cases h
      rw [List.length_cons, List.length_cons]
      exact Nat.succ_le_succ (ih _)
    · next h =>
      cases h
      exact (ih _).trans (Nat.le_succ _)

namespace Database

variable {c : Container} {n : Nat}

theorem length_tables_loadTables_lt (hn : 0 < n) (h : ∀ r ∈ c.directory.records, r.size < n)
    (pool : StringPool) : (loadTables c pool).value.tables.length < n := by
  unfold loadTables
  split
  · exact hn
  · next r hr =>
    have hfound := (Option.filter_eq_some_iff.mp hr).1
    exact ((Schema.length_read_le ..).trans (c.volume.size_readRecord_le r)).trans_lt
      (h r (mem_of_find? hfound))

theorem length_readTable_lt (hn : 0 < n) (h : ∀ r ∈ c.directory.records, r.size < n)
    (db : Database) (name : String) : (db.readTable c name).value.length < n := by
  unfold readTable
  split
  · next t r _ hr =>
    simp only [Noted.value_bind, Noted.value_pure, Table.length_rows]
    exact ((t.rowCount_le _).trans (c.volume.size_readRecord_le r)).trans_lt (h r (mem_of_find? hr))
  · exact hn

theorem length_manifest_lt (hn : 0 < n) (h : ∀ r ∈ c.directory.records, r.size < n) (db : Database)
    (style : Manifest.Style) : (db.manifest c style).value.length < n := by
  unfold manifest
  split
  · exact hn
  · exact (Manifest.length_filesFrom_le ..).trans_lt (length_readTable_lt hn h db "File")

end Database

/-! ### The summary -/

namespace Summary

/-- The counts in the summary are fields of four bytes. -/
structure Counted (s : Summary) : Prop where
  pages : s.pageCount < 2 ^ 32
  words : s.wordCount < 2 ^ 32
  characters : s.characterCount < 2 ^ 32

theorem Value.number_lt {page : CodePage} {b : ByteArray} {offset n : Nat}
    (h : read? .long page b offset = some (.number n)) : n < 2 ^ 32 := by
  unfold read? at h
  dsimp only at h
  split at h
  · cases h
  · cases h
    exact Bytes.number_lt b (offset + 4) 4

theorem counted_put {s : Summary} (hs : s.Counted) (body : ByteArray) (page : CodePage) (e : Entry) :
    (put body page s e).Counted := by
  unfold put
  split
  · next value hvalue =>
    obtain ⟨field, offset⟩ := e
    cases field <;> cases value <;> try exact ⟨hs.pages, hs.words, hs.characters⟩
    -- what is left are the counts themselves
    case pageCount.number n => exact ⟨Value.number_lt hvalue, hs.words, hs.characters⟩
    case wordCount.number n => exact ⟨hs.pages, Value.number_lt hvalue, hs.characters⟩
    case characterCount.number n => exact ⟨hs.pages, hs.words, Value.number_lt hvalue⟩
  · exact hs

/-- Reading a property set keeps the counts small and does not touch the size of the file. -/
theorem counted_apply {s : Summary} (hs : s.Counted) (b : ByteArray) :
    (apply b s).value.Counted ∧ (apply b s).value.totalSize = s.totalSize := by
  have hfold : ∀ (body : ByteArray) (page : CodePage) (found : List Entry) (t : Summary),
      t.Counted → (found.foldl (put body page) t).Counted := by
    intro body page found
    induction found with
    | nil => exact fun t ht => ht
    | cons e found ih => exact fun t ht => ih _ (counted_put ht body page e)
  refine ⟨?_, totalSize_apply b s⟩
  rw [value_apply, fill_eq_foldl]
  exact hfold _ _ _ s hs

end Summary

/-! ### The package -/

namespace Package

/-- What is counted in a package has at most 64 bits. -/
structure Counted (p : Package) : Prop where
  summary : p.summary.Counted
  tables : p.tables.length < 2 ^ 64
  files : p.files.length < 2 ^ 64
  records : p.records.size < 2 ^ 64

variable {b : ByteArray} {style : Manifest.Style} {p : Package}

theorem counted_loadSummary (c : Container) :
    (loadSummary c).value.Counted ∧ (loadSummary c).value.totalSize = c.volume.bytes.size := by
  have hunknown : ({ totalSize := c.volume.bytes.size } : Summary).Counted :=
    ⟨Nat.two_pow_pos 32, Nat.two_pow_pos 32, Nat.two_pow_pos 32⟩
  unfold loadSummary
  dsimp only
  split
  · exact ⟨hunknown, rfl⟩
  · exact Summary.counted_apply hunknown _

theorem Loaded.totalSize_eq (h : Loaded b style p) : p.summary.totalSize = b.size := by
  rw [h.summary, (counted_loadSummary p.container).2, h.container.bytes_eq]

theorem Loaded.sectorSize_le (h : Loaded b style p) : p.container.volume.sectorSize ≤ 2 ^ 12 :=
  h.container.sectorSize_eq ▸ (Header.hasUsualSectors_read h.container.accepted).2

/-- No count in a loaded package has more than 64 bits. -/
theorem Loaded.counted (h : Loaded b style p) : Counted p := by
  have hopen := h.container
  have hpos : 0 < 2 ^ 64 := by decide
  have hsize : ∀ r ∈ p.container.directory.records, r.size < 2 ^ 64 :=
    fun r hr => Directory.size_lt_of_mem hopen.directory hr
  -- nothing declares the size of the directory, but its chain is not followed for ever
  have hrecords : p.records.size < 2 ^ 64 :=
    calc p.records.size ≤ _ := Directory.size_records_le hopen.directory
      _ ≤ Volume.unboundedSteps * p.container.volume.sectorSize :=
        Volume.size_materialize_unbounded_le _ _
      _ ≤ Volume.unboundedSteps * 2 ^ 12 := Nat.mul_le_mul_left _ h.sectorSize_le
      _ < 2 ^ 64 := by decide
  refine ⟨h.summary ▸ (counted_loadSummary p.container).1, ?_, ?_, hrecords⟩
  · -- the tables and the files are only counted where there is a database
    rcases h.database with ⟨hnone, -⟩ | ⟨pool, hdb, htables, -⟩
    · rw [hnone]
      exact hpos
    · rw [htables, hdb]
      exact Database.length_tables_loadTables_lt hpos hsize pool
  · rcases h.database with ⟨-, hnone⟩ | ⟨pool, hdb, -, hfiles⟩
    · rw [hnone]
      exact hpos
    · rw [hfiles]
      exact Database.length_manifest_lt hpos hsize p.database style

end Package

end InstallerPackage
