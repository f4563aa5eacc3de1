import InstallerPackage.Proofs.Database.Manifests
import InstallerPackage.Proofs.LoadedDatabases

/-!
# The files of a package

`Package.files_join` says what the files of a loaded package are: the rows of the table of files, in
order, each joined with the folder of its component. Nothing is assumed of the folders, which may be
in each other.

What the manifest makes of rows is known from `Manifest.FileOf`. What is added here is where the
rows come from: a row of a loaded table has a cell for every column, so no row of the table of files
is skipped, and a cell of a column of integers is a numeral, so it is read as the number that is
stored (`Package.parse?_rows`).
-/

namespace InstallerPackage

namespace Table

theorem mask_lt (size value : Nat) : mask size value < 2 ^ 31 := by
  unfold mask
  split
  · exact Nat.lt_trans (Nat.mod_lt _ (by decide)) (by decide)
  · exact Nat.mod_lt _ (by decide)

/-- The number in a cell of an integer column is read as that number. -/
theorem parse?_shown {c : Column} (hkind : c.kind = .integer) (hsize : c.size ≠ 0) (raw : ByteArray)
    (strings : Array String) (offset : Nat) :
    Integer.parse? (c.shown raw strings offset) =
      some (mask c.size (Bytes.number raw offset c.size) : Int) := by
  have hlimit : 2 ^ 31 ≤ 10 ^ Integer.digitLimit :=
    Nat.le_trans (by decide : 2 ^ 31 ≤ 10 ^ 10) (Nat.pow_le_pow_right (by decide) (by decide))
  rw [Column.shown, if_neg hsize, hkind]
  exact Integer.parse?_toString (Nat.lt_of_lt_of_le (mask_lt _ _) hlimit)

end Table

open Image

namespace Package

variable {b : ByteArray} {style : Manifest.Style} {p : Package} {t : Table}

/-- A cell of a column of integers is read as the number that is stored for it. -/
theorem parse?_rows {name : String} {record : Record} {c : Column} {i j : Nat} {row : List String}
    (h : (load b style).outcome.value = .ok p) (ht : p.table? name = some t)
    (hrecord : Database.find? p.container (Database.streamName name) = some record)
    (hc : t.columns[j]? = some c) (hkind : c.kind = .integer) (hsize : c.size ≠ 0)
    (hrow : (p.rows name)[i]? = some row) :
    let raw := (p.container.volume.readRecord record).value
    row[j]?.map Integer.parse? = some (some (Table.mask c.size (Bytes.number raw
      (Table.widthOf (t.columns.take j) * (raw.size / t.rowSize) + i * c.size) c.size) : Int)) := by
  intro raw
  have hsized := wellSized_of_load h ht
  rw [rows_of_find? ht hrecord] at hrow
  -- the cell is in the block of its column, at the place of its row
  have hblock : (Table.blocks (raw.size / t.rowSize) 0 t.columns)[j]? =
      some ⟨c, 0 + Table.widthOf (t.columns.take j) * (raw.size / t.rowSize)⟩ := by
    rw [Table.getElem?_blocks, hc, Option.map_some]
  have hi : i < raw.size / t.rowSize := by
    have hlt := (List.getElem?_eq_some_iff.mp hrow).1
    rwa [Table.length_rows, Table.rowCount_eq_div
      (Nat.lt_of_lt_of_le (by decide) hsized.two_le_rowSize)] at hlt
  have hcell := (hsized.getElem?_rows raw p.database.pool.strings hblock hi).2
  rw [hrow, Option.bind_some, Nat.zero_add] at hcell
  rw [hcell, Option.map_some, Table.parse?_shown hkind hsize, Block.cellStart]

/-- **The files of a package are the join of three tables.** Let the table of files of a loaded
package have five columns or more. Then

* every row of it gives one file, in the order of the rows, and the file has from its row, from the
  last row of its component and from the folders what `Manifest.FileOf` says;
* where the fourth column holds integers of two or four bytes, the sizes are the stored ones without
  their top bit;
* files of one component are in one folder, even among folders with cycles;
* the files stay the same when the rows of folders and components are reordered, here or in another
  file, as long as rows with equal keys keep their order. -/
theorem files_join (b : ByteArray) (style : Manifest.Style) (p : Package) (t : Table)
    (h : (load b style).outcome.value = .ok p) (ht : p.table? "File" = some t)
    (hcolumns : 5 ≤ t.columns.length) :
    p.files.length = (p.rows "File").length ∧
    (∀ (i : Nat) (row : List String), (p.rows "File")[i]? = some row →
      ∃ file, p.files[i]? = some file ∧
        Manifest.FileOf style (p.rows "Directory") (p.rows "Component") ((p.rows "File").take i)
          row file) ∧
    (∀ (record : Record) (c : Column),
      Database.find? p.container (Database.streamName "File") = some record →
      t.columns[3]? = some c → c.kind = .integer → c.size = 2 ∨ c.size = 4 →
      let raw := (p.container.volume.readRecord record).value
      ∀ (i : Nat) (file : InstalledFile), p.files[i]? = some file →
        file.size = Table.mask c.size (Bytes.number raw
          (Table.widthOf (t.columns.take 3) * (raw.size / t.rowSize) + i * c.size) c.size)) ∧
    (∀ f ∈ p.files, ∀ g ∈ p.files, f.component = g.component → f.folder = g.folder) ∧
    (∀ folderRows componentRows, Manifest.Reordered (p.rows "Directory") folderRows →
      Manifest.Reordered (p.rows "Component") componentRows →
      p.files = Manifest.files style folderRows componentRows (p.rows "File")) ∧
    ∀ (b' : ByteArray) (p' : Package) (t' : Table), (load b' style).outcome.value = .ok p' →
      p'.table? "File" = some t' → p'.rows "File" = p.rows "File" →
      Manifest.Reordered (p.rows "Directory") (p'.rows "Directory") →
      Manifest.Reordered (p.rows "Component") (p'.rows "Component") → p'.files = p.files := by
  have hfiles := files_eq h ht
  -- no row is too short to be a file's
  have hrows : ∀ row ∈ p.rows "File", 5 ≤ row.length := by
    intro row hrow
    rwa [length_of_mem_rows ht hrow]
  have hjoin : ∀ (i : Nat) (row : List String), (p.rows "File")[i]? = some row →
      ∃ file, p.files[i]? = some file ∧
        Manifest.FileOf style (p.rows "Directory") (p.rows "Component") ((p.rows "File").take i)
          row file := by
    intro i row hrow
    refine ⟨_, ?_, Manifest.fileOf_fileIn style _ _ _ (hrows row (List.mem_of_getElem? hrow))⟩
    rw [hfiles, Manifest.getElem?_files hrows, hrow, Option.map_some]
  have hlength : p.files.length = (p.rows "File").length := by
    rw [hfiles, Manifest.files, Manifest.length_filesFrom hrows]
  refine ⟨hlength, hjoin, ?_, ?_, ?_, ?_⟩
  · -- the i-th file belongs to the i-th row
    intro record c hrecord hc hkind hsize raw i file hfile
    have hi := (List.getElem?_eq_some_iff.mp hfile).1
    rw [hlength] at hi
    have hrow : (p.rows "File")[i]? = some (p.rows "File")[i] := List.getElem?_eq_getElem hi
    obtain ⟨file', hfile', hof⟩ := hjoin i _ hrow
    obtain rfl : file = file' := Option.some.inj (hfile.symm.trans hfile')
    -- the size was read from a cell that shows a numeral
    have hparse := parse?_rows h ht hrecord hc hkind (by omega) hrow
    obtain ⟨cell, hcell, hnumber⟩ := Option.map_eq_some_iff.mp hparse
    have hsize' := hof.size
    rw [hcell, Option.map_some, hnumber, Option.getD_some, Option.some.injEq] at hsize'
    exact hsize'.symm
  · intro f hf g hg hcomponent
    rw [hfiles] at hf hg
    exact Manifest.folder_eq_of_component_eq hrows hf hg hcomponent
  · intro folderRows componentRows hfolders hcomponents
    rw [hfiles]
    exact Manifest.files_reordered hfolders hcomponents style _
  · -- both packages have the same rows of files, and their maps have the same entries
    intro b' p' t' h' ht' hfile hfolders hcomponents
    rw [files_eq h' ht', hfile, hfiles]
    exact (Manifest.files_reordered hfolders hcomponents style _).symm

/-! Two files of one component, in a folder of a cycle. -/

/-- The folders `A` and `B` are in each other. -/
def directorySample : DraftTable where
  name := "Directory"
  columns := [⟨"Directory", 0x2D48⟩, ⟨"Parent", 0x1D48⟩, ⟨"DefaultDir", 0x0DFF⟩]
  rows := [[.text "A", .text "B", .text "a"], [.text "B", .text "A", .text "b|long"]]

def componentSample : DraftTable where
  name := "Component"
  columns := [⟨"Component", 0x2D48⟩, ⟨"ComponentId", 0x1D26⟩, ⟨"Directory", 0x0D48⟩]
  rows := [[.text "C", .text "", .text "B"]]

def fileSample : DraftTable where
  name := "File"
  columns := [⟨"File", 0x2D48⟩, ⟨"Component", 0x0D48⟩, ⟨"FileName", 0x0DFF⟩, ⟨"FileSize", 0x0104⟩,
    ⟨"Version", 0x1D48⟩]
  rows := [[.text "f", .text "C", .text "f.txt", .number 70000, .text ""],
    [.text "g", .text "", .text "g.txt", .number 1, .text ""],
    [.text "h", .text "C", .text "H~1|h.text", .number 2, .text "1.0"]]

def filesSample : Draft := [directorySample, componentSample, fileSample]

theorem wellFormed_filesSample : filesSample.WellFormed where
  distinct := by decide
  named := by decide
  columns := by decide
  packed := by decide
  length := by decide
  fits := by decide

theorem latin1_filesSample :
    (filesSample.strings.all fun s => s.toList.all fun c => c.toNat.blt 256) = true := by
  decide +kernel

theorem encodable_filesSample : filesSample.Encodable where
  latin1 s hs c hc :=
    Nat.blt_eq.mp (List.all_eq_true.mp (List.all_eq_true.mp latin1_filesSample s hs) c hc)
  length := by decide +kernel
  trimmed := by decide +kernel

theorem storable_filesSample : Outline.Storable (filesSample.streams .low 2) where
  length := by decide +kernel
  units := by decide +kernel
  slash := by decide +kernel
  distinct := by decide +kernel

theorem carries_filesSample :
    Carries (.ofStreams (filesSample.streams .low 2)) filesSample .low 2 := by
  have hplain : ∀ stream ∈ filesSample.streams .low 2, stream.1.decode = stream.1 := by
    decide +kernel
  exact fun stream h => Outline.has_ofStreams storable_filesSample h (hplain stream h)

/-- A file with the streams of the three tables, and nothing else. -/
def filesImage : ByteArray := write .sample (.ofStreams (filesSample.streams .low 2))

theorem small_filesImage : (plan .sample
    ((Outline.ofStreams (filesSample.streams .low 2)).items Layout.sample.order)).Small :=
  (sized_plan Layout.valid_sample _).small Layout.valid_sample (by decide +kernel)

theorem exists_load_filesImage :
    ∃ p t, (load filesImage {}).outcome.value = .ok p ∧ p.table? "File" = some t ∧
      t.columns.length = 5 ∧ p.rows "Directory" = [["A", "B", "a"], ["B", "A", "b|long"]] ∧
      p.rows "Component" = [["C", "", "B"]] ∧
      p.rows "File" = [["f", "C", "f.txt", "70000", ""], ["g", "", "g.txt", "1", ""],
        ["h", "C", "H~1|h.text", "2", "1.0"]] := by
  obtain ⟨p, hp, -, htables⟩ := exists_load_of_carries .sample {} .low Layout.valid_sample
    (Outline.wellFormed_ofStreams storable_filesSample) small_filesImage wellFormed_filesSample
    encodable_filesSample (List.cons_ne_nil _ _) (by decide +kernel) (.inl rfl) carries_filesSample
  obtain ⟨hfile, hfileRows⟩ := htables fileSample (by simp [filesSample])
  exact ⟨p, _, hp, hfile, rfl, (htables directorySample (by simp [filesSample])).2,
    (htables componentSample (by simp [filesSample])).2, hfileRows⟩

/-- Both files of the component are in the folder where the climb meets the cycle again, and it does
not matter which of the two folders comes first. -/
theorem files_join_sample :
    ∃ p t, (load filesImage {}).outcome.value = .ok p ∧ p.table? "File" = some t ∧
      5 ≤ t.columns.length ∧
      Manifest.Reordered (p.rows "Directory") [["B", "A", "b|long"], ["A", "B", "a"]] ∧
      p.files = [⟨"f.txt", "long", "C", 70000, ""⟩, ⟨"g.txt", "<Orphaned>", "", 1, ""⟩,
        ⟨"h.text", "long", "C", 2, "1.0"⟩] := by
  obtain ⟨p, t, hp, ht, hcolumns, hfolders, hcomponents, hfiles⟩ := exists_load_filesImage
  have hreordered :
      Manifest.Reordered (p.rows "Directory") [["B", "A", "b|long"], ["A", "B", "a"]] := by
    rw [hfolders]
    -- two folders, with one row each
    intro key
    by_cases hA : some "A" = key
    · subst hA
      decide
    · by_cases hB : some "B" = key
      · subst hB
        decide
      · simp [hA, hB]
  obtain ⟨-, -, -, -, hreorder, -⟩ := files_join filesImage {} p t hp ht hcolumns.ge
  refine ⟨p, t, hp, ht, hcolumns.ge, hreordered, ?_⟩
  rw [hreorder _ _ hreordered fun key => rfl, hcomponents, hfiles]
  decide +kernel

end Package

end InstallerPackage
