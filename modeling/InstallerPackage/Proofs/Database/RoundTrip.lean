import InstallerPackage.Proofs.Database.Rows

/-!
# A database that is written is the one that is read

`Draft.read_written` is the round trip of databases: from the streams of a draft, and nothing else, a
reader gets the strings, the width of the references, the tables and the cells of every row.
-/

namespace InstallerPackage.Draft

/-- **Round trip.** Take any tables that a database can hold, with references of two bytes, or of three
if the pool is large or the number of columns is not a multiple of four. Then the pool is read back
whichever word holds the lengths, the width of the references is told correctly, the tables come in
order with their columns, and every table has its rows. -/
theorem read_written (d : Draft) (word : LengthWord) (width : Nat) (hd : d.WellFormed)
    (he : d.Encodable) (hrefs : d.strings.length ≤ 256 ^ width)
    (hwidth : width = 2 ∨ width = 3 ∧
      (Schema.largePool < d.strings.length ∨ (d.map fun t => t.columns.length).sum % 4 ≠ 0)) :
    StringPool.read? (Bytes.ofList (d.poolBytes word)) (Bytes.ofList d.textBytes) =
        ⟨some ⟨.latin1, d.strings.toArray⟩, []⟩ ∧
      Schema.referenceWidth (d.columnsBytes width).length d.strings.length = width ∧
      Schema.read (Bytes.ofList (d.columnsBytes width)) d.strings.toArray width =
        d.map (DraftTable.table width) ∧
      ∀ t ∈ d, (t.table width).rows (Bytes.ofList (d.tableBytes width t)) d.strings.toArray width =
        t.rows.map fun row => row.map Cell.shown := by
  have hpos : 0 < width := by
    rcases hwidth with rfl | ⟨rfl, -⟩
    · decide
    · decide
  exact ⟨read?_pool he word, referenceWidth_columnsBytes hrefs hwidth, read_columnsBytes hd hrefs,
    fun t ht => rows_tableBytes hd ht hpos hrefs⟩

/-- A table with columns of all kinds. -/
def sampleTable : DraftTable where
  name := "File"
  columns := [⟨"Name", 0x2D48⟩, ⟨"Size", 0x0104⟩, ⟨"Sequence", 0x1102⟩]
  rows := [[.text "a.txt", .number 70000, .number 3], [.text "", .number 0, .number 0x7FFF]]

def sample : Draft := [sampleTable]

theorem strings_sample : sample.strings = ["", "File", "Name", "Size", "Sequence", "a.txt"] := by
  decide

theorem wellFormed_sample : sample.WellFormed where
  distinct := by decide
  named := by decide
  columns := by decide
  packed := by decide
  length := by decide
  fits := by decide

theorem encodable_sample : sample.Encodable where
  latin1 := by
    rw [strings_sample]
    simp
  length := by decide
  trimmed := by decide

/-- With three columns the sample can have long references. -/
theorem read_written_sample :
    sample.WellFormed ∧ sample.Encodable ∧ sample.strings.length ≤ 256 ^ 3 ∧
      (sample.map fun t => t.columns.length).sum % 4 ≠ 0 ∧
      StringPool.read? (Bytes.ofList (sample.poolBytes .low)) (Bytes.ofList sample.textBytes) =
        ⟨some ⟨.latin1, #["", "File", "Name", "Size", "Sequence", "a.txt"]⟩, []⟩ ∧
      Schema.referenceWidth (sample.columnsBytes 3).length 6 = 3 ∧
      Schema.read (Bytes.ofList (sample.columnsBytes 3)) sample.strings.toArray 3 =
        [sampleTable.table 3] ∧
      (sampleTable.table 3).rows (Bytes.ofList (sample.tableBytes 3 sampleTable))
        sample.strings.toArray 3 = [["a.txt", "70000", "3"], ["", "0", "32767"]] := by
  have hrefs : sample.strings.length ≤ 256 ^ 3 := by decide
  have hcolumns : (sample.map fun t => t.columns.length).sum % 4 ≠ 0 := by decide
  obtain ⟨hpool, hwidth, htables, hrows⟩ := read_written sample .low 3 wellFormed_sample
    encodable_sample hrefs (.inr ⟨rfl, .inr hcolumns⟩)
  refine ⟨wellFormed_sample, encodable_sample, hrefs, hcolumns, ?_, ?_, htables, ?_⟩
  · rw [hpool, strings_sample]
  · rw [strings_sample] at hwidth
    exact hwidth
  · rw [hrows sampleTable (List.mem_singleton.mpr rfl)]
    decide

end InstallerPackage.Draft
