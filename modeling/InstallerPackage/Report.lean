import InstallerPackage.Package
import InstallerPackage.Text.Size

/-!
# The report on a package

`Package.report` lists what is worth knowing about a package, as rows of a category, a caption and a
value. Values that are empty or zero are left out, and so are times that have no date.

A number is written out in full, so numbers of more than 4300 digits are refused. Only the size of
the mini sectors can be so large: it is a power of two whose exponent comes from the file.
-/

namespace InstallerPackage

/-- A row of the report. -/
structure ReportRow where
  category : String
  caption : String
  value : String
  deriving DecidableEq, Repr

/-- Why there is no report. -/
inductive ReportError where
  /-- A number has too many digits. -/
  | tooManyDigits
  /-- The size of the file cannot be written. -/
  | size (failure : Size.Failure)
  deriving DecidableEq, Repr

/-- The digits that a number may have. -/
def ReportError.digitLimit : Nat := 4300

/-- The wording of an error. -/
def ReportError.message : ReportError → String
  | tooManyDigits =>
    "Exceeds the limit (" ++ toString digitLimit ++ " digits) for integer string conversion; " ++
      "use sys.set_int_max_str_digits() to increase the limit"
  | size failure => failure.message

namespace Package

/-- A row, unless its value is empty. -/
def textRow (category caption value : String) : List ReportRow :=
  if value = "" then [] else [⟨category, caption, value⟩]

/-- A row, unless its value is zero. -/
def countRow (category caption : String) (value : Nat) : List ReportRow :=
  if value = 0 then [] else [⟨category, caption, toString value⟩]

/-- A row for a time, unless the time is not known or has no date. The latter is reported. -/
def timeRow (caption : String) (seconds : Nat) : Noted (List ReportRow) :=
  if seconds = 0 then pure []
  else match Time.render? seconds with
    | some text => pure [⟨"Summary Information", caption, text⟩]
    | none => ⟨[], [.timeOutOfRange seconds]⟩

/-- The rows on what the file says about itself. -/
def summaryRows (s : Summary) : Noted (List ReportRow) := do
  let text := textRow "Summary Information"
  -- times are written first, so that their notices come in this order
  let created ← timeRow "Created" s.createTime
  let saved ← timeRow "Last Saved" s.lastSaveTime
  let printed ← timeRow "Last Printed" s.lastPrintedTime
  pure
    (text "Title" s.title ++ text "Subject" s.subject ++ text "Author" s.author ++
      text "Keywords" s.keywords ++ text "Comments" s.comments ++ text "Template" s.template ++
      text "Revision (UUID)" s.revisionNumber ++ text "Creating App" s.creatingApp ++
      text "Last Saved By" s.lastSavedBy ++ created ++ saved ++ printed)

/-- The rows that count what is in the package. -/
def statisticsRows (p : Package) : List ReportRow :=
  let count := countRow "Statistics"
  count "Pages" p.summary.pageCount ++ count "Words" p.summary.wordCount ++
    count "Characters" p.summary.characterCount ++ count "Tables" p.tables.length ++
    count "Files" p.files.length

/-- The rows on the file itself. -/
def fileRows (p : Package) : Except ReportError (List ReportRow) := do
  let row := textRow "File Details"
  let total ← (Size.render p.summary.totalSize).mapError .size
  let miniSectorSize := p.container.volume.miniSectorSize
  if Nat.pow 10 ReportError.digitLimit ≤ miniSectorSize then .error .tooManyDigits
  else
    pure
      (row "Total Size" total ++
        row "Sector Size" (toString p.container.volume.sectorSize ++ " bytes") ++
        row "Mini Sector Size" (toString miniSectorSize ++ " bytes") ++
        countRow "File Details" "Streams" (p.records.toList.countP Record.isStream))

/-- What is worth knowing about a package. -/
def report (p : Package) : Noted (Except ReportError (List ReportRow)) := do
  let summary ← summaryRows p.summary
  pure (p.fileRows.map fun file => summary ++ p.statisticsRows ++ file)

end Package

end InstallerPackage
