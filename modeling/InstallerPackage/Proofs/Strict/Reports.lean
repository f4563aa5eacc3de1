import InstallerPackage.Proofs.Counts
import InstallerPackage.Proofs.Strict.Faults

/-!
# The report, made strictly

In `Strict.report` every number is written out by `Strict.digits`, which refuses numbers of too many
digits, and the unit of a size is looked up. `Strict.report_eq`: in a loaded package the faults are
those of `Package.report`, which tests only the size of the mini sectors. All other numbers are small
(`Package.Loaded.counted`).

`Package.report_eq_error_iff` says when there is no report.
-/

namespace InstallerPackage

/-- A mini sector whose size has too many digits has at least this shift. -/
def ReportError.shiftLimit : Nat := 14285

theorem ReportError.pow_shiftLimit :
    2 ^ (shiftLimit - 1) < Nat.pow 10 digitLimit ∧ Nat.pow 10 digitLimit ≤ 2 ^ shiftLimit := by
  decide +kernel

theorem Package.report_value (p : Package) :
    p.report.value =
      p.fileRows.map fun file => (summaryRows p.summary).value ++ p.statisticsRows ++ file := rfl

namespace Strict

/-- A number, written out. -/
def digits (n : Nat) : Strict String :=
  if Nat.pow 10 ReportError.digitLimit ≤ n then throw (.report .tooManyDigits) else pure (toString n)

/-- A row for a number, unless it is zero. -/
def countRow (category caption : String) (value : Nat) : Strict (List ReportRow) :=
  if value = 0 then pure []
  else do
    let text ← digits value
    pure [⟨category, caption, text⟩]

/-- The text for a number of bytes. -/
def sizeText (size : Nat) : Strict String :=
  if Size.bound ≤ size then throw (.report (.size .tooLarge))
  else if size < 1024 then do
    let text ← digits size
    pure (text ++ " Bytes")
  else do
    let n := Size.significant size
    let k := Size.unitIndex n
    let unit ← item Size.units.toArray (k - 1)
    pure (Size.hundredths (roundDiv (100 * n) (1 <<< (10 * k))) ++ " " ++ unit)

/-- The rows that count what is in the package. -/
def statisticsRows (p : Package) : Strict (List ReportRow) := do
  let count := countRow "Statistics"
  let pages ← count "Pages" p.summary.pageCount
  let words ← count "Words" p.summary.wordCount
  let characters ← count "Characters" p.summary.characterCount
  let tables ← count "Tables" p.tables.length
  let files ← count "Files" p.files.length
  pure (pages ++ words ++ characters ++ tables ++ files)

/-- The rows on the file itself. -/
def fileRows (p : Package) : Strict (List ReportRow) := do
  let row := Package.textRow "File Details"
  let total ← sizeText p.summary.totalSize
  let sectorSize ← digits p.container.volume.sectorSize
  let miniSectorSize ← digits p.container.volume.miniSectorSize
  let streams ← countRow "File Details" "Streams" (p.records.toList.countP Record.isStream)
  pure
    (row "Total Size" total ++ row "Sector Size" (sectorSize ++ " bytes") ++
      row "Mini Sector Size" (miniSectorSize ++ " bytes") ++ streams)

/-- What is worth knowing about a package. -/
def report (p : Package) : Strict (List ReportRow) := do
  let statistics ← statisticsRows p
  let file ← fileRows p
  pure ((Package.summaryRows p.summary).value ++ statistics ++ file)

/-! ### Small numbers -/

theorem lt_pow_digitLimit {n k : Nat} (hk : k ≤ ReportError.shiftLimit - 1) (h : n ≤ 2 ^ k) :
    n < Nat.pow 10 ReportError.digitLimit :=
  (h.trans (Nat.pow_le_pow_right (by decide) hk)).trans_lt ReportError.pow_shiftLimit.1

theorem digits_eq {n k : Nat} (hk : k ≤ ReportError.shiftLimit - 1) (h : n ≤ 2 ^ k) :
    digits n = pure (toString n) := by
  rw [digits, if_neg (Nat.not_le.mpr (lt_pow_digitLimit hk h))]

theorem countRow_eq {n : Nat} (category caption : String) (h : n < 2 ^ 64) :
    countRow category caption n = pure (Package.countRow category caption n) := by
  unfold countRow Package.countRow
  split
  · rfl
  · rw [digits_eq (by decide) (Nat.le_of_lt h), pure_bind]

/-- There is a unit for every size. -/
theorem item_units (n : Nat) :
    item Size.units.toArray (Size.unitIndex n - 1) =
      pure (Size.units.getD (Size.unitIndex n - 1) "") := by
  unfold Size.unitIndex
  split
  · rfl
  split
  · rfl
  split <;> rfl

theorem sizeText_eq (size : Nat) :
    sizeText size = (Size.render size).mapError fun e => .report (.size e) := by
  unfold sizeText Size.render
  rw [Int.natAbs_natCast, Int.toNat_natCast]
  -- the three branches: too large, plain bytes, or a quotient with a unit
  by_cases hbound : Size.bound ≤ size
  · rw [if_pos hbound, if_pos hbound]
    rfl
  rw [if_neg hbound, if_neg hbound]
  by_cases hsmall : size < 1024
  · rw [if_pos hsmall, if_pos (by exact_mod_cast hsmall),
      digits_eq (k := 10) (by decide) (Nat.le_of_lt hsmall), pure_bind]
    rfl
  · rw [if_neg hsmall, if_neg (by exact_mod_cast hsmall)]
    dsimp only
    rw [item_units, pure_bind]
    rfl

variable {p : Package} {b : ByteArray} {style : Manifest.Style}

theorem statisticsRows_eq (hp : p.Counted) : statisticsRows p = pure p.statisticsRows := by
  have hword : ∀ {n : Nat}, n < 2 ^ 32 → n < 2 ^ 64 := fun h => h.trans (by decide)
  rw [statisticsRows, countRow_eq _ _ (hword hp.summary.pages), pure_bind,
    countRow_eq _ _ (hword hp.summary.words), pure_bind,
    countRow_eq _ _ (hword hp.summary.characters), pure_bind, countRow_eq _ _ hp.tables, pure_bind,
    countRow_eq _ _ hp.files, pure_bind, Package.statisticsRows]

theorem fileRows_eq (hp : p.Loaded b style) : fileRows p = p.fileRows.mapError .report := by
  have hstreams : p.records.toList.countP Record.isStream < 2 ^ 64 :=
    (List.countP_le_length ..).trans_lt hp.counted.records
  -- the three numbers of these rows have few digits, apart from one
  unfold fileRows Package.fileRows
  rw [sizeText_eq]
  cases Size.render p.summary.totalSize with
  | error e => rfl
  | ok total =>
    -- a sector is at most 4096 bytes large, but a mini sector may have any size
    rw [digits_eq (k := 12) (by decide) hp.sectorSize_le, countRow_eq _ _ hstreams, digits]
    by_cases hmini : Nat.pow 10 ReportError.digitLimit ≤ p.container.volume.miniSectorSize
    · simp only [if_pos hmini]
      rfl
    · simp only [if_neg hmini]
      rfl

/-- The report on a loaded package has no other faults than the errors of `Package.report`. -/
theorem report_eq (hp : p.Loaded b style) : report p = p.report.value.mapError .report := by
  rw [report, statisticsRows_eq hp.counted, pure_bind, fileRows_eq hp, Package.report_value]
  cases p.fileRows <;> rfl

end Strict

/-! ### Packages without a report -/

namespace Package

variable {p : Package} {b : ByteArray} {style : Manifest.Style}

/-- The rows on the file are missing for one of two reasons, the size of the file being tried first. -/
theorem fileRows_cases (p : Package) :
    (Size.bound ≤ p.summary.totalSize ∧ p.fileRows = .error (.size .tooLarge)) ∨
    (p.summary.totalSize < Size.bound ∧
      Nat.pow 10 ReportError.digitLimit ≤ p.container.volume.miniSectorSize ∧
      p.fileRows = .error .tooManyDigits) ∨
    (p.summary.totalSize < Size.bound ∧
      p.container.volume.miniSectorSize < Nat.pow 10 ReportError.digitLimit ∧
      ∃ rows, p.fileRows = .ok rows) := by
  -- the size is tried first, then the number of the mini sector's digits
  by_cases hbound : Size.bound ≤ p.summary.totalSize
  · have hsize : Size.render p.summary.totalSize = .error .tooLarge := by
      rw [Size.render, Int.natAbs_natCast, if_pos hbound]
    rw [fileRows, hsize]
    exact .inl ⟨hbound, rfl⟩
  obtain ⟨total, hsize⟩ : ∃ total, Size.render p.summary.totalSize = .ok total := by
    rw [Size.render, Int.natAbs_natCast, if_neg hbound]
    split <;> exact ⟨_, rfl⟩
  rw [fileRows, hsize]
  by_cases hmini : Nat.pow 10 ReportError.digitLimit ≤ p.container.volume.miniSectorSize
  · simp only [if_pos hmini]
    exact .inr (.inl ⟨Nat.not_le.mp hbound, hmini, rfl⟩)
  · simp only [if_neg hmini]
    exact .inr (.inr ⟨Nat.not_le.mp hbound, Nat.not_le.mp hmini, _, rfl⟩)

/-- The size of a mini sector has too many digits just if its shift is that large. -/
theorem Loaded.pow_le_miniSectorSize_iff (hp : p.Loaded b style) :
    Nat.pow 10 ReportError.digitLimit ≤ p.container.volume.miniSectorSize ↔
      ReportError.shiftLimit ≤ (Header.read b).miniSectorShift := by
  rw [hp.container.miniSectorSize, hp.container.header, Header.miniSectorSize, Nat.one_shiftLeft]
  -- the limit lies between two powers of two
  constructor
  · intro h
    by_contra hlt
    have hle : 2 ^ (Header.read b).miniSectorShift ≤ 2 ^ (ReportError.shiftLimit - 1) :=
      Nat.pow_le_pow_right (by decide) (by omega)
    exact Nat.not_le.mpr (hle.trans_lt ReportError.pow_shiftLimit.1) h
  · intro h
    exact ReportError.pow_shiftLimit.2.trans (Nat.pow_le_pow_right (by decide) h)

/-- There is no report on a package if its file is so large that its size is beyond all numbers with an
exponent below 1024, or if its mini sectors are so large that their size has too many digits. -/
theorem Loaded.report_eq_error_iff (hp : p.Loaded b style) (e : ReportError) :
    p.report.value = .error e ↔
      (Size.bound ≤ b.size ∧ e = .size .tooLarge) ∨
      (b.size < Size.bound ∧ ReportError.shiftLimit ≤ (Header.read b).miniSectorShift ∧
        e = .tooManyDigits) := by
  rw [report_value, ← hp.totalSize_eq, ← hp.pow_le_miniSectorSize_iff]
  -- one of the three ways, and the other two contradict it
  rcases p.fileRows_cases with ⟨hbound, hrows⟩ | ⟨hbound, hmini, hrows⟩ | ⟨hbound, hmini, rows, hrows⟩
  · rw [hrows]
    refine ⟨fun h => .inl ⟨hbound, (Except.error.inj h).symm⟩, ?_⟩
    rintro (⟨-, rfl⟩ | ⟨hlt, -⟩)
    · rfl
    · exact absurd hbound (Nat.not_le.mpr hlt)
  · rw [hrows]
    refine ⟨fun h => .inr ⟨hbound, hmini, (Except.error.inj h).symm⟩, ?_⟩
    rintro (⟨hle, -⟩ | ⟨-, -, rfl⟩)
    · exact absurd hbound (Nat.not_lt.mpr hle)
    · rfl
  · rw [hrows]
    refine ⟨(nomatch ·), ?_⟩
    rintro (⟨hle, -⟩ | ⟨-, hle, -⟩)
    · exact absurd hbound (Nat.not_lt.mpr hle)
    · exact absurd hmini (Nat.not_lt.mpr hle)

end Package

end InstallerPackage
