import InstallerPackage.Proofs.AllocationTable
import InstallerPackage.Proofs.Strict.Packages
import InstallerPackage.Proofs.Strict.Reports

/-!
# What can be done with a loaded package

Once a package is loaded, all that is asked of it has an answer, with one exception:
`Package.calls_after_load`. A path that leads nowhere has no stream, as it should be, but there may
also be no report. Mini sectors have a size that the file chooses freely, and the report refuses to
write it when it has more than 4300 digits.

A walk through the tree, the definition of a table and the offset of a sector are not mentioned there:
no operation that they are made of can fail.
-/

namespace InstallerPackage.Package

open Container

variable {b : ByteArray} {style : Manifest.Style} {p : Package}

/-- **Calls after loading.** Read strictly, a loaded package

* gives the stream of every record, and of every path that leads to a node; another path is the only
  one that faults;
* gives the rows of every table, plain or labelled, and the sector of every offset;
* gives a report unless the file has `Size.bound` bytes or more, or else its mini sectors a shift of
  14285 or more. -/
theorem calls_after_load (hload : (load b style).outcome.value = .ok p) :
    let v := p.container.volume
    (∀ r, Strict.readRecord v r = pure (v.readRecord r).value) ∧
    (∀ path, Strict.openStream p path = match p.container.root.find? path with
      | some node => pure (v.readRecord node.record).value
      | none => throw (.path path)) ∧
    (∀ name, Strict.readTable p.database p.container name = pure (p.readTable name).value) ∧
    (∀ name, Strict.readLabelled p.database p.container name = pure (p.readLabelled name).value) ∧
    (∀ offset, Strict.offsetToSector v.toMedium offset = pure (v.offsetToSector offset)) ∧
    Strict.report p = p.report.value.mapError .report ∧
    ∀ e, p.report.value = .error e ↔
      (Size.bound ≤ b.size ∧ e = .size .tooLarge) ∨
      (b.size < Size.bound ∧ 14285 ≤ (Header.read b).miniSectorShift ∧ e = .tooManyDigits) := by
  intro v
  -- what a call needs of a package is what the loading has checked
  have hp := loaded_of_load hload
  have hunits := hp.container.hasUnits
  exact ⟨Strict.readRecord_eq hunits, Strict.openStream_eq hunits,
    Strict.readTable_eq hunits p.database, Strict.readLabelled_eq hunits p.database,
    Strict.offsetToSector_eq hp.container.sectorSize_pos, Strict.report_eq hp,
    hp.report_eq_error_iff⟩

/-! A file whose mini sectors are too large to be written about. -/

theorem miniSectorShift_scrap : (Header.read (scrap 14285 [0])).miniSectorShift = 14285 := by
  decide +kernel

theorem load_scrap_mini (style : Manifest.Style) :
    ∃ p, (load (scrap 14285 [0]) style).outcome.value = .ok p :=
  (exists_load_iff style).mpr (exists_load_of_link (k := 0) (n := 0) (by decide +kernel)
    (by decide +kernel) (by decide +kernel) rfl (by decide +kernel) (by decide +kernel)
    (by decide +kernel) (by decide +kernel))

/-- The package is loaded, but there is no report on it. -/
theorem calls_after_load_scrap :
    ∃ p, (load (scrap 14285 [0]) {}).outcome.value = .ok p ∧
      (scrap 14285 [0]).size < Size.bound ∧ p.report.value = .error .tooManyDigits ∧
      Strict.readTable p.database p.container "File" = pure (p.readTable "File").value := by
  obtain ⟨p, hload⟩ := load_scrap_mini {}
  have hsmall : (scrap 14285 [0]).size < Size.bound := by decide +kernel
  obtain ⟨-, -, htable, -, -, -, hreport⟩ := calls_after_load hload
  exact ⟨p, hload, hsmall,
    (hreport .tooManyDigits).mpr (.inr ⟨hsmall, miniSectorShift_scrap.ge, rfl⟩), htable "File"⟩

/-- Not every loaded package has a report. -/
theorem not_all_reported :
    ¬ ∀ (b : ByteArray) (style : Manifest.Style) (p : Package),
      (load b style).outcome.value = .ok p → ∃ rows, p.report.value = .ok rows := by
  intro hall
  -- the shift of the sample is the least one with too many digits
  obtain ⟨p, hload⟩ := load_scrap_mini {}
  have hsmall : (scrap 14285 [0]).size < Size.bound := by decide +kernel
  have hnone := ((loaded_of_load hload).report_eq_error_iff .tooManyDigits).mpr
    (.inr ⟨hsmall, miniSectorShift_scrap.ge, rfl⟩)
  obtain ⟨rows, hrows⟩ := hall _ _ p hload
  rw [hnone] at hrows
  cases hrows

end InstallerPackage.Package
