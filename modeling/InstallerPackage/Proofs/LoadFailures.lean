import InstallerPackage.Proofs.Strict.Packages
import InstallerPackage.Proofs.Verdicts

/-!
# When loading fails

`Package.load_fails_exactly` says of every file whether it can be loaded, and if not, what is wrong
with it. A file that passes the cheap test has a header, so its loading depends on two things only: that
one of the sectors that are listed as the allocation table's is inside the file, and that the
directory's chain gathers the bytes of a record. Nothing else that a file holds can make loading fail,
neither in `Package.load` nor in its strict version, where every look-up and every loop could.
-/

namespace InstallerPackage

/-- The cheap test looks at the size of the file, at its first eight bytes and at the size of its
sectors. -/
theorem isCompoundFile_iff {b : ByteArray} :
    isCompoundFile b = true ↔
      512 ≤ b.size ∧ Bytes.slice b 0 8 = Bytes.ofList (Header.signatureBytes.map UInt8.ofNat) ∧
        512 ≤ (Header.read b).sectorSize ∧ (Header.read b).sectorSize ≤ 4096 := by
  have hsectors : 512 ≤ (Header.read b).sectorSize ∧ (Header.read b).sectorSize ≤ 4096 ↔
      (Header.read b).hasSupportedSectors = true := Header.hasUsualSectors_iff
  rw [isCompoundFile, Bool.and_eq_true, Bool.and_eq_true, decide_eq_true_eq, hsectors, and_assoc]
  refine and_congr_right fun hsize => ?_
  rw [Header.startsWith_iff_slice hsize]

namespace Package

open Container

/-- **When loading fails.** Read strictly, loading ends in no other fault than the structural errors
of `load`, and the cheap test in none at all. Loading ends

* in an error about the header just if the cheap test fails: the file is shorter than 512 bytes, has
  another signature or sectors that are not between 512 and 4096 bytes large;
* otherwise in `Failed to load FAT` just if no listed sector lies wholly inside the file;
* otherwise in `Failed to read Directory stream` just if the directory's chain gathers fewer than 128
  bytes;
* and with a package in all other cases. -/
theorem load_fails_exactly (b : ByteArray) (style : Manifest.Style) :
    let h := Header.read b
    let m := h.medium b
    let listed := (Allocation.collect m h.slots h.listStart).value
    let table := (Allocation.load m listed).value
    let gathered := ((bareVolume b h table).materialize .regular h.directoryStart 0).value
    let outcome := (load b style).outcome.value
    Strict.load b style = outcome.mapError .structural ∧
    Strict.isCompoundFile b = pure (isCompoundFile b) ∧
    (isCompoundFile b = true ↔
      512 ≤ b.size ∧ Bytes.slice b 0 8 = Bytes.ofList (Header.signatureBytes.map UInt8.ofNat) ∧
        512 ≤ h.sectorSize ∧ h.sectorSize ≤ 4096) ∧
    ((∃ e, outcome = .error e ∧ e.isHeaderFault = true) ↔ isCompoundFile b = false) ∧
    (outcome = .error .noAllocationTable ↔
      isCompoundFile b = true ∧ ∀ s ∈ listed, m.hasSector s = false) ∧
    LoadError.noAllocationTable.message = "Failed to load FAT" ∧
    (outcome = .error .noDirectory ↔
      isCompoundFile b = true ∧ (∃ s ∈ listed, m.hasSector s = true) ∧ gathered.size < 128) ∧
    LoadError.noDirectory.message = "Failed to read Directory stream" ∧
    ((∃ p, outcome = .ok p) ↔
      isCompoundFile b = true ∧ (∃ s ∈ listed, m.hasSector s = true) ∧ 128 ≤ gathered.size) := by
  intro h m listed table gathered outcome
  have hverdict : Verdict b outcome := verdict_load b style
  exact ⟨Strict.load_eq b style, Strict.isCompoundFile_eq b, isCompoundFile_iff,
    hverdict.noHeader_iff, hverdict.noTable_iff, rfl, hverdict.noDirectory_iff, rfl,
    hverdict.opened_iff⟩

end Package

end InstallerPackage
