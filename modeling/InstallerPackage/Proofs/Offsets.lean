import InstallerPackage.Proofs.Opening

/-!
# Offsets and sectors

The header fills the first sector of a file, however large sectors are, so an offset lies in the sector
that comes out of a division by the sector size, less one. What comes before sector 0 has no number of
its own and counts as sector 0, but only the first 512 bytes are treated so: in a file with larger
sectors the rest of the header's sector comes out as -1 (`Medium.offsetToSector_gap`).

`Header.offsetToSector_laws` says what an offset is translated to, for all sizes that the header check
admits. The order of offsets is kept outside of that rest, and with sectors of 512 bytes there is none.
-/

namespace InstallerPackage

namespace Medium

variable {m : Medium} {offset : Int}

theorem offsetToSector_header (h : offset < 512) : m.offsetToSector offset = 0 := if_pos h

theorem offsetToSector_behind (h : 512 ≤ offset) :
    m.offsetToSector offset = offset / m.sectorSize - 1 := by
  rw [offsetToSector, if_neg (Int.not_lt.mpr h), Int.fdiv_eq_ediv_of_nonneg _ (Int.natCast_nonneg _)]

/-- The rest of the header's sector has a number that no sector has. -/
theorem offsetToSector_gap (h : 512 ≤ offset) (hlt : offset < m.sectorSize) :
    m.offsetToSector offset = -1 := by
  rw [offsetToSector_behind h, Int.ediv_eq_zero_of_lt (by omega) hlt]
  rfl

/-- The offsets of a sector are translated to its number. -/
theorem offsetToSector_within {n : Nat} (hsize : 512 ≤ m.sectorSize)
    (h : ((n : Int) + 1) * m.sectorSize ≤ offset) (h' : offset < ((n : Int) + 2) * m.sectorSize) :
    m.offsetToSector offset = n := by
  have hpos : (0 : Int) < m.sectorSize := by omega
  -- behind the header the number is one less than the quotient
  have hbehind : 512 ≤ offset :=
    calc (512 : Int) ≤ 1 * m.sectorSize := by omega
      _ ≤ ((n : Int) + 1) * m.sectorSize := Int.mul_le_mul_of_nonneg_right (by omega) (Int.le_of_lt hpos)
      _ ≤ offset := h
  have hle : (n : Int) + 1 ≤ offset / m.sectorSize := (Int.le_ediv_iff_mul_le hpos).mpr h
  have hlt : offset / m.sectorSize < (n : Int) + 2 := (Int.ediv_lt_iff_lt_mul hpos).mpr h'
  rw [offsetToSector_behind hbehind]
  omega

theorem offsetToSector_nonneg (hpos : 0 < m.sectorSize)
    (h : offset < 512 ∨ (m.sectorSize : Int) ≤ offset) : 0 ≤ m.offsetToSector offset := by
  rcases Int.lt_or_le offset 512 with hlt | hge
  · exact Int.le_of_eq (offsetToSector_header hlt).symm
  · have hle : 1 ≤ offset / m.sectorSize := by
      rw [Int.le_ediv_iff_mul_le (by omega), Int.one_mul]
      exact h.resolve_left (Int.not_lt.mpr hge)
    rw [offsetToSector_behind hge]
    omega

/-- Behind the header a later offset is in no earlier sector. -/
theorem offsetToSector_mono {later : Int} (hpos : 0 < m.sectorSize) (h : 512 ≤ offset)
    (hle : offset ≤ later) : m.offsetToSector offset ≤ m.offsetToSector later := by
  rw [offsetToSector_behind h, offsetToSector_behind (Int.le_trans h hle)]
  have := Int.ediv_le_ediv (show (0 : Int) < m.sectorSize by omega) hle
  omega

end Medium

namespace Header

/-- **Offsets are translated consistently.** For all sector sizes that the header check admits

* the offsets of sector `n` are translated to `n`;
* the first 512 offsets are translated to 0, and those behind them in the header's sector to -1;
* of two offsets that do not lie in this rest of the header's sector, the later one has the greater
  number or the same, and no number is negative. -/
theorem offsetToSector_laws (h : Header) (b : ByteArray) (hsectors : h.hasSupportedSectors = true) :
    let m := h.medium b
    (∀ (n : Nat) (offset : Int), ((n : Int) + 1) * m.sectorSize ≤ offset →
      offset < ((n : Int) + 2) * m.sectorSize → m.offsetToSector offset = n) ∧
    (∀ offset : Int, offset < 512 → m.offsetToSector offset = 0) ∧
    (∀ offset : Int, 512 ≤ offset → offset < m.sectorSize → m.offsetToSector offset = -1) ∧
    ∀ offset later : Int, offset ≤ later → (offset < 512 ∨ (m.sectorSize : Int) ≤ offset) →
      (later < 512 ∨ (m.sectorSize : Int) ≤ later) →
      0 ≤ m.offsetToSector offset ∧ m.offsetToSector offset ≤ m.offsetToSector later := by
  intro m
  have hsize : 512 ≤ m.sectorSize := (hasUsualSectors_iff.mpr hsectors).1
  have hpos : 0 < m.sectorSize := Nat.lt_of_lt_of_le (by decide) hsize
  refine ⟨fun n offset => Medium.offsetToSector_within hsize,
    fun offset => Medium.offsetToSector_header, fun offset => Medium.offsetToSector_gap,
    fun offset later hle hoffset hlater => ⟨Medium.offsetToSector_nonneg hpos hoffset, ?_⟩⟩
  -- the two offsets are on different sides of the end of the header, or on the same one
  rcases Int.lt_or_le offset 512 with hlt | hge
  · -- the number of an offset in the header is the least one
    rw [Medium.offsetToSector_header hlt]
    exact Medium.offsetToSector_nonneg hpos hlater
  · exact Medium.offsetToSector_mono hpos hge hle

/-- A header of a file with sectors of 1024 bytes. -/
def wideSample : Header := { read ByteArray.empty with sectorShift := 10 }

/-- The last offset of sector 0 and the one behind it, in sectors of 1024 bytes. -/
theorem offsetToSector_laws_wide :
    wideSample.hasSupportedSectors = true ∧
      (wideSample.medium ByteArray.empty).offsetToSector 2047 = 0 ∧
      (wideSample.medium ByteArray.empty).offsetToSector 2048 = 1 ∧
      (wideSample.medium ByteArray.empty).offsetToSector 1023 = -1 := by
  have hsectors : wideSample.hasSupportedSectors = true := rfl
  have hsize : (wideSample.medium ByteArray.empty).sectorSize = 1024 := rfl
  obtain ⟨hwithin, -, hgap, -⟩ := offsetToSector_laws wideSample ByteArray.empty hsectors
  rw [hsize] at hwithin hgap
  exact ⟨hsectors, hwithin 0 2047 (by decide) (by decide), hwithin 1 2048 (by decide) (by decide),
    hgap 1023 (by decide) (by decide)⟩

/-- Not all offsets have the number of a sector, and not all those before sector 0 count as sector 0:
with sectors of 1024 bytes the offset 600 is translated to -1. -/
theorem not_offsetToSector_nonneg :
    ¬ ∀ (h : Header) (b : ByteArray), h.hasSupportedSectors = true →
      let m := h.medium b
      (∀ offset later : Int, offset ≤ later →
        0 ≤ m.offsetToSector offset ∧ m.offsetToSector offset ≤ m.offsetToSector later) ∧
      (∀ (n : Nat) (offset : Int), ((n : Int) + 1) * m.sectorSize ≤ offset →
        offset < ((n : Int) + 2) * m.sectorSize → m.offsetToSector offset = n) ∧
      ∀ offset : Int, offset < m.sectorSize → m.offsetToSector offset = 0 := by
  intro hall
  -- in sectors of 1024 bytes, 600 is neither in the header nor in a sector
  have hgap : (wideSample.medium ByteArray.empty).offsetToSector 600 = -1 :=
    Medium.offsetToSector_gap (by decide) (by decide)
  obtain ⟨horder, -, -⟩ := hall wideSample ByteArray.empty rfl
  have hnonneg := (horder 600 600 (Int.le_refl _)).1
  rw [hgap] at hnonneg
  omega

end Header

end InstallerPackage
