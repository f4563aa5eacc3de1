import InstallerPackage.Container.Image
import InstallerPackage.Proofs.Chains

/-!
# The sizes of a planned file

The allocation table has links for its own sectors and for the list sectors, so its size is a fixed
point. `Layout.settle` reaches it: both numbers only grow (`settle_spec`), and where they
stop, each of them is exactly what the other one asks for.
-/

namespace InstallerPackage

namespace Bytes

theorem pieces_mono {u m n : Nat} (h : m ≤ n) : pieces u m ≤ pieces u n :=
  Nat.div_le_div_right (by omega)

theorem pieces_le_self {u : Nat} (hu : 0 < u) (n : Nat) : pieces u n ≤ n := by
  rw [pieces, ← Nat.lt_succ_iff, Nat.div_lt_iff_lt_mul hu, Nat.succ_mul]
  have := Nat.le_mul_of_pos_right n hu
  omega

end Bytes

namespace Layout

variable {l : Layout}

/-- The layouts that a header can describe. -/
structure Valid (l : Layout) : Prop where
  sectorShift : 9 ≤ l.sectorShift ∧ l.sectorShift ≤ 12
  headerSlots : l.headerSlots ≤ Header.slotCount

theorem sectorSize_eq (l : Layout) : l.sectorSize = 2 ^ l.sectorShift := Nat.one_shiftLeft _

theorem sectorSize_pos (l : Layout) : 0 < l.sectorSize := by
  rw [sectorSize_eq]
  exact Nat.two_pow_pos _

/-- Sectors are cut into whole records, and these into whole words. -/
theorem Valid.exists_sectorSize_eq (h : l.Valid) :
    ∃ k, 4 ≤ k ∧ l.sectorSize = k * Record.length ∧ l.linksPerSector = k * 32 := by
  have hsize : l.sectorSize = 2 ^ (l.sectorShift - 7) * Record.length := by
    rw [sectorSize_eq, Record.length, show 128 = 2 ^ 7 from rfl, ← Nat.pow_add, Nat.sub_add_cancel]
    have := h.sectorShift.1
    omega
  refine ⟨_, ?_, hsize, ?_⟩
  · exact Nat.pow_le_pow_right (n := 2) (i := 2) (by decide) (by have := h.sectorShift.1; omega)
  · rw [linksPerSector, hsize, Record.length, show 128 = 32 * 4 from rfl, ← Nat.mul_assoc,
      Nat.mul_div_cancel _ (by decide)]

theorem Valid.le_linksPerSector (h : l.Valid) : 128 ≤ l.linksPerSector := by
  obtain ⟨k, hk, -, hlinks⟩ := h.exists_sectorSize_eq
  omega

theorem Valid.four_mul_linksPerSector (h : l.Valid) : 4 * l.linksPerSector = l.sectorSize := by
  obtain ⟨k, -, hsize, hlinks⟩ := h.exists_sectorSize_eq
  rw [hsize, hlinks, Record.length]
  omega

theorem Valid.entriesPerList_pos (h : l.Valid) : 0 < l.entriesPerList := by
  have := h.le_linksPerSector
  rw [entriesPerList]
  omega

/-- A header has room in the first sector. -/
theorem Valid.pieces_size (h : l.Valid) : Bytes.pieces l.sectorSize Header.size = 1 := by
  obtain ⟨k, hk, hsize, -⟩ := h.exists_sectorSize_eq
  rw [Record.length] at hsize
  refine Nat.div_eq_of_lt_le ?_ ?_
  · rw [Header.size]
    omega
  · rw [Header.size]
    omega

/-! ### The number of table sectors -/

/-- One round of `settle`: the numbers that the given ones ask for. -/
def needed (l : Layout) (data tables lists : Nat) : Nat × Nat :=
  let neededTables := Bytes.pieces l.linksPerSector (data + tables + lists)
  (neededTables, Bytes.pieces l.entriesPerList (neededTables - l.headerSlots))

theorem needed_mono (data : Nat) {tables lists tables' lists' : Nat} (ht : tables ≤ tables')
    (hl : lists ≤ lists') :
    (l.needed data tables lists).1 ≤ (l.needed data tables' lists').1 ∧
      (l.needed data tables lists).2 ≤ (l.needed data tables' lists').2 := by
  have h := Bytes.pieces_mono (u := l.linksPerSector)
    (show data + tables + lists ≤ data + tables' + lists' by omega)
  exact ⟨h, Bytes.pieces_mono (Nat.sub_le_sub_right h _)⟩

/-- Both numbers stay small against the data: a table sector has links for at least 128 sectors. -/
theorem needed_le {data tables lists : Nat} (h : 128 ≤ l.linksPerSector)
    (ht : tables ≤ data / 126 + 1) (hl : lists ≤ data / 126 + 1) :
    (l.needed data tables lists).1 ≤ data / 126 + 1 ∧
      (l.needed data tables lists).2 ≤ data / 126 + 1 := by
  have htables : (l.needed data tables lists).1 ≤ data / 126 + 1 := by
    rw [needed, Bytes.pieces, ← Nat.lt_succ_iff, Nat.div_lt_iff_lt_mul (by omega), Nat.succ_mul]
    -- of 128 links two are spent on the table and list sectors at most, and 126 are left for data
    have := Nat.mul_le_mul_left (data / 126 + 1) h
    omega
  have hpos : 0 < l.entriesPerList := by
    rw [entriesPerList]
    omega
  exact ⟨htables, Nat.le_trans (Bytes.pieces_le_self hpos _) (Nat.le_trans (Nat.sub_le _ _) htables)⟩

theorem settle_succ (data steps tables lists : Nat) :
    l.settle data (steps + 1) tables lists =
      if (l.needed data tables lists).1 ≤ tables ∧ (l.needed data tables lists).2 = lists
      then (tables, lists)
      else l.settle data steps (max (l.needed data tables lists).1 tables)
        (l.needed data tables lists).2 := rfl

/-- As long as the numbers are at most what they ask for, they grow until they are exactly that. -/
theorem settle_needed {data tables lists : Nat} (steps : Nat) (h : 128 ≤ l.linksPerSector)
    (ht : tables ≤ (l.needed data tables lists).1) (hl : lists ≤ (l.needed data tables lists).2)
    (ht' : tables ≤ data / 126 + 1) (hl' : lists ≤ data / 126 + 1)
    (hsteps : 2 * (data / 126 + 1) < steps + tables + lists) :
    l.needed data (l.settle data steps tables lists).1 (l.settle data steps tables lists).2 =
      l.settle data steps tables lists := by
  induction steps generalizing tables lists with
  | zero => omega
  | succ steps ih =>
    rw [settle_succ]
    split
    · next hdone => exact Prod.ext (Nat.le_antisymm hdone.1 ht) hdone.2
    · next hmore =>
      -- one of the numbers grows, and neither passes its bound, so a step is always left
      rw [Nat.max_eq_left ht]
      obtain ⟨hmono, hmono'⟩ := needed_mono data ht hl
      obtain ⟨hle, hle'⟩ := needed_le h ht' hl'
      exact ih hmono hmono' hle hle' (by omega)

/-- **The table is exactly as large as it has to be.** For the numbers of table and list sectors that
`settle` ends with, the table has just enough sectors to link the data and itself, and the lists
have just enough for the table sectors that the header does not list. -/
theorem settle_spec (data : Nat) (h : 128 ≤ l.linksPerSector) :
    let counts := l.settle data (data + 4) 1 0
    counts.1 = Bytes.pieces l.linksPerSector (data + counts.1 + counts.2) ∧
      counts.2 = Bytes.pieces l.entriesPerList (counts.1 - l.headerSlots) := by
  -- one table sector is too few rather than too many, as it has to link itself
  have hone : 1 ≤ (l.needed data 1 0).1 := Bytes.pieces_pos (by omega) (by omega)
  have hfix := settle_needed (data + 4) h hone (Nat.zero_le _) (by omega)
    (Nat.zero_le _) (by omega)
  have htables := congrArg Prod.fst hfix
  have hlists := congrArg Prod.snd hfix
  refine ⟨htables.symm, ?_⟩
  rw [← hlists, needed]
  simp only
  rw [show Bytes.pieces l.linksPerSector _ = _ from htables]

end Layout

end InstallerPackage
