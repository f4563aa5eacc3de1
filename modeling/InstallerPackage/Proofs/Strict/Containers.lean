import InstallerPackage.Proofs.ByteLists
import InstallerPackage.Proofs.Strict.Streams
import InstallerPackage.Proofs.Strict.Trees

/-!
# Compound files, opened strictly

`Strict.container` opens a compound file with operations that can fail. The header is cut out of the
file and then tested, as it is once more by `Strict.isCompoundFile`; list sectors and records are
taken apart by position. `Strict.container_eq`: the only faults are those of `Container.load`.

The guards on the way are that a sector that is read as a list has all its words, that a record lies
within the directory's bytes, and that a squeezed character has a number below sixty-four.
-/

namespace InstallerPackage

/-! ### Headers and records cut out of a file -/

/-- The first bytes of every compound file, as one number. -/
def Header.signatureNumber : Nat := 0xE11AB1A1E011CFD0

namespace Header

/-- Sectors of a usual size consist of whole words. -/
theorem HasUsualSectors.four_dvd {h : Header} (hs : h.HasUsualSectors) : 4 ∣ h.sectorSize := by
  have hshift := hasUsualSectors_iff.mp hs
  rw [hasSupportedSectors, Bool.and_eq_true, decide_eq_true_eq] at hshift
  rw [sectorSize, Nat.one_shiftLeft]
  exact pow_dvd_pow 2 (show 2 ≤ h.sectorShift by omega)

/-- The header needs no more than the first 512 bytes. -/
theorem read_slice (b : ByteArray) : read (Bytes.slice b 0 size) = read b := by
  -- all parts of the header lie within its bytes, so each of them is the same after the cut
  have hnumber : ∀ start width, start + width ≤ 512 →
      Bytes.number (Bytes.slice b 0 512) start width = Bytes.number b start width := by
    intro start width h
    rw [Bytes.number_slice b h, Nat.zero_add]
  have hslice : ∀ start width, start + width ≤ 512 →
      Bytes.slice (Bytes.slice b 0 512) start width = Bytes.slice b start width := by
    intro start width h
    rw [Bytes.slice_slice b h, Nat.zero_add]
  have hslots : ((List.range slotCount).map fun i => Bytes.number (Bytes.slice b 0 512) (76 + 4 * i) 4)
      = (List.range slotCount).map fun i => Bytes.number b (76 + 4 * i) 4 := by
    refine List.map_congr_left fun i hi => hnumber _ _ ?_
    rw [List.mem_range, slotCount] at hi
    omega
  simp [read, size, hslots, hnumber, hslice]

/-- The signature is the number of the first eight bytes. -/
theorem startsWith_iff_number {b : ByteArray} (h : size ≤ b.size) :
    Bytes.startsWith b signatureBytes = true ↔ (read b).signature = signatureNumber := by
  have hsize : 8 ≤ b.size := Nat.le_trans (by decide) h
  -- eight bytes are compared one by one here, and as one number there
  have hbyte := Bytes.byte_lt b
  have h₀ := hbyte 0
  have h₁ := hbyte 1
  have h₂ := hbyte 2
  have h₃ := hbyte 3
  have h₄ := hbyte 4
  have h₅ := hbyte 5
  have h₆ := hbyte 6
  have h₇ := hbyte 7
  simp only [Bytes.startsWith, signatureBytes, read, signatureNumber, Bytes.number_succ,
    Bytes.number_zero]
  simp [List.zipIdx, hsize]
  omega

/-- The signature is a part of the file. -/
theorem startsWith_iff_slice {b : ByteArray} (h : size ≤ b.size) :
    Bytes.startsWith b signatureBytes = true ↔
      Bytes.slice b 0 8 = Bytes.ofList (signatureBytes.map UInt8.ofNat) := by
  rw [← Bytes.ofList_toList b] at h ⊢
  generalize b.data.toList = l at h ⊢
  rw [Bytes.size_ofList] at h
  rw [← Bytes.toList_inj, Bytes.toList_slice, Bytes.toList_ofList, Bytes.toList_ofList,
    List.drop_zero]
  match l, Nat.le_trans (show 8 ≤ size by decide) h with
  | x₀ :: x₁ :: x₂ :: x₃ :: x₄ :: x₅ :: x₆ :: x₇ :: rest, _ =>
    simp [Bytes.startsWith, signatureBytes, List.zipIdx, Bytes.byte_ofList, ← UInt8.toNat_inj]

end Header

/-- A record needs no more than its own bytes. -/
theorem Record.read_slice (b : ByteArray) (offset : Nat) :
    read (Bytes.slice b offset length) 0 = read b offset := by
  have hnumber : ∀ start width, start + width ≤ 128 →
      Bytes.number (Bytes.slice b offset 128) start width = Bytes.number b (offset + start) width :=
    fun start width h => Bytes.number_slice b h
  have hslice : ∀ start width, start + width ≤ 128 →
      Bytes.slice (Bytes.slice b offset 128) start width = Bytes.slice b (offset + start) width :=
    fun start width h => Bytes.slice_slice b h
  -- the name is the one part whose length is not fixed
  have hname : ∀ n, ((List.range (unitCount n)).map fun i =>
      Bytes.number (Bytes.slice b offset 128) (2 * i) 2) =
        (List.range (unitCount n)).map fun i => Bytes.number b (offset + 2 * i) 2 := by
    refine fun n => List.map_congr_left fun i hi => hnumber _ _ ?_
    rw [List.mem_range, unitCount, nameUnits] at hi
    omega
  simp [read, length, hname, hnumber, hslice]

namespace Strict

/-! ### The header -/

/-- The header of a file, or what is wrong with it. -/
def header (b : ByteArray) : Strict Header :=
  if b.size < Header.size then throw (.structural (.tooSmall b.size))
  else do
    let front ← cut b 0 Header.size
    let h := Header.read front
    if h.signature ≠ Header.signatureNumber then
      throw (.structural (.badSignature (Bytes.slice b 0 8)))
    else if ¬ h.HasUsualSectors then throw (.structural (.unsupportedSectorShift h.sectorShift))
    else pure h

/-- Does the file begin with the header of a compound file? -/
def isCompoundFile (b : ByteArray) : Strict Bool :=
  if b.size < Header.size then pure false
  else if Bytes.slice b 0 8 ≠ Bytes.ofList (Header.signatureBytes.map UInt8.ofNat) then pure false
  else do
    let front ← cut b 0 Header.size
    pure (decide (Header.read front).HasUsualSectors)

theorem header_eq (b : ByteArray) : header b = (Header.load b).strict := by
  unfold header Header.load
  -- the three tests in their order; the header itself is only cut out once the size is known
  by_cases hsize : b.size < Header.size
  · simp [hsize]
  have hle : 0 + Header.size ≤ b.size := by omega
  have hsig := Header.startsWith_iff_number (Nat.not_lt.mp hsize)
  rw [if_neg hsize, cut_eq hle, pure_bind, Header.read_slice]
  by_cases hnumber : (Header.read b).signature = Header.signatureNumber
  · by_cases hsectors : (Header.read b).HasUsualSectors
    · simp [hsize, hsig.mpr hnumber, hnumber, hsectors, Header.hasUsualSectors_iff.mp hsectors]
    · have hnot := mt Header.hasUsualSectors_iff.mpr hsectors
      simp [hsize, hsig.mpr hnumber, hnumber, hsectors, hnot]
  · simp [hsize, hnumber, mt hsig.mp hnumber]

theorem isCompoundFile_eq (b : ByteArray) :
    isCompoundFile b = pure (InstallerPackage.isCompoundFile b) := by
  unfold isCompoundFile InstallerPackage.isCompoundFile
  by_cases hsize : b.size < Header.size
  · simp [hsize, Nat.not_le.mpr hsize]
  have hle : 0 + Header.size ≤ b.size := by omega
  have hsig := Header.startsWith_iff_slice (Nat.not_lt.mp hsize)
  rw [if_neg hsize, cut_eq hle, pure_bind, Header.read_slice]
  by_cases hslice : Bytes.slice b 0 8 = Bytes.ofList (Header.signatureBytes.map UInt8.ofNat)
  · simp [hslice, hsig.mpr hslice, Nat.not_lt.mp hsize, Header.hasUsualSectors_iff]
  · simp [hslice, mt hsig.mp hslice]

/-! ### The list of the allocation table's sectors -/

/-- Appends to `found` the entries of the list sectors from `current` on. -/
def follow (m : Medium) :
    (steps : Nat) → (current : Nat) → (found : Array Nat) → Strict (Array Nat)
  | steps, current, found =>
    if isSentinel current then pure found
    else match steps with
      | 0 => pure found
      | steps + 1 =>
        let sector := m.sector current
        if sector.size < m.sectorSize then pure found
        else do
          let entries := Bytes.words sector
          let last := m.sectorSize / 4 - 1
          let next ← item entries last
          follow m steps next (found ++ (entries.extract 0 last).filter (! isSentinel ·))

/-- A sector that lies inside the file has all its words, and the last one is the link. -/
theorem words_sector {m : Medium} {n : Nat} (hdvd : 4 ∣ m.sectorSize) (hpos : 0 < m.sectorSize)
    (h : m.hasSector n = true) :
    (Bytes.words (m.sector n)).size = m.sectorSize / 4 ∧
      (Bytes.words (m.sector n))[m.sectorSize / 4 - 1]? = some (Allocation.nextList (m.sector n)) := by
  have hsize := (m.size_sector_eq_iff n hpos).mpr h
  obtain ⟨k, hk⟩ := hdvd
  have hwords : (Bytes.words (m.sector n)).size = m.sectorSize / 4 := by
    rw [Bytes.size_words, hsize]
  refine ⟨hwords, ?_⟩
  rw [Array.getElem?_eq_getElem (by omega), Bytes.getElem_words, Allocation.nextList, hsize]
  congr 2
  omega

theorem follow_eq {m : Medium} (hdvd : 4 ∣ m.sectorSize) (hpos : 0 < m.sectorSize)
    (steps current : Nat) (found : Array Nat) :
    follow m steps current found = pure (Allocation.follow m steps current found).value := by
  -- both follow the same recursion; what differs is how the sector is cut into words
  induction steps generalizing current found with
  | zero =>
    rw [follow.eq_def, Allocation.follow.eq_def]
    dsimp only
    split <;> rfl
  | succ steps ih =>
    rw [follow.eq_def, Allocation.follow.eq_def]
    dsimp only
    split
    · rfl
    -- a short sector ends the walk in one, a missing one in the other
    have hiff := m.size_sector_eq_iff current hpos
    by_cases h : m.hasSector current = true
    · -- the last word is the next link, all others are entries
      obtain ⟨hsize, hnext⟩ := words_sector hdvd hpos h
      have hentries : Allocation.listEntries (m.sector current) =
          ((Bytes.words (m.sector current)).extract 0 (m.sectorSize / 4 - 1)).filter
            (! isSentinel ·) := by
        rw [Allocation.listEntries, ← Array.extract_eq_pop (by rw [hsize])]
      rw [if_neg (by rw [hiff.mpr h]; exact Nat.lt_irrefl _), item_eq hnext, pure_bind, if_pos h,
        ih, hentries]
    · -- a sector that is not wholly there is shorter
      have hle : (m.sector current).size ≤ m.sectorSize := by
        rw [m.size_sector]
        exact Nat.min_le_left ..
      rw [if_pos (Nat.lt_of_le_of_ne hle (mt hiff.mp h)), if_neg h]

/-! ### The directory -/

/-- The characters that can be squeezed. -/
def charset : Array Nat :=
  (Name.ofString "0123456789ABCDEFGHIJKLMNOPQRSTUVWXYZabcdefghijklmnopqrstuvwxyz._").toArray

/-- What one stored code point stands for. -/
def expand (c : Nat) : Strict Name :=
  if Name.pairBase ≤ c ∧ c < Name.singleBase then do
    let packed := c - Name.pairBase
    let first ← item charset (packed % 64)
    let second ← item charset (packed / 64 % 64)
    pure [first, second]
  else if Name.singleBase ≤ c ∧ c < Name.tableMark then do
    let char ← item charset (c - Name.singleBase)
    pure [char]
  else if c = Name.tableMark then pure [0x21]
  else pure [c]

/-- The readable form of a stored name. -/
def decode (stored : Name) : Strict Name := do
  let parts ← stored.mapM expand
  pure parts.flatten

theorem item_charset {digit : Nat} (h : digit < 64) :
    item charset digit = pure (Name.squeezable digit) := by
  have hall : ∀ i < 64, charset[i]? = some (Name.squeezable i) := by decide +kernel
  exact item_eq (hall digit h)

theorem expand_eq (c : Nat) : expand c = pure (Name.expand c) := by
  unfold expand Name.expand
  split
  · next h =>
    -- a pair is a number of twelve bits
    have hlt : (c - Name.pairBase) / 64 < 64 := by
      simp only [Name.pairBase, Name.singleBase] at h ⊢
      omega
    dsimp only
    rw [item_charset (Nat.mod_lt _ (by decide)), pure_bind, item_charset (Nat.mod_lt _ (by decide)),
      pure_bind, Nat.mod_eq_of_lt hlt]
  split
  · next h =>
    rw [item_charset (by simp only [Name.singleBase, Name.tableMark] at h ⊢; omega), pure_bind]
  split <;> rfl

theorem decode_eq (stored : Name) : decode stored = pure stored.decode := by
  rw [decode, mapM_eq fun c _ => expand_eq c, pure_bind, Name.decode, List.flatMap_def]

/-- The record at a position of the directory. Its readable name is made at once. -/
def record (b : ByteArray) (i : Nat) : Strict Record := do
  let bytes ← cut b (i * Record.length) Record.length
  let record := Record.read bytes 0
  let _ ← decode record.name
  pure record

/-- The directory that begins at `start`, if at least its root can be read. -/
def directory (v : Volume) (start : Nat) : Strict Directory := do
  let bytes ← materialize v .regular start 0
  if bytes.size < Record.length then throw (.structural .noDirectory)
  else
    let count ← quotient bytes.size Record.length
    let records ← (List.range count).mapM (record bytes)
    -- the root is the record at position 0
    if h : 0 < records.toArray.size then pure ⟨records.toArray, h⟩
    else throw (.position 0 records.toArray.size)

theorem record_eq {b : ByteArray} {i : Nat} (h : i < b.size / Record.length) :
    record b i = pure (Record.read b (i * Record.length)) := by
  have hle : i * Record.length + Record.length ≤ b.size := by
    rw [← Nat.succ_mul]
    exact Nat.le_trans (Nat.mul_le_mul_right _ h) (Nat.div_mul_le_self ..)
  rw [record, cut_eq hle, pure_bind, Record.read_slice]
  dsimp only
  rw [decode_eq, pure_bind]

theorem directory_eq {v : Volume} (hv : v.HasUnits) (start : Nat) :
    directory v start = (Container.loadDirectory v start).strict := by
  rw [directory, materialize_eq hv, pure_bind, Container.loadDirectory, Attempt.strict_ofNoted_bind]
  generalize (v.materialize .regular start 0).value = bytes
  unfold Directory.ofBytes?
  by_cases h : Record.length ≤ bytes.size
  · -- every record that is counted is wholly there
    have hrecords : (List.range (bytes.size / Record.length)).mapM (record bytes) =
        pure ((List.range (bytes.size / Record.length)).map fun i =>
          Record.read bytes (i * Record.length)) :=
      mapM_eq fun i hi => record_eq (List.mem_range.mp hi)
    have hpos : 0 < bytes.size / Record.length := Nat.div_pos h (by decide)
    -- the two ways to collect the records
    have harray : ((List.range (bytes.size / Record.length)).map fun i =>
        Record.read bytes (i * Record.length)).toArray =
          Array.ofFn fun i : Fin (bytes.size / Record.length) =>
            Record.read bytes (i * Record.length) := by
      apply Array.ext
      · simp
      · intro i h₁ h₂
        simp
    rw [if_neg (Nat.not_lt.mpr h), quotient_eq _ (by decide), pure_bind, hrecords, pure_bind,
      dif_pos (by simpa using hpos)]
    simp only [h, dif_pos, harray]
    rfl
  · rw [if_pos (Nat.not_le.mp h)]
    simp only [h, dif_neg, not_false_eq_true]
    rfl

/-! ### The whole file -/

/-- The mini stream, whose place and size the root record tells. -/
def miniStream (v : Volume) (root : Record) : Strict ByteArray :=
  if root.size = 0 then pure ByteArray.empty else materialize v .regular root.start root.size

/-- Opens a file. -/
def container (b : ByteArray) : Strict Container := do
  let h ← header b
  let m := h.medium b
  let sectors ← follow m Allocation.listLimit h.listStart (Allocation.headEntries h.slots).toArray
  let table := (Allocation.load m sectors).value
  if table.isEmpty then throw (.structural .noAllocationTable)
  else
    let bare := Container.bareVolume b h table
    let d ← directory bare h.directoryStart
    let miniTable ← materialize bare .regular h.miniTableStart 0
    let miniStream ← miniStream bare d.root
    let root ← tree d
    pure
      { header := h
        tableSectors := sectors
        volume := { bare with miniTable := Bytes.words miniTable, miniStream := miniStream }
        directory := d
        root := root }

theorem hasUnits_bareVolume (b : ByteArray) (h : Header) (table : Array Nat) :
    (Container.bareVolume b h table).HasUnits
  | .regular => h.sectorSize_pos
  | .mini => h.miniSectorSize_pos

theorem miniStream_eq {v : Volume} (hv : v.HasUnits) (root : Record) :
    miniStream v root = pure (Container.loadMiniStream v root).value := by
  unfold miniStream Container.loadMiniStream
  split
  · rfl
  · rw [materialize_eq hv]
    simp only [Noted.value_bind]
    split <;> rfl

/-- A compound file is opened without a fault that is not a structural one. -/
theorem container_eq (b : ByteArray) : container b = (Container.load b).strict := by
  rw [container, Container.load, Attempt.strict_bind, header_eq]
  refine bind_congr_of_eq rfl fun h hh => ?_
  obtain ⟨haccepted, rfl⟩ := Header.load_eq_ok.mp (Attempt.strict_eq_ok.mp hh)
  dsimp only
  -- a header that was accepted has sectors of whole words
  have hsectors := (Header.hasUsualSectors_read haccepted).four_dvd
  rw [follow_eq hsectors (Header.read b).sectorSize_pos, pure_bind, Attempt.strict_ofNoted_bind,
    Attempt.strict_bind, Container.loadTable, Attempt.strict_ofNoted_bind, ← Allocation.collect]
  generalize (Allocation.load _ _).value = table
  by_cases hempty : table.isEmpty = true
  · rw [if_pos hempty, if_pos hempty, Attempt.strict_fail]
    rfl
  · rw [if_neg hempty, if_neg hempty, Attempt.strict_pure, pure_bind, Attempt.strict_bind]
    -- from here on only streams are read, and the tree is built
    have hv := hasUnits_bareVolume b (Header.read b) table
    refine bind_congr_of_eq (directory_eq hv _) fun d _ => ?_
    rw [materialize_eq hv, pure_bind, miniStream_eq hv, pure_bind, tree_eq, pure_bind,
      Attempt.strict_ofNoted_bind, Attempt.strict_ofNoted_bind, Attempt.strict_ofNoted_bind]
    rfl

end Strict

end InstallerPackage
