import InstallerPackage.Proofs.Image.Extents

/-!
# The header of a planned file, read back

`Plan.load_header` says that the header is accepted without a notice and names the places that the
plan has, and `Plan.collect_eq` that the slots of the header and the list sectors together give the
sectors of the allocation table.
-/

namespace InstallerPackage

open Image

namespace Image.Plan

variable {p : Plan} {l : Layout}

/-! ### Fields -/

/-- The words that the header has room for, filled up with sentinels. -/
def slotWords (p : Plan) (l : Layout) : List Nat :=
  let slots := p.tableSectors.take l.headerSlots
  slots ++ List.replicate (Header.slotCount - slots.length) freeSector

theorem length_slotWords (p : Plan) {l : Layout} (h : l.headerSlots ≤ Header.slotCount) :
    (p.slotWords l).length = Header.slotCount := by
  have htake := Nat.le_trans (List.length_take_le l.headerSlots p.tableSectors) h
  rw [slotWords, List.length_append, List.length_replicate, Nat.add_sub_cancel' htake]

/-- The words that name the parts. -/
def placeWords (p : Plan) (l : Layout) : List Nat :=
  [if l.sectorShift = 9 then 0 else p.directory.count, p.table.count, p.directory.first, 0,
    miniCutoff, p.miniTable.start, p.miniTable.count, p.list.start, p.list.count]

theorem length_placeWords (p : Plan) (l : Layout) : (p.placeWords l).length = 9 := rfl

theorem length_signatureBytes : Header.signatureBytes.length = 8 := rfl

/-- Behind the first forty bytes a header consists of words. -/
theorem header_eq (p : Plan) (l : Layout) :
    ∃ front, p.header l = front ++ words (p.placeWords l ++ p.slotWords l) ∧
      front.length = 40 := by
  have heq : p.header l = _ ++ words (p.placeWords l) ++ words (p.slotWords l) := rfl
  refine ⟨_, heq.trans (by rw [List.append_assoc, words_append]), ?_⟩
  simp only [List.length_append, List.length_map, List.length_replicate, Bytes.length_little,
    length_signatureBytes]

theorem length_header (p : Plan) {l : Layout} (h : l.headerSlots ≤ Header.slotCount) :
    (p.header l).length = Header.size := by
  obtain ⟨front, heq, hfront⟩ := p.header_eq l
  rw [heq, List.length_append, hfront, length_words, List.length_append, length_slotWords p h,
    length_placeWords]
  rfl

/-- The fields of a header that lead to the parts of a planned file. -/
structure Named (p : Plan) (l : Layout) (h : Header) : Prop where
  byteOrder : h.byteOrder = Header.usualByteOrder
  sectorShift : h.sectorShift = l.sectorShift
  miniSectorShift : h.miniSectorShift = Header.usualMiniSectorShift
  directoryStart : h.directoryStart = p.directory.first
  miniCutoff : h.miniCutoff = Image.miniCutoff
  miniTableStart : h.miniTableStart = p.miniTable.start
  listStart : h.listStart = p.list.start
  slots : h.slots = p.slotWords l

theorem Named.sectorSize_eq {h : Header} (hn : p.Named l h) : h.sectorSize = l.sectorSize := by
  rw [Header.sectorSize, hn.sectorShift]
  rfl

theorem Named.miniSectorSize_eq {h : Header} (hn : p.Named l h) :
    h.miniSectorSize = Image.miniSectorSize := by
  rw [Header.miniSectorSize, hn.miniSectorShift]
  rfl

/-- The places of a plan are small enough to be written down. -/
structure Writable (p : Plan) : Prop where
  directory : p.directory.first < 2 ^ 32
  miniTable : p.miniTable.start < 2 ^ 32
  list : p.list.start < 2 ^ 32
  tableSectors : ∀ n ∈ p.tableSectors, n < firstReserved

theorem Writable.slotWords_lt (h : p.Writable) : ∀ n ∈ p.slotWords l, n < 2 ^ 32 := by
  intro n hn
  rcases List.mem_append.mp hn with hn | hn
  · exact Nat.lt_trans (h.tableSectors n (List.mem_of_mem_take hn)) (by decide)
  · rw [List.eq_of_mem_replicate hn]
    decide

theorem number_placeWords {i n : Nat} (hi : (p.placeWords l)[i]? = some n) (hn : n < 2 ^ 32)
    (more : List UInt8) : Bytes.number (Bytes.ofList (p.header l ++ more)) (40 + 4 * i) 4 = n := by
  obtain ⟨front, heq, hfront⟩ := p.header_eq l
  rw [heq, List.append_assoc, Bytes.number_ofList_skip (by omega), hfront, Nat.add_sub_cancel_left,
    words_append, List.append_assoc, number_words hi, Nat.mod_eq_of_lt hn]

theorem number_slotWords {i n : Nat} (hi : (p.slotWords l)[i]? = some n) (hn : n < 2 ^ 32)
    (more : List UInt8) : Bytes.number (Bytes.ofList (p.header l ++ more)) (76 + 4 * i) 4 = n := by
  obtain ⟨front, heq, hfront⟩ := p.header_eq l
  have hget : (p.placeWords l ++ p.slotWords l)[9 + i]? = some n := by
    rw [List.getElem?_append_right (Nat.le_add_right 9 i), length_placeWords,
      Nat.add_sub_cancel_left, hi]
  rw [heq, List.append_assoc, Bytes.number_ofList_skip (by omega), hfront,
    show 76 + 4 * i - 40 = 4 * (9 + i) by omega, number_words hget, Nat.mod_eq_of_lt hn]

/-- The slots are read one by one. -/
theorem slots_read (hl : l.Valid) (h : p.Writable) (more : List UInt8) :
    (Header.read (Bytes.ofList (p.header l ++ more))).slots = p.slotWords l := by
  have hlen := length_slotWords p hl.headerSlots
  refine List.ext_getElem ?_ fun i _ hi => ?_
  · rw [hlen, Header.read, List.length_map, List.length_range]
  · simp only [Header.read, List.getElem_map, List.getElem_range]
    exact number_slotWords (List.getElem?_eq_getElem hi) (h.slotWords_lt _ (List.getElem_mem hi)) more

theorem named_read (hl : l.Valid) (h : p.Writable) (more : List UInt8) :
    p.Named l (Header.read (Bytes.ofList (p.header l ++ more))) := by
  -- a shift that is allowed fits into the two bytes of its field
  have hshift : l.sectorShift % 256 ^ 2 = l.sectorShift :=
    Nat.mod_eq_of_lt (Nat.lt_of_le_of_lt hl.sectorShift.2 (by decide))
  constructor
  case slots => exact slots_read hl h more
  all_goals dsimp only [Header.read]
  case directoryStart => exact number_placeWords (i := 2) rfl h.directory more
  case miniCutoff => exact number_placeWords (i := 4) rfl (by decide) more
  case miniTableStart => exact number_placeWords (i := 5) rfl h.miniTable more
  case listStart => exact number_placeWords (i := 7) rfl h.list more
  -- what stands before the words is skipped field by field
  all_goals
    simp (disch := simp [length_signatureBytes]) only [header, List.append_assoc,
      Bytes.number_ofList_skip, List.length_map, length_signatureBytes, List.length_replicate,
      Bytes.length_little, Nat.reduceSub, Bytes.number_ofList_here, hshift]
  all_goals rfl

/-- The header of a planned file is accepted, and nothing about it is unusual. -/
theorem load_header (hl : l.Valid) (h : p.Writable) (more : List UInt8) :
    (Header.load (Bytes.ofList (p.header l ++ more))).outcome =
      ⟨.ok (Header.read (Bytes.ofList (p.header l ++ more))), []⟩ := by
  have hnamed := named_read hl h more
  -- the tests of a reader, one by one
  have hsize : ¬ (Bytes.ofList (p.header l ++ more)).size < Header.size := by
    rw [Bytes.size_ofList, List.length_append, length_header p hl.headerSlots]
    omega
  have hsig : Bytes.startsWith (Bytes.ofList (p.header l ++ more)) Header.signatureBytes = true := by
    simp [Bytes.startsWith, Bytes.byte_ofList, Header.signatureBytes, header]
  have hshift : (Header.read (Bytes.ofList (p.header l ++ more))).hasSupportedSectors = true := by
    simp [Header.hasSupportedSectors, hnamed.sectorShift, hl.sectorShift]
  have hoddities : (Header.read (Bytes.ofList (p.header l ++ more))).oddities = [] := by
    rw [Header.oddities, if_pos hnamed.byteOrder, if_pos hnamed.miniSectorShift, List.append_nil]
  simp only [Header.load, hsize, hsig, hshift, hoddities, Bool.not_true, Bool.false_eq_true, if_false,
    Attempt.outcome_ofNoted]

/-! ### The sectors of the table -/

theorem headEntries_slotWords (h : p.Writable) :
    Allocation.headEntries (p.slotWords l) = p.tableSectors.take l.headerSlots := by
  have hlive : ∀ n ∈ p.tableSectors.take l.headerSlots, (! isSentinel n) = true := by
    intro n hn
    rw [Extent.isSentinel_of_lt (h.tableSectors n (List.mem_of_mem_take hn))]
    rfl
  rw [Allocation.headEntries, slotWords, List.takeWhile_append_of_pos hlive, List.takeWhile_replicate]
  simp [isSentinel]

variable {m : Medium} {entries : List Nat} {count sector steps : Nat}

/-- The words of one list sector. -/
def hereWords (l : Layout) (count sector : Nat) (entries : List Nat) : List Nat :=
  let here := entries.take l.entriesPerList
  here ++ List.replicate (l.entriesPerList - here.length) freeSector ++
    [Extent.start ⟨sector + 1, count⟩]

theorem listWords_succ (l : Layout) (count sector : Nat) (entries : List Nat) :
    listWords l (count + 1) sector entries =
      hereWords l count sector entries ++
        listWords l count (sector + 1) (entries.drop l.entriesPerList) := rfl

theorem length_hereWords (hpos : 0 < l.linksPerSector) (count sector : Nat) (entries : List Nat) :
    (hereWords l count sector entries).length = l.linksPerSector := by
  have htake := List.length_take_le l.entriesPerList entries
  rw [hereWords, List.length_append, List.length_append, List.length_replicate,
    Nat.add_sub_cancel' htake, List.length_singleton, Layout.entriesPerList, Nat.sub_add_cancel hpos]

theorem hereWords_lt {count sector : Nat} {entries : List Nat}
    (hlive : ∀ n ∈ entries, n < firstReserved) (hlast : sector + 1 + count ≤ firstReserved) :
    ∀ n ∈ hereWords l count sector entries, n < 2 ^ 32 := by
  intro n hn
  rw [hereWords, List.mem_append, List.mem_append, List.mem_singleton] at hn
  rcases hn with (hn | hn) | rfl
  · exact Nat.lt_trans (hlive n (List.mem_of_mem_take hn)) (by decide)
  · rw [List.eq_of_mem_replicate hn]
    decide
  · exact Extent.start_lt (Nat.lt_of_le_of_lt (Nat.le_trans (Nat.le_add_right _ _) hlast) (by decide))

/-- A list sector is read back: its entries, and the link to the next one. -/
theorem read_hereWords {count sector : Nat} {entries : List Nat}
    (hlive : ∀ n ∈ entries, n < firstReserved) (hlast : sector + 1 + count ≤ firstReserved) :
    let b := Bytes.ofList (words (hereWords l count sector entries))
    Allocation.listEntries b = (entries.take l.entriesPerList).toArray ∧
      Allocation.nextList b = Extent.start ⟨sector + 1, count⟩ := by
  -- what is written is live, so that only the last word is taken as a link
  have hlt := hereWords_lt (l := l) hlive hlast
  rw [hereWords] at hlt
  obtain ⟨hfound, hnext⟩ := Allocation.read_listWords hlt
  refine ⟨hfound.trans ?_, hnext⟩
  -- the sentinels that fill the sector up are left out again
  have hkeep : ∀ n ∈ entries.take l.entriesPerList, (! isSentinel n) = true := by
    intro n hn
    rw [Extent.isSentinel_of_lt (hlive n (List.mem_of_mem_take hn))]
    rfl
  rw [List.filter_append, List.filter_eq_self.mpr hkeep, List.filter_replicate]
  simp [isSentinel]

/-- The list sectors from `sector` on are followed to their end. -/
theorem follow_listWords (hper : 4 * l.linksPerSector = m.sectorSize) (hpos : 0 < l.linksPerSector)
    (hstores : m.Stores sector (words (listWords l count sector entries)))
    (hentries : entries.length ≤ count * l.entriesPerList)
    (hlive : ∀ n ∈ entries, n < firstReserved) (hlast : sector + count ≤ firstReserved)
    (hsteps : count ≤ steps) (found : Array Nat) :
    Allocation.follow m steps (Extent.start ⟨sector, count⟩) found =
      ⟨found ++ entries.toArray, []⟩ := by
  induction count generalizing sector steps entries found with
  | zero =>
    -- no sectors, no entries: the start is a sentinel
    rw [Nat.zero_mul] at hentries
    rw [List.eq_nil_of_length_eq_zero (Nat.le_zero.mp hentries), Allocation.follow.eq_def]
    simp [Extent.start, isSentinel, pure]
  | succ count ih =>
    obtain ⟨steps, rfl⟩ : ∃ s, steps = s + 1 := ⟨steps - 1, by omega⟩
    have hsize : (words (hereWords l count sector entries)).length = m.sectorSize := by
      rw [length_words, length_hereWords hpos, hper]
    rw [listWords_succ, words_append] at hstores
    have hsector := hstores.left.sector_eq hsize
    have hhas : m.hasSector sector = true :=
      hstores.left.hasSector (hsize.trans (Nat.one_mul _).symm) Nat.one_pos
    obtain ⟨hfound, hnext⟩ := read_hereWords (l := l) hlive
      (show sector + 1 + count ≤ firstReserved by omega)
    have hstart : Extent.start ⟨sector, count + 1⟩ = sector := rfl
    -- the entries of this sector are found already when the next one is read
    have hrest := ih (hstores.right 1 (by rw [hsize, Nat.one_mul]))
      (by rw [List.length_drop]; rw [Nat.succ_mul] at hentries; omega)
      (fun n hn => hlive n (List.mem_of_mem_drop hn)) (by omega) (Nat.le_of_succ_le_succ hsteps)
      (found ++ (entries.take l.entriesPerList).toArray)
    rw [hstart, Allocation.follow.eq_def]
    have hjoin : found ++ (entries.take l.entriesPerList).toArray ++
        (entries.drop l.entriesPerList).toArray = found ++ entries.toArray := by
      apply Array.ext'
      simp only [Array.toList_append, List.append_assoc, List.take_append_drop]
    simp only [Extent.isSentinel_of_lt (show sector < firstReserved by omega), hhas, hsector, hfound,
      hnext, hrest, hjoin, Bool.false_eq_true, if_false, if_true]

/-- The header and the list sectors name the sectors of the table, in order. -/
theorem collect_eq (hl : l.Valid) (h : p.Writable) (hsector : l.sectorSize = m.sectorSize)
    (hlist : p.list.first + p.list.count ≤ firstReserved)
    (hcount : p.list.count = Bytes.pieces l.entriesPerList (p.table.count - l.headerSlots))
    (hsteps : p.list.count ≤ Allocation.listLimit)
    (hstores : m.Stores p.list.first (words (listWords l p.list.count p.list.first
      (p.tableSectors.drop l.headerSlots)))) :
    Allocation.collect m (p.slotWords l) p.list.start = ⟨p.tableSectors.toArray, []⟩ := by
  have hper : 4 * l.linksPerSector = m.sectorSize := hl.four_mul_linksPerSector.trans hsector
  have hpos : 0 < l.linksPerSector := Nat.lt_of_lt_of_le (by decide) hl.le_linksPerSector
  -- the list sectors have room for what the header has not
  have hentries : (p.tableSectors.drop l.headerSlots).length ≤ p.list.count * l.entriesPerList := by
    rw [hcount, List.length_drop, tableSectors, List.length_range']
    exact Bytes.le_pieces_mul hl.entriesPerList_pos _
  rw [Allocation.collect, headEntries_slotWords h,
    follow_listWords hper hpos hstores hentries
      (fun n hn => h.tableSectors n (List.mem_of_mem_drop hn)) hlist hsteps,
    List.append_toArray, List.take_append_drop]

end Image.Plan

end InstallerPackage
