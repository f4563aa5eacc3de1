import InstallerPackage.Proofs.Verdicts

/-!
# Where the links of a sector stand

The allocation table is put together from the listed sectors that are inside the file. A sector that is
not there leaves no gap, so the links of all sectors behind it move forward by as many places as it
would have had: `Container.getElem?_table_of_load`. As long as no sector is missing, every link stands
at the place that its number says.
-/

namespace InstallerPackage

/-- An element that satisfies `p` stands, among all elements that do, behind those before it. -/
theorem getElem?_filter_countP {α : Type} {p : α → Bool} {l : List α} {k : Nat} {a : α}
    (h : l[k]? = some a) (ha : p a = true) : (l.filter p)[(l.take k).countP p]? = some a := by
  -- on the list: an element in front that satisfies `p` moves the place by one
  induction l generalizing k with
  | nil => simp at h
  | cons x l ih =>
    cases k with
    | zero =>
      obtain rfl : x = a := by simpa using h
      simp [ha]
    | succ k =>
      rw [List.getElem?_cons_succ] at h
      rw [List.take_succ_cons]
      by_cases hx : p x = true
      · rw [List.filter_cons_of_pos hx, List.countP_cons_of_pos hx, List.getElem?_cons_succ, ih h]
      · rw [List.filter_cons_of_neg hx, List.countP_cons_of_neg hx, ih h]

namespace Allocation

variable {m : Medium} {sectors : Array Nat}

/-- A link of a listed sector stands behind the links of the sectors listed before it that are there. -/
theorem getElem?_load {k n r : Nat} (hpos : 0 < m.sectorSize) (hn : sectors[k]? = some n)
    (h : m.hasSector n = true) (hr : r < m.sectorSize / 4) :
    (load m sectors).value[(sectors.toList.take k).countP (m.hasSector ·) * (m.sectorSize / 4) + r]? =
      some (Bytes.number m.bytes (m.offset n + 4 * r) 4) := by
  have hper : 0 < m.sectorSize / 4 := Nat.zero_lt_of_lt hr
  have hlength := length_words_sector hpos h
  have hindex := getElem?_filter_countP (p := (m.hasSector ·))
    (by rw [Array.getElem?_toList]; exact hn) h
  -- all pieces of the table but the last have the same length, so a place is a piece and a rest
  rw [Nat.mul_comm, ← Array.getElem?_toList, toList_load, getElem?_flatMap_of_pieces (s := n) hper]
  · -- the link in its sector
    have hlt : r < (Bytes.words (m.sector n)).size := by
      rwa [← Array.length_toList, hlength]
    rw [Nat.mul_add_mod, Nat.mod_eq_of_lt hr, Array.getElem?_toList, Array.getElem?_eq_getElem hlt,
      Bytes.getElem_words, Medium.sector, Bytes.number_slice _ (by omega)]
  · exact fun s hs => length_words_sector hpos (List.mem_filter.mp (List.dropLast_subset _ hs)).2
  · rw [Nat.mul_add_div hper, Nat.div_eq_of_lt hr, Nat.add_zero]
    exact hindex
  · rw [hlength]
    exact Nat.mod_lt _ hper

end Allocation

namespace Container

variable {b : ByteArray} {c : Container}

/-- **Missing sectors leave no gap in the allocation table.** In an open file the table has as many
links as fit into the listed sectors that are there. The links of such a sector, listed at position
`k`, begin `k - missing` sectors into the table, where `missing` is the number of sectors that are
listed before it and are not there. -/
theorem getElem?_table_of_load (hload : (load b).outcome.value = .ok c) :
    let v := c.volume
    let perSector := v.sectorSize / 4
    v.table.size = c.tableSectors.toList.countP (v.hasSector ·) * perSector ∧
    ∀ k n, c.tableSectors[k]? = some n → v.hasSector n = true →
      let missing := (c.tableSectors.toList.take k).countP (! v.hasSector ·)
      ∀ r < perSector, v.table[(k - missing) * perSector + r]? =
        some (Bytes.number b ((n + 1) * v.sectorSize + 4 * r) 4) := by
  intro v perSector
  have hopen := opened_of_load hload
  have hpos : 0 < v.sectorSize := hopen.sectorSize_pos
  refine ⟨by rw [hopen.table]; exact Allocation.size_load hpos, ?_⟩
  intro k n hn hin missing r hr
  -- the sectors listed before are there or they are missing
  have hcount : k - missing = (c.tableSectors.toList.take k).countP (v.hasSector ·) := by
    have hlt : k < c.tableSectors.toList.length := by
      rw [Array.length_toList]
      exact (Array.getElem?_eq_some_iff.mp hn).1
    have hsum := List.length_eq_countP_add_countP (v.hasSector ·) (l := c.tableSectors.toList.take k)
    simp only [List.length_take_of_le (Nat.le_of_lt hlt), Bool.not_eq_true, Bool.decide_eq_false] at hsum
    simp only [missing]
    omega
  rw [hcount, hopen.table, ← hopen.bytes_eq]
  exact Allocation.getElem?_load hpos hn hin hr

/-- A file can be opened if its directory is one sector and the first listed sector that is there says
so. -/
theorem exists_load_of_link {k n : Nat} (hb : isCompoundFile b = true)
    (hn : (listedSectors b)[k]? = some n) (hin : (medium b).hasSector n = true)
    (hmissing : ((listedSectors b).toList.take k).countP ((medium b).hasSector ·) = 0)
    (hlive : isSentinel (Header.read b).directoryStart = false)
    (hstart : (Header.read b).directoryStart < (medium b).sectorSize / 4)
    (hlink : Bytes.number b ((medium b).offset n + 4 * (Header.read b).directoryStart) 4 = endOfChain)
    (hroom : Record.length ≤ ((medium b).sector (Header.read b).directoryStart).size) :
    ∃ c, (load b).outcome.value = .ok c := by
  -- the directory's start has its link in the sector that was found
  have hwords := four_le_sectorSize hb
  have hget := Allocation.getElem?_load (by omega) hn hin hstart
  rw [hmissing, Nat.zero_mul, Nat.zero_add] at hget
  refine exists_load_of_sector hb ⟨n, Array.mem_of_getElem? hn, hin⟩ hlive ?_ hroom
  rw [links, hget]
  exact congrArg some hlink

/-! A file whose first listed sector lies far behind its end. -/

theorem listedSectors_scrap : listedSectors (scrap 6 [99, 0]) = #[99, 0] := by decide +kernel

theorem hasSector_scrap :
    (medium (scrap 6 [99, 0])).hasSector 99 = false ∧
      (medium (scrap 6 [99, 0])).hasSector 0 = true := by decide +kernel

/-- The file can be opened all the same. -/
theorem load_scrap : ∃ c, (load (scrap 6 [99, 0])).outcome.value = .ok c ∧
    c.tableSectors = #[99, 0] ∧ c.volume.toMedium = medium (scrap 6 [99, 0]) ∧
    c.volume.sectorSize = 512 := by
  have hsize : (medium (scrap 6 [99, 0])).sectorSize = 512 := by decide +kernel
  -- sector 99 is listed first, but it is not in the file
  have hmissing : ((listedSectors (scrap 6 [99, 0])).toList.take 1).countP
      ((medium (scrap 6 [99, 0])).hasSector ·) = 0 := by
    rw [listedSectors_scrap]
    simp [hasSector_scrap.1]
  obtain ⟨c, hc⟩ := exists_load_of_link (k := 1) (by decide +kernel)
    (by rw [listedSectors_scrap]; rfl) hasSector_scrap.2 hmissing (by decide +kernel)
    (by decide +kernel) (by decide +kernel) (by decide +kernel)
  have hopen := opened_of_load hc
  refine ⟨c, hc, hopen.tableSectors_eq.trans listedSectors_scrap, hopen.medium_eq, ?_⟩
  rw [hopen.medium_eq, hsize]

/-- The links of sector 0, which is listed second, are the first ones in the table, and there are no
others. -/
theorem getElem?_table_of_load_scrap :
    ∃ c, (load (scrap 6 [99, 0])).outcome.value = .ok c ∧ c.tableSectors[1]? = some 0 ∧
      c.volume.hasSector 0 = true ∧ 0 < c.volume.sectorSize / 4 ∧
      c.volume.table.size = 128 ∧ c.volume.table[0]? = some 0xFFFFFFFD := by
  obtain ⟨c, hload, hlisted, hmedium, hsize⟩ := load_scrap
  have hmissing : c.volume.hasSector 99 = false := hmedium ▸ hasSector_scrap.1
  have hin : c.volume.hasSector 0 = true := hmedium ▸ hasSector_scrap.2
  obtain ⟨hcount, hlinks⟩ := getElem?_table_of_load hload
  have hsecond : c.tableSectors[1]? = some 0 := by rw [hlisted]; rfl
  have hword : Bytes.number (scrap 6 [99, 0]) 512 4 = 0xFFFFFFFD := by decide +kernel
  have hfirst := hlinks 1 0 hsecond hin 0 (by rw [hsize]; decide)
  refine ⟨c, hload, hsecond, hin, by rw [hsize]; decide, ?_, ?_⟩
  · rw [hcount, hlisted, hsize]
    simp [hmissing, hin]
  · rw [hsize, hword, hlisted] at hfirst
    simpa [hmissing] using hfirst

/-- The place of a link is not the one that its number says: in the same file, where the second of the
listed sectors has the links from 128 on, there is no such link. -/
theorem table_not_aligned :
    ¬ ∀ (b : ByteArray) (c : Container), (load b).outcome.value = .ok c →
      ∀ j n, c.tableSectors[j / (c.volume.sectorSize / 4)]? = some n → c.volume.hasSector n = true →
        c.volume.table[j]? = some (Bytes.number b
          ((n + 1) * c.volume.sectorSize + 4 * (j % (c.volume.sectorSize / 4))) 4) := by
  intro haligned
  obtain ⟨c, hload, hlisted, hmedium, hsize⟩ := load_scrap
  have hmissing : c.volume.hasSector 99 = false := hmedium ▸ hasSector_scrap.1
  have hin : c.volume.hasSector 0 = true := hmedium ▸ hasSector_scrap.2
  have hsecond : c.tableSectors[128 / (c.volume.sectorSize / 4)]? = some 0 := by
    rw [hlisted, hsize]
    rfl
  have hopen := opened_of_load hload
  have htable : c.volume.table.size = 128 := by
    rw [hopen.table, Allocation.size_load hopen.sectorSize_pos, hlisted, hsize]
    simp [hmissing, hin]
  have hget := haligned _ c hload 128 0 hsecond hin
  rw [Array.getElem?_eq_none (Nat.le_of_eq htable)] at hget
  cases hget

end Container

end InstallerPackage
