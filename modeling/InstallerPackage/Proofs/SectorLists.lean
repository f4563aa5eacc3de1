import InstallerPackage.Proofs.ListDamage
import InstallerPackage.Proofs.Strict.Containers

/-!
# The list of the allocation table's sectors, read back

Which sectors hold the allocation table is listed in two places with different rules. In the header the
list ends at the first sentinel; in the chain of list sectors sentinels may stand anywhere between the
entries, and the last word of a sector is no entry but the link to the next one.

* `Allocation.Heads` and `Allocation.Chained` say how a list is written in the one place and in the
  other.
* `Allocation.collect_written`: a list that is written so is read back as it was, without a notice,
  however it is divided between the two. Whatever a file holds, no more than `Allocation.listLimit`
  list sectors are looked at, and what is read depends on nothing else.
-/

namespace InstallerPackage.Allocation

/-! ### The part in the header -/

/-- The slots of a header list some entries: either these fill all of them, or a sentinel stands behind
the last entry. What comes behind the sentinel is of no account. -/
def Heads (slots entries : List Nat) : Prop :=
  slots = entries ∨ ∃ s rest, isSentinel s = true ∧ slots = entries ++ s :: rest

variable {m m' : Medium} {start : Nat}

theorem headEntries_eq {slots entries : List Nat} (hlive : ∀ n ∈ entries, isSentinel n = false)
    (h : Heads slots entries) : headEntries slots = entries := by
  have hkeep : ∀ n ∈ entries, (! isSentinel n) = true := fun n hn => by rw [hlive n hn]; rfl
  rcases h with rfl | ⟨s, rest, hs, rfl⟩
  · exact List.takeWhile_eq_self_iff.mpr hkeep
  · rw [headEntries, List.takeWhile_append_of_pos hkeep, List.takeWhile_cons_of_neg (by simp [hs]),
      List.append_nil]

/-! ### The part in list sectors -/

/-- A list sector as it is written: its number, and all its words but the last. -/
structure ListPart where
  sector : Nat
  words : List Nat

/-- The entries of a list sector: its words without the sentinels between them. -/
def ListPart.entries (p : ListPart) : List Nat := p.words.filter (! isSentinel ·)

/-- The list sectors from `start` on are written as `parts`. Each of them lies wholly inside the file and
has the number of the next one as its last word, the last one a sentinel. -/
def Chained (m : Medium) : (start : Nat) → (parts : List ListPart) → Prop
  | start, [] => isSentinel start = true
  | start, p :: rest =>
    start = p.sector ∧ isSentinel p.sector = false ∧ m.hasSector p.sector = true ∧
      ∃ next, (∀ n ∈ p.words ++ [next], n < 2 ^ 32) ∧
        m.sector p.sector = Bytes.ofList (Image.words (p.words ++ [next])) ∧ Chained m next rest

/-- What is written as a chain of list sectors is one. -/
theorem Chained.listPath {parts : List ListPart} (h : Chained m start parts) :
    ∃ last, ListPath m start (parts.map ListPart.sector) last ∧ isSentinel last = true ∧
      entriesOf m (parts.map ListPart.sector) = parts.flatMap ListPart.entries := by
  -- on the parts of the chain; each one has its entries, and the link to the next one behind them
  induction parts generalizing start with
  | nil => exact ⟨start, rfl, h, rfl⟩
  | cons p rest ih =>
    obtain ⟨rfl, hlive, hin, next, hlt, hsector, hrest⟩ := h
    obtain ⟨last, hpath, hlast, hentries⟩ := ih hrest
    obtain ⟨hfound, hnext⟩ := read_listWords hlt
    refine ⟨last, ⟨rfl, hlive, hin, ?_⟩, hlast, ?_⟩
    · rw [hsector, hnext]
      exact hpath
    · rw [List.map_cons, entriesOf, List.flatMap_cons, hsector, hfound]
      exact congrArg (p.entries ++ ·) hentries

/-! ### The whole list -/

/-- Sectors of equal content are there in both files or in neither of them. -/
theorem hasSector_eq_of_sector_eq (hpos : 0 < m.sectorSize) (hsize : m'.sectorSize = m.sectorSize)
    {s : Nat} (h : m'.sector s = m.sector s) : m'.hasSector s = m.hasSector s := by
  rw [Bool.eq_iff_iff, ← m.size_sector_eq_iff s hpos, ← m'.size_sector_eq_iff s (hsize ▸ hpos), h,
    hsize]

theorem collect_congr (hpos : 0 < m.sectorSize) (hsize : m'.sectorSize = m.sectorSize)
    (h : ∀ s ∈ listSectors m listLimit start, m'.sector s = m.sector s) (slots : List Nat) :
    collect m' slots start = collect m slots start :=
  follow_congr (fun s hs => hasSector_eq_of_sector_eq hpos hsize (h s hs)) (fun s hs _ => h s hs) _

/-- **The list is read back as it was written.** Let `h` be a header with sectors of a usual size.

* Let a list without sentinels be divided into the entries in the header and those in a chain of at
  most `listLimit` list sectors. Then exactly this list is read, and there is nothing to report; the
  list sectors looked at are those of the chain.
* Whatever the file holds, the reader gets to an end without a fault, and looks at `listLimit` list
  sectors at most. What it reads depends on no other sectors. -/
theorem collect_written (h : Header) (b : ByteArray) (hsectors : h.HasUsualSectors) :
    let m := h.medium b
    let looked := listSectors m listLimit h.listStart
    (∀ listed first parts, (∀ n ∈ listed, isSentinel n = false) →
      listed = first ++ parts.flatMap ListPart.entries → Heads h.slots first →
      Chained m h.listStart parts → parts.length ≤ listLimit →
        collect m h.slots h.listStart = ⟨listed.toArray, []⟩ ∧
          looked = parts.map ListPart.sector) ∧
    Strict.follow m listLimit h.listStart (headEntries h.slots).toArray =
      pure (collect m h.slots h.listStart).value ∧
    looked.length ≤ listLimit ∧
    ∀ m' : Medium, m'.sectorSize = m.sectorSize → (∀ s ∈ looked, m'.sector s = m.sector s) →
      collect m' h.slots h.listStart = collect m h.slots h.listStart := by
  intro m looked
  have hpos : 0 < m.sectorSize := h.sectorSize_pos
  refine ⟨?_, Strict.follow_eq hsectors.four_dvd hpos _ _ _, length_listSectors_le m _ _, ?_⟩
  · -- the list is what the header has, and then what the list sectors have
    rintro listed first parts hlive rfl hheads hchained hlimit
    obtain ⟨last, hpath, hlast, hentries⟩ := hchained.listPath
    have hfew : (parts.map ListPart.sector).length ≤ listLimit := by rwa [List.length_map]
    have hfirst := headEntries_eq (fun n hn => hlive n (List.mem_append_left _ hn)) hheads
    refine ⟨?_, hpath.listSectors_eq hlast hfew⟩
    rw [collect_path hpath hlast hfew, hfirst, hentries, List.append_toArray]
    rfl
  · -- no sector is read that was not looked at
    exact fun m' hsize hsame => collect_congr hpos hsize hsame h.slots

/-! A list with gaps, in a header and two list sectors, the second of which stands first. -/

/-- The words of the two list sectors. -/
def gapParts : List ListPart :=
  [⟨1, [7, freeSector, 8] ++ List.replicate 124 endOfChain⟩, ⟨0, List.replicate 126 freeSector ++ [9]⟩]

/-- The file behind its header: sector 0, which ends the chain, and sector 1, which leads to it. -/
def gapFile : ByteArray :=
  Bytes.ofList (List.replicate 512 0 ++
    (Image.words (List.replicate 126 freeSector ++ [9] ++ [endOfChain]) ++
      Image.words ([7, freeSector, 8] ++ List.replicate 124 endOfChain ++ [0])))

/-- The second slot of the header ends its part of the list. -/
def gapHeader : Header :=
  { Header.read gapFile with
    sectorShift := 9
    listStart := 1
    slots := [5, freeSector] ++ List.replicate 107 6 }

theorem chained_gapParts : Chained (gapHeader.medium gapFile) 1 gapParts := by
  -- the two list sectors stand one behind the other
  have hsize : (gapHeader.medium gapFile).sectorSize = 512 := rfl
  have hstores : (gapHeader.medium gapFile).Stores 0
      (Image.words (List.replicate 126 freeSector ++ [9] ++ [endOfChain]) ++
        Image.words ([7, freeSector, 8] ++ List.replicate 124 endOfChain ++ [0])) := by
    refine ⟨List.replicate 512 0, [], ?_, ?_⟩
    · rw [List.append_nil]
      exact Bytes.toList_ofList _
    · rw [hsize, List.length_replicate]
  -- each of them fills a sector, whatever the sentinels in it
  have hfirst : (Image.words (List.replicate 126 freeSector ++ [9] ++ [endOfChain])).length =
      1 * (gapHeader.medium gapFile).sectorSize := by
    rw [Image.length_words, hsize]
    simp
  have hsecond : (Image.words ([7, freeSector, 8] ++ List.replicate 124 endOfChain ++ [0])).length =
      1 * (gapHeader.medium gapFile).sectorSize := by
    rw [Image.length_words, hsize]
    simp
  have hstores' := hstores.right 1 hfirst
  -- the first part is in sector 1 and leads to sector 0, where the chain ends
  refine ⟨rfl, rfl, hstores'.hasSector (i := 0) hsecond Nat.one_pos, 0, ?_,
    hstores'.sector_eq (hsecond.trans (Nat.one_mul _)), rfl, rfl,
    hstores.left.hasSector (i := 0) hfirst Nat.one_pos, endOfChain, ?_,
    hstores.left.sector_eq (hfirst.trans (Nat.one_mul _)), rfl⟩
  · simp [freeSector, endOfChain]
  · simp [freeSector, endOfChain]

/-- What stands in the header behind the sentinel is left out, and so are the gaps. -/
theorem collect_written_gaps : gapHeader.HasUsualSectors ∧ Heads gapHeader.slots [5] ∧
    Chained (gapHeader.medium gapFile) gapHeader.listStart gapParts ∧
    collect (gapHeader.medium gapFile) gapHeader.slots gapHeader.listStart = ⟨#[5, 7, 8, 9], []⟩ := by
  have hsectors : gapHeader.HasUsualSectors := by decide
  have hheads : Heads gapHeader.slots [5] := .inr ⟨freeSector, _, rfl, rfl⟩
  have hlisted : [5, 7, 8, 9] = [5] ++ gapParts.flatMap ListPart.entries := by decide +kernel
  obtain ⟨hread, -⟩ := collect_written gapHeader gapFile hsectors
  exact ⟨hsectors, hheads, chained_gapParts,
    (hread _ _ _ (by decide) hlisted hheads chained_gapParts (by decide)).1⟩

end InstallerPackage.Allocation
