import InstallerPackage.Proofs.Image.Header
import InstallerPackage.Proofs.Image.Records

/-!
# The parts of a written file

The parts of a file follow each other without gaps, and so do their links in the allocation table.
`Plan.Sized` are the places that a plan gives to the parts, `Image.stored` says that the file has
every part at its place, and `Image.Stored.keeps_large` and its companions that a reader with the
table of the plan finds each of them there.
-/

namespace InstallerPackage

namespace Image

/-! ### Places -/

/-- The parts of a plan are as large as their contents and follow each other. -/
structure Plan.Sized (p : Plan) (l : Layout) (items : List Item) : Prop where
  large : p.large = place l.sectorSize 0 (largePayloads items)
  miniStream : p.miniStream = ⟨(p.large.map Extent.count).sum,
    Bytes.pieces l.sectorSize (Image.miniStream items).length⟩
  miniTable : p.miniTable = ⟨p.miniStream.first + p.miniStream.count,
    Bytes.pieces l.sectorSize (4 * (Image.miniTable items).length)⟩
  directory : p.directory = ⟨p.miniTable.first + p.miniTable.count,
    Bytes.pieces (l.sectorSize / Record.length) items.length⟩
  table : p.table = ⟨p.directory.first + p.directory.count, Bytes.pieces l.linksPerSector p.total⟩
  list : p.list = ⟨p.table.first + p.table.count,
    Bytes.pieces l.entriesPerList (p.table.count - l.headerSlots)⟩

theorem sized_plan {l : Layout} (hl : l.Valid) (items : List Item) :
    (plan l items).Sized l items := by
  obtain ⟨htables, hlists⟩ := Layout.settle_spec
    ((plan l items).directory.first + (plan l items).directory.count) hl.le_linksPerSector
  exact {
    large := rfl
    miniStream := rfl
    miniTable := rfl
    directory := rfl
    table := congrArg (Extent.mk _) htables
    list := congrArg (Extent.mk _) hlists }

/-- A file of this plan can be written down and read again. -/
structure Plan.Small (p : Plan) : Prop where
  total : p.total < firstReserved
  list : p.list.count ≤ Allocation.listLimit
  directory : p.directory.count ≤ Volume.unboundedSteps
  miniTable : p.miniTable.count ≤ Volume.unboundedSteps

namespace Plan.Sized

variable {p : Plan} {l : Layout} {items : List Item}

/-- Where the parts begin and end, from the first sector to the last one. -/
theorem bounds (h : p.Sized l items) :
    (p.large.map Extent.count).sum = p.miniStream.first ∧
      p.miniStream.first + p.miniStream.count = p.miniTable.first ∧
      p.miniTable.first + p.miniTable.count = p.directory.first ∧
      p.directory.first + p.directory.count = p.table.first ∧
      p.table.first + p.table.count = p.list.first ∧ p.list.first + p.list.count = p.total := by
  refine ⟨?_, ?_, ?_, ?_, ?_, rfl⟩
  · rw [h.miniStream]
  · rw [h.miniTable]
  · rw [h.directory]
  · rw [h.table]
  · rw [h.list]

theorem writable (h : p.Sized l items) (hs : p.Small) : p.Writable := by
  obtain ⟨-, -, hdirectory, htable, hlist, htotal⟩ := h.bounds
  have hsmall := hs.total
  have hlt : firstReserved < 2 ^ 32 := by decide
  refine ⟨by omega, Extent.start_lt (by omega), Extent.start_lt (by omega), fun n hn => ?_⟩
  obtain ⟨i, hi, rfl⟩ := List.mem_range'.mp hn
  omega

/-- The links up to the free ones are one for every sector. -/
theorem links_eq (h : p.Sized l items) (hl : l.Valid) :
    ∃ free, p.links l = p.large.flatMap Extent.links ++ (p.miniStream.links ++
      (p.miniTable.links ++ (p.directory.links ++
        (List.replicate p.table.count tableSectorMark ++
          (List.replicate p.list.count listSectorMark ++ List.replicate free freeSector))))) ∧
      p.total + free = p.table.count * l.linksPerSector := by
  obtain ⟨hlarge, hmini, htable, hdirectory, hlist, htotal⟩ := h.bounds
  -- the table has a link for every sector
  have hroom : p.total ≤ p.table.count * l.linksPerSector := by
    rw [h.table]
    exact Bytes.le_pieces_mul (Nat.lt_of_lt_of_le (by decide) hl.le_linksPerSector) _
  -- what the table has more than sectors to describe is free
  refine ⟨p.table.count * l.linksPerSector - p.total, ?_, Nat.add_sub_cancel' hroom⟩
  simp only [links, List.append_assoc, List.length_append, length_flatMap_links, hlarge,
    Extent.length_links, List.length_replicate]
  congr 7
  omega

theorem length_links (h : p.Sized l items) (hl : l.Valid) :
    (p.links l).length = p.table.count * l.linksPerSector := by
  obtain ⟨hlarge, hmini, htable, hdirectory, hlist, htotal⟩ := h.bounds
  obtain ⟨free, heq, hfree⟩ := h.links_eq hl
  simp only [heq, List.length_append, length_flatMap_links, Extent.length_links,
    List.length_replicate]
  omega

theorem links_lt (h : p.Sized l items) (hl : l.Valid) (hs : p.Small) :
    ∀ n ∈ p.links l, n < 2 ^ 32 := by
  obtain ⟨hlarge, hmini, htable, hdirectory, hlist, htotal⟩ := h.bounds
  obtain ⟨free, heq, -⟩ := h.links_eq hl
  have hsmall := hs.total
  have hreserved : firstReserved < 2 ^ 32 := by decide
  -- the links of an extent stay inside the file
  have hextent : ∀ e : Extent, e.first + e.count ≤ p.total → ∀ n ∈ e.links, n < 2 ^ 32 := by
    intro e he n hn
    rcases Extent.mem_links hn with hlt | rfl
    · omega
    · decide
  -- part by part: extents, and the marks of the sectors that hold the table and its list
  intro n hn
  simp only [heq, List.mem_append, List.mem_flatMap, List.mem_replicate] at hn
  rcases hn with ⟨e, he, hn⟩ | hn | hn | hn | ⟨-, rfl⟩ | ⟨-, rfl⟩ | ⟨-, rfl⟩
  · rw [h.large] at he
    have hle := le_of_mem_place he
    rw [← h.large] at hle
    exact hextent e (by omega) n hn
  · exact hextent _ (by omega) n hn
  · exact hextent _ (by omega) n hn
  · exact hextent _ (by omega) n hn
  all_goals decide

/-- Data of at most 20000 sectors always fit into a file. -/
theorem small (h : p.Sized l items) (hl : l.Valid) (hdata : p.table.first ≤ Volume.unboundedSteps) :
    p.Small := by
  obtain ⟨-, -, htable, hdirectory, hlist, htotal⟩ := h.bounds
  have hlinks := hl.le_linksPerSector
  -- the table has few sectors for its data, and the list fewer still
  have hcount : p.table.count = Bytes.pieces l.linksPerSector p.total := by rw [h.table]
  have hlists : p.list.count ≤ p.table.count := by
    rw [h.list]
    exact Nat.le_trans (Bytes.pieces_le_self hl.entriesPerList_pos _) (Nat.sub_le _ _)
  -- a table of `t` sectors is only needed for more than `(t - 1) * 128` sectors
  have hbound : (p.table.count - 1) * 128 ≤ p.total := by
    rcases Nat.eq_zero_or_pos p.total with hzero | hpos
    · have hnone : p.table.count = 0 := by rw [hcount, hzero, Bytes.pieces_zero (by omega)]
      omega
    · have hlt := Bytes.pieces_sub_one_mul_lt (u := l.linksPerSector) hpos
      have hle := Nat.mul_le_mul_left (Bytes.pieces l.linksPerSector p.total - 1) hlinks
      rw [hcount]
      omega
  rw [Volume.unboundedSteps] at hdata
  -- so all counts stay below the limits of a reader
  have htotal' : p.total < 30000 := by omega
  refine ⟨Nat.lt_trans htotal' (by decide), ?_, ?_, ?_⟩
  · rw [Allocation.listLimit]
    omega
  · rw [Volume.unboundedSteps]
    omega
  · rw [Volume.unboundedSteps]
    omega

end Plan.Sized

/-! ### Contents -/

/-- A medium with every part of a file at its place. -/
structure Stored (l : Layout) (items : List Item) (p : Plan) (m : Medium) : Prop where
  sectorSize : m.sectorSize = l.sectorSize
  large : m.Stores 0 ((largePayloads items).flatMap (Bytes.padTo l.sectorSize))
  miniStream : m.Stores p.miniStream.first (Bytes.padTo l.sectorSize (Image.miniStream items))
  miniTable : m.Stores p.miniTable.first
    (Bytes.padTo l.sectorSize (words (Image.miniTable items)))
  directory : m.Stores p.directory.first (Image.directory l items
    (place miniSectorSize 0 (miniPayloads items)) p.large p.miniStream.start)
  table : m.Stores p.table.first (words (p.links l))
  list : m.Stores p.list.first
    (words (Plan.listWords l p.list.count p.list.first (p.tableSectors.drop l.headerSlots)))

/-- The directory fills its sectors. -/
theorem length_directory {l : Layout} {p : Plan} {root : Item} {rest : List Item} (hl : l.Valid)
    (h : p.Sized l (root :: rest)) (hroot : root.kind.isStream = false) :
    (directory l (root :: rest) (place miniSectorSize 0 (miniPayloads (root :: rest))) p.large
      p.miniStream.start).length = p.directory.count * l.sectorSize := by
  obtain ⟨slots, unusedCount, heq, -, hlen, -⟩ := directory_eq root rest p.miniStream.start hl hroot
    (length_place miniSectorSize 0 _) (h.large ▸ length_place l.sectorSize 0 _)
  rw [heq, length_flatMap_bytes, List.length_append, List.length_cons, List.length_replicate, hlen,
    h.directory, List.length_cons]

/-- A file has all its parts at their places. -/
theorem stored {l : Layout} {p : Plan} {root : Item} {rest : List Item} {m : Medium} (hl : l.Valid)
    (h : p.Sized l (root :: rest)) (hroot : root.kind.isStream = false)
    (hsector : m.sectorSize = l.sectorSize)
    (hbytes : m.bytes.data.toList = Bytes.padTo l.sectorSize (p.header l) ++
      ((largePayloads (root :: rest)).flatMap (Bytes.padTo l.sectorSize) ++
      (Bytes.padTo l.sectorSize (miniStream (root :: rest)) ++
      (Bytes.padTo l.sectorSize (words (miniTable (root :: rest))) ++
      (directory l (root :: rest) (place miniSectorSize 0 (miniPayloads (root :: rest))) p.large
        p.miniStream.start ++
      (words (p.links l) ++ words (Plan.listWords l p.list.count p.list.first
        (p.tableSectors.drop l.headerSlots)))))))) :
    Stored l (root :: rest) p m := by
  obtain ⟨hlarge, hmini, htable, hdirectory, hlist, -⟩ := h.bounds
  have hss := l.sectorSize_pos
  -- the header fills the first sector
  have hheader : (Bytes.padTo l.sectorSize (p.header l)).length = (0 + 1) * m.sectorSize := by
    rw [Bytes.length_padTo hss, Plan.length_header p hl.headerSlots, hl.pieces_size, hsector]
  -- every part ends where the next one begins
  have h₀ : m.Stores 0 _ := ⟨_, [], by rw [hbytes, List.append_nil], hheader⟩
  have h₁ := h₀.right p.miniStream.first (by
    rw [length_flatMap_padTo hss 0, ← h.large, hlarge, hsector])
  have h₂ := h₁.right p.miniStream.count (by
    rw [Bytes.length_padTo hss, h.miniStream, hsector])
  have h₃ := h₂.right p.miniTable.count (by
    rw [Bytes.length_padTo hss, length_words, h.miniTable, hsector])
  have h₄ := h₃.right p.directory.count (by rw [length_directory hl h hroot, hsector])
  have h₅ := h₄.right p.table.count (by
    rw [length_words, h.length_links hl, hsector, ← hl.four_mul_linksPerSector, Nat.mul_left_comm])
  rw [Nat.zero_add] at h₁ h₂ h₃ h₄ h₅
  rw [hmini] at h₂ h₃ h₄ h₅
  rw [htable] at h₃ h₄ h₅
  rw [hdirectory] at h₄ h₅
  rw [hlist] at h₅
  exact ⟨hsector, h₀.left, h₁.left, h₂.left, h₃.left, h₄.left, h₅⟩

/-! ### Reading the parts -/

namespace Stored

variable {l : Layout} {items : List Item} {p : Plan} {v : Volume}

/-- A stream in sectors of its own. -/
theorem keeps_large {payload : List UInt8} {e : Extent} (h : Stored l items p v.toMedium)
    (hp : p.Sized l items) (hs : p.Small) (hl : l.Valid) (htable : v.table.toList = p.links l)
    (he : (payload, e) ∈ (largePayloads items).zip p.large) :
    v.Keeps .regular e (Bytes.padTo v.sectorSize payload) ∧
      e.count = Bytes.pieces v.sectorSize payload.length := by
  have hss := l.sectorSize_pos
  have hsmall := hs.total
  obtain ⟨hlarge, hbounds⟩ := hp.bounds
  obtain ⟨free, hlinks, -⟩ := hp.links_eq hl
  have hmem : e ∈ place l.sectorSize 0 (largePayloads items) := hp.large ▸ (List.of_mem_zip he).2
  have hlast := le_of_mem_place hmem
  rw [hp.large] at he
  -- where an extent was placed, its bytes and its links stand in the order of the payloads
  obtain ⟨hcount, ⟨before, after, hflat, hbefore⟩, ⟨linksBefore, linksAfter, hsplit, hfirst⟩⟩ :=
    mem_zip_place hss he
  have hstores := h.large
  rw [hflat] at hstores
  have hpart := hstores.part _ (hbefore.trans (by rw [h.sectorSize]))
  rw [Nat.zero_add] at hpart
  rw [← hp.large] at hsplit hlast
  rw [h.sectorSize]
  refine ⟨Volume.keeps_regular _ hpart ?_ ?_ hfirst (by omega), hcount⟩
  · rw [Bytes.length_padTo hss, hcount, h.sectorSize]
  · -- the links of the large streams are the first ones of the table
    rw [htable, hlinks, hsplit, List.append_assoc]
    exact List.prefix_append _ _

theorem keeps_miniStream (h : Stored l items p v.toMedium) (hp : p.Sized l items) (hs : p.Small)
    (hl : l.Valid) (htable : v.table.toList = p.links l) :
    v.Keeps .regular p.miniStream (Bytes.padTo l.sectorSize (Image.miniStream items)) := by
  have hsmall := hs.total
  obtain ⟨hlarge, hbounds⟩ := hp.bounds
  obtain ⟨free, hlinks, -⟩ := hp.links_eq hl
  refine Volume.keeps_regular (p.large.flatMap Extent.links) h.miniStream ?_ ?_ ?_ (by omega)
  · rw [Bytes.length_padTo l.sectorSize_pos, hp.miniStream, h.sectorSize]
  · -- those of the mini stream come next
    rw [htable, hlinks, ← List.append_assoc]
    exact List.prefix_append _ _
  · rw [length_flatMap_links, hlarge]

theorem keeps_miniTable (h : Stored l items p v.toMedium) (hp : p.Sized l items) (hs : p.Small)
    (hl : l.Valid) (htable : v.table.toList = p.links l) :
    v.Keeps .regular p.miniTable
      (Bytes.padTo l.sectorSize (words (Image.miniTable items))) := by
  have hsmall := hs.total
  obtain ⟨hlarge, hmini, hbounds⟩ := hp.bounds
  obtain ⟨free, hlinks, -⟩ := hp.links_eq hl
  refine Volume.keeps_regular (p.large.flatMap Extent.links ++ p.miniStream.links) h.miniTable
    ?_ ?_ ?_ (by omega)
  · rw [Bytes.length_padTo l.sectorSize_pos, length_words, hp.miniTable, h.sectorSize]
  · rw [htable, hlinks, ← List.append_assoc, ← List.append_assoc]
    exact List.prefix_append _ _
  · rw [List.length_append, length_flatMap_links, Extent.length_links, hlarge, hmini]

theorem keeps_directory {root : Item} {rest : List Item}
    (h : Stored l (root :: rest) p v.toMedium) (hp : p.Sized l (root :: rest)) (hs : p.Small)
    (hl : l.Valid) (hroot : root.kind.isStream = false) (htable : v.table.toList = p.links l) :
    v.Keeps .regular p.directory (Image.directory l (root :: rest)
      (place miniSectorSize 0 (miniPayloads (root :: rest))) p.large p.miniStream.start) := by
  have hsmall := hs.total
  obtain ⟨hlarge, hmini, htable', hbounds⟩ := hp.bounds
  obtain ⟨free, hlinks, -⟩ := hp.links_eq hl
  -- in front of the directory stand the streams, the mini stream and the mini table
  refine Volume.keeps_regular
    (p.large.flatMap Extent.links ++ p.miniStream.links ++ p.miniTable.links) h.directory
    ?_ ?_ ?_ (by omega)
  · rw [length_directory hl hp hroot, h.sectorSize]
  · rw [htable, hlinks, ← List.append_assoc, ← List.append_assoc, ← List.append_assoc]
    exact List.prefix_append _ _
  · rw [List.length_append, List.length_append, length_flatMap_links, Extent.length_links,
      Extent.length_links, hlarge, hmini, htable']

end Stored

/-- A stream in the mini stream. -/
theorem keeps_mini {items : List Item} {v : Volume} {payload : List UInt8} {e : Extent}
    (hunit : v.miniSectorSize = miniSectorSize)
    (hmini : v.miniStream.data.toList = miniStream items)
    (htable : miniTable items <+: v.miniTable.toList)
    (hlast : (miniTable items).length ≤ firstReserved)
    (he : (payload, e) ∈ (miniPayloads items).zip (place miniSectorSize 0 (miniPayloads items))) :
    v.Keeps .mini e (Bytes.padTo v.miniSectorSize payload) ∧
      e.count = Bytes.pieces v.miniSectorSize payload.length := by
  have hu : 0 < miniSectorSize := by decide
  have hle := le_of_mem_place (List.of_mem_zip he).2
  rw [miniTable, length_flatMap_links] at hlast
  obtain ⟨hcount, ⟨before, rest, hflat, hbefore⟩, ⟨linksBefore, linksAfter, hsplit, hfirst⟩⟩ :=
    mem_zip_place hu he
  rw [hunit]
  refine ⟨Volume.keeps_mini _ (hmini.trans hflat) ?_ ?_ ?_ hfirst (by omega), hcount⟩
  · rw [hbefore, hunit]
  · rw [Bytes.length_padTo hu, hcount, hunit]
  · -- the table may go on behind the links that were written
    rw [miniTable, hsplit] at htable
    exact (List.prefix_append _ _).trans htable

end Image

end InstallerPackage
