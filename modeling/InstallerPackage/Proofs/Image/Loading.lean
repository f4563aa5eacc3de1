import InstallerPackage.Proofs.Chains
import InstallerPackage.Proofs.Image.Outlines
import InstallerPackage.Proofs.Image.Parts
import InstallerPackage.Proofs.Opening

/-!
# Written files, opened

`Image.load_write`: a file that was written for an outline opens without a notice, its directory has
the records of the outline, and the stream of every record is the payload of its entry.
-/

namespace InstallerPackage

namespace Image

/-! ### Streams -/

section Streams

variable {v : Volume} {s : Slot} {r : Record} {items : List Item} {p : Plan}

theorem readRecord_of_not_isStream (v : Volume) (h : r.isStream = false) :
    v.readRecord r = ⟨Bytes.ofList [], []⟩ := by
  rw [Volume.readRecord, h]
  rfl

/-- A stream that its space keeps is read back. -/
theorem readRecord_of_keeps {space : Space} {e : Extent} {payload : List UInt8}
    (hkeeps : v.Keeps space e (Bytes.padTo (v.unit space) payload))
    (hcount : e.count = Bytes.pieces (v.unit space) payload.length) (hu : 0 < v.unit space)
    (hspace : v.spaceOf payload.length = space) (hstream : r.isStream = true)
    (hstart : r.start = e.start) (hsize : r.size = payload.length) :
    v.readRecord r = ⟨Bytes.ofList payload, []⟩ := by
  rcases Nat.eq_zero_or_pos payload.length with hzero | hpos
  · -- an empty stream is not looked for
    rw [Volume.readRecord, hsize, hzero, List.length_eq_zero_iff.mp hzero, bne_self_eq_false,
      Bool.and_false]
    rfl
  · obtain ⟨hholds, hread⟩ := hkeeps.materialize_payload hu hcount hpos
    rw [← hsize] at hspace hpos
    rw [← hsize, ← hstart] at hholds hread
    rw [Volume.readRecord_of_holds hstream hpos hspace hholds hu, hread]

/-- The small streams and their places in the mini stream. -/
def minis (items : List Item) : List (List UInt8 × Extent) :=
  (miniPayloads items).zip (place miniSectorSize 0 (miniPayloads items))

/-- The large streams and their places in the file. -/
def larges (p : Plan) (items : List Item) : List (List UInt8 × Extent) :=
  (largePayloads items).zip p.large

/-- A volume that keeps the streams of a file where the plan has put them. -/
structure Kept (p : Plan) (items : List Item) (v : Volume) : Prop where
  sectorSize_pos : 0 < v.sectorSize
  miniSectorSize : v.miniSectorSize = Image.miniSectorSize
  miniCutoff : v.miniCutoff = Image.miniCutoff
  large : ∀ payload e, (payload, e) ∈ larges p items →
    v.Keeps .regular e (Bytes.padTo v.sectorSize payload) ∧
      e.count = Bytes.pieces v.sectorSize payload.length
  mini : ∀ payload e, (payload, e) ∈ minis items →
    v.Keeps .mini e (Bytes.padTo v.miniSectorSize payload) ∧
      e.count = Bytes.pieces v.miniSectorSize payload.length
  miniStream : v.miniStream.data.toList = Image.miniStream items
  miniStreamSectors : v.Keeps .regular p.miniStream
    (Bytes.padTo v.sectorSize (Image.miniStream items))
  miniStreamCount : p.miniStream.count =
    Bytes.pieces v.sectorSize (Image.miniStream items).length

theorem Kept.miniSectorSize_pos (h : Kept p items v) : 0 < v.miniSectorSize := by
  rw [h.miniSectorSize]
  decide

/-- The stream of a record is the payload of its item. -/
theorem Kept.readRecord (h : Kept p items v) (hplaced : s.Placed (minis items) (larges p items))
    (hshows : s.Shows r) (hempty : s.item.kind.isStream = false → s.item.payload = []) :
    v.readRecord r = ⟨Bytes.ofList s.item.payload, []⟩ := by
  have hkind : r.isStream = s.item.kind.isStream := by rw [Record.isStream, hshows.kind]
  rcases hplaced with ⟨hmini, e, he, hstart, hsize⟩ | ⟨hlarge, e, he, hstart, hsize⟩ | ⟨hm, hl, -, -⟩
  · -- shorter than the cutoff: its sectors are those of the mini stream
    rw [isMini, Bool.and_eq_true, decide_eq_true_eq] at hmini
    obtain ⟨hkeeps, hcount⟩ := h.mini _ e he
    refine readRecord_of_keeps hkeeps hcount h.miniSectorSize_pos ?_ (hkind.trans hmini.1)
      (hshows.start.trans hstart) (hshows.size.trans hsize)
    rw [Volume.spaceOf, h.miniCutoff, if_pos hmini.2]
  · -- not shorter: it has sectors of its own
    rw [isLarge, Bool.and_eq_true, decide_eq_true_eq] at hlarge
    obtain ⟨hkeeps, hcount⟩ := h.large _ e he
    refine readRecord_of_keeps hkeeps hcount h.sectorSize_pos ?_ (hkind.trans hlarge.1)
      (hshows.start.trans hstart) (hshows.size.trans hsize)
    rw [Volume.spaceOf, h.miniCutoff, if_neg (Nat.not_lt.mpr hlarge.2)]
  · -- a stream is either small or large
    have hnot : s.item.kind.isStream = false := by
      by_contra hstream
      rw [Bool.not_eq_false] at hstream
      rw [isMini, hstream, Bool.true_and, decide_eq_false_iff_not] at hm
      rw [isLarge, hstream, Bool.true_and, decide_eq_false_iff_not] at hl
      exact hl (Nat.not_lt.mp hm)
    rw [hempty hnot, readRecord_of_not_isStream v (hkind.trans hnot)]

end Streams

/-! ### The directory -/

section Directory

variable {l : Layout} {o : Outline} {p : Plan} {items : List Item}

theorem sectorSize_le (hl : l.Valid) : l.sectorSize ≤ 2 ^ 12 := by
  rw [Layout.sectorSize_eq]
  exact Nat.pow_le_pow_right (by decide) hl.sectorShift.2

/-- A directory of so few sectors has fewer records than there are links. -/
theorem directory_small (hl : l.Valid) (hp : p.Sized l items) (hs : p.Small) :
    Bytes.pieces (l.sectorSize / Record.length) items.length * l.sectorSize
      < freeSector * Record.length ∧ items.length < freeSector := by
  obtain ⟨k, hk, hsize, -⟩ := hl.exists_sectorSize_eq
  have hperSector : l.sectorSize / Record.length = k := by
    -- the records of a sector: between 4 and 32 of them
    rw [hsize, Nat.mul_div_cancel _ (by decide)]
  have hmax := sectorSize_le hl
  have hcount := hs.directory
  have hroom := Bytes.le_pieces_mul (show 0 < k by omega) items.length
  rw [hp.directory] at hcount
  simp only [hperSector, Volume.unboundedSteps] at hcount ⊢
  rw [Record.length] at *
  have h₁ := Nat.mul_le_mul hcount hmax
  have h₂ := Nat.mul_le_mul hcount (show k ≤ 32 by omega)
  rw [freeSector]
  omega

theorem length_miniTable_lt (hl : l.Valid) (hp : p.Sized l items) (hs : p.Small) :
    (miniTable items).length < firstReserved := by
  have hcount := hs.miniTable
  have hroom := Bytes.le_pieces_mul l.sectorSize_pos (4 * (miniTable items).length)
  rw [hp.miniTable] at hcount
  dsimp only at hcount
  have := Nat.mul_le_mul hcount (sectorSize_le hl)
  rw [Volume.unboundedSteps] at this
  rw [firstReserved]
  omega

/-- No stream of so small a file is too long for its size to be written down. -/
theorem length_lt_of_pieces (hl : l.Valid) {n : Nat}
    (h : Bytes.pieces l.sectorSize n ≤ firstReserved) : n < 2 ^ 64 := by
  have hroom := Bytes.le_pieces_mul l.sectorSize_pos n
  have := Nat.mul_le_mul h (sectorSize_le hl)
  rw [firstReserved] at this
  omega

theorem placed_lt (hl : l.Valid) (hp : p.Sized l items) (hs : p.Small) {s : Slot}
    (h : s.Placed (minis items) (larges p items)) : s.start < 2 ^ 32 ∧ s.size < 2 ^ 64 := by
  have hreserved : firstReserved < 2 ^ 32 := by decide
  rcases h with ⟨hmini, e, he, hstart, hsize⟩ | ⟨-, e, he, hstart, hsize⟩ | ⟨-, -, hstart, hsize⟩
  · -- the mini table has a link for every mini sector
    rw [isMini, Bool.and_eq_true, decide_eq_true_eq] at hmini
    have hle := le_of_mem_place (List.of_mem_zip he).2
    have htable := length_miniTable_lt hl hp hs
    rw [miniTable, length_flatMap_links] at htable
    refine ⟨hstart ▸ Extent.start_lt (by omega), hsize ▸ ?_⟩
    exact Nat.lt_trans hmini.2 (by decide)
  · -- the large streams come first, so they end before the file does
    rw [larges, hp.large] at he
    have hle := le_of_mem_place (List.of_mem_zip he).2
    obtain ⟨hcount, -, -⟩ := mem_zip_place l.sectorSize_pos he
    obtain ⟨hlarge, hbounds⟩ := hp.bounds
    have htotal := hs.total
    rw [← hp.large] at hle
    refine ⟨hstart ▸ Extent.start_lt (by omega), hsize ▸ length_lt_of_pieces hl ?_⟩
    omega
  · -- nothing was laid out for the slot, so it has no place and no bytes
    rw [hstart, hsize]
    decide

theorem miniStream_lt (hl : l.Valid) (hp : p.Sized l items) (hs : p.Small) :
    p.miniStream.start < 2 ^ 32 ∧ (miniStream items).length < 2 ^ 64 := by
  have hreserved : firstReserved < 2 ^ 32 := by decide
  obtain ⟨-, hmini, htable, hdirectory, hlist, htotal⟩ := hp.bounds
  have hsmall := hs.total
  have hcount : p.miniStream.count = Bytes.pieces l.sectorSize (miniStream items).length := by
    rw [hp.miniStream]
  exact ⟨Extent.start_lt (by omega), length_lt_of_pieces hl (by omega)⟩

/-- The slots of the entries of an outline, each with the place of its payload. -/
structure Filled (l : Layout) (o : Outline) (p : Plan) (slots : List Slot) : Prop where
  items : slots.map Slot.item = Outline.rest l.order o
  placed : ∀ s ∈ slots, s.Placed (minis (o.items l.order)) (larges p (o.items l.order))

section Filled

variable {slots : List Slot} {root : Slot} {unusedCount : Nat} {d : Directory}

theorem Filled.length (h : Filled l o p slots) : slots.length = o.length := by
  rw [← Outline.length_rest l.order o, ← h.items, List.length_map]

theorem Filled.slot (h : Filled l o p slots) {i : Nat} {e : Entry} (he : o[i]? = some e) :
    ∃ s, slots[i]? = some s ∧ s.item = Outline.item l.order o e (i + 1) := by
  have hitem := Outline.getElem?_rest l.order he
  rw [← h.items, List.getElem?_map, Option.map_eq_some_iff] at hitem
  exact hitem

theorem Filled.fits (h : Filled l o p slots) (hl : l.Valid) (hw : o.WellFormed)
    (hp : p.Sized l (o.items l.order)) (hs : p.Small) (hsmall : o.length < freeSector) :
    ∀ s ∈ slots, s.Fits := by
  intro s hmem
  obtain ⟨i, hi⟩ := List.mem_iff_getElem?.mp hmem
  -- the slot belongs to the entry at its position
  have hlt : i < o.length := h.length ▸ (List.getElem?_eq_some_iff.mp hi).1
  obtain ⟨s', hs', hitem⟩ := h.slot (List.getElem?_eq_getElem hlt)
  obtain rfl : s = s' := Option.some.inj (hi.symm.trans hs')
  obtain ⟨hstart, hsize⟩ := placed_lt hl hp hs (h.placed s hmem)
  have := Outline.fits_item l.order hw hsmall (List.getElem?_eq_getElem hlt) hstart hsize
  rw [← hitem] at this
  exact this

/-- The record of an entry, in a directory that shows the root's slot and those of the entries. -/
theorem Filled.record (h : Filled l o p slots)
    (hshow : ∀ (i : Nat) (s : Slot),
      (root :: (slots ++ List.replicate unusedCount Slot.unused))[i]? = some s →
        ∃ r, d.records[i]? = some r ∧ s.Shows r)
    {i : Nat} {e : Entry} (he : o[i]? = some e) :
    ∃ s r, s ∈ slots ∧ s.item = Outline.item l.order o e (i + 1) ∧
      d.records[i + 1]? = some r ∧ s.Shows r := by
  -- the slots of the entries come behind that of the root, so they are one place further on
  obtain ⟨s, hs, hitem⟩ := h.slot he
  have hlt := (List.getElem?_eq_some_iff.mp hs).1
  obtain ⟨r, hr, hshows⟩ := hshow (i + 1) s (by
    rw [List.getElem?_cons_succ, List.getElem?_append_left hlt, hs])
  exact ⟨s, r, List.mem_of_getElem? hs, hitem, hr, hshows⟩

theorem Filled.listed (h : Filled l o p slots) (hroot : root.item = Outline.rootItem l.order o)
    (hsize : d.records.size = slots.length + unusedCount + 1)
    (hshow : ∀ (i : Nat) (s : Slot),
      (root :: (slots ++ List.replicate unusedCount Slot.unused))[i]? = some s →
        ∃ r, d.records[i]? = some r ∧ s.Shows r) :
    Outline.Listed l.order o d := by
  refine ⟨?_, ?_, ?_⟩
  · -- the root's record is the first one
    obtain ⟨r, hr, hshows⟩ := hshow 0 root rfl
    rw [Directory.getElem?_root, Option.some.injEq] at hr
    exact ⟨root.start, root.size, hroot ▸ hr ▸ hshows⟩
  · -- each entry's record is one place further on
    intro i e he
    obtain ⟨s, r, -, hitem, hr, hshows⟩ := h.record hshow he
    exact ⟨s.start, s.size, r, hr, hitem ▸ hshows⟩
  · -- behind the entries there is nothing but unused slots
    intro i r hr he
    have hge : slots.length ≤ i := h.length ▸ List.getElem?_eq_none_iff.mp he
    have hlt := (Array.getElem?_eq_some_iff.mp hr).1
    obtain ⟨r', hr', hshows⟩ := hshow (i + 1) Slot.unused (by
      rw [List.getElem?_cons_succ, List.getElem?_append_right hge, List.getElem?_replicate,
        if_pos (by omega)])
    rw [hr, Option.some.injEq] at hr'
    rw [hr']
    exact hshows.kind

end Filled

/-- The directory that is read has the records of the outline, and their streams have their places. -/
theorem exists_directory (hl : l.Valid) (hw : o.WellFormed) (hp : p.Sized l (o.items l.order))
    (hs : p.Small) :
    ∃ d, Directory.ofBytes? (Bytes.ofList (directory l (o.items l.order)
        (place miniSectorSize 0 (miniPayloads (o.items l.order))) p.large p.miniStream.start)) = some d ∧
      Outline.Listed l.order o d ∧ d.records.size ≤ freeSector ∧
      d.root.start = p.miniStream.start ∧ d.root.size = (miniStream (o.items l.order)).length ∧
      ∀ (i : Nat) (e : Entry) (r : Record), o[i]? = some e → d.records[i + 1]? = some r →
        ∃ s : Slot, s.item = Outline.item l.order o e (i + 1) ∧ s.Shows r ∧
          s.Placed (minis (o.items l.order)) (larges p (o.items l.order)) := by
  -- the slots are laid out in one list, and their number is bounded by the plan
  obtain ⟨hsmallBytes, hsmall⟩ := directory_small hl hp hs
  obtain ⟨slots, unusedCount, heq, hitems, hlen, hplaced⟩ :=
    directory_eq (Outline.rootItem l.order o) (Outline.rest l.order o) p.miniStream.start hl rfl
      (length_place miniSectorSize 0 _) (hp.large ▸ length_place l.sectorSize 0 _)
  rw [← Outline.items_eq] at heq hplaced
  have hfilled : Filled l o p slots := ⟨hitems, hplaced⟩
  have hcount : (o.items l.order).length = o.length + 1 := by
    rw [Outline.items_eq, List.length_cons, Outline.length_rest]
  rw [Outline.length_rest] at hlen
  rw [hcount] at hsmall hsmallBytes
  rw [← hlen] at hsmallBytes
  have hsmallOutline : o.length < freeSector := Nat.lt_of_succ_lt hsmall
  -- the root's slot has the mini stream, the entries' ones have the payloads
  have hfits : ∀ s ∈ Slot.mk (Outline.rootItem l.order o) p.miniStream.start
      (miniStream (o.items l.order)).length :: (slots ++ List.replicate unusedCount Slot.unused),
      s.Fits := by
    intro s hmem
    rcases List.mem_cons.mp hmem with rfl | hmem
    · obtain ⟨hstart, hsize⟩ := miniStream_lt hl hp hs
      exact Outline.fits_rootItem l.order hsmallOutline hstart hsize
    rcases List.mem_append.mp hmem with hmem | hmem
    · exact hfilled.fits hl hw hp hs hsmallOutline s hmem
    · rw [List.eq_of_mem_replicate hmem]
      exact Slot.fits_unused
  obtain ⟨d, hd, hsize, hshow⟩ := ofBytes_flatMap (List.cons_ne_nil _ _) hfits
  rw [List.length_cons, List.length_append, List.length_replicate] at hsize
  obtain ⟨root, hroot, hrootShows⟩ := hshow 0 _ rfl
  rw [Directory.getElem?_root, Option.some.injEq] at hroot
  subst hroot
  refine ⟨d, heq ▸ hd, hfilled.listed rfl hsize hshow, ?_, hrootShows.start, hrootShows.size, ?_⟩
  · -- as many records as fit into sectors that are not too many
    have hle := Nat.lt_of_mul_lt_mul_right hsmallBytes
    omega
  · intro i e r he hr
    obtain ⟨s, r', hmem, hitem, hr', hshows⟩ := hfilled.record hshow he
    rw [hr, Option.some.injEq] at hr'
    exact ⟨s, hitem, hr' ▸ hshows, hplaced s hmem⟩

end Directory

/-! ### Opening -/

section Opening

variable {l : Layout} {o : Outline} {p : Plan} {items : List Item} {m : Medium}

theorem loadTable_stored (hl : l.Valid) (h : Stored l items p m) (hp : p.Sized l items)
    (hs : p.Small) (hpos : 0 < p.total) :
    (Container.loadTable m p.tableSectors.toArray).outcome = ⟨.ok (p.links l).toArray, []⟩ := by
  have hper := hl.four_mul_linksPerSector.trans h.sectorSize.symm
  have hload := Allocation.load_of_stores hper h.table (hp.length_links hl) (hp.links_lt hl hs)
  -- a plan has at least one sector, and a link for it
  have hne : ¬ (p.links l).toArray.isEmpty = true := by
    obtain ⟨free, -, hfree⟩ := hp.links_eq hl
    rw [List.isEmpty_toArray, List.isEmpty_iff, ← List.length_eq_zero_iff, hp.length_links hl]
    omega
  rw [Container.loadTable, Plan.tableSectors, Attempt.outcome_ofNoted_bind_of_eq hload, if_neg hne]
  rfl

theorem loadDirectory_keeps {v : Volume} {e : Extent} {content : List UInt8} {d : Directory}
    (h : v.Keeps .regular e content) (hcount : e.count ≤ Volume.unboundedSteps)
    (hd : Directory.ofBytes? (Bytes.ofList content) = some d) :
    (Container.loadDirectory v e.start).outcome = ⟨.ok d, []⟩ := by
  rw [Container.loadDirectory, Attempt.outcome_ofNoted_bind_of_eq (h.materialize_all hcount), hd]
  rfl

theorem loadMiniStream_keeps {v : Volume} {e : Extent} {content : List UInt8} {root : Record}
    (h : v.Keeps .regular e (Bytes.padTo v.sectorSize content))
    (hcount : e.count = Bytes.pieces v.sectorSize content.length) (hu : 0 < v.sectorSize)
    (hstart : root.start = e.start) (hsize : root.size = content.length) :
    Container.loadMiniStream v root = ⟨Bytes.ofList content, []⟩ := by
  rw [Container.loadMiniStream, hsize, hstart]
  -- an empty mini stream is not looked for, as it has no sector
  split
  · next hzero =>
    rw [List.length_eq_zero_iff.mp hzero]
    rfl
  · next hne =>
    obtain ⟨-, hread⟩ := h.materialize_payload hu hcount (Nat.pos_of_ne_zero hne)
    change v.materialize .regular e.start content.length = _ at hread
    rw [hread]
    apply Noted.ext
    · simp [pure]
    · simp [pure]

/-- A written file begins with its header. -/
theorem bytes_eq (l : Layout) (o : Outline) :
    ∃ more, bytes l o = (plan l (o.items l.order)).header l ++ more := by
  rw [bytes]
  simp only [Bytes.padTo, List.append_assoc]
  exact ⟨_, rfl⟩

theorem miniTable_lt (hl : l.Valid) (hp : p.Sized l items) (hs : p.Small) :
    ∀ n ∈ miniTable items, n < 2 ^ 32 := by
  have htable := length_miniTable_lt hl hp hs
  have hreserved : firstReserved < 2 ^ 32 := by decide
  rw [miniTable, length_flatMap_links] at htable
  -- all words of the table are links inside of it or ends of chains
  intro n hn
  obtain ⟨e, he, hn⟩ := List.mem_flatMap.mp hn
  have hle := le_of_mem_place he
  rcases Extent.mem_links hn with hlt | rfl
  · omega
  · decide

/-- A volume with the tables and the mini stream of a plan keeps all streams. -/
theorem Stored.kept {v : Volume} (h : Stored l items p v.toMedium) (hp : p.Sized l items)
    (hs : p.Small) (hl : l.Valid) (htable : v.table.toList = p.links l)
    (hunit : v.miniSectorSize = Image.miniSectorSize) (hcutoff : v.miniCutoff = Image.miniCutoff)
    (hminiTable : v.miniTable = Bytes.words (Bytes.ofList
      (Bytes.padTo l.sectorSize (words (Image.miniTable items)))))
    (hminiStream : v.miniStream = Bytes.ofList (Image.miniStream items)) : Kept p items v where
  sectorSize_pos := h.sectorSize ▸ l.sectorSize_pos
  miniSectorSize := hunit
  miniCutoff := hcutoff
  -- each of the places is kept because the plan has laid it out in the stored file
  large payload e he := h.keeps_large hp hs hl htable he
  mini payload e he := by
    have hlast := Nat.le_of_lt (length_miniTable_lt hl hp hs)
    refine keeps_mini hunit ?_ ?_ hlast he
    · rw [hminiStream, Bytes.toList_ofList]
    · rw [hminiTable]
      exact prefix_words (miniTable_lt hl hp hs) _
  miniStream := by rw [hminiStream, Bytes.toList_ofList]
  miniStreamSectors := by
    rw [h.sectorSize]
    exact h.keeps_miniStream hp hs hl htable
  miniStreamCount := by rw [h.sectorSize, hp.miniStream]

/-- An open file with the contents of an outline. -/
structure Holding (l : Layout) (o : Outline) (c : Container) : Prop where
  root : c.root = c.directory.tree.value
  listed : Outline.Listed l.order o c.directory
  size_le : c.directory.records.size ≤ freeSector
  kept : Kept (plan l (o.items l.order)) (o.items l.order) c.volume
  miniStreamStart : c.directory.root.start = (plan l (o.items l.order)).miniStream.start
  miniStreamSize : c.directory.root.size = (miniStream (o.items l.order)).length
  placed : ∀ (i : Nat) (e : Entry) (r : Record), o[i]? = some e →
    c.directory.records[i + 1]? = some r →
      ∃ s : Slot, s.item = Outline.item l.order o e (i + 1) ∧ s.Shows r ∧
        s.Placed (minis (o.items l.order)) (larges (plan l (o.items l.order)) (o.items l.order))

/-- Every record is read: those of entries give their payloads, the others nothing. -/
theorem Holding.readRecord {c : Container} (h : Holding l o c) (i : Nat) (r : Record)
    (hr : c.directory.records[i]? = some r) :
    c.volume.readRecord r = ⟨Bytes.ofList (o.payloadAt i), []⟩ := by
  -- the root is no stream, and behind the entries there are only unused records
  cases i with
  | zero =>
    obtain ⟨start, size, hshows⟩ := h.listed.root
    rw [Directory.getElem?_root, Option.some.injEq] at hr
    refine readRecord_of_not_isStream _ ?_
    rw [← hr, Record.isStream, hshows.kind]
    rfl
  | succ i =>
    cases he : o[i]? with
    | none =>
      rw [Outline.payloadAt, he]
      refine readRecord_of_not_isStream _ ?_
      rw [Record.isStream, h.listed.other i r hr he]
      rfl
    | some e =>
      obtain ⟨s, hitem, hshows, hs⟩ := h.placed i e r he hr
      rw [h.kept.readRecord hs hshows, Outline.payloadAt, he, hitem, Outline.item_payload,
        Option.bind_some]
      rw [hitem]
      exact Outline.item_payload_of_not_isStream

/-- The stream of an entry has a place of its length. -/
theorem Holding.stream {i : Nat} {e : Entry} {payload : List UInt8} (h : Holding l o c)
    (he : o[i]? = some e) (hpayload : e.payload = some payload) :
    ∃ r x, c.directory.records[i + 1]? = some r ∧ r.isStream = true ∧ r.start = x.start ∧
      r.size = payload.length ∧ (payload, x) ∈ if payload.length < miniCutoff
        then minis (o.items l.order) else larges (plan l (o.items l.order)) (o.items l.order) := by
  obtain ⟨start, size, r, hr, -⟩ := h.listed.entry i e he
  obtain ⟨s, hitem, hshows, hplaced⟩ := h.placed i e r he hr
  have hkind : s.item.kind = .stream := by rw [hitem, Outline.item, hpayload]
  have hpayload' : s.item.payload = payload := by
    rw [hitem, Outline.item_payload, hpayload, Option.getD_some]
  have hstream : s.item.kind.isStream = true := by rw [hkind]; rfl
  -- the kind and the length of the payload decide which of the two places it has
  rw [Slot.Placed, isMini, isLarge, hstream, hpayload'] at hplaced
  have hrstream : r.isStream = true := by rw [Record.isStream, hshows.kind, hstream]
  split
  · next hlt =>
    obtain ⟨-, x, hx, hstart, hsize⟩ := hplaced.resolve_right (by simp; omega)
    exact ⟨r, x, hr, hrstream, hshows.start.trans hstart, hshows.size.trans hsize, hx⟩
  · next hge =>
    obtain ⟨-, x, hx, hstart, hsize⟩ := (hplaced.resolve_left (by simp [hge])).resolve_right
      (by simp; omega)
    exact ⟨r, x, hr, hrstream, hshows.start.trans hstart, hshows.size.trans hsize, hx⟩

/-- **A written file opens without a notice**, and it holds the outline that it was written for. -/
theorem load_write (hl : l.Valid) (hw : o.WellFormed) (hs : (plan l (o.items l.order)).Small) :
    ∃ c, (Container.load (write l o)).outcome = ⟨.ok c, []⟩ ∧ Holding l o c := by
  have hp := sized_plan hl (o.items l.order)
  have hwritable := hp.writable hs
  obtain ⟨more, hbytes⟩ := bytes_eq l o
  have hheader := Plan.load_header hl hwritable more
  have hnamed := Plan.named_read hl hwritable more
  rw [← hbytes] at hheader hnamed
  change (Header.load (write l o)).outcome = ⟨.ok (Header.read (write l o)), []⟩ at hheader
  change Plan.Named _ l (Header.read (write l o)) at hnamed
  generalize Header.read (write l o) = h at hheader hnamed
  generalize hplan : plan l (o.items l.order) = p at *
  have hstored : Stored l (o.items l.order) p (h.medium (write l o)) := by
    refine stored hl hp rfl hnamed.sectorSize_eq ?_
    change (write l o).data.toList = _
    rw [write, Bytes.toList_ofList, bytes, hplan]
    simp only [List.append_assoc]
    rfl
  obtain ⟨-, -, -, hdirectoryEnd, htableEnd, htotal⟩ := hp.bounds
  obtain ⟨d, hd, hlisted, hsize, hrootStart, hrootSize, hplaced⟩ := exists_directory hl hw hp hs
  -- the directory is not empty, as it has the root's record
  have hdirectoryCount : p.directory.count ≠ 0 := by
    obtain ⟨k, hk, hsectorSize, -⟩ := hl.exists_sectorSize_eq
    rw [hp.directory, hsectorSize, Nat.mul_div_cancel _ (by decide)]
    exact Nat.ne_of_gt (Bytes.pieces_pos (by omega) (Nat.succ_pos _))
  -- the parts are read in the order in which each of them is needed for the next
  have hcollect := Plan.collect_eq (m := h.medium (write l o)) hl hwritable
    hnamed.sectorSize_eq.symm (by have := hs.total; omega) (by rw [hp.list]) hs.list hstored.list
  rw [← hnamed.slots, ← hnamed.listStart] at hcollect
  have htable := loadTable_stored hl hstored hp hs (by omega)
  let v := Container.bareVolume (write l o) h (p.links l).toArray
  have hunit : v.sectorSize = l.sectorSize := hnamed.sectorSize_eq
  have hdirectory := loadDirectory_keeps (hstored.keeps_directory (v := v) hp hs hl rfl rfl)
    hs.directory hd
  rw [Extent.start, if_neg hdirectoryCount, ← hnamed.directoryStart] at hdirectory
  have hminiTable := (hstored.keeps_miniTable (v := v) hp hs hl rfl).materialize_all hs.miniTable
  rw [← hnamed.miniTableStart] at hminiTable
  have hminiStream := hstored.keeps_miniStream (v := v) hp hs hl rfl
  rw [← hunit] at hminiStream
  have hload := Container.load_of_parts hheader hcollect htable hdirectory hminiTable
    (loadMiniStream_keeps hminiStream (by rw [hunit, hp.miniStream]) h.sectorSize_pos hrootStart
      hrootSize)
    (Directory.tree_spelled (hlisted.spelled hsize)).1
  -- the open file is the one put together from those parts, so it holds what they hold
  refine ⟨_, hload, rfl, hlisted, hsize, ?_, ?_, hrootSize, ?_⟩
  · rw [hplan]
    exact hstored.kept hp hs hl rfl hnamed.miniSectorSize_eq hnamed.miniCutoff rfl rfl
  · rw [hplan]
    exact hrootStart
  · rw [hplan]
    exact hplaced

end Opening

end Image

/-! ### A file with parts of every kind -/

open Image

namespace Outline

/-- A storage with a short stream in it, and a stream next to it. -/
def sample (long : List UInt8) : Outline :=
  [{ name := Name.ofString "A" },
    { name := Name.ofString "b", parent := 1, payload := some [1, 2, 3] },
    { name := Name.ofString "c", payload := some long }]

theorem getElem?_sample {long : List UInt8} {i : Nat} {e : Entry} (h : (sample long)[i]? = some e) :
    i = 0 ∧ e = { name := Name.ofString "A" } ∨
      i = 1 ∧ e = { name := Name.ofString "b", parent := 1, payload := some [1, 2, 3] } ∨
      i = 2 ∧ e = { name := Name.ofString "c", payload := some long } := by
  rcases i with _ | _ | _ | i
  · exact .inl ⟨rfl, (Option.some.inj h).symm⟩
  · exact .inr (.inl ⟨rfl, (Option.some.inj h).symm⟩)
  · exact .inr (.inr ⟨rfl, (Option.some.inj h).symm⟩)
  · exact nomatch h

theorem wellFormed_sample (long : List UInt8) : (sample long).WellFormed where
  parent i e he := by
    -- two entries on top and one below the first of them
    rcases getElem?_sample he with ⟨rfl, rfl⟩ | ⟨rfl, rfl⟩ | ⟨rfl, rfl⟩
    · exact ⟨Nat.le_refl _, .inl rfl⟩
    · exact ⟨Nat.le_refl _, .inr ⟨_, rfl, rfl⟩⟩
    · exact ⟨Nat.zero_le _, .inl rfl⟩
  length := by simp [sample, Name.ofString, Record.nameUnits]
  units := by simp [sample, Name.ofString]
  slash := by
    simp [sample, Name.ofString, Name.decode, Name.expand, Name.slash, Name.pairBase,
      Name.singleBase, Name.tableMark]
  distinct i j e f he hf _ hname := by
    have hA : (Name.ofString "A").decode = [0x41] := rfl
    have hb : (Name.ofString "b").decode = [0x62] := rfl
    have hc : (Name.ofString "c").decode = [0x63] := rfl
    -- different entries beside each other have different names
    rcases getElem?_sample he with ⟨rfl, rfl⟩ | ⟨rfl, rfl⟩ | ⟨rfl, rfl⟩ <;>
      rcases getElem?_sample hf with ⟨rfl, rfl⟩ | ⟨rfl, rfl⟩ | ⟨rfl, rfl⟩ <;>
        simp_all

end Outline

/-- All the sectors of the allocation table have to be listed behind the header. -/
def Layout.sample : Layout := { headerSlots := 0 }

theorem Layout.valid_sample : Layout.sample.Valid := ⟨by decide, by decide⟩

section Sample

variable {long : List UInt8}

theorem Image.largePayloads_sample (hlong : long.length = miniCutoff) :
    largePayloads ((Outline.sample long).items Layout.sample.order) = [long] := by
  simp [largePayloads, Outline.items, Outline.sample, Outline.item, isLarge, ObjectKind.isStream,
    ObjectKind.code, miniCutoff, hlong]

theorem Image.miniPayloads_sample (hlong : long.length = miniCutoff) :
    miniPayloads ((Outline.sample long).items Layout.sample.order) = [[1, 2, 3]] := by
  simp [miniPayloads, Outline.items, Outline.sample, Outline.item, isMini, ObjectKind.isStream,
    ObjectKind.code, miniCutoff, hlong]

theorem Image.minis_sample (hlong : long.length = miniCutoff) :
    minis ((Outline.sample long).items Layout.sample.order) = [([1, 2, 3], ⟨0, 1⟩)] := by
  rw [minis, miniPayloads_sample hlong]
  rfl

theorem Image.plan_sample (hlong : long.length = miniCutoff) :
    let items := (Outline.sample long).items Layout.sample.order
    larges (plan .sample items) items = [(long, ⟨0, 8⟩)] ∧
      (plan .sample items).miniStream = ⟨8, 1⟩ := by
  intro items
  have hp := sized_plan Layout.valid_sample items
  have hlarge : (plan .sample items).large = [⟨0, 8⟩] := by
    rw [hp.large, largePayloads_sample hlong, place, hlong]
    rfl
  constructor
  · rw [larges, hlarge, largePayloads_sample hlong]
    rfl
  · rw [hp.miniStream, hlarge, miniStream, miniPayloads_sample hlong]
    rfl

theorem Image.small_sample (hlong : long.length = miniCutoff) :
    (plan .sample ((Outline.sample long).items Layout.sample.order)).Small := by
  have hp := sized_plan Layout.valid_sample ((Outline.sample long).items Layout.sample.order)
  refine hp.small Layout.valid_sample ?_
  have hitems : ((Outline.sample long).items Layout.sample.order).length = 4 := rfl
  have hsector : Layout.sample.sectorSize = 512 := rfl
  rw [hp.table, hp.directory, hp.miniTable, hp.miniStream, hp.large, miniStream, miniTable,
    largePayloads_sample hlong, miniPayloads_sample hlong, hitems, hsector]
  simp [place, hlong, Bytes.pieces, Bytes.length_padTo, miniSectorSize, Extent.links, miniCutoff,
    Record.length, Volume.unboundedSteps]

end Sample

end InstallerPackage
