import InstallerPackage.Proofs.Image.Extents

/-!
# Directory records, read back

`Slot.shows_read` reads the record of a single item, `ofBytes_flatMap` a whole directory. The records
of a planned file have their streams where `Image.place` puts them: `recordsFrom_eq`.
-/

namespace InstallerPackage

namespace Image

/-- An item with the place of its stream. -/
structure Slot where
  item : Item
  start : Nat
  size : Nat

namespace Slot

/-- The bytes of the record. -/
def bytes (s : Slot) : List UInt8 := record s.item s.start s.size

/-- The fields of the slot fit into a record. -/
structure Fits (s : Slot) : Prop where
  kind : ObjectKind.ofCode (s.item.kind.code % 256) = s.item.kind
  unused : s.item.kind = .unallocated → s.item.name = []
  length : s.item.name.length < Record.nameUnits
  units : ∀ c ∈ s.item.name, c < 2 ^ 16
  left : s.item.left < 2 ^ 32
  right : s.item.right < 2 ^ 32
  child : s.item.child < 2 ^ 32
  start : s.start < 2 ^ 32
  size : s.size < 2 ^ 64

/-- The record that is read for a slot. -/
structure Shows (s : Slot) (r : Record) : Prop where
  name : r.name = s.item.name
  kind : r.kind = s.item.kind
  left : r.left = s.item.left
  right : r.right = s.item.right
  child : r.child = s.item.child
  start : r.start = s.start
  size : r.size = s.size

variable {s : Slot} {before more : List UInt8}

/-- What stands before a record does not matter to it. -/
theorem read_skip : Record.read (Bytes.ofList (before ++ more)) before.length =
    Record.read (Bytes.ofList more) 0 := by
  have hnumber : ∀ offset width, Bytes.number (Bytes.ofList (before ++ more))
      (before.length + offset) width = Bytes.number (Bytes.ofList more) (0 + offset) width := by
    intro offset width
    rw [Bytes.number_ofList_skip (Nat.le_add_right _ _), Nat.add_sub_cancel_left, Nat.zero_add]
  have hslice : Bytes.slice (Bytes.ofList (before ++ more)) (before.length + 80) 16 =
      Bytes.slice (Bytes.ofList more) (0 + 80) 16 := by
    rw [Bytes.slice_ofList, Bytes.slice_ofList, ← List.drop_drop, List.drop_left, Nat.zero_add]
  simp only [Record.read, hnumber, hslice]

/-- The field for the name. -/
def nameField (s : Slot) : List UInt8 :=
  let units := (s.item.name.take (Record.nameUnits - 1)).flatMap (Bytes.little 2)
  units ++ List.replicate (2 * Record.nameUnits - units.length) 0

/-- The number of bytes that the name is said to have. -/
def nameBytes (s : Slot) : Nat :=
  if s.item.kind = .unallocated then 0
  else ((s.item.name.take (Record.nameUnits - 1)).flatMap (Bytes.little 2)).length + 2

/-- The fields behind the name. -/
def fields (s : Slot) : List UInt8 :=
  Bytes.little 2 s.nameBytes ++ (Bytes.little 1 s.item.kind.code ++ (Bytes.little 1 1 ++
    (Bytes.little 4 s.item.left ++ (Bytes.little 4 s.item.right ++ (Bytes.little 4 s.item.child ++
    (List.replicate 16 0 ++ (Bytes.little 4 0 ++ (Bytes.little 8 0 ++ (Bytes.little 8 0 ++
    (Bytes.little 4 s.start ++ Bytes.little 8 s.size))))))))))

theorem bytes_eq (s : Slot) : s.bytes = s.nameField ++ s.fields := by
  simp only [bytes, record, nameField, fields, nameBytes, List.append_assoc]

theorem length_nameField (s : Slot) : s.nameField.length = 64 := by
  have htake := List.length_take_le (Record.nameUnits - 1) s.item.name
  have hroom : 2 * (s.item.name.take (Record.nameUnits - 1)).length ≤ 2 * Record.nameUnits :=
    Nat.mul_le_mul_left 2 (Nat.le_trans htake (Nat.sub_le _ _))
  rw [nameField, List.length_append, List.length_replicate, Bytes.length_flatMap_little,
    Nat.add_sub_cancel' hroom]
  rfl

theorem length_bytes (s : Slot) : s.bytes.length = Record.length := by
  simp only [bytes_eq, fields, List.length_append, length_nameField, List.length_replicate,
    Bytes.length_little]
  rfl

theorem number_fields (s : Slot) (more : List UInt8) (offset width : Nat) :
    Bytes.number (Bytes.ofList (s.bytes ++ more)) (0 + (offset + 64)) width =
      Bytes.number (Bytes.ofList (s.fields ++ more)) offset width := by
  rw [Nat.zero_add, bytes_eq, List.append_assoc, Bytes.number_ofList_skip, length_nameField,
    Nat.add_sub_cancel]
  rw [length_nameField]
  exact Nat.le_add_left _ _

theorem Fits.nameBytes_eq (h : s.Fits) :
    Record.unitCount (s.nameBytes % 256 ^ 2) = s.item.name.length := by
  have hlen := h.length
  rw [Record.nameUnits] at hlen
  rw [nameBytes]
  split
  · next hunused =>
    rw [h.unused hunused]
    rfl
  · rw [List.take_of_length_le (by rw [Record.nameUnits]; omega), Bytes.length_flatMap_little,
      Nat.mod_eq_of_lt (by omega), Record.unitCount, Record.nameUnits]
    omega

theorem Fits.number_unit (h : s.Fits) {i : Nat} (hi : i < s.item.name.length) (more : List UInt8) :
    Bytes.number (Bytes.ofList (s.bytes ++ more)) (2 * i) 2 = s.item.name[i] := by
  have hlen := h.length
  rw [bytes_eq, nameField, List.take_of_length_le (by omega), List.append_assoc, List.append_assoc,
    Bytes.number_ofList_flatMap (List.getElem?_eq_getElem hi), Nat.mod_eq_of_lt]
  exact h.units _ (List.getElem_mem hi)

theorem shows_read (h : s.Fits) (more : List UInt8) :
    s.Shows (Record.read (Bytes.ofList (s.bytes ++ more)) 0) := by
  have hfield := number_fields s more
  constructor
  -- every field is found behind the ones before it
  all_goals
    dsimp only [Record.read]
    simp (disch := simp) only [hfield 0, hfield 2, hfield 4, hfield 8, hfield 12, hfield 52,
      hfield 56, fields, List.append_assoc, Bytes.number_ofList_skip, Bytes.length_little,
      List.length_replicate, Nat.reduceSub, Bytes.number_ofList_here]
  -- each of them was written in its width, so nothing is cut off
  case kind => exact h.kind
  case left => exact Nat.mod_eq_of_lt h.left
  case right => exact Nat.mod_eq_of_lt h.right
  case child => exact Nat.mod_eq_of_lt h.child
  case start => exact Nat.mod_eq_of_lt h.start
  case size => exact Nat.mod_eq_of_lt h.size
  case name =>
    rw [h.nameBytes_eq]
    refine List.ext_getElem (by simp) fun i _ hi => ?_
    rw [List.getElem_map, List.getElem_range, Nat.zero_add]
    exact h.number_unit hi more

/-- The slot of a position that is not in use. -/
def unused : Slot := ⟨{ name := [], kind := .unallocated }, endOfChain, 0⟩

theorem bytes_unused : unused.bytes = unusedRecord := by rw [bytes, unused, unusedRecord]

theorem fits_unused : unused.Fits := by
  constructor <;> decide

/-- The stream of an item has its place among those of its size, and other items have no stream. -/
def Placed (minis larges : List (List UInt8 × Extent)) (s : Slot) : Prop :=
  (isMini s.item = true ∧
    ∃ e, (s.item.payload, e) ∈ minis ∧ s.start = e.start ∧ s.size = s.item.payload.length) ∨
  (isLarge s.item = true ∧
    ∃ e, (s.item.payload, e) ∈ larges ∧ s.start = e.start ∧ s.size = s.item.payload.length) ∨
  isMini s.item = false ∧ isLarge s.item = false ∧ s.start = endOfChain ∧ s.size = 0

theorem Placed.mono {minis larges minis' larges' : List (List UInt8 × Extent)}
    (h : s.Placed minis larges) (hm : minis ⊆ minis') (hl : larges ⊆ larges') :
    s.Placed minis' larges' := by
  rcases h with ⟨hmini, e, he, h⟩ | ⟨hlarge, e, he, h⟩ | h
  · exact .inl ⟨hmini, e, hm he, h⟩
  · exact .inr (.inl ⟨hlarge, e, hl he, h⟩)
  · exact .inr (.inr h)

end Slot

/-! ### Whole directories -/

theorem length_flatMap_bytes (slots : List Slot) :
    (slots.flatMap Slot.bytes).length = slots.length * Record.length := by
  rw [List.length_flatMap, sum_map_eq_mul fun s _ => s.length_bytes]

/-- Every record of a directory shows its slot. -/
theorem ofBytes_flatMap {slots : List Slot} (hne : slots ≠ []) (hfits : ∀ s ∈ slots, s.Fits) :
    ∃ d, Directory.ofBytes? (Bytes.ofList (slots.flatMap Slot.bytes)) = some d ∧
      d.records.size = slots.length ∧
      ∀ (i : Nat) (s : Slot), slots[i]? = some s → ∃ r, d.records[i]? = some r ∧ s.Shows r := by
  have hlen := length_flatMap_bytes slots
  -- there is at least one slot, so there is room for a record
  have hroom : Record.length ≤ (Bytes.ofList (slots.flatMap Slot.bytes)).size := by
    rw [Bytes.size_ofList, hlen]
    exact Nat.le_mul_of_pos_left _ (List.length_pos_iff.mpr hne)
  have hsize : (Bytes.ofList (slots.flatMap Slot.bytes)).size / Record.length = slots.length := by
    rw [Bytes.size_ofList, hlen, Nat.mul_div_cancel _ (by decide)]
  refine ⟨_, dif_pos hroom, ?_, fun i s hs => ?_⟩
  · rw [Array.size_ofFn, hsize]
  · -- all records have one length, so the one at `i` is found behind `i` of them
    obtain ⟨hi, rfl⟩ := List.getElem?_eq_some_iff.mp hs
    have hsplit : slots.flatMap Slot.bytes = (slots.take i).flatMap Slot.bytes ++
        (slots[i].bytes ++ (slots.drop (i + 1)).flatMap Slot.bytes) := by
      rw [← List.flatMap_cons, ← List.drop_eq_getElem_cons hi, ← List.flatMap_append,
        List.take_append_drop]
    have hbefore : ((slots.take i).flatMap Slot.bytes).length = i * Record.length := by
      rw [length_flatMap_bytes, List.length_take_of_le (Nat.le_of_lt hi)]
    have hread : Record.read (Bytes.ofList (slots.flatMap Slot.bytes)) (i * Record.length) =
        Record.read (Bytes.ofList (slots[i].bytes ++ (slots.drop (i + 1)).flatMap Slot.bytes)) 0 := by
      rw [hsplit, ← hbefore, Slot.read_skip]
    refine ⟨_, Array.getElem?_eq_getElem (by rw [Array.size_ofFn, hsize]; exact hi), ?_⟩
    rw [Array.getElem_ofFn, hread]
    exact Slot.shows_read (hfits _ (List.getElem_mem hi)) _

theorem isLarge_of_isMini {i : Item} (h : isMini i = true) : isLarge i = false := by
  rw [isMini, Bool.and_eq_true, decide_eq_true_eq] at h
  rw [isLarge, Bool.and_eq_false_iff, decide_eq_false_iff_not]
  exact .inr (Nat.not_le.mpr h.2)

/-- The extents are handed out in order, to every item the one that was made for its payload. -/
theorem recordsFrom_eq {mini large : List Extent} {items : List Item}
    (hmini : mini.length = (miniPayloads items).length)
    (hlarge : large.length = (largePayloads items).length) :
    ∃ slots : List Slot, recordsFrom mini large items = slots.flatMap Slot.bytes ∧
      slots.map Slot.item = items ∧
      ∀ s ∈ slots, s.Placed ((miniPayloads items).zip mini) ((largePayloads items).zip large) := by
  -- on the items, each of which takes the next extent of its own kind
  induction items generalizing mini large with
  | nil => exact ⟨[], rfl, rfl, by simp⟩
  | cons i rest ih =>
    by_cases hm : isMini i = true
    · -- a small stream takes the next extent of the mini stream
      have hl := isLarge_of_isMini hm
      rw [miniPayloads, List.filter_cons_of_pos hm, List.map_cons, ← miniPayloads] at hmini ⊢
      rw [largePayloads, List.filter_cons_of_neg (by simp [hl]), ← largePayloads] at hlarge ⊢
      obtain ⟨e, mini, rfl⟩ := List.exists_cons_of_length_eq_add_one hmini
      obtain ⟨slots, heq, hitems, hplaced⟩ := ih (by simpa using hmini) hlarge
      refine ⟨⟨i, e.start, i.payload.length⟩ :: slots, ?_, by rw [List.map_cons, hitems], ?_⟩
      · rw [recordsFrom, if_pos hm, List.tail_cons, heq]
        rfl
      · intro s hs
        rcases List.mem_cons.mp hs with rfl | hs
        · exact .inl ⟨hm, e, List.mem_cons_self .., rfl, rfl⟩
        · exact (hplaced s hs).mono (List.subset_cons_self ..) (List.Subset.refl _)
    by_cases hl : isLarge i = true
    · -- a large one the next extent of the file
      rw [miniPayloads, List.filter_cons_of_neg hm, ← miniPayloads] at hmini ⊢
      rw [largePayloads, List.filter_cons_of_pos hl, List.map_cons, ← largePayloads] at hlarge ⊢
      obtain ⟨e, large, rfl⟩ := List.exists_cons_of_length_eq_add_one hlarge
      obtain ⟨slots, heq, hitems, hplaced⟩ := ih hmini (by simpa using hlarge)
      refine ⟨⟨i, e.start, i.payload.length⟩ :: slots, ?_, by rw [List.map_cons, hitems], ?_⟩
      · rw [recordsFrom, if_neg hm, if_pos hl, List.tail_cons, heq]
        rfl
      · intro s hs
        rcases List.mem_cons.mp hs with rfl | hs
        · exact .inr (.inl ⟨hl, e, List.mem_cons_self .., rfl, rfl⟩)
        · exact (hplaced s hs).mono (List.Subset.refl _) (List.subset_cons_self ..)
    · -- an item without a payload, or a storage, takes none
      rw [miniPayloads, List.filter_cons_of_neg hm, ← miniPayloads] at hmini ⊢
      rw [largePayloads, List.filter_cons_of_neg hl, ← largePayloads] at hlarge ⊢
      obtain ⟨slots, heq, hitems, hplaced⟩ := ih hmini hlarge
      refine ⟨⟨i, endOfChain, 0⟩ :: slots, ?_, by rw [List.map_cons, hitems], ?_⟩
      · rw [recordsFrom, if_neg hm, if_neg hl, heq]
        rfl
      · intro s hs
        rcases List.mem_cons.mp hs with rfl | hs
        · exact .inr (.inr ⟨by simpa using hm, by simpa using hl, rfl, rfl⟩)
        · exact hplaced s hs

/-- A directory has a record for every item and fills up its last sector. -/
theorem directory_eq {l : Layout} {mini large : List Extent} (root : Item) (rest : List Item)
    (miniStart : Nat) (hl : l.Valid) (hroot : root.kind.isStream = false)
    (hmini : mini.length = (miniPayloads (root :: rest)).length)
    (hlarge : large.length = (largePayloads (root :: rest)).length) :
    ∃ slots unusedCount,
      directory l (root :: rest) mini large miniStart =
        (Slot.mk root miniStart (miniStream (root :: rest)).length :: slots ++
          List.replicate unusedCount Slot.unused).flatMap Slot.bytes ∧
      slots.map Slot.item = rest ∧
      (slots.length + 1 + unusedCount) * Record.length =
        Bytes.pieces (l.sectorSize / Record.length) (rest.length + 1) * l.sectorSize ∧
      ∀ s ∈ slots, s.Placed ((miniPayloads (root :: rest)).zip mini)
        ((largePayloads (root :: rest)).zip large) := by
  -- the root is in neither list of payloads, for it is no stream
  have hm : miniPayloads (root :: rest) = miniPayloads rest := by
    rw [miniPayloads, List.filter_cons_of_neg (by simp [isMini, hroot]), ← miniPayloads]
  have hg : largePayloads (root :: rest) = largePayloads rest := by
    rw [largePayloads, List.filter_cons_of_neg (by simp [isLarge, hroot]), ← largePayloads]
  rw [hm] at hmini ⊢
  rw [hg] at hlarge ⊢
  obtain ⟨slots, heq, hitems, hplaced⟩ := recordsFrom_eq hmini hlarge
  obtain ⟨k, hk, hsize, -⟩ := hl.exists_sectorSize_eq
  have hperSector : l.sectorSize / Record.length = k := by
    rw [hsize, Nat.mul_div_cancel _ (by decide)]
  have hlen : slots.length = rest.length := by rw [← hitems, List.length_map]
  have hroom := Bytes.le_pieces_mul (show 0 < k by omega) (rest.length + 1)
  -- what fills up the last sector are unused records
  refine ⟨slots, Bytes.pieces k (rest.length + 1) * k - (rest.length + 1), ?_, hitems, ?_, hplaced⟩
  · rw [directory, heq, directorySize, hperSector, List.flatMap_append, List.flatMap_cons,
      List.flatMap_replicate, List.length_cons, Slot.bytes_unused, Slot.bytes]
  · rw [hperSector, hlen, Nat.add_sub_cancel' hroom, hsize, Nat.mul_assoc]

end Image

end InstallerPackage
