import InstallerPackage.Proofs.Image.Plan
import InstallerPackage.Proofs.Image.Sectors

/-!
# Consecutive sectors as streams

Whatever is written has an `Extent`: its sectors are consecutive and linked to each other. In a table
that has the links of an extent at the right place, they are a chain (`Extent.path_links`), and a
stream whose chain is an extent is read back whole (`Volume.Keeps.materialize_all`) or to its size
(`Volume.Keeps.materialize_payload`). `mem_zip_place` says where `Image.place` puts each payload.
-/

namespace InstallerPackage

namespace Image

/-! ### Links -/

namespace Extent

theorem length_links (e : Extent) : e.links.length = e.count := by
  rw [links, List.length_map, List.length_range]

theorem mem_links {e : Extent} {n : Nat} (h : n ∈ e.links) :
    n < e.first + e.count ∨ n = endOfChain := by
  obtain ⟨i, -, rfl⟩ := List.mem_map.mp h
  split
  · exact .inl (by omega)
  · exact .inr rfl

/-- The links of an extent are the link to its second sector and those of the sectors from there. -/
theorem links_succ (first count : Nat) :
    links ⟨first, count + 1⟩ = start ⟨first + 1, count⟩ :: links ⟨first + 1, count⟩ := by
  rw [links, List.range_succ_eq_map, List.map_cons, List.map_map]
  congr 1
  · rw [start]
    rcases Nat.eq_zero_or_pos count with rfl | hpos
    · rfl
    · rw [if_pos (Nat.succ_lt_succ hpos), if_neg (Nat.ne_of_gt hpos), Nat.add_zero]
  · refine List.map_congr_left fun i _ => ?_
    simp only [Function.comp_apply, Nat.succ_eq_add_one, Nat.add_lt_add_iff_right,
      Nat.add_right_comm first 1, Nat.add_assoc]

theorem isSentinel_of_lt {n : Nat} (h : n < firstReserved) : isSentinel n = false := by
  rw [firstReserved] at h
  rw [isSentinel, endOfChain, freeSector, Bool.or_eq_false_iff, beq_eq_false_iff_ne,
    beq_eq_false_iff_ne]
  omega

theorem start_lt {e : Extent} (h : e.first < 2 ^ 32) : e.start < 2 ^ 32 := by
  rw [start]
  split
  · decide
  · exact h

theorem path_links {e : Extent} {table : Array Nat} (before : List Nat)
    (htable : before ++ e.links <+: table.toList) (hfirst : before.length = e.first)
    (hlast : e.first + e.count ≤ firstReserved) :
    Chain.Path table e.start (List.range' e.first e.count) endOfChain := by
  obtain ⟨first, count⟩ := e
  dsimp only at hfirst hlast ⊢
  -- on the sectors, with one link after the other going to what stands before
  induction count generalizing first before with
  | zero => rfl
  | succ count ih =>
    rw [links_succ, List.append_cons] at htable
    refine ⟨rfl, isSentinel_of_lt (by omega), start ⟨first + 1, count⟩, ?_, ?_⟩
    · -- the link of the first sector stands right behind what is before the extent
      obtain ⟨after, hafter⟩ := htable
      rw [← Array.getElem?_toList, ← hafter, List.append_assoc, ← hfirst,
        List.getElem?_append_left (by simp), List.getElem?_concat_length]
    · -- the remaining sectors are an extent with one link more before it
      refine ih (before ++ [start ⟨first + 1, count⟩]) (first + 1) htable ?_ (by omega)
      rw [List.length_append, hfirst, List.length_singleton]

end Extent

/-! ### Placing payloads -/

variable {u first : Nat} {payloads : List (List UInt8)}

theorem place_append (before after : List (List UInt8)) :
    place u first (before ++ after) =
      place u first before ++
        place u (first + ((place u first before).map Extent.count).sum) after := by
  induction before generalizing first with
  | nil => simp [place]
  | cons payload before ih => simp [place, ih, Nat.add_assoc]

theorem le_of_mem_place {e : Extent} (h : e ∈ place u first payloads) :
    e.first + e.count ≤ first + ((place u first payloads).map Extent.count).sum := by
  induction payloads generalizing first with
  | nil => simp [place] at h
  | cons payload rest ih =>
    rw [place, List.mem_cons] at h
    rw [place, List.map_cons, List.sum_cons, ← Nat.add_assoc]
    rcases h with rfl | h
    · exact Nat.le_add_right _ _
    · exact ih h

theorem length_place (u first : Nat) (payloads : List (List UInt8)) :
    (place u first payloads).length = payloads.length := by
  induction payloads generalizing first with
  | nil => rfl
  | cons payload rest ih => rw [place, List.length_cons, List.length_cons, ih]

theorem length_flatMap_links (es : List Extent) :
    (es.flatMap Extent.links).length = (es.map Extent.count).sum := by
  rw [List.length_flatMap]
  simp only [Extent.length_links]

theorem length_flatMap_padTo (hu : 0 < u) (first : Nat) :
    (payloads.flatMap (Bytes.padTo u)).length =
      ((place u first payloads).map Extent.count).sum * u := by
  induction payloads generalizing first with
  | nil => simp [place]
  | cons payload rest ih =>
    rw [List.flatMap_cons, List.length_append, ih, Bytes.length_padTo hu, place, List.map_cons,
      List.sum_cons, Nat.add_mul]

theorem place_split {payload : List UInt8} {e : Extent}
    (h : (payload, e) ∈ payloads.zip (place u first payloads)) :
    ∃ before after, payloads = before ++ payload :: after ∧
      e = ⟨first + ((place u first before).map Extent.count).sum,
        Bytes.pieces u payload.length⟩ := by
  -- on the payloads, with the first sector free: it is where the ones before have ended
  induction payloads generalizing first with
  | nil => simp at h
  | cons head rest ih =>
    rw [place, List.zip_cons_cons, List.mem_cons] at h
    rcases h with h | h
    · obtain ⟨rfl, rfl⟩ := Prod.mk.inj h
      exact ⟨[], rest, rfl, by simp [place]⟩
    · obtain ⟨before, after, rfl, rfl⟩ := ih h
      exact ⟨head :: before, after, rfl, by simp [place, Nat.add_assoc]⟩

/-- Every payload is filled up to the sectors of its extent, and both the sectors and their links
stand at the place that the extent names. -/
theorem mem_zip_place {payload : List UInt8} {e : Extent} (hu : 0 < u)
    (h : (payload, e) ∈ payloads.zip (place u 0 payloads)) :
    e.count = Bytes.pieces u payload.length ∧
      (∃ before after, payloads.flatMap (Bytes.padTo u) =
          before ++ Bytes.padTo u payload ++ after ∧ before.length = e.first * u) ∧
      ∃ before after, (place u 0 payloads).flatMap Extent.links =
          before ++ e.links ++ after ∧ before.length = e.first := by
  -- where the payload stands among the others is where its extent stands among theirs
  obtain ⟨before, after, rfl, he⟩ := place_split h
  have hfirst : e.first = ((place u 0 before).map Extent.count).sum := by
    rw [he, Nat.zero_add]
  have hcount : e.count = Bytes.pieces u payload.length := by rw [he]
  refine ⟨hcount, ⟨before.flatMap (Bytes.padTo u), after.flatMap (Bytes.padTo u), ?_, ?_⟩,
    ⟨(place u 0 before).flatMap Extent.links,
      (place u (e.first + e.count) after).flatMap Extent.links, ?_, ?_⟩⟩
  · rw [List.flatMap_append, List.flatMap_cons, List.append_assoc]
  · rw [length_flatMap_padTo hu 0, hfirst]
  · -- the payloads behind are placed from the end of this one on
    rw [place_append, List.flatMap_append, place, List.flatMap_cons, List.append_assoc, Nat.zero_add,
      ← hfirst, ← hcount]
  · rw [length_flatMap_links, hfirst]

end Image

/-! ### Reading an extent -/

namespace Volume

open Image

/-- The sectors of an extent are a chain and hold some content. -/
structure Keeps (v : Volume) (space : Space) (e : Extent) (content : List UInt8) : Prop where
  path : Chain.Path (v.links space) e.start (List.range' e.first e.count) endOfChain
  length : content.length = e.count * v.unit space
  chunks : ∀ i < e.count, (v.payload space (e.first + i)).data.toList =
    (content.drop (i * v.unit space)).take (v.unit space)

variable {v : Volume} {space : Space} {e : Extent} {content payload : List UInt8}

theorem Keeps.flatMap_payload (h : v.Keeps space e content) :
    (List.range' e.first e.count).flatMap (fun n => (v.payload space n).data.toList) = content :=
  flatMap_eq_of_pieces h.length h.chunks

theorem Keeps.size_payload (h : v.Keeps space e content) {n : Nat}
    (hn : n ∈ List.range' e.first e.count) : (v.payload space n).size = v.unit space := by
  obtain ⟨i, hi, rfl⟩ := List.mem_range'.mp hn
  rw [Nat.one_mul, ← Bytes.length_toList, h.chunks i hi, List.length_take, List.length_drop,
    h.length]
  have := Nat.mul_le_mul_right (v.unit space) (show i + 1 ≤ e.count from hi)
  rw [Nat.succ_mul] at this
  omega

/-- An extent is read to the end of its chain. -/
theorem Keeps.materialize_all (h : v.Keeps space e content) (hcount : e.count ≤ unboundedSteps) :
    v.materialize space e.start 0 = ⟨Bytes.ofList content, []⟩ := by
  have hwalk : v.walk space e.start 0 = ⟨(List.range' e.first e.count).toArray, .sentinel⟩ := by
    refine Chain.walk_eq_of_sentinel h.path rfl (.inl rfl) ?_
    rw [List.length_range', stepLimit, if_pos rfl]
    exact hcount
  apply Noted.ext
  · simp only [materialize, hwalk, if_true]
    rw [← Bytes.toList_inj, toList_gather, Bytes.toList_ofList]
    exact h.flatMap_payload
  · simp only [materialize, hwalk, stopNotices]

/-- A stream in an extent is read to its size. -/
theorem Keeps.materialize_payload (h : v.Keeps space e (Bytes.padTo (v.unit space) payload))
    (hu : 0 < v.unit space) (hcount : e.count = Bytes.pieces (v.unit space) payload.length)
    (hsize : 0 < payload.length) :
    v.Holds space e.start payload.length (List.range' e.first e.count) ∧
      v.materialize space e.start payload.length = ⟨Bytes.ofList payload, []⟩ := by
  -- the sectors of an extent hold the payload, for they hold it filled up
  have hholds : v.Holds space e.start payload.length (List.range' e.first e.count) := by
    refine ⟨⟨_, h.path⟩, by rw [List.length_range', hcount],
      fun s hs => h.size_payload (List.dropLast_subset _ hs), fun s hs => ?_⟩
    -- even the last sector is whole, since the payload was filled up
    have hroom := Bytes.le_pieces_mul hu payload.length
    have hpos := Bytes.pieces_pos hu hsize
    rw [h.size_payload (List.mem_of_getLast? hs), List.length_range', hcount, ← Nat.succ_mul,
      Nat.succ_eq_add_one, Nat.sub_add_cancel hpos]
    exact hroom
  obtain ⟨hnotices, hvalue⟩ := materialize_of_holds hholds hu hsize
  refine ⟨hholds, Noted.ext ?_ hnotices⟩
  rw [← Bytes.toList_inj, hvalue, h.flatMap_payload, Bytes.toList_ofList, Bytes.padTo,
    List.take_left]

/-- Stored sectors whose links stand in the table. -/
theorem keeps_regular (before : List Nat)
    (hstores : v.toMedium.Stores e.first content) (hlen : content.length = e.count * v.sectorSize)
    (htable : before ++ e.links <+: v.table.toList) (hfirst : before.length = e.first)
    (hlast : e.first + e.count ≤ firstReserved) : v.Keeps .regular e content where
  path := Extent.path_links _ htable hfirst hlast
  length := hlen
  chunks _ hi := hstores.toList_sector hlen hi

/-- A part of the mini stream whose links stand in the mini table. -/
theorem keeps_mini (before : List Nat) {front rest : List UInt8}
    (hmini : v.miniStream.data.toList = front ++ content ++ rest)
    (hfront : front.length = e.first * v.miniSectorSize)
    (hlen : content.length = e.count * v.miniSectorSize)
    (htable : before ++ e.links <+: v.miniTable.toList) (hfirst : before.length = e.first)
    (hlast : e.first + e.count ≤ firstReserved) : v.Keeps .mini e content where
  path := Extent.path_links _ htable hfirst hlast
  length := hlen
  chunks i hi := by
    have hle := Nat.mul_le_mul_right v.miniSectorSize (show e.first + i + 1 ≤ e.first + e.count by omega)
    have hsize : v.miniStream.size = front.length + content.length + rest.length := by
      rw [← Bytes.length_toList, hmini, List.length_append, List.length_append]
    change (v.miniSector (e.first + i)).data.toList =
      (content.drop (i * v.miniSectorSize)).take v.miniSectorSize
    -- the mini sector lies inside the mini stream, so it is whole
    rw [miniSector, if_pos (by rw [hsize, hfront, hlen, ← Nat.add_mul]; omega), Bytes.toList_slice,
      hmini]
    rw [List.append_assoc, Nat.add_mul, ← hfront, ← List.drop_drop, List.drop_left]
    refine take_drop_append ?_ rest
    rw [← Nat.succ_mul, hlen]
    exact Nat.mul_le_mul_right _ hi

end Volume

end InstallerPackage
