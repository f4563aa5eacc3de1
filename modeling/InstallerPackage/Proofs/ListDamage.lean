import InstallerPackage.Proofs.AllocationTable
import InstallerPackage.Proofs.Image.Sectors
import InstallerPackage.Proofs.Overwriting

/-!
# A damaged list of the allocation table's sectors

The list of the sectors that hold the allocation table ends with a chain of list sectors. The last
word of the last one of them should be a sentinel; `Medium.relink` puts anything else there. Then
the reader goes on from the last list sector to wherever the new link leads, in a circle, into data,
or out of the file, and takes what it finds there for listed sectors.

`Container.load_relink` says that this does no harm. Whatever is listed in addition comes behind
what was listed before, and the same is true of the links in the table (`Allocation.prefix_follow`).
A chain that does not leave the table it knows is not diverted by links behind its end
(`Chain.walkFrom_of_prefix`).
-/

namespace InstallerPackage

/-! ### Walks in a longer table -/

namespace Chain

variable {table table' : Array Nat} {supply : Nat → Nat} {demand steps link next gathered : Nat}

theorem getElem?_extend (h : table.toList <+: table'.toList) (hnext : table[link]? = some next) :
    table'[link]? = some next := by
  obtain ⟨more, hmore⟩ := h
  rw [← Array.getElem?_toList] at hnext ⊢
  rw [← hmore, List.getElem?_append_left (List.getElem?_eq_some_iff.mp hnext).1, hnext]

/-- A longer table changes a walk only where it leaves the shorter one, and then it goes on. -/
theorem walkFrom_longer (h : table.toList <+: table'.toList) (met : Array Nat) :
    walkFrom table' supply demand steps link gathered met =
        walkFrom table supply demand steps link gathered met ∨
      ∃ out, (walkFrom table supply demand steps link gathered met).stop = .outside out ∧
        (walkFrom table supply demand steps link gathered met).sectors.toList <+:
          (walkFrom table' supply demand steps link gathered met).sectors.toList := by
  fun_induction walkFrom table supply demand steps link gathered met with
  | case1 steps link gathered met hend => exact .inl (walkFrom_sentinel hend met)
  | case2 steps link gathered met hlive hnone =>
    -- what the longer table adds comes behind all that was met so far
    exact .inr ⟨link, rfl, prefix_walkFrom ..⟩
  -- here the walk follows a link that both tables have, and it ends or goes on in the same way in both
  | case3 link gathered met hlive next hnext =>
    exact .inl (walkFrom_zero (Bool.eq_false_iff.mpr hlive) (getElem?_extend h hnext) met)
  | case4 link gathered met hlive next steps hnext gathered' henough =>
    refine .inl ?_
    rw [walkFrom_succ (Bool.eq_false_iff.mpr hlive) (getElem?_extend h hnext), if_pos henough]
  | case5 link gathered met hlive next steps hnext gathered' hmore ih =>
    rw [walkFrom_succ (Bool.eq_false_iff.mpr hlive) (getElem?_extend h hnext), if_neg hmore]
    exact ih

/-- A walk that does not leave a table is the same in a longer one. -/
theorem walkFrom_of_prefix (h : table.toList <+: table'.toList) (met : Array Nat)
    (hstop : ∀ out, (walkFrom table supply demand steps link gathered met).stop ≠ .outside out) :
    walkFrom table' supply demand steps link gathered met =
      walkFrom table supply demand steps link gathered met :=
  (walkFrom_longer h met).resolve_right fun ⟨out, hout, _⟩ => hstop out hout

/-- In a longer table a walk meets at least the sectors that it meets in the shorter one. -/
theorem sectors_walkFrom_prefix (h : table.toList <+: table'.toList) (met : Array Nat) :
    (walkFrom table supply demand steps link gathered met).sectors.toList <+:
      (walkFrom table' supply demand steps link gathered met).sectors.toList := by
  rcases walkFrom_longer h met with heq | ⟨out, -, hsectors⟩
  · rw [heq]
  · exact hsectors

end Chain

/-! ### The chain of list sectors -/

namespace Allocation

variable {m m' : Medium} {current last steps s : Nat} {sectors front : List Nat} {found : Array Nat}

/-- From `current` on the chain of list sectors leads through `sectors`, which are inside the file,
and then to `last`. -/
def ListPath (m : Medium) : (current : Nat) → (sectors : List Nat) → (last : Nat) → Prop
  | current, [], last => current = last
  | current, s :: rest, last =>
    s = current ∧ isSentinel s = false ∧ m.hasSector s = true ∧
      ListPath m (nextList (m.sector s)) rest last

theorem ListPath.hasSector_of_mem (h : ListPath m current sectors last) :
    ∀ n ∈ sectors, m.hasSector n = true := by
  induction sectors generalizing current with
  | nil => exact fun n hn => absurd hn List.not_mem_nil
  | cons s rest ih => exact List.forall_mem_cons.mpr ⟨h.2.2.1, ih h.2.2.2⟩

/-- The entries of some list sectors. -/
def entriesOf (m : Medium) (sectors : List Nat) : List Nat :=
  sectors.flatMap fun s => (listEntries (m.sector s)).toList

theorem follow_sentinel (m : Medium) (h : isSentinel current = true) (found : Array Nat) :
    follow m steps current found = pure found := by
  unfold follow
  rw [if_pos h]

theorem follow_succ (h : isSentinel current = false) (hin : m.hasSector current = true)
    (found : Array Nat) :
    follow m (steps + 1) current found =
      follow m steps (nextList (m.sector current)) (found ++ listEntries (m.sector current)) := by
  rw [follow]
  simp only [h, hin, Bool.false_eq_true, if_false, if_true]

/-- The reader follows the chain that lies before it. -/
theorem follow_path (h : ListPath m current sectors last) (steps : Nat) (found : Array Nat) :
    follow m (sectors.length + steps) current found =
      follow m steps last (found ++ (entriesOf m sectors).toArray) := by
  -- along the chain: its first sector is read, and its link is that to the rest
  induction sectors generalizing current found with
  | nil =>
    obtain rfl : current = last := h
    simp [entriesOf]
  | cons s rest ih =>
    obtain ⟨rfl, hlive, hin, hrest⟩ := h
    have hentries : found ++ listEntries (m.sector s) ++ (entriesOf m rest).toArray =
        found ++ (entriesOf m (s :: rest)).toArray := by
      rw [← Array.toList_inj]
      simp [entriesOf]
    rw [List.length_cons, Nat.add_right_comm, follow_succ hlive hin, ih hrest, hentries]

/-- The list sectors that are looked at from `current` on. -/
def listSectors (m : Medium) : (steps : Nat) → (current : Nat) → List Nat
  | steps, current =>
    if isSentinel current then []
    else match steps with
      | 0 => []
      | steps + 1 =>
        current ::
          if m.hasSector current then listSectors m steps (nextList (m.sector current)) else []

theorem listSectors_succ (hlive : isSentinel current = false) :
    listSectors m (steps + 1) current = current ::
      if m.hasSector current then listSectors m steps (nextList (m.sector current)) else [] := by
  rw [listSectors]
  simp only [hlive, Bool.false_eq_true, if_false]

/-- The sectors looked at are those that the chain leads through. -/
theorem ListPath.listSectors_eq (h : ListPath m current sectors last)
    (hlast : isSentinel last = true) (hsteps : sectors.length ≤ steps) :
    listSectors m steps current = sectors := by
  -- a sector that is not there ends the list in the reader, and is filtered out on the other side
  induction sectors generalizing current steps with
  | nil =>
    obtain rfl : current = last := h
    unfold listSectors
    rw [if_pos hlast]
  | cons s rest ih =>
    obtain ⟨rfl, hlive, hin, hrest⟩ := h
    obtain ⟨more, rfl⟩ := Nat.exists_eq_add_of_le' hsteps
    rw [List.length_cons, ← Nat.add_assoc, listSectors_succ hlive, if_pos hin,
      ih hrest (Nat.le_add_left ..)]

/-- The list is made of the entries of those sectors, as far as they are there. -/
theorem toList_follow (m : Medium) (steps current : Nat) (found : Array Nat) :
    (follow m steps current found).value.toList =
      found.toList ++ entriesOf m ((listSectors m steps current).filter (m.hasSector ·)) := by
  fun_induction follow m steps current found with
  | case1 steps current found hend =>
    unfold listSectors
    rw [if_pos hend]
    simp [entriesOf]
  | case2 current found hlive =>
    unfold listSectors
    rw [if_neg hlive]
    simp [entriesOf]
  | case3 current found hlive steps hin sector ih =>
    rw [listSectors_succ (Bool.eq_false_iff.mpr hlive), if_pos hin, List.filter_cons_of_pos hin, ih,
      Array.toList_append, List.append_assoc]
    rfl
  | case4 current found hlive steps hout =>
    rw [listSectors_succ (Bool.eq_false_iff.mpr hlive), if_neg hout, List.filter_cons_of_neg hout]
    simp [entriesOf]

/-- No more sectors are looked at than there are steps. -/
theorem length_listSectors_le (m : Medium) (steps current : Nat) :
    (listSectors m steps current).length ≤ steps := by
  fun_induction listSectors m steps current with
  | case1 steps current hend => exact Nat.zero_le _
  | case2 current hlive => exact Nat.le_refl _
  | case3 current hlive steps ih =>
    rw [List.length_cons]
    refine Nat.succ_le_succ ?_
    split
    · exact ih
    · exact Nat.zero_le _

/-- Files that agree on the sectors looked at have the same list. -/
theorem follow_congr (hin : ∀ s ∈ listSectors m steps current, m'.hasSector s = m.hasSector s)
    (hsame : ∀ s ∈ listSectors m steps current, m.hasSector s = true → m'.sector s = m.sector s)
    (found : Array Nat) : follow m' steps current found = follow m steps current found := by
  fun_induction follow m steps current found with
  | case1 steps current found hend => exact follow_sentinel _ hend found
  | case2 current found hlive =>
    unfold follow
    rw [if_neg hlive]
  | case3 current found hlive steps hhas sector ih =>
    -- the same entries, and the same link to the next list sector
    have hlive := Bool.eq_false_iff.mpr hlive
    rw [listSectors_succ hlive, if_pos hhas, List.forall_mem_cons] at hin hsame
    rw [follow_succ hlive (hin.1.trans hhas), hsame.1 hhas]
    exact ih hin.2 hsame.2
  | case4 current found hlive steps hhas =>
    rw [listSectors_succ (Bool.eq_false_iff.mpr hlive), List.forall_mem_cons] at hin
    unfold follow
    rw [if_neg hlive]
    simp only [hin.1, hhas, if_false, Bool.false_eq_true]

/-- What was listed comes first, whatever the reader finds further on. -/
theorem prefix_follow (m : Medium) (steps current : Nat) (found : Array Nat) :
    found.toList <+: (follow m steps current found).value.toList := by
  rw [toList_follow]
  exact List.prefix_append _ _

/-- A list sector has an entry in every word but the last. -/
theorem size_listEntries_le (m : Medium) (n : Nat) :
    (listEntries (m.sector n)).size ≤ m.sectorSize / 4 - 1 := by
  refine Nat.le_trans Array.size_filter_le ?_
  rw [Array.size_pop, Bytes.size_words, Medium.size_sector]
  exact Nat.sub_le_sub_right (Nat.div_le_div_right (Nat.min_le_left ..)) 1

/-- The reader gives up, so the list does not grow without end. -/
theorem size_follow_le (m : Medium) (steps current : Nat) (found : Array Nat) :
    (follow m steps current found).value.size ≤ found.size + steps * (m.sectorSize / 4 - 1) := by
  -- each step adds the entries of one sector at most
  induction steps generalizing current found with
  | zero =>
    unfold follow
    split
    · exact Nat.le_add_right ..
    · exact Nat.le_add_right ..
  | succ steps ih =>
    unfold follow
    split
    · exact Nat.le_add_right ..
    · dsimp only
      split
      · have hle := size_listEntries_le m current
        have h := ih (nextList (m.sector current)) (found ++ listEntries (m.sector current))
        rw [Array.size_append] at h
        rw [Nat.succ_mul]
        omega
      · exact Nat.le_add_right ..

theorem size_collect_le (m : Medium) (slots : List Nat) (start : Nat) :
    (collect m slots start).value.size ≤ slots.length + listLimit * (m.sectorSize / 4 - 1) := by
  refine Nat.le_trans (size_follow_le m listLimit start _) (Nat.add_le_add_right ?_ _)
  rw [List.size_toArray, headEntries]
  exact (List.takeWhile_sublist _).length_le

end Allocation

/-! ### Another link at the end of a sector -/

namespace Medium

variable {m : Medium} {s n link : Nat}

/-- The file with `link` as the last word of a sector. -/
def relink (m : Medium) (s link : Nat) : ByteArray :=
  Bytes.overwrite m.bytes (m.offset s + (m.sectorSize - 4)) (Bytes.little 4 link)

/-- The changed file, cut into sectors as before. -/
def relinked (m : Medium) (s link : Nat) : Medium := ⟨m.relink s link, m.sectorSize⟩

theorem room_relink (hwords : 4 ≤ m.sectorSize) (hin : m.hasSector s = true) (link : Nat) :
    m.offset s + (m.sectorSize - 4) + (Bytes.little 4 link).length ≤ m.bytes.size := by
  rw [hasSector, decide_eq_true_eq] at hin
  rw [Bytes.length_little]
  omega

theorem size_relink (hwords : 4 ≤ m.sectorSize) (hin : m.hasSector s = true) :
    (m.relink s link).size = m.bytes.size :=
  Bytes.size_overwrite (room_relink hwords hin link)

theorem hasSector_relinked (hwords : 4 ≤ m.sectorSize) (hin : m.hasSector s = true) (n : Nat) :
    (m.relinked s link).hasSector n = m.hasSector n := by
  have hsize : (m.relinked s link).bytes.size = m.bytes.size := size_relink hwords hin
  rw [hasSector, hsize]
  rfl

theorem size_sector_relinked (hwords : 4 ≤ m.sectorSize) (hin : m.hasSector s = true) (n : Nat) :
    ((m.relinked s link).sector n).size = (m.sector n).size := by
  have hsize : (m.relinked s link).bytes.size = m.bytes.size := size_relink hwords hin
  rw [size_sector, size_sector, hsize]
  rfl

/-- Nothing in front of the last word changes, the header in particular. -/
theorem slice_relink {start length : Nat} (hwords : 4 ≤ m.sectorSize) (hin : m.hasSector s = true)
    (hle : start + length ≤ m.offset s + (m.sectorSize - 4)) :
    Bytes.slice (m.relink s link) start length = Bytes.slice m.bytes start length :=
  Bytes.slice_overwrite_before (room_relink hwords hin link) hle

/-- All other sectors stay as they are. -/
theorem sector_relinked (hwords : 4 ≤ m.sectorSize) (hin : m.hasSector s = true) (hne : n ≠ s) :
    (m.relinked s link).sector n = m.sector n := by
  -- both neighbours of the changed word are whole sectors, so what lies in front ends in time, and
  -- what lies behind begins behind it
  rcases Nat.lt_or_gt_of_ne hne with hlt | hgt
  · refine slice_relink hwords hin ?_
    have hle : (n + 2) * m.sectorSize ≤ (s + 1) * m.sectorSize :=
      Nat.mul_le_mul_right _ (Nat.succ_le_succ hlt)
    rw [Nat.succ_mul] at hle
    exact Nat.le_trans hle (Nat.le_add_right ..)
  · refine Bytes.slice_overwrite_behind (room_relink hwords hin link) ?_
    have hle : (s + 2) * m.sectorSize ≤ (n + 1) * m.sectorSize :=
      Nat.mul_le_mul_right _ (Nat.succ_le_succ hgt)
    rw [Nat.succ_mul] at hle
    rw [Bytes.length_little, offset, Nat.add_assoc, Nat.sub_add_cancel hwords]
    exact hle

end Medium

namespace Allocation

variable {m : Medium} {s link : Nat}

/-- The last word of the sector is the new link. -/
theorem nextList_relinked (hwords : 4 ≤ m.sectorSize) (hin : m.hasSector s = true) :
    nextList ((m.relinked s link).sector s) = link % 2 ^ 32 := by
  have hsize : ((m.relinked s link).sector s).size = m.sectorSize := by
    rw [Medium.size_sector_relinked hwords hin]
    exact (m.size_sector_eq_iff s (by omega)).mpr hin
  -- the last word of the sector is just what was put there
  have hword : Bytes.slice ((m.relinked s link).bytes) (m.offset s + (m.sectorSize - 4)) 4 =
      Bytes.ofList (Bytes.little 4 link) := by
    have h := Bytes.slice_overwrite_self (Medium.room_relink hwords hin link)
    rwa [Bytes.length_little] at h
  have hnumber : Bytes.number (Bytes.slice ((m.relinked s link).bytes)
      (m.offset s + (m.sectorSize - 4)) 4) 0 4 =
        Bytes.number (m.relinked s link).bytes (m.offset s + (m.sectorSize - 4)) 4 :=
    Bytes.number_slice _ (Nat.le_refl 4)
  rw [nextList, hsize, Medium.sector]
  change Bytes.number (Bytes.slice _ (m.offset s) m.sectorSize) _ _ = _
  rw [Bytes.number_slice _ (by omega), ← hnumber, hword, ← List.append_nil (Bytes.little 4 link),
    Bytes.number_ofList_here]
  rfl

/-- Its other words are the same. -/
theorem listEntries_relinked (hwords : 4 ∣ m.sectorSize) (hpos : 0 < m.sectorSize)
    (hin : m.hasSector s = true) :
    listEntries ((m.relinked s link).sector s) = listEntries (m.sector s) := by
  have hle : 4 ≤ m.sectorSize := Nat.le_of_dvd hpos hwords
  have hsize : ((m.relinked s link).sector s).size = (m.sector s).size :=
    Medium.size_sector_relinked hle hin s
  -- the other words stand in front of it
  have hfront : Bytes.slice (m.relink s link) (m.offset s) (m.sectorSize - 4) =
      Bytes.slice m.bytes (m.offset s) (m.sectorSize - 4) :=
    Medium.slice_relink hle hin (Nat.le_refl _)
  have hwordsEq :
      (Bytes.words ((m.relinked s link).sector s)).pop = (Bytes.words (m.sector s)).pop := by
    apply Array.ext
    · rw [Array.size_pop, Array.size_pop, Bytes.size_words, Bytes.size_words, hsize]
    · intro i hi hi'
      rw [Array.size_pop, Bytes.size_words, (m.size_sector_eq_iff s hpos).mpr hin] at hi'
      rw [Array.getElem_pop, Array.getElem_pop, Bytes.getElem_words, Bytes.getElem_words]
      change Bytes.number (Bytes.slice (m.relink s link) (m.offset s) m.sectorSize) _ _ =
        Bytes.number (Bytes.slice m.bytes (m.offset s) m.sectorSize) _ _
      rw [Bytes.number_slice _ (by omega), Bytes.number_slice _ (by omega)]
      exact Bytes.number_eq_of_slice_eq hfront (by omega)
  rw [listEntries, listEntries, hwordsEq]

variable {sectors sectors' : Array Nat} {current last : Nat} {front : List Nat}

theorem entriesOf_relinked (hwords : 4 ∣ m.sectorSize) (hpos : 0 < m.sectorSize)
    (hin : m.hasSector s = true) (sectors : List Nat) :
    entriesOf (m.relinked s link) sectors = entriesOf m sectors := by
  refine List.flatMap_congr fun n _ => ?_
  by_cases hne : n = s
  · rw [hne, listEntries_relinked hwords hpos hin]
  · rw [Medium.sector_relinked (Nat.le_of_dvd hpos hwords) hin hne]

/-- The chain is the same up to the changed sector, and then it leads somewhere else. -/
theorem listPath_relinked (hwords : 4 ≤ m.sectorSize) (hin : m.hasSector s = true) (link : Nat)
    (h : ListPath m current (front ++ [s]) last) (hs : s ∉ front) :
    ListPath (m.relinked s link) current (front ++ [s]) (link % 2 ^ 32) := by
  -- along the part in front of `s`, where every sector has its old link
  induction front generalizing current with
  | nil =>
    -- this is the changed sector: its own place in the chain does not depend on its link
    obtain ⟨hcurrent, hlive, -⟩ := h
    exact ⟨hcurrent, hlive, (Medium.hasSector_relinked hwords hin s).trans hin,
      nextList_relinked hwords hin⟩
  | cons n front ih =>
    obtain ⟨hcurrent, hlive, hn, hrest⟩ := h
    rw [List.mem_cons, not_or] at hs
    refine ⟨hcurrent, hlive, (Medium.hasSector_relinked hwords hin n).trans hn, ?_⟩
    rw [Medium.sector_relinked hwords hin (Ne.symm hs.1)]
    exact ih hrest hs.2

/-- The whole list, when the chain ends before the reader gives up. -/
theorem collect_path {start : Nat} {sectors : List Nat} (h : ListPath m start sectors last)
    (hlast : isSentinel last = true) (hlimit : sectors.length ≤ listLimit) (slots : List Nat) :
    collect m slots start = pure ((headEntries slots).toArray ++ (entriesOf m sectors).toArray) := by
  obtain ⟨more, hmore⟩ := Nat.exists_eq_add_of_le hlimit
  rw [collect, hmore, follow_path h, follow_sentinel m hlast]

/-- What was listed before is listed first. -/
theorem collect_relinked (hwords : 4 ∣ m.sectorSize) (hpos : 0 < m.sectorSize) {start : Nat}
    (h : ListPath m start (front ++ [s]) last) (hlast : isSentinel last = true) (hs : s ∉ front)
    (hlimit : (front ++ [s]).length ≤ listLimit) (slots : List Nat) (link : Nat) :
    (collect m slots start).value.toList <+:
      (collect (m.relinked s link) slots start).value.toList := by
  have hin := h.hasSector_of_mem s (List.mem_append_right _ (List.mem_singleton.mpr rfl))
  have h' := listPath_relinked (Nat.le_of_dvd hpos hwords) hin link h hs
  -- behind `s` the one reader has finished and the other one still has `more` steps
  obtain ⟨more, hmore⟩ := Nat.exists_eq_add_of_le hlimit
  rw [collect_path h hlast hlimit, collect, hmore, follow_path h',
    entriesOf_relinked hwords hpos hin]
  exact prefix_follow ..

/-- The links of sectors that were listed before, and are not the changed one, come first. -/
theorem load_relinked (hwords : 4 ≤ m.sectorSize) (hin : m.hasSector s = true)
    (h : sectors.toList <+: sectors'.toList) (hs : s ∉ sectors) (link : Nat) :
    (load m sectors).value.toList <+: (load (m.relinked s link) sectors').value.toList := by
  -- the longer list begins with the old one, and no sector of that is the changed one
  obtain ⟨more, hmore⟩ := h
  have hfilter : sectors.toList.filter ((m.relinked s link).hasSector ·) =
      sectors.toList.filter (m.hasSector ·) :=
    List.filter_congr fun n _ => Medium.hasSector_relinked hwords hin n
  have hsectors : (sectors.toList.filter (m.hasSector ·)).flatMap
        (fun n => (Bytes.words ((m.relinked s link).sector n)).toList) =
      (sectors.toList.filter (m.hasSector ·)).flatMap
        fun n => (Bytes.words (m.sector n)).toList := by
    refine List.flatMap_congr fun n hn => ?_
    have hne : n ≠ s := by
      rintro rfl
      exact hs (Array.mem_toList_iff.mp (List.mem_filter.mp hn).1)
    rw [Medium.sector_relinked hwords hin hne]
  rw [toList_load, toList_load, ← hmore, List.filter_append, List.flatMap_append, hfilter, hsectors]
  exact List.prefix_append _ _

end Allocation

/-! ### Streams of the changed file -/

namespace Volume

variable {v v' : Volume} {s link start size : Nat}

/-- A volume on the changed file, with a table that begins with the old one. -/
structure Damaged (v : Volume) (s link : Nat) (v' : Volume) : Prop where
  medium : v'.toMedium = v.toMedium.relinked s link
  table : v.table.toList <+: v'.table.toList
  words : 4 ≤ v.sectorSize
  inside : v.hasSector s = true

theorem Damaged.supply_eq (h : v.Damaged s link v') :
    (fun n => (v'.payload .regular n).size) = fun n => (v.payload .regular n).size := by
  funext n
  change (v'.toMedium.sector n).size = (v.toMedium.sector n).size
  rw [h.medium, Medium.size_sector_relinked h.words h.inside]

theorem Damaged.stepLimit_eq (h : v.Damaged s link v') (size : Nat) :
    v'.stepLimit .regular size = v.stepLimit .regular size := by
  have hunit : v'.unit .regular = v.unit .regular := by
    change v'.toMedium.sectorSize = v.toMedium.sectorSize
    rw [h.medium]
    rfl
  rw [stepLimit, stepLimit, hunit]

theorem Damaged.walk_eq (h : v.Damaged s link v')
    (hstop : ∀ out, (v.walk .regular start size).stop ≠ .outside out) :
    v'.walk .regular start size = v.walk .regular start size := by
  rw [walk, walk, h.supply_eq, h.stepLimit_eq]
  exact Chain.walkFrom_of_prefix h.table #[] hstop

/-- A stream that does not leave the old table or come through the changed sector stays as it was. -/
theorem Damaged.materialize_eq (h : v.Damaged s link v')
    (hstop : ∀ out, (v.walk .regular start size).stop ≠ .outside out)
    (hs : s ∉ (v.walk .regular start size).sectors) :
    v'.materialize .regular start size = v.materialize .regular start size := by
  -- the bytes come from sectors that are not `s`
  have hgather : v'.gather .regular (v.walk .regular start size).sectors =
      v.gather .regular (v.walk .regular start size).sectors := by
    refine gather_congr fun n hn => ?_
    have hne : n ≠ s := by
      rintro rfl
      exact hs hn
    change v'.toMedium.sector n = v.toMedium.sector n
    rw [h.medium, Medium.sector_relinked h.words h.inside hne]
  -- the walk has stopped for a reason that does not depend on the table's length
  have hnotices : v'.stopNotices .regular start size (v.walk .regular start size).stop =
      v.stopNotices .regular start size (v.walk .regular start size).stop := by
    cases hwalk : (v.walk .regular start size).stop with
    | sentinel | enough => rfl
    | outside out => exact absurd hwalk (hstop out)
    | cut => rw [stopNotices, stopNotices, h.stepLimit_eq]
  rw [materialize, materialize, h.walk_eq hstop, hgather, hnotices]

/-- A stream of unknown size is at least as long as before. -/
theorem Damaged.size_materialize_le (h : v.Damaged s link v') (start : Nat) :
    (v.materialize .regular start 0).value.size ≤ (v'.materialize .regular start 0).value.size := by
  have hlonger : (v.walk .regular start 0).sectors.toList <+:
      (v'.walk .regular start 0).sectors.toList := by
    rw [walk, walk, h.supply_eq, h.stepLimit_eq]
    exact Chain.sectors_walkFrom_prefix h.table #[]
  rw [materialize, materialize]
  simp only [if_true]
  rw [size_gather, size_gather, h.supply_eq]
  exact ((hlonger.sublist.map _).sum_le_sum fun _ _ => Nat.zero_le _)

end Volume

/-! ### Opening the changed file -/

namespace Container

variable {b b' : ByteArray} {c : Container} {s last link : Nat} {front : List Nat}

theorem four_dvd_sectorSize (hb : isCompoundFile b = true) : 4 ∣ (medium b).sectorSize :=
  (Header.hasUsualSectors_read hb).four_dvd

/-- The header is in front of the first sector, so it is read as before. -/
theorem header_relink (hb : isCompoundFile b = true) (hin : (medium b).hasSector s = true)
    (link : Nat) :
    isCompoundFile ((medium b).relink s link) = true ∧
      Header.read ((medium b).relink s link) = Header.read b := by
  have hfour := four_le_sectorSize hb
  have hlarge : Header.size ≤ (medium b).sectorSize := (Header.hasUsualSectors_read hb).1
  have hslice : Bytes.slice ((medium b).relink s link) 0 Header.size =
      Bytes.slice b 0 Header.size := by
    refine Medium.slice_relink hfour hin ?_
    rw [Medium.offset, Nat.succ_mul]
    omega
  have hsize : ((medium b).relink s link).size = b.size := Medium.size_relink hfour hin
  exact ⟨(isCompoundFile_eq_of_slice_eq hsize hslice).trans hb, Header.read_eq_of_slice_eq hslice⟩

theorem medium_relink (hb : isCompoundFile b = true) (hin : (medium b).hasSector s = true)
    (link : Nat) : medium ((medium b).relink s link) = (medium b).relinked s link := by
  rw [medium, (header_relink hb hin link).2]
  rfl

/-- A list of sectors that can be followed up to a sentinel, with `s` as the last list sector. -/
structure Listing (b : ByteArray) (front : List Nat) (s last : Nat) : Prop where
  accepted : isCompoundFile b = true
  path : Allocation.ListPath (medium b) (Header.read b).listStart (front ++ [s]) last
  sentinel : isSentinel last = true
  nodup : (front ++ [s]).Nodup
  length_le : (front ++ [s]).length ≤ Allocation.listLimit
  not_listed : s ∉ listedSectors b

theorem Listing.hasSector (h : Listing b front s last) : (medium b).hasSector s = true :=
  h.path.hasSector_of_mem s (List.mem_append_right _ (List.mem_singleton.mpr rfl))

theorem Listing.listedSectors_prefix (h : Listing b front s last) (link : Nat) :
    (listedSectors b).toList <+: (listedSectors ((medium b).relink s link)).toList := by
  -- `s` stands at the end of a path without repetition, so it is not in front of itself
  have hs : s ∉ front := by
    have hnodup := h.nodup
    rw [List.nodup_append] at hnodup
    exact fun hmem => hnodup.2.2 s hmem s (List.mem_singleton.mpr rfl) rfl
  have hpos : 0 < (medium b).sectorSize := by
    have := four_le_sectorSize h.accepted
    omega
  rw [listedSectors, listedSectors, medium_relink h.accepted h.hasSector,
    (header_relink h.accepted h.hasSector link).2]
  exact Allocation.collect_relinked (four_dvd_sectorSize h.accepted) hpos h.path h.sentinel hs
    h.length_le _ link

theorem Listing.damaged (h : Listing b front s last) {v v' : Volume}
    (hv : v.toMedium = medium b) (hv' : v'.toMedium = medium ((medium b).relink s link))
    (ht : v.table = links b) (ht' : v'.table = links ((medium b).relink s link)) :
    v.Damaged s link v' := by
  have hfour := four_le_sectorSize h.accepted
  refine ⟨?_, ?_, ?_, ?_⟩
  · rw [hv', hv, medium_relink h.accepted h.hasSector]
  · rw [ht, ht', links, links, medium_relink h.accepted h.hasSector]
    exact Allocation.load_relinked hfour h.hasSector (h.listedSectors_prefix link) h.not_listed link
  · rw [hv]
    exact hfour
  · rw [hv]
    exact h.hasSector

/-- The volume on which the directory is read. -/
def ownVolume (b : ByteArray) : Volume := bareVolume b (Header.read b) (links b)

theorem medium_ownVolume (b : ByteArray) : (ownVolume b).toMedium = medium b := by
  rw [ownVolume, bareVolume, medium]

theorem table_ownVolume (b : ByteArray) : (ownVolume b).table = links b := by
  rw [ownVolume, bareVolume]

theorem directoryBytes_eq (b : ByteArray) : directoryBytes b =
    ((ownVolume b).materialize .regular (Header.read b).directoryStart 0).value := by
  rw [directoryBytes, ownVolume]

/-- The directory is not shorter than before. -/
theorem Listing.size_directoryBytes_le (h : Listing b front s last) (link : Nat) :
    (directoryBytes b).size ≤ (directoryBytes ((medium b).relink s link)).size := by
  -- the directory is read with the table alone, before there is any other part of the volume
  have hdamaged : (ownVolume b).Damaged s link (ownVolume ((medium b).relink s link)) :=
    h.damaged (medium_ownVolume _) (medium_ownVolume _) (table_ownVolume _) (table_ownVolume _)
  rw [directoryBytes_eq, directoryBytes_eq, (header_relink h.accepted h.hasSector link).2]
  exact hdamaged.size_materialize_le _

/-- A file that lists at least the same sectors and has at least as much of a directory can be
opened as well. -/
theorem exists_load_of_prefix (hload : ∃ c, (load b).outcome.value = .ok c)
    (hb' : isCompoundFile b' = true)
    (hsectors : (listedSectors b).toList <+: (listedSectors b').toList)
    (hin : ∀ n, (medium b').hasSector n = (medium b).hasSector n)
    (hdirectory : (directoryBytes b).size ≤ (directoryBytes b').size) :
    ∃ c', (load b').outcome.value = .ok c' := by
  -- by the verdict on `b`, a listed sector is there, and the directory has room for a record
  obtain ⟨-, ⟨n, hn, hhas⟩, hroom⟩ := (verdict_load b).opened_iff.mp hload
  refine (verdict_load b').opened_iff.mpr ⟨hb', ⟨n, ?_, ?_⟩, Nat.le_trans hroom hdirectory⟩
  · exact Array.mem_toList_iff.mp (hsectors.subset (Array.mem_toList_iff.mpr hn))
  · rw [hin, hhas]

theorem Listing.size_listedSectors_le (h : Listing b front s last) (link : Nat) :
    (listedSectors ((medium b).relink s link)).size ≤
      Header.slotCount + Allocation.listLimit * ((medium b).sectorSize / 4 - 1) := by
  have hslots : (Header.read b).slots.length = Header.slotCount := by
    rw [Header.read, List.length_map, List.length_range]
  rw [listedSectors, medium_relink h.accepted h.hasSector,
    (header_relink h.accepted h.hasSector link).2, ← hslots]
  exact Allocation.size_collect_le _ _ _

theorem Opened.table_eq (h : c.Opened b) : c.volume.table = links b := by
  rw [h.table, h.medium_eq, h.tableSectors_eq, links]

/-- **Damage at the end of the list does no harm.** Let the chain of list sectors of an open file
lead through different sectors, all of them inside the file and no more than are followed, up to a
sentinel, and let the last of them, `s`, not be listed itself. Whatever is put in the place of the
sentinel,

* the file can still be opened, and the list does not grow without end;
* the sectors that were listed are listed first, and the links that were known come first in the
  table;
* every chain that stays in the old table and does not come through `s` gives the same bytes and the
  same notices. -/
theorem load_relink (b : ByteArray) (c : Container) (hload : (load b).outcome.value = .ok c)
    (front : List Nat) (s last : Nat)
    (hpath : Allocation.ListPath c.volume.toMedium c.header.listStart (front ++ [s]) last)
    (hlast : isSentinel last = true) (hnodup : (front ++ [s]).Nodup)
    (hlimit : (front ++ [s]).length ≤ Allocation.listLimit) (hlisted : s ∉ c.tableSectors)
    (link : Nat) :
    ∃ c', (load (c.volume.relink s link)).outcome.value = .ok c' ∧
      c'.tableSectors.size ≤
        Header.slotCount + Allocation.listLimit * (c.volume.sectorSize / 4 - 1) ∧
      c.tableSectors.toList <+: c'.tableSectors.toList ∧
      c.volume.table.toList <+: c'.volume.table.toList ∧
      ∀ start size,
        (∀ out count, Notice.linkOutside out .regular count ∉
          (c.volume.materialize .regular start size).notices) →
        s ∉ (c.volume.walk .regular start size).sectors →
        c'.volume.materialize .regular start size = c.volume.materialize .regular start size := by
  have hopen := opened_of_load hload
  have hmedium := hopen.medium_eq
  rw [hmedium, hopen.header] at hpath
  rw [hopen.tableSectors_eq] at hlisted
  have h : Listing b front s last := ⟨hopen.accepted, hpath, hlast, hnodup, hlimit, hlisted⟩
  -- nothing that an open file needs has got lost
  have hopened : ∃ c', (load ((medium b).relink s link)).outcome.value = .ok c' :=
    exists_load_of_prefix ⟨c, hload⟩ (header_relink h.accepted h.hasSector link).1
      (h.listedSectors_prefix link)
      (fun n => by rw [medium_relink h.accepted h.hasSector,
        Medium.hasSector_relinked (four_le_sectorSize h.accepted) h.hasSector])
      (h.size_directoryBytes_le link)
  obtain ⟨c', hload'⟩ := hopened
  have hopen' := opened_of_load hload'
  have hdamaged : c.volume.Damaged s link c'.volume :=
    h.damaged hmedium hopen'.medium_eq hopen.table_eq hopen'.table_eq
  rw [hmedium]
  refine ⟨c', hload', ?_, ?_, hdamaged.table, fun start size hnotices hs => ?_⟩
  · rw [hopen'.tableSectors_eq]
    exact h.size_listedSectors_le link
  · rw [hopen.tableSectors_eq, hopen'.tableSectors_eq]
    exact h.listedSectors_prefix link
  · refine hdamaged.materialize_eq (fun out hout => ?_) hs
    -- a walk that left the table would have been reported
    refine hnotices out (c.volume.links .regular).size ?_
    rw [Volume.materialize]
    simp only [hout]
    exact List.mem_singleton.mpr rfl

/-! A small file whose only table sector is listed by a list sector. -/

/-- The links of the three sectors: sector 0 holds them, sector 1 lists it, and sector 2 is the
directory. -/
def scrapLinks : List Nat := [0xFFFFFFFD, 0xFFFFFFFC, endOfChain] ++ List.replicate 125 freeSector

/-- One entry, and no other list sector behind this one. -/
def scrapEntries : List Nat := 0 :: List.replicate 126 freeSector ++ [endOfChain]

def scrapHeader : List UInt8 :=
  Header.signatureBytes.map UInt8.ofNat ++ List.replicate 20 0 ++
    -- byte order, sector sizes and the places of all parts
    Bytes.little 2 Header.usualByteOrder ++ Bytes.little 2 9 ++ Bytes.little 2 6 ++
    List.replicate 10 0 ++ Image.words [1, 2, 0, 4096, endOfChain, 0, 1, 1] ++
    Image.words (List.replicate Header.slotCount freeSector)

/-- The directory is one empty record. -/
def listScrap : ByteArray :=
  Bytes.ofList (scrapHeader ++ Image.words scrapLinks ++ Image.words scrapEntries ++
    List.replicate Record.length 0)

/-- What the header says. -/
theorem read_listScrap :
    isCompoundFile listScrap = true ∧ (medium listScrap).sectorSize = 512 ∧
      (Header.read listScrap).directoryStart = 2 ∧ (Header.read listScrap).listStart = 1 ∧
      Allocation.headEntries (Header.read listScrap).slots = [] := by
  refine ⟨?_, ?_, ?_, ?_, ?_⟩ <;> decide +kernel

theorem sectorSize_listScrap : (medium listScrap).sectorSize = 512 := read_listScrap.2.1

theorem length_scrapHeader : scrapHeader.length = 512 := by
  simp [scrapHeader, Header.signatureBytes, Header.slotCount, Image.length_words]

theorem length_scrapLinks : scrapLinks.length = 128 := by simp [scrapLinks]

theorem length_scrapEntries : scrapEntries.length = 128 := by simp [scrapEntries]

theorem length_listScrap : listScrap.size = 1664 := by
  simp [listScrap, length_scrapHeader, Image.length_words, length_scrapLinks, length_scrapEntries,
    Record.length]

theorem size_listScrap : (medium listScrap).bytes.size = 1664 := length_listScrap

theorem hasSector_listScrap {n : Nat} (hn : n ≤ 1) : (medium listScrap).hasSector n = true := by
  rw [Medium.hasSector, Medium.offset, sectorSize_listScrap, size_listScrap]
  exact decide_eq_true (by omega)

theorem stores_listScrap :
    (medium listScrap).Stores 0 (Image.words scrapLinks) ∧
      (medium listScrap).sector 1 = Bytes.ofList (Image.words scrapEntries) := by
  -- the two sectors stand behind the header one after the other
  have hstores :
      (medium listScrap).Stores 0 (Image.words scrapLinks ++ Image.words scrapEntries) := by
    refine ⟨scrapHeader, List.replicate Record.length 0, ?_, ?_⟩
    · change (Bytes.ofList _).data.toList = _
      rw [Bytes.toList_ofList]
      simp only [List.append_assoc]
    · rw [sectorSize_listScrap, length_scrapHeader]
  have hlinks : (Image.words scrapLinks).length = 1 * (medium listScrap).sectorSize := by
    rw [Image.length_words, sectorSize_listScrap, length_scrapLinks]
  refine ⟨hstores.left, (hstores.right 1 hlinks).sector_eq ?_⟩
  rw [Image.length_words, sectorSize_listScrap, length_scrapEntries]

theorem listPath_listScrap :
    Allocation.ListPath (medium listScrap) (Header.read listScrap).listStart ([] ++ [1])
      endOfChain := by
  obtain ⟨-, -, -, hstart, -⟩ := read_listScrap
  rw [hstart]
  refine ⟨rfl, rfl, hasSector_listScrap (Nat.le_refl 1), ?_⟩
  have hlength : (0 :: List.replicate 126 freeSector).length = 127 := by simp
  have hlast : scrapEntries[127]? = some endOfChain := hlength ▸ List.getElem?_concat_length
  have h := Image.number_words hlast []
  rw [List.append_nil] at h
  rw [Allocation.ListPath, stores_listScrap.2, Allocation.nextList, Bytes.size_ofList,
    Image.length_words, length_scrapEntries]
  exact h

theorem listedSectors_listScrap : listedSectors listScrap = #[0] := by
  obtain ⟨-, -, -, -, hslots⟩ := read_listScrap
  have hwords : Bytes.words ((medium listScrap).sector 1) = scrapEntries.toArray := by
    rw [stores_listScrap.2, Image.words_ofList_words]
    simp [scrapEntries, freeSector, endOfChain]
  -- all entries but the first are marks for free sectors
  have hfree : (List.replicate 126 freeSector).filter (! isSentinel ·) = [] := by
    refine List.filter_eq_nil_iff.mpr fun n hn => ?_
    rw [List.eq_of_mem_replicate hn]
    decide
  have hentries : Allocation.listEntries ((medium listScrap).sector 1) = #[0] := by
    rw [Allocation.listEntries, hwords, scrapEntries, List.pop_toArray, List.dropLast_concat,
      List.filter_toArray, List.filter_cons_of_pos (by decide), hfree]
  have hend : isSentinel endOfChain = true := by decide
  have hcollect := Allocation.collect_path listPath_listScrap hend (by decide)
    (Header.read listScrap).slots
  rw [listedSectors, hcollect, hslots]
  change #[] ++ (Allocation.entriesOf (medium listScrap) ([] ++ [1])).toArray = #[0]
  simp [Allocation.entriesOf, hentries]

theorem links_listScrap : links listScrap = scrapLinks.toArray := by
  have hlength : scrapLinks.length = 1 * 128 := length_scrapLinks
  have hlt : ∀ n ∈ scrapLinks, n < 2 ^ 32 := by simp [scrapLinks, freeSector, endOfChain]
  have h := Allocation.load_of_stores (by rw [sectorSize_listScrap]) stores_listScrap.1 hlength hlt
  rw [links, listedSectors_listScrap]
  exact congrArg Noted.value h

/-- The chain of the directory's sector ends there. -/
theorem getElem?_links_listScrap : (links listScrap)[2]? = some endOfChain := by
  rw [links_listScrap, List.getElem?_toArray]
  simp [scrapLinks]

theorem exists_load_listScrap : ∃ c, (load listScrap).outcome.value = .ok c := by
  obtain ⟨hb, -, hstart, -⟩ := read_listScrap
  have hlisted : 0 ∈ listedSectors listScrap := by simp [listedSectors_listScrap]
  refine exists_load_of_sector hb ⟨0, hlisted, hasSector_listScrap (Nat.zero_le 1)⟩ ?_ ?_ ?_
  · rw [hstart]
    decide
  · rw [hstart, getElem?_links_listScrap]
  · rw [hstart, Medium.size_sector, Medium.offset, sectorSize_listScrap, size_listScrap]
    decide

/-- The list sector can lead back to itself, and the directory is read as before. -/
theorem load_relink_listScrap :
    ∃ c, (load listScrap).outcome.value = .ok c ∧
      Allocation.ListPath c.volume.toMedium c.header.listStart ([] ++ [1]) endOfChain ∧
      1 ∉ c.tableSectors ∧ 1 ∉ (c.volume.walk .regular 2 0).sectors ∧
      ∃ c', (load (c.volume.relink 1 1)).outcome.value = .ok c' ∧
        c.tableSectors.toList <+: c'.tableSectors.toList ∧
        c.volume.table.toList <+: c'.volume.table.toList ∧
        c'.volume.materialize .regular 2 0 = c.volume.materialize .regular 2 0 := by
  obtain ⟨c, hload⟩ := exists_load_listScrap
  have hopen := opened_of_load hload
  have hpath : Allocation.ListPath c.volume.toMedium c.header.listStart ([] ++ [1]) endOfChain := by
    rw [hopen.medium_eq, hopen.header]
    exact listPath_listScrap
  have hlisted : 1 ∉ c.tableSectors := by
    rw [hopen.tableSectors_eq, listedSectors_listScrap]
    simp
  -- sector 2 is the last of its chain, so its walk never comes near the changed sector
  have hlink : (c.volume.links .regular)[2]? = some endOfChain := by
    rw [Volume.links, hopen.table_eq, getElem?_links_listScrap]
  have hwalk : c.volume.walk .regular 2 0 = ⟨#[2], .sentinel⟩ :=
    Chain.walk_eq_of_sentinel (c := [2]) ⟨rfl, rfl, endOfChain, hlink, rfl⟩ rfl (.inl rfl)
      (show 1 ≤ Volume.unboundedSteps by decide)
  have hsectors : 1 ∉ (c.volume.walk .regular 2 0).sectors := by
    rw [hwalk]
    simp
  obtain ⟨c', hload', -, hlonger, htable, hstreams⟩ := load_relink listScrap c hload [] 1 endOfChain
    hpath rfl (List.nodup_singleton 1) (by decide) hlisted 1
  refine ⟨c, hload, hpath, hlisted, hsectors, c', hload', hlonger, htable, ?_⟩
  refine hstreams 2 0 (fun out count => ?_) hsectors
  rw [Volume.materialize, hwalk]
  exact List.not_mem_nil

end Container

end InstallerPackage
