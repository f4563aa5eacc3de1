import InstallerPackage.Proofs.AllocationTable
import InstallerPackage.Proofs.DirectorySectors
import InstallerPackage.Proofs.Offsets
import InstallerPackage.Proofs.Packages
import InstallerPackage.Proofs.Runs

/-!
# Zones cover exactly their sectors

The zones of a kind are the runs of its sectors, put at the place that the sectors have in the file. As
runs are apart from each other and consist of the given sectors, so do zones: `Zone.Cover` collects what
that means for offsets, and `Zone.cover_merge` carries it over from the runs. No zone overlaps the
header's, since a sector is no smaller than the header is.

`Package.zones_cover` says which sectors those are, for every file that can be loaded.
-/

namespace InstallerPackage

namespace Medium

variable {m : Medium} {n offset : Nat}

/-- An offset lies in a sector. -/
def Within (m : Medium) (n offset : Nat) : Prop :=
  (n + 1) * m.sectorSize ≤ offset ∧ offset < (n + 2) * m.sectorSize

theorem Within.offsetToSector (h : m.Within n offset) (hsize : 512 ≤ m.sectorSize) :
    m.offsetToSector offset = n :=
  offsetToSector_within hsize (by exact_mod_cast h.1) (by exact_mod_cast h.2)

theorem within_iff (hpos : 0 < m.sectorSize) : m.Within n offset ↔ offset / m.sectorSize = n + 1 := by
  rw [Within, ← Nat.le_div_iff_mul_le hpos, ← Nat.div_lt_iff_lt_mul hpos]
  omega

end Medium

namespace Zone

/-- An offset lies in a zone. -/
def Contains (z : Zone) (offset : Nat) : Prop := z.offset ≤ offset ∧ offset < z.offset + z.size

/-- Zones of one kind that cover exactly the sectors with a property, in ascending order and with gaps
between them. -/
structure Cover (m : Medium) (kind : ZoneKind) (named : Nat → Prop) (zones : List Zone) : Prop where
  kind_eq : ∀ z ∈ zones, z.kind = kind
  apart : zones.Pairwise fun z z' => z.offset + z.size < z'.offset
  behind_header : ∀ z ∈ zones, header.offset + header.size ≤ z.offset
  covers : ∀ offset, (∃ z ∈ zones, z.Contains offset) ↔ ∃ s, named s ∧ m.Within s offset
  /-- Every zone begins with its first sector and ends with its last one, and all of its offsets lie in
  a named sector between them, whose number they are translated to. -/
  numbered : ∀ z ∈ zones, ∃ first last, first ≤ last ∧ z.sector = some first ∧
    z.offset = m.offset first ∧ z.offset + z.size = m.offset (last + 1) ∧
    ∀ offset, z.Contains offset →
      ∃ s, named s ∧ m.Within s offset ∧ m.offsetToSector offset = s ∧ first ≤ s ∧ s ≤ last

variable {m : Medium} {kind : ZoneKind} {r : Run} {offset : Nat}

/-- The zone of a run ends where the sector behind the run begins. -/
theorem end_ofRun (m : Medium) (kind : ZoneKind) (r : Run) :
    (ofRun m kind r).offset + (ofRun m kind r).size = m.offset (r.first + r.count) := by
  rw [ofRun, Medium.offset, Medium.offset, ← Nat.add_mul, Nat.add_right_comm]

/-- The zone of a run is made of the run's sectors. -/
theorem contains_ofRun_iff (hpos : 0 < m.sectorSize) :
    (ofRun m kind r).Contains offset ↔ ∃ s ∈ r.sectors, m.Within s offset := by
  have hbegin : (ofRun m kind r).offset = (r.first + 1) * m.sectorSize := rfl
  rw [Contains, end_ofRun, hbegin, Medium.offset, ← Nat.le_div_iff_mul_le hpos,
    ← Nat.div_lt_iff_lt_mul hpos]
  simp only [Run.mem_sectors_iff, Medium.within_iff hpos]
  constructor
  · intro h
    exact ⟨offset / m.sectorSize - 1, by omega, by omega⟩
  · rintro ⟨s, hs, heq⟩
    omega

/-- **The zones of some sectors cover exactly these.** -/
theorem cover_merge (hsize : 512 ≤ m.sectorSize) (kind : ZoneKind) (sectors : List Nat) :
    Cover m kind (· ∈ sectors) ((Run.merge sectors).map (ofRun m kind)) where
  -- a zone for every run, so what holds of the runs holds of the zones
  kind_eq := List.forall_mem_map.mpr fun _ _ => rfl
  apart := by
    rw [List.pairwise_map]
    -- a gap of one sector between the runs is one of a sector's bytes between the zones
    refine (Run.apart_merge sectors).gap.imp fun {r r'} hgap => ?_
    rw [end_ofRun]
    exact Nat.mul_lt_mul_of_pos_right (Nat.succ_lt_succ hgap) (by omega)
  behind_header := by
    refine List.forall_mem_map.mpr fun r _ => ?_
    -- sectors are counted from behind the header
    exact Nat.le_trans hsize (Nat.le_mul_of_pos_left _ (Nat.succ_pos _))
  covers := by
    have hpos : 0 < m.sectorSize := by omega
    -- an offset in a zone is in a sector of its run, and all of these are among the sectors
    refine fun offset => ⟨fun ⟨z, hz, hoffset⟩ => ?_, fun ⟨s, hs, hwithin⟩ => ?_⟩
    · obtain ⟨r, hr, rfl⟩ := List.mem_map.mp hz
      obtain ⟨s, hs, hwithin⟩ := (contains_ofRun_iff hpos).mp hoffset
      exact ⟨s, Run.mem_merge_iff.mp ⟨r, hr, hs⟩, hwithin⟩
    · obtain ⟨r, hr, hs⟩ := Run.mem_merge_iff.mpr hs
      exact ⟨_, List.mem_map_of_mem hr, (contains_ofRun_iff hpos).mpr ⟨s, hs, hwithin⟩⟩
  numbered := by
    have hpos : 0 < m.sectorSize := by omega
    refine List.forall_mem_map.mpr fun r hr => ?_
    have hcount := (Run.apart_merge sectors).count_pos r hr
    -- a run has a sector, so it has a last one
    refine ⟨r.first, r.first + r.count - 1, by omega, rfl, rfl, ?_, fun offset hoffset => ?_⟩
    · rw [end_ofRun]
      congr 1
      omega
    · obtain ⟨s, hs, hwithin⟩ := (contains_ofRun_iff hpos).mp hoffset
      have hbounds := Run.mem_sectors_iff.mp hs
      exact ⟨s, Run.mem_merge_iff.mp ⟨r, hr, hs⟩, hwithin, hwithin.offsetToSector hsize, by omega,
        by omega⟩

theorem Cover.congr {named named' : Nat → Prop} {zones : List Zone} (h : Cover m kind named zones)
    (hnamed : ∀ s, named s ↔ named' s) : Cover m kind named' zones := by
  rwa [← funext fun s => propext (hnamed s)]

end Zone

namespace Package

open Container

variable {b : ByteArray} {style : Manifest.Style} {p : Package}

/-- **The zones of a package cover exactly their sectors.** A package has the zone of the header, which
is 512 bytes long, then zones that cover the sectors of the allocation table that the header lists, and
then zones that cover the sectors that the directory's chain leads over. -/
theorem zones_cover (hload : (load b style).outcome.value = .ok p) :
    let v := p.container.volume
    let h := Header.read b
    ∃ tables directory, p.zones = ⟨0, 512, .header, none⟩ :: tables ++ directory ∧
      Zone.Cover v.toMedium .allocationTable (fun s => s ∈ h.slots ∧ s < firstReserved) tables ∧
      Zone.Cover v.toMedium .directory
        (fun s => ∃ c last, Chain.Leads v.table h.directoryStart c last ∧ s ∈ c) directory := by
  intro v h
  have hp := readFrom_of_load hload
  have hopen := opened_of_load hp.container
  have hheader : p.container.header = h := hopen.header
  have hsize : 512 ≤ v.sectorSize := by
    rw [hopen.sectorSize_eq]
    exact (Header.hasUsualSectors_read hopen.accepted).1
  refine ⟨_, _, hp.zones, ?_, ?_⟩
  · -- the runs are merged from the live slots and from the sectors of the walk
    refine (Zone.cover_merge hsize .allocationTable _).congr fun s => ?_
    rw [hheader, Zone.tableSectors, List.mem_filter, decide_eq_true_eq]
  · refine (Zone.cover_merge hsize .directory _).congr fun s => ?_
    rw [hheader]
    exact Zone.mem_directorySectors_iff

/-! A file whose header lists sectors of the allocation table twice and out of order. -/

/-- Sector 1 is the directory; it is listed as well, and so is a sector far behind the end. -/
def zoneScrap : ByteArray := scrap 6 [1, 0, 99, 0]

/-- What the header says, and what of it is there. -/
theorem read_zoneScrap :
    isCompoundFile zoneScrap = true ∧ listedSectors zoneScrap = #[1, 0, 99, 0] ∧
      (medium zoneScrap).hasSector 1 = false ∧ (medium zoneScrap).hasSector 0 = true ∧
      (medium zoneScrap).sectorSize = 512 ∧ (Header.read zoneScrap).directoryStart = 1 ∧
      Bytes.number zoneScrap 516 4 = endOfChain ∧ ((medium zoneScrap).sector 1).size = 128 ∧
      Bytes.number zoneScrap 76 4 = 1 := by
  refine ⟨?_, ?_, ?_, ?_, ?_, ?_, ?_, ?_, ?_⟩ <;> decide +kernel

theorem exists_load_zoneScrap :
    ∃ p, (load zoneScrap {}).outcome.value = .ok p ∧ p.container.volume.sectorSize = 512 ∧
      p.container.volume.table[1]? = some endOfChain := by
  obtain ⟨hb, hlisted, hout, hin, hsize, hstart, hlink, hroom, -⟩ := read_zoneScrap
  -- the one sector inside the file is the second of the list
  have hfirst : (listedSectors zoneScrap)[1]? = some 0 := by
    rw [hlisted]
    rfl
  have hmissing : ((listedSectors zoneScrap).toList.take 1).countP
      ((medium zoneScrap).hasSector ·) = 0 := by simp [hlisted, hout]
  have hword : Bytes.number zoneScrap ((medium zoneScrap).offset 0 + 4 * 1) 4 = endOfChain := by
    rw [Medium.offset, hsize]
    exact hlink
  -- the directory starts with a sector that is there and linked
  obtain ⟨p, hload⟩ : ∃ p, (load zoneScrap {}).outcome.value = .ok p := by
    refine (exists_load_iff {}).mpr (exists_load_of_link hb hfirst hin hmissing ?_ ?_ ?_ ?_)
    · rw [hstart]
      rfl
    · rw [hstart, hsize]
      decide
    · rw [hstart]
      exact hword
    · rw [hstart, hroom]
      decide
  have hopen := opened_of_load (readFrom_of_load hload).container
  refine ⟨p, hload, by rw [hopen.medium_eq, hsize], ?_⟩
  have hget := Allocation.getElem?_load (by rw [hsize]; decide) hfirst hin
    (by rw [hsize]; decide : 1 < (medium zoneScrap).sectorSize / 4)
  rw [hmissing, Nat.zero_mul, Nat.zero_add] at hget
  rw [hopen.table, hopen.medium_eq, hopen.tableSectors_eq, hget]
  exact congrArg some hword

/-- An offset of sector 1 lies in a zone of the allocation table and in one of the directory. -/
theorem zones_cover_scrap :
    ∃ p, (load zoneScrap {}).outcome.value = .ok p ∧
      (∃ z ∈ p.zones, z.kind = .allocationTable ∧ z.Contains 1030) ∧
      ∃ z ∈ p.zones, z.kind = .directory ∧ z.Contains 1030 := by
  obtain ⟨-, -, -, -, -, hstart, -, -, hslot⟩ := read_zoneScrap
  obtain ⟨p, hload, hsize, hlink⟩ := exists_load_zoneScrap
  obtain ⟨tables, directory, hzones, htables, hdirectory⟩ := zones_cover hload
  -- the offset is in the one sector that both kinds of zones know
  have hwithin : p.container.volume.Within 1 1030 := by
    rw [Medium.Within, hsize]
    decide
  have hchain : Chain.Leads p.container.volume.table (Header.read zoneScrap).directoryStart [1]
      endOfChain := by
    rw [hstart]
    exact .step hlink (.stop _)
  have hlisted : 1 ∈ (Header.read zoneScrap).slots :=
    List.mem_map.mpr ⟨0, List.mem_range.mpr (by decide), hslot⟩
  obtain ⟨z, hz, hcontains⟩ := (htables.covers 1030).mpr ⟨1, ⟨hlisted, by decide⟩, hwithin⟩
  obtain ⟨z', hz', hcontains'⟩ := (hdirectory.covers 1030).mpr
    ⟨1, ⟨[1], endOfChain, hchain, List.mem_singleton_self 1⟩, hwithin⟩
  refine ⟨p, hload, ?_⟩
  rw [hzones]
  exact ⟨⟨z, List.mem_append_left _ (List.mem_cons_of_mem _ hz), htables.kind_eq z hz, hcontains⟩,
    ⟨z', List.mem_append_right _ hz', hdirectory.kind_eq z' hz', hcontains'⟩⟩

end Package

end InstallerPackage
