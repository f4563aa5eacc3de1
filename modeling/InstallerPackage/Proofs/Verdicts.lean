import InstallerPackage.Package
import InstallerPackage.Proofs.Chains
import InstallerPackage.Proofs.Opening

/-!
# Which files can be opened

Only three things are needed to open a file: a header, a link, and room for the root record.
`Verdict` has a constructor for each way in which one of them is missing, and one for the files that
have them all. The cases exclude each other, and every attempt to open a file or to load a package
ends in one of them: `Container.verdict_load`, `Package.verdict_load`.

* `Allocation.toList_load` is the table as the words of the listed sectors that are there. The
  others leave no gap.
* `Attempt.Succeeds` is closed under sequences, so whatever is read behind the directory cannot
  change the verdict.
-/

namespace InstallerPackage

/-! ### The table that is held by listed sectors -/

namespace Allocation

variable {m : Medium} {sectors : Array Nat}

/-- The table has the words of those sectors that lie inside the file. -/
theorem toList_load (m : Medium) (sectors : Array Nat) :
    (load m sectors).value.toList =
      (sectors.toList.filter (m.hasSector ·)).flatMap fun n => (Bytes.words (m.sector n)).toList := by
  -- the fold keeps what was in the table before
  have hfold : ∀ (l : List Nat) (table : Array Nat),
      (l.foldl (fun table n =>
          if m.hasSector n then table ++ Bytes.words (m.sector n) else table) table).toList =
        table.toList ++
          (l.filter (m.hasSector ·)).flatMap fun n => (Bytes.words (m.sector n)).toList := by
    intro l
    induction l with
    | nil => simp
    | cons n l ih =>
      intro table
      rw [List.foldl_cons, ih]
      by_cases h : m.hasSector n = true <;> simp [h]
  -- the table begins empty
  rw [load, ← Array.foldl_toList, hfold]
  rfl

/-- A sector inside the file has all its words. -/
theorem length_words_sector (hpos : 0 < m.sectorSize) {n : Nat} (h : m.hasSector n = true) :
    (Bytes.words (m.sector n)).toList.length = m.sectorSize / 4 := by
  rw [Array.length_toList, Bytes.size_words, (m.size_sector_eq_iff n hpos).mpr h]

theorem size_load (hpos : 0 < m.sectorSize) :
    (load m sectors).value.size = sectors.toList.countP (m.hasSector ·) * (m.sectorSize / 4) := by
  rw [← Array.length_toList, toList_load, List.length_flatMap, List.countP_eq_length_filter]
  exact sum_map_eq_mul fun n hn => length_words_sector hpos (List.mem_filter.mp hn).2

/-- There is a link as soon as one of the listed sectors is inside the file. -/
theorem isEmpty_load_iff (hwords : 4 ≤ m.sectorSize) (sectors : Array Nat) :
    (load m sectors).value.isEmpty = true ↔ ∀ n ∈ sectors, m.hasSector n = false := by
  have hper : 0 < m.sectorSize / 4 := Nat.div_pos hwords (by decide)
  rw [Array.isEmpty_iff_size_eq_zero, size_load (by omega), Nat.mul_eq_zero, List.countP_eq_zero]
  simp only [Nat.ne_of_gt hper, or_false, Array.mem_toList_iff, Bool.not_eq_true]

end Allocation

/-- A chain of one sector gives the bytes of that sector. -/
theorem Volume.materialize_of_sector {v : Volume} {start : Nat} (hlive : isSentinel start = false)
    (hlink : v.table[start]? = some endOfChain) :
    (v.materialize .regular start 0).value = v.sector start := by
  have hpath : Chain.Path (v.links .regular) start [start] endOfChain :=
    ⟨rfl, hlive, endOfChain, hlink, rfl⟩
  have hwalk : v.walk .regular start 0 = ⟨#[start], .sentinel⟩ :=
    Chain.walk_eq_of_sentinel hpath rfl (.inl rfl) (show 1 ≤ Volume.unboundedSteps by decide)
  rw [← Bytes.toList_inj, materialize, hwalk]
  simp only [if_true, toList_gather, List.flatMap_singleton]
  rfl

/-! ### Attempts that succeed -/

namespace Attempt

variable {α β : Type}

/-- The attempt has a result. -/
def Succeeds (x : Attempt α) : Prop := ∃ a, x.outcome.value = .ok a

theorem succeeds_pure (a : α) : (pure a : Attempt α).Succeeds := ⟨a, rfl⟩

theorem succeeds_ofNoted (x : Noted α) : (ofNoted x).Succeeds := ⟨x.value, by rw [outcome_ofNoted]⟩

theorem Succeeds.bind {x : Attempt α} {f : α → Attempt β} (hx : x.Succeeds)
    (hf : ∀ a, (f a).Succeeds) : (x >>= f).Succeeds := by
  obtain ⟨a, ha⟩ := hx
  obtain ⟨b, hb⟩ := hf a
  exact ⟨b, bind_eq_ok.mpr ⟨a, ha, hb⟩⟩

end Attempt

open Attempt

namespace Container

/-! ### What a file needs -/

variable (b : ByteArray)

/-- The file cut into sectors. -/
def medium : Medium := (Header.read b).medium b

/-- The sectors that are listed as those of the allocation table. -/
def listedSectors : Array Nat :=
  (Allocation.collect (medium b) (Header.read b).slots (Header.read b).listStart).value

/-- The links in those of them that lie inside the file. -/
def links : Array Nat := (Allocation.load (medium b) (listedSectors b)).value

/-- The bytes of the sectors that the directory's chain leads through. -/
def directoryBytes : ByteArray :=
  ((bareVolume b (Header.read b) (links b)).materialize .regular (Header.read b).directoryStart
    0).value

/-- A listed sector lies inside the file. -/
def HasTable : Prop := ∃ s ∈ listedSectors b, (medium b).hasSector s = true

/-- The possible ends of an attempt to open a file. -/
inductive Verdict {α : Type} : Except LoadError α → Prop
  | noHeader {e : LoadError} (hb : isCompoundFile b = false) (he : e.isHeaderFault = true) :
    Verdict (.error e)
  | noTable (hb : isCompoundFile b = true) (hs : ¬ HasTable b) : Verdict (.error .noAllocationTable)
  | noDirectory (hb : isCompoundFile b = true) (hs : HasTable b)
    (hd : (directoryBytes b).size < Record.length) : Verdict (.error .noDirectory)
  | opened {a : α} (hb : isCompoundFile b = true) (hs : HasTable b)
    (hd : Record.length ≤ (directoryBytes b).size) : Verdict (.ok a)

variable {b} {α β : Type}

/-- The verdict stands whatever is read afterwards, if that cannot fail. -/
theorem Verdict.bind {x : Attempt α} {f : α → Attempt β} (h : Verdict b x.outcome.value)
    (hf : ∀ a, (f a).Succeeds) : Verdict b (x >>= f).outcome.value := by
  -- a failure is the verdict already; after a success the rest succeeds too, so the verdict stays
  cases hx : x.outcome.value with
  | error e =>
    rw [hx] at h
    rw [outcome_bind_of_error hx]
    cases h with
    | noHeader hb he => exact .noHeader hb he
    | noTable hb hs => exact .noTable hb hs
    | noDirectory hb hs hd => exact .noDirectory hb hs hd
  | ok a =>
    rw [hx] at h
    obtain ⟨out, hout⟩ := hf a
    rw [outcome_bind_of_ok hx]
    dsimp only
    rw [hout]
    cases h with
    | opened hb hs hd => exact .opened hb hs hd

section

variable {out : Except LoadError α} (h : Verdict b out)
include h

theorem Verdict.noHeader_iff :
    (∃ e, out = .error e ∧ e.isHeaderFault = true) ↔ isCompoundFile b = false := by
  -- three of the four verdicts are about an accepted header
  cases h with
  | noHeader hb he => exact ⟨fun _ => hb, fun _ => ⟨_, rfl, he⟩⟩
  | noTable hb | noDirectory hb =>
    rw [hb]
    refine ⟨?_, (nomatch ·)⟩
    rintro ⟨e, he, hfault⟩
    cases he
    cases hfault
  | opened hb =>
    rw [hb]
    refine ⟨?_, (nomatch ·)⟩
    rintro ⟨e, he, -⟩
    cases he

theorem Verdict.noTable_iff : out = .error .noAllocationTable ↔
    isCompoundFile b = true ∧ ∀ s ∈ listedSectors b, (medium b).hasSector s = false := by
  have hnone : (∀ s ∈ listedSectors b, (medium b).hasSector s = false) ↔ ¬ HasTable b := by
    simp [HasTable]
  rw [hnone]
  -- a table is missing in one verdict only, and the other three say why they are not that one
  cases h with
  | noHeader hb he =>
    rw [hb]
    refine ⟨fun h => ?_, (nomatch ·.1)⟩
    cases h
    cases he
  | noTable hb hs => exact ⟨fun _ => ⟨hb, hs⟩, fun _ => rfl⟩
  | noDirectory hb hs hd => exact ⟨(nomatch ·), fun h => absurd hs h.2⟩
  | opened hb hs hd => exact ⟨(nomatch ·), fun h => absurd hs h.2⟩

theorem Verdict.noDirectory_iff : out = .error .noDirectory ↔
    isCompoundFile b = true ∧ HasTable b ∧ (directoryBytes b).size < Record.length := by
  cases h with
  | noHeader hb he =>
    rw [hb]
    refine ⟨fun h => ?_, (nomatch ·.1)⟩
    cases h
    cases he
  | noTable hb hs => exact ⟨(nomatch ·), fun h => absurd h.2.1 hs⟩
  | noDirectory hb hs hd => exact ⟨fun _ => ⟨hb, hs, hd⟩, fun _ => rfl⟩
  | opened hb hs hd => exact ⟨(nomatch ·), fun h => absurd h.2.2 (Nat.not_lt.mpr hd)⟩

theorem Verdict.opened_iff : (∃ a, out = .ok a) ↔
    isCompoundFile b = true ∧ HasTable b ∧ Record.length ≤ (directoryBytes b).size := by
  cases h with
  | noHeader hb he =>
    rw [hb]
    exact ⟨fun ⟨_, h⟩ => (nomatch h), (nomatch ·.1)⟩
  | noTable hb hs => exact ⟨fun ⟨_, h⟩ => (nomatch h), fun h => absurd h.2.1 hs⟩
  | noDirectory hb hs hd =>
    exact ⟨fun ⟨_, h⟩ => (nomatch h), fun h => absurd h.2.2 (Nat.not_le.mpr hd)⟩
  | opened hb hs hd => exact ⟨fun _ => ⟨hb, hs, hd⟩, fun _ => ⟨_, rfl⟩⟩

end

/-! ### The three tests -/

theorem four_le_sectorSize (hb : isCompoundFile b = true) : 4 ≤ (medium b).sectorSize :=
  Nat.le_trans (by decide) (Header.hasUsualSectors_read hb).1

theorem isHeaderFault_of_load {e : LoadError} (h : (Header.load b).outcome.value = .error e) :
    e.isHeaderFault = true := by
  -- each test of the header has a fault of its own
  unfold Header.load at h
  dsimp only at h
  split at h
  · cases h
    rfl
  split at h
  · cases h
    rfl
  split at h
  · cases h
    rfl
  · rw [outcome_ofNoted] at h
    cases h

theorem outcome_loadTable (m : Medium) (sectors : Array Nat) :
    (loadTable m sectors).outcome.value =
      if (Allocation.load m sectors).value.isEmpty then .error .noAllocationTable
      else .ok (Allocation.load m sectors).value := by
  rw [loadTable, outcome_ofNoted_bind]
  split <;> rfl

theorem outcome_loadDirectory (v : Volume) (start : Nat) :
    (loadDirectory v start).outcome.value =
      match Directory.ofBytes? (v.materialize .regular start 0).value with
      | none => .error .noDirectory
      | some d => .ok d := by
  rw [loadDirectory, outcome_ofNoted_bind]
  cases Directory.ofBytes? (v.materialize .regular start 0).value <;> rfl

/-- What is read behind the directory. -/
def finish (header : Header) (sectors : Array Nat) (bare : Volume) (d : Directory) :
    Attempt Container := do
  let miniTable ← Attempt.ofNoted (bare.materialize .regular header.miniTableStart 0)
  let miniStream ← Attempt.ofNoted (loadMiniStream bare d.root)
  let root ← Attempt.ofNoted d.tree
  pure
    { header := header
      tableSectors := sectors
      volume := { bare with miniTable := Bytes.words miniTable, miniStream := miniStream }
      directory := d
      root := root }

theorem succeeds_finish (header : Header) (sectors : Array Nat) (bare : Volume) (d : Directory) :
    (finish header sectors bare d).Succeeds :=
  (succeeds_ofNoted _).bind fun _ => (succeeds_ofNoted _).bind fun _ =>
    (succeeds_ofNoted _).bind fun _ => succeeds_pure _

theorem outcome_load_of_accepted (hb : isCompoundFile b = true) :
    let h := Header.read b
    (load b).outcome.value =
      (loadTable (medium b) (listedSectors b) >>= fun table =>
        loadDirectory (bareVolume b h table) h.directoryStart >>=
          finish h (listedSectors b) (bareVolume b h table)).outcome.value := by
  rw [load, outcome_bind_of_ok (Header.load_eq_ok.mpr ⟨hb, rfl⟩)]
  dsimp only
  rw [outcome_ofNoted_bind]
  unfold listedSectors medium bareVolume finish
  dsimp only

/-- Opening a file ends in one of the four ways. -/
theorem verdict_load (b : ByteArray) : Verdict b (load b).outcome.value := by
  by_cases hb : isCompoundFile b = true
  · have hempty := Allocation.isEmpty_load_iff (four_le_sectorSize hb) (listedSectors b)
    have htable := outcome_loadTable (medium b) (listedSectors b)
    rw [← links] at hempty htable
    rw [outcome_load_of_accepted hb]
    -- first the table, then the directory; what follows cannot fail
    by_cases hnone : (links b).isEmpty = true
    · rw [if_pos hnone] at htable
      rw [outcome_bind_of_error htable]
      refine .noTable hb ?_
      rintro ⟨s, hs, hin⟩
      rw [hempty.mp hnone s hs] at hin
      cases hin
    have hs : HasTable b := by
      by_contra hs
      refine hnone (hempty.mpr fun s hmem => ?_)
      exact Bool.eq_false_iff.mpr fun hin => hs ⟨s, hmem, hin⟩
    have hdirectory := outcome_loadDirectory (bareVolume b (Header.read b) (links b))
      (Header.read b).directoryStart
    rw [if_neg hnone] at htable
    rw [← directoryBytes, Directory.ofBytes?] at hdirectory
    rw [outcome_bind_of_ok htable]
    dsimp only
    by_cases hroom : Record.length ≤ (directoryBytes b).size
    · rw [dif_pos hroom] at hdirectory
      refine Verdict.bind ?_ (succeeds_finish _ _ _)
      exact hdirectory ▸ .opened hb hs hroom
    · rw [dif_neg hroom] at hdirectory
      rw [outcome_bind_of_error hdirectory]
      exact .noDirectory hb hs (Nat.not_le.mp hroom)
  · cases hload : (Header.load b).outcome.value with
    | ok h => exact absurd (Header.load_eq_ok.mp hload).1 hb
    | error e =>
      rw [load, outcome_bind_of_error hload]
      exact .noHeader (Bool.eq_false_iff.mpr hb) (isHeaderFault_of_load hload)

/-- One sector is enough for a directory. -/
theorem exists_load_of_sector (hb : isCompoundFile b = true) (hs : HasTable b)
    (hstart : isSentinel (Header.read b).directoryStart = false)
    (hlink : (links b)[(Header.read b).directoryStart]? = some endOfChain)
    (hroom : Record.length ≤ ((medium b).sector (Header.read b).directoryStart).size) :
    ∃ c, (load b).outcome.value = .ok c := by
  refine (verdict_load b).opened_iff.mpr ⟨hb, hs, ?_⟩
  rw [directoryBytes]
  -- what the table holds does not matter here
  generalize links b = table at hlink ⊢
  rwa [Volume.materialize_of_sector (v := bareVolume b (Header.read b) table) hstart hlink]

theorem Opened.medium_eq {c : Container} (h : c.Opened b) :
    c.volume.toMedium = Container.medium b := by
  rw [h.medium, h.header, Container.medium]

theorem Opened.tableSectors_eq {c : Container} (h : c.Opened b) :
    c.tableSectors = listedSectors b := by
  rw [h.tableSectors, h.medium_eq, h.header, listedSectors]

/-- A small file with sectors of 512 bytes. Sector 0 has links for itself and for sector 1, and sector 1
is a directory of one empty record; `slots` are listed as sectors of the allocation table. -/
def scrap (miniSectorShift : Nat) (slots : List Nat) : ByteArray :=
  Bytes.ofList
    (Header.signatureBytes.map UInt8.ofNat ++ List.replicate 20 0 ++
      -- byte order, sector sizes and the places of all parts
      Bytes.little 2 Header.usualByteOrder ++ Bytes.little 2 9 ++ Bytes.little 2 miniSectorShift ++
      List.replicate 10 0 ++
      [slots.length, 1, 0, 4096, endOfChain, 0, endOfChain, 0].flatMap (Bytes.little 4) ++
      (slots ++ List.replicate (Header.slotCount - slots.length) freeSector).flatMap
        (Bytes.little 4) ++
      -- the two sectors
      Bytes.padTo 512 ([0xFFFFFFFD, endOfChain].flatMap (Bytes.little 4)) ++
      List.replicate Record.length 0)

end Container

/-! ### The package -/

namespace Package

/-- Whatever the streams of an open file hold, it can be loaded as a package. -/
theorem verdict_load (b : ByteArray) (style : Manifest.Style) :
    Container.Verdict b (load b style).outcome.value := by
  rw [load]
  refine (Container.verdict_load b).bind fun c => (succeeds_ofNoted _).bind fun summary => ?_
  refine (succeeds_ofNoted _).bind fun pool? => ?_
  cases pool? with
  | none => exact succeeds_pure _
  | some pool =>
    exact (succeeds_ofNoted _).bind fun db => (succeeds_ofNoted _).bind fun files => succeeds_pure _

/-- A file can be loaded just if it can be opened. -/
theorem exists_load_iff {b : ByteArray} (style : Manifest.Style) :
    (∃ p, (load b style).outcome.value = .ok p) ↔ ∃ c, (Container.load b).outcome.value = .ok c :=
  (verdict_load b style).opened_iff.trans (Container.verdict_load b).opened_iff.symm

end Package

end InstallerPackage
