import InstallerPackage.Container

/-!
# What an open file consists of

`Container.load` is a sequence of attempts. `Attempt.bind_eq_ok` takes such a sequence apart, and
`Container.opened_of_load` says of a file that could be opened where every part of it comes from.
-/

namespace InstallerPackage

namespace Attempt

variable {α β : Type}

/-- A sequence of attempts succeeds if each of them does. -/
theorem bind_eq_ok {x : Attempt α} {f : α → Attempt β} {b : β} :
    (x >>= f).outcome.value = .ok b ↔
      ∃ a, x.outcome.value = .ok a ∧ (f a).outcome.value = .ok b := by
  cases hx : x.outcome.value with
  | error e => simp [outcome_bind_of_error hx]
  | ok a => simp [outcome_bind_of_ok hx]

theorem ofNoted_eq_ok {x : Noted α} {a : α} :
    (ofNoted x).outcome.value = .ok a ↔ x.value = a := by
  simp

theorem pure_eq_ok {a b : α} : (pure a : Attempt α).outcome.value = .ok b ↔ a = b := by
  simp

theorem fail_ne_ok {e : LoadError} {a : α} : (fail e : Attempt α).outcome.value ≠ .ok a := by
  simp

/-! With the notices, which are those of all attempts in their order: -/

theorem outcome_bind_ok {x : Attempt α} {f : α → Attempt β} {a : α} {b : β}
    {before after : List Notice} (hx : x.outcome = ⟨.ok a, before⟩)
    (hf : (f a).outcome = ⟨.ok b, after⟩) : (x >>= f).outcome = ⟨.ok b, before ++ after⟩ := by
  rw [outcome_bind_of_ok (congrArg Noted.value hx), hx, hf]

theorem exists_of_outcome_bind {x : Attempt α} {f : α → Attempt β} {b : β} {notices : List Notice}
    (h : (x >>= f).outcome = ⟨.ok b, notices⟩) :
    ∃ a before after, x.outcome = ⟨.ok a, before⟩ ∧ (f a).outcome = ⟨.ok b, after⟩ ∧
      before ++ after = notices := by
  obtain ⟨a, hx, hf⟩ := bind_eq_ok.mp (congrArg Noted.value h)
  refine ⟨a, x.outcome.notices, (f a).outcome.notices, Noted.ext hx rfl, Noted.ext hf rfl, ?_⟩
  rw [outcome_bind_of_ok hx] at h
  exact congrArg Noted.notices h

theorem outcome_ofNoted_eq_iff {x : Noted α} {a : α} {notices : List Notice} :
    (ofNoted x).outcome = ⟨.ok a, notices⟩ ↔ x = ⟨a, notices⟩ := by
  rw [outcome_ofNoted]
  constructor
  · intro h
    have hvalue := Except.ok.inj (congrArg Noted.value h)
    have hnotices := congrArg Noted.notices h
    exact Noted.ext hvalue hnotices
  · rintro rfl
    rfl

theorem outcome_pure_eq_iff {a b : α} {notices : List Notice} :
    (pure a : Attempt α).outcome = ⟨.ok b, notices⟩ ↔ a = b ∧ [] = notices := by
  constructor
  · intro h
    exact ⟨Except.ok.inj (congrArg Noted.value h), congrArg Noted.notices h⟩
  · rintro ⟨rfl, rfl⟩
    rfl

/-- An attempt that succeeds without a notice is as good as its value. -/
theorem outcome_bind_of_eq {x : Attempt α} {a : α} (h : x.outcome = ⟨.ok a, []⟩)
    (f : α → Attempt β) : (x >>= f).outcome = (f a).outcome := by
  rw [outcome_bind_of_ok (a := a) (by rw [h]), h]
  rfl

theorem outcome_ofNoted_bind_of_eq {x : Noted α} {a : α} (h : x = ⟨a, []⟩) (f : α → Attempt β) :
    (ofNoted x >>= f).outcome = (f a).outcome :=
  outcome_bind_of_eq (by rw [outcome_ofNoted, h]) f

theorem outcome_ofNoted_bind (x : Noted α) (f : α → Attempt β) :
    (ofNoted x >>= f).outcome =
      ⟨(f x.value).outcome.value, x.notices ++ (f x.value).outcome.notices⟩ := by
  rw [outcome_bind_of_ok (a := x.value) (by rw [outcome_ofNoted]), outcome_ofNoted]

end Attempt

open Attempt

/-! ### The header -/

namespace Header

theorem load_eq_ok {b : ByteArray} {h : Header} :
    (load b).outcome.value = .ok h ↔ isCompoundFile b = true ∧ h = read b := by
  unfold load isCompoundFile
  by_cases hsize : b.size < size
  · have : ¬ size ≤ b.size := by omega
    simp [hsize, this]
  by_cases hsig : Bytes.startsWith b signatureBytes = true
  · by_cases hshift : (read b).hasSupportedSectors = true
    · simp [hsize, hsig, hshift, Nat.not_lt.mp hsize, eq_comm]
    · simp [hsize, hsig, hshift]
  · simp [hsize, hsig]

theorem sectorSize_pos (h : Header) : 0 < h.sectorSize := by
  rw [sectorSize, Nat.one_shiftLeft]
  exact Nat.two_pow_pos _

theorem miniSectorSize_pos (h : Header) : 0 < h.miniSectorSize := by
  rw [miniSectorSize, Nat.one_shiftLeft]
  exact Nat.two_pow_pos _

/-- The sectors are 512 to 4096 bytes large. -/
def HasUsualSectors (h : Header) : Prop := 512 ≤ h.sectorSize ∧ h.sectorSize ≤ 4096

instance (h : Header) : Decidable h.HasUsualSectors := inferInstanceAs (Decidable (_ ∧ _))

theorem hasUsualSectors_iff {h : Header} : h.HasUsualSectors ↔ h.hasSupportedSectors = true := by
  have hle : ∀ m n : Nat, 2 ^ m ≤ 2 ^ n ↔ m ≤ n := fun m n => Nat.pow_le_pow_iff_right (by decide)
  rw [HasUsualSectors, hasSupportedSectors, sectorSize, Nat.one_shiftLeft, Bool.and_eq_true,
    decide_eq_true_eq, decide_eq_true_eq]
  exact and_congr (hle 9 h.sectorShift) (hle h.sectorShift 12)

theorem hasUsualSectors_read {b : ByteArray} (hb : isCompoundFile b = true) :
    (read b).HasUsualSectors := by
  rw [isCompoundFile, Bool.and_eq_true] at hb
  exact hasUsualSectors_iff.mpr hb.2

end Header

/-! ### The whole file -/

namespace Container

/-- The parts of an open file, each as it was read from the bytes `b`. -/
structure Opened (b : ByteArray) (c : Container) : Prop where
  accepted : isCompoundFile b = true
  header : c.header = Header.read b
  medium : c.volume.toMedium = c.header.medium b
  miniSectorSize : c.volume.miniSectorSize = c.header.miniSectorSize
  miniCutoff : c.volume.miniCutoff = c.header.miniCutoff
  tableSectors : c.tableSectors =
    (Allocation.collect c.volume.toMedium c.header.slots c.header.listStart).value
  table : c.volume.table = (Allocation.load c.volume.toMedium c.tableSectors).value
  directory : Directory.ofBytes?
    (c.volume.materialize .regular c.header.directoryStart 0).value = some c.directory
  miniTable : c.volume.miniTable =
    Bytes.words (c.volume.materialize .regular c.header.miniTableStart 0).value
  miniStream : c.volume.miniStream = (loadMiniStream c.volume c.directory.root).value
  root : c.root = c.directory.tree.value

namespace Opened

variable {b : ByteArray} {c : Container}

theorem bytes_eq (h : Opened b c) : c.volume.bytes = b := by
  rw [h.medium]
  rfl

theorem sectorSize_eq (h : Opened b c) : c.volume.sectorSize = (Header.read b).sectorSize := by
  rw [h.medium, h.header]
  rfl

theorem sectorSize_pos (h : Opened b c) : 0 < c.volume.sectorSize := by
  rw [h.sectorSize_eq]
  exact (Header.read b).sectorSize_pos

theorem miniSectorSize_pos (h : Opened b c) : 0 < c.volume.miniSectorSize := by
  rw [h.miniSectorSize]
  exact c.header.miniSectorSize_pos

end Opened

/-- The volume before its mini stream is read. -/
def bareVolume (b : ByteArray) (h : Header) (table : Array Nat) : Volume where
  toMedium := h.medium b
  miniSectorSize := h.miniSectorSize
  miniCutoff := h.miniCutoff
  table := table

/-- A file whose parts are all read without a notice is opened without one. -/
theorem load_of_parts {b : ByteArray} {h : Header} {sectors table : Array Nat} {d : Directory}
    {miniTable miniStream : ByteArray} (hheader : (Header.load b).outcome = ⟨.ok h, []⟩)
    (hsectors : Allocation.collect (h.medium b) h.slots h.listStart = ⟨sectors, []⟩)
    (htable : (loadTable (h.medium b) sectors).outcome = ⟨.ok table, []⟩)
    (hdirectory : (loadDirectory (bareVolume b h table) h.directoryStart).outcome = ⟨.ok d, []⟩)
    (hminiTable : (bareVolume b h table).materialize .regular h.miniTableStart 0 = ⟨miniTable, []⟩)
    (hminiStream : loadMiniStream (bareVolume b h table) d.root = ⟨miniStream, []⟩)
    (htree : d.tree.notices = []) :
    (load b).outcome = ⟨.ok {
      header := h
      tableSectors := sectors
      volume := { bareVolume b h table with
        miniTable := Bytes.words miniTable
        miniStream := miniStream }
      directory := d
      root := d.tree.value }, []⟩ := by
  have hroot : d.tree = ⟨d.tree.value, []⟩ := Noted.ext rfl htree
  rw [bareVolume] at hdirectory hminiTable hminiStream
  -- the steps of the opening, each of which succeeds without a notice
  rw [load, outcome_bind_of_eq hheader]
  dsimp only
  rw [outcome_ofNoted_bind_of_eq hsectors, outcome_bind_of_eq htable, outcome_bind_of_eq hdirectory,
    outcome_ofNoted_bind_of_eq hminiTable, outcome_ofNoted_bind_of_eq hminiStream,
    outcome_ofNoted_bind_of_eq hroot]
  rfl

theorem loadTable_eq_ok {m : Medium} {sectors table : Array Nat}
    (h : (loadTable m sectors).outcome.value = .ok table) :
    table = (Allocation.load m sectors).value := by
  obtain ⟨found, hfound, h⟩ := bind_eq_ok.mp h
  rw [ofNoted_eq_ok.mp hfound]
  split at h
  · exact absurd h fail_ne_ok
  · exact (pure_eq_ok.mp h).symm

theorem loadDirectory_eq_ok {v : Volume} {start : Nat} {d : Directory}
    (h : (loadDirectory v start).outcome.value = .ok d) :
    Directory.ofBytes? (v.materialize .regular start 0).value = some d := by
  obtain ⟨bytes, hbytes, h⟩ := bind_eq_ok.mp h
  rw [ofNoted_eq_ok.mp hbytes]
  cases hd : Directory.ofBytes? bytes with
  | none =>
    rw [hd] at h
    exact absurd h fail_ne_ok
  | some found =>
    rw [hd] at h
    rw [pure_eq_ok.mp h]

theorem opened_of_load {b : ByteArray} {c : Container} (h : (load b).outcome.value = .ok c) :
    Opened b c := by
  -- a run that ends well has been through all its steps
  obtain ⟨header, hheader, h⟩ := bind_eq_ok.mp h
  obtain ⟨haccepted, hread⟩ := Header.load_eq_ok.mp hheader
  obtain ⟨sectors, hsectors, h⟩ := bind_eq_ok.mp h
  obtain ⟨table, htable, h⟩ := bind_eq_ok.mp h
  obtain ⟨directory, hdirectory, h⟩ := bind_eq_ok.mp h
  obtain ⟨miniTable, hminiTable, h⟩ := bind_eq_ok.mp h
  obtain ⟨miniStream, hminiStream, h⟩ := bind_eq_ok.mp h
  obtain ⟨root, hroot, h⟩ := bind_eq_ok.mp h
  obtain rfl := pure_eq_ok.mp h
  exact {
    accepted := haccepted
    header := hread
    medium := rfl
    miniSectorSize := rfl
    miniCutoff := rfl
    tableSectors := (ofNoted_eq_ok.mp hsectors).symm
    table := loadTable_eq_ok htable
    -- the mini stream's own parts do not matter for regular chains
    directory := loadDirectory_eq_ok hdirectory
    miniTable := congrArg Bytes.words (ofNoted_eq_ok.mp hminiTable).symm
    miniStream := (ofNoted_eq_ok.mp hminiStream).symm
    root := (ofNoted_eq_ok.mp hroot).symm }

end Container

end InstallerPackage
