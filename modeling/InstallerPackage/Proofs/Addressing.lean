import InstallerPackage.Proofs.Image.Loading

/-!
# Where the bytes of a stream stand in the file

Streams may be fragmented in any way. If the sectors that its size asks for are there, a stream is
read to its last byte and nothing is reported, and the place of every byte in the file is computed
from the chain: `Container.readRecord_addressed`. For a small stream this happens twice, since its
mini sectors are places in the mini stream, and the mini stream is a stream of the file itself.
-/

namespace InstallerPackage

/-! ### Places in a sector -/

/-- The byte of a sector is the byte of the file at the sector's offset. -/
theorem Medium.getElem?_sector (m : Medium) (n : Nat) {i : Nat} (hi : i < m.sectorSize) :
    (m.sector n).data[i]? = m.bytes.data[(n + 1) * m.sectorSize + i]? := by
  rw [← Array.getElem?_toList, sector, Bytes.toList_slice, List.getElem?_take_of_lt hi,
    List.getElem?_drop, Array.getElem?_toList]
  rfl

namespace Volume

open Image

variable {v : Volume}

theorem size_miniSector {n : Nat} (h : (n + 1) * v.miniSectorSize ≤ v.miniStream.size) :
    (v.miniSector n).size = v.miniSectorSize := by
  rw [Nat.succ_mul] at h
  simp only [miniSector, Nat.succ_mul, h, if_true, Bytes.size_slice]
  omega

theorem getElem?_miniSector {n i : Nat} (h : (n + 1) * v.miniSectorSize ≤ v.miniStream.size)
    (hi : i < v.miniSectorSize) :
    (v.miniSector n).data[i]? = v.miniStream.data[n * v.miniSectorSize + i]? := by
  rw [← Array.getElem?_toList, miniSector, if_pos h, Bytes.toList_slice,
    List.getElem?_take_of_lt hi, List.getElem?_drop, Array.getElem?_toList]

/-- The chain from `start` has the sectors for `size` bytes: they are its first ones, none of them is
a sentinel or outside of the table, all but the last one lie wholly inside the file, and the last
one has the bytes that are needed of it. -/
structure Intact (v : Volume) (start size : Nat) (sectors : List Nat) : Prop where
  path : ∃ last, Chain.Path v.table start sectors last
  length : sectors.length = Bytes.pieces v.sectorSize size
  inside : ∀ s ∈ sectors.dropLast, v.offset s + v.sectorSize ≤ v.bytes.size
  rest : ∀ s ∈ sectors.getLast?,
    v.offset s + (size - (sectors.length - 1) * v.sectorSize) ≤ v.bytes.size

theorem Intact.holds {start size : Nat} {sectors : List Nat} (h : v.Intact start size sectors)
    (hu : 0 < v.sectorSize) : v.Holds .regular start size sectors where
  path := h.path
  length := h.length
  whole s hs := (v.size_sector_eq_iff s hu).mpr (decide_eq_true (h.inside s hs))
  rest s hs := by
    -- no more is needed of the last sector than it has room for
    have hroom := Bytes.le_pieces_mul hu size
    have hlen := h.length
    have hrest := h.rest s hs
    change size ≤ (sectors.length - 1) * v.sectorSize + (v.sector s).size
    rw [Medium.size_sector]
    -- an empty stream needs no sector at all
    rcases Nat.eq_zero_or_pos (Bytes.pieces v.sectorSize size) with hz | hpos
    · rw [hz, Nat.zero_mul] at hroom
      omega
    · rw [← hlen] at hroom hpos
      have hsplit : sectors.length * v.sectorSize
          = (sectors.length - 1) * v.sectorSize + v.sectorSize := by
        rw [← Nat.succ_mul, Nat.succ_eq_add_one, Nat.sub_add_cancel hpos]
      omega

/-- The byte at `p` of a stream in the sectors of the file. -/
theorem Intact.getElem?_materialize {start size : Nat} {sectors : List Nat}
    (h : v.Intact start size sectors) (hu : 0 < v.sectorSize) {p : Nat} (hp : p < size) :
    ∃ s x, sectors[p / v.sectorSize]? = some s ∧
      v.bytes.data[(s + 1) * v.sectorSize + p % v.sectorSize]? = some x ∧
      (v.materialize .regular start size).value.data[p]? = some x := by
  -- the byte is in the sector at its place, and that sector is read from the file
  obtain ⟨s, hs, hin, hget⟩ := Volume.getElem?_materialize (h.holds hu) hu hp
  change sectors[p / v.sectorSize]? = some s at hs
  change _ = (v.sector s).data[p % v.sectorSize]? at hget
  have hlt : p % v.sectorSize < (v.sector s).data.size := by
    rw [ByteArray.size_data]
    exact hin
  refine ⟨s, (v.sector s).data[p % v.sectorSize], hs, ?_, ?_⟩
  · rw [← v.getElem?_sector s (Nat.mod_lt p hu)]
    exact Array.getElem?_eq_getElem hlt
  · rw [hget]
    exact Array.getElem?_eq_getElem hlt

/-- A chain of mini sectors that lie inside the mini stream holds what they have room for. -/
theorem holds_mini {start size : Nat} {minis : List Nat}
    (hpath : ∃ last, Chain.Path v.miniTable start minis last)
    (hlength : minis.length = Bytes.pieces v.miniSectorSize size)
    (hinside : ∀ m ∈ minis, (m + 1) * v.miniSectorSize ≤ v.miniStream.size)
    (hu : 0 < v.miniSectorSize) : v.Holds .mini start size minis where
  path := hpath
  length := hlength
  -- mini sectors are whole or not there at all
  whole m hm := size_miniSector (hinside m (List.dropLast_subset _ hm))
  rest m hm := by
    change size ≤ (minis.length - 1) * v.miniSectorSize + (v.miniSector m).size
    have hmem := List.mem_of_getLast? hm
    have hpos := List.length_pos_of_mem hmem
    rw [size_miniSector (hinside m hmem)]
    calc size ≤ minis.length * v.miniSectorSize := hlength ▸ Bytes.le_pieces_mul hu size
      _ = (minis.length - 1 + 1) * v.miniSectorSize := by rw [Nat.sub_add_cancel hpos]
      _ = _ := Nat.succ_mul _ _

/-- The byte at `p` of a stream in the mini sectors of the mini stream. -/
theorem getElem?_materialize_mini {start size : Nat} {minis : List Nat}
    (h : v.Holds .mini start size minis)
    (hinside : ∀ m ∈ minis, (m + 1) * v.miniSectorSize ≤ v.miniStream.size)
    (hu : 0 < v.miniSectorSize) {p : Nat} (hp : p < size) :
    ∃ m, minis[p / v.miniSectorSize]? = some m ∧
      m * v.miniSectorSize + p % v.miniSectorSize < v.miniStream.size ∧
      (v.materialize .mini start size).value.data[p]? =
        v.miniStream.data[m * v.miniSectorSize + p % v.miniSectorSize]? := by
  obtain ⟨m, hm, -, hget⟩ := Volume.getElem?_materialize h hu hp
  change minis[p / v.miniSectorSize]? = some m at hm
  change _ = (v.miniSector m).data[p % v.miniSectorSize]? at hget
  have hmod := Nat.mod_lt p hu
  -- a mini sector is a slice of the mini stream
  have hin := hinside m (List.mem_of_getElem? hm)
  rw [getElem?_miniSector hin hmod] at hget
  refine ⟨m, hm, ?_, hget⟩
  rw [Nat.succ_mul] at hin
  exact Nat.lt_of_lt_of_le (Nat.add_lt_add_left hmod _) hin

/-- An extent that keeps a stream has all its sectors. -/
theorem Keeps.intact {e : Extent} {payload : List UInt8}
    (h : v.Keeps .regular e (Bytes.padTo v.sectorSize payload))
    (hcount : e.count = Bytes.pieces v.sectorSize payload.length) (hu : 0 < v.sectorSize) :
    v.Intact e.start payload.length (List.range' e.first e.count) := by
  have hinside : ∀ s ∈ List.range' e.first e.count, v.offset s + v.sectorSize ≤ v.bytes.size := by
    intro s hs
    exact of_decide_eq_true ((v.size_sector_eq_iff s hu).mp (h.size_payload hs))
  refine ⟨⟨_, h.path⟩, by rw [List.length_range', hcount],
    fun s hs => hinside s (List.dropLast_subset _ hs), fun s hs => ?_⟩
  have hroom := Bytes.le_pieces_mul hu payload.length
  have hin := hinside s (List.mem_of_getLast? hs)
  rw [List.length_range', ← hcount, Nat.sub_mul, Nat.one_mul] at *
  omega

end Volume

/-! ### Loaded files -/

namespace Container

variable {b : ByteArray} {c : Container}

theorem value_loadMiniStream (v : Volume) (root : Record) :
    (loadMiniStream v root).value =
      if root.size = 0 then ByteArray.empty
      else (v.materialize .regular root.start root.size).value := by
  unfold loadMiniStream
  split
  · rfl
  · simp only [Noted.value_bind]
    split <;> rfl

/-- The byte at `q` of the mini stream, when the root's own chain is intact. -/
theorem Opened.getElem?_miniStream (h : Opened b c) {sectors : List Nat}
    (hroot : c.volume.Intact c.directory.root.start c.directory.root.size sectors) {q : Nat}
    (hq : q < c.volume.miniStream.size) :
    ∃ s x, sectors[q / c.volume.sectorSize]? = some s ∧
      b.data[(s + 1) * c.volume.sectorSize + q % c.volume.sectorSize]? = some x ∧
      c.volume.miniStream.data[q]? = some x := by
  have hu := h.sectorSize_pos
  have hvalue := h.miniStream
  rw [value_loadMiniStream] at hvalue
  -- the root's stream is the mini stream, unless it is empty
  by_cases hzero : c.directory.root.size = 0
  · rw [hvalue, if_pos hzero] at hq
    exact absurd hq (by simp)
  rw [if_neg hzero] at hvalue
  rw [hvalue, Volume.size_materialize_of_holds (hroot.holds hu) hu (by omega)] at hq
  rw [hvalue, ← h.bytes_eq]
  exact hroot.getElem?_materialize hu hq

/-- **Every byte of a stream stands where its chain says.** In a loaded file let `ss` be the size of
a sector and `ms` that of a mini sector. A stream of at least the cutoff size whose chain is intact
is read completely and without a notice, and its byte `p` is the file's byte
`(sectors[p / ss] + 1) * ss + p % ss`. For a smaller stream, if its mini sectors lie inside the mini
stream and the chain of the mini stream is intact, the same holds of the byte at
`(sectors[q / ss] + 1) * ss + q % ss`, where `q = minis[p / ms] * ms + p % ms`. -/
theorem readRecord_addressed (hload : (load b).outcome.value = .ok c) (r : Record)
    (hstream : r.isStream = true) (hsize : 0 < r.size) :
    let v := c.volume
    let out := v.readRecord r
    (∀ sectors, v.miniCutoff ≤ r.size → v.Intact r.start r.size sectors →
      out.notices = [] ∧ out.value.size = r.size ∧
      ∀ p < r.size, ∃ s x, sectors[p / v.sectorSize]? = some s ∧
        b.data[(s + 1) * v.sectorSize + p % v.sectorSize]? = some x ∧
        out.value.data[p]? = some x) ∧
    (∀ sectors minis, r.size < v.miniCutoff →
      v.Intact c.directory.root.start c.directory.root.size sectors →
      (∃ last, Chain.Path v.miniTable r.start minis last) →
      minis.length = Bytes.pieces v.miniSectorSize r.size →
      (∀ m ∈ minis, (m + 1) * v.miniSectorSize ≤ v.miniStream.size) →
      out.notices = [] ∧ out.value.size = r.size ∧
      ∀ p < r.size, ∃ m s x, minis[p / v.miniSectorSize]? = some m ∧
        sectors[(m * v.miniSectorSize + p % v.miniSectorSize) / v.sectorSize]? = some s ∧
        b.data[(s + 1) * v.sectorSize +
          (m * v.miniSectorSize + p % v.miniSectorSize) % v.sectorSize]? = some x ∧
        out.value.data[p]? = some x) := by
  intro v out
  have hopen := opened_of_load hload
  have hu : 0 < v.sectorSize := hopen.sectorSize_pos
  have hmu : 0 < v.miniSectorSize := hopen.miniSectorSize_pos
  constructor
  · -- a large stream: its sectors are the file's
    intro sectors hcutoff hintact
    have hspace : v.spaceOf r.size = .regular := by
      rw [Volume.spaceOf, if_neg (Nat.not_lt.mpr hcutoff)]
    have hholds := hintact.holds hu
    have hread : out = ⟨(v.materialize .regular r.start r.size).value, []⟩ :=
      Volume.readRecord_of_holds hstream hsize hspace hholds hu
    rw [hread, ← hopen.bytes_eq]
    refine ⟨rfl, Volume.size_materialize_of_holds hholds hu hsize, ?_⟩
    intro p hp
    exact hintact.getElem?_materialize hu hp
  · -- a small one: first its place in the mini stream, then the place of that in the file
    intro sectors minis hcutoff hroot hpath hlength hinside
    have hspace : v.spaceOf r.size = .mini := by rw [Volume.spaceOf, if_pos hcutoff]
    have hholds := Volume.holds_mini hpath hlength hinside hmu
    have hread : out = ⟨(v.materialize .mini r.start r.size).value, []⟩ :=
      Volume.readRecord_of_holds hstream hsize hspace hholds hmu
    rw [hread]
    refine ⟨rfl, Volume.size_materialize_of_holds hholds hmu hsize, ?_⟩
    intro p hp
    obtain ⟨m, hm, hq, hget⟩ := Volume.getElem?_materialize_mini hholds hinside hmu hp
    obtain ⟨s, x, hs, hbyte, hmini⟩ := hopen.getElem?_miniStream hroot hq
    exact ⟨m, s, x, hm, hs, hbyte, hget.trans hmini⟩

open Image in
/-- In the sample the large stream has the first sectors of the file, and the small one begins the
mini stream behind them. -/
theorem readRecord_addressed_sample :
    let b := write .sample (Outline.sample (List.replicate miniCutoff 7))
    ∃ c, (load b).outcome.value = .ok c ∧
      (∃ r, r.isStream = true ∧ 0 < r.size ∧ c.volume.miniCutoff ≤ r.size ∧
        c.volume.Intact r.start r.size (List.range' 0 8) ∧
        (c.volume.readRecord r).notices = [] ∧ (c.volume.readRecord r).value.size = r.size) ∧
      ∃ r, r.isStream = true ∧ 0 < r.size ∧ r.size < c.volume.miniCutoff ∧
        c.volume.Intact c.directory.root.start c.directory.root.size [8] ∧
        (∃ last, Chain.Path c.volume.miniTable r.start [0] last) ∧
        1 = Bytes.pieces c.volume.miniSectorSize r.size ∧
        (∀ m ∈ [0], (m + 1) * c.volume.miniSectorSize ≤ c.volume.miniStream.size) ∧
        (c.volume.readRecord r).notices = [] ∧ (c.volume.readRecord r).value.size = r.size := by
  intro b
  have hlong : (List.replicate miniCutoff (7 : UInt8)).length = miniCutoff := List.length_replicate
  obtain ⟨c, hc, hholding⟩ := load_write Layout.valid_sample
    (Outline.wellFormed_sample (List.replicate miniCutoff 7)) (small_sample hlong)
  have hload : (load b).outcome.value = .ok c := by rw [hc]
  have hkept := hholding.kept
  have hcutoff := hkept.miniCutoff
  obtain ⟨hlarges, hminiStream⟩ := plan_sample hlong
  refine ⟨c, hload, ?_, ?_⟩
  · -- the large stream is the third entry
    obtain ⟨r, e, -, hstream, hstart, hsize, he⟩ := hholding.stream
      (show (Outline.sample (List.replicate miniCutoff 7))[2]? = _ from rfl) rfl
    rw [if_neg (Nat.not_lt.mpr (Nat.le_of_eq hlong.symm))] at he
    obtain ⟨hkeeps, hcount⟩ := hkept.large _ e he
    rw [hlarges, List.mem_singleton] at he
    obtain rfl := (Prod.mk.inj he).2
    have hintact := hkeeps.intact hcount hkept.sectorSize_pos
    rw [← hstart, ← hsize] at hintact
    rw [hlong, ← hcutoff] at hsize
    have hpos : 0 < r.size := by rw [hsize, hcutoff]; decide
    have hle : c.volume.miniCutoff ≤ r.size := Nat.le_of_eq hsize.symm
    obtain ⟨hnotices, hread, -⟩ := (readRecord_addressed hload r hstream hpos).1 _ hle hintact
    exact ⟨r, hstream, hpos, hle, hintact, hnotices, hread⟩
  · -- the small one is the second, and its mini sector is the first of the mini stream
    obtain ⟨r, e, -, hstream, hstart, hsize, he⟩ := hholding.stream
      (show (Outline.sample (List.replicate miniCutoff 7))[1]? = _ from rfl) rfl
    rw [if_pos (show ([1, 2, 3] : List UInt8).length < miniCutoff by decide)] at he
    obtain ⟨hkeeps, hcount⟩ := hkept.mini _ e he
    rw [minis_sample hlong, List.mem_singleton] at he
    obtain rfl := (Prod.mk.inj he).2
    have hroot := hkept.miniStreamSectors.intact hkept.miniStreamCount hkept.sectorSize_pos
    rw [← hholding.miniStreamStart, ← hholding.miniStreamSize, hminiStream] at hroot
    have hpos : 0 < r.size := by rw [hsize]; decide
    have hlt : r.size < c.volume.miniCutoff := by rw [hsize, hcutoff]; decide
    have hpath := hkeeps.path
    rw [← hstart] at hpath
    rw [← hsize] at hcount
    have hinside : ∀ m ∈ [0], (m + 1) * c.volume.miniSectorSize ≤ c.volume.miniStream.size := by
      intro m hm
      rw [List.mem_singleton.mp hm, hkept.miniSectorSize, ← Bytes.length_toList, hkept.miniStream,
        miniStream, miniPayloads_sample hlong]
      decide
    obtain ⟨hnotices, hread, -⟩ := (readRecord_addressed hload r hstream hpos).2 [8] [0] hlt
      hroot ⟨_, hpath⟩ hcount hinside
    exact ⟨r, hstream, hpos, hlt, hroot, ⟨_, hpath⟩, hcount, hinside, hnotices, hread⟩

end Container

end InstallerPackage
