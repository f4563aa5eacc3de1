import InstallerPackage.Bytes
import InstallerPackage.Notice
import InstallerPackage.Container.Chain

/-!
# Sectors, and streams made of them

A `Medium` is a file cut into sectors of equal size. The header fills the first of them, so sector
`n` begins at `(n + 1) * sectorSize`; a sector at the end of the file may be short or empty.

A `Volume` is a medium with the tables that link its sectors. Streams live in one of two spaces: in
the sectors of the file, or, when they are small, in mini sectors cut from the *mini stream*.
`Volume.materialize` collects the bytes of a stream in either space:

* it follows the chain for at most `size / unit + 100` steps, or 20000 when the size is unknown;
* a sector that is not there adds nothing, and the chain is followed further;
* the result is cut to the size, so it is never longer.

`Volume.materialize` reports why it stopped if that was not the end of the chain or of the data.
-/

namespace InstallerPackage

/-- A file cut into sectors. -/
structure Medium where
  /-- The whole file, header included. -/
  bytes : ByteArray
  /-- The number of bytes in a sector. -/
  sectorSize : Nat

namespace Medium

/-- The offset of a sector: sector 0 comes right after the header's. -/
def offset (m : Medium) (n : Nat) : Nat := (n + 1) * m.sectorSize

/-- The bytes of a sector, as many as the file has. -/
def sector (m : Medium) (n : Nat) : ByteArray := Bytes.slice m.bytes (m.offset n) m.sectorSize

/-- Does the sector lie wholly inside the file? -/
def hasSector (m : Medium) (n : Nat) : Bool := m.offset n + m.sectorSize ≤ m.bytes.size

/-- The offset of a sector, for numbers on either side of zero. -/
def sectorToOffset (m : Medium) (n : Int) : Int := (n + 1) * m.sectorSize

/-- The sector that an offset lies in. The first 512 bytes count as sector 0. -/
def offsetToSector (m : Medium) (offset : Int) : Int :=
  if offset < 512 then 0 else Int.fdiv offset m.sectorSize - 1

theorem size_sector (m : Medium) (n : Nat) :
    (m.sector n).size = min m.sectorSize (m.bytes.size - m.offset n) := by
  simp [sector]

theorem size_sector_eq_iff (m : Medium) (n : Nat) (h : 0 < m.sectorSize) :
    (m.sector n).size = m.sectorSize ↔ m.hasSector n = true := by
  simp only [size_sector, hasSector, decide_eq_true_eq]
  omega

end Medium

/-- A file with the tables that link its sectors. -/
structure Volume extends Medium where
  /-- The number of bytes in a mini sector. -/
  miniSectorSize : Nat
  /-- Streams of fewer bytes than this one live in the mini stream. -/
  miniCutoff : Nat
  /-- The next sector of every sector. -/
  table : Array Nat
  /-- The next mini sector of every mini sector. -/
  miniTable : Array Nat := #[]
  /-- The stream that holds the mini sectors. -/
  miniStream : ByteArray := ByteArray.empty

namespace Volume

/-- The steps that a chain may take beyond those that its size accounts for. -/
def slack : Nat := 100

/-- The steps that a chain of unknown size may take. -/
def unboundedSteps : Nat := 20000

/-- The table that links the sectors of a space. -/
def links (v : Volume) : Space → Array Nat
  | .regular => v.table
  | .mini => v.miniTable

/-- The number of bytes in a sector of a space. -/
def unit (v : Volume) : Space → Nat
  | .regular => v.sectorSize
  | .mini => v.miniSectorSize

/-- The bytes of a mini sector; none if it is not wholly inside the mini stream. -/
def miniSector (v : Volume) (n : Nat) : ByteArray :=
  if (n + 1) * v.miniSectorSize ≤ v.miniStream.size then
    Bytes.slice v.miniStream (n * v.miniSectorSize) v.miniSectorSize
  else ByteArray.empty

/-- The bytes that a sector of a space adds to a stream. -/
def payload (v : Volume) : Space → Nat → ByteArray
  | .regular => v.sector
  | .mini => v.miniSector

/-- The steps that a stream of `size` bytes may take; a `size` of zero means that it is unknown. -/
def stepLimit (v : Volume) (space : Space) (size : Nat) : Nat :=
  if size = 0 then unboundedSteps else size / v.unit space + slack

/-- The sectors of the stream that begins at `start`. -/
def walk (v : Volume) (space : Space) (start size : Nat) : Chain.Walk :=
  Chain.walk (v.links space) (fun n => (v.payload space n).size) size (v.stepLimit space size) start

/-- The bytes of some sectors, one after the other. -/
def gather (v : Volume) (space : Space) (sectors : Array Nat) : ByteArray :=
  sectors.foldl (fun bytes n => bytes ++ v.payload space n) ByteArray.empty

/-- What there is to report about a walk that stopped for the given reason. -/
def stopNotices (v : Volume) (space : Space) (start size : Nat) : Chain.Stop → List Notice
  | .sentinel | .enough => []
  | .outside link => [.linkOutside link space (v.links space).size]
  | .cut => [.chainCut start (v.stepLimit space size)]

/-- The bytes of the stream that begins at `start`. With a `size` of zero the stream is read to the
end of its chain; otherwise the result has at most `size` bytes, and fewer if the chain is broken. -/
def materialize (v : Volume) (space : Space) (start size : Nat) : Noted ByteArray :=
  let walk := v.walk space start size
  let bytes := v.gather space walk.sectors
  ⟨if size = 0 then bytes else bytes.extract 0 (min size bytes.size),
    v.stopNotices space start size walk.stop⟩

/-- A stream is never longer than it was said to be. -/
theorem size_materialize_le (v : Volume) (space : Space) (start size : Nat) (h : 0 < size) :
    (v.materialize space start size).value.size ≤ size := by
  have : ¬ size = 0 := by omega
  simp only [materialize, this, if_false, ByteArray.size_extract]
  omega

end Volume

end InstallerPackage
