import InstallerPackage.LoadError
import InstallerPackage.Container.Volume

/-!
# The header of a compound file

The first 512 bytes say how the file is cut into sectors and where its tables begin.

* `Header.read` cuts the fields out of a file, whatever they hold.
* `isCompoundFile` is the cheap test that tells a compound file from other files.
* `Header.load` makes the same test and says what is wrong when it fails; it also reports fields
  that are unusual but harmless.
-/

namespace InstallerPackage

/-- The fields of the header. -/
structure Header where
  signature : Nat
  classId : ByteArray
  minorVersion : Nat
  majorVersion : Nat
  /-- The mark of the byte order, `0xFFFE` in every known file. -/
  byteOrder : Nat
  /-- Sectors have `2 ^ sectorShift` bytes. -/
  sectorShift : Nat
  /-- Mini sectors have `2 ^ miniSectorShift` bytes. -/
  miniSectorShift : Nat
  reserved : ByteArray
  directorySectors : Nat
  tableSectors : Nat
  directoryStart : Nat
  transaction : Nat
  /-- Streams of fewer bytes than this one live in the mini stream. -/
  miniCutoff : Nat
  miniTableStart : Nat
  miniTableSectors : Nat
  /-- The first sector that lists more sectors of the allocation table. -/
  listStart : Nat
  listSectors : Nat
  /-- The first sectors of the allocation table. -/
  slots : List Nat

namespace Header

/-- The number of bytes in a header. -/
def size : Nat := 512

/-- The first bytes of every compound file. -/
def signatureBytes : List Nat := [0xD0, 0xCF, 0x11, 0xE0, 0xA1, 0xB1, 0x1A, 0xE1]

/-- The number of sectors of the allocation table that the header has room to list. -/
def slotCount : Nat := 109

/-- The usual mark of the byte order: the lowest byte comes first. -/
def usualByteOrder : Nat := 0xFFFE

/-- Mini sectors usually have 64 bytes. -/
def usualMiniSectorShift : Nat := 6

/-- The fields as they stand in a file. -/
def read (b : ByteArray) : Header where
  -- what kind of file this is
  signature := Bytes.number b 0 8
  classId := Bytes.slice b 8 16
  minorVersion := Bytes.number b 24 2
  majorVersion := Bytes.number b 26 2
  byteOrder := Bytes.number b 28 2
  -- how it is cut into sectors
  sectorShift := Bytes.number b 30 2
  miniSectorShift := Bytes.number b 32 2
  reserved := Bytes.slice b 34 6
  -- where its parts begin and how large they are
  directorySectors := Bytes.number b 40 4
  tableSectors := Bytes.number b 44 4
  directoryStart := Bytes.number b 48 4
  transaction := Bytes.number b 52 4
  miniCutoff := Bytes.number b 56 4
  miniTableStart := Bytes.number b 60 4
  miniTableSectors := Bytes.number b 64 4
  listStart := Bytes.number b 68 4
  listSectors := Bytes.number b 72 4
  slots := (List.range slotCount).map fun i => Bytes.number b (76 + 4 * i) 4

/-- The number of bytes in a sector. -/
def sectorSize (h : Header) : Nat := 1 <<< h.sectorShift

/-- The number of bytes in a mini sector. -/
def miniSectorSize (h : Header) : Nat := 1 <<< h.miniSectorShift

/-- The links that fit into a sector of the allocation table. -/
def linksPerSector (h : Header) : Nat := h.sectorSize / 4

/-- The entries that fit into a list sector; its last word is a link. -/
def entriesPerList (h : Header) : Nat := h.sectorSize / 4 - 1

/-- Are sectors between 512 and 4096 bytes large? -/
def hasSupportedSectors (h : Header) : Bool := 9 ≤ h.sectorShift && h.sectorShift ≤ 12

/-- The fields that are unusual but do no harm. -/
def oddities (h : Header) : List Notice :=
  (if h.byteOrder = usualByteOrder then []
    else [.unusualByteOrder h.byteOrder usualByteOrder]) ++
  (if h.miniSectorShift = usualMiniSectorShift then []
    else [.unusualMiniSectorShift h.miniSectorShift usualMiniSectorShift])

/-- The header of a file, or what is wrong with it. -/
def load (b : ByteArray) : Attempt Header :=
  -- fields past the end of a short file read as zero, and are not used
  let h := read b
  if b.size < size then .fail (.tooSmall b.size)
  else if ! Bytes.startsWith b signatureBytes then .fail (.badSignature (Bytes.slice b 0 8))
  else if ! h.hasSupportedSectors then .fail (.unsupportedSectorShift h.sectorShift)
  else .ofNoted ⟨h, h.oddities⟩

/-- The file that a header describes, cut into sectors. -/
def medium (h : Header) (b : ByteArray) : Medium := ⟨b, h.sectorSize⟩

end Header

/-- Does the file begin with the header of a compound file? -/
def isCompoundFile (b : ByteArray) : Bool :=
  Header.size ≤ b.size && Bytes.startsWith b Header.signatureBytes &&
    (Header.read b).hasSupportedSectors

end InstallerPackage
