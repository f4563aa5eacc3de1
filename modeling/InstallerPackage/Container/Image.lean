import InstallerPackage.Container.Outline

/-!
# Writing a compound file

`Image.write` lays out a tree of storages and streams as a file. Behind the header come, in this order,
the streams of at least 4096 bytes, the mini stream, the mini allocation table, the directory, the
allocation table and the sectors that list it. Every one of them takes consecutive sectors.

The smaller streams are packed into the mini stream in the order of the directory, in pieces of
64 bytes. The header lists the first sectors of the allocation table, at most as many as the layout
allows; the others are listed by the list sectors, each of which leads to the next.
-/

namespace InstallerPackage

/-- The link of a sector that holds a part of the allocation table. -/
def tableSectorMark : Nat := 0xFFFFFFFD

/-- The link of a sector that lists sectors of the allocation table. -/
def listSectorMark : Nat := 0xFFFFFFFC

/-- How a file is to be laid out. -/
structure Layout where
  /-- Sectors have `2 ^ sectorShift` bytes. -/
  sectorShift : Nat := 9
  /-- The sectors of the allocation table that the header lists at most. -/
  headerSlots : Nat := Header.slotCount
  /-- May a name stand before another one among siblings? -/
  order : Name → Name → Bool := Name.before

namespace Layout

/-- The number of bytes in a sector. -/
def sectorSize (l : Layout) : Nat := 1 <<< l.sectorShift

/-- The links in a sector of the allocation table. -/
def linksPerSector (l : Layout) : Nat := l.sectorSize / 4

/-- The entries in a list sector. -/
def entriesPerList (l : Layout) : Nat := l.linksPerSector - 1

/-- Increases the numbers of table sectors and of list sectors until `data` further sectors and they
themselves fit into the table. -/
def settle (l : Layout) (data : Nat) : (steps : Nat) → (tables lists : Nat) → Nat × Nat
  | 0, tables, lists => (tables, lists)
  | steps + 1, tables, lists =>
    let neededTables := Bytes.pieces l.linksPerSector (data + tables + lists)
    let neededLists := Bytes.pieces l.entriesPerList (neededTables - l.headerSlots)
    if neededTables ≤ tables ∧ neededLists = lists then (tables, lists)
    else settle l data steps (max neededTables tables) neededLists

end Layout

namespace Image

/-- Streams of fewer bytes live in the mini stream. -/
def miniCutoff : Nat := 4096

/-- The number of bytes in a mini sector. -/
def miniSectorSize : Nat := 64

/-- Consecutive sectors, linked to each other. -/
structure Extent where
  first : Nat
  count : Nat
  deriving DecidableEq, Repr

namespace Extent

/-- The link to an extent. -/
def start (e : Extent) : Nat := if e.count = 0 then endOfChain else e.first

/-- The links of its sectors. -/
def links (e : Extent) : List Nat :=
  (List.range e.count).map fun i => if i + 1 < e.count then e.first + i + 1 else endOfChain

end Extent

/-- The extents of payloads that are placed one after the other from `first` on. -/
def place (unit : Nat) : (first : Nat) → List (List UInt8) → List Extent
  | _, [] => []
  | first, payload :: rest =>
    let count := Bytes.pieces unit payload.length
    ⟨first, count⟩ :: place unit (first + count) rest

/-- Does an item live in the mini stream? -/
def isMini (i : Item) : Bool := i.kind.isStream && i.payload.length < miniCutoff

/-- Does an item live in sectors of its own? -/
def isLarge (i : Item) : Bool := i.kind.isStream && miniCutoff ≤ i.payload.length

/-- The payloads in the mini stream. -/
def miniPayloads (items : List Item) : List (List UInt8) := (items.filter isMini).map Item.payload

/-- The payloads in sectors of their own. -/
def largePayloads (items : List Item) : List (List UInt8) :=
  (items.filter isLarge).map Item.payload

/-- The mini stream. -/
def miniStream (items : List Item) : List UInt8 :=
  (miniPayloads items).flatMap (Bytes.padTo miniSectorSize)

/-- Some words, four bytes each. -/
def words (l : List Nat) : List UInt8 := l.flatMap (Bytes.little 4)

/-- The mini allocation table. -/
def miniTable (items : List Item) : List Nat :=
  (place miniSectorSize 0 (miniPayloads items)).flatMap Extent.links

/-- The number of records that fill up the directory. -/
def directorySize (l : Layout) (items : List Item) : Nat :=
  let perSector := l.sectorSize / Record.length
  Bytes.pieces perSector items.length * perSector

/-- A directory record for a stream of `size` bytes that begins at `start`. -/
def record (i : Item) (start size : Nat) : List UInt8 :=
  let units := (i.name.take (Record.nameUnits - 1)).flatMap (Bytes.little 2)
  -- the name, with room for the zero at its end, and its length
  units ++ List.replicate (2 * Record.nameUnits - units.length) 0 ++
    Bytes.little 2 (if i.kind = .unallocated then 0 else units.length + 2) ++
    -- kind, color and links
    Bytes.little 1 i.kind.code ++ Bytes.little 1 1 ++ Bytes.little 4 i.left ++
    Bytes.little 4 i.right ++ Bytes.little 4 i.child ++
    -- class, state and the two times
    List.replicate 16 0 ++ Bytes.little 4 0 ++ Bytes.little 8 0 ++ Bytes.little 8 0 ++
    -- the stream
    Bytes.little 4 start ++ Bytes.little 8 size

/-- The record of a position that is not in use. -/
def unusedRecord : List UInt8 := record { name := [], kind := .unallocated } endOfChain 0

/-- The records of items, for the extents of the small and of the large streams that are still to
come. -/
def recordsFrom : (mini large : List Extent) → List Item → List UInt8
  | _, _, [] => []
  | mini, large, i :: rest =>
    if isMini i then
      record i ((mini.head?.map Extent.start).getD endOfChain) i.payload.length ++
        recordsFrom mini.tail large rest
    else if isLarge i then
      record i ((large.head?.map Extent.start).getD endOfChain) i.payload.length ++
        recordsFrom mini large.tail rest
    else record i endOfChain 0 ++ recordsFrom mini large rest

/-- The directory: the root's stream is the mini stream. -/
def directory (l : Layout) (items : List Item) (mini large : List Extent) (miniStart : Nat) :
    List UInt8 :=
  match items with
  | [] => []
  | root :: rest =>
    record root miniStart (miniStream items).length ++ recordsFrom mini large rest ++
      (List.replicate (directorySize l items - items.length) unusedRecord).flatten

/-- The sectors of the parts that are linked by the allocation table, and where they are. -/
structure Plan where
  large : List Extent
  miniStream : Extent
  miniTable : Extent
  directory : Extent
  /-- The sectors of the allocation table. -/
  table : Extent
  /-- The sectors that list those that the header does not. -/
  list : Extent
  deriving DecidableEq, Repr

/-- The places of all parts of a file. -/
def plan (l : Layout) (items : List Item) : Plan :=
  let ss := l.sectorSize
  let large := place ss 0 (largePayloads items)
  let next (e : Extent) : Nat := e.first + e.count
  let largeEnd := (large.map Extent.count).foldr (· + ·) 0
  let miniStream : Extent := ⟨largeEnd, Bytes.pieces ss (miniStream items).length⟩
  let miniTable : Extent := ⟨next miniStream, Bytes.pieces ss (4 * (miniTable items).length)⟩
  let directory : Extent :=
    ⟨next miniTable, Bytes.pieces (ss / Record.length) items.length⟩
  -- the table also has links for its own sectors and for the list's
  let data := next directory
  let (tables, lists) := l.settle data (data + 4) 1 0
  { large := large
    miniStream := miniStream
    miniTable := miniTable
    directory := directory
    table := ⟨data, tables⟩
    list := ⟨data + tables, lists⟩ }

namespace Plan

/-- The number of sectors behind the header. -/
def total (p : Plan) : Nat := p.list.first + p.list.count

/-- The allocation table, filled up with links of free sectors. -/
def links (p : Plan) (l : Layout) : List Nat :=
  let used := p.large.flatMap Extent.links ++ p.miniStream.links ++ p.miniTable.links ++
    p.directory.links ++ List.replicate p.table.count tableSectorMark ++
    List.replicate p.list.count listSectorMark
  used ++ List.replicate (p.table.count * l.linksPerSector - used.length) freeSector

/-- The sectors of the allocation table. -/
def tableSectors (p : Plan) : List Nat := List.range' p.table.first p.table.count

/-- The entries of the list sectors from `sector` on, and the links between them. -/
def listWords (l : Layout) : (count sector : Nat) → List Nat → List Nat
  | 0, _, _ => []
  | count + 1, sector, entries =>
    let here := entries.take l.entriesPerList
    here ++ List.replicate (l.entriesPerList - here.length) freeSector ++
      [if count = 0 then endOfChain else sector + 1] ++
      listWords l count (sector + 1) (entries.drop l.entriesPerList)

/-- The fields of the header. -/
def header (p : Plan) (l : Layout) : List UInt8 :=
  let small := l.sectorShift = 9
  let slots := p.tableSectors.take l.headerSlots
  Header.signatureBytes.map UInt8.ofNat ++ List.replicate 16 0 ++
    -- versions, byte order and sector sizes
    Bytes.little 2 0x003E ++ Bytes.little 2 (if small then 3 else 4) ++
    Bytes.little 2 Header.usualByteOrder ++ Bytes.little 2 l.sectorShift ++
    Bytes.little 2 Header.usualMiniSectorShift ++ List.replicate 6 0 ++
    -- the places of all parts
    words [if small then 0 else p.directory.count, p.table.count, p.directory.first, 0, miniCutoff,
      p.miniTable.start, p.miniTable.count, p.list.start, p.list.count] ++
    words (slots ++ List.replicate (Header.slotCount - slots.length) freeSector)

end Plan

/-- The bytes of a file that holds the given entries. -/
def bytes (l : Layout) (o : Outline) : List UInt8 :=
  let items := o.items l.order
  let p := plan l items
  let mini := place miniSectorSize 0 (miniPayloads items)
  let fill := Bytes.padTo l.sectorSize
  fill (p.header l) ++ (largePayloads items).flatMap fill ++ fill (miniStream items) ++
    fill (words (miniTable items)) ++ directory l items mini p.large p.miniStream.start ++
    words (p.links l) ++
    words (Plan.listWords l p.list.count p.list.first (p.tableSectors.drop l.headerSlots))

/-- A file that holds the given entries. -/
def write (l : Layout) (o : Outline) : ByteArray := Bytes.ofList (bytes l o)

end Image

end InstallerPackage
