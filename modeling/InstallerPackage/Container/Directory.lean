import InstallerPackage.Container.Header

/-!
# The directory

The directory is a stream of 128-byte records, one for each storage and each stream of the file. The
records refer to each other by position; record 0 is the root, and its stream is the mini stream.

* `Record.read` cuts a record out of the directory's bytes.
* `Directory.find?` looks a record up by its readable name, `Directory.findContaining?` a stream by a
  part of it.
* `Volume.readRecord` collects the bytes of a record's stream, in the space that its size assigns it
  to.
-/

namespace InstallerPackage

/-- What a directory record stands for. -/
inductive ObjectKind where
  | unallocated
  | storage
  | stream
  | root
  /-- A code without a meaning. -/
  | other (code : Nat)
  deriving DecidableEq, Repr

namespace ObjectKind

/-- The meaning of a stored code. -/
def ofCode : Nat → ObjectKind
  | 0 => unallocated
  | 1 => storage
  | 2 => stream
  | 5 => root
  | code => other code

/-- The code that is stored. -/
def code : ObjectKind → Nat
  | unallocated => 0
  | storage => 1
  | stream => 2
  | root => 5
  | other code => code

@[simp] theorem code_ofCode (c : Nat) : (ofCode c).code = c := by
  unfold ofCode
  split <;> rfl

/-- Can the object have children? -/
def isStorage (kind : ObjectKind) : Bool := kind.code == 1 || kind.code == 5

/-- Does the object have bytes of its own? -/
def isStream (kind : ObjectKind) : Bool := kind.code == 2

end ObjectKind

/-- A directory record. -/
structure Record where
  /-- The name as stored. -/
  name : Name
  kind : ObjectKind
  /-- The record before this one among its siblings. -/
  left : Nat := freeSector
  /-- The record after this one among its siblings. -/
  right : Nat := freeSector
  /-- The record at the root of the children's tree. -/
  child : Nat := freeSector
  /-- The first sector of the record's stream. -/
  start : Nat := endOfChain
  /-- The number of bytes in the record's stream. -/
  size : Nat := 0
  /-- The length of the name field as declared, in bytes. -/
  nameBytes : Nat := 0
  color : Nat := 0
  classId : ByteArray := ByteArray.empty
  state : Nat := 0
  created : Nat := 0
  modified : Nat := 0

namespace Record

/-- The number of bytes in a record. -/
def length : Nat := 128

/-- The units that the name field has room for. -/
def nameUnits : Nat := 32

/-- The units of a name whose field declares `nameBytes` bytes: what fits into the field, without
the zero at the end. -/
def unitCount (nameBytes : Nat) : Nat := min (nameBytes / 2) nameUnits - 1

/-- The record in the bytes from `offset` on. -/
def read (b : ByteArray) (offset : Nat) : Record :=
  let nameBytes := Bytes.number b (offset + 64) 2
  { name := (List.range (unitCount nameBytes)).map fun i => Bytes.number b (offset + 2 * i) 2
    kind := .ofCode (Bytes.number b (offset + 66) 1)
    -- the links to other records
    left := Bytes.number b (offset + 68) 4
    right := Bytes.number b (offset + 72) 4
    child := Bytes.number b (offset + 76) 4
    -- the stream
    start := Bytes.number b (offset + 116) 4
    size := Bytes.number b (offset + 120) 8
    -- fields that nothing else depends on
    nameBytes := nameBytes
    color := Bytes.number b (offset + 67) 1
    classId := Bytes.slice b (offset + 80) 16
    state := Bytes.number b (offset + 96) 4
    created := Bytes.number b (offset + 100) 8
    modified := Bytes.number b (offset + 108) 8 }

/-- The readable name. -/
def decoded (r : Record) : Name := r.name.decode

/-- Can the record have children? -/
def isStorage (r : Record) : Bool := r.kind.isStorage

/-- Does the record have bytes of its own? -/
def isStream (r : Record) : Bool := r.kind.isStream

end Record

/-- The records of a file, the root first. -/
structure Directory where
  records : Array Record
  /-- There is a root. -/
  size_pos : 0 < records.size

namespace Directory

/-- The number of records. -/
def size (d : Directory) : Nat := d.records.size

/-- The root record. -/
def root (d : Directory) : Record := getElem d.records 0 d.size_pos

/-- The records in a directory stream; a part of a record at its end is left out. -/
def ofBytes? (b : ByteArray) : Option Directory :=
  if h : Record.length ≤ b.size then
    some
      { records := Array.ofFn fun i : Fin (b.size / Record.length) =>
          Record.read b (i * Record.length)
        size_pos := by
          simp only [Array.size_ofFn]
          exact Nat.div_pos h (by decide) }
  else none

/-- The position of the first record for which `p` holds. -/
def findId? (d : Directory) (p : Record → Bool) : Option Nat := d.records.findIdx? p

/-- Does a record have the given readable name? -/
def named (name : Name) (r : Record) : Bool := r.decoded == name

/-- Does a record stand for a stream whose readable name contains `fragment`? -/
def streamContains (fragment : Name) (r : Record) : Bool :=
  r.isStream && r.decoded.contains fragment

/-- The first record with the given readable name. -/
def find? (d : Directory) (name : Name) : Option Record := d.records.find? (named name)

/-- The first stream whose readable name contains `fragment`. -/
def findContaining? (d : Directory) (fragment : Name) : Option Record :=
  d.records.find? (streamContains fragment)

end Directory

namespace Volume

/-- The space in which a stream of `size` bytes lives. -/
def spaceOf (v : Volume) (size : Nat) : Space :=
  if size < v.miniCutoff then .mini else .regular

/-- The bytes of a record's stream. Storages have none; the root's are the mini stream and not
returned here. -/
def readRecord (v : Volume) (r : Record) : Noted ByteArray :=
  if r.isStream && r.size != 0 then do
    let bytes ← v.materialize (v.spaceOf r.size) r.start r.size
    if bytes.size < r.size then .report (.streamShort r.decoded bytes.size r.size)
    pure bytes
  else pure ByteArray.empty

end Volume

end InstallerPackage
