import InstallerPackage.Container.Allocation
import InstallerPackage.Container.Tree

/-!
# Opening a compound file

`Container.load` reads, in this order, the header, the list of the sectors that hold the allocation
table, that table, the directory, the mini allocation table and the mini stream, and then builds the
tree of storages. Only the header, the allocation table and the directory can make it fail.
-/

namespace InstallerPackage

/-- An open compound file. -/
structure Container where
  header : Header
  /-- The sectors that hold the allocation table. -/
  tableSectors : Array Nat
  volume : Volume
  directory : Directory
  root : Node

namespace Container

/-- The allocation table, if at least one entry of it can be read. -/
def loadTable (m : Medium) (sectors : Array Nat) : Attempt (Array Nat) := do
  let table ← Attempt.ofNoted (Allocation.load m sectors)
  if table.isEmpty then .fail .noAllocationTable else pure table

/-- The directory, if at least its root can be read. -/
def loadDirectory (v : Volume) (start : Nat) : Attempt Directory := do
  let bytes ← Attempt.ofNoted (v.materialize .regular start 0)
  match Directory.ofBytes? bytes with
  | none => .fail .noDirectory
  | some directory => pure directory

/-- The mini stream, whose place and size the root record tells. -/
def loadMiniStream (v : Volume) (root : Record) : Noted ByteArray :=
  if root.size = 0 then pure ByteArray.empty
  else do
    let bytes ← v.materialize .regular root.start root.size
    if bytes.size < root.size then .report (.miniStreamShort bytes.size root.size)
    pure bytes

/-- Opens a file. -/
def load (b : ByteArray) : Attempt Container := do
  let header ← Header.load b
  let medium := header.medium b
  let tableSectors ← Attempt.ofNoted (Allocation.collect medium header.slots header.listStart)
  let table ← loadTable medium tableSectors
  -- the directory lies in whole sectors, so it can be read before there is a mini stream
  let bare : Volume :=
    { toMedium := medium
      miniSectorSize := header.miniSectorSize
      miniCutoff := header.miniCutoff
      table := table }
  let directory ← loadDirectory bare header.directoryStart
  let miniTable ← Attempt.ofNoted (bare.materialize .regular header.miniTableStart 0)
  let miniStream ← Attempt.ofNoted (loadMiniStream bare directory.root)
  let root ← Attempt.ofNoted directory.tree
  pure
    { header := header
      tableSectors := tableSectors
      volume := { bare with miniTable := Bytes.words miniTable, miniStream := miniStream }
      directory := directory
      root := root }

end Container

end InstallerPackage
