import Std.Data.TreeSet
import InstallerPackage.Container.Header

/-!
# Zones

A map of the file's own administration: the header, the sectors of the allocation table that the
header lists, and the sectors of the directory. Neighbouring sectors are merged into one zone.

* `Run.merge` is the canonical form of a set of sectors: runs in ascending order, at least one sector
  apart.
* `Zone.directorySectors` are the distinct sectors of the directory's chain.
* `Zone.map` lists the zones of a file.
-/

namespace InstallerPackage

/-- Consecutive sectors. -/
structure Run where
  first : Nat
  count : Nat
  deriving DecidableEq, Repr

namespace Run

/-- The sectors of a run. -/
def sectors (r : Run) : List Nat := List.range' r.first r.count

/-- The runs that begin with `count` sectors from `first` on and go on with an ascending list. -/
def extend (first count : Nat) : List Nat → List Run
  | [] => [⟨first, count⟩]
  | s :: rest =>
    if s = first + count then extend first (count + 1) rest
    else if first + count < s then ⟨first, count⟩ :: extend s 1 rest
    else extend first count rest

/-- The runs of an ascending list. -/
def ofSorted : List Nat → List Run
  | [] => []
  | s :: rest => extend s 1 rest

/-- The runs of some sectors, whatever their order and however often they are named. -/
def merge (sectors : List Nat) : List Run := ofSorted sectors.mergeSort

end Run

/-- What a zone holds. -/
inductive ZoneKind where
  | header
  | allocationTable
  | directory
  deriving DecidableEq, Repr

/-- The caption of a zone. -/
def ZoneKind.label : ZoneKind → String
  | header => "Header"
  | allocationTable => "FAT Sector"
  | directory => "Directory Sector"

/-- A part of the file. -/
structure Zone where
  offset : Nat
  size : Nat
  kind : ZoneKind
  /-- The first sector of the zone; the header has no number. -/
  sector : Option Nat
  deriving DecidableEq, Repr

namespace Zone

/-- The zone of the header. -/
def header : Zone := ⟨0, Header.size, .header, none⟩

/-- The zone of a run of sectors. -/
def ofRun (m : Medium) (kind : ZoneKind) (r : Run) : Zone :=
  ⟨m.offset r.first, r.count * m.sectorSize, kind, some r.first⟩

/-- The sectors of the allocation table that the header lists. -/
def tableSectors (slots : List Nat) : List Nat := slots.filter (· < firstReserved)

/-- The sectors of a chain up to the first one that is met again or that the table does not know. -/
def distinct (table : Array Nat) : (steps : Nat) → (link : Nat) → Std.TreeSet Nat → List Nat
  | 0, _, _ => []
  | steps + 1, link, met =>
    match table[link]? with
    | none => []
    | some next =>
      -- the first sector that is met again ends the chain
      if met.contains link then [] else link :: distinct table steps next (met.insert link)

/-- The sectors of the directory. They are distinct, so there are no more than the table has
entries. -/
def directorySectors (table : Array Nat) (start : Nat) : List Nat :=
  distinct table table.size start ∅

/-- The zones of a file: the header, then the allocation table, then the directory. -/
def map (v : Volume) (slots : List Nat) (directoryStart : Nat) : List Zone :=
  header ::
    (Run.merge (tableSectors slots)).map (ofRun v.toMedium .allocationTable) ++
    (Run.merge (directorySectors v.table directoryStart)).map (ofRun v.toMedium .directory)

end Zone

end InstallerPackage
