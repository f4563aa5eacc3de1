import InstallerPackage.Container.Volume

/-!
# The allocation table

The table that links the sectors is itself stored in sectors. Which ones is said by a list: its
first 109 entries stand in the header, the others in a chain of list sectors, each of which ends with
the number of the next one.

* `Allocation.collect` reads the list.
* `Allocation.load` reads the sectors on the list, one after the other, into one table.

Sectors that are not wholly inside the file are reported and skipped.
-/

namespace InstallerPackage.Allocation

/-- The list sectors that are followed before the chain is given up. -/
def listLimit : Nat := 10000

/-- The entries that stand in the header, up to the first sentinel. -/
def headEntries (slots : List Nat) : List Nat := slots.takeWhile (! isSentinel ·)

/-- The entries of a list sector: all its words but the last one, sentinels left out. -/
def listEntries (sector : ByteArray) : Array Nat :=
  (Bytes.words sector).pop.filter (! isSentinel ·)

/-- The last word of a list sector: the number of the next one. -/
def nextList (sector : ByteArray) : Nat := Bytes.number sector (sector.size - 4) 4

/-- Appends to `found` the entries of the list sectors from `current` on, at most `steps` of them. -/
def follow (m : Medium) : (steps : Nat) → (current : Nat) → (found : Array Nat) → Noted (Array Nat)
  | steps, current, found =>
    if isSentinel current then pure found
    else match steps with
      | 0 => ⟨found, [.allocationListCut listLimit]⟩
      | steps + 1 =>
        -- a sector that is cut off has neither entries nor a link that could be trusted
        if m.hasSector current then
          let sector := m.sector current
          follow m steps (nextList sector) (found ++ listEntries sector)
        else ⟨found, [.allocationListMissing current]⟩

/-- The sectors that hold the allocation table, in order: those listed in the header's `slots`, then
those listed in the sectors from `start` on. -/
def collect (m : Medium) (slots : List Nat) (start : Nat) : Noted (Array Nat) :=
  follow m listLimit start (headEntries slots).toArray

/-- The table held by the listed sectors. -/
def load (m : Medium) (sectors : Array Nat) : Noted (Array Nat) :=
  ⟨sectors.foldl
      (fun table n => if m.hasSector n then table ++ Bytes.words (m.sector n) else table) #[],
    (sectors.toList.filter (! m.hasSector ·)).map .allocationSectorMissing⟩

end InstallerPackage.Allocation
