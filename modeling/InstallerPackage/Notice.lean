import InstallerPackage.Container.Name

/-!
# Notices

A damaged file is read as far as it goes. Whatever had to be cut, skipped or corrected on the way
is reported as a `Notice` beside the result, in the order in which it was met.

* `Notice` has a constructor for every such event, with the values that tell where it happened.
* `Notice.template` and `Notice.arguments` give its wording.
* `Noted α` is a value of type `α` with the notices that producing it gave rise to. It is a monad:
  `value_bind` and `notices_bind` say that the notices of consecutive steps are appended.
-/

namespace InstallerPackage

/-- The two kinds of sectors that a file is made of. -/
inductive Space where
  /-- The sectors of the file, linked by its allocation table. -/
  | regular
  /-- The small sectors inside the mini stream, linked by the mini allocation table. -/
  | mini
  deriving DecidableEq, Repr

/-- Something that had to be cut, skipped or corrected while reading. -/
inductive Notice where
  /-- The mark of the byte order is not the usual one. -/
  | unusualByteOrder (found usual : Nat)
  /-- The size of the mini sectors is not the usual one. -/
  | unusualMiniSectorShift (found usual : Nat)
  /-- The chain of sectors that list the allocation table is longer than `limit`. -/
  | allocationListCut (limit : Nat)
  /-- A sector that lists parts of the allocation table is not wholly inside the file. -/
  | allocationListMissing (sector : Nat)
  /-- A sector of the allocation table is not wholly inside the file. -/
  | allocationSectorMissing (sector : Nat)
  /-- A chain leads to a sector that its table of `entries` entries does not know. -/
  | linkOutside (sector : Nat) (space : Space) (entries : Nat)
  /-- The chain from `start` goes on after as many steps as its stream can need. -/
  | chainCut (start steps : Nat)
  /-- A stream has fewer bytes than its record declares. -/
  | streamShort (name : Name) (found declared : Nat)
  /-- The mini stream has fewer bytes than the root record declares. -/
  | miniStreamShort (found declared : Nat)
  /-- A directory link leads to a record that does not exist. -/
  | recordOutside (id entries : Nat)
  /-- A property set declares more properties than its table can hold. -/
  | propertyCountCut (declared possible : Nat)
  /-- A string of the pool ends after the text that the pool has. -/
  | stringOverrun (index offset length available : Nat)
  /-- The database has no list of columns. -/
  | noColumns
  /-- A time is too late to be written as a date. -/
  | timeOutOfRange (seconds : Nat)
  deriving DecidableEq, Repr

/-- The part of a file that a notice is about. -/
inductive Area where
  | header | allocationList | allocationTable | chain | miniStream | directory
  | summary | stringPool | schema | report
  deriving DecidableEq, Repr

/-- A value in the wording of a notice. -/
inductive Argument where
  | number (n : Nat)
  | word (w : String)
  | name (n : Name)
  deriving DecidableEq, Repr

namespace Notice

/-- The part of the file that the notice is about. -/
def area : Notice → Area
  | unusualByteOrder .. | unusualMiniSectorShift .. => .header
  | allocationListCut .. | allocationListMissing .. => .allocationList
  | allocationSectorMissing .. => .allocationTable
  | linkOutside .. | chainCut .. | streamShort .. => .chain
  | miniStreamShort .. => .miniStream
  | recordOutside .. => .directory
  | propertyCountCut .. => .summary
  | stringOverrun .. => .stringPool
  | noColumns => .schema
  | timeOutOfRange .. => .report

/-- The wording, with a placeholder for every argument: `%d` for a decimal and `%X` for a
hexadecimal number, `%s` for a word and `%r` for a quoted name. -/
def template : Notice → String
  | unusualByteOrder .. => "Byte order mark is %04Xh instead of %04Xh"
  | unusualMiniSectorShift .. => "Mini sector shift is %d instead of %d"
  | allocationListCut .. => "DIFAT chain longer than %d sectors, truncated"
  | allocationListMissing .. => "DIFAT sector %Xh lies beyond the end of file"
  | allocationSectorMissing .. => "FAT sector %Xh lies beyond the end of file, skipped"
  | linkOutside .. => "Sector %Xh outside of the %s (%d entries)"
  | chainCut .. => "Sector chain from %Xh exceeds %d steps, truncated"
  | streamShort .. => "Stream %r truncated: %d of %d bytes"
  | miniStreamShort .. => "Mini stream truncated: %d of %d bytes"
  | recordOutside .. => "Directory id %Xh outside of the directory (%d entries)"
  | propertyCountCut .. => "Property count %d clamped to %d"
  | stringOverrun .. => "String %d overruns _StringData (%d + %d > %d), pool truncated"
  | noColumns => "No _Columns stream, database has no tables"
  | timeOutOfRange .. => "Timestamp %d outside of the supported date range"

/-- The values for the placeholders of the wording, from left to right. -/
def arguments : Notice → List Argument
  | unusualByteOrder found usual | unusualMiniSectorShift found usual =>
    [.number found, .number usual]
  | allocationListCut limit => [.number limit]
  | allocationListMissing sector | allocationSectorMissing sector => [.number sector]
  | linkOutside sector space entries =>
    [.number sector, .word (match space with | .regular => "FAT" | .mini => "MiniFAT"),
      .number entries]
  | chainCut start steps => [.number start, .number steps]
  | streamShort name found declared => [.name name, .number found, .number declared]
  | miniStreamShort found declared => [.number found, .number declared]
  | recordOutside id entries => [.number id, .number entries]
  | propertyCountCut declared possible => [.number declared, .number possible]
  | stringOverrun index offset length available =>
    [.number index, .number offset, .number length, .number available]
  | noColumns => []
  | timeOutOfRange seconds => [.number seconds]

end Notice

/-- A value and the notices that producing it gave rise to, oldest first. -/
structure Noted (α : Type) where
  /-- The result. -/
  value : α
  /-- What had to be cut, skipped or corrected. -/
  notices : List Notice
  deriving Repr

namespace Noted

variable {α β : Type}

instance : Monad Noted where
  pure a := ⟨a, []⟩
  bind x f :=
    let y := f x.value
    ⟨y.value, x.notices ++ y.notices⟩

/-- Reports one event. -/
def report (n : Notice) : Noted Unit := ⟨(), [n]⟩

@[simp] theorem value_pure (a : α) : (pure a : Noted α).value = a := rfl

@[simp] theorem notices_pure (a : α) : (pure a : Noted α).notices = [] := rfl

@[simp] theorem value_bind (x : Noted α) (f : α → Noted β) :
    (x >>= f).value = (f x.value).value := rfl

@[simp] theorem notices_bind (x : Noted α) (f : α → Noted β) :
    (x >>= f).notices = x.notices ++ (f x.value).notices := rfl

@[simp] theorem notices_report (n : Notice) : (report n).notices = [n] := rfl

@[ext] theorem ext {x y : Noted α} (h : x.value = y.value) (h' : x.notices = y.notices) :
    x = y := by
  cases x
  cases y
  simp_all

instance : LawfulMonad Noted :=
  LawfulMonad.mk' Noted
    (fun _ => Noted.ext rfl (by simp [Functor.map]))
    (fun _ _ => Noted.ext rfl (by simp))
    (fun _ _ _ => Noted.ext rfl (by simp))

end Noted

end InstallerPackage
