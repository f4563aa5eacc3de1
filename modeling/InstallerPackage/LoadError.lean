import InstallerPackage.Bytes
import InstallerPackage.Notice

/-!
# Files that cannot be read at all

Most damage is survived and leads to a `Notice`. Five kinds are fatal: without a header, an allocation
table or a directory there is nothing to read. `LoadError` names them, and `Attempt α` is a
computation that may end in one of them; the notices from before it failed are kept.
`outcome_bind_of_ok` and `outcome_bind_of_error` say how attempts follow each other.
-/

namespace InstallerPackage

/-- Why a file cannot be read at all. -/
inductive LoadError where
  /-- The file is shorter than a header. -/
  | tooSmall (size : Nat)
  /-- The file does not begin with the signature of a compound file. -/
  | badSignature (found : ByteArray)
  /-- The sectors are smaller than 512 or larger than 4096 bytes. -/
  | unsupportedSectorShift (shift : Nat)
  /-- No sector of the allocation table lies inside the file. -/
  | noAllocationTable
  /-- The directory has no room for its root record. -/
  | noDirectory

namespace LoadError

/-- The wording of an error. -/
def message : LoadError → String
  | tooSmall size => "File too small for a compound file header: " ++ toString size ++ " bytes"
  | badSignature found => "Invalid signature " ++ Bytes.hex found
  | unsupportedSectorShift shift => "Unsupported sector shift " ++ toString shift
  | noAllocationTable => "Failed to load FAT"
  | noDirectory => "Failed to read Directory stream"

/-- Is the header at fault? -/
def isHeaderFault : LoadError → Bool
  | tooSmall _ | badSignature _ | unsupportedSectorShift _ => true
  | noAllocationTable | noDirectory => false

end LoadError

/-- A computation that reports what it had to correct and may find that nothing can be read. -/
abbrev Attempt := ExceptT LoadError Noted

namespace Attempt

variable {α β : Type}

/-- Ends with an error. -/
def fail (e : LoadError) : Attempt α := ExceptT.mk (pure (.error e))

/-- A computation that always has a result. -/
def ofNoted (x : Noted α) : Attempt α := ExceptT.lift x

/-- The outcome of an attempt, and the notices up to it. -/
def outcome (x : Attempt α) : Noted (Except LoadError α) := x.run

@[simp] theorem outcome_pure (a : α) : (pure a : Attempt α).outcome = pure (.ok a) := rfl

@[simp] theorem outcome_fail (e : LoadError) :
    (fail e : Attempt α).outcome = pure (.error e) := rfl

@[simp] theorem outcome_ofNoted (x : Noted α) :
    (ofNoted x).outcome = ⟨.ok x.value, x.notices⟩ := by
  apply Noted.ext
  · rfl
  · simp [ofNoted, outcome, ExceptT.lift, ExceptT.run, ExceptT.mk, Functor.map]

theorem outcome_bind_of_ok {x : Attempt α} {a : α} (h : x.outcome.value = .ok a)
    (f : α → Attempt β) :
    (x >>= f).outcome = ⟨(f a).outcome.value, x.outcome.notices ++ (f a).outcome.notices⟩ := by
  change x.value = .ok a at h
  apply Noted.ext
  · simp [outcome, ExceptT.run, bind, ExceptT.bind, ExceptT.mk, ExceptT.bindCont, h]
  · simp [outcome, ExceptT.run, bind, ExceptT.bind, ExceptT.mk, ExceptT.bindCont, h]

theorem outcome_bind_of_error {x : Attempt α} {e : LoadError} (h : x.outcome.value = .error e)
    (f : α → Attempt β) : (x >>= f).outcome = ⟨.error e, x.outcome.notices⟩ := by
  change x.value = .error e at h
  apply Noted.ext
  · simp [outcome, ExceptT.run, bind, ExceptT.bind, ExceptT.mk, ExceptT.bindCont, h, pure]
  · simp [outcome, ExceptT.run, bind, ExceptT.bind, ExceptT.mk, ExceptT.bindCont, h, pure]

end Attempt

end InstallerPackage
