import InstallerPackage.Container.Directory
import InstallerPackage.Proofs.Strict.Faults

/-!
# Streams, read strictly

The only operations of `Volume.materialize` that can fail are a look-up in the table and a division by
the size of a sector. The former comes after a test that the sector is known, and the latter does not
fail in a volume whose sectors have bytes at all: `Strict.materialize_eq`, `Strict.readRecord_eq`.
-/

namespace InstallerPackage

/-- Sectors of both spaces have at least one byte. -/
def Volume.HasUnits (v : Volume) : Prop := ∀ space, 0 < v.unit space

namespace Strict

/-- `Chain.walkFrom`, which looks up only sectors that the table knows. -/
def walkFrom (table : Array Nat) (supply : Nat → Nat) (demand : Nat) :
    (steps : Nat) → (link gathered : Nat) → (met : Array Nat) → Strict (Array Nat)
  | steps, link, gathered, met =>
    if isSentinel link then pure met
    -- the test that keeps the look-up below from failing
    else if table.size ≤ link then pure met
    else match steps with
      | 0 => pure met
      | steps + 1 => do
        let next ← item table link
        let gathered := gathered + supply link
        if 0 < demand ∧ demand ≤ gathered then pure (met.push link)
        else walkFrom table supply demand steps next gathered (met.push link)

/-- The steps that a stream may take. -/
def stepLimit (v : Volume) (space : Space) (size : Nat) : Strict Nat :=
  if size = 0 then pure Volume.unboundedSteps
  else do
    let sectors ← quotient size (v.unit space)
    pure (sectors + Volume.slack)

/-- The bytes of the stream that begins at `start`. -/
def materialize (v : Volume) (space : Space) (start size : Nat) : Strict ByteArray := do
  let steps ← stepLimit v space size
  let sectors ← walkFrom (v.links space) (fun n => (v.payload space n).size) size steps start 0 #[]
  let bytes := v.gather space sectors
  pure (if size = 0 then bytes else bytes.extract 0 (min size bytes.size))

/-- The bytes of a record's stream. -/
def readRecord (v : Volume) (r : Record) : Strict ByteArray :=
  if r.isStream && r.size != 0 then materialize v (v.spaceOf r.size) r.start r.size
  else pure ByteArray.empty

theorem walkFrom_eq (table : Array Nat) (supply : Nat → Nat) (demand steps link gathered : Nat)
    (met : Array Nat) :
    walkFrom table supply demand steps link gathered met =
      pure (Chain.walkFrom table supply demand steps link gathered met).sectors := by
  -- both walks take the same turns; they differ only in how they look up the next link
  induction steps generalizing link gathered met with
  | zero =>
    rw [walkFrom.eq_def, Chain.walkFrom.eq_def]
    dsimp only
    split
    · rfl
    · cases table[link]? <;> simp
  | succ steps ih =>
    rw [walkFrom.eq_def, Chain.walkFrom.eq_def]
    dsimp only
    split
    · rfl
    cases hnext : table[link]? with
    | none => simp [Array.getElem?_eq_none_iff.mp hnext]
    | some next =>
      have hlt : ¬ table.size ≤ link := Nat.not_le.mpr (Array.getElem?_eq_some_iff.mp hnext).1
      simp only [hlt, if_false, item_eq hnext, pure_bind]
      split
      · rfl
      · exact ih next _ _

theorem stepLimit_eq {v : Volume} {space : Space} (hu : 0 < v.unit space) (size : Nat) :
    stepLimit v space size = pure (v.stepLimit space size) := by
  unfold stepLimit Volume.stepLimit
  split
  · rfl
  · rw [quotient_eq size hu, pure_bind]

variable {v : Volume}

/-- A chain is followed without a fault. -/
theorem materialize_eq (hv : v.HasUnits) (space : Space) (start size : Nat) :
    materialize v space start size = pure (v.materialize space start size).value := by
  rw [materialize, stepLimit_eq (hv space), pure_bind, walkFrom_eq, pure_bind]
  rfl

/-- The streams of all records are read without a fault. -/
theorem readRecord_eq (hv : v.HasUnits) (r : Record) :
    readRecord v r = pure (v.readRecord r).value := by
  unfold readRecord Volume.readRecord
  split
  · rw [materialize_eq hv]
    simp only [Noted.value_bind]
    split <;> rfl
  · rfl

end Strict

end InstallerPackage
