import InstallerPackage.Package
import InstallerPackage.Proofs.Strict.Containers
import InstallerPackage.Proofs.Strict.Databases

/-!
# Packages, loaded and used strictly

`Strict.load` loads a package with operations that can fail, and `Strict.load_eq` says that the only
faults are those of `Package.load`. What is done with a package afterwards has no fault at all
(`Strict.openStream_eq`, `Strict.offsetToSector_eq`), but for a path that leads nowhere.

The map of zones is made last. The directory's chain is followed to the first sector that is met
again, however long that takes: `Strict.distinct_eq` says that it ends, as only so many sectors can be
met as the table has entries.
-/

namespace InstallerPackage

/-- The sectors of an open file have bytes. -/
theorem Container.Opened.hasUnits {b : ByteArray} {c : Container} (h : c.Opened b) :
    c.volume.HasUnits
  | .regular => h.sectorSize_pos
  | .mini => h.miniSectorSize_pos

namespace Strict

/-! ### Runs of sectors -/

/-- The runs with one more sector, which does not come before the last run's first one. -/
def addSector (runs : Array Run) (s : Nat) : Strict (Array Run) :=
  if runs.isEmpty then pure (runs.push ⟨s, 1⟩)
  else do
    let last ← item runs (runs.size - 1)
    if s = last.first + last.count then pure (runs.pop.push ⟨last.first, last.count + 1⟩)
    else if last.first + last.count ≤ s then pure (runs.push ⟨s, 1⟩)
    else pure runs

/-- The runs of some sectors. -/
def runs (sectors : List Nat) : Strict (List Run) := do
  let found ← sectors.mergeSort.foldlM addSector #[]
  pure found.toList

theorem addSector_push (runs : Array Run) (first count s : Nat) :
    addSector (runs.push ⟨first, count⟩) s =
      if s = first + count then pure (runs.push ⟨first, count + 1⟩)
      else if first + count ≤ s then pure ((runs.push ⟨first, count⟩).push ⟨s, 1⟩)
      else pure (runs.push ⟨first, count⟩) := by
  rw [addSector, if_neg (by simp), item_eq (x := ⟨first, count⟩) (by simp), pure_bind,
    Array.pop_push]

theorem foldlM_addSector (sectors : List Nat) (runs : Array Run) (first count : Nat) :
    sectors.foldlM addSector (runs.push ⟨first, count⟩) =
      pure (runs ++ (Run.extend first count sectors).toArray) := by
  -- only the last run is touched, so the induction is over all runs that may stand before it
  induction sectors generalizing runs first count with
  | nil => rw [List.foldlM_nil, Run.extend, Array.push_eq_append]
  | cons s rest ih =>
    rw [List.foldlM_cons, addSector_push, Run.extend]
    -- the sector continues the run, opens one behind a gap, or is in the run already
    by_cases hnext : s = first + count
    · rw [if_pos hnext, if_pos hnext, pure_bind, ih]
    rw [if_neg hnext, if_neg hnext]
    by_cases hgap : first + count < s
    · rw [if_pos (Nat.le_of_lt hgap), if_pos hgap, pure_bind, ih, Array.push_eq_append,
        Array.append_assoc]
      simp
    · rw [if_neg (by omega), if_neg hgap, pure_bind, ih]

theorem runs_eq (sectors : List Nat) : runs sectors = pure (Run.merge sectors) := by
  rw [runs, Run.merge]
  cases sectors.mergeSort with
  | nil => rfl
  | cons s rest =>
    rw [List.foldlM_cons, show addSector #[] s = pure (#[].push ⟨s, 1⟩) from rfl, pure_bind,
      foldlM_addSector, pure_bind, Run.ofSorted]
    simp

/-! ### Zones -/

/-- The sectors of a chain up to the first one that is met again or that the table does not know. -/
def distinct (table : Array Nat) :
    (steps : Nat) → (link : Nat) → Std.TreeSet Nat → Strict (List Nat)
  | 0, _, _ => throw .endless
  | steps + 1, link, met =>
    if table.size ≤ link then pure []
    else if met.contains link then pure []
    else do
      let next ← item table link
      let rest ← distinct table steps next (met.insert link)
      pure (link :: rest)

/-- The zones of a run of sectors. -/
def zonesOf (m : Medium) (kind : ZoneKind) (sectors : List Nat) : Strict (List Zone) := do
  let found ← runs sectors
  pure (found.map (Zone.ofRun m kind))

/-- The zones of a file. -/
def zones (v : Volume) (slots : List Nat) (directoryStart : Nat) : Strict (List Zone) := do
  let tables ← zonesOf v.toMedium .allocationTable (Zone.tableSectors slots)
  let sectors ← distinct v.table (v.table.size + 1) directoryStart ∅
  let directory ← zonesOf v.toMedium .directory sectors
  pure (Zone.header :: tables ++ directory)

/-- No more sectors can be met than there are. -/
theorem size_le_of_forall_lt {met : Std.TreeSet Nat} {n : Nat} (h : ∀ i ∈ met, i < n) :
    met.size ≤ n := by
  have hnodup : met.toList.Nodup :=
    Std.TreeSet.distinct_toList.imp fun hne heq => hne (Std.compare_eq_iff_eq.mpr heq)
  rw [← Std.TreeSet.length_toList, ← List.length_range (n := n)]
  exact (hnodup.subperm fun i hi =>
    List.mem_range.mpr (h i (Std.TreeSet.mem_toList.mp hi))).length_le

/-- The chain ends before its steps do. -/
theorem distinct_eq {table : Array Nat} {steps link : Nat} {met : Std.TreeSet Nat}
    (hknown : ∀ i ∈ met, i < table.size) (hsteps : table.size ≤ steps + met.size) :
    distinct table (steps + 1) link met = pure (Zone.distinct table steps link met) := by
  -- a step less for every sector more that has been met: the sum never falls below the table's size
  induction steps generalizing link met with
  | zero =>
    rw [distinct, Zone.distinct]
    by_cases hlt : link < table.size
    · have hmet : met.contains link := by
        -- all sectors have been met, or there would be one too many
        by_contra hmet
        have hinsert : (met.insert link).size ≤ table.size :=
          size_le_of_forall_lt fun i hi => by
            rcases Std.TreeSet.mem_insert.mp hi with hi | hi
            · rwa [← Std.compare_eq_iff_eq.mp hi]
            · exact hknown i hi
        rw [Std.TreeSet.size_insert, if_neg hmet] at hinsert
        omega
      rw [if_neg (Nat.not_le.mpr hlt), if_pos hmet]
    · rw [if_pos (Nat.not_lt.mp hlt)]
  | succ steps ih =>
    rw [distinct, Zone.distinct]
    -- a link outside the table ends the chain, and one that was met before does, too
    cases hnext : table[link]? with
    | none => rw [if_pos (Array.getElem?_eq_none_iff.mp hnext)]
    | some next =>
      have hlt : link < table.size := (Array.getElem?_eq_some_iff.mp hnext).1
      rw [if_neg (Nat.not_le.mpr hlt)]
      dsimp only
      by_cases hmet : met.contains link
      · rw [if_pos hmet, if_pos hmet]
      · rw [if_neg hmet, if_neg hmet, item_eq hnext, pure_bind, ih ?_ ?_, pure_bind]
        · -- the sector that was met now is one of the table, and it counts as a step
          intro i hi
          rcases Std.TreeSet.mem_insert.mp hi with hi | hi
          · rwa [← Std.compare_eq_iff_eq.mp hi]
          · exact hknown i hi
        · rw [Std.TreeSet.size_insert, if_neg hmet]
          omega

theorem zones_eq (v : Volume) (slots : List Nat) (directoryStart : Nat) :
    zones v slots directoryStart = pure (Zone.map v slots directoryStart) := by
  have hempty : ∀ i ∈ (∅ : Std.TreeSet Nat), i < v.table.size :=
    fun i hi => absurd hi Std.TreeSet.not_mem_emptyc
  rw [zones, zonesOf, runs_eq, pure_bind, pure_bind, distinct_eq hempty (Nat.le_add_right ..),
    pure_bind, zonesOf, runs_eq, pure_bind, pure_bind, Zone.map, Zone.directorySectors]

/-! ### Loading a package -/

/-- The summary information of a file. A property set is read by slices alone, which may be short. -/
def loadSummary (c : Container) : Strict Summary :=
  let unknown : Summary := { totalSize := c.volume.bytes.size }
  match c.directory.findContaining? Package.summaryFragment with
  | none => pure unknown
  | some record => do
    let bytes ← readRecord c.volume record
    pure (Summary.apply bytes unknown).value

/-- A table with the number of rows that it announces. -/
def announced (c : Container) (t : Table) : Strict TableEntry := do
  let n ← announcedRows c t
  pure ⟨t.name, n⟩

/-- Loads a package. -/
def load (b : ByteArray) (style : Manifest.Style) : Strict Package := do
  let c ← container b
  let summary ← loadSummary c
  match ← loadPool c with
  | none =>
    let zones ← zones c.volume c.header.slots c.header.directoryStart
    pure ⟨c, summary, {}, [], [], zones⟩
  | some pool =>
    let db ← loadTables c pool
    let tables ← db.tables.mapM (announced c)
    let files ← manifest db c style
    let zones ← zones c.volume c.header.slots c.header.directoryStart
    pure ⟨c, summary, db, tables, files, zones⟩

theorem loadSummary_eq {c : Container} (hc : c.volume.HasUnits) :
    loadSummary c = pure (Package.loadSummary c).value := by
  unfold loadSummary Package.loadSummary
  cases c.directory.findContaining? Package.summaryFragment with
  | none => rfl
  | some record =>
    dsimp only
    rw [readRecord_eq hc, pure_bind]
    rfl

theorem announced_eq (c : Container) (t : Table) :
    announced c t = pure ⟨t.name, Database.rowCount c t⟩ := by
  rw [announced, announcedRows_eq, pure_bind]

/-- A package is loaded without a fault that is not a structural one. -/
theorem load_eq (b : ByteArray) (style : Manifest.Style) :
    load b style = (Package.load b style).strict := by
  rw [load, Package.load, Attempt.strict_bind, container_eq]
  refine bind_congr_of_eq rfl fun c hc => ?_
  -- that the file could be opened is all that the streams need
  have hunits := (Container.opened_of_load (Attempt.strict_eq_ok.mp hc)).hasUnits
  rw [loadSummary_eq hunits, pure_bind, Attempt.strict_ofNoted_bind]
  dsimp only
  rw [loadPool_eq hunits, pure_bind, Attempt.strict_ofNoted_bind]
  -- without a string pool nothing of a database is looked at
  cases (Database.loadPool c).value with
  | none =>
    dsimp only
    rw [zones_eq, pure_bind, Attempt.strict_pure]
  | some pool =>
    dsimp only
    rw [loadTables_eq hunits, pure_bind, mapM_eq fun t _ => announced_eq c t, pure_bind,
      manifest_eq hunits, pure_bind, zones_eq, pure_bind, Attempt.strict_ofNoted_bind,
      Attempt.strict_ofNoted_bind, Attempt.strict_pure]

/-! ### Using a package -/

/-- The node at the end of a path. -/
def node (root : Node) (path : Name) : Strict Node :=
  match root.find? path with
  | some node => pure node
  | none => throw (.path path)

/-- The bytes of the stream that a path leads to. -/
def openStream (p : Package) (path : Name) : Strict ByteArray := do
  let node ← node p.container.root path
  readRecord p.container.volume node.record

/-- The sector that an offset lies in. -/
def offsetToSector (m : Medium) (offset : Nat) : Strict Int :=
  if offset < Header.size then pure 0
  else do
    let n ← quotient offset m.sectorSize
    pure ((n : Int) - 1)

theorem openStream_eq {p : Package} (hp : p.container.volume.HasUnits) (path : Name) :
    openStream p path = match p.container.root.find? path with
      | some node => pure (p.container.volume.readRecord node.record).value
      | none => throw (.path path) := by
  unfold openStream node
  cases p.container.root.find? path with
  | none => rfl
  | some node =>
    dsimp only
    rw [pure_bind, readRecord_eq hp]

theorem offsetToSector_eq {m : Medium} (hm : 0 < m.sectorSize) (offset : Nat) :
    offsetToSector m offset = pure (m.offsetToSector offset) := by
  unfold offsetToSector Medium.offsetToSector
  by_cases h : offset < Header.size
  · rw [if_pos h, if_pos (by exact_mod_cast h)]
  · rw [if_neg h, if_neg (by exact_mod_cast h), quotient_eq offset hm, pure_bind,
      Int.fdiv_eq_ediv_of_nonneg _ (Int.natCast_nonneg _), Int.natCast_ediv]

end Strict

end InstallerPackage
