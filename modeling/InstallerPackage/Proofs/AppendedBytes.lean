import InstallerPackage.Proofs.ListDamage
import InstallerPackage.Proofs.Packages
import InstallerPackage.Proofs.Summary.Entries

/-!
# Bytes behind the end of a file

A reader of compound files goes from sector to sector and does not ask where the file ends, except to
find out whether a sector is there. What comes behind the sectors in use makes no difference, with one
exception: a short sector at the end of the file is filled up by whatever is appended.

* `Container.visited` and `Package.visited` are the sectors that are looked at when a file is opened
  and when a package is loaded; `Volume.sectorsOf` are those that a stream is read from.
* When all of them lie wholly inside the file, every step of the reader gives the same on a longer
  file. There is a lemma for each step, from `Bytes.slice_append` to `Package.load_append`.
* `Package.load_ignores_appended` says what this means for a package and its streams.
-/

namespace InstallerPackage

/-! ### What is cut out of the front of a longer file -/

namespace Bytes

variable {b : ByteArray} {offset length : Nat}

theorem slice_append (h : offset + length ≤ b.size) (extra : ByteArray) :
    slice (b ++ extra) offset length = slice b offset length := by
  have hsize : b.data.toList.length = b.size := length_toList b
  rw [← toList_inj, toList_slice, toList_slice, ByteArray.toList_data_append,
    List.drop_append_of_le_length (by omega), List.take_append_of_le_length]
  -- what is left behind `offset` has room for the slice
  rw [List.length_drop]
  omega

end Bytes

namespace Header

variable {b : ByteArray}

theorem read_append (h : size ≤ b.size) (extra : ByteArray) : read (b ++ extra) = read b :=
  read_eq_of_slice_eq (Bytes.slice_append (by rwa [Nat.zero_add]) extra)

/-- The header is accepted or refused as before. -/
theorem load_append (h : size ≤ b.size) (extra : ByteArray) :
    load (b ++ extra) = load b := by
  have hread := read_append h extra
  have hsize : size ≤ (b ++ extra).size := by
    rw [ByteArray.size_append]
    omega
  have hstarts : Bytes.startsWith (b ++ extra) signatureBytes = Bytes.startsWith b signatureBytes := by
    rw [Bool.eq_iff_iff, startsWith_iff_number hsize, startsWith_iff_number h, hread]
  have hslice : Bytes.slice (b ++ extra) 0 8 = Bytes.slice b 0 8 :=
    Bytes.slice_append (Nat.le_trans (by decide) h) extra
  unfold load
  rw [hread, hstarts, hslice, if_neg (Nat.not_lt.mpr hsize), if_neg (Nat.not_lt.mpr h)]

end Header

theorem size_le_of_isCompoundFile {b : ByteArray} (h : isCompoundFile b = true) :
    Header.size ≤ b.size := by
  rw [isCompoundFile, Bool.and_eq_true, Bool.and_eq_true, decide_eq_true_eq] at h
  exact h.1.1

theorem isCompoundFile_append {b : ByteArray} (h : isCompoundFile b = true) (extra : ByteArray) :
    isCompoundFile (b ++ extra) = true := by
  have hload := Header.load_eq_ok.mpr ⟨h, rfl⟩
  rw [← Header.load_append (size_le_of_isCompoundFile h) extra] at hload
  exact (Header.load_eq_ok.mp hload).1

namespace Medium

variable {m : Medium} {n : Nat}

/-- The file with more bytes at its end. -/
def append (m : Medium) (extra : ByteArray) : Medium := ⟨m.bytes ++ extra, m.sectorSize⟩

theorem hasSector_append (h : m.hasSector n = true) (extra : ByteArray) :
    (m.append extra).hasSector n = true := by
  rw [hasSector, decide_eq_true_eq] at h ⊢
  change m.offset n + m.sectorSize ≤ (m.bytes ++ extra).size
  rw [ByteArray.size_append]
  omega

/-- A sector that lies wholly inside the file stays as it is. -/
theorem sector_append (h : m.hasSector n = true) (extra : ByteArray) :
    (m.append extra).sector n = m.sector n :=
  Bytes.slice_append (decide_eq_true_eq.mp h) extra

end Medium

/-! ### The allocation table -/

namespace Allocation

variable {m : Medium} {steps current last : Nat}

theorem ListPath.append {sectors : List Nat} (h : ListPath m current sectors last) (extra : ByteArray) :
    ListPath (m.append extra) current sectors last := by
  induction sectors generalizing current with
  | nil => exact h
  | cons s rest ih =>
    obtain ⟨hcurrent, hlive, hin, hrest⟩ := h
    refine ⟨hcurrent, hlive, Medium.hasSector_append hin extra, ?_⟩
    rw [Medium.sector_append hin]
    exact ih hrest

/-- Opening the longer file, the reader takes the same way through the list. A list sector that is
missing could be there in the longer file, but none is missing. -/
theorem follow_append (h : ∀ s ∈ listSectors m steps current, m.hasSector s = true)
    (extra : ByteArray) (found : Array Nat) :
    follow (m.append extra) steps current found = follow m steps current found :=
  follow_congr (fun s hs => (Medium.hasSector_append (h s hs) extra).trans (h s hs).symm)
    (fun _ _ hin => Medium.sector_append hin extra) found

theorem collect_append {start : Nat}
    (h : ∀ s ∈ listSectors m listLimit start, m.hasSector s = true) (extra : ByteArray)
    (slots : List Nat) : collect (m.append extra) slots start = collect m slots start :=
  follow_append h extra _

theorem load_append {sectors : Array Nat} (h : ∀ s ∈ sectors.toList, m.hasSector s = true)
    (extra : ByteArray) : load (m.append extra) sectors = load m sectors := by
  have hin : ∀ n ∈ sectors.toList, (m.append extra).hasSector n = m.hasSector n := fun n hn => by
    rw [Medium.hasSector_append (h n hn), h n hn]
  -- no listed sector becomes available, and those that are there have the same words
  apply Noted.ext
  · rw [← Array.toList_inj, toList_load, toList_load, List.filter_congr hin]
    refine List.flatMap_congr fun n hn => ?_
    rw [Medium.sector_append (List.mem_filter.mp hn).2]
  · have hmissing : sectors.toList.filter (! (m.append extra).hasSector ·) =
        sectors.toList.filter (! m.hasSector ·) :=
      List.filter_congr fun n hn => by rw [hin n hn]
    change (sectors.toList.filter _).map _ = (sectors.toList.filter _).map _
    rw [hmissing]

end Allocation

/-! ### Streams -/

namespace Volume

variable {v : Volume} {start size : Nat} {r : Record}

/-- The same tables over a file with more bytes at its end. -/
def append (v : Volume) (extra : ByteArray) : Volume := { v with bytes := v.bytes ++ extra }

/-- The sectors that a chain outside the mini stream is read from. -/
def chainSectors (v : Volume) (start size : Nat) : List Nat :=
  (v.walk .regular start size).sectors.toList

theorem walk_append (h : ∀ s ∈ v.chainSectors start size, v.hasSector s = true)
    (extra : ByteArray) :
    (v.append extra).walk .regular start size = v.walk .regular start size := by
  refine Chain.walkFrom_congr fun s hs => ?_
  change ((v.toMedium.append extra).sector s).size = (v.toMedium.sector s).size
  rw [Medium.sector_append (h s (Array.mem_toList_iff.mpr hs))]

theorem materialize_append (h : ∀ s ∈ v.chainSectors start size, v.hasSector s = true)
    (extra : ByteArray) :
    (v.append extra).materialize .regular start size = v.materialize .regular start size := by
  have hgather : (v.append extra).gather .regular (v.walk .regular start size).sectors =
      v.gather .regular (v.walk .regular start size).sectors :=
    gather_congr fun n hn => Medium.sector_append (h n (Array.mem_toList_iff.mpr hn)) extra
  -- what is reported depends on the tables and not on the bytes
  have hnotices : ∀ stop, (v.append extra).stopNotices .regular start size stop =
      v.stopNotices .regular start size stop := by
    intro stop
    cases stop <;> rfl
  rw [materialize, materialize, walk_append h, hgather, hnotices]

/-- The sectors of the file that a record's stream is read from. A stream inside the mini stream
needs none: the mini stream is read before. -/
def sectorsOf (v : Volume) (r : Record) : List Nat :=
  if r.isStream && r.size != 0 then
    match v.spaceOf r.size with
    | .regular => v.chainSectors r.start r.size
    | .mini => []
  else []

/-- All sectors that a record's stream is read from lie wholly inside the file. -/
def Covers (v : Volume) (r : Record) : Prop := ∀ s ∈ v.sectorsOf r, v.hasSector s = true

theorem readRecord_append (h : v.Covers r) (extra : ByteArray) :
    (v.append extra).readRecord r = v.readRecord r := by
  rw [Covers, sectorsOf] at h
  rw [readRecord, readRecord]
  by_cases hread : (r.isStream && r.size != 0) = true
  · rw [if_pos hread] at h
    have hmaterialize : (v.append extra).materialize (v.spaceOf r.size) r.start r.size =
        v.materialize (v.spaceOf r.size) r.start r.size := by
      cases hspace : v.spaceOf r.size with
      | regular =>
        rw [hspace] at h
        exact materialize_append h extra
      -- mini sectors are cut from the mini stream, which is the same
      | mini => rfl
    rw [if_pos hread, if_pos hread]
    change (v.append extra).materialize (v.spaceOf r.size) r.start r.size >>= _ = _
    rw [hmaterialize]
  · rw [if_neg hread, if_neg hread]

end Volume

/-! ### Opening the longer file -/

open Attempt

namespace Container

variable {b : ByteArray} {c : Container} {notices : List Notice}

/-- The open file with more bytes at its end. -/
def append (c : Container) (extra : ByteArray) : Container :=
  { c with volume := c.volume.append extra }

theorem readRecord_append {r : Record} (h : c.volume.Covers r) (extra : ByteArray) :
    (c.append extra).volume.readRecord r = c.volume.readRecord r :=
  Volume.readRecord_append h extra

/-- The sectors that are visited when the file is opened: those of the list and of the allocation
table, of the directory, of the mini allocation table and of the mini stream. -/
def visited (c : Container) : List Nat :=
  let root := c.directory.root
  Allocation.listSectors c.volume.toMedium Allocation.listLimit c.header.listStart ++
    c.tableSectors.toList ++
    c.volume.chainSectors c.header.directoryStart 0 ++
    c.volume.chainSectors c.header.miniTableStart 0 ++
    if root.size = 0 then [] else c.volume.chainSectors root.start root.size

theorem loadTable_append {m : Medium} {sectors : Array Nat}
    (h : ∀ s ∈ sectors.toList, m.hasSector s = true) (extra : ByteArray) :
    loadTable (m.append extra) sectors = loadTable m sectors := by
  rw [loadTable, loadTable, Allocation.load_append h]

theorem loadDirectory_append {v : Volume} {start : Nat}
    (h : ∀ s ∈ v.chainSectors start 0, v.hasSector s = true) (extra : ByteArray) :
    loadDirectory (v.append extra) start = loadDirectory v start := by
  rw [loadDirectory, loadDirectory, Volume.materialize_append h]

theorem loadMiniStream_append {v : Volume} {root : Record}
    (h : ∀ s ∈ if root.size = 0 then [] else v.chainSectors root.start root.size,
      v.hasSector s = true) (extra : ByteArray) :
    loadMiniStream (v.append extra) root = loadMiniStream v root := by
  rw [loadMiniStream, loadMiniStream]
  by_cases hsize : root.size = 0
  · rw [if_pos hsize, if_pos hsize]
  · rw [if_neg hsize] at h
    rw [if_neg hsize, if_neg hsize,
      Volume.materialize_append h]

/-- The longer file is opened in the same steps. -/
theorem load_append (hload : (load b).outcome = ⟨.ok c, notices⟩)
    (hinside : ∀ s ∈ c.visited, c.volume.hasSector s = true) (extra : ByteArray) :
    (load (b ++ extra)).outcome = ⟨.ok (c.append extra), notices⟩ := by
  have haccepted := (opened_of_load (congrArg Noted.value hload)).accepted
  -- what the steps of the first run gave
  obtain ⟨header, n₁, _, hheader, h₁, rfl⟩ := exists_of_outcome_bind hload
  obtain ⟨sectors, n₂, _, hsectors, h₂, rfl⟩ := exists_of_outcome_bind h₁
  obtain ⟨table, n₃, _, htable, h₃, rfl⟩ := exists_of_outcome_bind h₂
  obtain ⟨directory, n₄, _, hdirectory, h₄, rfl⟩ := exists_of_outcome_bind h₃
  obtain ⟨miniTable, n₅, _, hminiTable, h₅, rfl⟩ := exists_of_outcome_bind h₄
  obtain ⟨miniStream, n₆, _, hminiStream, h₆, rfl⟩ := exists_of_outcome_bind h₅
  obtain ⟨root, n₇, _, hroot, h₇, rfl⟩ := exists_of_outcome_bind h₆
  obtain ⟨rfl, rfl⟩ := outcome_pure_eq_iff.mp h₇
  rw [outcome_ofNoted_eq_iff] at hsectors hminiTable hminiStream
  -- and which sectors each of them visited
  rw [visited] at hinside
  simp only [List.forall_mem_append] at hinside
  obtain ⟨⟨⟨⟨hlistIn, htableIn⟩, hdirectoryIn⟩, hminiTableIn⟩, hminiStreamIn⟩ := hinside
  -- the steps of the second run give the same
  have hsectors' := (Allocation.collect_append hlistIn extra header.slots).trans hsectors
  have hminiTable' := (Volume.materialize_append hminiTableIn extra).trans hminiTable
  have hminiStream' := (loadMiniStream_append hminiStreamIn extra).trans hminiStream
  refine outcome_bind_ok (a := header) ?_ ?_
  · rw [Header.load_append (size_le_of_isCompoundFile haccepted), hheader]
  refine outcome_bind_ok (outcome_ofNoted_eq_iff.mpr hsectors') ?_
  refine outcome_bind_ok ((congrArg outcome (loadTable_append htableIn extra)).trans htable) ?_
  refine outcome_bind_ok
    ((congrArg outcome (loadDirectory_append hdirectoryIn extra)).trans hdirectory) ?_
  refine outcome_bind_ok (outcome_ofNoted_eq_iff.mpr hminiTable') ?_
  refine outcome_bind_ok (outcome_ofNoted_eq_iff.mpr hminiStream') ?_
  exact outcome_bind_ok hroot rfl

end Container

/-! ### Loading the longer package -/

namespace Summary

/-- The summary of a file of another size. -/
def resize (s : Summary) (n : Nat) : Summary := { s with totalSize := n }

theorem set_resize (s : Summary) (n : Nat) (f : Field) (v : Value) :
    (s.resize n).set f v = (s.set f v).resize n := by
  cases f <;> cases v <;> rfl

theorem put_resize (body : ByteArray) (page : CodePage) (n : Nat) (s : Summary) (e : Entry) :
    put body page (s.resize n) e = (put body page s e).resize n := by
  unfold put
  cases Value.read? e.field.kind page body e.offset with
  | none => rfl
  | some v => exact set_resize s n e.field v

theorem fill_resize (body : ByteArray) (found : List Entry) (s : Summary) (n : Nat) :
    fill body found (s.resize n) = (fill body found s).resize n := by
  rw [fill_eq_foldl, fill_eq_foldl]
  exact List.foldl_hom (Summary.resize · n) fun s e => put_resize body (pageOf body found) n s e

/-- The size of the file is none of the properties. -/
theorem apply_resize (b : ByteArray) (s : Summary) (n : Nat) :
    apply b (s.resize n) = ⟨(apply b s).value.resize n, (apply b s).notices⟩ := by
  unfold apply
  cases body? b with
  | none => rfl
  | some body =>
    -- a table that was cut is reported in both cases
    dsimp only
    rw [fill_resize]
    split <;> rfl

end Summary

namespace Database

variable {c : Container} {db : Database}

/-- The records whose streams make up the string pool. -/
def poolRecords (c : Container) : List Record :=
  match find? c poolName, find? c textName with
  | some pool, some text => [pool, text]
  | _, _ => []

/-- The record of the list of columns, if there is anything in it. -/
def columnRecords (c : Container) : List Record :=
  ((find? c columnsName).filter (·.size != 0)).toList

/-- The record whose stream has the rows of a table. -/
def rowRecords (db : Database) (c : Container) (name : String) : List Record :=
  match db.table? name with
  | none => []
  | some _ => (find? c (streamName name)).toList

/-- The records whose streams have the rows of the manifest. -/
def manifestRecords (db : Database) (c : Container) : List Record :=
  match db.table? "File" with
  | none => []
  | some _ => ["Directory", "Component", "File"].flatMap (db.rowRecords c)

theorem find?_append (c : Container) (extra : ByteArray) (name : Name) :
    find? (c.append extra) name = find? c name := rfl

theorem loadPool_append (h : ∀ r ∈ poolRecords c, c.volume.Covers r) (extra : ByteArray) :
    loadPool (c.append extra) = loadPool c := by
  rw [poolRecords] at h
  rw [loadPool, loadPool, find?_append, find?_append]
  cases hpool : find? c poolName with
  | none => rfl
  | some pool =>
    cases htext : find? c textName with
    | none => rfl
    | some text =>
      rw [hpool, htext] at h
      dsimp only
      rw [Container.readRecord_append (h pool (by simp)),
        Container.readRecord_append (h text (by simp))]

theorem loadTables_append (h : ∀ r ∈ columnRecords c, c.volume.Covers r) (extra : ByteArray)
    (pool : StringPool) : loadTables (c.append extra) pool = loadTables c pool := by
  rw [columnRecords] at h
  rw [loadTables, loadTables, find?_append]
  cases hrecord : (find? c columnsName).filter (·.size != 0) with
  | none => rfl
  | some record =>
    rw [hrecord] at h
    dsimp only
    rw [Container.readRecord_append (h record (by simp))]

theorem readTable_append {name : String} (h : ∀ r ∈ db.rowRecords c name, c.volume.Covers r)
    (extra : ByteArray) : db.readTable (c.append extra) name = db.readTable c name := by
  rw [rowRecords] at h
  rw [readTable, readTable, find?_append]
  cases htable : db.table? name with
  | none => rfl
  | some table =>
    cases hrecord : find? c (streamName name) with
    | none => rfl
    | some record =>
      rw [htable, hrecord] at h
      dsimp only
      rw [Container.readRecord_append (h record (by simp))]

theorem manifest_append (h : ∀ r ∈ db.manifestRecords c, c.volume.Covers r) (extra : ByteArray)
    (style : Manifest.Style) : db.manifest (c.append extra) style = db.manifest c style := by
  rw [manifestRecords] at h
  rw [manifest, manifest]
  cases htable : db.table? "File" with
  | none => rfl
  | some table =>
    rw [htable] at h
    have hrows : ∀ name ∈ ["Directory", "Component", "File"],
        db.readTable (c.append extra) name = db.readTable c name := fun name hname =>
      readTable_append (fun r hr => h r (List.mem_flatMap.mpr ⟨name, hname, hr⟩)) extra
    rw [hrows _ (by simp), hrows _ (by simp), hrows _ (by simp)]

end Database

namespace Package

variable {b : ByteArray} {style : Manifest.Style} {p : Package}

/-- The open package with more bytes at its end. -/
def append (p : Package) (extra : ByteArray) : Package :=
  { p with
    container := p.container.append extra
    summary := p.summary.resize (p.container.volume.bytes ++ extra).size }

/-- The record that the summary is read from. -/
def summaryRecords (c : Container) : List Record :=
  (c.directory.findContaining? summaryFragment).toList

/-- The records whose streams are read when the package is loaded. -/
def loadedRecords (p : Package) : List Record :=
  let c := p.container
  summaryRecords c ++ Database.poolRecords c ++
    (if (Database.loadPool c).value.isSome then Database.columnRecords c else []) ++
    p.database.manifestRecords c

/-- The sectors that are visited when the package is loaded. -/
def visited (p : Package) : List Nat :=
  p.container.visited ++ p.loadedRecords.flatMap p.container.volume.sectorsOf

theorem loadSummary_append {c : Container} (h : ∀ r ∈ summaryRecords c, c.volume.Covers r)
    (extra : ByteArray) : loadSummary (c.append extra) =
      ⟨(loadSummary c).value.resize (c.volume.bytes ++ extra).size, (loadSummary c).notices⟩ := by
  have hfind : (c.append extra).directory = c.directory := rfl
  rw [summaryRecords] at h
  rw [loadSummary, loadSummary, hfind]
  cases hrecord : c.directory.findContaining? summaryFragment with
  | none => rfl
  | some record =>
    rw [hrecord] at h
    dsimp only
    rw [Container.readRecord_append (h record (by simp))]
    have h := Summary.apply_resize (c.volume.readRecord record).value
      { totalSize := c.volume.bytes.size } (c.volume.bytes ++ extra).size
    have hvalue := congrArg Noted.value h
    have hnotices := congrArg Noted.notices h
    exact Noted.ext hvalue (congrArg ((c.volume.readRecord record).notices ++ ·) hnotices)

/-- The longer file is loaded in the same steps. -/
theorem load_append (hload : (load b style).outcome.value = .ok p)
    (hinside : ∀ s ∈ p.visited, p.container.volume.hasSector s = true) (extra : ByteArray) :
    (load (b ++ extra) style).outcome = ⟨.ok (p.append extra), (load b style).outcome.notices⟩ := by
  have hcontainer := (readFrom_of_load hload).container
  generalize hnotices : (load b style).outcome.notices = notices
  -- what the steps of the first run gave
  obtain ⟨c, n₁, _, hc, h₁, rfl⟩ := exists_of_outcome_bind (Noted.ext hload hnotices)
  obtain ⟨summary, n₂, _, hsummary, h₂, rfl⟩ := exists_of_outcome_bind h₁
  obtain ⟨pool?, n₃, _, hpool, h₃, rfl⟩ := exists_of_outcome_bind h₂
  rw [outcome_ofNoted_eq_iff] at hsummary hpool
  have hpc : p.container = c := Except.ok.inj (hcontainer.symm.trans (congrArg Noted.value hc))
  -- and which sectors each of them visited
  rw [visited, List.forall_mem_append, List.forall_mem_flatMap, loadedRecords, hpc,
    hpool] at hinside
  simp only [List.forall_mem_append] at hinside
  obtain ⟨hcontainerIn, ⟨⟨hsummaryIn, hpoolIn⟩, hcolumnsIn⟩, hmanifestIn⟩ := hinside
  -- the steps of the second run give the same, but for the size in the summary
  refine outcome_bind_ok (Container.load_append hc hcontainerIn extra) ?_
  refine outcome_bind_ok (a := summary.resize (c.volume.bytes ++ extra).size) ?_ ?_
  · rw [outcome_ofNoted_eq_iff, loadSummary_append hsummaryIn, hsummary]
  refine outcome_bind_ok (a := pool?) ?_ ?_
  · rw [outcome_ofNoted_eq_iff, Database.loadPool_append hpoolIn, hpool]
  cases pool? with
  | none =>
    obtain ⟨rfl, rfl⟩ := outcome_pure_eq_iff.mp h₃
    rfl
  | some pool =>
    obtain ⟨db, n₄, _, hdb, h₄, rfl⟩ := exists_of_outcome_bind h₃
    obtain ⟨files, n₅, _, hfiles, h₅, rfl⟩ := exists_of_outcome_bind h₄
    obtain ⟨rfl, rfl⟩ := outcome_pure_eq_iff.mp h₅
    rw [outcome_ofNoted_eq_iff] at hdb hfiles
    have hdb' := (Database.loadTables_append hcolumnsIn extra pool).trans hdb
    have hfiles' := (Database.manifest_append hmanifestIn extra style).trans hfiles
    refine outcome_bind_ok (outcome_ofNoted_eq_iff.mpr hdb') ?_
    exact outcome_bind_ok (outcome_ofNoted_eq_iff.mpr hfiles') rfl

/-- **Bytes behind the sectors in use are ignored.** Let all sectors that are visited when a package
is loaded lie wholly inside the file. Whatever is appended to the file,

* it can still be loaded, and there is nothing else to report;
* nothing but the bytes of the file and the size in the summary is different;
* every stream whose sectors lie wholly inside the original file has the same bytes, whether it is
  opened by its record or by its path. -/
theorem load_ignores_appended (b : ByteArray) (style : Manifest.Style) (p : Package)
    (hload : (load b style).outcome.value = .ok p)
    (hinside : ∀ s ∈ p.visited, p.container.volume.hasSector s = true) (extra : ByteArray) :
    ∃ p', (load (b ++ extra) style).outcome = ⟨.ok p', (load b style).outcome.notices⟩ ∧
      p'.container =
        { p.container with volume := { p.container.volume with bytes := b ++ extra } } ∧
      p'.summary = { p.summary with totalSize := b.size + extra.size } ∧
      p'.database = p.database ∧ p'.tables = p.tables ∧ p'.files = p.files ∧ p'.zones = p.zones ∧
      (∀ r, p.container.volume.Covers r →
        p'.container.volume.readRecord r = p.container.volume.readRecord r) ∧
      ∀ path, (∀ node, p.container.root.find? path = some node →
          p.container.volume.Covers node.record) →
        p'.openStream? path = p.openStream? path := by
  have hbytes := (Container.opened_of_load (readFrom_of_load hload).container).bytes_eq
  have hrecord : ∀ r, p.container.volume.Covers r →
      (p.append extra).container.volume.readRecord r = p.container.volume.readRecord r :=
    fun r hr => Container.readRecord_append hr extra
  refine ⟨p.append extra, load_append hload hinside extra, ?_, ?_, rfl, rfl, rfl, rfl, hrecord, ?_⟩
  · rw [← hbytes]
    rfl
  · rw [← hbytes, ← ByteArray.size_append]
    rfl
  · intro path hpath
    have hfind : (p.append extra).container.root = p.container.root := rfl
    rw [openStream?, openStream?, hfind]
    cases hnode : p.container.root.find? path with
    | none => rw [Option.map_none, Option.map_none]
    | some node =>
      rw [Option.map_some, Option.map_some, hrecord node.record (hpath node hnode)]

end Package

/-! ### A file of whole sectors -/

namespace Bytes

theorem number_zeros (n offset width : Nat) :
    number (ofList (List.replicate n 0)) offset width = 0 := by
  induction width generalizing offset with
  | zero => exact number_zero _ offset
  | succ width ih =>
    have hbyte : byte (ofList (List.replicate n 0)) offset = 0 := by
      rw [byte_ofList, List.getElem?_replicate]
      split <;> rfl
    rw [number_succ, ih, hbyte]

end Bytes

/-- A directory of nothing but zeros has empty records only. -/
theorem Directory.unused_of_zeros {d : Directory} {n : Nat} {r : Record}
    (h : ofBytes? (Bytes.ofList (List.replicate n 0)) = some d) (hr : r ∈ d.records) :
    r.name = [] ∧ r.kind = .unallocated ∧ r.size = 0 := by
  unfold ofBytes? at h
  split at h
  · obtain rfl := Option.some.inj h
    obtain ⟨i, rfl⟩ := Array.mem_ofFn.mp hr
    simp [Record.read, Bytes.number_zeros, Record.unitCount, ObjectKind.ofCode]
  · cases h

namespace Container

/-- The small file with its last sector, the directory, filled up. -/
def wholeScrap : ByteArray := listScrap ++ Bytes.ofList (List.replicate 384 0)

theorem read_wholeScrap : Header.read wholeScrap = Header.read listScrap :=
  Header.read_append (size_le_of_isCompoundFile read_listScrap.1) _

theorem medium_wholeScrap :
    medium wholeScrap = (medium listScrap).append (Bytes.ofList (List.replicate 384 0)) := by
  rw [medium, read_wholeScrap]
  rfl

theorem listSectors_listScrap :
    Allocation.listSectors (medium listScrap) Allocation.listLimit
      (Header.read listScrap).listStart = [1] :=
  listPath_listScrap.listSectors_eq rfl (show 1 ≤ Allocation.listLimit by decide)

/-- The list and the table are those of the shorter file. -/
theorem listedSectors_wholeScrap : listedSectors wholeScrap = #[0] := by
  rw [← listedSectors_listScrap, listedSectors, listedSectors, read_wholeScrap,
    medium_wholeScrap, Allocation.collect_append]
  rw [listSectors_listScrap]
  intro s hs
  rw [List.mem_singleton.mp hs]
  exact hasSector_listScrap (Nat.le_refl 1)

theorem getElem?_links_wholeScrap : (links wholeScrap)[2]? = some endOfChain := by
  rw [← getElem?_links_listScrap, links, links, listedSectors_wholeScrap, listedSectors_listScrap,
    medium_wholeScrap, Allocation.load_append]
  intro s hs
  rw [List.mem_singleton.mp hs]
  exact hasSector_listScrap (Nat.zero_le 1)

/-- Sector 2 has nothing but zeros. -/
theorem sector_wholeScrap :
    (medium wholeScrap).hasSector 2 = true ∧
      (medium wholeScrap).sector 2 = Bytes.ofList (List.replicate 512 0) := by
  have hsize : (medium wholeScrap).sectorSize = 512 := by
    rw [medium_wholeScrap]
    exact sectorSize_listScrap
  have hlength : (List.replicate 512 (0 : UInt8)).length = 1 * (medium wholeScrap).sectorSize := by
    rw [List.length_replicate, hsize]
  have hstores : (medium wholeScrap).Stores 2 (List.replicate 512 0) := by
    refine ⟨scrapHeader ++ Image.words scrapLinks ++ Image.words scrapEntries, [], ?_, ?_⟩
    · -- what was appended continues the zeros of the one record
      change (listScrap ++ Bytes.ofList (List.replicate 384 0)).data.toList = _
      rw [ByteArray.toList_data_append, listScrap, Bytes.toList_ofList, Bytes.toList_ofList,
        List.append_assoc _ (List.replicate Record.length 0), List.replicate_append_replicate,
        List.append_nil]
      rfl
    · rw [hsize, List.length_append, List.length_append, length_scrapHeader, Image.length_words,
        Image.length_words, length_scrapLinks, length_scrapEntries]
  refine ⟨hstores.hasSector (i := 0) hlength Nat.zero_lt_one, hstores.sector_eq ?_⟩
  rw [hlength, Nat.one_mul]

theorem exists_load_wholeScrap : ∃ c, (load wholeScrap).outcome.value = .ok c := by
  obtain ⟨hb, -, hstart, -⟩ := read_listScrap
  have hlisted : 0 ∈ listedSectors wholeScrap := by simp [listedSectors_wholeScrap]
  rw [← read_wholeScrap] at hstart
  refine exists_load_of_sector (isCompoundFile_append hb _) ⟨0, hlisted, ?_⟩ ?_ ?_ ?_
  · rw [medium_wholeScrap]
    exact Medium.hasSector_append (hasSector_listScrap (Nat.zero_le 1)) _
  · rw [hstart]
    decide
  · rw [hstart, getElem?_links_wholeScrap]
  · rw [hstart, sector_wholeScrap.2, Bytes.size_ofList, List.length_replicate]
    decide

theorem miniTableStart_listScrap : (Header.read listScrap).miniTableStart = endOfChain := by
  decide +kernel

/-- Opening the file visits its three sectors, and all records are empty. -/
theorem visited_wholeScrap {c : Container} (hload : (load wholeScrap).outcome.value = .ok c) :
    c.visited = [1, 0, 2] ∧
      ∀ r ∈ c.directory.records, r.name = [] ∧ r.kind = .unallocated ∧ r.size = 0 := by
  have hopen := opened_of_load hload
  have hheader : c.header = Header.read listScrap := hopen.header.trans read_wholeScrap
  have hstart : c.header.directoryStart = 2 := by
    rw [hheader]
    exact read_listScrap.2.2.1
  have hlist : Allocation.listSectors c.volume.toMedium Allocation.listLimit c.header.listStart =
      [1] := by
    rw [hopen.medium_eq, medium_wholeScrap, hheader]
    exact (listPath_listScrap.append _).listSectors_eq rfl (show 1 ≤ Allocation.listLimit by decide)
  -- the directory is one sector
  have hlink : (c.volume.links .regular)[2]? = some endOfChain := by
    rw [Volume.links, hopen.table_eq, getElem?_links_wholeScrap]
  have hwalk : c.volume.walk .regular 2 0 = ⟨#[2], .sentinel⟩ :=
    Chain.walk_eq_of_sentinel (c := [2]) ⟨rfl, rfl, endOfChain, hlink, rfl⟩ rfl (.inl rfl)
      (show 1 ≤ Volume.unboundedSteps by decide)
  have hrecords : ∀ r ∈ c.directory.records, r.name = [] ∧ r.kind = .unallocated ∧ r.size = 0 := by
    have hdirectory := hopen.directory
    rw [hstart, Volume.materialize_of_sector rfl hlink, hopen.medium_eq,
      sector_wholeScrap.2] at hdirectory
    exact fun r hr => Directory.unused_of_zeros hdirectory hr
  have hroot : c.directory.root.size = 0 :=
    (hrecords _ (Array.getElem_mem c.directory.size_pos)).2.2
  -- there is no mini allocation table and no mini stream
  have hmini : c.volume.walk .regular endOfChain 0 = ⟨#[], .sentinel⟩ :=
    Chain.walkFrom_sentinel rfl #[]
  refine ⟨?_, hrecords⟩
  have hdirectory : c.volume.chainSectors 2 0 = [2] := by rw [Volume.chainSectors, hwalk]
  have hminiTable : c.volume.chainSectors endOfChain 0 = [] := by rw [Volume.chainSectors, hmini]
  rw [visited, hlist, hopen.tableSectors_eq, listedSectors_wholeScrap, hstart, hdirectory, hheader,
    miniTableStart_listScrap, hminiTable, hroot]
  rfl

theorem hasSector_wholeScrap {s : Nat} (hs : s ∈ [1, 0, 2]) :
    (medium wholeScrap).hasSector s = true := by
  have hsmall : ∀ s ≤ 1, (medium wholeScrap).hasSector s = true := by
    intro s hs
    rw [medium_wholeScrap]
    exact Medium.hasSector_append (hasSector_listScrap hs) _
  simp only [List.mem_cons, List.not_mem_nil, or_false] at hs
  rcases hs with rfl | rfl | rfl
  · exact hsmall 1 (Nat.le_refl 1)
  · exact hsmall 0 (Nat.zero_le 1)
  · exact sector_wholeScrap.1

end Container

namespace Package

open Container

/-- Three more bytes at the end of that file change only its size. -/
theorem load_ignores_appended_scrap :
    ∃ p, (load wholeScrap {}).outcome.value = .ok p ∧
      (∀ s ∈ p.visited, p.container.volume.hasSector s = true) ∧
      ∃ p', (load (wholeScrap ++ Bytes.ofList [1, 2, 3]) {}).outcome.value = .ok p' ∧
        p'.summary.totalSize = 2051 ∧ p'.zones = p.zones := by
  obtain ⟨p, hload⟩ := (exists_load_iff {}).mpr exists_load_wholeScrap
  have hcontainer := (readFrom_of_load hload).container
  obtain ⟨hvisited, hrecords⟩ := visited_wholeScrap hcontainer
  -- none of the records is looked for
  have hsummary : summaryRecords p.container = [] := by
    have hnone : p.container.directory.findContaining? summaryFragment = none := by
      refine Array.find?_eq_none.mpr fun r hr => ?_
      rw [Directory.streamContains, Record.isStream, (hrecords r hr).2.1]
      exact Bool.false_ne_true
    rw [summaryRecords, hnone]
    rfl
  have hpool : Database.find? p.container Database.poolName = none := by
    refine Array.find?_eq_none.mpr fun r hr => ?_
    rw [Directory.named, Record.decoded, (hrecords r hr).1]
    decide
  have hdatabase : p.database = {} := by
    rw [(readFrom_of_load hload).database, Database.loadPool, hpool]
    rfl
  have hloaded : p.loadedRecords = [] := by
    rw [loadedRecords, hsummary, Database.poolRecords, Database.loadPool, hpool, hdatabase]
    rfl
  have hinside : ∀ s ∈ p.visited, p.container.volume.hasSector s = true := by
    rw [visited, hloaded, hvisited, (opened_of_load hcontainer).medium_eq]
    exact fun s hs => hasSector_wholeScrap hs
  obtain ⟨p', hload', -, hsize, -, -, -, hzones, -⟩ :=
    load_ignores_appended wholeScrap {} p hload hinside (Bytes.ofList [1, 2, 3])
  refine ⟨p, hload, hinside, p', congrArg Noted.value hload', ?_, hzones⟩
  rw [hsize, Bytes.size_ofList, wholeScrap, ByteArray.size_append, Bytes.size_ofList,
    List.length_replicate, length_listScrap]
  rfl

end Package

end InstallerPackage
