import Mathlib.Data.List.TakeWhile
import InstallerPackage.Database
import InstallerPackage.Proofs.Database.Folders
import InstallerPackage.Proofs.Strict.Streams

/-!
# Databases, read strictly

Tables are taken apart by position and by key throughout: a reference is looked up in the string pool,
a column is put at its place, a cell is taken from a row, a folder from the map of folders. Each of
these is guarded, and `Strict.readTable_eq` and `Strict.manifest_eq` say that the guards suffice. The
climb from a folder to its parents ends because it never comes through a folder twice
(`Strict.climb_eq`).
-/

namespace InstallerPackage.Strict

/-! ### Columns -/

/-- The text at a position of the pool; a position without one stands for the empty text. -/
def text (strings : Array String) (i : Nat) : Strict String :=
  if i < strings.size then item strings i else pure ""

theorem text_eq (strings : Array String) (i : Nat) :
    text strings i = pure (StringPool.get strings i) := by
  unfold text StringPool.get
  split
  · next h => rw [item_of_lt h, Array.getElem?_eq_getElem h, Option.getD_some]
  · next h => rw [Array.getElem?_eq_none (Nat.not_lt.mp h), Option.getD_none]

/-- A row of the list of columns, which has `n` rows. -/
def columnRow (raw : ByteArray) (strings : Array String) (width n i : Nat) : Strict Schema.Row := do
  let positions := n * width
  let names := positions + n * 2
  let types := names + n * width
  let table ← text strings (Bytes.number raw (i * width) width)
  let name ← text strings (Bytes.number raw (names + i * width) width)
  pure
    { table := table
      position := Bytes.number raw (positions + i * 2) 2 % 0x8000
      name := name
      packed := Bytes.number raw (types + i * 2) 2 }

/-- The columns with one of them replaced; there has to be one at that position. -/
def place (columns : List Column) (position : Nat) (c : Column) : Strict (List Column) :=
  let filled := columns ++ List.replicate (position - columns.length) Column.placeholder
  if 0 < position ∧ position ≤ filled.length then pure (filled.set (position - 1) c)
  else throw (.position position filled.length)

/-- The tables with one more row taken in. -/
def insert (r : Schema.Row) : List Table → Strict (List Table)
  | [] => do
    let columns ← place [] r.position (.ofType r.name r.packed)
    pure [⟨r.table, columns, 0⟩]
  | t :: rest =>
    if t.name = r.table then do
      let columns ← place t.columns r.position (.ofType r.name r.packed)
      pure ({ t with columns := columns } :: rest)
    else do
      let rest ← insert r rest
      pure (t :: rest)

/-- The tables that a list of columns describes. -/
def schema (raw : ByteArray) (strings : Array String) (width : Nat) : Strict (List Table) := do
  let n ← quotient raw.size (2 * width + 4)
  let rows ← (List.range n).mapM (columnRow raw strings width n)
  let tables ← (rows.filter Schema.Row.isValid).foldlM (fun tables r => insert r tables) []
  pure (tables.map (Table.sized width))

theorem place_eq (columns : List Column) {position : Nat} (h : 0 < position) (c : Column) :
    place columns position c = pure (Table.place columns position c) := by
  have hlength := Table.length_place columns position c
  rw [Table.place, List.length_set] at hlength
  rw [place, if_pos ⟨h, hlength ▸ Nat.le_max_right ..⟩, Table.place]

theorem insert_eq {r : Schema.Row} (h : 0 < r.position) (tables : List Table) :
    insert r tables = pure (Schema.insert r tables) := by
  induction tables with
  | nil => rw [insert, place_eq _ h, pure_bind, Schema.insert]
  | cons t rest ih =>
    unfold insert Schema.insert
    split
    · rw [place_eq _ h, pure_bind]
    · rw [ih, pure_bind]

theorem schema_eq (raw : ByteArray) (strings : Array String) (width : Nat) :
    schema raw strings width = pure (Schema.read raw strings width) := by
  -- a row reads all its texts before it looks at them, so it is strict cell by cell
  have hrow : ∀ i, columnRow raw strings width (Schema.rowCount raw width) i =
      pure (Schema.row raw strings width i) := by
    intro i
    rw [columnRow, text_eq, pure_bind, text_eq, pure_bind, Schema.row]
  rw [schema, quotient_eq raw.size (by omega), pure_bind, ← Schema.rowCount,
    mapM_eq fun i _ => hrow i, pure_bind, ← Schema.rows, Schema.read]
  -- rows without a position have been left out before
  have hinsert : ∀ tables, ∀ r ∈ Schema.rows raw strings width,
      insert r tables = pure (Schema.insert r tables) := by
    intro tables r hr
    have hvalid := (List.mem_filter.mp hr).2
    simp only [Schema.Row.isValid, Bool.and_eq_true, decide_eq_true_eq] at hvalid
    exact insert_eq hvalid.1.2 tables
  rw [foldlM_eq hinsert, pure_bind]

/-! ### Rows -/

/-- The text of a cell. -/
def cell (raw : ByteArray) (strings : Array String) (width : Nat) (c : Column) (offset : Nat) :
    Strict String :=
  if raw.size < offset + c.size then pure Table.corrupt
  else if c.size = 0 then pure ""
  else match c.kind with
    | .integer => pure (toString (Table.mask c.size (Bytes.number raw offset c.size)))
    | .string => text strings (Bytes.number raw offset width)

/-- The number of whole rows in a stream of `size` bytes. -/
def rowCount (t : Table) (size : Nat) : Strict Nat :=
  if t.rowSize = 0 then pure 0 else quotient size t.rowSize

/-- The rows in the stream of a table. -/
def rows (t : Table) (raw : ByteArray) (strings : Array String) (width : Nat) :
    Strict (List (List String)) := do
  let n ← rowCount t raw.size
  (List.range n).mapM fun i =>
    (Table.blocks n 0 t.columns).mapM fun b => cell raw strings width b.column (b.cellStart i)

theorem cell_eq (raw : ByteArray) (strings : Array String) (width : Nat) (c : Column)
    (offset : Nat) :
    cell raw strings width c offset = pure (Table.cell raw strings width c offset) := by
  unfold cell Table.cell
  split
  · rfl
  split
  · rfl
  cases c.kind with
  | integer => rfl
  | string => exact text_eq strings _

theorem rowCount_eq (t : Table) (size : Nat) : rowCount t size = pure (t.rowCount size) := by
  unfold rowCount Table.rowCount
  split
  · rfl
  · exact quotient_eq size (Nat.pos_of_ne_zero ‹_›)

theorem rows_eq (t : Table) (raw : ByteArray) (strings : Array String) (width : Nat) :
    rows t raw strings width = pure (t.rows raw strings width) := by
  rw [rows, rowCount_eq, pure_bind]
  exact mapM_eq fun i _ => mapM_eq fun b _ => cell_eq raw strings width b.column _

/-! ### Folders -/

/-- The cell of a row at a position. -/
def cellAt (row : List String) (i : Nat) : Strict String := item row.toArray i

/-- The folders in the rows of their table. -/
def folders (rows : List (List String)) : Strict Folder.Map :=
  rows.foldlM
    (fun map row =>
      if row.length < 3 then pure map
      else do
        let key ← cellAt row 0
        if key = "" then pure map
        else do
          let parent ← cellAt row 1
          let name ← cellAt row 2
          pure (map.insert key ⟨parent, Manifest.longName name⟩))
    ∅

/-- The folder of every component in the rows of their table. -/
def componentFolders (rows : List (List String)) : Strict (Std.TreeMap String String) :=
  rows.foldlM
    (fun map row =>
      if row.length < 3 then pure map
      else do
        let key ← cellAt row 0
        if key = "" then pure map
        else do
          let folder ← cellAt row 2
          pure (map.insert key folder))
    ∅

/-- Climbs from a folder. -/
def climb (folders : Folder.Map) (cache : Folder.Cache) :
    (steps : Nat) → (below : List String) → (key : String) → Strict Folder.Summit
  | 0, _, _ => throw .endless
  | steps + 1, below, key =>
    if key ∈ cache then do
      let path ← entry cache key
      pure ⟨below, path, cache⟩
    else if key ∉ folders then pure ⟨below, key, cache⟩
    else do
      let folder ← entry folders key
      if key ∈ below then
        match below.dropWhile (· ≠ key) with
        | [] => throw (.key key)
        | _ :: rest => pure ⟨rest, folder.name, cache.insert key folder.name⟩
      else if folder.IsTop key then pure ⟨below, folder.name, cache.insert key folder.name⟩
      else climb folders cache steps (key :: below) folder.parent

/-- Comes down again and remembers the paths on the way. -/
def remember (folders : Folder.Map) (separator : String) (out : String × Folder.Cache)
    (below : List String) : Strict (String × Folder.Cache) :=
  below.foldlM
    (fun (path, cache) key => do
      let folder ← entry folders key
      let path := Folder.join separator path folder.name
      pure (path, cache.insert key path))
    out

/-- The path of a folder and the paths known afterwards. -/
def resolve (folders : Folder.Map) (separator key : String) (cache : Folder.Cache) :
    Strict (String × Folder.Cache) := do
  let summit ← climb folders cache (folders.size + 1) [] key
  remember folders separator (summit.path, summit.cache) summit.below

theorem cellAt_eq {row : List String} {i : Nat} {s : String} (h : row[i]? = some s) :
    cellAt row i = pure s :=
  item_eq (by simpa using h)

theorem folders_eq (rows : List (List String)) : folders rows = pure (Manifest.folders rows) := by
  refine foldlM_eq (fun map row _ => ?_) ∅
  match row with
  | [] | [_] | [_, _] => rfl
  | key :: parent :: name :: rest =>
    rw [if_neg (by simp), cellAt_eq (s := key) rfl, cellAt_eq (s := parent) rfl,
      cellAt_eq (s := name) rfl]
    simp only [pure_bind]
    split <;> rfl

theorem componentFolders_eq (rows : List (List String)) :
    componentFolders rows = pure (Manifest.componentFolders rows) := by
  refine foldlM_eq (fun map row _ => ?_) ∅
  match row with
  | [] | [_] | [_, _] => rfl
  | key :: _ :: folder :: rest =>
    rw [if_neg (by simp), cellAt_eq (s := key) rfl, cellAt_eq (s := folder) rfl]
    simp only [pure_bind]
    split <;> rfl

section Folders

variable {map : Folder.Map} {cache : Folder.Cache} {below : List String} {key : String}

/-- A climb ends within its steps. -/
theorem climb_eq {steps : Nat} (hnodup : below.Nodup) (hknown : ∀ k ∈ below, k ∈ map)
    (hsteps : map.size < steps + below.length) :
    climb map cache steps below key = pure (Folder.climb map cache steps below key) := by
  -- the folders below are pairwise different and all in the map, so they can be counted against it
  induction steps generalizing below key with
  | zero =>
    -- more folders would be below than there are
    have := Folder.length_le_size hnodup hknown
    omega
  | succ steps ih =>
    rw [climb, Folder.climb.eq_def]
    dsimp only
    -- the three tests of a step, each one a look-up whose key the test has just found
    cases hc : cache[key]? with
    | some path =>
      rw [if_pos (of_getElem?_eq_some hc), entry_eq hc]
      rfl
    | none =>
    rw [if_neg ((getElem?_eq_none_iff cache key).mp hc)]
    cases hf : map[key]? with
    | none => rw [if_pos ((getElem?_eq_none_iff map key).mp hf)]
    | some f =>
    have hmem : key ∈ map := of_getElem?_eq_some hf
    rw [if_neg (not_not_intro hmem), entry_eq hf, pure_bind]
    dsimp only
    by_cases hmet : key ∈ below
    · -- the folder is found where it was met first
      have hne : below.dropWhile (· ≠ key) ≠ [] := by
        rw [Ne, List.dropWhile_eq_nil_iff]
        exact fun h => by simpa using h key hmet
      -- so the part behind the first meeting exists, and is what the cycle leaves
      obtain ⟨k, rest, hdrop⟩ := List.exists_cons_of_ne_nil hne
      rw [if_pos hmet, if_pos (List.contains_iff_mem.mpr hmet), hdrop]
      rfl
    · rw [if_neg hmet, if_neg (mt List.contains_iff_mem.mp hmet)]
      by_cases htop : f.IsTop key
      · rw [if_pos htop, if_pos (show f.parent = "" ∨ f.parent = key from htop)]
      · rw [if_neg htop, if_neg (show ¬ (f.parent = "" ∨ f.parent = key) from htop)]
        -- the next step has one folder more below, and all of them are still in the map
        refine ih (List.nodup_cons.mpr ⟨hmet, hnodup⟩) (fun k hk => ?_) ?_
        · rcases List.mem_cons.mp hk with rfl | hk
          · exact hmem
          · exact hknown k hk
        · rw [List.length_cons]
          omega

theorem remember_eq (separator : String) (out : String × Folder.Cache)
    (hknown : ∀ k ∈ below, k ∈ map) :
    remember map separator out below = pure (Folder.remember map separator out below) := by
  refine foldlM_eq (fun out k hk => ?_) out
  obtain ⟨f, hf⟩ : ∃ f, map[k]? = some f := ⟨_, getElem?_pos map k (hknown k hk)⟩
  dsimp only
  rw [entry_eq hf, pure_bind, Folder.nameOf, hf]
  rfl

theorem resolve_eq (map : Folder.Map) (separator key : String) (cache : Folder.Cache) :
    resolve map separator key cache = pure (Folder.resolve map separator key cache) := by
  have hknown : ∀ k ∈ ([] : List String), k ∈ map := by simp
  rw [resolve, climb_eq List.nodup_nil hknown (Nat.lt_succ_self _), pure_bind]
  -- on the way down every folder is known, as the climb came through it
  exact remember_eq separator _
    ((Folder.climbs_climb cache key List.nodup_nil hknown (Nat.lt_succ_self _)).below_mem hknown)

end Folders

/-! ### The manifest -/

/-- The folder of a component's files, and the paths known afterwards. -/
def locate (style : Manifest.Style) (folders : Folder.Map) (components : Std.TreeMap String String)
    (component : String) (cache : Folder.Cache) : Strict (String × Folder.Cache) :=
  if component ∈ components then do
    let key ← entry components component
    resolve folders style.separator key cache
  else pure (style.orphan, cache)

/-- The files in the rows of their table. -/
def filesFrom (style : Manifest.Style) (folders : Folder.Map)
    (components : Std.TreeMap String String) :
    Folder.Cache → List (List String) → Strict (List InstalledFile)
  | _, [] => pure []
  | cache, row :: rest =>
    if row.length < 5 then filesFrom style folders components cache rest
    else do
      let component ← cellAt row 1
      let (folder, cache) ← locate style folders components component cache
      let name ← cellAt row 2
      let size ← cellAt row 3
      let version ← cellAt row 4
      let more ← filesFrom style folders components cache rest
      pure (⟨Manifest.longName name, folder, component, (Integer.parse? size).getD 0, version⟩ :: more)

/-- The manifest made of the rows of the three tables. -/
def files (style : Manifest.Style) (folderRows componentRows fileRows : List (List String)) :
    Strict (List InstalledFile) := do
  let folders ← folders folderRows
  let components ← componentFolders componentRows
  filesFrom style folders components ∅ fileRows

theorem locate_eq (style : Manifest.Style) (folders : Folder.Map)
    (components : Std.TreeMap String String) (component : String) (cache : Folder.Cache) :
    locate style folders components component cache =
      pure (Manifest.locate style folders components component cache) := by
  unfold locate Manifest.locate
  cases hkey : components[component]? with
  | none => rw [if_neg ((getElem?_eq_none_iff components component).mp hkey)]
  | some key =>
    rw [if_pos (of_getElem?_eq_some hkey), entry_eq hkey, pure_bind, resolve_eq]

theorem filesFrom_eq (style : Manifest.Style) (folders : Folder.Map)
    (components : Std.TreeMap String String) (cache : Folder.Cache) (rows : List (List String)) :
    filesFrom style folders components cache rows =
      pure (Manifest.filesFrom style folders components cache rows) := by
  -- the cache goes along with the rows, so it stays free
  induction rows generalizing cache with
  | nil => rfl
  | cons row rest ih =>
    -- a row with fewer than five cells is left out, whichever is missing
    match row with
    | [] | [_] | [_, _] | [_, _, _] | [_, _, _, _] =>
      rw [filesFrom, if_pos (by simp), ih, Manifest.filesFrom]
      simp
    -- every cell that is looked at lies within the five
    | _ :: component :: name :: size :: version :: _ =>
      rw [filesFrom, if_neg (by simp), cellAt_eq (s := component) rfl, pure_bind, locate_eq, pure_bind,
        Manifest.filesFrom]
      dsimp only
      rw [cellAt_eq (s := name) rfl, pure_bind, cellAt_eq (s := size) rfl, pure_bind,
        cellAt_eq (s := version) rfl, pure_bind, ih, pure_bind]

theorem files_eq (style : Manifest.Style) (folderRows componentRows fileRows : List (List String)) :
    files style folderRows componentRows fileRows =
      pure (Manifest.files style folderRows componentRows fileRows) := by
  rw [files, folders_eq, pure_bind, componentFolders_eq, pure_bind, filesFrom_eq, Manifest.files]

/-! ### The database of a file -/

/-- The string pool of a file. -/
def loadPool (c : Container) : Strict (Option StringPool) :=
  match Database.find? c Database.poolName, Database.find? c Database.textName with
  | some poolRecord, some textRecord => do
    let pool ← readRecord c.volume poolRecord
    let text ← readRecord c.volume textRecord
    pure (StringPool.read? pool text).value
  | _, _ => pure none

/-- The tables of a file, for a given string pool. -/
def loadTables (c : Container) (pool : StringPool) : Strict Database :=
  match (Database.find? c Database.columnsName).filter (·.size != 0) with
  | none => pure { pool := pool }
  | some record => do
    let width := Schema.referenceWidth record.size pool.strings.size
    let raw ← readRecord c.volume record
    let tables ← schema raw pool.strings width
    pure { pool := pool, referenceWidth := width, tables := tables }

/-- The number of rows that the record of a table's stream announces. -/
def announcedRows (c : Container) (t : Table) : Strict Nat :=
  match Database.find? c (Database.streamName t.name) with
  | none => pure 0
  | some record => rowCount t record.size

/-- The rows of a table. -/
def readTable (db : Database) (c : Container) (name : String) : Strict (List (List String)) :=
  match db.table? name, Database.find? c (Database.streamName name) with
  | some table, some record => do
    let raw ← readRecord c.volume record
    rows table raw db.pool.strings db.referenceWidth
  | _, _ => pure []

/-- The rows of a table, with every cell labelled by its column. -/
def readLabelled (db : Database) (c : Container) (name : String) :
    Strict (List (List (String × String))) :=
  match db.table? name with
  | none => pure []
  | some table => do
    let rows ← readTable db c name
    pure (rows.map (Table.labelled table.columns))

/-- The files that a package installs. -/
def manifest (db : Database) (c : Container) (style : Manifest.Style) :
    Strict (List InstalledFile) :=
  match db.table? "File" with
  | none => pure []
  | some _ => do
    let folders ← readTable db c "Directory"
    let components ← readTable db c "Component"
    let rows ← readTable db c "File"
    files style folders components rows

section Database

variable {c : Container} (hc : c.volume.HasUnits)
include hc

theorem loadPool_eq : loadPool c = pure (Database.loadPool c).value := by
  unfold loadPool Database.loadPool
  cases Database.find? c Database.poolName with
  | none => rfl
  | some poolRecord =>
    cases Database.find? c Database.textName with
    | none => rfl
    | some textRecord =>
      dsimp only
      rw [readRecord_eq hc, pure_bind, readRecord_eq hc, pure_bind]
      rfl

theorem loadTables_eq (pool : StringPool) :
    loadTables c pool = pure (Database.loadTables c pool).value := by
  unfold loadTables Database.loadTables
  cases (Database.find? c Database.columnsName).filter (·.size != 0) with
  | none => rfl
  | some record =>
    dsimp only
    rw [readRecord_eq hc, pure_bind, schema_eq, pure_bind]
    rfl

omit hc in
theorem announcedRows_eq (t : Table) : announcedRows c t = pure (Database.rowCount c t) := by
  unfold announcedRows Database.rowCount
  cases Database.find? c (Database.streamName t.name) with
  | none => rfl
  | some record => exact rowCount_eq t record.size

/-- The rows of any table are read without a fault. -/
theorem readTable_eq (db : Database) (name : String) :
    readTable db c name = pure (db.readTable c name).value := by
  unfold readTable Database.readTable
  -- no table and no stream both give no rows; only the bytes of a stream are cut into cells
  cases db.table? name with
  | none => rfl
  | some table =>
    cases Database.find? c (Database.streamName name) with
    | none => rfl
    | some record =>
      dsimp only
      rw [readRecord_eq hc, pure_bind, rows_eq]
      rfl

theorem readLabelled_eq (db : Database) (name : String) :
    readLabelled db c name = pure (db.readLabelled c name).value := by
  unfold readLabelled Database.readLabelled
  cases db.table? name with
  | none => rfl
  | some table =>
    dsimp only
    rw [readTable_eq hc, pure_bind]
    rfl

/-- The manifest is made without a fault. -/
theorem manifest_eq (db : Database) (style : Manifest.Style) :
    manifest db c style = pure (db.manifest c style).value := by
  unfold manifest Database.manifest
  cases db.table? "File" with
  | none => rfl
  | some _ =>
    dsimp only
    rw [readTable_eq hc, pure_bind, readTable_eq hc, pure_bind, readTable_eq hc, pure_bind, files_eq]
    rfl

end Database

end InstallerPackage.Strict
