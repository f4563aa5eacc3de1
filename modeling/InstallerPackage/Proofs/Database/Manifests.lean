import InstallerPackage.Proofs.Database.Caches
import InstallerPackage.Proofs.Database.Cells
import InstallerPackage.Proofs.Numerals
import InstallerPackage.Proofs.Packages

/-!
# The manifest as a join

The files of a package are its rows in the table of files, each joined with the last row of its
component and the path of the folder named there.

* `Manifest.lastRow?` is the row that counts of all those with one key. The two tables that are
  looked up matter only through it (`Manifest.getElem?_folders`,
  `Manifest.getElem?_componentFolders`), so the order of rows with different keys does not matter
  (`Manifest.Reordered`).
* `Manifest.FileOf` says what a file has from its row. The one thing that is passed from row to row
  is the cache of paths: it is the one that the look-ups for the rows before leave behind
  (`Manifest.foldl_locate`), and `Folder.resolve_cacheAfter` makes the paths of one component agree.

`Package.files_join` states all this for the files of a loaded package.
-/

namespace InstallerPackage

namespace Manifest

variable {rows rows' : List (List String)} {row : List String} {key : String}

/-! ### The last row of a key -/

/-- The row has at least three cells and begins with the key, which is not empty. -/
def IsRowOf (key : String) (row : List String) : Prop :=
  key ≠ "" ∧ 3 ≤ row.length ∧ row.head? = some key

instance (key : String) (row : List String) : Decidable (IsRowOf key row) :=
  inferInstanceAs (Decidable (_ ∧ _ ∧ _))

/-- The last row of a key, if it has one. -/
def lastRow? (rows : List (List String)) (key : String) : Option (List String) :=
  (rows.filter (IsRowOf key ·)).getLast?

theorem lastRow?_eq_none_iff :
    lastRow? rows key = none ↔
      key = "" ∨ ∀ row ∈ rows, 3 ≤ row.length → row.head? ≠ some key := by
  rw [lastRow?, List.getLast?_eq_none_iff, List.filter_eq_nil_iff]
  by_cases hkey : key = ""
  · simp [IsRowOf, hkey]
  · simp [IsRowOf, hkey]

theorem lastRow?_append (rows : List (List String)) (row : List String) (key : String) :
    lastRow? (rows ++ [row]) key = if IsRowOf key row then some row else lastRow? rows key := by
  rw [lastRow?, List.filter_append]
  split
  · next h => rw [List.filter_cons_of_pos (by simpa using h), List.filter_nil, List.getLast?_concat]
  · next h =>
    rw [List.filter_cons_of_neg (by simpa using h), List.filter_nil, List.append_nil, lastRow?]

theorem isRowOf_of_lastRow? (h : lastRow? rows key = some row) : row ∈ rows ∧ IsRowOf key row := by
  have hmem := List.mem_of_getLast? h
  rw [List.mem_filter, decide_eq_true_eq] at hmem
  exact hmem

/-- Takes a row into a map, with a value made of its second and third cells. -/
def take {β : Type} (value : String → String → β) (map : Std.TreeMap String β) :
    List String → Std.TreeMap String β
  | key :: second :: third :: _ => if key = "" then map else map.insert key (value second third)
  | _ => map

theorem take_of_isRowOf {β : Type} (value : String → String → β) (map : Std.TreeMap String β)
    (h : IsRowOf key row) :
    take value map row = map.insert key (value (row.getD 1 "") (row.getD 2 "")) := by
  obtain ⟨hkey, hlength, hhead⟩ := h
  match row, hlength, hhead with
  | _ :: _ :: _ :: _, _, rfl => exact if_neg hkey

theorem take_of_not_isRowOf {β : Type} (value : String → String → β) (map : Std.TreeMap String β)
    (h : ∀ key, ¬ IsRowOf key row) : take value map row = map := by
  match row with
  | [] | [_] | [_, _] => rfl
  | k :: _ :: _ :: _ =>
    have hk : k = "" := by
      by_contra hk
      exact h k ⟨hk, by simp, rfl⟩
    exact if_pos hk

/-- A map that takes in one row after the other has what the last row of each key says. -/
theorem getElem?_foldl_take {β : Type} (value : String → String → β) (rows : List (List String))
    (key : String) :
    (rows.foldl (take value) ∅)[key]? =
      (lastRow? rows key).map fun row => value (row.getD 1 "") (row.getD 2 "") := by
  -- the last row decides, unless it has another key: so the rows are taken from behind
  induction rows using List.reverseRecOn with
  | nil => exact Std.TreeMap.getElem?_emptyc
  | append_singleton rows row ih =>
    rw [List.foldl_append, List.foldl_cons, List.foldl_nil, lastRow?_append]
    -- a row with too few cells, or with no key, is of no key at all
    by_cases h : ∃ k, IsRowOf k row
    · obtain ⟨k, hk⟩ := h
      rw [take_of_isRowOf value _ hk, Std.TreeMap.getElem?_insert]
      by_cases heq : k = key
      · rw [if_pos (Std.compare_eq_iff_eq.mpr heq), if_pos (heq ▸ hk), Option.map_some]
      · have hnot : ¬ IsRowOf key row := fun h =>
          heq (Option.some.inj (hk.2.2.symm.trans h.2.2))
        rw [if_neg (fun h => heq (Std.compare_eq_iff_eq.mp h)), if_neg hnot, ih]
    · rw [take_of_not_isRowOf value _ (fun k hk => h ⟨k, hk⟩), if_neg (fun hk => h ⟨key, hk⟩), ih]

/-- The folder of a key is that of its last row. -/
theorem getElem?_folders (rows : List (List String)) (key : String) :
    (folders rows)[key]? =
      (lastRow? rows key).map fun row => ⟨row.getD 1 "", longName (row.getD 2 "")⟩ := by
  exact getElem?_foldl_take (fun parent name => Folder.mk parent (longName name)) rows key

/-- The folder that the last row of a component names. -/
def folderKey? (rows : List (List String)) (component : String) : Option String :=
  (lastRow? rows component).map (·.getD 2 "")

theorem getElem?_componentFolders (rows : List (List String)) (key : String) :
    (componentFolders rows)[key]? = folderKey? rows key := by
  exact getElem?_foldl_take (fun _ folder => folder) rows key

/-- The same rows in another order, except that rows with one key keep theirs. -/
def Reordered (rows rows' : List (List String)) : Prop :=
  ∀ key : Option String, rows.filter (·.head? = key) = rows'.filter (·.head? = key)

theorem Reordered.lastRow?_eq (h : Reordered rows rows') (key : String) :
    lastRow? rows key = lastRow? rows' key := by
  have hfilter : ∀ rows : List (List String), rows.filter (IsRowOf key ·) =
      (rows.filter (·.head? = some key)).filter fun row => key ≠ "" ∧ 3 ≤ row.length := by
    intro rows
    rw [List.filter_filter]
    congr 1
    funext row
    rw [← Bool.decide_and, decide_eq_decide, IsRowOf, and_assoc]
  rw [lastRow?, lastRow?, hfilter, hfilter, h (some key)]

/-! ### The files of some rows -/

variable {style : Style} {folderMap folderMap' : Folder.Map} {components : Std.TreeMap String String}

/-- The file of a row, once its folder is known. -/
def fileIn (folder : String) (row : List String) : InstalledFile where
  name := longName (row.getD 2 "")
  folder := folder
  component := row.getD 1 ""
  size := (Integer.parse? (row.getD 3 "")).getD 0
  version := row.getD 4 ""

/-- Every row has its file, and only the cache is handed on. -/
theorem getElem?_filesFrom (hrows : ∀ row ∈ rows, 5 ≤ row.length) (cache : Folder.Cache) (i : Nat) :
    (filesFrom style folderMap components cache rows)[i]? = rows[i]?.map fun row =>
      fileIn (locate style folderMap components (row.getD 1 "") ((rows.take i).foldl
        (fun cache row => (locate style folderMap components (row.getD 1 "") cache).2) cache)).1 row := by
  -- on the rows, with the cache free: it is the one that the rows in front hand on
  induction rows generalizing cache i with
  | nil => rfl
  | cons row rest ih =>
    obtain ⟨hrow, hrest⟩ := List.forall_mem_cons.mp hrows
    -- a row with five cells is cut into them
    match row, hrow with
    | _ :: _ :: _ :: _ :: _ :: _, _ =>
      cases i with
      | zero => rfl
      | succ i => exact ih hrest _ i

theorem length_filesFrom (hrows : ∀ row ∈ rows, 5 ≤ row.length) (cache : Folder.Cache) :
    (filesFrom style folderMap components cache rows).length = rows.length := by
  induction rows generalizing cache with
  | nil => rfl
  | cons row rest ih =>
    obtain ⟨hrow, hrest⟩ := List.forall_mem_cons.mp hrows
    match row, hrow with
    | _ :: _ :: _ :: _ :: _ :: _, _ => exact congrArg Nat.succ (ih hrest _)

theorem locate_congr {components' : Std.TreeMap String String}
    (hfolders : ∀ key : String, folderMap[key]? = folderMap'[key]?)
    (hcomponents : ∀ key : String, components[key]? = components'[key]?) (component : String)
    (cache : Folder.Cache) :
    locate style folderMap components component cache =
      locate style folderMap' components' component cache := by
  simp only [locate, hcomponents, Folder.resolve_congr hfolders]

theorem filesFrom_congr {components' : Std.TreeMap String String}
    (hfolders : ∀ key : String, folderMap[key]? = folderMap'[key]?)
    (hcomponents : ∀ key : String, components[key]? = components'[key]?) (cache : Folder.Cache)
    (rows : List (List String)) :
    filesFrom style folderMap components cache rows =
      filesFrom style folderMap' components' cache rows := by
  -- the two maps are only ever looked into
  fun_induction filesFrom style folderMap components cache rows with
  | case1 => rfl
  | case2 _ _ _ _ _ _ _ _ _ _ hlocate ih =>
    rw [filesFrom, ← locate_congr hfolders hcomponents, hlocate, ih]
  | case3 _ _ _ hshort ih =>
    rw [filesFrom, ih]
    exact hshort

/-- The order of rows with different keys does not matter to the files. -/
theorem files_reordered {folderRows folderRows' componentRows componentRows' : List (List String)}
    (hfolders : Reordered folderRows folderRows')
    (hcomponents : Reordered componentRows componentRows') (style : Style)
    (fileRows : List (List String)) :
    files style folderRows componentRows fileRows =
      files style folderRows' componentRows' fileRows := by
  refine filesFrom_congr (fun key => ?_) (fun key => ?_) ∅ fileRows
  · rw [getElem?_folders, getElem?_folders, hfolders.lastRow?_eq]
  · rw [getElem?_componentFolders, getElem?_componentFolders, folderKey?, folderKey?,
      hcomponents.lastRow?_eq]

/-! ### Files and folders -/

/-- The folders that are looked up for some rows of the table of files. -/
def lookups (componentRows rows : List (List String)) : List String :=
  rows.filterMap fun row => folderKey? componentRows (row.getD 1 "")

theorem lookups_cons (componentRows : List (List String)) (row : List String)
    (rows : List (List String)) :
    lookups componentRows (row :: rows) =
      (folderKey? componentRows (row.getD 1 "")).toList ++ lookups componentRows rows := by
  rw [lookups, List.filterMap_cons]
  cases folderKey? componentRows (row.getD 1 "") with
  | none => rfl
  | some key => rfl

theorem locate_of_folderKey? {componentRows : List (List String)} {component key : String}
    (h : folderKey? componentRows component = some key) (cache : Folder.Cache) :
    locate style folderMap (componentFolders componentRows) component cache =
      Folder.resolve folderMap style.separator key cache := by
  rw [locate, getElem?_componentFolders, h]

theorem locate_of_none {componentRows : List (List String)} {component : String}
    (h : folderKey? componentRows component = none) (cache : Folder.Cache) :
    locate style folderMap (componentFolders componentRows) component cache =
      (style.orphan, cache) := by
  rw [locate, getElem?_componentFolders, h]

/-- The cache that some rows hand on is the one of their look-ups. -/
theorem foldl_locate (style : Style) (folderMap : Folder.Map) (componentRows rows : List (List String)) :
    rows.foldl (fun cache row =>
        (locate style folderMap (componentFolders componentRows) (row.getD 1 "") cache).2) ∅ =
      Folder.cacheAfter folderMap style.separator (lookups componentRows rows) := by
  -- rows of components without a folder leave the cache alone
  have hfold : ∀ cache, rows.foldl (fun cache row =>
        (locate style folderMap (componentFolders componentRows) (row.getD 1 "") cache).2) cache =
      (lookups componentRows rows).foldl
        (fun cache key => (Folder.resolve folderMap style.separator key cache).2) cache := by
    -- one look-up for each row whose component has a folder
    induction rows with
    | nil => exact fun cache => rfl
    | cons row rows ih =>
      intro cache
      rw [List.foldl_cons, ih, lookups_cons]
      cases h : folderKey? componentRows (row.getD 1 "") with
      | none => rw [locate_of_none h]; rfl
      | some key => rw [locate_of_folderKey? h]; rfl
  exact hfold ∅

/-- The folder that a component is in when some rows of the table of files have been dealt with. -/
def folderOf (style : Style) (folderRows componentRows earlier : List (List String))
    (component : String) : String :=
  match folderKey? componentRows component with
  | none => style.orphan
  | some key =>
    (Folder.resolve (folders folderRows) style.separator key
      (Folder.cacheAfter (folders folderRows) style.separator (lookups componentRows earlier))).1

theorem getElem?_files {folderRows componentRows fileRows : List (List String)}
    (hrows : ∀ row ∈ fileRows, 5 ≤ row.length) (style : Style) (i : Nat) :
    (files style folderRows componentRows fileRows)[i]? = fileRows[i]?.map fun row =>
      fileIn (folderOf style folderRows componentRows (fileRows.take i) (row.getD 1 "")) row := by
  rw [files, getElem?_filesFrom hrows, foldl_locate]
  congr 1
  funext row
  rw [folderOf]
  cases h : folderKey? componentRows (row.getD 1 "") with
  | none => rw [locate_of_none h]
  | some key => rw [locate_of_folderKey? h]

/-- A component that was met before keeps its folder. -/
theorem folderOf_append (style : Style) (folderRows componentRows earlier later : List (List String))
    (row : List String) :
    folderOf style folderRows componentRows (earlier ++ row :: later) (row.getD 1 "") =
      folderOf style folderRows componentRows earlier (row.getD 1 "") := by
  unfold folderOf
  cases h : folderKey? componentRows (row.getD 1 "") with
  | none => rfl
  | some key =>
    -- the look-up of this row is one of those that came before
    have hlookups : lookups componentRows (earlier ++ row :: later) =
        lookups componentRows earlier ++ key :: lookups componentRows later := by
      rw [lookups, List.filterMap_append, ← lookups, ← lookups, lookups_cons, h]
      rfl
    dsimp only
    rw [hlookups, Folder.resolve_cacheAfter]

/-- The rows in front of a later one begin with those in front of an earlier one, and that one. -/
theorem exists_take_eq {i j : Nat} (hrow : rows[i]? = some row) (hlt : i < j) :
    ∃ later, rows.take j = rows.take i ++ row :: later := by
  obtain ⟨hi, rfl⟩ := List.getElem?_eq_some_iff.mp hrow
  have hi' : i < (rows.take j).length := by
    rw [List.length_take]
    omega
  refine ⟨(rows.take j).drop (i + 1), ?_⟩
  have h := List.take_append_drop i (rows.take j)
  rw [List.drop_eq_getElem_cons hi', List.take_take, Nat.min_eq_left (Nat.le_of_lt hlt),
    List.getElem_take] at h
  exact h.symm

/-- Files of one component are in one folder. -/
theorem folder_eq_of_component_eq {folderRows componentRows fileRows : List (List String)}
    (hrows : ∀ row ∈ fileRows, 5 ≤ row.length) {f g : InstalledFile}
    (hf : f ∈ files style folderRows componentRows fileRows)
    (hg : g ∈ files style folderRows componentRows fileRows) (h : f.component = g.component) :
    f.folder = g.folder := by
  -- of two rows one comes first
  have hle : ∀ {i j : Nat} {row row' : List String}, fileRows[i]? = some row →
      fileRows[j]? = some row' → row.getD 1 "" = row'.getD 1 "" → i ≤ j →
      folderOf style folderRows componentRows (fileRows.take i) (row.getD 1 "") =
        folderOf style folderRows componentRows (fileRows.take j) (row'.getD 1 "") := by
    -- the row that comes later finds what the first one found
    intro i j row row' hrow hrow' hcomponent hij
    rw [← hcomponent]
    rcases Nat.lt_or_eq_of_le hij with hlt | rfl
    · obtain ⟨later, hlater⟩ := exists_take_eq hrow hlt
      rw [hlater, folderOf_append]
    · rfl
  obtain ⟨i, hi⟩ := List.mem_iff_getElem?.mp hf
  obtain ⟨j, hj⟩ := List.mem_iff_getElem?.mp hg
  rw [getElem?_files hrows] at hi hj
  obtain ⟨row, hrow, rfl⟩ := Option.map_eq_some_iff.mp hi
  obtain ⟨row', hrow', rfl⟩ := Option.map_eq_some_iff.mp hj
  rcases Nat.le_total i j with hij | hij
  · exact hle hrow hrow' h hij
  · exact (hle hrow' hrow h.symm hij).symm

/-- What a file has from its row, from the row of its component and from the folders, when some rows
have been dealt with earlier. -/
structure FileOf (style : Style) (folderRows componentRows earlier : List (List String))
    (row : List String) (file : InstalledFile) : Prop where
  name : row[2]?.map longName = some file.name
  component : row[1]? = some file.component
  size : row[3]?.map (fun cell => (Integer.parse? cell).getD 0) = some file.size
  version : row[4]? = some file.version
  orphan : (file.component = "" ∨
    ∀ r ∈ componentRows, 3 ≤ r.length → r.head? ≠ some file.component) → file.folder = style.orphan
  folder : ∀ r, lastRow? componentRows file.component = some r → ∃ key, r[2]? = some key ∧
    file.folder = (Folder.resolve (folders folderRows) style.separator key
      (Folder.cacheAfter (folders folderRows) style.separator (lookups componentRows earlier))).1

theorem fileOf_fileIn (style : Style) (folderRows componentRows earlier : List (List String))
    (hrow : 5 ≤ row.length) :
    FileOf style folderRows componentRows earlier row
      (fileIn (folderOf style folderRows componentRows earlier (row.getD 1 "")) row) := by
  -- a row that is used is long enough for the cells that are read
  have hcell : ∀ {row : List String} {i : Nat}, i < row.length → row[i]? = some (row.getD i "") := by
    intro row i hi
    rw [List.getD_eq_getElem?_getD, List.getElem?_eq_getElem hi, Option.getD_some]
  refine ⟨?_, hcell (by omega), ?_, hcell (by omega), fun h => ?_, fun r hr => ?_⟩
  · rw [hcell (show 2 < row.length by omega)]
    rfl
  · rw [hcell (show 3 < row.length by omega)]
    rfl
  · -- a component without a row has no folder to look up
    have hlast : lastRow? componentRows (row.getD 1 "") = none := lastRow?_eq_none_iff.mpr h
    have hkey : folderKey? componentRows (row.getD 1 "") = none := by
      rw [folderKey?, hlast, Option.map_none]
    change folderOf .. = _
    rw [folderOf, hkey]
  · have hlength := (isRowOf_of_lastRow? hr).2.2.1
    have hlast : lastRow? componentRows (row.getD 1 "") = some r := hr
    have hkey : folderKey? componentRows (row.getD 1 "") = some (r.getD 2 "") := by
      rw [folderKey?, hlast, Option.map_some]
    refine ⟨_, hcell (show 2 < r.length by omega), ?_⟩
    change folderOf .. = _
    rw [folderOf, hkey]

end Manifest

end InstallerPackage
