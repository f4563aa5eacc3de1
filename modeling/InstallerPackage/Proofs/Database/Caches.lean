import Std.Data.TreeMap.Lemmas
import InstallerPackage.Proofs.Database.Folders

/-!
# The cache of paths

Look-ups share a cache, and among folders with cycles the path of a folder depends on what has been
looked up before. It does not depend on what is looked up afterwards:

* a look-up keeps every entry of the cache (`Grows`), and adds entries for folders of the table only
  (`Within`);
* behind a look-up of a key its path is `Settled`: it is in the cache, or the key has no row and
  stands for itself for ever.

`resolve_cacheAfter` puts the two together: once a key has been looked up, every later look-up of it
returns the same path. The invariant of a climb is that the folders it has come through are not in
the cache (`Climbs.uncached`), so coming down again overwrites nothing.

`resolve_congr` says that a look-up sees of the folders only which row each key has.
-/

namespace InstallerPackage.Folder

variable {folders : Map} {cache cache' : Cache} {separator key path : String} {below : List String}
  {s : Summit}

/-! ### Entries are kept -/

/-- Every entry of the first cache is in the second one. -/
def Grows (cache cache' : Cache) : Prop :=
  ∀ key path : String, cache[key]? = some path → cache'[key]? = some path

theorem Grows.refl (cache : Cache) : Grows cache cache := fun _ _ h => h

theorem Grows.trans {cache'' : Cache} (h : Grows cache cache') (h' : Grows cache' cache'') :
    Grows cache cache'' :=
  fun k p hk => h' k p (h k p hk)

theorem getElem?_insert_of_ne {k : String} (hne : key ≠ k) (path : String) :
    (cache.insert key path)[k]? = cache[k]? := by
  rw [Std.TreeMap.getElem?_insert, if_neg]
  rwa [Std.compare_eq_iff_eq]

/-- A new entry does not touch the others. -/
theorem grows_insert (h : cache[key]? = none) (path : String) :
    Grows cache (cache.insert key path) := by
  intro k p hk
  have hne : key ≠ k := by
    rintro rfl
    rw [h] at hk
    cases hk
  rwa [getElem?_insert_of_ne hne]

theorem Climbs.grows (h : Climbs folders cache below key s) : Grows cache s.cache := by
  induction h with
  | cached _ | unknown _ _ => exact Grows.refl _
  | again hc _ _ | top hc _ _ _ => exact grows_insert hc _
  | up _ _ _ _ _ ih => exact ih

/-- Only folders of the table are in the cache. -/
def Within (folders : Map) (cache : Cache) : Prop := ∀ key : String, key ∈ cache → key ∈ folders

theorem within_empty (folders : Map) : Within folders ∅ := fun _ h =>
  absurd h Std.TreeMap.not_mem_emptyc

theorem Within.insert (h : Within folders cache) (hkey : key ∈ folders) (path : String) :
    Within folders (cache.insert key path) := by
  intro k hk
  rw [Std.TreeMap.mem_insert, Std.compare_eq_iff_eq] at hk
  rcases hk with rfl | hk
  · exact hkey
  · exact h k hk

theorem Climbs.within (h : Climbs folders cache below key s) (hw : Within folders cache) :
    Within folders s.cache := by
  induction h with
  | cached _ | unknown _ _ => exact hw
  | again _ hf _ | top _ hf _ _ => exact hw.insert (of_getElem?_eq_some hf) _
  | up _ _ _ _ _ ih => exact ih

/-! ### What a climb leaves below it -/

/-- A folder of a list, and what comes behind it. -/
theorem exists_dropWhile_ne (h : key ∈ below) :
    ∃ rest, below.dropWhile (· ≠ key) = key :: rest := by
  induction below with
  | nil => exact absurd h List.not_mem_nil
  | cons k below ih =>
    by_cases hk : k = key
    · exact ⟨below, by rw [List.dropWhile_cons_of_neg (by simpa using hk), hk]⟩
    · rw [List.dropWhile_cons_of_pos (by simpa using hk)]
      exact ih ((List.mem_cons.mp h).resolve_left (Ne.symm hk))

/-- The folders below the end of a climb are new to its cache, and distinct. -/
structure New (cache : Cache) (below : List String) : Prop where
  uncached : ∀ k ∈ below, cache[k]? = none
  nodup : below.Nodup

theorem New.insert (h : New cache below) (hkey : key ∉ below) (path : String) :
    New (cache.insert key path) below := by
  refine ⟨fun k hk => ?_, h.nodup⟩
  have hne : key ≠ k := by
    rintro rfl
    exact hkey hk
  rw [getElem?_insert_of_ne hne]
  exact h.uncached k hk

theorem New.cons (h : New cache below) (hc : cache[key]? = none) (hkey : key ∉ below) :
    New cache (key :: below) :=
  ⟨List.forall_mem_cons.mpr ⟨hc, h.uncached⟩, List.nodup_cons.mpr ⟨hkey, h.nodup⟩⟩

theorem Climbs.new (h : Climbs folders cache below key s) (hnew : New cache below) :
    New s.cache s.below := by
  -- on the climb's own cases; the cache grows only where it ends
  induction h with
  | cached _ | unknown _ _ => exact hnew
  | @again below key f _ _ hmet =>
    obtain ⟨rest, hrest⟩ := exists_dropWhile_ne hmet
    have hsub : (key :: rest).Sublist below := hrest ▸ List.dropWhile_sublist _
    have hnodup := hnew.nodup.sublist hsub
    rw [hrest]
    -- the folder that was met twice is the top, and only those behind its first visit are below
    refine New.insert ⟨fun k hk => ?_, hnodup.of_cons⟩ (List.nodup_cons.mp hnodup).1 f.name
    exact hnew.uncached k (hsub.subset (List.mem_cons_of_mem _ hk))
  | top _ _ hmet _ => exact hnew.insert hmet _
  | up hc _ hmet _ _ ih => exact ih (hnew.cons hc hmet)

/-- The path of a key will not change any more: it is in the cache, or the key has no row. -/
def Settled (folders : Map) (cache : Cache) (key path : String) : Prop :=
  cache[key]? = some path ∨ folders[key]? = none ∧ path = key

theorem Settled.grows (h : Settled folders cache key path) (hg : Grows cache cache') :
    Settled folders cache' key path :=
  h.imp_left (hg key path)

theorem settled_insert (folders : Map) (cache : Cache) (key path : String) :
    Settled folders (cache.insert key path) key path :=
  .inl Std.TreeMap.getElem?_insert_self

/-- A climb ends at a key whose path is settled, and the way down from there leads to the folder it
began with. -/
theorem Climbs.exists_settled (h : Climbs folders cache below key s) :
    ∃ top, Settled folders s.cache top s.path ∧
      (top :: s.below).getLast (List.cons_ne_nil _ _) =
        (key :: below).getLast (List.cons_ne_nil _ _) := by
  -- the key that was asked for stays the last one, however the climb goes on
  induction h with
  | @cached _ key _ hc => exact ⟨key, .inl hc, rfl⟩
  | @unknown _ key _ hf => exact ⟨key, .inr ⟨hf, rfl⟩, rfl⟩
  | @again below key f _ _ hmet =>
    refine ⟨key, settled_insert .., ?_⟩
    -- what is left over begins behind the first visit, where the cut was made
    obtain ⟨rest, hrest⟩ := exists_dropWhile_ne hmet
    obtain ⟨front, hfront⟩ : ∃ front, below = front ++ key :: rest :=
      ⟨_, hrest ▸ (List.takeWhile_append_dropWhile).symm⟩
    have hbelow : below ≠ [] := List.ne_nil_of_mem hmet
    simp only [hrest, List.drop_succ_cons, List.drop_zero]
    rw [List.getLast_cons hbelow]
    simp only [hfront]
    rw [List.getLast_append_of_ne_nil _ (List.cons_ne_nil _ _)]
  | @top below key f _ _ _ _ => exact ⟨key, settled_insert .., rfl⟩
  | @up below key f s _ _ _ _ _ ih =>
    obtain ⟨top, hsettled, hlast⟩ := ih
    exact ⟨top, hsettled, hlast.trans (List.getLast_cons (List.cons_ne_nil key below))⟩

/-! ### What the way down adds -/

theorem grows_remember (hnew : New cache below) (path : String) :
    Grows cache (remember folders separator (path, cache) below).2 := by
  induction below generalizing cache path with
  | nil => exact Grows.refl cache
  | cons k below ih =>
    have hk := hnew.uncached k (List.mem_cons_self ..)
    have hrest : New cache below :=
      ⟨fun k hk => hnew.uncached k (List.mem_cons_of_mem _ hk), hnew.nodup.of_cons⟩
    exact (grows_insert hk _).trans (ih (hrest.insert (List.nodup_cons.mp hnew.nodup).1 _) _)

theorem within_remember (hw : Within folders cache) (hknown : ∀ k ∈ below, k ∈ folders)
    (path : String) : Within folders (remember folders separator (path, cache) below).2 := by
  induction below generalizing cache path with
  | nil => exact hw
  | cons k below ih =>
    exact ih (hw.insert (hknown k (List.mem_cons_self ..)) _)
      (fun k hk => hknown k (List.mem_cons_of_mem _ hk)) _

theorem settled_remember (separator : String) {top : String} (hnew : New cache below)
    (h : Settled folders cache top path) :
    let out := remember folders separator (path, cache) below
    Settled folders out.2 ((top :: below).getLast (List.cons_ne_nil _ _)) out.1 := by
  induction below generalizing top cache path with
  | nil => exact h
  | cons k below ih =>
    have hrest : New cache below :=
      ⟨fun k hk => hnew.uncached k (List.mem_cons_of_mem _ hk), hnew.nodup.of_cons⟩
    rw [List.getLast_cons (List.cons_ne_nil k below)]
    exact ih (hrest.insert (List.nodup_cons.mp hnew.nodup).1 _) (settled_insert ..)

/-! ### Look-ups -/

/-- A look-up keeps every entry of the cache. -/
theorem grows_resolve (folders : Map) (separator key : String) (cache : Cache) :
    Grows cache (resolve folders separator key cache).2 := by
  obtain ⟨s, hs, hres⟩ := exists_climbs folders separator key cache
  rw [hres]
  exact hs.grows.trans (grows_remember (hs.new ⟨by simp, List.nodup_nil⟩) s.path)

/-- A look-up adds entries for folders of the table only. -/
theorem within_resolve (hw : Within folders cache) (separator key : String) :
    Within folders (resolve folders separator key cache).2 := by
  obtain ⟨s, hs, hres⟩ := exists_climbs folders separator key cache
  rw [hres]
  exact within_remember (hs.within hw) (hs.below_mem (by simp)) s.path

/-- Behind a look-up the path of its key is settled. -/
theorem settled_resolve (folders : Map) (separator key : String) (cache : Cache) :
    let out := resolve folders separator key cache
    Settled folders out.2 key out.1 := by
  obtain ⟨s, hs, hres⟩ := exists_climbs folders separator key cache
  obtain ⟨top, htop, hlast⟩ := hs.exists_settled
  have h := settled_remember separator (hs.new ⟨by simp, List.nodup_nil⟩) htop
  rw [hlast, List.getLast_singleton] at h
  rw [hres]
  exact h

/-- A look-up of a settled key returns its path. -/
theorem Settled.resolve_fst (h : Settled folders cache key path) (hw : Within folders cache)
    (separator : String) : (resolve folders separator key cache).1 = path := by
  rcases h with hc | ⟨hf, rfl⟩
  · rw [resolve_eq_remember, climb, hc]
    rfl
  · -- a key without a row is not in the cache either
    have hc : cache[path]? = none :=
      Std.TreeMap.getElem?_eq_none fun hmem =>
        (getElem?_eq_none_iff folders path).mp hf (hw path hmem)
    rw [resolve_eq_remember, climb, hc]
    dsimp only
    rw [hf]
    rfl

/-- What some look-ups leave of a cache. -/
theorem grows_foldl (keys : List String) (cache : Cache) :
    Grows cache (keys.foldl (fun cache key => (resolve folders separator key cache).2) cache) := by
  induction keys generalizing cache with
  | nil => exact Grows.refl cache
  | cons key keys ih => exact (grows_resolve folders separator key cache).trans (ih _)

theorem cacheAfter_append (folders : Map) (separator : String) (earlier later : List String) :
    cacheAfter folders separator (earlier ++ later) =
      later.foldl (fun cache key => (resolve folders separator key cache).2)
        (cacheAfter folders separator earlier) :=
  List.foldl_append

theorem within_cacheAfter (folders : Map) (separator : String) (keys : List String) :
    Within folders (cacheAfter folders separator keys) := by
  have hfold : ∀ cache, Within folders cache → Within folders
      (keys.foldl (fun cache key => (resolve folders separator key cache).2) cache) := by
    induction keys with
    | nil => exact fun cache hw => hw
    | cons key keys ih => exact fun cache hw => ih _ (within_resolve hw separator key)
  exact hfold ∅ (within_empty folders)

/-- Once a key has been looked up, whatever is looked up afterwards, its path stays the same. -/
theorem resolve_cacheAfter (folders : Map) (separator key : String) (earlier later : List String) :
    (resolve folders separator key (cacheAfter folders separator (earlier ++ key :: later))).1 =
      (resolve folders separator key (cacheAfter folders separator earlier)).1 := by
  have hsettled := settled_resolve folders separator key (cacheAfter folders separator earlier)
  have hlater : Grows (resolve folders separator key (cacheAfter folders separator earlier)).2
      (cacheAfter folders separator (earlier ++ key :: later)) := by
    rw [cacheAfter_append]
    exact grows_foldl later _
  exact (hsettled.grows hlater).resolve_fst (within_cacheAfter folders separator _) separator

/-! ### What a look-up sees of the folders -/

variable {folders' : Map}

theorem climb_congr (h : ∀ key : String, folders[key]? = folders'[key]?) (cache : Cache)
    (steps : Nat) (below : List String) (key : String) :
    climb folders cache steps below key = climb folders' cache steps below key := by
  induction steps generalizing below key with
  | zero => rfl
  | succ steps ih => simp only [climb, h, ih]

/-- Look-ups depend only on the row that each key has. -/
theorem resolve_congr (h : ∀ key : String, folders[key]? = folders'[key]?)
    (separator key : String) (cache : Cache) :
    resolve folders separator key cache = resolve folders' separator key cache := by
  have hsize : folders.size = folders'.size :=
    (Std.TreeMap.Equiv.of_forall_constGet?_eq h).size_eq
  have hname : nameOf folders = nameOf folders' := by
    funext k
    rw [nameOf, nameOf, h]
  rw [resolve, resolve, hsize, climb_congr h, hname]

end InstallerPackage.Folder
