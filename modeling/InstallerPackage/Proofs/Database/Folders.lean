import Mathlib.Data.List.Chain
import Mathlib.Data.List.Nodup
import Mathlib.Data.List.Perm.Subperm
import Mathlib.Logic.Relation
import Mathlib.Tactic.IntervalCases
import InstallerPackage.Database.Folder

/-!
# The path of a folder

`Folder.resolve` climbs with a cache, a cut where it meets a folder again, and as many steps as it is
given. `Folder.resolve_eq_descend` says what it comes to.

* `FirstStop` says where the climb from a key ends and what is left of the way there. Without a cache
  the path is the names on that way, joined from the end down.
* `PathOf` is the path by recursion on the parents. Without cycles it is what `Folder.resolve`
  returns, whatever has been looked up before.

Both follow from `Climbs`, which is the climb without a bound on its steps: a climb never comes
through a folder twice, so `Folder.resolve` has steps to spare (`climbs_climb`). What a cache has to
satisfy is `Sound`, and a look-up keeps it (`sound_resolve`).
-/

namespace InstallerPackage.Folder

variable {folders : Map} {cache : Cache} {separator key path : String} {below : List String}
  {s : Summit}

/-! ### Climbing -/

/-- A folder without a parent, or in itself. -/
def IsTop (f : Folder) (key : String) : Prop := f.parent = "" ∨ f.parent = key

instance (f : Folder) (key : String) : Decidable (f.IsTop key) :=
  inferInstanceAs (Decidable (f.parent = "" ∨ f.parent = key))

/-- A climb, for as long as it takes. -/
inductive Climbs (folders : Map) (cache : Cache) :
    (below : List String) → (key : String) → Summit → Prop
  | cached {below : List String} {key path : String} (hc : cache[key]? = some path) :
    Climbs folders cache below key ⟨below, path, cache⟩
  | unknown {below : List String} {key : String} (hc : cache[key]? = none)
    (hf : folders[key]? = none) : Climbs folders cache below key ⟨below, key, cache⟩
  | again {below : List String} {key : String} {f : Folder} (hc : cache[key]? = none)
    (hf : folders[key]? = some f) (hmet : key ∈ below) :
    Climbs folders cache below key
      ⟨(below.dropWhile (· ≠ key)).drop 1, f.name, cache.insert key f.name⟩
  | top {below : List String} {key : String} {f : Folder} (hc : cache[key]? = none)
    (hf : folders[key]? = some f) (hmet : key ∉ below) (htop : f.IsTop key) :
    Climbs folders cache below key ⟨below, f.name, cache.insert key f.name⟩
  | up {below : List String} {key : String} {f : Folder} {s : Summit} (hc : cache[key]? = none)
    (hf : folders[key]? = some f) (hmet : key ∉ below) (htop : ¬ f.IsTop key)
    (h : Climbs folders cache (key :: below) f.parent s) : Climbs folders cache below key s

/-- A climb does not come through more folders than there are. -/
theorem length_le_size (hnodup : below.Nodup) (hknown : ∀ k ∈ below, k ∈ folders) :
    below.length ≤ folders.size := by
  rw [← Std.TreeMap.length_keys]
  exact (hnodup.subperm fun k hk => Std.TreeMap.mem_keys.mpr (hknown k hk)).length_le

/-- With one step more than there are folders a climb is never cut short. -/
theorem climbs_climb (cache : Cache) {steps : Nat} (key : String) (hnodup : below.Nodup)
    (hknown : ∀ k ∈ below, k ∈ folders) (hsteps : folders.size < steps + below.length) :
    Climbs folders cache below key (climb folders cache steps below key) := by
  -- the folders below are counted against those of the map: every step adds one
  induction steps generalizing below key with
  | zero =>
    have := length_le_size hnodup hknown
    omega
  | succ steps ih =>
    rw [climb.eq_def]
    dsimp only
    -- the tests of a step in their order, each with its way for the climb to go
    split
    · exact .cached ‹_›
    split
    · exact .unknown ‹_› ‹_›
    next f hf =>
    split
    · exact .again ‹_› hf (List.contains_iff_mem.mp ‹_›)
    next hmet =>
    rw [List.contains_iff_mem] at hmet
    split
    · exact .top ‹_› hf hmet ‹_›
    · refine .up ‹_› hf hmet ‹_› (ih f.parent (List.nodup_cons.mpr ⟨hmet, hnodup⟩) ?_ ?_)
      · intro k hk
        -- the new folder was just found in the map
        rcases List.mem_cons.mp hk with rfl | hk
        · exact of_getElem?_eq_some hf
        · exact hknown k hk
      · rw [List.length_cons]
        omega

/-- What is below the end of a climb was climbed through. -/
theorem Climbs.below_mem (h : Climbs folders cache below key s)
    (hknown : ∀ k ∈ below, k ∈ folders) : ∀ k ∈ s.below, k ∈ folders := by
  induction h with
  | cached _ | unknown _ _ | top _ _ _ _ => exact hknown
  | again _ _ _ =>
    exact fun k hk => hknown k ((List.dropWhile_sublist _).subset (List.mem_of_mem_drop hk))
  | @up below key f s _ hf _ _ _ ih =>
    refine ih fun k hk => ?_
    rcases List.mem_cons.mp hk with rfl | hk
    · exact of_getElem?_eq_some hf
    · exact hknown k hk

/-! ### Coming down again -/

/-- The path of the last of some folders, each in the one before it, when `path` leads to what the
first one is in. -/
def descend (folders : Map) (separator path : String) (below : List String) : String :=
  below.foldl (fun path key => join separator path (nameOf folders key)) path

/-- The paths that become known on the way down. -/
def remember (folders : Map) (separator : String) (out : String × Cache) (below : List String) :
    String × Cache :=
  below.foldl
    (fun (path, cache) key =>
      let path := join separator path (nameOf folders key)
      (path, cache.insert key path))
    out

theorem resolve_eq_remember (folders : Map) (separator key : String) (cache : Cache) :
    resolve folders separator key cache =
      let s := climb folders cache (folders.size + 1) [] key
      remember folders separator (s.path, s.cache) s.below := rfl

theorem remember_fst (path : String) (cache : Cache) (below : List String) :
    (remember folders separator (path, cache) below).1 = descend folders separator path below := by
  induction below generalizing path cache with
  | nil => rfl
  | cons k below ih => exact ih _ _

/-- A look-up is a climb, and then the way down. -/
theorem exists_climbs (folders : Map) (separator key : String) (cache : Cache) :
    ∃ s, Climbs folders cache [] key s ∧
      resolve folders separator key cache =
        remember folders separator (s.path, s.cache) s.below :=
  ⟨_, climbs_climb cache key List.nodup_nil (by simp) (Nat.lt_succ_self _),
    resolve_eq_remember folders separator key cache⟩

/-! ### Where a climb ends -/

/-- The key that the row of a key leads to. -/
def parentOf (folders : Map) (key : String) : String := (folders[key]?.map Folder.parent).getD key

/-- The key that is reached from `key` through `n` folders. -/
def ancestor (folders : Map) (key : String) (n : Nat) : String := (parentOf folders)^[n] key

theorem ancestor_succ {n : Nat} {f : Folder} (h : folders[ancestor folders key n]? = some f) :
    ancestor folders key (n + 1) = f.parent := by
  rw [ancestor, Function.iterate_succ_apply', ← ancestor, parentOf, h]
  rfl

/-- The climb from `key` stops behind `n` folders: the first `kept` of them are below the end, and
`base` is the path there. -/
inductive Stop (folders : Map) (key : String) (n : Nat) : (kept : Nat) → (base : String) → Prop
  /-- There is no such folder, and the key stands for itself. -/
  | unknown (hf : folders[ancestor folders key n]? = none) :
    Stop folders key n n (ancestor folders key n)
  /-- The folder has no parent but itself. -/
  | top {f : Folder} (hf : folders[ancestor folders key n]? = some f)
    (htop : f.IsTop (ancestor folders key n)) : Stop folders key n n f.name
  /-- The folder was met before, and what came after that belongs to a cycle. -/
  | again {f : Folder} {m : Nat} (hf : folders[ancestor folders key n]? = some f) (hlt : m < n)
    (hmet : ancestor folders key m = ancestor folders key n) : Stop folders key n m f.name

/-- The first stop of the climb from `key`. -/
structure FirstStop (folders : Map) (key : String) (n kept : Nat) (base : String) : Prop where
  stop : Stop folders key n kept base
  first : ∀ i < n, ∀ kept base, ¬ Stop folders key i kept base

/-- A folder that was met before is no top: it would have been one the first time. -/
theorem not_isTop_of_again {n m : Nat} {f : Folder}
    (hfirst : ∀ i < n, ∀ kept base, ¬ Stop folders key i kept base)
    (hf : folders[ancestor folders key n]? = some f) (hlt : m < n)
    (hmet : ancestor folders key m = ancestor folders key n) :
    ¬ f.IsTop (ancestor folders key n) :=
  fun htop => hfirst m hlt m f.name (.top (hmet ▸ hf) (hmet ▸ htop))

/-- There is only one first stop. -/
theorem FirstStop.unique {n n' kept kept' : Nat} {base base' : String}
    (h : FirstStop folders key n kept base) (h' : FirstStop folders key n' kept' base') :
    n = n' ∧ kept = kept' ∧ base = base' := by
  obtain rfl : n = n' := by
    rcases Nat.lt_trichotomy n n' with hlt | heq | hlt
    · exact absurd h.stop (h'.first n hlt kept base)
    · exact heq
    · exact absurd h'.stop (h.first n' hlt kept' base')
  have hnot := fun {m : Nat} {f : Folder} => not_isTop_of_again (m := m) (f := f) h.first
  -- two stops at one place are of one kind, for the tests of a stop exclude one another
  obtain ⟨hstop, hfirst⟩ := h
  obtain ⟨hstop', -⟩ := h'
  cases hstop with
  | unknown hf => cases hstop' <;> simp_all
  | top hf htop =>
    cases hstop' with
    | unknown hf' => simp_all
    | top hf' _ => simp_all
    | again hf' hlt hmet =>
      rw [hf, Option.some.injEq] at hf'
      exact absurd (hf' ▸ htop) (hnot (hf' ▸ hf) hlt hmet)
  | @again f _ hf hlt hmet =>
    cases hstop' with
    | unknown hf' => simp_all
    | top hf' htop =>
      rw [hf, Option.some.injEq] at hf'
      exact absurd (hf' ▸ htop) (hnot hf hlt hmet)
    | @again f' _ hf' hlt' hmet' =>
      rw [hf, Option.some.injEq] at hf'
      subst hf'
      -- of two earlier visits the later one would have been a stop itself
      refine ⟨rfl, ?_, rfl⟩
      rcases Nat.lt_trichotomy kept kept' with hlt'' | heq | hlt''
      · exact absurd (.again (hmet' ▸ hf) hlt'' (hmet.trans hmet'.symm))
          (hfirst kept' hlt' _ f.name)
      · exact heq
      · exact absurd (.again (hmet ▸ hf) hlt'' (hmet'.trans hmet.symm))
          (hfirst kept hlt _ f.name)

/-- The first `n` folders on the way up from `key`, the last one first. -/
def trail (folders : Map) (key : String) (n : Nat) : List String :=
  ((List.range n).map (ancestor folders key)).reverse

theorem trail_succ (folders : Map) (key : String) (n : Nat) :
    trail folders key (n + 1) = ancestor folders key n :: trail folders key n := by
  simp [trail, List.range_succ]

theorem mem_trail {n : Nat} {k : String} :
    k ∈ trail folders key n ↔ ∃ i < n, ancestor folders key i = k := by
  simp [trail]

/-- What is left of the way up when a folder is met again: the part before the first visit. -/
theorem drop_trail {n m : Nat} (hlt : m < n)
    (hlast : ∀ i < n, m < i → ancestor folders key i ≠ ancestor folders key m) :
    ((trail folders key n).dropWhile (· ≠ ancestor folders key m)).drop 1 = trail folders key m := by
  -- on the steps, from the top of the trail down to the visit that is looked for
  induction n with
  | zero => omega
  | succ n ih =>
    rw [trail_succ]
    rcases Nat.lt_succ_iff_lt_or_eq.mp hlt with hm | rfl
    · have hne := hlast n (Nat.lt_succ_self n) hm
      rw [List.dropWhile_cons_of_pos (by simpa using hne)]
      exact ih hm fun i hi => hlast i (Nat.lt_succ_of_lt hi)
    · rw [List.dropWhile_cons_of_neg (by simp)]
      rfl

/-- Without a cache a climb ends at the first stop, with what is left of the way there below it. -/
theorem Climbs.firstStop {n : Nat} {k : String}
    (h : Climbs folders ∅ (trail folders key n) k s) (hk : k = ancestor folders key n)
    (hfirst : ∀ i < n, ∀ kept base, ¬ Stop folders key i kept base) :
    ∃ m kept, FirstStop folders key m kept s.path ∧ s.below = trail folders key kept := by
  generalize hbelow : trail folders key n = below at h
  -- the climb's own cases; the trail only grows in the last one
  induction h generalizing n with
  | cached hc => simp at hc
  | unknown hc hf =>
    subst hk
    exact ⟨n, n, ⟨.unknown hf, hfirst⟩, hbelow.symm⟩
  | again hc hf hmet =>
    subst hk hbelow
    obtain ⟨m, hlt, heq⟩ := mem_trail.mp hmet
    refine ⟨n, m, ⟨.again hf hlt heq, hfirst⟩, ?_⟩
    -- between the two visits there was no other one
    rw [← heq]
    exact drop_trail hlt fun i hi hmi hmet =>
      hfirst i hi m _ (.again (by rw [hmet, heq]; exact hf) hmi hmet.symm)
  | top hc hf hmet htop =>
    subst hk
    exact ⟨n, n, ⟨.top hf htop, hfirst⟩, hbelow.symm⟩
  | @up below k f s hc hf hmet htop h ih =>
    subst hk hbelow
    refine ih (ancestor_succ hf).symm (fun i hi kept base hstop => ?_) (trail_succ folders key n)
    -- one step up nothing has stopped either: a stop there would have been taken as another way
    rcases Nat.lt_succ_iff_lt_or_eq.mp hi with hi | rfl
    · exact hfirst i hi kept base hstop
    · cases hstop with
      | unknown hf' => simp_all
      | top hf' htop' => simp_all
      | again hf' hlt hmet' => exact hmet (mem_trail.mpr ⟨_, hlt, hmet'⟩)

/-! ### Folders without cycles -/

/-- The folder `key` is in `parent`, which is another one. -/
def IsIn (folders : Map) (parent key : String) : Prop :=
  ∃ f, folders[key]? = some f ∧ f.parent = parent ∧ ¬ f.IsTop key

/-- No two or more folders are each in the next one and the last in the first. -/
def Acyclic (folders : Map) : Prop := ∀ key, ¬ Relation.TransGen (IsIn folders) key key

/-- Folders are acyclic if every folder has a greater rank than the one that it is in. -/
theorem acyclic_of_rank (rank : String → Nat)
    (h : ∀ parent key, IsIn folders parent key → rank parent < rank key) : Acyclic folders := by
  intro key hcycle
  have hlt : ∀ k, Relation.TransGen (IsIn folders) key k → rank key < rank k := by
    intro k hk
    induction hk with
    | single h' => exact h _ _ h'
    | tail _ h' ih => exact Nat.lt_trans ih (h _ _ h')
  exact Nat.lt_irrefl _ (hlt key hcycle)

/-- The same, told by the rows of the table. -/
theorem acyclic_of_toList (rank : String → Nat)
    (h : ∀ row ∈ folders.toList, ¬ row.2.IsTop row.1 → rank row.2.parent < rank row.1) :
    Acyclic folders := by
  refine acyclic_of_rank rank ?_
  rintro parent key ⟨f, hf, rfl, htop⟩
  exact h (key, f) (Std.TreeMap.mem_toList_iff_getElem?_eq_some.mpr hf) htop

/-- The path of a folder, by recursion on its parents. -/
inductive PathOf (folders : Map) (separator : String) : (key path : String) → Prop
  | unknown {key : String} (hf : folders[key]? = none) : PathOf folders separator key key
  | top {key : String} {f : Folder} (hf : folders[key]? = some f) (htop : f.IsTop key) :
    PathOf folders separator key f.name
  | child {key path : String} {f : Folder} (hf : folders[key]? = some f) (htop : ¬ f.IsTop key)
    (h : PathOf folders separator f.parent path) :
    PathOf folders separator key (join separator path f.name)

theorem PathOf.unique {path' : String} (h : PathOf folders separator key path)
    (h' : PathOf folders separator key path') : path = path' := by
  -- on the way down to the key; both derivations look at one entry of the map
  induction h generalizing path' with
  | unknown hf => cases h' <;> simp_all
  | top hf htop =>
    cases h' with
    | unknown hf' => simp_all
    | top hf' _ => simp_all
    | child hf' htop' _ => simp_all
  | child hf htop _ ih =>
    cases h' with
    | unknown hf' => simp_all
    | top hf' htop' => simp_all
    | child hf' _ h' =>
      rw [hf, Option.some.injEq] at hf'
      subst hf'
      rw [ih h']

/-- Everything that is remembered is right. -/
def Sound (folders : Map) (separator : String) (cache : Cache) : Prop :=
  ∀ key path, cache[key]? = some path → PathOf folders separator key path

theorem sound_empty (folders : Map) (separator : String) : Sound folders separator ∅ := by
  intro key path h
  simp at h

theorem Sound.insert (h : Sound folders separator cache) (hp : PathOf folders separator key path) :
    Sound folders separator (cache.insert key path) := by
  intro k p hk
  rw [Std.TreeMap.getElem?_insert] at hk
  split at hk
  · next heq =>
    rw [Std.compare_eq_iff_eq] at heq
    rw [Option.some.injEq] at hk
    exact heq ▸ hk ▸ hp
  · exact h k p hk

/-- Some folders are each in the one before. -/
abbrev Nested (folders : Map) (below : List String) : Prop := List.IsChain (IsIn folders) below

/-- In a nest without a cycle no folder comes back. -/
theorem Nested.not_mem (h : Nested folders (key :: below)) (ha : Acyclic folders) :
    key ∉ below := by
  intro hmem
  have htrans : List.IsChain (Relation.TransGen (IsIn folders)) (key :: below) :=
    h.imp fun _ _ => .single
  exact ha key (List.rel_of_pairwise_cons (List.isChain_iff_pairwise.mp htrans) hmem)

/-- On the way down from a right path only right paths are remembered, and the last one is that of
the last folder. -/
theorem sound_remember {top : String} (hp : PathOf folders separator top path)
    (hc : Sound folders separator cache) (hn : Nested folders (top :: below)) :
    let out := remember folders separator (path, cache) below
    PathOf folders separator ((top :: below).getLast (List.cons_ne_nil _ _)) out.1 ∧
      Sound folders separator out.2 := by
  -- on the folders below, with the path so far free: it is that of the folder above
  induction below generalizing top path cache with
  | nil => exact ⟨hp, hc⟩
  | cons k below ih =>
    obtain ⟨⟨f, hf, rfl, htop⟩, hrest⟩ := List.isChain_cons_cons.mp hn
    have hname : nameOf folders k = f.name := by
      rw [nameOf, hf]
      rfl
    have hk := PathOf.child hf htop hp
    rw [List.getLast_cons (List.cons_ne_nil k below)]
    rw [← hname] at hk
    exact ih hk (hc.insert hk) hrest

/-- At the end of a climb there is a right path, and the folders below it are nested in it. -/
theorem Climbs.exists_top (h : Climbs folders cache below key s) (ha : Acyclic folders)
    (hc : Sound folders separator cache) (hn : Nested folders (key :: below)) :
    ∃ top, PathOf folders separator top s.path ∧ Sound folders separator s.cache ∧
      Nested folders (top :: s.below) ∧
      (top :: s.below).getLast (List.cons_ne_nil _ _) =
        (key :: below).getLast (List.cons_ne_nil _ _) := by
  induction h with
  | @cached below key path hpath => exact ⟨key, hc _ _ hpath, hc, hn, rfl⟩
  | @unknown below key _ hf => exact ⟨key, .unknown hf, hc, hn, rfl⟩
  -- a folder that is met again would be below itself
  | again _ _ hmet => exact absurd hmet (hn.not_mem ha)
  | @top below key f _ hf _ htop =>
    exact ⟨key, .top hf htop, hc.insert (.top hf htop), hn, rfl⟩
  | @up below key f s _ hf _ htop _ ih =>
    obtain ⟨top, hp, hc', hn', hlast⟩ :=
      ih (List.isChain_cons_cons.mpr ⟨⟨f, hf, rfl, htop⟩, hn⟩)
    exact ⟨top, hp, hc', hn', hlast.trans (List.getLast_cons (List.cons_ne_nil key below))⟩

/-- Among folders without cycles a look-up returns the right path, and remembers right paths only. -/
theorem sound_resolve (ha : Acyclic folders) (hc : Sound folders separator cache) (key : String) :
    let out := resolve folders separator key cache
    PathOf folders separator key out.1 ∧ Sound folders separator out.2 := by
  obtain ⟨s, hs, hres⟩ := exists_climbs folders separator key cache
  obtain ⟨top, hp, hc', hn, hlast⟩ := hs.exists_top ha hc (List.isChain_singleton key)
  have h := sound_remember hp hc' hn
  rw [hlast, List.getLast_singleton] at h
  rw [hres]
  exact h

/-- The cache that some look-ups leave behind. -/
def cacheAfter (folders : Map) (separator : String) (keys : List String) : Cache :=
  keys.foldl (fun cache key => (resolve folders separator key cache).2) ∅

theorem sound_cacheAfter (ha : Acyclic folders) (separator : String) (keys : List String) :
    Sound folders separator (cacheAfter folders separator keys) := by
  have hfold : ∀ cache, Sound folders separator cache → Sound folders separator
      (keys.foldl (fun cache key => (resolve folders separator key cache).2) cache) := by
    induction keys with
    | nil => exact fun cache hc => hc
    | cons key keys ih => exact fun cache hc => ih _ (sound_resolve ha hc key).2
  exact hfold ∅ (sound_empty folders separator)

/-- **What a look-up returns.** Without a cache: the climb from a key has exactly one first stop, and
the path is what is left of the way there, joined from the end down. Without cycles: the path that
recursion on the parents defines, whatever has been looked up before. -/
theorem resolve_eq_descend (folders : Map) (separator : String) :
    (∀ key, (∃ n kept base, FirstStop folders key n kept base) ∧
      ∀ n kept base, FirstStop folders key n kept base →
        (resolve folders separator key ∅).1 =
          descend folders separator base (trail folders key kept)) ∧
    (Acyclic folders → ∀ (earlier : List String) (key : String),
      (resolve folders separator key (cacheAfter folders separator earlier)).1 =
        (resolve folders separator key ∅).1 ∧
      ∀ path, PathOf folders separator key path ↔ path = (resolve folders separator key ∅).1) := by
  constructor
  · intro key
    obtain ⟨s, hs, hres⟩ := exists_climbs folders separator key ∅
    obtain ⟨m, kept, hstop, hbelow⟩ :=
      Climbs.firstStop (show Climbs folders ∅ (trail folders key 0) key s from hs) rfl
        fun i hi => absurd hi (Nat.not_lt_zero i)
    -- without a cache the climb and the trail start at the key together
    refine ⟨⟨m, kept, s.path, hstop⟩, fun n kept' base hstop' => ?_⟩
    obtain ⟨-, rfl, rfl⟩ := hstop.unique hstop'
    rw [hres, remember_fst, hbelow]
  · -- both results are right paths of one key, and there is only one
    intro ha earlier key
    have hfresh := (sound_resolve ha (sound_empty folders separator) key).1
    have hcached := (sound_resolve ha (sound_cacheAfter ha separator earlier) key).1
    exact ⟨hcached.unique hfresh, fun path => ⟨fun h => h.unique hfresh, fun h => h ▸ hfresh⟩⟩

/-- Three nested folders, the outermost of which has no row of its own. -/
def nestSample : Map :=
  .ofList [("APP", Folder.mk "TARGETDIR" "App"), ("DOC", Folder.mk "APP" "Doc")]

/-- A folder in two that are in each other. -/
def cycleSample : Map :=
  .ofList [("A", Folder.mk "B" "a"), ("B", Folder.mk "C" "b"), ("C", Folder.mk "B" "c")]

/-- In the first sample a path is the same after other look-ups. In the second one the climb stops
where it meets `B` again, and `C` is left out. -/
theorem resolve_eq_descend_sample :
    (Acyclic nestSample ∧
      (resolve nestSample "/" "DOC" (cacheAfter nestSample "/" ["APP", "NONE"])).1 =
        "TARGETDIR/App/Doc") ∧
    FirstStop cycleSample "A" 3 1 "b" ∧ (resolve cycleSample "/" "A" ∅).1 = "b/a" := by
  have hacyclic : Acyclic nestSample := by
    -- a folder's rank falls on every way up
    refine acyclic_of_rank (fun k => if k = "DOC" then 2 else if k = "APP" then 1 else 0) ?_
    rintro parent key ⟨f, hf, rfl, -⟩
    rw [← Std.TreeMap.mem_toList_iff_getElem?_eq_some] at hf
    have hrows : nestSample.toList =
        [("APP", Folder.mk "TARGETDIR" "App"), ("DOC", Folder.mk "APP" "Doc")] := rfl
    rw [hrows] at hf
    rcases List.mem_pair.mp hf with hf | hf <;> cases hf <;> decide
  have hstop : FirstStop cycleSample "A" 3 1 "b" := by
    refine ⟨.again (f := Folder.mk "C" "b") rfl (by decide) rfl, fun i hi kept base h => ?_⟩
    -- on the way there is a folder everywhere, and none of them ends the climb
    have hrow : ∃ f, cycleSample[ancestor cycleSample "A" i]? = some f ∧
        ¬ f.IsTop (ancestor cycleSample "A" i) := by
      interval_cases i
      exacts [⟨⟨"B", "a"⟩, rfl, by decide⟩, ⟨⟨"C", "b"⟩, rfl, by decide⟩,
        ⟨⟨"B", "c"⟩, rfl, by decide⟩]
    have hnew : ∀ j < 3, ∀ m < j,
        ancestor cycleSample "A" m ≠ ancestor cycleSample "A" j := by decide
    obtain ⟨f, hf, htop⟩ := hrow
    cases h with
    | unknown hf' => simp [hf'] at hf
    | top hf' htop' =>
      rw [hf, Option.some.injEq] at hf'
      exact htop (hf' ▸ htop')
    | again _ hlt hmet => exact hnew i hi _ hlt hmet
  refine ⟨⟨hacyclic, ?_⟩, hstop, ?_⟩
  · rw [((resolve_eq_descend nestSample "/").2 hacyclic ["APP", "NONE"] "DOC").1]
    rfl
  · rw [((resolve_eq_descend cycleSample "/").1 "A").2 3 1 "b" hstop]
    rfl

end InstallerPackage.Folder
