import InstallerPackage.Proofs.Database.Caches

/-!
# One look-up after the other

A pass over the files looks folders up one after the other, and all look-ups share one cache.
`Folder.lookups_settle` says what holds at every point of such a pass, for any folders, cycles
included:

* a climb ends, behind at most one turn more than there are folders;
* the cache is written once: a look-up writes to keys which are not in it, to each of them a single
  time, so nothing in it is ever replaced or removed;
* its keys are keys of the table;
* behind the look-up of a folder its path is in the cache, and stays there for all later look-ups.

The turns of a climb are counted by `Takes`, from what a single `turn` does. A turn that goes on
leaves one more folder behind, folders are never left behind twice, and this bounds the turns
(`Climbs.exists_takes`). What is written is described by `WritesOnce`: one entry at most at the end
of the climb, and one for each folder below on the way down. The cycle that a climb cuts away is not
below its end, and nothing is written for its other members.
-/

namespace InstallerPackage.Folder

variable {folders : Map} {cache : Cache} {separator key path : String} {below : List String}
  {s : Summit}

/-! ### The turns of a climb -/

/-- How a turn of a climb turns out. -/
inductive Turn where
  /-- The climb ends. -/
  | ends (s : Summit)
  /-- The climb goes on at `key`, with the folders `below` behind it. -/
  | goesOn (below : List String) (key : String)

/-- One turn of a climb that has come through the folders `below`, and is at `key`. -/
def turn (folders : Map) (cache : Cache) (below : List String) (key : String) : Turn :=
  match cache[key]? with
  | some path => .ends ⟨below, path, cache⟩
  | none =>
    match folders[key]? with
    | none => .ends ⟨below, key, cache⟩
    | some f =>
      if key ∈ below then
        .ends ⟨(below.dropWhile (· ≠ key)).drop 1, f.name, cache.insert key f.name⟩
      else if f.IsTop key then .ends ⟨below, f.name, cache.insert key f.name⟩
      else .goesOn (key :: below) f.parent

/-- A climb with steps left does a turn, and goes on if the turn does. -/
theorem climb_succ (folders : Map) (cache : Cache) (steps : Nat) (below : List String)
    (key : String) :
    climb folders cache (steps + 1) below key =
      match turn folders cache below key with
      | .ends s => s
      | .goesOn below key => climb folders cache steps below key := by
  -- the turn is the step of the climb, with its result told apart from its going on
  rw [climb.eq_def, turn]
  dsimp only
  cases cache[key]? with
  | some path => rfl
  | none =>
    cases folders[key]? with
    | none => rfl
    | some f =>
      by_cases hmet : key ∈ below
      · simp only [List.contains_iff_mem, if_pos hmet]
      · by_cases htop : f.IsTop key
        · simp only [List.contains_iff_mem, if_neg hmet, if_pos htop]
          exact if_pos htop
        · simp only [List.contains_iff_mem, if_neg hmet, if_neg htop]
          exact if_neg htop

/-- The climb at `key` ends behind the given number of turns. -/
inductive Takes (folders : Map) (cache : Cache) :
    (turns : Nat) → (below : List String) → (key : String) → Summit → Prop
  | last {below : List String} {key : String} {s : Summit}
    (h : turn folders cache below key = .ends s) : Takes folders cache 1 below key s
  | onward {turns : Nat} {below below' : List String} {key key' : String} {s : Summit}
    (h : turn folders cache below key = .goesOn below' key')
    (hrest : Takes folders cache turns below' key' s) : Takes folders cache (turns + 1) below key s

/-- As many steps as turns, or more, make no difference to a climb. -/
theorem Takes.climb_eq {turns steps : Nat} (h : Takes folders cache turns below key s)
    (hsteps : turns ≤ steps) : climb folders cache steps below key = s := by
  -- on the turns; every one of them is a step
  induction h generalizing steps with
  | last h =>
    obtain ⟨n, rfl⟩ := Nat.exists_eq_add_of_le' hsteps
    rw [climb_succ, h]
  | onward h _ ih =>
    obtain ⟨n, rfl⟩ := Nat.exists_eq_add_of_le' (Nat.le_of_add_left_le hsteps)
    rw [climb_succ, h]
    exact ih (Nat.le_of_succ_le_succ hsteps)

/-- Folders of the table that are left behind once leave room for one more turn. -/
theorem one_add_length_le (hnodup : below.Nodup) (hknown : ∀ k ∈ below, k ∈ folders) :
    1 + below.length ≤ folders.size + 1 := by
  rw [Nat.add_comm]
  exact Nat.succ_le_succ (length_le_size hnodup hknown)

/-- **Every climb ends.** Together with the folders that it has behind it, it takes at most one turn
more than there are folders. -/
theorem Climbs.exists_takes (h : Climbs folders cache below key s) (hnodup : below.Nodup)
    (hknown : ∀ k ∈ below, k ∈ folders) :
    ∃ turns, Takes folders cache turns below key s ∧ turns + below.length ≤ folders.size + 1 := by
  -- every climb is the last turn, or a turn and a climb from the folder above
  induction h with
  | cached hc => exact ⟨1, .last (by simp only [turn, hc]), one_add_length_le hnodup hknown⟩
  | unknown hc hf =>
    exact ⟨1, .last (by simp only [turn, hc, hf]), one_add_length_le hnodup hknown⟩
  | again hc hf hmet =>
    exact ⟨1, .last (by simp only [turn, hc, hf, if_pos hmet]), one_add_length_le hnodup hknown⟩
  | top hc hf hmet htop =>
    refine ⟨1, .last ?_, one_add_length_le hnodup hknown⟩
    simp only [turn, hc, hf, if_neg hmet, if_pos htop]
  | @up below key f s hc hf hmet htop _ ih =>
    -- the folder is a new one among those left behind
    have hnodup' : (key :: below).Nodup := List.nodup_cons.mpr ⟨hmet, hnodup⟩
    have hknown' : ∀ k ∈ key :: below, k ∈ folders :=
      List.forall_mem_cons.mpr ⟨of_getElem?_eq_some hf, hknown⟩
    have hturn : turn folders cache below key = .goesOn (key :: below) f.parent := by
      simp only [turn, hc, hf, if_neg hmet, if_neg htop]
    obtain ⟨turns, htakes, hle⟩ := ih hnodup' hknown'
    refine ⟨turns + 1, .onward hturn htakes, ?_⟩
    calc turns + 1 + below.length = turns + (key :: below).length := by
          rw [List.length_cons, Nat.add_assoc, Nat.add_comm 1]
      _ ≤ folders.size + 1 := hle

/-! ### What is written -/

/-- What a look-up writes into a cache, told by the end of its climb. -/
structure WritesOnce (cache : Cache) (s : Summit) : Prop where
  /-- The end of the climb is written, to a new key, or it is there already. -/
  top : s.cache = cache ∨ ∃ key, cache[key]? = none ∧ s.cache = cache.insert key s.path
  /-- The folders below are written on the way down, each to a key of its own. -/
  down : New s.cache s.below

/-- The end of a climb is written to a key that was not in the cache, or it is not written. -/
theorem Climbs.cache_cases (h : Climbs folders cache below key s) :
    s.cache = cache ∨ ∃ key, cache[key]? = none ∧ s.cache = cache.insert key s.path := by
  induction h with
  | cached _ | unknown _ _ => exact .inl rfl
  | again hc _ _ | top hc _ _ _ => exact .inr ⟨_, hc, rfl⟩
  | up _ _ _ _ _ ih => exact ih

theorem Climbs.writesOnce (h : Climbs folders cache [] key s) : WritesOnce cache s where
  top := h.cache_cases
  down := h.new ⟨fun _ hk => absurd hk List.not_mem_nil, List.nodup_nil⟩

/-! ### A pass over folders -/

/-- **Look-ups settle paths.** In any pass of look-ups that begins with an empty cache, whatever the
folders:

* the climb of the next look-up ends, behind at most one turn more than there are folders, and with
  any number of steps that suffices it is the same; the way down follows;
* it writes to new keys only, and to each of them once;
* so every entry of the cache is kept as it is;
* only folders of the table are in the cache;
* if there is a folder for the key, its path is in the cache afterwards, and whatever is looked up
  in between, every later look-up of the key returns this path. -/
theorem lookups_settle (folders : Map) (separator : String) (earlier : List String)
    (key : String) :
    let cache := cacheAfter folders separator earlier
    let out := resolve folders separator key cache
    (∃ turns s, turns ≤ folders.size + 1 ∧ Takes folders cache turns [] key s ∧
      (∀ steps, turns ≤ steps → climb folders cache steps [] key = s) ∧
      out = remember folders separator (s.path, s.cache) s.below ∧ WritesOnce cache s) ∧
    (∀ k path : String, cache[k]? = some path → out.2[k]? = some path) ∧
    (∀ k : String, k ∈ out.2 → k ∈ folders) ∧
    (key ∈ folders → out.2[key]? = some out.1 ∧
      ∀ between : List String, (resolve folders separator key
        (cacheAfter folders separator (earlier ++ key :: between))).1 = out.1) := by
  intro cache out
  refine ⟨?_, grows_resolve folders separator key cache, ?_, fun hkey => ⟨?_, fun between => ?_⟩⟩
  · -- the turns are those of the climb that ends
    obtain ⟨s, hs, hres⟩ := exists_climbs folders separator key cache
    obtain ⟨turns, htakes, hle⟩ := hs.exists_takes List.nodup_nil (by simp)
    exact ⟨turns, s, hle, htakes, fun _ => htakes.climb_eq, hres, hs.writesOnce⟩
  · exact within_resolve (within_cacheAfter folders separator earlier) separator key
  · -- a key that stands for itself has no row
    refine (settled_resolve folders separator key cache).resolve_right fun h => ?_
    exact (getElem?_eq_none_iff folders key).mp h.1 hkey
  · exact resolve_cacheAfter folders separator key earlier between

/-- The climb from `A` stops at `C`, which was looked up before. The path is not the one that a
look-up of `A` alone returns, and stays what it is. -/
theorem lookups_settle_cycle :
    "A" ∈ cycleSample ∧ (resolve cycleSample "/" "A" ∅).1 = "b/a" ∧
    (resolve cycleSample "/" "A" (cacheAfter cycleSample "/" ["C"])).1 = "c/b/a" ∧
    ∀ between : List String, (resolve cycleSample "/" "A"
      (cacheAfter cycleSample "/" ("C" :: "A" :: between))).1 = "c/b/a" := by
  have hmem : "A" ∈ cycleSample := by decide
  have hpath : (resolve cycleSample "/" "A" (cacheAfter cycleSample "/" ["C"])).1 = "c/b/a" := rfl
  refine ⟨hmem, rfl, hpath, fun between => ?_⟩
  rw [← hpath]
  exact ((lookups_settle cycleSample "/" ["C"] "A").2.2.2 hmem).2 between

end InstallerPackage.Folder
