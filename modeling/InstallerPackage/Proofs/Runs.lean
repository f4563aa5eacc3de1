import InstallerPackage.Container.Zone
import Mathlib.Data.List.Sort

/-!
# Runs of sectors

Merging puts sectors in order and goes through them with one run in hand: the next sector makes it
longer, is in it already, or opens the next run behind a gap. So the run in hand always ends with a
sector that no sector to come lies before, and that is all that is needed to see what comes out:

* the runs are apart from each other (`Run.apart_merge`);
* they consist of the given sectors (`Run.mem_merge_iff`).

Nothing else has these two properties. For runs that are apart, the list of their sectors is strictly
ascending, so it is known from the set of its members, and merging this list takes it apart where one
run ends and the next one begins: expanding has merging for a left inverse (`Run.Apart.merge_expand`).
`Run.merge_canonical` concludes that the runs are the canonical form of the set of sectors.
-/

namespace InstallerPackage.Run

/-- Runs of at least one sector each, in ascending order, with a gap behind each of them. -/
structure Apart (runs : List Run) : Prop where
  count_pos : ∀ r ∈ runs, 0 < r.count
  gap : runs.Pairwise fun r r' => r.first + r.count < r'.first

/-- A list can be merged into a run: it is ascending, and none of it lies before the run's last
sector. -/
structure Behind (first count : Nat) (rest : List Nat) : Prop where
  count_pos : 0 < count
  sorted : rest.Pairwise (· ≤ ·)
  last_le : ∀ s ∈ rest, first + count ≤ s + 1

variable {first count s : Nat} {rest : List Nat}

theorem mem_sectors_iff {r : Run} : s ∈ r.sectors ↔ r.first ≤ s ∧ s < r.first + r.count :=
  List.mem_range'_1

/-- What follows the next sector can be merged into a run that ends with it. -/
theorem Behind.tail {first' count' : Nat} (h : Behind first count (s :: rest))
    (hpos : 0 < count') (hlast : first' + count' = s + 1) : Behind first' count' rest := by
  obtain ⟨hle, hsorted⟩ := List.pairwise_cons.mp h.sorted
  exact ⟨hpos, hsorted, fun t ht => by have := hle t ht; omega⟩

/-- All that comes out begins where the run in hand begins, or behind it. -/
theorem first_le_of_mem_extend (h : Behind first count rest) :
    ∀ r ∈ extend first count rest, first ≤ r.first := by
  fun_induction extend first count rest with
  | case1 first count =>
    intro r hr
    obtain rfl := List.mem_singleton.mp hr
    exact Nat.le_refl first
  | case2 first count rest ih => exact ih (h.tail (Nat.succ_pos count) (Nat.add_assoc ..).symm)
  | case3 first count s rest hnext hgap ih =>
    intro r hr
    rcases List.mem_cons.mp hr with rfl | hr
    · exact Nat.le_refl first
    · have := ih (h.tail Nat.one_pos rfl) r hr
      omega
  | case4 first count s rest hnext hgap ih =>
    have := h.last_le s (List.mem_cons_self ..)
    exact ih (h.tail h.count_pos (by omega))

theorem apart_extend (h : Behind first count rest) : Apart (extend first count rest) := by
  fun_induction extend first count rest with
  | case1 first count =>
    exact ⟨fun r hr => List.mem_singleton.mp hr ▸ h.count_pos, List.pairwise_singleton ..⟩
  | case2 first count rest ih =>
    -- the next sector makes the run longer
    exact ih (h.tail (Nat.succ_pos count) (Nat.add_assoc ..).symm)
  | case3 first count s rest hnext hgap ih =>
    -- the run in hand is finished, and `s` opens the next one
    have hrest : Behind s 1 rest := h.tail Nat.one_pos rfl
    obtain ⟨hpos, hgaps⟩ := ih hrest
    refine ⟨fun r hr => ?_, List.pairwise_cons.mpr ⟨fun r hr => ?_, hgaps⟩⟩
    · rcases List.mem_cons.mp hr with rfl | hr
      · exact h.count_pos
      · exact hpos r hr
    · exact Nat.lt_of_lt_of_le hgap (first_le_of_mem_extend hrest r hr)
  | case4 first count s rest hnext hgap ih =>
    -- `s` does not lie before the end of the run, so it is its last sector again
    have := h.last_le s (List.mem_cons_self ..)
    exact ih (h.tail h.count_pos (by omega))

theorem mem_extend_iff (h : Behind first count rest) :
    (∃ r ∈ extend first count rest, s ∈ r.sectors) ↔
      (first ≤ s ∧ s < first + count) ∨ s ∈ rest := by
  fun_induction extend first count rest with
  | case1 first count => simp [mem_sectors_iff]
  | case2 first count rest ih =>
    have := h.count_pos
    rw [ih (h.tail (Nat.succ_pos count) (Nat.add_assoc ..).symm), List.mem_cons, ← or_assoc]
    exact or_congr_left (by omega)
  | case3 first count t rest hnext hgap ih =>
    rw [List.exists_mem_cons_iff, ih (h.tail Nat.one_pos rfl), mem_sectors_iff, List.mem_cons]
    exact or_congr_right (or_congr_left (by omega))
  | case4 first count t rest hnext hgap ih =>
    have := h.last_le t (List.mem_cons_self ..)
    have := h.count_pos
    rw [ih (h.tail h.count_pos (by omega)), List.mem_cons, ← or_assoc]
    exact or_congr_left (by omega)

/-! ### Merging -/

/-- The first of some sectors in order is a run that the others can be merged into. -/
theorem behind_of_mergeSort {sectors : List Nat} (h : sectors.mergeSort = s :: rest) :
    Behind s 1 rest := by
  have hsorted : (s :: rest).Pairwise (· ≤ ·) := h ▸ List.sortedLE_mergeSort.pairwise
  obtain ⟨hle, hrest⟩ := List.pairwise_cons.mp hsorted
  exact ⟨Nat.one_pos, hrest, fun t ht => Nat.succ_le_succ (hle t ht)⟩

theorem apart_merge (sectors : List Nat) : Apart (merge sectors) := by
  rw [merge]
  cases hsorted : sectors.mergeSort with
  | nil => exact ⟨fun r hr => absurd hr List.not_mem_nil, List.Pairwise.nil⟩
  | cons s rest => exact apart_extend (behind_of_mergeSort hsorted)

/-- The runs consist of the sectors that were merged. -/
theorem mem_merge_iff {sectors : List Nat} :
    (∃ r ∈ merge sectors, s ∈ r.sectors) ↔ s ∈ sectors := by
  have hmem : s ∈ sectors ↔ s ∈ sectors.mergeSort := (List.mergeSort_perm sectors _).mem_iff.symm
  rw [merge, hmem]
  cases hsorted : sectors.mergeSort with
  | nil => simp [ofSorted]
  | cons t rest =>
    rw [ofSorted, mem_extend_iff (behind_of_mergeSort hsorted), List.mem_cons]
    exact or_congr_left (by omega)

/-! ### Expanding -/

variable {sectors : List Nat} {r r' : Run} {runs runs' : List Run}

/-- The sectors of some runs, one run behind the other. -/
def expand (runs : List Run) : List Nat := runs.flatMap Run.sectors

theorem mem_expand_iff : s ∈ expand runs ↔ ∃ r ∈ runs, s ∈ r.sectors := List.mem_flatMap

theorem mem_expand_merge_iff : s ∈ expand (merge sectors) ↔ s ∈ sectors :=
  mem_expand_iff.trans mem_merge_iff

theorem Apart.tail (h : Apart (r :: runs)) : Apart runs :=
  ⟨(List.forall_mem_cons.mp h.count_pos).2, h.gap.of_cons⟩

/-- The sectors of all later runs lie behind the gap. -/
theorem Apart.lt_of_mem_expand (h : Apart (r :: runs)) (hs : s ∈ expand runs) :
    r.first + r.count < s := by
  obtain ⟨r', hr', hs⟩ := mem_expand_iff.mp hs
  exact Nat.lt_of_lt_of_le (List.rel_of_pairwise_cons h.gap hr') (mem_sectors_iff.mp hs).1

theorem Apart.pairwise_expand (h : Apart runs) : (expand runs).Pairwise (· < ·) := by
  rw [expand, List.pairwise_flatMap]
  refine ⟨fun r _ => List.pairwise_lt_range', h.gap.imp fun {r r'} hgap s hs t ht => ?_⟩
  rw [mem_sectors_iff] at hs ht
  omega

/-- The sectors next to a run are in no run. -/
theorem Apart.not_mem_expand (h : Apart runs) (hr : r ∈ runs)
    (hs : s + 1 = r.first ∨ s = r.first + r.count) : s ∉ expand runs := by
  intro hmem
  obtain ⟨r', hr', hs'⟩ := mem_expand_iff.mp hmem
  rw [mem_sectors_iff] at hs'
  -- the run that `s` is in comes before `r`, is `r`, or comes behind it
  obtain ⟨before, behind, rfl⟩ := List.append_of_mem hr
  obtain ⟨-, hbehind, hbefore⟩ := List.pairwise_append.mp h.gap
  rcases List.mem_append.mp hr' with hr' | hr'
  · have hgap := hbefore r' hr' r (List.mem_cons_self ..)
    omega
  rcases List.mem_cons.mp hr' with rfl | hr'
  · omega
  · have hgap := List.rel_of_pairwise_cons hbehind hr'
    omega

/-! ### Merging undoes expanding -/

/-- The run in hand takes in all sectors that go on where it ends. -/
theorem extend_range'_append (first count n : Nat) (rest : List Nat) :
    extend first count (List.range' (first + count) n ++ rest) = extend first (count + n) rest := by
  induction n generalizing count with
  | zero => rfl
  | succ n ih =>
    rw [List.range'_succ, List.cons_append, extend, if_pos rfl, Nat.add_assoc, ih, Nat.add_assoc,
      Nat.add_comm 1]

theorem ofSorted_sectors_append (hpos : 0 < r.count) (rest : List Nat) :
    ofSorted (r.sectors ++ rest) = extend r.first r.count rest := by
  obtain ⟨n, hn⟩ := Nat.exists_eq_succ_of_ne_zero (Nat.ne_of_gt hpos)
  rw [sectors, hn, List.range'_succ, List.cons_append, ofSorted, extend_range'_append,
    Nat.add_comm 1]

/-- Behind a gap the next run is opened. -/
theorem extend_of_gap (h : ∀ s ∈ rest, first + count < s) :
    extend first count rest = ⟨first, count⟩ :: ofSorted rest := by
  cases rest with
  | nil => rfl
  | cons s rest =>
    have hgap : first + count < s := h s (List.mem_cons_self ..)
    rw [extend, if_neg (Nat.ne_of_gt hgap), if_pos hgap, ofSorted]

theorem Apart.ofSorted_expand (h : Apart runs) : ofSorted (expand runs) = runs := by
  induction runs with
  | nil => rfl
  | cons r runs ih =>
    calc ofSorted (expand (r :: runs))
        = ofSorted (r.sectors ++ expand runs) := by rw [expand, List.flatMap_cons, expand]
      _ = extend r.first r.count (expand runs) :=
          ofSorted_sectors_append (h.count_pos r (List.mem_cons_self ..)) _
      _ = r :: ofSorted (expand runs) := extend_of_gap fun _ hs => h.lt_of_mem_expand hs
      _ = r :: runs := by rw [ih h.tail]

/-- **Merging undoes expanding.** -/
theorem Apart.merge_expand (h : Apart runs) : merge (expand runs) = runs := by
  have hsorted : (expand runs).Pairwise (· ≤ ·) := h.pairwise_expand.imp Nat.le_of_lt
  rw [merge, List.mergeSort_eq_self _ hsorted, h.ofSorted_expand]

/-! ### The canonical form of a set of sectors -/

/-- Runs that are apart are known from the set of their sectors. -/
theorem Apart.eq_of_mem_iff (h : Apart runs) (h' : Apart runs')
    (hmem : ∀ s, s ∈ expand runs ↔ s ∈ expand runs') : runs = runs' := by
  -- strictly ascending lists with the same members are the same list
  have hexpand : expand runs = expand runs' :=
    h.pairwise_expand.eq_of_mem_iff h'.pairwise_expand hmem
  calc runs = merge (expand runs) := h.merge_expand.symm
    _ = merge (expand runs') := by rw [hexpand]
    _ = runs' := h'.merge_expand

theorem eq_merge_iff : runs = merge sectors ↔ Apart runs ∧ ∀ s, s ∈ expand runs ↔ s ∈ sectors := by
  constructor
  · rintro rfl
    exact ⟨apart_merge sectors, fun _ => mem_expand_merge_iff⟩
  · rintro ⟨h, hmem⟩
    exact h.eq_of_mem_iff (apart_merge sectors) fun s => (hmem s).trans mem_expand_merge_iff.symm

theorem merge_eq_merge_iff {sectors' : List Nat} :
    merge sectors = merge sectors' ↔ ∀ s, s ∈ sectors ↔ s ∈ sectors' := by
  rw [eq_merge_iff, and_iff_right (apart_merge sectors)]
  exact forall_congr' fun s => iff_congr mem_expand_merge_iff Iff.rfl

/-- **Merging gives the canonical form of a set of sectors.** Whatever the order of the sectors is, and
however often they are named:

* some runs are the merged ones if and only if each of them has a sector, there is a gap behind each of
  them before the next one begins, and they consist of exactly the given sectors;
* no run could be longer, as the sectors next to it are not among the given ones;
* two lists of sectors are merged into the same runs if and only if they are the same set;
* the sectors of the runs are merged into these runs again. -/
theorem merge_canonical (sectors : List Nat) :
    (∀ runs, runs = merge sectors ↔ Apart runs ∧ ∀ s, s ∈ expand runs ↔ s ∈ sectors) ∧
    (∀ r ∈ merge sectors, ∀ s, s + 1 = r.first ∨ s = r.first + r.count → s ∉ sectors) ∧
    (∀ sectors', merge sectors' = merge sectors ↔ ∀ s, s ∈ sectors' ↔ s ∈ sectors) ∧
    merge (expand (merge sectors)) = merge sectors := by
  refine ⟨fun runs => eq_merge_iff, fun r hr s hs => ?_, fun sectors' => merge_eq_merge_iff, ?_⟩
  · rw [← mem_expand_merge_iff]
    exact (apart_merge sectors).not_mem_expand hr hs
  · exact (apart_merge sectors).merge_expand

/-- Three sectors make one run, though one of them is named twice and another sector stands before
them; sector 4 ends the run. -/
theorem merge_canonical_repeats :
    merge [7, 1, 2, 3, 3, 9] = [⟨1, 3⟩, ⟨7, 1⟩, ⟨9, 1⟩] ∧
      merge [9, 3, 2, 1, 7] = merge [7, 1, 2, 3, 3, 9] ∧ 4 ∉ [7, 1, 2, 3, 3, 9] := by
  obtain ⟨hform, hnext, hsame, -⟩ := merge_canonical [7, 1, 2, 3, 3, 9]
  have hmerge : [⟨1, 3⟩, ⟨7, 1⟩, ⟨9, 1⟩] = merge [7, 1, 2, 3, 3, 9] := by
    refine (hform _).mpr ⟨⟨by decide, by decide⟩, fun s => ?_⟩
    rw [show expand [⟨1, 3⟩, ⟨7, 1⟩, ⟨9, 1⟩] = [1, 2, 3, 7, 9] from rfl]
    simp only [List.mem_cons, List.not_mem_nil, or_false]
    omega
  have hmem : ⟨1, 3⟩ ∈ merge [7, 1, 2, 3, 3, 9] := hmerge ▸ List.mem_cons_self ..
  refine ⟨hmerge.symm, (hsame _).mpr fun s => ?_, hnext ⟨1, 3⟩ hmem 4 (.inr rfl)⟩
  simp only [List.mem_cons, List.not_mem_nil, or_false]
  omega

end InstallerPackage.Run
