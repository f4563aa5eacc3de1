import InstallerPackage.Proofs.Chains

/-!
# Why a walk stops

A walk along a chain has four ways to end, and `Chain.Ends` tells for each of them what is known
about the sectors that were met and about the link behind them. Every walk ends in one of them
(`Chain.exists_ends`).

The limit on steps is there for chains that run in a circle. `Volume.limit_spares_whole_sectors` says
that it never cuts a stream whose sectors are there: while there is not enough, `slack` steps more
than the size accounts for can only be taken if as many sectors add less than they should
(`Volume.slack_le_countP_of_lt`).
-/

namespace InstallerPackage

namespace Chain

/-- How a walk for `demand` bytes with at most `steps` steps may end that has met the sectors `met`,
which supply `supplied` bytes, and has the link `last` before it. -/
inductive Ends (table : Array Nat) (demand steps : Nat) (met : List Nat) (supplied last : Nat) :
    Stop → Prop
  | sentinel (hlast : isSentinel last = true) (hmore : demand = 0 ∨ supplied < demand) :
    Ends table demand steps met supplied last .sentinel
  | outside (hlast : table.size ≤ last) (hmore : demand = 0 ∨ supplied < demand) :
    Ends table demand steps met supplied last (.outside last)
  | cut (hlength : met.length = steps) (hmore : demand = 0 ∨ supplied < demand) :
    Ends table demand steps met supplied last .cut
  | enough (hpos : 0 < demand) (henough : demand ≤ supplied) :
    Ends table demand steps met supplied last .enough

variable {table : Array Nat} {demand steps supplied last : Nat} {met : List Nat} {stop : Stop}

/-- A step earlier, the walk had one step more to take and one sector less behind it. -/
theorem Ends.cons (h : Ends table demand steps met supplied last stop) (s : Nat) :
    Ends table demand (steps + 1) (s :: met) supplied last stop := by
  cases h with
  | sentinel hlast hmore => exact .sentinel hlast hmore
  | outside hlast hmore => exact .outside hlast hmore
  | cut hlength hmore => exact .cut (congrArg (· + 1) hlength) hmore
  | enough hpos henough => exact .enough hpos henough

/-- Every walk follows the links of the table until it ends in one of the four ways. -/
theorem exists_ends_walkFrom (table : Array Nat) (supply : Nat → Nat) {demand gathered : Nat}
    (hmore : demand = 0 ∨ gathered < demand) (steps link : Nat) (met : Array Nat) :
    let walk := walkFrom table supply demand steps link gathered met
    ∃ c last, walk.sectors.toList = met.toList ++ c ∧ Path table link c last ∧
      Ends table demand steps c (gathered + (c.map supply).sum) last walk.stop := by
  -- the walk's own cases: three ways to end before the sector is taken, one with it, and going on
  fun_induction walkFrom table supply demand steps link gathered met with
  | case1 steps link gathered met hend =>
    exact ⟨[], link, (List.append_nil _).symm, rfl, .sentinel hend hmore⟩
  | case2 steps link gathered met hlive hnone =>
    exact ⟨[], link, (List.append_nil _).symm, rfl,
      .outside (Array.getElem?_eq_none_iff.mp hnone) hmore⟩
  | case3 link gathered met hlive next hnext =>
    exact ⟨[], link, (List.append_nil _).symm, rfl, .cut rfl hmore⟩
  | case4 link gathered met hlive next steps hnext gathered' henough =>
    refine ⟨[link], next, Array.toList_push, ?_, .enough henough.1 ?_⟩
    · exact ⟨rfl, Bool.eq_false_iff.mpr hlive, next, hnext, rfl⟩
    · simpa using henough.2
  | case5 link gathered met hlive next steps hnext gathered' hless ih =>
    obtain ⟨c, last, hsectors, hpath, hends⟩ := ih (by omega)
    refine ⟨link :: c, last, ?_, ?_, ?_⟩
    · rw [hsectors, Array.toList_push, List.append_assoc, List.singleton_append]
    · exact ⟨rfl, Bool.eq_false_iff.mpr hlive, next, hnext, hpath⟩
    · rw [List.map_cons, List.sum_cons, ← Nat.add_assoc]
      exact hends.cons link

theorem exists_ends (table : Array Nat) (supply : Nat → Nat) (demand steps start : Nat) :
    let walk := walk table supply demand steps start
    ∃ last, Path table start walk.sectors.toList last ∧
      Ends table demand steps walk.sectors.toList (walk.sectors.toList.map supply).sum last
        walk.stop := by
  obtain ⟨c, last, hsectors, hpath, hends⟩ :=
    exists_ends_walkFrom table supply (Nat.eq_zero_or_pos demand) steps start #[]
  refine ⟨last, ?_, ?_⟩
  · rw [walk, hsectors]
    exact hpath
  · rw [Nat.zero_add] at hends
    rw [walk, hsectors]
    exact hends

end Chain

/-- The step limit was reached, and that was reported. -/
def Noted.ReachedLimit {α : Type} (x : Noted α) : Prop :=
  ∃ start steps, Notice.chainCut start steps ∈ x.notices

/-- What has at least `u` in every place that counts adds up accordingly. -/
theorem countP_mul_le_sum {α : Type} (f : α → Nat) (u : Nat) (l : List α) :
    l.countP (u ≤ f ·) * u ≤ (l.map f).sum := by
  induction l with
  | nil => simp
  | cons a l ih =>
    rw [List.map_cons, List.sum_cons]
    by_cases ha : u ≤ f a
    · rw [List.countP_cons_of_pos (by simpa using ha), Nat.succ_mul]
      omega
    · rw [List.countP_cons_of_neg (by simpa using ha)]
      omega

namespace Volume

variable {v : Volume} {space : Space} {start size : Nat}

/-- The bytes that the sectors of a space are cut from. -/
def source (v : Volume) : Space → ByteArray
  | .regular => v.bytes
  | .mini => v.miniStream

/-- Where a sector begins in them. -/
def position (v : Volume) : Space → Nat → Nat
  | .regular, n => v.offset n
  | .mini, n => n * v.miniSectorSize

/-- A sector adds less to a stream than a whole sector. -/
def isShort (v : Volume) (space : Space) (n : Nat) : Bool := (v.payload space n).size < v.unit space

/-- Short sectors are those that end behind the end of the file, or of the mini stream. -/
theorem isShort_iff (v : Volume) (space : Space) (n : Nat) (hunit : 0 < v.unit space) :
    v.isShort space n = true ↔ (v.source space).size < v.position space n + v.unit space := by
  rw [isShort, decide_eq_true_eq]
  -- in the file a sector that is cut off is shorter, in the mini stream it is not there at all
  cases space with
  | regular =>
    simp only [unit] at hunit
    simp only [payload, unit, source, position, Medium.size_sector]
    omega
  | mini =>
    simp only [unit] at hunit
    simp only [payload, unit, source, position, miniSector, Nat.add_one_mul]
    split
    · rw [Bytes.size_slice]
      omega
    · rw [ByteArray.size_empty]
      omega

/-! ### The walk of a stream -/

theorem toList_materialize (h : 0 < size) (v : Volume) (space : Space) (start : Nat) :
    (v.materialize space start size).value.data.toList =
      (v.gather space (v.walk space start size).sectors).data.toList.take size := by
  rw [materialize]
  dsimp only
  rw [if_neg (Nat.ne_of_gt h), Bytes.toList_extract, List.drop_zero, Nat.sub_zero,
    List.take_eq_take_iff, Bytes.length_toList]
  omega

/-- The walk of a stream of known size follows its chain, and ends in one of the four ways. -/
theorem exists_ends (hsize : 0 < size) (v : Volume) (space : Space) (start : Nat) :
    ∃ last, Chain.Path (v.links space) start (v.walk space start size).sectors.toList last ∧
      Chain.Ends (v.links space) size (size / v.unit space + slack)
        (v.walk space start size).sectors.toList
        (v.gather space (v.walk space start size).sectors).size last
        (v.walk space start size).stop := by
  have hlimit : v.stepLimit space size = size / v.unit space + slack := if_neg (Nat.ne_of_gt hsize)
  rw [size_gather, ← hlimit]
  exact Chain.exists_ends (v.links space) (fun n => (v.payload space n).size) size _ start

theorem reachedLimit_iff : (v.materialize space start size).ReachedLimit ↔
    (v.walk space start size).stop = .cut := by
  rw [Noted.ReachedLimit, materialize]
  dsimp only
  cases (v.walk space start size).stop <;> simp [stopNotices]

/-- A stream is only cut off at the limit when all steps are taken and there is still not enough. -/
theorem length_of_reachedLimit (hsize : 0 < size)
    (h : (v.materialize space start size).ReachedLimit) :
    (v.walk space start size).sectors.toList.length = size / v.unit space + slack ∧
      (v.gather space (v.walk space start size).sectors).size < size := by
  obtain ⟨last, -, hends⟩ := exists_ends hsize v space start
  rw [reachedLimit_iff.mp h] at hends
  cases hends with
  | cut hlength hmore => exact ⟨hlength, hmore.resolve_left (Nat.ne_of_gt hsize)⟩

/-- Enough is enough: what was gathered is only cut to the size. -/
theorem size_materialize_of_le (hsize : 0 < size)
    (h : size ≤ (v.gather space (v.walk space start size).sectors).size) :
    (v.materialize space start size).value.size = size := by
  rw [← Bytes.length_toList, toList_materialize hsize, List.length_take, Bytes.length_toList,
    Nat.min_eq_left h]

/-- As long as there is not enough, only short sectors account for the steps beyond those that the
size accounts for. -/
theorem slack_le_countP_of_lt {sectors : Array Nat} (hunit : 0 < v.unit space)
    (hlength : sectors.toList.length = size / v.unit space + slack)
    (hless : (v.gather space sectors).size < size) :
    slack ≤ sectors.toList.countP (v.isShort space) := by
  -- the sectors that were met are short or whole, and there are not too many whole ones
  have hsplit := List.length_eq_countP_add_countP (v.isShort space) (l := sectors.toList)
  have hwhole : sectors.toList.countP (fun n => ¬ v.isShort space n = true) =
      sectors.toList.countP fun n => v.unit space ≤ (v.payload space n).size :=
    List.countP_congr fun n _ => by simp [isShort]
  rw [hwhole] at hsplit
  -- fewer whole sectors than `size / unit + 1` were met, for they would be enough
  rw [size_gather] at hless
  have hsum := countP_mul_le_sum (fun n => (v.payload space n).size) (v.unit space) sectors.toList
  have hfew : (sectors.toList.countP fun n => v.unit space ≤ (v.payload space n).size) ≤
      size / v.unit space :=
    (Nat.le_div_iff_mul_le hunit).mpr (Nat.le_of_lt (Nat.lt_of_le_of_lt hsum hless))
  omega

/-- **The step limit spares whole sectors.** Let sectors have bytes at all. A stream of known size is
made of the sectors that it visits, one after the other along its chain. Those of them are short that
end behind the end of the file, or of the mini stream.

* If the limit is reached, as many links were followed as it allows, and at least `slack` of the
  visited sectors were short.
* So the limit is not reached on a chain with fewer short sectors, even if it runs in a circle.
* A stream is shorter than it was said to be only if its chain led to a sentinel or out of its table,
  or the limit was reached. -/
theorem limit_spares_whole_sectors (v : Volume) (space : Space) (start size : Nat)
    (hunit : 0 < v.unit space) (hsize : 0 < size) :
    let out := v.materialize space start size
    let visited := (v.walk space start size).sectors.toList
    let short := visited.countP (v.isShort space)
    ∃ last, Chain.Path (v.links space) start visited last ∧
      out.value.data.toList =
        (visited.flatMap fun n => (v.payload space n).data.toList).take size ∧
      (∀ n, v.isShort space n = true ↔
        (v.source space).size < v.position space n + v.unit space) ∧
      (out.ReachedLimit → visited.length = size / v.unit space + slack ∧ slack ≤ short) ∧
      (short < slack → ¬ out.ReachedLimit) ∧
      (out.value.size < size →
        isSentinel last = true ∨ (v.links space).size ≤ last ∨ out.ReachedLimit) := by
  intro out visited short
  obtain ⟨last, hpath, hends⟩ := exists_ends hsize v space start
  have hreached : out.ReachedLimit → visited.length = size / v.unit space + slack ∧ slack ≤ short := by
    intro h
    obtain ⟨hlength, hless⟩ := length_of_reachedLimit hsize h
    exact ⟨hlength, slack_le_countP_of_lt hunit hlength hless⟩
  refine ⟨last, hpath, ?_, fun n => v.isShort_iff space n hunit, hreached, fun hfew h => ?_,
    fun hshorter => ?_⟩
  · rw [toList_materialize hsize, toList_gather]
  · exact Nat.not_lt.mpr (hreached h).2 hfew
  · have hcut : out.ReachedLimit ↔ (v.walk space start size).stop = .cut := reachedLimit_iff
    rw [hcut]
    -- only a walk that has been cut short may end with less than what was asked for at a live link
    generalize (v.walk space start size).stop = stop at hends
    cases hends with
    | sentinel hlast => exact .inl hlast
    | outside hlast => exact .inr (.inl hlast)
    | cut => exact .inr (.inr rfl)
    | enough hpos henough =>
      have hsame : out.value.size = size := size_materialize_of_le hsize henough
      omega

/-! A small stream that runs into the limit. -/

/-- A mini stream of one mini sector, whose chain goes on to another one and stays there. -/
def loopSample : Volume where
  bytes := ByteArray.empty
  sectorSize := 512
  miniSectorSize := 2
  miniCutoff := 4096
  table := #[]
  miniTable := #[1, 1]
  miniStream := Bytes.ofList [7, 8]

/-- Three bytes account for one step. All hundred others are spent on the sector that is not there. -/
theorem limit_spares_whole_sectors_loop :
    (loopSample.materialize .mini 0 3).notices = [.chainCut 0 101] ∧
      (loopSample.walk .mini 0 3).sectors.toList.length = 101 ∧
      100 ≤ (loopSample.walk .mini 0 3).sectors.toList.countP (loopSample.isShort .mini) := by
  have hnotices : (loopSample.materialize .mini 0 3).notices = [.chainCut 0 101] := by decide +kernel
  obtain ⟨last, -, -, -, hreached, -⟩ :=
    limit_spares_whole_sectors loopSample .mini 0 3 (by decide) (by decide)
  obtain ⟨hlength, hshort⟩ := hreached ⟨0, 101, by rw [hnotices]; exact List.mem_singleton_self _⟩
  exact ⟨hnotices, hlength, hshort⟩

end Volume

end InstallerPackage
