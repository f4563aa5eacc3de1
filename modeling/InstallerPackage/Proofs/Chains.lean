import InstallerPackage.Proofs.ByteLists
import InstallerPackage.Container.Directory

/-!
# Streams along their chains

What a reader collects is decided by the chain alone, in whatever order it visits the sectors.

* `Chain.Path` says that a chain leads through given sectors. A walk follows it to its end
  (`Chain.walk_eq_of_sentinel`) or until it has enough (`Chain.walk_eq_of_enough`).
* `Volume.Holds` says that the first sectors of a chain hold the bytes of a stream.
  `Volume.materialize_of_holds` reads it from them without a notice, and
  `Volume.getElem?_materialize` tells where every byte of it comes from.
-/

namespace InstallerPackage

/-! ### Walks -/

namespace Chain

/-- From `link` on the chain leads through the sectors `c`, and then to `last`: none of them is a
sentinel or unknown to the table. -/
def Path (table : Array Nat) : (link : Nat) → (c : List Nat) → (last : Nat) → Prop
  | link, [], last => link = last
  | link, s :: rest, last =>
    s = link ∧ isSentinel s = false ∧ ∃ next, table[s]? = some next ∧ Path table next rest last

variable {table : Array Nat} {supply : Nat → Nat} {demand steps link last gathered : Nat}
  {c c' : List Nat}

theorem path_append :
    Path table link (c ++ c') last ↔ ∃ mid, Path table link c mid ∧ Path table mid c' last := by
  induction c generalizing link with
  | nil => simp [Path]
  | cons s rest ih =>
    simp only [List.cons_append, Path, ih]
    constructor
    · rintro ⟨hs, hlive, next, hnext, mid, h, h'⟩
      exact ⟨mid, ⟨hs, hlive, next, hnext, h⟩, h'⟩
    · rintro ⟨mid, ⟨hs, hlive, next, hnext, h⟩, h'⟩
      exact ⟨hs, hlive, next, hnext, mid, h, h'⟩

theorem walkFrom_sentinel (h : isSentinel link = true) (met : Array Nat) :
    walkFrom table supply demand steps link gathered met = ⟨met, .sentinel⟩ := by
  unfold walkFrom
  rw [if_pos h]

theorem walkFrom_succ {next : Nat} (h : isSentinel link = false) (hnext : table[link]? = some next)
    (met : Array Nat) :
    walkFrom table supply demand (steps + 1) link gathered met =
      if 0 < demand ∧ demand ≤ gathered + supply link then ⟨met.push link, .enough⟩
      else walkFrom table supply demand steps next (gathered + supply link) (met.push link) := by
  rw [walkFrom.eq_def]
  simp only [h, hnext, Bool.false_eq_true, if_false]

theorem walkFrom_outside (h : isSentinel link = false) (hnone : table[link]? = none)
    (met : Array Nat) :
    walkFrom table supply demand steps link gathered met = ⟨met, .outside link⟩ := by
  unfold walkFrom
  simp only [h, hnone, Bool.false_eq_true, if_false]

theorem walkFrom_zero {next : Nat} (h : isSentinel link = false) (hnext : table[link]? = some next)
    (met : Array Nat) :
    walkFrom table supply demand 0 link gathered met = ⟨met, .cut⟩ := by
  unfold walkFrom
  simp only [h, hnext, Bool.false_eq_true, if_false]

/-- What a walk has met already comes first. -/
theorem prefix_walkFrom (table : Array Nat) (supply : Nat → Nat) (demand steps link gathered : Nat)
    (met : Array Nat) :
    met.toList <+: (walkFrom table supply demand steps link gathered met).sectors.toList := by
  rw [walkFrom_met, Array.toList_append]
  exact List.prefix_append _ _

/-- A walk depends only on what the sectors that it meets supply. -/
theorem walkFrom_congr {supply' : Nat → Nat} {met : Array Nat}
    (h : ∀ s ∈ (walkFrom table supply demand steps link gathered met).sectors, supply' s = supply s) :
    walkFrom table supply' demand steps link gathered met =
      walkFrom table supply demand steps link gathered met := by
  -- the walk's own cases; only where it goes on is a sector met
  fun_induction walkFrom table supply demand steps link gathered met with
  | case1 steps link gathered met hend => exact walkFrom_sentinel hend met
  | case2 steps link gathered met hlive hnone =>
    exact walkFrom_outside (Bool.eq_false_iff.mpr hlive) hnone met
  | case3 link gathered met hlive next hnext =>
    exact walkFrom_zero (Bool.eq_false_iff.mpr hlive) hnext met
  | case4 link gathered met hlive next steps hnext gathered' henough =>
    have hlink : supply' link = supply link := h link Array.mem_push_self
    rw [walkFrom_succ (Bool.eq_false_iff.mpr hlive) hnext, hlink, if_pos henough]
  | case5 link gathered met hlive next steps hnext gathered' hmore ih =>
    -- `link` is among the sectors met, however far the walk goes on
    have hlink : supply' link = supply link := by
      refine h link (Array.mem_toList_iff.mp ((prefix_walkFrom ..).subset ?_))
      exact Array.mem_toList_iff.mpr Array.mem_push_self
    rw [walkFrom_succ (Bool.eq_false_iff.mpr hlive) hnext, hlink, if_neg hmore]
    exact ih h

/-- As long as there is not enough, a walk follows the path that lies before it. -/
theorem walkFrom_path (hc : Path table link c last)
    (hd : demand = 0 ∨ gathered + (c.map supply).sum < demand) (met : Array Nat) :
    walkFrom table supply demand (c.length + steps) link gathered met =
      walkFrom table supply demand steps last (gathered + (c.map supply).sum)
        (met ++ c.toArray) := by
  -- on the path, with the bytes so far free; not even all of it is enough
  induction c generalizing link gathered met with
  | nil =>
    obtain rfl : link = last := hc
    simp
  | cons s rest ih =>
    obtain ⟨rfl, hlive, next, hnext, hrest⟩ := hc
    simp only [List.map_cons, List.sum_cons] at hd ⊢
    have hgo : ¬ (0 < demand ∧ demand ≤ gathered + supply s) := by omega
    rw [List.length_cons, Nat.add_right_comm, walkFrom_succ hlive hnext, if_neg hgo,
      ih hrest (by omega)]
    simp [Nat.add_assoc]

/-- A walk ends at a sentinel when the sectors before it do not supply enough. -/
theorem walk_eq_of_sentinel {start : Nat} (hc : Path table start c last)
    (hlast : isSentinel last = true) (hd : demand = 0 ∨ (c.map supply).sum < demand)
    (hsteps : c.length ≤ steps) :
    walk table supply demand steps start = ⟨c.toArray, .sentinel⟩ := by
  obtain ⟨more, rfl⟩ := Nat.exists_eq_add_of_le hsteps
  rw [walk, walkFrom_path hc (by omega), walkFrom_sentinel hlast]
  simp

/-- A walk ends with the first sector that makes it enough. -/
theorem walk_eq_of_enough {start s : Nat} (hc : Path table start (c ++ [s]) last)
    (hbefore : (c.map supply).sum < demand) (hafter : demand ≤ (c.map supply).sum + supply s)
    (hsteps : c.length < steps) :
    walk table supply demand steps start = ⟨(c ++ [s]).toArray, .enough⟩ := by
  obtain ⟨more, rfl⟩ := Nat.exists_eq_add_of_lt hsteps
  -- before its last sector the walk has too little, whatever comes behind
  obtain ⟨mid, hpath, rfl, hlive, next, hnext, -⟩ := path_append.mp hc
  have henough : 0 < demand ∧ demand ≤ 0 + (c.map supply).sum + supply s := by omega
  rw [walk, Nat.add_assoc, walkFrom_path hpath (by omega), walkFrom_succ hlive hnext,
    if_pos henough]
  simp

end Chain

/-! ### Pieces of one length -/

/-- When all pieces but the last have `u` bytes, the byte at `p` is in piece `p / u`. -/
theorem getElem?_flatMap_of_pieces {α β : Type} {f : α → List β} {u : Nat} {l : List α}
    (hu : 0 < u) (hl : ∀ s ∈ l.dropLast, (f s).length = u) {p : Nat} {s : α}
    (hs : l[p / u]? = some s) (hp : p % u < (f s).length) : (l.flatMap f)[p]? = (f s)[p % u]? := by
  induction l generalizing p with
  | nil => simp at hs
  | cons a rest ih =>
    rw [List.flatMap_cons]
    by_cases hlt : p < u
    · -- `p` lies in the first piece
      rw [Nat.div_eq_of_lt hlt] at hs
      obtain rfl : a = s := by simpa using hs
      rw [Nat.mod_eq_of_lt hlt] at hp ⊢
      exact List.getElem?_append_left hp
    · -- `p` lies behind the first piece, which is then not the last one
      -- and one piece less takes one unit off the place
      have hdiv : p / u = (p - u) / u + 1 := by
        rw [← Nat.add_div_right _ hu, Nat.sub_add_cancel (by omega)]
      have hmod : p % u = (p - u) % u := by
        rw [← Nat.add_mod_right (p - u), Nat.sub_add_cancel (by omega)]
      rw [hdiv, List.getElem?_cons_succ] at hs
      have hne : rest ≠ [] := by
        rintro rfl
        simp at hs
      rw [List.dropLast_cons_of_ne_nil hne] at hl
      have hlen : (f a).length = u := hl a (List.mem_cons_self ..)
      rw [hmod] at hp ⊢
      rw [List.getElem?_append_right (by omega), hlen]
      exact ih (fun t ht => hl t (List.mem_cons_of_mem a ht)) hs hp

theorem sum_map_eq_mul {α : Type} {f : α → Nat} {u : Nat} {c : List α} (h : ∀ s ∈ c, f s = u) :
    (c.map f).sum = c.length * u := by
  induction c with
  | nil => simp
  | cons s rest ih =>
    rw [List.map_cons, List.sum_cons, h s (List.mem_cons_self ..),
      ih fun t ht => h t (List.mem_cons_of_mem s ht), List.length_cons, Nat.succ_mul, Nat.add_comm]

namespace Bytes

theorem pieces_zero {u : Nat} (hu : 0 < u) : pieces u 0 = 0 := by
  rw [pieces, Nat.div_eq_zero_iff]
  omega

theorem pieces_pos {u n : Nat} (hu : 0 < u) (hn : 0 < n) : 0 < pieces u n :=
  Nat.div_pos (by omega) hu

/-- The last piece is needed. -/
theorem pieces_sub_one_mul_lt {u n : Nat} (hn : 0 < n) : (pieces u n - 1) * u < n := by
  have h := Nat.div_mul_le_self (n + u - 1) u
  rw [Nat.sub_mul, Nat.one_mul]
  simp only [pieces]
  omega

theorem pieces_le_div_add_one (u n : Nat) : pieces u n ≤ n / u + 1 := by
  rcases Nat.eq_zero_or_pos u with rfl | hu
  · simp [pieces]
  · calc pieces u n ≤ (n + u) / u := Nat.div_le_div_right (by omega)
      _ = n / u + 1 := Nat.add_div_right n hu

theorem div_lt_pieces {u n p : Nat} (hu : 0 < u) (hp : p < n) : p / u < pieces u n := by
  rw [Nat.div_lt_iff_lt_mul hu]
  exact Nat.lt_of_lt_of_le hp (le_pieces_mul hu n)

end Bytes

/-! ### Streams -/

namespace Volume

/-- The first sectors of the chain from `start` are `sectors`, and they hold `size` bytes: all but the
last one are whole, and the last one has what is still missing. -/
structure Holds (v : Volume) (space : Space) (start size : Nat) (sectors : List Nat) : Prop where
  path : ∃ last, Chain.Path (v.links space) start sectors last
  length : sectors.length = Bytes.pieces (v.unit space) size
  whole : ∀ s ∈ sectors.dropLast, (v.payload space s).size = v.unit space
  rest : ∀ s ∈ sectors.getLast?,
    size ≤ (sectors.length - 1) * v.unit space + (v.payload space s).size

variable {v : Volume} {space : Space} {start size : Nat} {sectors : List Nat}

theorem toList_gather (v : Volume) (space : Space) (sectors : Array Nat) :
    (v.gather space sectors).data.toList =
      sectors.toList.flatMap fun n => (v.payload space n).data.toList := by
  -- the fold has something in front from the second sector on
  have hfold : ∀ (l : List Nat) (b : ByteArray),
      (l.foldl (fun bytes n => bytes ++ v.payload space n) b).data.toList =
        b.data.toList ++ l.flatMap fun n => (v.payload space n).data.toList := by
    intro l
    induction l with
    | nil => simp
    | cons n l ih =>
      intro b
      rw [List.foldl_cons, ih, List.flatMap_cons, ByteArray.toList_data_append, List.append_assoc]
  rw [gather, ← Array.foldl_toList, hfold]
  rfl

theorem size_gather (v : Volume) (space : Space) (sectors : Array Nat) :
    (v.gather space sectors).size = (sectors.toList.map fun n => (v.payload space n).size).sum := by
  rw [← Bytes.length_toList, toList_gather, List.length_flatMap]
  simp only [Bytes.length_toList]

theorem gather_congr {v' : Volume} {sectors : Array Nat}
    (h : ∀ n ∈ sectors, v'.payload space n = v.payload space n) :
    v'.gather space sectors = v.gather space sectors := by
  rw [← Bytes.toList_inj, toList_gather, toList_gather]
  refine List.flatMap_congr fun n hn => ?_
  rw [h n (Array.mem_toList_iff.mp hn)]

/-- Only with the last of its sectors does a stream have enough. -/
theorem Holds.exists_concat (h : v.Holds space start size sectors) (hu : 0 < v.unit space)
    (hsize : 0 < size) :
    ∃ front s, sectors = front ++ [s] ∧
      (front.map fun n => (v.payload space n).size).sum = front.length * v.unit space ∧
      front.length * v.unit space < size ∧
      size ≤ front.length * v.unit space + (v.payload space s).size := by
  have hlen := h.length
  -- a stream with bytes has a last sector, and all before it are whole
  have hpos := Bytes.pieces_pos hu hsize
  have hne : sectors ≠ [] := List.ne_nil_of_length_pos (by omega)
  have hbefore := Bytes.pieces_sub_one_mul_lt (u := v.unit space) hsize
  have hrest := h.rest (sectors.getLast hne) (List.getLast?_eq_some_getLast hne)
  rw [← hlen] at hbefore
  refine ⟨sectors.dropLast, sectors.getLast hne, (List.dropLast_concat_getLast hne).symm,
    sum_map_eq_mul h.whole, ?_, ?_⟩
  · rw [List.length_dropLast]
    exact hbefore
  · rw [List.length_dropLast]
    exact hrest

theorem Holds.walk_eq (h : v.Holds space start size sectors) (hu : 0 < v.unit space) (hsize : 0 < size) :
    v.walk space start size = ⟨sectors.toArray, .enough⟩ := by
  obtain ⟨last, hpath⟩ := h.path
  have hlen := h.length
  have hsteps := Bytes.pieces_le_div_add_one (v.unit space) size
  obtain ⟨front, s, rfl, hsum, hbefore, hafter⟩ := h.exists_concat hu hsize
  rw [List.length_append, List.length_singleton] at hlen
  refine Chain.walk_eq_of_enough hpath (by omega) (by omega) ?_
  -- the step limit leaves room for more sectors than the size asks for
  rw [stepLimit, if_neg (by omega)]
  simp only [slack]
  omega

/-- A stream whose sectors are all there is read from them, and there is nothing to report. -/
theorem materialize_of_holds (h : v.Holds space start size sectors) (hu : 0 < v.unit space)
    (hsize : 0 < size) :
    (v.materialize space start size).notices = [] ∧
      (v.materialize space start size).value.data.toList =
        (sectors.flatMap fun n => (v.payload space n).data.toList).take size := by
  have hne : ¬ size = 0 := by omega
  constructor
  · simp [materialize, h.walk_eq hu hsize, stopNotices]
  · -- the last sector may have more than is needed, and the rest of it is cut off
    simp only [materialize, h.walk_eq hu hsize, hne, if_false]
    rw [Bytes.toList_extract, toList_gather, List.drop_zero, ← Bytes.length_toList, toList_gather,
      Nat.sub_zero, List.take_eq_take_iff]
    simp

theorem size_materialize_of_holds (h : v.Holds space start size sectors) (hu : 0 < v.unit space)
    (hsize : 0 < size) : (v.materialize space start size).value.size = size := by
  obtain ⟨front, s, rfl, hsum, -, hafter⟩ := h.exists_concat hu hsize
  rw [← Bytes.length_toList, (materialize_of_holds h hu hsize).2, List.length_take,
    List.length_flatMap]
  simp only [Bytes.length_toList, List.map_append, List.sum_append, hsum, List.map_singleton,
    List.sum_singleton]
  omega

/-- Every byte of a stream comes from its place in its sector. -/
theorem getElem?_materialize (h : v.Holds space start size sectors) (hu : 0 < v.unit space) {p : Nat}
    (hp : p < size) :
    ∃ s, sectors[p / v.unit space]? = some s ∧ p % v.unit space < (v.payload space s).size ∧
      (v.materialize space start size).value.data[p]? =
        (v.payload space s).data[p % v.unit space]? := by
  have hsize : 0 < size := by omega
  have hlen := h.length
  -- the place is in one of the sectors, for there is one for every unit begun
  have hlt : p / v.unit space < sectors.length := by
    rw [hlen]
    exact Bytes.div_lt_pieces hu hp
  have hs : sectors[p / v.unit space]? = some sectors[p / v.unit space] := List.getElem?_eq_getElem hlt
  have hmod := Nat.mod_lt p hu
  have hin : p % v.unit space < (v.payload space sectors[p / v.unit space]).size := by
    by_cases hlast : p / v.unit space = sectors.length - 1
    · -- in the last sector there may be less than a whole one
      have hrest := h.rest sectors[p / v.unit space] (by
        rw [List.getLast?_eq_getElem?, ← hlast, hs]
        rfl)
      have hdiv := Nat.div_add_mod' p (v.unit space)
      rw [hlast] at hdiv
      omega
    · -- all others are whole
      have hmem : sectors[p / v.unit space] ∈ sectors.dropLast := by
        rw [← List.getElem_dropLast (by rw [List.length_dropLast]; omega)]
        exact List.getElem_mem _
      rw [h.whole _ hmem]
      exact hmod
  refine ⟨sectors[p / v.unit space], hs, hin, ?_⟩
  rw [← Array.getElem?_toList, (materialize_of_holds h hu hsize).2, List.getElem?_take_of_lt hp,
    getElem?_flatMap_of_pieces hu (fun s hs => ?_) hs, Array.getElem?_toList]
  · rw [Bytes.length_toList]
    exact hin
  · rw [Bytes.length_toList]
    exact h.whole s hs

/-! ### Reading a record -/

variable {r : Record}

theorem readRecord_eq (hstream : r.isStream = true) (hsize : 0 < r.size) :
    v.readRecord r = (do
      let bytes ← v.materialize (v.spaceOf r.size) r.start r.size
      if bytes.size < r.size then .report (.streamShort r.decoded bytes.size r.size)
      pure bytes) := by
  have hne : (r.size != 0) = true := by simpa using Nat.ne_of_gt hsize
  rw [readRecord, hstream, hne]
  rfl

/-- A stream that is there is read without a notice. -/
theorem readRecord_of_holds {space : Space} {sectors : List Nat} (hstream : r.isStream = true)
    (hsize : 0 < r.size) (hspace : v.spaceOf r.size = space)
    (h : v.Holds space r.start r.size sectors) (hu : 0 < v.unit space) :
    v.readRecord r = ⟨(v.materialize space r.start r.size).value, []⟩ := by
  rw [readRecord_eq hstream hsize, hspace]
  -- neither the walk nor the length has anything to report
  have hnotices := (materialize_of_holds h hu hsize).1
  have hfull : ¬ (v.materialize space r.start r.size).value.size < r.size := by
    rw [size_materialize_of_holds h hu hsize]
    exact Nat.lt_irrefl _
  apply Noted.ext
  · simp only [Noted.value_bind, hfull, if_false]
    rfl
  · simp only [Noted.notices_bind, hnotices, hfull, if_false]
    rfl

end Volume

end InstallerPackage
