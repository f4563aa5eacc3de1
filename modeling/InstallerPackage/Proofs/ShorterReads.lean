import InstallerPackage.Proofs.StepLimits

/-!
# Shorter reads of a stream

How many bytes of a stream are asked for decides where the walk along its chain stops, and how many
steps it may take, but not which way it goes. So a read of fewer bytes gives the beginning of a read
of more, or of all there are: `Volume.materialize_extract`.

The two walks take the same turns until the shorter one stops (`Chain.walkFrom_further`). When it stops
at the end of the chain, so does the other one; when it has enough, the other one goes on from there,
unless its own limit is lower and keeps it from getting so far.
-/

namespace InstallerPackage

namespace Chain

variable {table : Array Nat} {supply : Nat → Nat}
  {demand demand' steps steps' link gathered : Nat} {met : Array Nat}

/-- A walk that asks for more, or for everything, and is not stopped by its limit before, meets all the
sectors that a walk that asks for less meets, and no others unless the latter had enough. -/
theorem walkFrom_further (hpos : 0 < demand) (hmore : demand' = 0 ∨ demand ≤ demand')
    (hcut : (walkFrom table supply demand steps link gathered met).stop ≠ .cut)
    (hfar : steps ≤ steps' ∨
      (walkFrom table supply demand' steps' link gathered met).stop ≠ .cut) :
    walkFrom table supply demand' steps' link gathered met =
        walkFrom table supply demand steps link gathered met ∨
      (walkFrom table supply demand steps link gathered met).stop = .enough ∧
        (walkFrom table supply demand steps link gathered met).sectors.toList <+:
          (walkFrom table supply demand' steps' link gathered met).sectors.toList := by
  revert steps'
  fun_induction walkFrom table supply demand steps link gathered met with
  | case1 steps link gathered met hend => exact fun _ => .inl (walkFrom_sentinel hend met)
  | case2 steps link gathered met hlive hnone =>
    exact fun _ => .inl (walkFrom_outside (Bool.eq_false_iff.mpr hlive) hnone met)
  | case3 link gathered met hlive next hnext => exact absurd rfl hcut
  | case4 link gathered met hlive next steps hnext gathered' henough =>
    intro steps' hfar
    have hlive := Bool.eq_false_iff.mpr hlive
    -- the other walk gets to this sector as well
    cases steps' with
    | zero =>
      rw [walkFrom_zero hlive hnext] at hfar
      exact absurd rfl (hfar.resolve_left (Nat.not_succ_le_zero _))
    | succ steps' =>
      refine .inr ⟨rfl, ?_⟩
      rw [walkFrom_succ hlive hnext]
      split
      · exact List.prefix_rfl
      · exact prefix_walkFrom ..
  | case5 link gathered met hlive next steps hnext gathered' hless ih =>
    intro steps' hfar
    have hlive := Bool.eq_false_iff.mpr hlive
    cases steps' with
    | zero =>
      rw [walkFrom_zero hlive hnext] at hfar
      exact absurd rfl (hfar.resolve_left (Nat.not_succ_le_zero _))
    | succ steps' =>
      -- what is not enough for the one is not enough for the other
      have hless' : ¬ (0 < demand' ∧ demand' ≤ gathered + supply link) := by omega
      rw [walkFrom_succ hlive hnext, if_neg hless'] at hfar ⊢
      exact ih hcut (hfar.imp_left Nat.le_of_succ_le_succ)

end Chain

namespace Volume

variable {v : Volume} {space : Space} {start size size' : Nat}

theorem stepLimit_mono (h : 0 < size) (hle : size ≤ size') :
    v.stepLimit space size ≤ v.stepLimit space size' := by
  rw [stepLimit, stepLimit, if_neg (Nat.ne_of_gt h), if_neg (Nat.ne_of_gt (Nat.lt_of_lt_of_le h hle))]
  exact Nat.add_le_add_right (Nat.div_le_div_right hle) _

/-- The sectors of the longer read begin with as many bytes as the shorter read has. -/
theorem take_gather_eq (hsize : 0 < size) (hmore : size' = 0 ∨ size ≤ size')
    (hcut : ¬ (v.materialize space start size).ReachedLimit)
    (hfar : size ≤ size' ∨ ¬ (v.materialize space start size').ReachedLimit) :
    (v.gather space (v.walk space start size').sectors).data.toList.take size =
      (v.gather space (v.walk space start size).sectors).data.toList.take size := by
  rw [reachedLimit_iff] at hcut hfar
  rcases Chain.walkFrom_further hsize hmore hcut (hfar.imp_left (stepLimit_mono hsize)) with
    heq | ⟨henough, hprefix⟩
  · rw [walk, walk, Chain.walk, Chain.walk, heq]
  · -- the shorter read had enough, and the longer one begins with the same sectors
    obtain ⟨last, -, hends⟩ := exists_ends hsize v space start
    rw [walk, Chain.walk, henough] at hends
    cases hends with
    | enough hpos henough =>
      obtain ⟨more, hmore⟩ := hprefix
      have hbytes : (v.gather space (v.walk space start size').sectors).data.toList =
          (v.gather space (v.walk space start size).sectors).data.toList ++
            more.flatMap fun n => (v.payload space n).data.toList := by
        rw [toList_gather, toList_gather, ← List.flatMap_append, walk, walk, Chain.walk, Chain.walk,
          hmore]
      have hlong : size ≤ (v.gather space (v.walk space start size).sectors).data.toList.length := by
        rw [Bytes.length_toList]
        exact henough
      rw [hbytes, List.take_append_of_le_length hlong]

theorem toList_materialize_unbounded (v : Volume) (space : Space) (start : Nat) :
    (v.materialize space start 0).value.data.toList =
      (v.gather space (v.walk space start 0).sectors).data.toList := by
  rw [materialize]
  dsimp only
  rw [if_pos rfl]

/-- **A shorter read gives the beginning of a longer one.** Whatever the tables and the bytes are, a
read of `size` bytes that does not reach its step limit gives the first `size` bytes of every read of
at least as many, and also of an unbounded read that does not reach its own limit. -/
theorem materialize_extract (v : Volume) (space : Space) (start size size' : Nat) (hsize : 0 < size)
    (hle : size ≤ size') (hcut : ¬ (v.materialize space start size).ReachedLimit) :
    (v.materialize space start size).value =
        (v.materialize space start size').value.extract 0 size ∧
      (¬ (v.materialize space start 0).ReachedLimit →
        (v.materialize space start size).value =
          (v.materialize space start 0).value.extract 0 size) := by
  constructor
  · rw [← Bytes.toList_inj, Bytes.toList_extract, List.drop_zero, Nat.sub_zero,
      toList_materialize hsize, toList_materialize (Nat.lt_of_lt_of_le hsize hle), List.take_take,
      Nat.min_eq_left hle, take_gather_eq hsize (.inr hle) hcut (.inl hle)]
  · intro hcut'
    rw [← Bytes.toList_inj, Bytes.toList_extract, List.drop_zero, Nat.sub_zero,
      toList_materialize hsize, toList_materialize_unbounded,
      take_gather_eq hsize (.inl rfl) hcut (.inr hcut')]

/-! A stream whose chain leads over a short sector and then out of its table. -/

/-- Three mini sectors of two bytes. The chain leads from the first one over the third one, which is
behind the end of the mini stream, to the second one and on to a sector that the table does not
know. -/
def brokenSample : Volume where
  bytes := ByteArray.empty
  sectorSize := 512
  miniSectorSize := 2
  miniCutoff := 4096
  table := #[]
  miniTable := #[2, 9, 1]
  miniStream := Bytes.ofList [1, 2, 3, 4]

/-- The read of three bytes stops on the way, the one of ten bytes where the chain breaks off. -/
theorem materialize_extract_broken :
    (brokenSample.materialize .mini 0 3).notices = [] ∧
      (brokenSample.materialize .mini 0 10).notices = [.linkOutside 9 .mini 3] ∧
      (brokenSample.materialize .mini 0 3).value =
        (brokenSample.materialize .mini 0 10).value.extract 0 3 ∧
      (brokenSample.materialize .mini 0 3).value =
        (brokenSample.materialize .mini 0 0).value.extract 0 3 := by
  have hnotices : (brokenSample.materialize .mini 0 3).notices = [] ∧
      (brokenSample.materialize .mini 0 10).notices = [.linkOutside 9 .mini 3] ∧
      (brokenSample.materialize .mini 0 0).notices = [.linkOutside 9 .mini 3] := by decide +kernel
  obtain ⟨hshort, hlong, hall⟩ := hnotices
  have hcut : ¬ (brokenSample.materialize .mini 0 3).ReachedLimit := by
    rw [Noted.ReachedLimit, hshort]
    simp
  have hcut' : ¬ (brokenSample.materialize .mini 0 0).ReachedLimit := by
    rw [Noted.ReachedLimit, hall]
    simp
  obtain ⟨hlonger, hunbounded⟩ :=
    materialize_extract brokenSample .mini 0 3 10 (by decide) (by decide) hcut
  exact ⟨hshort, hlong, hlonger, hunbounded hcut'⟩

end Volume

end InstallerPackage
