import InstallerPackage.Container.Siblings
import InstallerPackage.Proofs.Reachability

/-!
# Trees whose links are undamaged

In a file as it should be, the children of every storage spell out a tree of siblings, and no record
is in two of them. `Directory.Spelled` says so, and `Directory.tree_spelled` that the tree then has,
below every storage, exactly those records in that order, and that there is nothing to report.
`Node.descend_of_child` goes down such a tree by name.

The proof follows the way the tree is grown. A storage that is about to be grown is `Pending`: it has
been claimed, and nothing below it has. What has been claimed so far is `Ready`: it has, with a record,
the storage that the record is in. Growing some records comes to `Sprouted`, and its clause `claimed`
is the heart of it: whatever is claimed is claimed below one of them. So the siblings that wait for
their turn stay `Pending` (`Sprouted.pending`), and since a scan of siblings takes a level, the levels
suffice (`Ready.scanned`).
-/

namespace InstallerPackage

/-! ### The links of a tree of siblings -/

namespace SiblingTree

theorem map_fst_links (t : SiblingTree) : t.links.map Prod.fst = t.toList := by
  induction t with
  | leaf => rfl
  | node before id after hb ha =>
    rw [links, toList, List.map_append, List.map_cons, hb, ha]

/-- No record is named twice, so looking one up gives its own links. -/
theorem lookup_links {t : SiblingTree} (hnodup : t.toList.Nodup) {id : Nat} {links : Nat × Nat}
    (h : (id, links) ∈ t.links) : t.links.lookup id = some links := by
  rw [← map_fst_links] at hnodup
  obtain ⟨front, back, heq⟩ := List.append_of_mem h
  rw [heq, List.map_append, List.map_cons, List.nodup_append] at hnodup
  refine List.lookup_eq_some_iff.mpr ⟨front, back, heq, fun p hp => ?_⟩
  have hne := hnodup.2.2 p.1 (List.mem_map_of_mem hp) id (List.mem_cons_self ..)
  simpa using fun he : id = p.1 => hne he.symm

theorem root_cases (t : SiblingTree) : t.root = freeSector ∨ t.root ∈ t.toList := by
  cases t with
  | leaf => exact .inl rfl
  | node before id after => exact .inr (by simp [root, toList])

/-- A link leads nowhere or to a record of the tree. -/
theorem links_cases {t : SiblingTree} {id left right : Nat} (h : (id, left, right) ∈ t.links) :
    (left = freeSector ∨ left ∈ t.toList) ∧ (right = freeSector ∨ right ∈ t.toList) := by
  -- on the tree; only the middle case is about the links of this record itself
  induction t with
  | leaf => simp [links] at h
  | node before id' after hb ha =>
    have hback : ∀ k ∈ before.toList, k ∈ (node before id' after).toList := fun k hk =>
      List.mem_append_left _ hk
    have hahead : ∀ k ∈ after.toList, k ∈ (node before id' after).toList := fun k hk =>
      List.mem_append_right _ (List.mem_cons_of_mem _ hk)
    rw [links, List.mem_append, List.mem_cons] at h
    rcases h with h | h | h
    · exact (hb h).imp (Or.imp_right (hback _)) (Or.imp_right (hback _))
    · obtain ⟨-, h⟩ := Prod.mk.inj h
      obtain ⟨rfl, rfl⟩ := Prod.mk.inj h
      exact ⟨before.root_cases.imp_right (hback _), after.root_cases.imp_right (hahead _)⟩
    · exact (ha h).imp (Or.imp_right (hahead _)) (Or.imp_right (hahead _))

end SiblingTree

namespace Directory

variable {d : Directory} {t : SiblingTree} {levels link : Nat} {met : Std.TreeSet Nat}

/-- Records with the links of a tree spell it out. -/
theorem spells_of_links (hlive : ∀ id ∈ t.toList, id ≠ freeSector)
    (h : ∀ id left right, (id, left, right) ∈ t.links →
      ∃ r, d.records[id]? = some r ∧ r.left = left ∧ r.right = right) :
    d.Spells t.root t := by
  -- on the tree, from its root, whose record has the links to the roots of both subtrees
  induction t with
  | leaf => rfl
  | node before id after hb ha =>
    obtain ⟨r, hr, hleft, hright⟩ := h id before.root after.root (by simp [SiblingTree.links])
    refine ⟨rfl, hlive id (by simp [SiblingTree.toList]), r, hr, ?_, ?_⟩
    · rw [hleft]
      exact hb (fun i hi => hlive i (by simp [SiblingTree.toList, hi]))
        fun i l r' hi => h i l r' (by simp [SiblingTree.links, hi])
    · rw [hright]
      exact ha (fun i hi => hlive i (by simp [SiblingTree.toList, hi]))
        fun i l r' hi => h i l r' (by simp [SiblingTree.links, hi])

/-- A link to a record that has not been met claims it. -/
theorem claim_of_not_mem {r : Record} (hne : link ≠ freeSector) (hr : d.records[link]? = some r)
    (hmet : link ∉ met) : (d.claim link).run met = pure (some r, met.insert link) := by
  have hlt : link < d.size := (Array.getElem?_eq_some_iff.mp hr).1
  rcases d.claim_cases link met with ⟨-, hin⟩ | ⟨r', hrun, -, hr', -⟩
  · exact absurd (hin ⟨hne, hlt⟩) hmet
  · rw [hr, Option.some.injEq] at hr'
    rw [hrun, hr']

/-- A tree of siblings that is spelled out is scanned in order, without a notice. -/
theorem siblings_spelled (levels : Nat) (h : d.Spells link t) (hnodup : t.toList.Nodup)
    (hfresh : ∀ k ∈ t.toList, k ∉ met) (hlevels : d.unmet met < levels) :
    ((d.siblings levels link).run met).notices = [] ∧
      ((d.siblings levels link).run met).value.1.map Prod.fst = t.toList := by
  -- on the tree that is spelled out, with the levels free: each subtree takes one level less
  induction t generalizing levels link met with
  | leaf =>
    obtain rfl : link = freeSector := h
    obtain ⟨levels, rfl⟩ : ∃ n, levels = n + 1 := ⟨levels - 1, by omega⟩
    have hclaim : (d.claim freeSector).run met = pure (none, met) := rfl
    rw [siblings_succ_of_none (by rw [hclaim]; rfl), hclaim]
    exact ⟨rfl, rfl⟩
  | node before id after hb ha =>
    obtain ⟨rfl, hne, r, hr, hleft, hright⟩ := h
    obtain ⟨levels, rfl⟩ : ∃ n, levels = n + 1 := ⟨levels - 1, by omega⟩
    rw [SiblingTree.toList] at hnodup hfresh ⊢
    obtain ⟨hbefore, hrest, hdisjoint⟩ := List.nodup_append.mp hnodup
    obtain ⟨hlink, hafter⟩ := List.nodup_cons.mp hrest
    have hmet : link ∉ met := hfresh link (by simp)
    have hlt : link < d.size := (Array.getElem?_eq_some_iff.mp hr).1
    have hclaim := claim_of_not_mem hne hr hmet
    -- the claimed record pays for the level of both subtrees
    have hless := d.unmet_insert_lt hlt hmet
    have hinsert := (Scanned.insert hmet).mem_iff
    -- the record is claimed before its neighbours, which are others
    have hfreshBefore : ∀ k ∈ before.toList, k ∉ met.insert link := by
      intro k hk hin
      rcases (hinsert k).mp hin with hin | hin
      · exact hfresh k (by simp [hk]) hin
      · exact hdisjoint k hk link (List.mem_cons_self ..) (List.mem_singleton.mp hin)
    obtain ⟨hbn, hbv⟩ := hb levels hleft hbefore hfreshBefore (by omega)
    have hscan := (siblings_scanned (d := d) levels r.left (met.insert link)).1
    rw [hbv] at hscan
    have hle := d.unmet_mono fun i hi => hscan.subset hi
    rw [siblings_succ_of_some hclaim]
    simp only [Noted.value_bind, Noted.notices_bind, Noted.value_pure, Noted.notices_pure, hbn]
    generalize ((d.siblings levels r.left).run (met.insert link)).value = scan at *
    -- what comes after was not claimed by the record nor by what comes before
    have hfreshAfter : ∀ k ∈ after.toList, k ∉ scan.2 := by
      intro k hk hin
      rcases (hscan.mem_iff k).mp hin with hin | hin
      · rcases (hinsert k).mp hin with hin | hin
        · exact hfresh k (by simp [hk]) hin
        · exact hlink (List.mem_singleton.mp hin ▸ hk)
      · exact hdisjoint k hin k (List.mem_cons_of_mem _ hk) rfl
    obtain ⟨han, hav⟩ := ha levels hright hafter hfreshAfter (by omega)
    rw [han, List.map_append, List.map_cons, hbv, hav]
    exact ⟨rfl, rfl⟩

/-! ### Directories without damage -/

/-- Below every storage the links spell out a tree of siblings, and `parent` names the storage of
every record in one. -/
structure Spelled (d : Directory) (parent : Nat → Nat) (tree : Nat → SiblingTree) : Prop where
  spells : ∀ i r, d.records[i]? = some r → i = 0 ∨ r.isStorage → d.Spells r.child (tree i)
  nodup : ∀ i, (tree i).toList.Nodup
  parent : ∀ i, ∀ k ∈ (tree i).toList, k ≠ 0 ∧ parent k = i

/-- The children of a storage are the records in its tree of siblings, in order. -/
def Shaped (tree : Nat → SiblingTree) (n : Node) : Prop :=
  n.id = 0 ∨ n.record.isStorage → n.children.map Node.id = (tree n.id).toList

variable {parent : Nat → Nat} {tree : Nat → SiblingTree}

/-- A set of claimed records to go on from: it has the root and, with a record, the storage it is
in, and there are more levels than records left. -/
structure Ready (d : Directory) (parent : Nat → Nat) (levels : Nat) (met : Std.TreeSet Nat) :
    Prop where
  root : 0 ∈ met
  rooted : ∀ k ∈ met, k = 0 ∨ parent k ∈ met
  levels : d.unmet met < levels

/-- A record that has been claimed when nothing below it has. -/
structure Pending (d : Directory) (tree : Nat → SiblingTree) (met : Std.TreeSet Nat)
    (p : Nat × Record) : Prop where
  record : d.records[p.1]? = some p.2
  mem : p.1 ∈ met
  below : ∀ k ∈ (tree p.1).toList, k ∉ met

/-- What growing the records `ids` comes to: there is nothing to report, a record is only claimed
below one of them or below another record that was claimed on the way, and all nodes have their
children. -/
structure Sprouted (parent : Nat → Nat) (tree : Nat → SiblingTree) (met : Std.TreeSet Nat)
    (ids : List Nat) (notices : List Notice) (nodes : List Node) (met' : Std.TreeSet Nat) : Prop where
  subset : ∀ k ∈ met, k ∈ met'
  notices : notices = []
  claimed : ∀ k ∈ met', k ∈ met ∨ parent k ∈ ids ∨ parent k ∈ met' ∧ parent k ∉ met
  shaped : ∀ n ∈ nodes, Shaped tree n

/-- With so many levels, growing a storage comes to what it should. -/
def Sprouts (d : Directory) (parent : Nat → Nat) (tree : Nat → SiblingTree) (levels : Nat) : Prop :=
  ∀ (p : Nat × Record) (met : Std.TreeSet Nat), d.Pending tree met p →
    p.1 = 0 ∨ p.2.isStorage → d.Ready parent levels met →
    let out := (d.grow levels p.1 p.2).run met
    Sprouted parent tree met [p.1] out.notices out.value.1.nodes out.value.2

section Sprouted

variable {met' met₁ met₂ : Std.TreeSet Nat} {i id : Nat} {ids : List Nat}
  {notices more : List Notice} {nodes others : List Node} {p : Nat × Record} {r : Record}

/-- Nothing is grown. -/
theorem Sprouted.none (h : ∀ n ∈ nodes, Shaped tree n) :
    Sprouted parent tree met ids [] nodes met where
  subset _ hk := hk
  notices := rfl
  claimed _ hk := .inl hk
  shaped := h

/-- One more record is grown. -/
theorem Sprouted.cons (h : Sprouted parent tree met ids notices nodes met₁)
    (h' : Sprouted parent tree met₁ [i] more others met₂) :
    Sprouted parent tree met (i :: ids) (notices ++ more) (others ++ nodes) met₂ where
  subset k hk := h'.subset k (h.subset k hk)
  notices := by rw [h.notices, h'.notices, List.append_nil]
  claimed k hk := by
    -- a record is claimed by the one that is grown now, by those before, or it is the new one itself
    rcases h'.claimed k hk with hk | hk | hk
    · -- claimed by the records before
      rcases h.claimed k hk with hk | hk | hk
      · exact .inl hk
      · exact .inr (.inl (List.mem_cons_of_mem _ hk))
      · exact .inr (.inr ⟨h'.subset _ hk.1, hk.2⟩)
    · rw [List.mem_singleton.mp hk]
      exact .inr (.inl (List.mem_cons_self ..))
    · exact .inr (.inr ⟨hk.1, fun hin => hk.2 (h.subset _ hin)⟩)
  shaped n hn := (List.mem_append.mp hn).elim (h'.shaped n) (h.shaped n)

theorem Sprouted.ready (h : Sprouted parent tree met ids notices nodes met')
    (hready : d.Ready parent levels met) (hids : ∀ k ∈ ids, k ∈ met) : d.Ready parent levels met' where
  root := h.subset 0 hready.root
  rooted k hk := by
    rcases h.claimed k hk with hk | hk | hk
    · exact (hready.rooted k hk).imp_right (h.subset _)
    · exact .inr (h.subset _ (hids _ hk))
    · exact .inr hk.1
  levels := Nat.lt_of_le_of_lt (d.unmet_mono h.subset) hready.levels

/-- Growing other records claims nothing below this one. -/
theorem Sprouted.pending (h : Sprouted parent tree met ids notices nodes met')
    (hd : d.Spelled parent tree) (hp : d.Pending tree met p) (hne : p.1 ∉ ids) :
    d.Pending tree met' p where
  record := hp.record
  mem := h.subset _ hp.mem
  below k hk hin := by
    have hparent := (hd.parent p.1 k hk).2
    rcases h.claimed k hin with hin | hin | hin
    · exact hp.below k hk hin
    · exact hne (hparent ▸ hin)
    · exact hin.2 (hparent ▸ hp.mem)

/-- Once the siblings below a storage are claimed, what is below them is left to grow. -/
theorem Pending.scanned (hid : d.Pending tree met (id, r)) (hd : d.Spelled parent tree)
    (hready : d.Ready parent levels met) (hscan : Scanned met (tree id).toList met')
    (hr : d.records[p.1]? = some p.2) (hp : p.1 ∈ (tree id).toList) : d.Pending tree met' p where
  record := hr
  mem := (hscan.mem_iff _).mpr (.inr hp)
  below k hk hin := by
    obtain ⟨hk0, hparent⟩ := hd.parent p.1 k hk
    -- two ways for a record below to be claimed too early, and neither can be
    rcases (hscan.mem_iff k).mp hin with hin | hin
    · -- claimed before, it would be in a storage that was claimed before
      rcases hready.rooted k hin with rfl | hin
      · exact hk0 rfl
      · exact hid.below p.1 hp (hparent ▸ hin)
    · -- claimed just now, it would be a sibling of this record
      have hself : id = p.1 := (hd.parent id k hin).2.symm.trans hparent
      exact hid.below p.1 hp (hself ▸ hid.mem)

/-- Claiming siblings takes a level. -/
theorem Ready.scanned (hready : d.Ready parent (levels + 1) met) (hd : d.Spelled parent tree)
    (hid : id ∈ met) (hscan : Scanned met (tree id).toList met') (hi : i ∈ (tree id).toList)
    (hlt : i < d.size) : d.Ready parent levels met' where
  root := hscan.subset hready.root
  rooted k hk := by
    rcases (hscan.mem_iff k).mp hk with hk | hk
    · exact (hready.rooted k hk).imp_right hscan.subset
    · rw [(hd.parent id k hk).2]
      exact .inr (hscan.subset hid)
  levels := Nat.lt_of_lt_of_le (d.unmet_lt_of_scanned hscan hi hlt) (Nat.le_of_lt_succ hready.levels)

end Sprouted

theorem growOne_spelled (ih : d.Sprouts parent tree levels) {p : Nat × Record}
    (hp : d.Pending tree met p) (hne : p.1 ≠ 0) (hready : d.Ready parent levels met) :
    let out := (d.growOne levels p).run met
    Sprouted parent tree met [p.1] out.notices out.value.1.nodes out.value.2 := by
  unfold growOne
  split
  · next hstorage => exact ih p met hp (.inr hstorage) hready
  · next hstorage =>
    refine .none fun n hn => ?_
    change n ∈ (Node.mk p.1 p.2 []).nodes at hn
    rw [Node.nodes_mk] at hn
    rcases List.mem_cons.mp hn with rfl | hn
    · rintro (h | h)
      · exact absurd h hne
      · exact absurd h hstorage
    · simp at hn

theorem growAll_spelled (hd : d.Spelled parent tree) (ih : d.Sprouts parent tree levels)
    (hready : d.Ready parent levels met) (found : List (Nat × Record))
    (hpending : ∀ p ∈ found, d.Pending tree met p) (hne : ∀ p ∈ found, p.1 ≠ 0)
    (hnodup : (found.map Prod.fst).Nodup) :
    let out := (d.growAll levels found).run met
    Sprouted parent tree met (found.map Prod.fst) out.notices (out.value.1.flatMap Node.nodes)
      out.value.2 := by
  -- on the siblings; those behind this one have been grown when it is its turn
  induction found with
  | nil => exact .none (by simp [growAll])
  | cons p found ihf =>
    intro out
    have hmem := List.mem_cons_self (a := p) (l := found)
    obtain ⟨hp, hnodup⟩ := List.nodup_cons.mp hnodup
    have hafter := ihf (fun q hq => hpending q (List.mem_cons_of_mem p hq))
      (fun q hq => hne q (List.mem_cons_of_mem p hq)) hnodup
    have hids : ∀ k ∈ found.map Prod.fst, k ∈ met := by
      intro k hk
      obtain ⟨q, hq, rfl⟩ := List.mem_map.mp hk
      exact (hpending q (List.mem_cons_of_mem p hq)).mem
    -- the later siblings are grown first, and nothing of theirs is below this one
    have hone := growOne_spelled ih (hafter.pending hd (hpending p hmem) hp) (hne p hmem)
      (hafter.ready hready hids)
    have hcons := hafter.cons hone
    rw [← List.flatMap_cons] at hcons
    simp only [out, growAll_cons, Noted.value_bind, Noted.notices_bind, Noted.value_pure,
      Noted.notices_pure, List.append_nil]
    exact hcons

theorem grow_spelled (hd : d.Spelled parent tree) (levels : Nat) : d.Sprouts parent tree levels := by
  induction levels with
  | zero => exact fun _ _ _ _ hready => absurd hready.levels (Nat.not_lt_zero _)
  | succ levels ih =>
    rintro ⟨id, r⟩ met hp hstorage hready
    dsimp only at hstorage ⊢
    rw [grow_succ]
    simp only [Noted.value_bind, Noted.notices_bind, Noted.value_pure, Noted.notices_pure]
    obtain ⟨hnotices, hids⟩ := siblings_spelled _ (hd.spells id r hp.record hstorage) (hd.nodup id)
      hp.below (d.unmet_lt_size hready.root)
    obtain ⟨hscan, hrecords⟩ := siblings_scanned (d := d) d.size r.child met
    rw [hids] at hscan
    generalize (d.siblings d.size r.child).run met = found at *
    have hmem : ∀ p ∈ found.value.1, p.1 ∈ (tree id).toList := fun p hp =>
      hids ▸ List.mem_map_of_mem hp
    have hpending : ∀ p ∈ found.value.1, d.Pending tree found.value.2 p := fun p hin =>
      hp.scanned hd hready hscan (hrecords p hin) (hmem p hin)
    -- without siblings nothing grows; with them, a level is paid for
    have hall : Sprouted parent tree found.value.2 (found.value.1.map Prod.fst)
        ((d.growAll levels found.value.1).run found.value.2).notices
        (((d.growAll levels found.value.1).run found.value.2).value.1.flatMap Node.nodes)
        ((d.growAll levels found.value.1).run found.value.2).value.2 := by
      cases hf : found.value.1 with
      | nil => exact .none (by simp [growAll])
      | cons p rest =>
        rw [← hf]
        have hin : p ∈ found.value.1 := by simp [hf]
        have hlt : p.1 < d.size := (Array.getElem?_eq_some_iff.mp (hrecords p hin)).1
        exact growAll_spelled hd ih (hready.scanned hd hp.mem hscan (hmem p hin) hlt) found.value.1
          hpending (fun q hq => (hd.parent id _ (hmem q hq)).1) (hids ▸ hd.nodup id)
    have hheads := (growAll_grown (d := d) levels found.value.1 found.value.2).heads
    generalize (d.growAll levels found.value.1).run found.value.2 = out at *
    -- the four properties of a grown tree
    refine ⟨fun k hk => hall.subset k (hscan.subset hk), ?_, fun k hk => ?_, fun n hn => ?_⟩
    · rw [hnotices, hall.notices]
      rfl
    · rw [List.mem_singleton]
      rcases hall.claimed k hk with hk | hk | hk
      · exact ((hscan.mem_iff k).mp hk).imp_right fun hk => .inl (hd.parent id k hk).2
      · -- the storage of such a record is one of the siblings, so it was claimed just now
        rw [hids] at hk
        have hclaimed : parent k ∈ found.value.2 := (hscan.mem_iff _).mpr (.inr hk)
        exact .inr (.inr ⟨hall.subset _ hclaimed, hp.below _ hk⟩)
      · exact .inr (.inr ⟨hk.1, fun hin => hk.2 (hscan.subset hin)⟩)
    · rw [Node.nodes_mk, List.mem_cons] at hn
      rcases hn with rfl | hn
      · intro _
        rw [Node.children, Node.id, ← hids, ← hheads, List.map_map]
        rfl
      · exact hall.shaped n hn

/-- The tree of an undamaged directory has every record where its links say, and there is nothing to
report. -/
theorem tree_spelled (hd : d.Spelled parent tree) :
    d.tree.notices = [] ∧ ∀ n ∈ d.tree.value.nodes, Shaped tree n := by
  have hstart : ∀ k ∈ (Std.TreeSet.ofList [0] : Std.TreeSet Nat), k = 0 :=
    fun k hk => (mem_start_iff k).mp hk
  have h0 : 0 ∈ (Std.TreeSet.ofList [0] : Std.TreeSet Nat) := (mem_start_iff 0).mpr rfl
  have h := grow_spelled hd d.size (0, d.root) (.ofList [0])
    ⟨getElem?_root d, h0, fun k hk hin => (hd.parent 0 k hk).1 (hstart k hin)⟩ (.inl rfl)
    ⟨h0, fun k hk => .inl (hstart k hk), d.unmet_lt_size h0⟩
  rw [value_tree, notices_tree]
  exact ⟨h.notices, h.shaped⟩

end Directory

/-! ### Going down -/

namespace Node

variable {root n c : Node} {steps : List Name} {step : Name}

theorem descend_append (n : Node) (steps more : List Name) :
    n.descend (steps ++ more) = (n.descend steps).bind (·.descend more) := by
  induction steps generalizing n with
  | nil => rw [List.nil_append, descend]; rfl
  | cons step steps ih =>
    rw [List.cons_append, descend, descend]
    split
    · exact ih _
    · rfl

/-- A step leads to the child of that name when no other child has it. -/
theorem descend_of_child (h : root.descend steps = some n) (hc : c ∈ n.children)
    (hname : c.name = step) (hunique : ∀ c' ∈ n.children, c'.name = step → c' = c) :
    root.descend (steps ++ [step]) = some c := by
  have hfound : n.children.find? (·.name = step) = some c := by
    cases hf : n.children.find? (·.name = step) with
    | none =>
      have := List.find?_eq_none.mp hf c hc
      exact absurd hname (by simpa using this)
    | some c' =>
      have hname' : c'.name = step := by simpa using List.find?_some hf
      rw [hunique c' (List.mem_of_find?_eq_some hf) hname']
  rw [descend_append, h, Option.bind_some, descend, hfound]
  rfl

theorem mem_nodes_self (n : Node) : n ∈ n.nodes := by
  rw [nodes_eq]
  exact List.mem_cons_self ..

/-- The nodes below a child are below its parent. -/
theorem nodes_subset (hc : c ∈ root.children) : c.nodes ⊆ root.nodes := by
  intro n hn
  rw [nodes_eq root]
  exact List.mem_cons_of_mem _ (List.mem_flatMap.mpr ⟨c, hc, hn⟩)

/-- The children of the nodes of a tree are nodes of it. -/
theorem mem_nodes_of_mem_children (hn : n ∈ root.nodes) (hc : c ∈ n.children) : c ∈ root.nodes := by
  induction root using children_induction with
  | h root ih =>
    rw [nodes_eq, List.mem_cons] at hn
    rcases hn with rfl | hn
    · exact nodes_subset hc (mem_nodes_self c)
    · obtain ⟨child, hchild, hn⟩ := List.mem_flatMap.mp hn
      exact nodes_subset hchild (ih child hchild hn)

end Node

end InstallerPackage
