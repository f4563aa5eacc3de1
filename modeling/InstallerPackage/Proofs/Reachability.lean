import Mathlib.Order.Bounds.Basic
import InstallerPackage.Proofs.Stacks

/-!
# The tree holds what can be reached

`Directory.tree` is built by two nested loops that share one set of claimed records. Whatever the
links are (cyclic, shared, leading nowhere), it holds every record that can be reached from the root,
each of them once: `Directory.tree_isLeast_reachable`.

* `Directory.Closed` says that a set of records is closed under the links that a reader follows.
  The records of the tree are the least such set.
* A scan that is never cut short leaves no link of a record that it returns unfollowed
  (`Directory.siblings_complete`, `Directory.grow_complete`).
-/

namespace InstallerPackage

namespace Directory

variable {d : Directory} {met : Std.TreeSet Nat} {r : Record}

/-! ### No link is left out -/

/-- Have the records been claimed that the links of `r` lead to? -/
def Followed (d : Directory) (met : Std.TreeSet Nat) (r : Record) : Prop :=
  (d.Leads r.left → r.left ∈ met) ∧ (d.Leads r.right → r.right ∈ met) ∧
    (r.isStorage → d.Leads r.child → r.child ∈ met)

theorem Followed.mono {met met' : Std.TreeSet Nat} (h : d.Followed met r)
    (hsub : ∀ i ∈ met, i ∈ met') : d.Followed met' r :=
  ⟨fun hl => hsub _ (h.1 hl), fun hl => hsub _ (h.2.1 hl), fun hs hl => hsub _ (h.2.2 hs hl)⟩

/-- Growing a node follows the links of all records below it. -/
def Complete (d : Directory) (record : Record) (out : Node × Std.TreeSet Nat) : Prop :=
  (record.isStorage → d.Leads record.child → record.child ∈ out.2) ∧
    ∀ n ∈ out.1.children.flatMap Node.nodes, d.Followed out.2 n.record

theorem growAll_complete {levels : Nat}
    (ih : ∀ id record met, 0 ∈ met → d.unmet met < levels →
      d.Complete record ((d.grow levels id record).run met).value)
    (found : List (Nat × Record)) (h0 : 0 ∈ met) (h : d.unmet met < levels)
    (hfound : ∀ p ∈ found, (d.Leads p.2.left → p.2.left ∈ met) ∧
      (d.Leads p.2.right → p.2.right ∈ met)) :
    let out := ((d.growAll levels found).run met).value
    ∀ n ∈ out.1.flatMap Node.nodes, d.Followed out.2 n.record := by
  -- on the siblings; those behind were grown before, and what is claimed stays claimed
  induction found with
  | nil => simp [growAll]
  | cons p found ihf =>
    rw [growAll_cons]
    simp only [Noted.value_bind, Noted.value_pure]
    have hafter := ihf fun q hq => hfound q (List.mem_cons_of_mem p hq)
    have hall := (growAll_grown (d := d) levels found met).scanned
    have hle := d.unmet_mono fun i hi => hall.subset hi
    generalize ((d.growAll levels found).run met).value = after at *
    -- a storage follows its child link, any other record has none to follow
    have hone : d.Complete p.2 ((d.growOne levels p).run after.2).value := by
      unfold growOne
      split
      · exact ih p.1 p.2 _ (hall.subset h0) (by omega)
      · exact ⟨fun hs => absurd hs ‹_›, by simp [Node.children]⟩
    have hgrown := (growOne_grown (d := d) (fun i r m => grow_grown levels i r m) p after.2).1
    generalize ((d.growOne levels p).run after.2).value = node at *
    have hsub : ∀ i ∈ met, i ∈ node.2 := fun i hi => hgrown.scanned.subset (hall.subset hi)
    obtain ⟨⟨i, r, below⟩, met'⟩ := node
    obtain rfl : r = p.2 := hgrown.record_eq
    intro n hn
    rw [List.flatMap_cons, Node.nodes_mk] at hn
    rcases List.mem_append.mp hn with hn | hn
    · rcases List.mem_cons.mp hn with rfl | hn
      · -- the links to the siblings were followed before, the link to the children just now
        obtain ⟨hleft, hright⟩ := hfound p (List.mem_cons_self ..)
        exact ⟨fun hl => hsub _ (hleft hl), fun hl => hsub _ (hright hl), hone.1⟩
      · exact hone.2 n hn
    · exact (hafter n hn).mono fun i hi => hgrown.scanned.subset hi

theorem grow_complete (levels id : Nat) (record : Record) (h0 : 0 ∈ met)
    (h : d.unmet met < levels) :
    let out := ((d.grow levels id record).run met).value
    (d.Leads record.child → record.child ∈ out.2) ∧
      ∀ n ∈ out.1.children.flatMap Node.nodes, d.Followed out.2 n.record := by
  -- on the levels; nothing is cut short as long as there are more of them than records left
  induction levels generalizing id record met with
  | zero => omega
  | succ levels ih =>
    rw [grow_succ]
    simp only [Noted.value_bind, Noted.value_pure, Node.children]
    obtain ⟨hscan, hrecords⟩ := siblings_scanned (d := d) d.size record.child met
    obtain ⟨hchild, hlinks⟩ :=
      siblings_complete (d := d) d.size record.child met (d.unmet_lt_size h0)
    generalize ((d.siblings d.size record.child).run met).value = found at *
    have hall := (growAll_grown (d := d) levels found.1 found.2).scanned
    refine ⟨fun hl => hall.subset (hchild hl), ?_⟩
    cases hf : found.1 with
    | nil => simp [growAll]
    | cons p rest =>
      -- a sibling was claimed, which pays for the level
      have hp : p ∈ found.1 := by simp [hf]
      have hlt : p.1 < d.size := (Array.getElem?_eq_some_iff.mp (hrecords p hp)).1
      have := d.unmet_lt_of_scanned hscan (List.mem_map_of_mem hp) hlt
      rw [← hf]
      refine growAll_complete (fun i r m h0 h => ?_) found.1 (hscan.subset h0) (by omega) hlinks
      exact ⟨fun _ => (ih i r h0 h).1, (ih i r h0 h).2⟩

/-! ### Nothing else is in the tree -/

/-- A set of records that has the root and, with a record, those that its links lead to: the children
of the root and of storages, the neighbours of all but the root. -/
structure Closed (d : Directory) (R : Set Nat) : Prop where
  root : 0 ∈ R
  child : ∀ i ∈ R, ∀ r, d.records[i]? = some r → i = 0 ∨ r.kind.code = 1 ∨ r.kind.code = 5 →
    d.Leads r.child → r.child ∈ R
  left : ∀ i ∈ R, i ≠ 0 → ∀ r, d.records[i]? = some r → d.Leads r.left → r.left ∈ R
  right : ∀ i ∈ R, i ≠ 0 → ∀ r, d.records[i]? = some r → d.Leads r.right → r.right ∈ R

theorem isStorage_iff : r.isStorage ↔ r.kind.code = 1 ∨ r.kind.code = 5 := by
  simp [Record.isStorage, ObjectKind.isStorage]

variable {R : Set Nat}

theorem siblings_subset (hR : d.Closed R) (levels link : Nat) (h0 : 0 ∈ met)
    (hlink : d.Leads link → link ∈ R) :
    ∀ p ∈ ((d.siblings levels link).run met).value.1, p.1 ∈ R := by
  -- on the levels; a link is only followed from a record that is in the set
  induction levels generalizing link met with
  | zero => simp [siblings]
  | succ levels ih =>
    rcases d.claim_cases link met with ⟨h, -⟩ | ⟨r, h, hlead, hr, hmet⟩
    · rw [siblings_succ_of_none h]
      simp
    · rw [siblings_succ_of_some h]
      simp only [Noted.value_bind, Noted.value_pure]
      have hmem := hlink hlead
      -- the root is claimed already, so its neighbours are never asked for
      have hne : link ≠ 0 := fun he => hmet (he ▸ h0)
      have h0' : 0 ∈ met.insert link := Std.TreeSet.mem_insert.mpr (Or.inr h0)
      have hb := (siblings_scanned (d := d) levels r.left (met.insert link)).1
      have hbefore := ih r.left h0' (hR.left link hmem hne r hr)
      have hafter := ih r.right (hb.subset h0') (hR.right link hmem hne r hr)
      intro p hp
      rcases List.mem_append.mp hp with hp | hp
      · exact hbefore p hp
      · rcases List.mem_cons.mp hp with rfl | hp
        · exact hmem
        · exact hafter p hp

theorem growAll_subset {levels : Nat}
    (ih : ∀ id record met, 0 ∈ met → (d.Leads record.child → record.child ∈ R) →
      ∀ i ∈ ((d.grow levels id record).run met).value.1.idsBelow, i ∈ R)
    (found : List (Nat × Record)) (h0 : 0 ∈ met)
    (hfound : ∀ p ∈ found, p.2.isStorage → d.Leads p.2.child → p.2.child ∈ R) :
    ∀ n ∈ ((d.growAll levels found).run met).value.1, ∀ i ∈ n.idsBelow, i ∈ R := by
  -- on the siblings, each of which grows inside the set
  induction found with
  | nil => simp [growAll]
  | cons p found ihf =>
    rw [growAll_cons]
    simp only [Noted.value_bind, Noted.value_pure]
    have hall := (growAll_grown (d := d) levels found met).scanned
    intro n hn
    rcases List.mem_cons.mp hn with rfl | hn
    · -- the links of a record that is no storage are not looked at
      unfold growOne
      split
      · exact ih p.1 p.2 _ (hall.subset h0) (hfound p (List.mem_cons_self ..) ‹_›)
      · intro i hi
        exact absurd hi (by simp [Node.idsBelow, Node.children])
    · exact ihf (fun q hq => hfound q (List.mem_cons_of_mem p hq)) n hn

theorem grow_subset (hR : d.Closed R) (levels id : Nat) (record : Record) (h0 : 0 ∈ met)
    (hchild : d.Leads record.child → record.child ∈ R) :
    ∀ i ∈ ((d.grow levels id record).run met).value.1.idsBelow, i ∈ R := by
  induction levels generalizing id record met with
  | zero =>
    intro i hi
    exact absurd hi (by simp [grow, Node.idsBelow, Node.children])
  | succ levels ih =>
    rw [grow_succ]
    simp only [Noted.value_bind, Noted.value_pure]
    obtain ⟨hscan, hrecords⟩ := siblings_scanned (d := d) d.size record.child met
    have hsub := siblings_subset hR d.size record.child h0 hchild
    generalize ((d.siblings d.size record.child).run met).value = found at *
    have hheads := (growAll_grown (d := d) levels found.1 found.2).heads
    have hbelow := growAll_subset (R := R) (fun i r m h0 h => ih i r h0 h) found.1
      (hscan.subset h0) fun p hp hs =>
        hR.child p.1 (hsub p hp) p.2 (hrecords p hp) (Or.inr (isStorage_iff.mp hs))
    intro i hi
    -- below the record are the scanned siblings, and what is below those
    obtain ⟨n, hn, hi⟩ := List.mem_flatMap.mp hi
    rw [Node.ids_eq] at hi
    rcases List.mem_cons.mp hi with rfl | hi
    · -- a sibling itself
      have hhead : (n.id, n.record) ∈ found.1 := by
        rw [← hheads]
        exact List.mem_map_of_mem hn
      exact hsub _ hhead
    · exact hbelow n hn i hi

/-! ### The whole tree -/

theorem id_tree (d : Directory) : d.tree.value.id = 0 := by
  have hgrown := grow_grown (d := d) d.size 0 d.root (.ofList [0])
  rw [value_tree, hgrown.id_eq]

theorem getElem?_root (d : Directory) : d.records[0]? = some d.root :=
  Array.getElem?_eq_getElem d.size_pos

/-- The records of the tree are closed under links. -/
theorem closed_ids_tree (d : Directory) : d.Closed {i | i ∈ d.tree.value.ids} := by
  have h0 : 0 ∈ (Std.TreeSet.ofList [0] : Std.TreeSet Nat) := by simp
  have hgrown := grow_grown (d := d) d.size 0 d.root (.ofList [0])
  obtain ⟨hchild, hbelow⟩ :=
    grow_complete (d := d) d.size 0 d.root h0 (d.unmet_lt_size h0)
  rw [value_tree]
  generalize ((d.grow d.size 0 d.root).run (.ofList [0])).value = out at *
  have hids : ∀ i, i ∈ out.2 ↔ i ∈ out.1.ids := by
    intro i
    rw [hgrown.scanned.mem_iff, Node.ids_eq, hgrown.id_eq, mem_start_iff, List.mem_cons]
  have hroot : d.records[0]? = some out.1.record := by
    rw [hgrown.record_eq, getElem?_root]
  -- every record below the root has its node, and the links of that were followed
  have hfollowed : ∀ i ∈ out.1.ids, i ≠ 0 → ∀ r, d.records[i]? = some r → d.Followed out.2 r := by
    intro i hi hne r hr
    rw [Node.ids_eq, hgrown.id_eq] at hi
    obtain ⟨c, hc, hi⟩ := List.mem_flatMap.mp ((List.mem_cons.mp hi).resolve_left hne)
    obtain ⟨n, hn, rfl⟩ := List.mem_map.mp hi
    replace hn : n ∈ out.1.children.flatMap Node.nodes := List.mem_flatMap.mpr ⟨c, hc, hn⟩
    have := (hgrown.below n hn).1
    rw [hr, Option.some.injEq] at this
    exact this ▸ hbelow n hn
  -- the root, and the three links of a record that has a node
  refine ⟨?_, ?_, ?_, ?_⟩
  · exact (hids 0).mp (hgrown.scanned.subset h0)
  · intro i hi r hr hkind hl
    refine (hids _).mp ?_
    by_cases hi0 : i = 0
    · -- the root's child is followed whatever the root's kind is
      subst hi0
      rw [getElem?_root, Option.some.injEq] at hr
      subst hr
      exact hchild hl
    · exact (hfollowed i hi hi0 r hr).2.2 (isStorage_iff.mpr (hkind.resolve_left hi0)) hl
  · intro i hi hne r hr hl
    exact (hids _).mp ((hfollowed i hi hne r hr).1 hl)
  · intro i hi hne r hr hl
    exact (hids _).mp ((hfollowed i hi hne r hr).2.1 hl)

/-- A node of the tree has the record of its position, and only the root and storages have children. -/
theorem fits_tree (d : Directory) : ∀ n ∈ d.tree.value.nodes, d.records[n.id]? = some n.record ∧
    (n.children ≠ [] → n.id = 0 ∨ n.record.isStorage) := by
  have hgrown := grow_grown (d := d) d.size 0 d.root (.ofList [0])
  rw [value_tree]
  generalize ((d.grow d.size 0 d.root).run (.ofList [0])).value = out at *
  intro n hn
  obtain ⟨⟨i, r, below⟩, met⟩ := out
  rw [Node.nodes_mk] at hn
  rcases List.mem_cons.mp hn with rfl | hn
  · -- the root is given, every other node was grown
    obtain rfl : i = 0 := hgrown.id_eq
    obtain rfl : r = d.root := hgrown.record_eq
    exact ⟨getElem?_root d, fun _ => .inl rfl⟩
  · obtain ⟨hrec, hstorage⟩ := hgrown.below n hn
    exact ⟨hrec, fun h => .inr (hstorage h)⟩

/-- No record is in the tree twice. -/
theorem nodup_ids_tree (d : Directory) : d.tree.value.ids.Nodup := by
  have h0 : 0 ∈ (Std.TreeSet.ofList [0] : Std.TreeSet Nat) := by simp
  have hgrown := grow_grown (d := d) d.size 0 d.root (.ofList [0])
  -- below the root are the records that were claimed, and the root was claimed before them
  rw [value_tree, Node.ids_eq, hgrown.id_eq, List.nodup_cons]
  exact ⟨fun h => hgrown.scanned.fresh 0 h h0, hgrown.scanned.nodup⟩

/-- Every closed set contains what the tree was grown from. -/
theorem ids_tree_subset (hR : d.Closed R) : ∀ i ∈ d.tree.value.ids, i ∈ R := by
  have h0 : 0 ∈ (Std.TreeSet.ofList [0] : Std.TreeSet Nat) := by simp
  have hsub := grow_subset hR d.size 0 d.root h0
    (hR.child 0 hR.root d.root (getElem?_root d) (Or.inl rfl))
  have hid := (grow_grown (d := d) d.size 0 d.root (.ofList [0])).id_eq
  rw [value_tree, Node.ids_eq, hid]
  intro i hi
  rcases List.mem_cons.mp hi with rfl | hi
  · exact hR.root
  · exact hsub i hi

/-- **The tree holds exactly what can be reached, every record once.** Levels beyond the number of
records are never used, and neither are turns of the two loops beyond their bounds, with which the loops
come to their end; no record is in the tree twice; its records are the least set that is closed under
the links of the directory; and only the root and storages have nodes below them. -/
theorem tree_isLeast_reachable (d : Directory) :
    (∀ levels, d.size ≤ levels → ∀ met : Std.TreeSet Nat, 0 ∈ met →
      (∀ link, (d.siblings levels link).run met = (d.siblings d.size link).run met) ∧
        ∀ id r, (d.grow levels id r).run met = (d.grow d.size id r).run met) ∧
    (∀ turns, 2 * d.size ≤ turns → ∀ met : Std.TreeSet Nat, 0 ∈ met → ∀ link,
      d.listFrom turns link [] #[] met #[] = (d.siblingsAt link).run met) ∧
    (∀ turns, d.size ≤ turns →
      d.attachFrom turns [(0, d.root)] [] (.ofList [0]) #[] =
        d.attachFrom d.size [(0, d.root)] [] (.ofList [0]) #[]) ∧
    d.tree.value.ids.Nodup ∧
    IsLeast {R : Set Nat | d.Closed R} {i | i ∈ d.tree.value.ids} ∧
    ∀ n ∈ d.tree.value.nodes, d.records[n.id]? = some n.record ∧
      (n.children ≠ [] → n.id = 0 ∨ n.record.kind.code = 1 ∨ n.record.kind.code = 5) := by
  refine ⟨?_, ?_, ?_, nodup_ids_tree d,
    ⟨closed_ids_tree d, fun R hR i hi => ids_tree_subset hR i hi⟩, ?_⟩
  · -- a record is claimed on every level, so there are never more levels than records
    intro levels hle met hmet
    have hlt := d.unmet_lt_size hmet
    exact ⟨fun link => siblings_levels link (by omega) hlt,
      fun id r => grow_levels hmet (by omega) hlt⟩
  · intro turns hle met hmet link
    rw [listFrom_of_le hmet hle, siblingsAt_run hmet]
  · intro turns hle
    rw [attachFrom_of_le rfl hle, attachFrom_of_le rfl (Nat.le_refl _)]
  · intro n hn
    obtain ⟨hrec, hstorage⟩ := fits_tree d n hn
    exact ⟨hrec, fun h => (hstorage h).imp_right isStorage_iff.mp⟩

end Directory

end InstallerPackage
