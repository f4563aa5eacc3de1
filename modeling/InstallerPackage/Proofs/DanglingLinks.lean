import Mathlib.Data.List.Flatten
import InstallerPackage.Proofs.Reachability

/-!
# Links to records that do not exist

A link between directory records may lead behind the end of the directory. Building the tree of
storages reports such a link when it is met: `Directory.notices_tree_perm` says that every dangling
link of the tree's nodes is reported once, and that nothing else is, however the other links are
damaged.

Links are met in two scans, so the links of a node are met at two different times. Those to its
neighbours are tested when its record is claimed (`siblings_notices`), the one to its children when
its node is grown (`grow_notices`). Both happen once for every node, because a record is claimed once.
Neither is left out, because a scan never runs out of levels; that is where the bound on
`Directory.unmet` is needed.
-/

namespace InstallerPackage

/-! ### The links of a node -/

namespace Record

/-- The links to the siblings before and after a record. -/
def neighbours (r : Record) : List Nat := [r.left, r.right]

/-- The link to a record's children, which only a storage has. -/
def descent (r : Record) : List Nat := if r.isStorage then [r.child] else []

end Record

namespace Node

/-- The links of a node that are followed when the tree is built. The root has no siblings, and it
is searched for children whatever kind of record it is. -/
def links (n : Node) : List Nat :=
  if n.id = 0 then [n.record.child] else n.record.neighbours ++ n.record.descent

/-- The links of all nodes below a node. -/
def linksBelow (n : Node) : List Nat :=
  (n.children.flatMap nodes).flatMap fun m => m.record.neighbours ++ m.record.descent

/-- The links of a node and of the nodes below it, that of its neighbours first. -/
theorem flatMap_links_nodes (n : Node) :
    (n.nodes.flatMap fun m => m.record.neighbours ++ m.record.descent) =
      n.record.neighbours ++ (n.record.descent ++ n.linksBelow) := by
  rw [nodes_eq, List.flatMap_cons, List.append_assoc]
  rfl

end Node

namespace Directory

/-- The link leads to a record that does not exist. -/
def Dangling (d : Directory) (link : Nat) : Prop := link ≠ freeSector ∧ d.size ≤ link

instance (d : Directory) : DecidablePred d.Dangling := fun _ => inferInstanceAs (Decidable (_ ∧ _))

/-- One notice for each of the given links that is dangling. -/
def missing (d : Directory) (links : List Nat) : List Notice :=
  (links.filter (d.Dangling ·)).map (.recordOutside · d.size)

variable {d : Directory} {levels link : Nat} {met : Std.TreeSet Nat} {r : Record}

@[simp] theorem missing_nil : d.missing [] = [] := rfl

theorem missing_append (l l' : List Nat) : d.missing (l ++ l') = d.missing l ++ d.missing l' := by
  rw [missing, List.filter_append, List.map_append]
  rfl

theorem missing_cons_of_not (h : ¬ d.Dangling link) (l : List Nat) :
    d.missing (link :: l) = d.missing l := by
  rw [missing, List.filter_cons_of_neg (by simpa using h)]
  rfl

theorem not_dangling_of_leads (h : d.Leads link) : ¬ d.Dangling link :=
  fun hd => Nat.not_lt.mpr hd.2 h.2

theorem missing_perm {l l' : List Nat} (h : l.Perm l') : (d.missing l).Perm (d.missing l') :=
  (h.filter _).map _

/-! ### One test, and the tests of a scan -/

/-- A link is reported when it is tested, if it is dangling. -/
theorem notices_claim (link : Nat) (met : Std.TreeSet Nat) :
    ((d.claim link).run met).notices = d.missing [link] := by
  rw [claim_run]
  by_cases hfree : link = freeSector
  · rw [if_pos hfree, missing_cons_of_not fun h => h.1 hfree]
    rfl
  rw [if_neg hfree]
  cases hr : d.records[link]? with
  | none =>
    have hdangling : d.Dangling link := ⟨hfree, Array.getElem?_eq_none_iff.mp hr⟩
    simp [missing, hdangling]
  | some r =>
    have hlead : d.Leads link := ⟨hfree, (Array.getElem?_eq_some_iff.mp hr).1⟩
    rw [missing_cons_of_not (not_dangling_of_leads hlead)]
    dsimp only
    split <;> rfl

/-- A scan of siblings tests the link that it begins with, and the links to the neighbours of every
record that it claims. -/
theorem siblings_notices (levels link : Nat) (met : Std.TreeSet Nat) (h : d.unmet met < levels) :
    let out := (d.siblings levels link).run met
    out.notices.Perm (d.missing (link :: out.value.1.flatMap fun p => p.2.neighbours)) := by
  induction levels generalizing link met with
  | zero => omega
  | succ levels ih =>
    rcases d.claim_cases link met with ⟨hnone, -⟩ | ⟨r, hsome, hlead, hr, hmet⟩
    · rw [siblings_succ_of_none hnone, notices_claim]
      exact .refl _
    · rw [siblings_succ_of_some hsome]
      simp only [Noted.notices_bind, Noted.value_bind, Noted.notices_pure, Noted.value_pure,
        List.append_nil]
      -- the claimed record pays for the level, on the left and on the right
      have hlt := d.unmet_insert_lt hlead.2 hmet
      have hle := d.unmet_mono fun i hi =>
        (siblings_scanned (d := d) levels r.left (met.insert link)).1.subset hi
      have hbefore := ih r.left (met.insert link) (by omega)
      generalize (d.siblings levels r.left).run (met.insert link) = before at *
      have hafter := ih r.right before.value.2 (by omega)
      generalize (d.siblings levels r.right).run before.value.2 = after at *
      refine (hbefore.append hafter).trans ?_
      rw [← missing_append, missing_cons_of_not (not_dangling_of_leads hlead), List.flatMap_append,
        List.flatMap_cons]
      -- the link to the left was tested before all others, that to the right in the middle
      exact missing_perm List.perm_middle.symm

/-! ### Growing the tree -/

theorem growOne_notices
    (ih : ∀ id r met, 0 ∈ met → d.unmet met < levels →
      ((d.grow levels id r).run met).notices.Perm
        (d.missing (r.child :: ((d.grow levels id r).run met).value.1.linksBelow)))
    (p : Nat × Record) (h0 : 0 ∈ met) (h : d.unmet met < levels) :
    let out := (d.growOne levels p).run met
    out.notices.Perm (d.missing (p.2.descent ++ out.value.1.linksBelow)) := by
  unfold growOne Record.descent
  split
  · exact ih p.1 p.2 met h0 h
  · exact .refl _

/-- The links to the children of siblings are tested, and all links below. -/
theorem growAll_notices
    (ih : ∀ id r met, 0 ∈ met → d.unmet met < levels →
      ((d.grow levels id r).run met).notices.Perm
        (d.missing (r.child :: ((d.grow levels id r).run met).value.1.linksBelow)))
    (found : List (Nat × Record)) (h0 : 0 ∈ met) (h : d.unmet met < levels) :
    let out := (d.growAll levels found).run met
    out.notices.Perm
      (d.missing (out.value.1.flatMap fun n => n.record.descent ++ n.linksBelow)) := by
  induction found with
  | nil => exact .refl _
  | cons p found ihf =>
    rw [growAll_cons]
    simp only [Noted.notices_bind, Noted.value_bind, Noted.notices_pure, Noted.value_pure,
      List.append_nil]
    have hall := (growAll_grown (d := d) levels found met).scanned
    have hle := d.unmet_mono fun i hi => hall.subset hi
    generalize (d.growAll levels found).run met = after at *
    have hone := growOne_notices ih p (hall.subset h0) (Nat.lt_of_le_of_lt hle h)
    have hrecord := (growOne_grown (d := d) (fun i r m => grow_grown levels i r m) p after.value.2).1.record_eq
    generalize (d.growOne levels p).run after.value.2 = node at *
    -- the later siblings were grown first
    refine (ihf.append hone).trans ?_
    rw [← missing_append, List.flatMap_cons, hrecord]
    exact missing_perm List.perm_append_comm

/-- Growing a node tests the link to its children and all links below it. -/
theorem grow_notices (levels id : Nat) (r : Record) (h0 : 0 ∈ met) (h : d.unmet met < levels) :
    let out := (d.grow levels id r).run met
    out.notices.Perm (d.missing (r.child :: out.value.1.linksBelow)) := by
  induction levels generalizing id r met with
  | zero => omega
  | succ levels ih =>
    rw [grow_succ]
    simp only [Noted.notices_bind, Noted.value_bind, Noted.notices_pure, Noted.value_pure,
      List.append_nil]
    obtain ⟨hscan, hrecords⟩ := siblings_scanned (d := d) d.size r.child met
    have hfound := siblings_notices (d := d) d.size r.child met (d.unmet_lt_size h0)
    generalize (d.siblings d.size r.child).run met = found at *
    have hheads := (growAll_grown (d := d) levels found.value.1 found.value.2).heads
    have hall : ((d.growAll levels found.value.1).run found.value.2).notices.Perm (d.missing
        (((d.growAll levels found.value.1).run found.value.2).value.1.flatMap
          fun n => n.record.descent ++ n.linksBelow)) := by
      cases hf : found.value.1 with
      | nil => exact .refl _
      | cons p rest =>
        -- a sibling was claimed, which pays for the level
        have hp : p ∈ found.value.1 := by simp [hf]
        have hlt : p.1 < d.size := (Array.getElem?_eq_some_iff.mp (hrecords p hp)).1
        have := d.unmet_lt_of_scanned hscan (List.mem_map_of_mem hp) hlt
        exact growAll_notices (fun i r m h0 h => ih i r h0 h) _ (hscan.subset h0) (by omega)
    generalize (d.growAll levels found.value.1).run found.value.2 = out at *
    refine (hfound.append hall).trans ?_
    rw [← missing_append, List.cons_append, ← hheads, List.flatMap_map]
    refine missing_perm (List.Perm.cons _ ?_)
    -- for every sibling the links to its neighbours came first, the others later
    refine (List.flatMap_append_perm _ _ _).trans ?_
    rw [Node.linksBelow, Node.children, List.flatMap_assoc]
    simp only [Node.flatMap_links_nodes]
    exact .refl _

/-! ### The whole tree -/

theorem id_ne_zero_of_mem_below (d : Directory) :
    ∀ n ∈ d.tree.value.children.flatMap Node.nodes, n.id ≠ 0 := by
  intro n hn h0
  have hnodup := nodup_ids_tree d
  rw [Node.ids_eq, id_tree, List.nodup_cons, Node.idsBelow] at hnodup
  obtain ⟨c, hc, hn⟩ := List.mem_flatMap.mp hn
  exact hnodup.1 (List.mem_flatMap.mpr ⟨c, hc, h0 ▸ List.mem_map_of_mem hn⟩)

theorem flatMap_links_tree (d : Directory) :
    d.tree.value.nodes.flatMap Node.links = d.root.child :: d.tree.value.linksBelow := by
  have hrecord : d.tree.value.record = d.root := by
    rw [value_tree]
    exact (grow_grown d.size 0 d.root _).record_eq
  have hbelow : (d.tree.value.children.flatMap Node.nodes).flatMap Node.links =
      d.tree.value.linksBelow :=
    List.flatMap_congr fun n hn => by rw [Node.links, if_neg (id_ne_zero_of_mem_below d n hn)]
  rw [Node.nodes_eq, List.flatMap_cons, hbelow, Node.links, if_pos (id_tree d), hrecord,
    List.singleton_append]

/-- **Every dangling link is reported once.** The notices of building the tree are, up to their order,
one for each link that the root and the storages of the tree have to their children, and that the
nodes other than the root have to their neighbours, if the link is neither empty nor leads to a
record. There is no other notice. -/
theorem notices_tree_perm (d : Directory) :
    d.tree.notices.Perm
      (((d.tree.value.nodes.flatMap Node.links).filter (d.Dangling ·)).map
        (.recordOutside · d.size)) := by
  have h0 : 0 ∈ (Std.TreeSet.ofList [0] : Std.TreeSet Nat) := by simp
  rw [notices_tree, flatMap_links_tree, value_tree]
  exact grow_notices (d := d) d.size 0 d.root h0 (d.unmet_lt_size h0)

end Directory

end InstallerPackage
