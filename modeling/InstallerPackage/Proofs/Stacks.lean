import InstallerPackage.Proofs.Growth

/-!
# The stacks come to the same as the recursion

A tree of siblings is listed with a stack, families are found with a stack, and a walk goes through the
tree with a stack. Each of the three loops has the same invariant: what is on the stack is what is left
to do behind the thing in hand. So a loop that has, say, a link in hand comes sooner or later to the point
where everything that the recursion finds at this link is done, and nothing else has changed:

* `Directory.listFrom_siblings` for a tree of siblings, and `Directory.siblingsAt_run`;
* `Directory.attachFrom_grow` for a storage with everything below it. The families that it finds are
  those of the node that the recursion grows (`Node.families`), and these are put together to that node
  again (`Directory.foldl_families`), as no record is in two of them;
* `Node.walkFrom_node` for a node of a walk, and `Node.places_eq`.

`Directory.tree_eq` concludes that the whole tree, and all that is reported on the way, is what the
recursion says. The turns of a loop are counted along: the loops take two turns for a record that is
listed, and one for a family.
-/

namespace InstallerPackage

/-! ### The families of a node -/

namespace Node

mutual

/-- The families of a node that is searched for children, in the order that `Directory.assemble` goes
through them: those of its first child come first, and its own family is the last. -/
def families : Node → List Directory.Family
  | mk id _ children =>
    familiesBelow children ++ [⟨id, children.map fun n => (n.id, n.record)⟩]

/-- The families of the storages among some siblings. -/
def familiesBelow : List Node → List Directory.Family
  | [] => []
  | n :: rest => (if n.record.isStorage then n.families else []) ++ familiesBelow rest

end

mutual

theorem length_families_le : ∀ n : Node, n.families.length ≤ n.ids.length
  | mk id record children => by
    have h := length_familiesBelow_le children
    rw [families, ids_eq, List.length_append, List.length_singleton, List.length_cons]
    exact Nat.succ_le_succ h

theorem length_familiesBelow_le : ∀ l : List Node,
    (familiesBelow l).length ≤ (l.flatMap ids).length
  | [] => Nat.le_refl 0
  | n :: rest => by
    rw [familiesBelow, List.flatMap_cons, List.length_append, List.length_append]
    refine Nat.add_le_add ?_ (length_familiesBelow_le rest)
    split
    · exact length_families_le n
    · exact Nat.zero_le _

end

end Node

namespace Directory

variable {d : Directory} {levels turns link id : Nat} {met : Std.TreeSet Nat} {r record : Record}
  {stack : List (Nat × Record)} {found : Array (Nat × Record)} {noticed : Array Notice}
  {families : List Family}

/-! ### Listing a tree of siblings -/

/-- How the list of a tree of siblings goes on once a link leads to no new record. -/
def listRest (d : Directory) (turns : Nat) (stack : List (Nat × Record))
    (found : Array (Nat × Record)) (met : Std.TreeSet Nat) (noticed : Array Notice) :
    Noted (List (Nat × Record) × Std.TreeSet Nat) :=
  match stack with
  | [] => ⟨(found.toList, met), noticed.toList⟩
  | (id, record) :: stack =>
    d.listFrom turns record.right stack (found.push (id, record)) met noticed

theorem listFrom_succ_of_none (h : ((d.claim link).run met).value = (none, met)) :
    d.listFrom (turns + 1) link stack found met noticed =
      d.listRest turns stack found met (noticed ++ ((d.claim link).run met).notices) := by
  rw [listFrom, h]
  cases stack <;> rfl

theorem listFrom_succ_of_some (h : (d.claim link).run met = pure (some r, met.insert link)) :
    d.listFrom (turns + 1) link stack found met noticed =
      d.listFrom turns r.left ((link, r) :: stack) found (met.insert link) noticed := by
  rw [listFrom, h, Noted.value_pure, Noted.notices_pure, Array.appendList_nil]

/-- **The stack of a list is what comes behind.** A list that has a link in hand lists what the recursion
finds there, and goes on with its stack. -/
theorem listFrom_siblings {out : Noted (List (Nat × Record) × Std.TreeSet Nat)}
    (hout : (d.siblings levels link).run met = out) (h : d.unmet met < levels) :
    d.listFrom (turns + (2 * out.value.1.length + 1)) link stack found met noticed =
      d.listRest turns stack (found ++ out.value.1) out.value.2 (noticed ++ out.notices) := by
  -- one turn may claim a record or take one from the stack, so a list of n records takes 2n + 1 turns
  induction levels generalizing turns link stack found met noticed out with
  | zero => omega
  | succ levels ih =>
    subst hout
    rcases d.claim_cases link met with ⟨hnone, -⟩ | ⟨r, hsome, hlead, -, hmet⟩
    · rw [siblings_succ_of_none hnone, Array.appendList_nil]
      exact listFrom_succ_of_none hnone
    · rw [siblings_succ_of_some hsome]
      simp only [Noted.value_bind, Noted.notices_bind, Noted.value_pure, Noted.notices_pure,
        List.append_nil]
      -- the claimed record pays for the level, on the left and on the right
      have hlt := d.unmet_insert_lt hlead.2 hmet
      have hle := d.unmet_mono fun i hi =>
        (siblings_scanned (d := d) levels r.left (met.insert link)).1.subset hi
      generalize hbefore : (d.siblings levels r.left).run (met.insert link) = before at *
      generalize hafter : (d.siblings levels r.right).run before.value.2 = after
      -- the turns of both sides and of the record in between
      have hturns : turns + (2 * (before.value.1 ++ (link, r) :: after.value.1).length + 1) =
          turns + (2 * after.value.1.length + 1) + (2 * before.value.1.length + 1) + 1 := by
        rw [List.length_append, List.length_cons]
        omega
      -- when what is on the left is listed, the record is taken from the stack
      rw [hturns, listFrom_succ_of_some hsome, ih hbefore (by omega), listRest, ih hafter (by omega)]
      congr 1
      · exact Array.ext' (by simp)
      · exact Array.ext' (by simp)

/-- A scan that adds records leaves as many fewer to claim. -/
theorem length_add_unmet_le {met' : Std.TreeSet Nat} {ids : List Nat} (h : Scanned met ids met')
    (hlt : ∀ i ∈ ids, i < d.size) : ids.length + d.unmet met' ≤ d.unmet met := by
  -- what was added and what is still unmet are apart, and both are among the records
  have hcard : ids.toFinset.card = ids.length := List.toFinset_card_of_nodup h.nodup
  have hdisjoint : Disjoint ids.toFinset ((Finset.range d.size).filter (· ∉ met')) := by
    rw [Finset.disjoint_left]
    intro i hi hi'
    exact (Finset.mem_filter.mp hi').2 ((h.mem_iff i).mpr (.inr (List.mem_toFinset.mp hi)))
  rw [← hcard, unmet, unmet, ← Finset.card_union_of_disjoint hdisjoint]
  refine Finset.card_le_card fun i hi => ?_
  rw [Finset.mem_filter, Finset.mem_range]
  rcases Finset.mem_union.mp hi with hi | hi
  · have hids := List.mem_toFinset.mp hi
    exact ⟨hlt i hids, h.fresh i hids⟩
  · obtain ⟨hrange, hmet⟩ := Finset.mem_filter.mp hi
    exact ⟨Finset.mem_range.mp hrange, fun h' => hmet (h.subset h')⟩

theorem length_siblings_add_unmet_le (levels link : Nat) (met : Std.TreeSet Nat) :
    ((d.siblings levels link).run met).value.1.length +
      d.unmet ((d.siblings levels link).run met).value.2 ≤ d.unmet met := by
  obtain ⟨hscan, hrecords⟩ := siblings_scanned (d := d) levels link met
  have h := length_add_unmet_le (d := d) hscan fun i hi => by
    obtain ⟨p, hp, rfl⟩ := List.mem_map.mp hi
    exact (Array.getElem?_eq_some_iff.mp (hrecords p hp)).1
  rwa [List.length_map] at h

/-- With twice as many turns as there are records, or more, a tree of siblings is listed to its end. -/
theorem listFrom_of_le (h0 : 0 ∈ met) (hturns : 2 * d.size ≤ turns) :
    d.listFrom turns link [] #[] met #[] = (d.siblings d.size link).run met := by
  have hlt := d.unmet_lt_size h0
  have hle := length_siblings_add_unmet_le (d := d) d.size link met
  generalize hout : (d.siblings d.size link).run met = out at *
  obtain ⟨rest, rfl⟩ := Nat.exists_eq_add_of_le' (show 2 * out.value.1.length + 1 ≤ turns by omega)
  rw [listFrom_siblings hout hlt, listRest]
  apply Noted.ext
  · simp
  · simp

theorem siblingsAt_run (h0 : 0 ∈ met) (link : Nat) :
    (d.siblingsAt link).run met = (d.siblings d.size link).run met :=
  listFrom_of_le h0 (Nat.le_refl _)

/-! ### Finding the families -/

/-- **The stack of storages is what is left.** A loop with some siblings on its stack finds the families
that the recursion grows below them, and goes on with the rest of the stack. -/
theorem attachFrom_growAll
    (ih : ∀ {turns id record stack families met noticed out},
      (d.grow levels id record).run met = out → 0 ∈ met → d.unmet met < levels →
      d.attachFrom (turns + out.value.1.families.length) ((id, record) :: stack) families met noticed =
        d.attachFrom turns stack (out.value.1.families ++ families) out.value.2
          (noticed ++ out.notices))
    {siblings : List (Nat × Record)} {out : Noted (List Node × Std.TreeSet Nat)}
    (hout : (d.growAll levels siblings).run met = out) (h0 : 0 ∈ met) (h : d.unmet met < levels) :
    d.attachFrom (turns + (Node.familiesBelow out.value.1).length) (pushStorages siblings stack) families
        met noticed =
      d.attachFrom turns stack (Node.familiesBelow out.value.1 ++ families) out.value.2
        (noticed ++ out.notices) := by
  -- on the siblings in their order, while the recursion grows them from the last one
  induction siblings generalizing turns stack families out with
  | nil =>
    subst hout
    simp [growAll, Node.familiesBelow, pushStorages]
  | cons p rest ihr =>
    subst hout
    rw [growAll_cons]
    simp only [Noted.value_bind, Noted.notices_bind, Noted.value_pure, Noted.notices_pure,
      List.append_nil]
    have hall := (growAll_grown (d := d) levels rest met).scanned
    have hle := d.unmet_mono fun i hi => hall.subset hi
    generalize (d.growAll levels rest).run met = after at *
    have hrecord := (growOne_grown (d := d) (fun i r m => grow_grown levels i r m) p
      after.value.2).1.record_eq
    generalize hone : (d.growOne levels p).run after.value.2 = node at *
    rw [pushStorages, List.foldl_cons, ← pushStorages, Node.familiesBelow, hrecord]
    unfold growOne at hone
    -- a sibling that is a storage was pushed, any other one has nothing to put on the stack
    by_cases hstorage : p.2.isStorage
    · rw [if_pos hstorage] at hone
      rw [if_pos hstorage, if_pos hstorage, List.length_append, ← Nat.add_assoc]
      -- the later siblings are above this storage on the stack
      rw [ihr rfl, ih hone (hall.subset h0) (by omega), List.append_assoc]
      congr 1
      exact Array.ext' (by simp)
    · rw [if_neg hstorage] at hone
      subst hone
      rw [if_neg hstorage, if_neg hstorage, List.nil_append, ihr rfl]
      simp

/-- A loop with a storage on its stack finds the families of the node that the recursion grows. -/
theorem attachFrom_grow {out : Noted (Node × Std.TreeSet Nat)}
    (hout : (d.grow levels id record).run met = out) (h0 : 0 ∈ met) (h : d.unmet met < levels) :
    d.attachFrom (turns + out.value.1.families.length) ((id, record) :: stack) families met noticed =
      d.attachFrom turns stack (out.value.1.families ++ families) out.value.2
        (noticed ++ out.notices) := by
  -- on the levels, so that the storages below may be taken as done
  induction levels generalizing turns id record stack families met noticed out with
  | zero => omega
  | succ levels ih =>
    subst hout
    rw [grow_succ]
    simp only [Noted.value_bind, Noted.notices_bind, Noted.value_pure, Noted.notices_pure,
      List.append_nil]
    obtain ⟨hscan, -⟩ := siblings_scanned (d := d) d.size record.child met
    have hcount := length_siblings_add_unmet_le (d := d) d.size record.child met
    have hsiblings := siblingsAt_run (d := d) h0 record.child
    generalize hfound : (d.siblings d.size record.child).run met = found at *
    have hheads := (growAll_grown (d := d) levels found.value.1 found.value.2).heads
    generalize hchildren : (d.growAll levels found.value.1).run found.value.2 = below at *
    rw [Node.families, hheads, List.length_append, List.length_singleton, ← Nat.add_assoc, attachFrom,
      hsiblings]
    -- the loop has the family of the storage, and goes on with the storages in it
    have hbelow : d.attachFrom (turns + (Node.familiesBelow below.value.1).length)
        (pushStorages found.value.1 stack) (⟨id, found.value.1⟩ :: families) found.value.2
          (noticed ++ found.notices) =
        d.attachFrom turns stack (Node.familiesBelow below.value.1 ++ ⟨id, found.value.1⟩ :: families)
          below.value.2 (noticed ++ found.notices ++ below.notices) := by
      cases hf : found.value.1 with
      | nil =>
        rw [hf] at hchildren
        subst hchildren
        simp [growAll, Node.familiesBelow, pushStorages]
      | cons p rest =>
        -- a sibling was claimed, which pays for the level
        rw [hf, List.length_cons] at hcount
        rw [← hf]
        exact attachFrom_growAll ih hchildren (hscan.subset h0) (by omega)
    rw [hbelow, List.append_assoc, List.singleton_append]
    congr 1
    exact Array.ext' (by simp)

/-! ### Putting the families together -/

theorem getElem?_withFamily (below : Std.TreeMap Nat (List Node)) (f : Family) (i : Nat) :
    (withFamily below f)[i]? =
      if f.parent = i then some (f.children.map fun p => .mk p.1 p.2 (below.getD p.1 []))
      else below[i]? := by
  rw [withFamily, Std.TreeMap.getElem?_insert]
  simp only [Std.compare_eq_iff_eq]

/-- The families of a node have been put together on what was there: what is below the node is known,
and nothing is known of other nodes that was not known before. -/
structure PutTogether (n : Node) (below out : Std.TreeMap Nat (List Node)) : Prop where
  children : out[n.id]? = some n.children
  other : ∀ i ∉ n.ids, out[i]? = below[i]?

variable {below : Std.TreeMap Nat (List Node)}

/-- What is below some siblings is known once the families of the storages among them have been put
together: a sibling that is no storage has nothing below it. -/
theorem foldl_familiesBelow {l : List Node}
    (ih : ∀ n ∈ l, ∀ below : Std.TreeMap Nat (List Node), n.ids.Nodup →
      (∀ i ∈ n.ids, below[i]? = none) →
      (∀ m ∈ n.nodes, m.children ≠ [] → m.record.isStorage = true) →
      PutTogether n below (n.families.foldl withFamily below))
    (hnodup : (l.flatMap Node.ids).Nodup) (hfresh : ∀ i ∈ l.flatMap Node.ids, below[i]? = none)
    (hleaf : ∀ m ∈ l.flatMap Node.nodes, m.children ≠ [] → m.record.isStorage = true) :
    let out := (Node.familiesBelow l).foldl withFamily below
    (∀ n ∈ l, out.getD n.id [] = n.children) ∧ ∀ i ∉ l.flatMap Node.ids, out[i]? = below[i]? := by
  -- on the siblings, with what is known so far free
  induction l generalizing below with
  | nil => exact ⟨fun n hn => absurd hn List.not_mem_nil, fun i _ => rfl⟩
  | cons n rest ihr =>
    rw [List.flatMap_cons] at hnodup hfresh hleaf
    obtain ⟨hn, hrest, hdisjoint⟩ := List.nodup_append.mp hnodup
    have hid : n.id ∈ n.ids := by
      rw [Node.ids_eq]
      exact List.mem_cons_self ..
    rw [Node.familiesBelow, List.foldl_append]
    -- first the families of the first sibling, then those of the others
    have hfirst : ((if n.record.isStorage then n.families else []).foldl withFamily below).getD n.id []
          = n.children ∧
        ∀ i ∉ n.ids, ((if n.record.isStorage then n.families else []).foldl withFamily below)[i]? =
          below[i]? := by
      split
      · have h := ih n (List.mem_cons_self ..) below hn
          (fun i hi => hfresh i (List.mem_append_left _ hi))
          (fun m hm => hleaf m (List.mem_append_left _ hm))
        exact ⟨by rw [Std.TreeMap.getD_eq_getD_getElem?, h.children, Option.getD_some], h.other⟩
      · next hnot =>
        have hnil : n.children = [] := by
          by_contra hne
          refine hnot (hleaf n (List.mem_append_left _ ?_) hne)
          rw [Node.nodes_eq]
          exact List.mem_cons_self ..
        rw [List.foldl_nil, Std.TreeMap.getD_eq_getD_getElem?, hfresh _ (List.mem_append_left _ hid), hnil]
        exact ⟨rfl, fun _ _ => rfl⟩
    generalize (if n.record.isStorage then n.families else []).foldl withFamily below = mid at *
    -- no record is in two of the trees, so what follows leaves this sibling's children alone
    have hapart : ∀ i ∈ rest.flatMap Node.ids, i ∉ n.ids := fun i hi h => hdisjoint i h i hi rfl
    obtain ⟨hall, hother⟩ := ihr (fun m hm => ih m (List.mem_cons_of_mem n hm)) hrest
      (fun i hi => (hfirst.2 i (hapart i hi)).trans (hfresh i (List.mem_append_right _ hi)))
      (fun m hm => hleaf m (List.mem_append_right _ hm))
    refine ⟨fun m hm => ?_, fun i hi => ?_⟩
    · rcases List.mem_cons.mp hm with rfl | hm
      · rw [Std.TreeMap.getD_eq_getD_getElem?, hother _ fun h => hapart _ h hid,
          ← Std.TreeMap.getD_eq_getD_getElem?]
        exact hfirst.1
      · exact hall m hm
    · rw [List.flatMap_cons, List.mem_append, not_or] at hi
      exact (hother i hi.2).trans (hfirst.2 i hi.1)

/-- The families of a node are put together to that node, if no record is in two of them. -/
theorem foldl_families (n : Node) : ∀ below : Std.TreeMap Nat (List Node), n.ids.Nodup →
    (∀ i ∈ n.ids, below[i]? = none) →
    (∀ m ∈ n.children.flatMap Node.nodes, m.children ≠ [] → m.record.isStorage = true) →
    PutTogether n below (n.families.foldl withFamily below) := by
  -- on the tree; the family of a node is put in after those below it
  induction n using Node.children_induction with
  | h n ih =>
    intro below hnodup hfresh hleaf
    rw [Node.ids_eq] at hnodup hfresh
    obtain ⟨hid, hnodup⟩ := List.nodup_cons.mp hnodup
    have hbelow := foldl_familiesBelow
      (fun c hc below hn hf hl => ih c hc below hn hf fun m hm => hl m (by
        rw [Node.nodes_eq]
        exact List.mem_cons_of_mem c hm))
      hnodup (fun i hi => hfresh i (List.mem_cons_of_mem _ hi)) hleaf
    obtain ⟨id, record, children⟩ := n
    rw [Node.families, List.foldl_append, List.foldl_cons, List.foldl_nil]
    change (∀ c ∈ children, ((Node.familiesBelow children).foldl withFamily below).getD c.id [] =
      c.children) ∧ _ at hbelow
    obtain ⟨hchildren, hother⟩ := hbelow
    constructor
    · rw [getElem?_withFamily, if_pos (show id = (Node.mk id record children).id from rfl), List.map_map]
      refine congrArg some ((List.map_congr_left fun c hc => ?_).trans (List.map_id _))
      obtain ⟨i, r, l⟩ := c
      exact congrArg (Node.mk i r) (hchildren _ hc)
    · -- an id that is neither the node's nor below it
      intro i hi
      rw [Node.ids_eq, List.mem_cons, not_or] at hi
      rw [getElem?_withFamily, if_neg fun h => hi.1 h.symm]
      exact hother i hi.2

/-! ### The whole tree -/

theorem mem_start_iff (i : Nat) : i ∈ (Std.TreeSet.ofList [0] : Std.TreeSet Nat) ↔ i = 0 := by
  rw [Std.TreeSet.mem_ofList]
  simp

/-- With as many turns as there are records, or more, all families are found. -/
theorem attachFrom_of_le {out : Noted (Node × Std.TreeSet Nat)}
    (hout : (d.grow d.size 0 d.root).run (.ofList [0]) = out) (hturns : d.size ≤ turns) :
    d.attachFrom turns [(0, d.root)] [] (.ofList [0]) #[] = ⟨out.value.1.families, out.notices⟩ := by
  have h0 : 0 ∈ (Std.TreeSet.ofList [0] : Std.TreeSet Nat) := (mem_start_iff 0).mpr rfl
  have hlt := d.unmet_lt_size h0
  have hgrown := grow_grown (d := d) d.size 0 d.root (.ofList [0])
  rw [hout] at hgrown
  -- every family belongs to a record of its own
  have hids : out.value.1.ids.length ≤ d.size := by
    have hle := length_add_unmet_le (d := d) hgrown.scanned fun i hi => by
      obtain ⟨c, hc, hi⟩ := List.mem_flatMap.mp hi
      obtain ⟨n, hn, rfl⟩ := List.mem_map.mp hi
      exact (Array.getElem?_eq_some_iff.mp (hgrown.below n (List.mem_flatMap.mpr ⟨c, hc, hn⟩)).1).1
    rw [Node.ids_eq, List.length_cons]
    omega
  have hfamilies := Node.length_families_le out.value.1
  -- one turn for each family, and the turns that are left find an empty stack
  obtain ⟨rest, rfl⟩ :=
    Nat.exists_eq_add_of_le' (show out.value.1.families.length ≤ turns by omega)
  rw [attachFrom_grow hout h0 hlt, List.append_nil]
  cases rest <;> simp [attachFrom]

/-- **The tree is what the recursion grows**, and so are the notices. -/
theorem tree_eq (d : Directory) :
    d.tree = Prod.fst <$> (d.grow d.size 0 d.root).run (.ofList [0]) := by
  have h0 : 0 ∈ (Std.TreeSet.ofList [0] : Std.TreeSet Nat) := (mem_start_iff 0).mpr rfl
  have hgrown := grow_grown (d := d) d.size 0 d.root (.ofList [0])
  rw [tree, attachFrom_of_le rfl (Nat.le_refl _)]
  generalize (d.grow d.size 0 d.root).run (.ofList [0]) = out at *
  -- no record is in two families, which is what putting them together needs
  have hnodup : out.value.1.ids.Nodup := by
    rw [Node.ids_eq, hgrown.id_eq, List.nodup_cons]
    exact ⟨fun h => hgrown.scanned.fresh 0 h h0, hgrown.scanned.nodup⟩
  have hroot := (foldl_families out.value.1 ∅ hnodup (fun i _ => by simp)
    fun m hm => (hgrown.below m hm).2).children
  rw [hgrown.id_eq] at hroot
  have hbelow : (assemble out.value.1.families).getD 0 [] = out.value.1.children := by
    rw [assemble, Std.TreeMap.getD_eq_getD_getElem?, hroot, Option.getD_some]
  apply Noted.ext
  · change Node.mk 0 d.root ((assemble out.value.1.families).getD 0 []) = out.value.1
    rw [hbelow, ← hgrown.id_eq, ← hgrown.record_eq]
    cases out.value.1 with
    | mk i r children => rfl
  · rfl

theorem value_tree (d : Directory) :
    d.tree.value = ((d.grow d.size 0 d.root).run (.ofList [0])).value.1 := by
  rw [tree_eq]
  rfl

theorem notices_tree (d : Directory) :
    d.tree.notices = ((d.grow d.size 0 d.root).run (.ofList [0])).notices := by
  rw [tree_eq]
  exact List.append_nil _

end Directory

/-! ### Walking -/

namespace Node

mutual

/-- **The stack of a walk is what comes behind.** A walk with a node in hand comes to the node and to all
nodes below it, and goes on with its stack. -/
theorem walkFrom_node (above : List Name) : ∀ (n : Node) (stack : List (List Name × Node))
    (walked : Array Place),
    walkFrom ((above, n) :: stack) walked = walkFrom stack (walked ++ n.placesFrom above)
  | mk id record children, stack, walked => by
    rw [walkFrom, placesFrom, Array.appendList_cons]
    exact walkFrom_nodes (record.decoded :: above) children stack _

theorem walkFrom_nodes (above : List Name) : ∀ (l : List Node) (stack : List (List Name × Node))
    (walked : Array Place),
    walkFrom (l.map (above, ·) ++ stack) walked = walkFrom stack (walked ++ placesBelow above l)
  | [], stack, walked => by rw [placesBelow, Array.appendList_nil, List.map_nil, List.nil_append]
  | n :: rest, stack, walked => by
    rw [List.map_cons, List.cons_append, walkFrom_node above n, walkFrom_nodes above rest, placesBelow]
    congr 1
    exact Array.ext' (by simp)

end

theorem places_eq (root : Node) : root.places = placesBelow [] root.children := by
  have h := walkFrom_nodes [] root.children [] #[]
  rw [List.append_nil] at h
  rw [places, h, walkFrom]
  simp

end Node

end InstallerPackage
