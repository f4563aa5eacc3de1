import Mathlib.Data.Finset.Card
import InstallerPackage.Container.Tree

/-!
# The tree, told by recursion

The tree of storages is built and walked with stacks. What comes out is easier to tell by recursion: a
record between the siblings on its left and those on its right, a node with its children grown below it,
a node followed by what is below it.

* `Directory.siblings` lists a tree of siblings in order, `Directory.grow` attaches their children, the
  last sibling's first. Both have levels instead of stacks.
* `Node.placesFrom` walks a tree.
* `Scanned` is what every scan does to the set of claimed records: it adds the ones that it returns,
  which are new and different from each other.
* `Directory.unmet` counts the records that are still to be claimed. A scan with more levels than
  that is never cut short (`Directory.siblings_levels`, `Directory.grow_levels`).

That the stacks come to the same is shown elsewhere.
-/

namespace InstallerPackage

/-! ### The nodes of a tree -/

namespace Node

/-- What holds of a node whenever it holds of its children holds of every node. -/
@[elab_as_elim]
theorem children_induction {P : Node → Prop} (h : ∀ n, (∀ c ∈ n.children, P c) → P n) :
    ∀ n, P n
  | mk id record below => h (mk id record below) fun c (hc : c ∈ below) =>
    have : sizeOf c < sizeOf below := List.sizeOf_lt_of_mem hc
    children_induction h c

mutual

/-- A node that is reached from `above`, and all nodes below it. -/
def placesFrom (above : List Name) : Node → List Place
  | mk id record children =>
    ⟨record.decoded :: above, mk id record children⟩ ::
      placesBelow (record.decoded :: above) children

/-- The given siblings, each followed by all nodes below it. -/
def placesBelow (above : List Name) : List Node → List Place
  | [] => []
  | node :: rest => placesFrom above node ++ placesBelow above rest

end

/-- The nodes of a tree, its root included. -/
def nodes (n : Node) : List Node := (n.placesFrom []).map Place.node

/-- The records of a tree by position, its root included. -/
def ids (n : Node) : List Nat := n.nodes.map id

mutual

theorem map_node_placesFrom (above : List Name) :
    ∀ n : Node, (n.placesFrom above).map Place.node = n.nodes
  | mk id record children => by
    simp only [nodes, placesFrom, List.map_cons]
    rw [map_node_placesBelow, map_node_placesBelow]

theorem map_node_placesBelow (above : List Name) :
    ∀ l : List Node, (placesBelow above l).map Place.node = l.flatMap nodes
  | [] => rfl
  | n :: rest => by
    simp only [placesBelow, List.map_append, List.flatMap_cons]
    rw [map_node_placesFrom, map_node_placesBelow]

end

theorem nodes_mk (id : Nat) (record : Record) (children : List Node) :
    (mk id record children).nodes = mk id record children :: children.flatMap nodes := by
  simp only [nodes, placesFrom, List.map_cons]
  rw [map_node_placesBelow]

theorem nodes_eq (n : Node) : n.nodes = n :: n.children.flatMap nodes := by
  obtain ⟨id, record, below⟩ := n
  exact nodes_mk ..

/-- The records below a node. -/
def idsBelow (n : Node) : List Nat := n.children.flatMap ids

theorem ids_eq (n : Node) : n.ids = n.id :: n.idsBelow := by
  obtain ⟨i, record, below⟩ := n
  simp only [ids, nodes_mk, idsBelow, children, id, List.map_cons, List.map_flatMap]
  rfl

end Node

/-! ### What a scan adds -/

/-- A scan that began with the claimed records `met` and ended with `met'` claimed `ids`: they are
new, different from each other, and nothing else was claimed. -/
structure Scanned (met : Std.TreeSet Nat) (ids : List Nat) (met' : Std.TreeSet Nat) : Prop where
  fresh : ∀ i ∈ ids, i ∉ met
  nodup : ids.Nodup
  mem_iff : ∀ i, i ∈ met' ↔ i ∈ met ∨ i ∈ ids

namespace Scanned

variable {met met₁ met₂ : Std.TreeSet Nat} {ids more : List Nat}

theorem nil : Scanned met [] met := ⟨by simp, List.nodup_nil, by simp⟩

theorem insert {i : Nat} (h : i ∉ met) : Scanned met [i] (met.insert i) where
  fresh := by simpa using h
  nodup := List.nodup_singleton i
  mem_iff j := by
    simp only [Std.TreeSet.mem_insert, Std.compare_eq_iff_eq, List.mem_singleton]
    rw [or_comm, eq_comm]

/-- Scans follow each other. -/
theorem append (h : Scanned met ids met₁) (h' : Scanned met₁ more met₂) :
    Scanned met (ids ++ more) met₂ where
  fresh i hi := by
    rcases List.mem_append.mp hi with hi | hi
    · exact h.fresh i hi
    · exact fun hmet => h'.fresh i hi ((h.mem_iff i).mpr (Or.inl hmet))
  nodup := by
    refine List.nodup_append.mpr ⟨h.nodup, h'.nodup, ?_⟩
    rintro i hi _ hj rfl
    exact h'.fresh i hj ((h.mem_iff i).mpr (Or.inr hi))
  mem_iff i := by rw [h'.mem_iff, h.mem_iff, List.mem_append, or_assoc]

/-- The order in which records were claimed is of no account. -/
theorem perm (h : Scanned met ids met₁) (hp : ids.Perm more) : Scanned met more met₁ where
  fresh i hi := h.fresh i (hp.mem_iff.mpr hi)
  nodup := hp.nodup_iff.mp h.nodup
  mem_iff i := by rw [h.mem_iff, hp.mem_iff]

theorem subset (h : Scanned met ids met₁) {i : Nat} (hi : i ∈ met) : i ∈ met₁ :=
  (h.mem_iff i).mpr (Or.inl hi)

end Scanned

namespace Directory

variable (d : Directory)

/-! ### One claim -/

/-- Does a link lead to a record? -/
def Leads (link : Nat) : Prop := link ≠ freeSector ∧ link < d.size

theorem claim_run (link : Nat) (met : Std.TreeSet Nat) :
    (d.claim link).run met =
      (if link = freeSector then pure (none, met)
      else match d.records[link]? with
        | none => ⟨(none, met), [.recordOutside link d.size]⟩
        | some record =>
          if met.contains link then pure (none, met) else pure (some record, met.insert link) : Noted _) := rfl

/-- A link either leads nowhere new, or its record is claimed. -/
theorem claim_cases (link : Nat) (met : Std.TreeSet Nat) :
    (((d.claim link).run met).value = (none, met) ∧ (d.Leads link → link ∈ met)) ∨
      ∃ r, (d.claim link).run met = pure (some r, met.insert link) ∧
        d.Leads link ∧ d.records[link]? = some r ∧ link ∉ met := by
  -- what can stop a claim, in the order of the tests: the end of a chain, no such record, a record met
  rw [claim_run]
  by_cases hfree : link = freeSector
  · left
    exact ⟨by simp [hfree], fun h => absurd hfree h.1⟩
  rw [if_neg hfree]
  cases hr : d.records[link]? with
  | none =>
    left
    refine ⟨rfl, fun h => ?_⟩
    have : d.size ≤ link := Array.getElem?_eq_none_iff.mp hr
    exact absurd h.2 (by omega)
  | some r =>
    by_cases hmet : link ∈ met
    · left
      refine ⟨?_, fun _ => hmet⟩
      simp [Std.TreeSet.contains_iff_mem.mpr hmet]
    · right
      have hlt : link < d.size := (Array.getElem?_eq_some_iff.mp hr).1
      refine ⟨r, ?_, ⟨hfree, hlt⟩, rfl, hmet⟩
      have hnot : met.contains link = false := by
        rw [← Bool.not_eq_true, Std.TreeSet.contains_iff_mem]
        exact hmet
      simp [hnot]

/-! ### The levels suffice -/

/-- The number of records that have not been claimed. -/
def unmet (met : Std.TreeSet Nat) : Nat := ((Finset.range d.size).filter (· ∉ met)).card

theorem unmet_mono {met met' : Std.TreeSet Nat} (h : ∀ i ∈ met, i ∈ met') :
    d.unmet met' ≤ d.unmet met := by
  refine Finset.card_le_card fun i hi => ?_
  simp only [Finset.mem_filter] at hi ⊢
  exact ⟨hi.1, fun hmet => hi.2 (h i hmet)⟩

theorem unmet_insert_lt {met : Std.TreeSet Nat} {i : Nat} (hi : i < d.size) (hmet : i ∉ met) :
    d.unmet (met.insert i) < d.unmet met := by
  refine Finset.card_lt_card ⟨fun j hj => ?_, fun hsub => ?_⟩
  · simp only [Finset.mem_filter, Std.TreeSet.mem_insert, not_or] at hj ⊢
    exact ⟨hj.1, hj.2.2⟩
  · have := hsub (Finset.mem_filter.mpr ⟨Finset.mem_range.mpr hi, hmet⟩)
    simp at this

theorem unmet_lt_of_scanned {met met' : Std.TreeSet Nat} {ids : List Nat}
    (h : Scanned met ids met') {i : Nat} (hi : i ∈ ids) (hlt : i < d.size) :
    d.unmet met' < d.unmet met := by
  refine lt_of_le_of_lt (d.unmet_mono fun j hj => ?_) (d.unmet_insert_lt hlt (h.fresh i hi))
  rcases ((Scanned.insert (h.fresh i hi)).mem_iff j).mp hj with hj | hj
  · exact h.subset hj
  · rw [List.mem_singleton.mp hj]
    exact (h.mem_iff i).mpr (Or.inr hi)

/-- The root is claimed from the start, so there are always more levels than records left. -/
theorem unmet_lt_size {met : Std.TreeSet Nat} (h : 0 ∈ met) : d.unmet met < d.size := by
  calc d.unmet met < (Finset.range d.size).card :=
        Finset.card_lt_card (Finset.filter_ssubset.mpr
          ⟨0, Finset.mem_range.mpr d.size_pos, fun hmet => hmet h⟩)
    _ = d.size := Finset.card_range d.size

/-! ### Scans of siblings -/

/-- The siblings that can be reached from a link: those on the left, the record itself, those on the
right. Every level of the recursion claims a record, so as many levels as there are records are
enough. -/
def siblings : (levels : Nat) → (link : Nat) → Scan (List (Nat × Record))
  | 0, _ => pure []
  | levels + 1, link => do
    match ← d.claim link with
    | none => pure []
    | some record =>
      -- the record is claimed before its neighbours, so a cycle ends here
      let before ← siblings levels record.left
      let after ← siblings levels record.right
      pure (before ++ (link, record) :: after)

variable {d} {levels link : Nat} {met : Std.TreeSet Nat} {r : Record}

theorem siblings_succ_of_none (h : ((d.claim link).run met).value = (none, met)) :
    (d.siblings (levels + 1) link).run met = ⟨([], met), ((d.claim link).run met).notices⟩ := by
  apply Noted.ext
  · simp only [siblings, StateT.run_bind, Noted.value_bind, h]
    rfl
  · simp only [siblings, StateT.run_bind, Noted.notices_bind, h]
    exact List.append_nil _

theorem siblings_succ_of_some
    (h : (d.claim link).run met = pure (some r, met.insert link)) :
    (d.siblings (levels + 1) link).run met =
      (do
        let before ← (d.siblings levels r.left).run (met.insert link)
        let after ← (d.siblings levels r.right).run before.2
        pure (before.1 ++ (link, r) :: after.1, after.2)) := by
  rw [siblings, StateT.run_bind, h]
  rfl

/-- The siblings that a scan finds are the records that it claims. -/
theorem siblings_scanned (levels link : Nat) (met : Std.TreeSet Nat) :
    let out := ((d.siblings levels link).run met).value
    Scanned met (out.1.map Prod.fst) out.2 ∧ ∀ p ∈ out.1, d.records[p.1]? = some p.2 := by
  -- on the levels, with the link and the claimed records free, since both subtrees are scanned with
  -- others
  induction levels generalizing link met with
  | zero => exact ⟨.nil, by simp [siblings]⟩
  | succ levels ih =>
    rcases d.claim_cases link met with ⟨h, -⟩ | ⟨r, h, -, hr, hmet⟩
    · rw [siblings_succ_of_none h]
      exact ⟨.nil, by simp⟩
    · rw [siblings_succ_of_some h]
      simp only [Noted.value_bind, Noted.value_pure]
      obtain ⟨hb, hbr⟩ := ih r.left (met.insert link)
      obtain ⟨ha, har⟩ := ih r.right ((d.siblings levels r.left).run (met.insert link)).value.2
      constructor
      · -- the record was claimed first, but stands between its neighbours
        refine (((Scanned.insert hmet).append hb).append ha).perm ?_
        simp only [List.map_append, List.map_cons, List.cons_append]
        exact List.perm_middle.symm
      · intro p hp
        rcases List.mem_append.mp hp with hp | hp
        · exact hbr p hp
        · rcases List.mem_cons.mp hp with rfl | hp
          · exact hr
          · exact har p hp

/-- A scan with more levels than there are records left is not cut short: no level is missed. -/
theorem siblings_levels {levels' : Nat} (link : Nat) (h : d.unmet met < levels) (h' : d.unmet met < levels') :
    (d.siblings levels link).run met = (d.siblings levels' link).run met := by
  induction levels generalizing levels' link met with
  | zero => omega
  | succ levels ih =>
    obtain ⟨levels', rfl⟩ : ∃ n, levels' = n + 1 := ⟨levels' - 1, by omega⟩
    rcases d.claim_cases link met with ⟨hc, -⟩ | ⟨r, hc, hlead, -, hmet⟩
    · rw [siblings_succ_of_none hc, siblings_succ_of_none hc]
    · rw [siblings_succ_of_some hc, siblings_succ_of_some hc]
      -- both subtrees start with one record less that is left
      have hlt := d.unmet_insert_lt hlead.2 hmet
      -- and the left subtree only claims more, so the right one starts with no more than that
      have hle := d.unmet_mono fun i hi =>
        (siblings_scanned (d := d) levels' r.left (met.insert link)).1.subset hi
      rw [ih r.left (by omega) (show _ < levels' by omega)]
      apply Noted.ext
      · simp only [Noted.value_bind, Noted.value_pure]
        rw [ih r.right (by omega) (show _ < levels' by omega)]
      · simp only [Noted.notices_bind, Noted.notices_pure]
        rw [ih r.right (by omega) (show _ < levels' by omega)]

/-- A scan with more levels than there are records left follows every link. -/
theorem siblings_complete (levels link : Nat) (met : Std.TreeSet Nat) (h : d.unmet met < levels) :
    let out := ((d.siblings levels link).run met).value
    (d.Leads link → link ∈ out.2) ∧
      ∀ p ∈ out.1, (d.Leads p.2.left → p.2.left ∈ out.2) ∧
        (d.Leads p.2.right → p.2.right ∈ out.2) := by
  -- the count of what is left falls with the levels, so the scan never ends for want of a level
  induction levels generalizing link met with
  | zero => omega
  | succ levels ih =>
    rcases d.claim_cases link met with ⟨hc, hlink⟩ | ⟨r, hc, hlead, -, hmet⟩
    · rw [siblings_succ_of_none hc]
      exact ⟨hlink, by simp⟩
    · rw [siblings_succ_of_some hc]
      simp only [Noted.value_bind, Noted.value_pure]
      have hlt := d.unmet_insert_lt hlead.2 hmet
      have hb := (siblings_scanned (d := d) levels r.left (met.insert link)).1
      have hle := d.unmet_mono fun i hi => hb.subset hi
      obtain ⟨hleft, hbefore⟩ := ih r.left (met.insert link) (by omega)
      generalize ((d.siblings levels r.left).run (met.insert link)).value = before at *
      -- two scans follow one another: what the first claims is met in the second
      have ha := (siblings_scanned (d := d) levels r.right before.2).1
      obtain ⟨hright, hafter⟩ := ih r.right before.2 (by omega)
      generalize ((d.siblings levels r.right).run before.2).value = after at *
      refine ⟨fun _ => ha.subset (hb.subset (Std.TreeSet.mem_insert_self)), fun p hp => ?_⟩
      rcases List.mem_append.mp hp with hp | hp
      · -- what was claimed on the left is still claimed after the right
        exact ⟨fun hl => ha.subset ((hbefore p hp).1 hl),
          fun hl => ha.subset ((hbefore p hp).2 hl)⟩
      · rcases List.mem_cons.mp hp with rfl | hp
        · exact ⟨fun hl => ha.subset (hleft hl), hright⟩
        · exact hafter p hp

/-! ### Growing the tree -/

/-- The node of a record with everything below it. The children's own children are attached from the
last child to the first. -/
def grow (d : Directory) : (levels : Nat) → (id : Nat) → Record → Scan Node
  | 0, id, record => pure (.mk id record [])
  | levels + 1, id, record => do
    let found ← d.siblings d.size record.child
    let children ← found.foldr
      (fun (id, record) later => do
        -- the siblings that come later are grown first
        let after ← later
        let node ← if record.isStorage then grow d levels id record else pure (.mk id record [])
        pure (node :: after))
      (pure [])
    pure (.mk id record children)

/-- The nodes of siblings, the later ones grown first. -/
def growAll (d : Directory) (levels : Nat) (found : List (Nat × Record)) : Scan (List Node) :=
  found.foldr
    (fun (id, record) later => do
      let after ← later
      let node ← if record.isStorage then grow d levels id record else pure (.mk id record [])
      pure (node :: after))
    (pure [])

theorem grow_succ (levels id : Nat) (record : Record) (met : Std.TreeSet Nat) :
    (d.grow (levels + 1) id record).run met =
      (do
        let found ← (d.siblings d.size record.child).run met
        let children ← (d.growAll levels found.1).run found.2
        pure (.mk id record children.1, children.2)) := rfl

/-- The node of a sibling: only below a storage is there more to grow. -/
def growOne (d : Directory) (levels : Nat) (p : Nat × Record) : Scan Node :=
  if p.2.isStorage then d.grow levels p.1 p.2 else pure (.mk p.1 p.2 [])

theorem growAll_cons (levels : Nat) (p : Nat × Record) (found : List (Nat × Record))
    (met : Std.TreeSet Nat) :
    (d.growAll levels (p :: found)).run met =
      (do
        let after ← (d.growAll levels found).run met
        let node ← (d.growOne levels p).run after.2
        pure (node.1 :: after.1, node.2)) := by
  rw [growAll, List.foldr_cons, StateT.run_bind]
  refine bind_congr fun after => ?_
  unfold growOne
  dsimp only
  split <;> rfl

/-- Only storages have children, and a node has the record of its position. -/
def Fits (d : Directory) (n : Node) : Prop :=
  d.records[n.id]? = some n.record ∧ (n.children ≠ [] → n.record.isStorage)

/-- What growing the node of a record comes to. -/
structure Grown (d : Directory) (met : Std.TreeSet Nat) (id : Nat) (record : Record)
    (out : Node × Std.TreeSet Nat) : Prop where
  id_eq : out.1.id = id
  record_eq : out.1.record = record
  scanned : Scanned met out.1.idsBelow out.2
  below : ∀ n ∈ out.1.children.flatMap Node.nodes, d.Fits n

theorem Grown.leaf (id : Nat) (record : Record) : d.Grown met id record (.mk id record [], met) :=
  ⟨rfl, rfl, .nil, by simp [Node.children]⟩

/-- What growing the nodes of siblings comes to. -/
structure GrownAll (d : Directory) (met : Std.TreeSet Nat) (found : List (Nat × Record))
    (out : List Node × Std.TreeSet Nat) : Prop where
  heads : out.1.map (fun n => (n.id, n.record)) = found
  scanned : Scanned met (out.1.flatMap Node.idsBelow) out.2
  storage : ∀ n ∈ out.1, n.children ≠ [] → n.record.isStorage
  below : ∀ n ∈ out.1, ∀ m ∈ n.children.flatMap Node.nodes, d.Fits m

theorem growOne_grown {levels : Nat}
    (ih : ∀ id record met, d.Grown met id record ((d.grow levels id record).run met).value)
    (p : Nat × Record) (met : Std.TreeSet Nat) :
    d.Grown met p.1 p.2 ((d.growOne levels p).run met).value ∧
      (((d.growOne levels p).run met).value.1.children ≠ [] → p.2.isStorage) := by
  unfold growOne
  split
  · exact ⟨ih p.1 p.2 met, fun _ => ‹_›⟩
  · exact ⟨.leaf p.1 p.2, fun h => absurd rfl h⟩

theorem growAll_grown_of {levels : Nat}
    (ih : ∀ id record met, d.Grown met id record ((d.grow levels id record).run met).value)
    (found : List (Nat × Record)) (met : Std.TreeSet Nat) :
    d.GrownAll met found ((d.growAll levels found).run met).value := by
  -- on the siblings, from the last one: what is claimed behind a sibling is claimed before its own
  -- tree
  induction found with
  | nil => exact ⟨rfl, .nil, by simp [growAll], by simp [growAll]⟩
  | cons p found ihf =>
    rw [growAll_cons]
    simp only [Noted.value_bind, Noted.value_pure]
    generalize ((d.growAll levels found).run met).value = after at *
    obtain ⟨hnode, hstorage⟩ := growOne_grown ih p after.2
    generalize ((d.growOne levels p).run after.2).value = node at *
    refine ⟨?_, ?_, ?_, ?_⟩
    · rw [List.map_cons, ihf.heads, hnode.id_eq, hnode.record_eq]
    · refine (ihf.scanned.append hnode.scanned).perm ?_
      rw [List.flatMap_cons]
      exact List.perm_append_comm
    · intro n hn
      rcases List.mem_cons.mp hn with rfl | hn
      · rw [hnode.record_eq]
        exact hstorage
      · exact ihf.storage n hn
    · intro n hn
      rcases List.mem_cons.mp hn with rfl | hn
      · exact hnode.below
      · exact ihf.below n hn

theorem grow_grown (levels id : Nat) (record : Record) (met : Std.TreeSet Nat) :
    d.Grown met id record ((d.grow levels id record).run met).value := by
  -- the recursion goes through a fold over siblings, so the list's lemma takes the hypothesis as its
  -- own
  induction levels generalizing id record met with
  | zero => exact .leaf id record
  | succ levels ih =>
    rw [grow_succ]
    simp only [Noted.value_bind, Noted.value_pure]
    obtain ⟨hfound, hrecords⟩ := siblings_scanned (d := d) d.size record.child met
    generalize ((d.siblings d.size record.child).run met).value = found at *
    have hall := growAll_grown_of ih found.1 found.2
    generalize ((d.growAll levels found.1).run found.2).value = out at *
    refine ⟨rfl, rfl, ?_, ?_⟩
    · -- first all siblings were claimed, then what is below them
      refine (hfound.append hall.scanned).perm ?_
      have hids : found.1.map Prod.fst = out.1.map Node.id := by
        rw [← hall.heads, List.map_map]
        rfl
      rw [hids, Node.idsBelow, Node.children]
      refine (List.map_append_flatMap_perm out.1 Node.id Node.idsBelow).trans ?_
      rw [funext Node.ids_eq]
    · -- a node below is a child itself or further down; either way its record is the one at its id
      intro n hn
      obtain ⟨c, hc, hn⟩ := List.mem_flatMap.mp hn
      have hhead : (c.id, c.record) ∈ found.1 := by
        rw [← hall.heads]
        exact List.mem_map_of_mem hc
      have hfits : d.Fits c := ⟨hrecords _ hhead, hall.storage c hc⟩
      obtain ⟨i, r, below⟩ := c
      rw [Node.nodes_mk] at hn
      rcases List.mem_cons.mp hn with rfl | hn
      · exact hfits
      · exact hall.below _ hc n hn

theorem growAll_grown (levels : Nat) (found : List (Nat × Record)) (met : Std.TreeSet Nat) :
    d.GrownAll met found ((d.growAll levels found).run met).value :=
  growAll_grown_of (grow_grown levels) found met

/-! ### The levels of a tree suffice -/

theorem growAll_levels {levels levels' : Nat}
    (ih : ∀ id record met, 0 ∈ met → d.unmet met < levels → d.unmet met < levels' →
      (d.grow levels id record).run met = (d.grow levels' id record).run met)
    (found : List (Nat × Record)) (h0 : 0 ∈ met) (h : d.unmet met < levels)
    (h' : d.unmet met < levels') :
    (d.growAll levels found).run met = (d.growAll levels' found).run met := by
  -- on the siblings: none of them starts with more records left than the list did
  induction found with
  | nil => rfl
  | cons p found ihf =>
    rw [growAll_cons, growAll_cons, ← ihf]
    have hall := (growAll_grown (d := d) levels found met).scanned
    have hle := d.unmet_mono fun i hi => hall.subset hi
    -- a record that is no storage grows no further, whatever the levels
    have hone : (d.growOne levels p).run ((d.growAll levels found).run met).value.2
        = (d.growOne levels' p).run ((d.growAll levels found).run met).value.2 := by
      unfold growOne
      split
      · exact ih p.1 p.2 _ (hall.subset h0) (by omega) (by omega)
      · rfl
    apply Noted.ext
    · simp only [Noted.value_bind, Noted.value_pure, hone]
    · simp only [Noted.notices_bind, Noted.notices_pure, hone]

/-- Growing with more levels than there are records left is not cut short: no level is missed. -/
theorem grow_levels {levels levels' id : Nat} {record : Record} (h0 : 0 ∈ met)
    (h : d.unmet met < levels) (h' : d.unmet met < levels') :
    (d.grow levels id record).run met = (d.grow levels' id record).run met := by
  induction levels generalizing levels' id record met with
  | zero => omega
  | succ levels ih =>
    obtain ⟨levels', rfl⟩ : ∃ n, levels' = n + 1 := ⟨levels' - 1, by omega⟩
    rw [grow_succ, grow_succ]
    obtain ⟨hfound, hrecords⟩ := siblings_scanned (d := d) d.size record.child met
    have hall : (d.growAll levels ((d.siblings d.size record.child).run met).value.1).run
          ((d.siblings d.size record.child).run met).value.2
        = (d.growAll levels' ((d.siblings d.size record.child).run met).value.1).run
          ((d.siblings d.size record.child).run met).value.2 := by
      -- without siblings there is nothing to grow, and no record that pays for the level
      generalize ((d.siblings d.size record.child).run met).value = found at *
      cases hf : found.1 with
      | nil => rfl
      | cons p rest =>
        -- a record was claimed, so one level less is enough for what is left
        have hp : p ∈ found.1 := by simp [hf]
        have hlt : p.1 < d.size := (Array.getElem?_eq_some_iff.mp (hrecords p hp)).1
        have := d.unmet_lt_of_scanned hfound (List.mem_map_of_mem hp) hlt
        exact growAll_levels (fun i r m h0 h h' => ih h0 h h') _ (hfound.subset h0)
          (by omega) (by omega)
    apply Noted.ext
    · simp only [Noted.value_bind, Noted.value_pure, hall]
    · simp only [Noted.notices_bind, Noted.notices_pure, hall]

end Directory

end InstallerPackage
