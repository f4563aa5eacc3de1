import Mathlib.Data.List.Flatten
import InstallerPackage.Proofs.Paths
import InstallerPackage.Proofs.SiblingOrder

/-!
# Walking the tree and looking up paths

`Node.places` lists the nodes of a tree with their paths, `Node.find?` goes down a path. The two agree:
`Directory.walk_agrees_with_find`.

* `Node.Leads` is the way from a node down the names of children, and says nothing of a traversal.
* `Node.Precedes` is the order of a walk, told by the shape of the tree alone: a node comes before
  what is below it, and what is below one sibling before what is below a later one.
* `Node.sublist_places_iff` says that the places come in that order. With `Node.mem_places_iff` and the
  records being distinct, this determines the walk.
* `Node.descend_eq_some_iff` says that steps and ways are the same where siblings have distinct names.
-/

namespace InstallerPackage

/-! ### Paths as joined names -/

namespace Name

theorem parts_eq_splitOn (path : Name) : path.parts = path.splitOn slash := by
  induction path with
  | nil => rfl
  | cons c rest ih =>
    rw [parts, List.splitOn_cons_eq_if_modifyHead, ih]
    by_cases hc : c = slash
    · rw [if_pos hc, if_pos (beq_iff_eq.mpr hc)]
    · rw [if_neg hc, if_neg (by simpa using hc)]
      cases hrest : rest.splitOn slash with
      | nil => exact absurd (ih.trans hrest) (parts_ne_nil rest)
      | cons part more => rfl

/-- The steps of a path are the parts between its slashes that are not empty. -/
theorem steps_eq_splitOn (path : Name) : path.steps = (path.splitOn slash).filter (· ≠ []) := by
  rw [steps, parts_eq_splitOn]

theorem mem_steps {path name : Name} (h : name ∈ path.steps) : name ≠ [] ∧ slash ∉ name := by
  obtain ⟨hpart, hne⟩ := List.mem_filter.mp h
  exact ⟨by simpa using hne, slash_not_mem_of_mem_parts hpart⟩

theorem foldl_join_eq_intercalate {names : List Name} {path : Name} (hpath : path ≠ []) :
    names.foldl join path = [slash].intercalate (path :: names) := by
  induction names generalizing path with
  | nil => simp
  | cons name names ih =>
    have hjoin : join path name ≠ [] := by simp [join, hpath]
    rw [List.foldl_cons, ih hjoin, List.intercalate_cons_cons, join, if_neg hpath]
    -- the joined path stands for its two ends in front of the other names
    cases names with
    | nil => simp
    | cons next names => simp [List.intercalate_cons_cons]

/-- Names that are not empty are joined with one slash between neighbours. -/
theorem joinAll_eq_intercalate {names : List Name} (h : ∀ name ∈ names, name ≠ []) :
    joinAll names = [slash].intercalate names := by
  cases names with
  | nil => rfl
  | cons name names =>
    rw [joinAll, List.foldl_cons, join, if_pos rfl]
    exact foldl_join_eq_intercalate (h name (List.mem_cons_self ..))

end Name

namespace Node

/-! ### Ways down the tree -/

/-- Going down from a node by the names of children leads to another node. -/
inductive Leads (root : Node) : (names : List Name) → (n : Node) → Prop
  | here : Leads root [] root
  | step {names : List Name} {n c : Node} (h : Leads root names n) (hc : c ∈ n.children) :
    Leads root (names ++ [c.name]) c

/-- `n` is `root` or lies below it. -/
def Within (root n : Node) : Prop := ∃ names, root.Leads names n

/-- `n` lies below `root`. -/
def Below (root n : Node) : Prop := ∃ c ∈ root.children, c.Within n

/-- `a` comes before `b` in a walk through the tree below `root`: `b` lies below `a`, or they lie within
two siblings, `a` within the earlier one. -/
def Precedes (root a b : Node) : Prop :=
  (root.Below a ∧ a.Below b) ∨
    ∃ n, root.Within n ∧ ∃ c c', [c, c'].Sublist n.children ∧ c.Within a ∧ c'.Within b

variable {root n c a b : Node} {names : List Name} {p : Place}

theorem within_self (n : Node) : n.Within n := ⟨[], .here⟩

theorem Within.of_mem_children (hc : c ∈ root.children) (h : c.Within n) : root.Within n := by
  obtain ⟨names, h⟩ := h
  induction h with
  | here => exact ⟨_, Leads.here.step hc⟩
  | step _ hc ih =>
    obtain ⟨names, h⟩ := ih
    exact ⟨_, h.step hc⟩

theorem Below.within (h : root.Below n) : root.Within n := by
  obtain ⟨c, hc, h⟩ := h
  exact h.of_mem_children hc

/-- The nodes of a tree are those within its root. -/
theorem mem_nodes_iff : n ∈ root.nodes ↔ root.Within n := by
  constructor
  -- one direction is on the tree, the other on the way that leads to the node
  · intro hn
    induction root using children_induction with
    | h root ih =>
      rw [nodes_eq, List.mem_cons] at hn
      rcases hn with rfl | hn
      · exact within_self _
      · obtain ⟨c, hc, hn⟩ := List.mem_flatMap.mp hn
        exact (ih c hc hn).of_mem_children hc
  · rintro ⟨names, h⟩
    induction h with
    | here => exact mem_nodes_self root
    | step _ hc ih => exact mem_nodes_of_mem_children ih hc

theorem map_node_places (root : Node) :
    root.places.map Place.node = root.children.flatMap nodes := by
  rw [places_eq, map_node_placesBelow]

/-- The walk comes to what is below the root. -/
theorem mem_places_iff : n ∈ root.places.map Place.node ↔ root.Below n := by
  rw [map_node_places, List.mem_flatMap]
  exact exists_congr fun c => and_congr_right fun _ => mem_nodes_iff

/-- The records of a walk are those below the root. -/
theorem map_id_places (root : Node) : root.places.map (·.node.id) = root.idsBelow := by
  have hmap : root.places.map (·.node.id) = (root.places.map Place.node).map id := by
    rw [List.map_map]
    rfl
  rw [hmap, map_node_places, List.map_flatMap]
  rfl

/-! ### The order of a walk -/

theorem nodes_sublist (hc : c ∈ root.children) : c.nodes.Sublist (root.children.flatMap nodes) := by
  have h := (List.singleton_sublist.mpr hc).flatMap nodes
  rwa [List.flatMap_singleton] at h

/-- What is within a node stands together in the nodes of the tree, in the same order. -/
theorem Within.sublist (h : root.Within n) : n.nodes.Sublist root.nodes := by
  obtain ⟨names, h⟩ := h
  induction h with
  | here => exact List.Sublist.refl _
  | @step names n c h hc ih =>
    refine (nodes_sublist hc).trans (List.Sublist.trans ?_ ih)
    rw [nodes_eq n]
    exact List.sublist_cons_self ..

/-- The same for what is below them. -/
theorem Within.sublist_below (h : root.Within n) :
    (n.children.flatMap nodes).Sublist (root.children.flatMap nodes) := by
  have hsub := h.sublist
  rw [nodes_eq n, nodes_eq root] at hsub
  exact hsub.tail

theorem Precedes.sublist (h : root.Precedes a b) :
    [a, b].Sublist (root.children.flatMap nodes) := by
  -- either `a` is above `b`, or they are below two siblings of which the first holds `a`
  rcases h with ⟨⟨c, hc, ha⟩, c', hc', hb⟩ | ⟨n, hn, c, c', hcc', ha, hb⟩
  · -- `b` is among the nodes of `a`, behind `a` itself
    refine List.Sublist.trans ?_ (ha.sublist.trans (nodes_sublist hc))
    rw [nodes_eq a]
    refine List.cons_sublist_cons.mpr (List.singleton_sublist.mpr ?_)
    exact List.mem_flatMap.mpr ⟨c', hc', mem_nodes_iff.mpr hb⟩
  · refine List.Sublist.trans ?_ hn.sublist_below
    refine List.Sublist.trans ?_ (hcc'.flatMap nodes)
    rw [List.flatMap_cons, List.flatMap_singleton, ← List.singleton_append]
    exact (List.singleton_sublist.mpr (mem_nodes_iff.mpr ha)).append
      (List.singleton_sublist.mpr (mem_nodes_iff.mpr hb))

/-- Two nodes of some siblings' trees are in one of these trees, or in two of them. -/
theorem sublist_flatMap_nodes {siblings : List Node} (h : [a, b].Sublist (siblings.flatMap nodes)) :
    (∃ c ∈ siblings, [a, b].Sublist c.nodes) ∨
      ∃ c c', [c, c'].Sublist siblings ∧ a ∈ c.nodes ∧ b ∈ c'.nodes := by
  -- the two places may be split by the end of the first sibling's tree in three ways
  induction siblings with
  | nil => exact absurd h (by simp)
  | cons c rest ih =>
    rw [List.flatMap_cons] at h
    obtain ⟨front, back, heq, hfront, hback⟩ := List.sublist_append_iff.mp h
    rcases front with _ | ⟨x, _ | ⟨y, front⟩⟩
    · -- both are in the trees behind the first one
      rw [List.nil_append] at heq
      rw [← heq] at hback
      rcases ih hback with ⟨c', hc', h⟩ | ⟨c', c'', hsub, h⟩
      · exact .inl ⟨c', List.mem_cons_of_mem _ hc', h⟩
      · exact .inr ⟨c', c'', hsub.trans (List.sublist_cons_self ..), h⟩
    · -- one in the first tree, one behind it
      obtain ⟨rfl, rfl⟩ := List.cons_eq_cons.mp heq
      obtain ⟨c', hc', hb⟩ := List.mem_flatMap.mp (List.singleton_sublist.mp hback)
      exact .inr ⟨c, c', List.cons_sublist_cons.mpr (List.singleton_sublist.mpr hc'),
        List.singleton_sublist.mp hfront, hb⟩
    · -- both are in the first one
      simp only [List.cons_append, List.cons.injEq, List.nil_eq, List.append_eq_nil_iff] at heq
      obtain ⟨rfl, rfl, rfl, -⟩ := heq
      exact .inl ⟨c, List.mem_cons_self .., hfront⟩

theorem Precedes.of_mem_children (hc : c ∈ root.children) (h : c.Precedes a b) :
    root.Precedes a b := by
  rcases h with ⟨ha, hb⟩ | ⟨n, hn, h⟩
  · exact .inl ⟨⟨c, hc, ha.within⟩, hb⟩
  · exact .inr ⟨n, hn.of_mem_children hc, h⟩

theorem precedes_of_sublist (h : [a, b].Sublist (root.children.flatMap nodes)) :
    root.Precedes a b := by
  -- on the tree: a pair within one child's tree is a pair of a smaller tree
  induction root using children_induction with
  | h root ih =>
    rcases sublist_flatMap_nodes h with ⟨c, hc, h⟩ | ⟨c, c', hsub, ha, hb⟩
    · rw [nodes_eq] at h
      rcases List.sublist_cons_iff.mp h with h | ⟨l, heq, h⟩
      · exact (ih c hc h).of_mem_children hc
      · -- `a` is the root of the sibling's tree
        obtain ⟨rfl, rfl⟩ := List.cons_eq_cons.mp heq
        obtain ⟨c', hc', hb⟩ := List.mem_flatMap.mp (List.singleton_sublist.mp h)
        exact .inl ⟨⟨a, hc, within_self a⟩, c', hc', mem_nodes_iff.mp hb⟩
    · exact .inr ⟨_, within_self _, c, c', hsub, mem_nodes_iff.mp ha, mem_nodes_iff.mp hb⟩

/-- The walk goes through the tree in its order. -/
theorem sublist_places_iff : [a, b].Sublist (root.places.map Place.node) ↔ root.Precedes a b := by
  rw [map_node_places]
  exact ⟨precedes_of_sublist, Precedes.sublist⟩

/-! ### The paths of a walk -/

mutual

/-- A trail is the way to its node, read backwards. -/
theorem leads_of_mem_placesFrom (above : List Name) : ∀ n : Node,
    root.Leads (n.name :: above).reverse n → ∀ p ∈ n.placesFrom above, root.Leads p.trail.reverse p.node
  | mk id record children, h, p, hp => by
    rw [placesFrom, List.mem_cons] at hp
    rcases hp with rfl | hp
    · exact h
    · refine leads_of_mem_placesBelow (record.decoded :: above) children (fun c hc => ?_) p hp
      rw [List.reverse_cons]
      exact h.step hc

theorem leads_of_mem_placesBelow (above : List Name) : ∀ l : List Node,
    (∀ c ∈ l, root.Leads (c.name :: above).reverse c) →
      ∀ p ∈ placesBelow above l, root.Leads p.trail.reverse p.node
  | [], _, p, hp => absurd hp List.not_mem_nil
  | n :: rest, h, p, hp => by
    rw [placesBelow, List.mem_append] at hp
    rcases hp with hp | hp
    · exact leads_of_mem_placesFrom above n (h n (List.mem_cons_self ..)) p hp
    · exact leads_of_mem_placesBelow above rest (fun c hc => h c (List.mem_cons_of_mem _ hc)) p hp

end

theorem leads_of_mem_places (hp : p ∈ root.places) : root.Leads p.trail.reverse p.node := by
  rw [places_eq] at hp
  exact leads_of_mem_placesBelow [] root.children (fun _ hc => Leads.here.step hc) p hp

theorem mem_placesBelow (above : List Name) {siblings : List Node} (hc : c ∈ siblings) :
    ⟨c.name :: above, c⟩ ∈ placesBelow above siblings := by
  induction siblings with
  | nil => exact absurd hc List.not_mem_nil
  | cons first rest ih =>
    rw [placesBelow, List.mem_append]
    rcases List.mem_cons.mp hc with rfl | hc
    · obtain ⟨id, record, children⟩ := c
      exact .inl (List.mem_cons_self ..)
    · exact .inr (ih hc)

mutual

/-- The place of a node is followed, sooner or later, by the places of its children. -/
theorem child_mem_placesFrom (above trail : List Name) (hc : c ∈ n.children) : ∀ root : Node,
    ⟨trail, n⟩ ∈ root.placesFrom above → ⟨c.name :: trail, c⟩ ∈ root.placesFrom above
  | mk id record children, hn => by
    rw [placesFrom, List.mem_cons] at hn ⊢
    refine .inr ?_
    rcases hn with hn | hn
    · obtain ⟨rfl, rfl⟩ := Place.mk.inj hn
      exact mem_placesBelow _ hc
    · exact child_mem_placesBelow _ trail hc children hn

theorem child_mem_placesBelow (above trail : List Name) (hc : c ∈ n.children) : ∀ l : List Node,
    ⟨trail, n⟩ ∈ placesBelow above l → ⟨c.name :: trail, c⟩ ∈ placesBelow above l
  | [], hn => absurd hn List.not_mem_nil
  | first :: rest, hn => by
    rw [placesBelow, List.mem_append] at hn ⊢
    exact hn.imp (child_mem_placesFrom above trail hc first) (child_mem_placesBelow above trail hc rest)

end

theorem Leads.eq_of_nil (h : root.Leads [] n) : n = root := by
  generalize hnames : ([] : List Name) = names at h
  cases h with
  | here => rfl
  | step => simp at hnames

/-- The walk goes every way. -/
theorem Leads.mem_places (h : root.Leads names n) (hne : names ≠ []) :
    ⟨names.reverse, n⟩ ∈ root.places := by
  rw [places_eq]
  -- the walk takes one more step behind any place but the root, which is no place itself
  induction h with
  | here => exact absurd rfl hne
  | @step names n c h hc ih =>
    rw [List.reverse_append, List.reverse_singleton, List.singleton_append]
    by_cases hnil : names = []
    · subst hnil
      rw [h.eq_of_nil] at hc
      exact mem_placesBelow [] hc
    · exact child_mem_placesBelow [] _ hc _ (ih hnil)

/-- The names of a way are names of nodes that the walk comes to. -/
theorem Leads.exists_named (h : root.Leads names n) :
    ∀ name ∈ names, ∃ p ∈ root.places, p.node.name = name := by
  induction h with
  | here => exact fun name hname => absurd hname List.not_mem_nil
  | @step names n c h hc ih =>
    intro name hname
    rcases List.mem_append.mp hname with hname | hname
    · exact ih name hname
    · rw [List.mem_singleton.mp hname]
      exact ⟨_, (h.step hc).mem_places (by simp), rfl⟩

theorem path_eq_joinAll (p : Place) : p.path = Name.joinAll p.trail.reverse := by
  rw [Place.path, Name.joinAll, List.foldl_reverse]

/-! ### Looking up paths -/

theorem leads_of_descend {front : List Name} (hroot : root.Leads front n)
    (h : n.descend names = some c) : root.Leads (front ++ names) c := by
  -- on the names, with the node free: the first name picks a child, the rest is looked for there
  induction names generalizing front n with
  | nil =>
    rw [descend, Option.some.injEq] at h
    rw [List.append_nil, ← h]
    exact hroot
  | cons name names ih =>
    rw [descend] at h
    cases hfound : n.children.find? (·.name = name) with
    | none =>
      rw [hfound] at h
      cases h
    | some child =>
      rw [hfound] at h
      have hname : child.name = name := by simpa using List.find?_some hfound
      -- the search goes by names, but the way is a list of children
      have hstep := hroot.step (List.mem_of_find?_eq_some hfound)
      rw [hname] at hstep
      rw [← List.singleton_append, ← List.append_assoc]
      exact ih hstep h

/-- Where siblings have distinct names, steps lead where the names lead. -/
theorem descend_eq_some_iff (hdistinct : ∀ m, root.Within m → (m.children.map name).Nodup) :
    root.descend names = some n ↔ root.Leads names n := by
  refine ⟨fun h => leads_of_descend .here h, fun h => ?_⟩
  induction h with
  | here => rfl
  | @step names n c h hc ih =>
    refine descend_of_child ih hc rfl fun c' hc' hname => ?_
    exact List.inj_on_of_nodup_map (hdistinct n ⟨names, h⟩) hc' hc hname

theorem find?_eq_some_iff (hdistinct : ∀ m, root.Within m → (m.children.map name).Nodup)
    {path : Name} : root.find? path = some n ↔ root.Leads path.steps n :=
  descend_eq_some_iff hdistinct

/-! A walk whose names are neither empty nor have a slash in them. -/

section

variable (hnames : ∀ p ∈ root.places, p.node.name ≠ [] ∧ Name.slash ∉ p.node.name)
include hnames

theorem good_trail (hp : p ∈ root.places) :
    ∀ name ∈ p.trail.reverse, name ≠ [] ∧ Name.slash ∉ name := by
  intro name hname
  obtain ⟨q, hq, rfl⟩ := (leads_of_mem_places hp).exists_named name hname
  exact hnames q hq

theorem path_eq_intercalate (hp : p ∈ root.places) :
    p.path = [Name.slash].intercalate p.trail.reverse :=
  (path_eq_joinAll p).trans
    (Name.joinAll_eq_intercalate fun name hname => (good_trail hnames hp name hname).1)

/-- The steps of a path are the way to its node. -/
theorem steps_path (hp : p ∈ root.places) : p.path.steps = p.trail.reverse := by
  rw [path_eq_joinAll, Name.steps_joinAll (good_trail hnames hp)]

variable (hdistinct : ∀ m, root.Within m → (m.children.map name).Nodup)
include hdistinct

theorem find?_path (hp : p ∈ root.places) : root.find? p.path = some p.node := by
  rw [find?_eq_some_iff hdistinct, steps_path hnames hp]
  exact leads_of_mem_places hp

/-- Equal paths would lead to one node. -/
theorem nodup_paths (hnodes : (root.places.map Place.node).Nodup) :
    (root.places.map Place.path).Nodup := by
  have hfinds : (root.places.map Place.path).map root.find? =
      (root.places.map Place.node).map some := by
    rw [List.map_map, List.map_map]
    exact List.map_congr_left fun p hp => find?_path hnames hdistinct hp
  exact List.Nodup.of_map root.find? (hfinds ▸ hnodes.map (Option.some_injective _))

/-- Slashes at the ends of a path, or doubled, do not matter. -/
theorem find?_below_iff (hroot : root ∉ root.places.map Place.node) {path : Name} :
    root.find? path = some n ∧ n ≠ root ↔ ∃ p ∈ root.places,
      p.path = [Name.slash].intercalate ((path.splitOn Name.slash).filter (· ≠ [])) ∧
        p.node = n := by
  have hjoin : Name.joinAll path.steps = [Name.slash].intercalate path.steps :=
    Name.joinAll_eq_intercalate fun name hname => (Name.mem_steps hname).1
  rw [find?_eq_some_iff hdistinct, ← Name.steps_eq_splitOn, ← hjoin]
  constructor
  · -- a way that stays at the root has no names, and then the path has no step
    rintro ⟨hleads, hne⟩
    have hsome : path.steps ≠ [] := fun hnil => hne (hnil ▸ hleads).eq_of_nil
    refine ⟨_, hleads.mem_places hsome, ?_, rfl⟩
    rw [path_eq_joinAll, List.reverse_reverse]
  · rintro ⟨p, hp, heq, rfl⟩
    -- the path of the place has the same steps
    have hsame : path.steps = p.trail.reverse := by
      rw [← steps_path hnames hp, heq, Name.steps_joinAll fun name hname => Name.mem_steps hname]
    refine ⟨hsame ▸ leads_of_mem_places hp, fun h => hroot ?_⟩
    exact List.mem_map.mpr ⟨p, hp, h⟩

end

theorem find?_root_iff (hdistinct : ∀ m, root.Within m → (m.children.map name).Nodup)
    (hroot : root ∉ root.places.map Place.node) {path : Name} :
    root.find? path = some root ↔ ∀ part ∈ path.splitOn Name.slash, part = [] := by
  have hempty : path.steps = [] ↔ ∀ part ∈ path.splitOn Name.slash, part = [] := by
    rw [Name.steps_eq_splitOn, List.filter_eq_nil_iff]
    simp
  rw [find?_eq_some_iff hdistinct, ← hempty]
  constructor
  · intro hleads
    by_contra hsome
    exact hroot (List.mem_map.mpr ⟨_, hleads.mem_places hsome, rfl⟩)
  · intro hnil
    rw [hnil]
    exact .here

end Node

namespace Directory

open Node

/-- **The walk through the tree and the look-up of paths agree.** The walk comes to every node below
the root, to none of them twice and not to the root, and it comes to `a` before `b` just if the tree
has them in that order: `b` below `a`, or `a` within an earlier sibling.

If no readable name is empty or has a slash in it, the path of a node is made of the names from below
the root to the node, joined with slashes. If, moreover, siblings have distinct names, then

* every path leads to its node, and no two paths are equal;
* whatever slashes a path has at its ends, or doubled, it leads to a node below the root just if its
  parts that are not empty make up the path of that node;
* it leads to the root just if all its parts are empty. -/
theorem walk_agrees_with_find (d : Directory) :
    let root := d.tree.value
    (∀ n, n ∈ root.places.map Place.node ↔ root.Below n) ∧
    (root.id :: root.places.map (·.node.id)).Nodup ∧
    (∀ a b, [a, b].Sublist (root.places.map Place.node) ↔ root.Precedes a b) ∧
    ((∀ p ∈ root.places, p.node.name ≠ [] ∧ Name.slash ∉ p.node.name) →
      (∀ p ∈ root.places, root.Leads p.trail.reverse p.node ∧
        p.path = [Name.slash].intercalate p.trail.reverse) ∧
      ((∀ n, root.Within n → (n.children.map Node.name).Nodup) →
        (∀ p ∈ root.places, root.find? p.path = some p.node) ∧
        (root.places.map Place.path).Nodup ∧
        (∀ path n, root.find? path = some n ∧ n ≠ root ↔ ∃ p ∈ root.places,
          p.path = [Name.slash].intercalate ((path.splitOn Name.slash).filter (· ≠ [])) ∧
            p.node = n) ∧
        ∀ path, root.find? path = some root ↔
          ∀ part ∈ path.splitOn Name.slash, part = [])) := by
  intro root
  have hids : (root.id :: root.places.map (·.node.id)).Nodup := by
    rw [map_id_places, ← ids_eq]
    exact d.nodup_ids_tree
  refine ⟨fun n => mem_places_iff, hids, fun a b => sublist_places_iff, fun hnames => ?_⟩
  refine ⟨fun p hp => ⟨leads_of_mem_places hp, path_eq_intercalate hnames hp⟩, fun hdistinct => ?_⟩
  -- a node is told from the root by its id, so the root is no place of its own walk
  obtain ⟨hrootId, hbelowIds⟩ := List.nodup_cons.mp hids
  have hroot : root ∉ root.places.map Place.node := fun h => by
    obtain ⟨p, hp, heq⟩ := List.mem_map.mp h
    exact hrootId (List.mem_map.mpr ⟨p, hp, congrArg Node.id heq⟩)
  -- two places with one node would have one id
  have hnodes : (root.places.map Place.node).Nodup := by
    refine List.Nodup.of_map Node.id ?_
    rw [List.map_map]
    exact hbelowIds
  exact ⟨fun p hp => find?_path hnames hdistinct hp, nodup_paths hnames hdistinct hnodes,
    fun path n => find?_below_iff hnames hdistinct hroot,
    fun path => find?_root_iff hdistinct hroot⟩

/-- The names of the sample are fit for paths, and a path with slashes to spare leads to a storage in a
storage. -/
theorem walk_agrees_with_find_sample :
    let root := orderSample.tree.value
    (∀ p ∈ root.places, p.node.name ≠ [] ∧ Name.slash ∉ p.node.name) ∧
    (∀ n, root.Within n → (n.children.map Node.name).Nodup) ∧
    ∃ n, n.id = 6 ∧ root.find? (Name.ofString "//c//b/") = some n ∧ n ≠ root := by
  intro root
  have hnames : ∀ p ∈ root.places, p.node.name ≠ [] ∧ Name.slash ∉ p.node.name := by
    decide +kernel
  have hnodes : ∀ n ∈ root.nodes, (n.children.map Node.name).Nodup := by
    decide +kernel
  have hdistinct : ∀ n, root.Within n → (n.children.map Node.name).Nodup :=
    fun n hn => hnodes n (mem_nodes_iff.mpr hn)
  obtain ⟨-, -, -, hagree⟩ := walk_agrees_with_find orderSample
  obtain ⟨-, -, hfind, -⟩ := (hagree hnames).2 hdistinct
  have hplace : ∃ p ∈ root.places, p.path = [Name.slash].intercalate
      (((Name.ofString "//c//b/").splitOn Name.slash).filter (· ≠ [])) ∧ p.node.id = 6 := by
    -- the sample is small enough to be walked
    decide +kernel
  obtain ⟨p, hp, hpath, hid⟩ := hplace
  exact ⟨hnames, hdistinct, p.node, hid, (hfind _ _).mpr ⟨p, hp, hpath, rfl⟩⟩

end Directory

end InstallerPackage
