import InstallerPackage.Proofs.Spelling

/-!
# The order of siblings

The children of a storage are listed in the order of their tree of siblings: first those on the left
of a record, then the record, then those on its right. `Directory.children_in_sibling_order` says so
for every directory in which the links that a reader follows from the root form such trees and no
record is reached by two of them. What the other records of the directory hold is of no account.

The tree is built by two loops, one for the storages and one for the siblings, each with a stack of its
own, and both claim records from one set. That they do the work of a recursion is `Directory.tree_eq`;
here it is that recursion, with its set of claimed records, which is compared with the trees that the
links spell out.

A scan leaves out the records that were claimed before, so at first the children are only a part of
the tree of siblings, in order (`siblings_sublist`, `grow_inOrder`). Nothing is missing because a
missing record would be the child of another storage, and then two links would lead to it. `Via` is
the way from a link along siblings, and its clause `Via.meet` is where the argument is made: two such
ways that meet in a record have met before, or begin at the same link.
-/

namespace InstallerPackage

/-- Where a link of a record leads: to its children, or to its neighbours. -/
inductive Direction where
  | down
  | left
  | right
  deriving DecidableEq, Repr

theorem Direction.left_ne_down : Direction.left ≠ .down := by decide

theorem Direction.right_ne_down : Direction.right ≠ .down := by decide

/-- The link of a record in a direction. -/
def Record.link (r : Record) : Direction → Nat
  | .down => r.child
  | .left => r.left
  | .right => r.right

namespace Directory

/-- The links that are followed from the root, each with the record that it belongs to: the link to
the root's children and, of every record that is reached, the links to its neighbours and, if it is a
storage, to its children. -/
inductive Follows (d : Directory) : (owner : Nat) → Direction → (link : Nat) → Prop
  | root : Follows d 0 .down d.root.child
  | next {owner link : Nat} {dir : Direction} {r : Record} (h : Follows d owner dir link)
    (hlive : link ≠ freeSector) (hr : d.records[link]? = some r) (dir' : Direction)
    (hdown : dir' = .down → r.isStorage = true) : Follows d link dir' (r.link dir')

/-- The links that are followed form a tree of siblings below the root and below every storage, no
record is reached by two of them, and the root by none. -/
structure Orderly (d : Directory) : Prop where
  trees : ∀ owner link, d.Follows owner .down link → ∃ t, d.Spells link t
  single : ∀ owner owner' dir dir' link, d.Follows owner dir link → d.Follows owner' dir' link →
    link ≠ freeSector → owner = owner' ∧ dir = dir'
  root : ∀ owner dir, ¬ d.Follows owner dir 0

variable {d : Directory} {t t' before after : SiblingTree} {met : Std.TreeSet Nat} {r : Record}
  {levels link link' i j k : Nat} {dir dir' : Direction}

/-! ### Trees that are spelled out -/

theorem Spells.unique (h : d.Spells link t) (h' : d.Spells link t') : t = t' := by
  -- on the one tree; the record at the link decides what the other one begins with
  induction t generalizing link t' with
  | leaf =>
    cases t' with
    | leaf => rfl
    | node before id after =>
      obtain ⟨rfl, hlive, -⟩ := h'
      exact absurd h hlive
  | node before id after ihb iha =>
    obtain ⟨rfl, hlive, r, hr, hbefore, hafter⟩ := h
    cases t' with
    | leaf => exact absurd h' hlive
    | node before' id' after' =>
      obtain ⟨rfl, -, r', hr', hbefore', hafter'⟩ := h'
      obtain rfl : r = r' := Option.some.inj (hr.symm.trans hr')
      rw [ihb hbefore hbefore', iha hafter hafter']

theorem Spells.mem (h : d.Spells link t) (hlive : link ≠ freeSector) : link ∈ t.toList := by
  cases t with
  | leaf => exact absurd h hlive
  | node before id after =>
    obtain ⟨rfl, -⟩ := h
    simp [SiblingTree.toList]

/-- Every record of a tree has a tree of its own, which is a part of it. -/
theorem Spells.exists_sub (h : d.Spells link t) (hk : k ∈ t.toList) :
    ∃ sub, d.Spells k sub ∧ sub.toList <:+: t.toList := by
  induction t generalizing link with
  | leaf => exact absurd hk List.not_mem_nil
  | node before id after ihb iha =>
    obtain ⟨rfl, hlive, r, hr, hbefore, hafter⟩ := h
    rw [SiblingTree.toList, List.mem_append, List.mem_cons] at hk
    -- before the record, the record itself, or behind it
    rcases hk with hk | rfl | hk
    · obtain ⟨sub, hsub, hpart⟩ := ihb hbefore hk
      exact ⟨sub, hsub, hpart.trans (List.prefix_append ..).isInfix⟩
    · exact ⟨.node before k after, ⟨rfl, hlive, r, hr, hbefore, hafter⟩, List.infix_rfl⟩
    · obtain ⟨sub, hsub, hpart⟩ := iha hafter hk
      have hback : after.toList <:+ (SiblingTree.node before link after).toList :=
        (List.suffix_cons ..).trans (List.suffix_append ..)
      exact ⟨sub, hsub, hpart.trans hback.isInfix⟩

/-! ### Ways along siblings -/

theorem Follows.exists_record (h : d.Follows i dir link) :
    ∃ r, d.records[i]? = some r ∧ link = r.link dir := by
  cases h with
  | root => exact ⟨d.root, getElem?_root d, rfl⟩
  | next _ _ hr => exact ⟨_, hr, rfl⟩

/-- The links to the neighbours of a record that was reached are followed, whatever record it is. -/
theorem Follows.neighbour (h : d.Follows i dir j) (hlive : j ≠ freeSector)
    (hr : d.records[j]? = some r) (hdir : dir' ≠ .down) : d.Follows j dir' (r.link dir') :=
  h.next hlive hr dir' fun hdown => absurd hdown hdir

/-- A record has one link in a direction. -/
theorem Follows.link_eq (h : d.Follows i dir link) (h' : d.Follows i dir link') : link = link' := by
  obtain ⟨r, hr, rfl⟩ := h.exists_record
  obtain ⟨r', hr', rfl⟩ := h'.exists_record
  rw [Option.some.inj (hr.symm.trans hr')]

/-- The records that are reached from a link of record `i` by going on to neighbours. -/
inductive Via (d : Directory) (i : Nat) (dir : Direction) : (k : Nat) → Prop
  | first {k : Nat} (h : d.Follows i dir k) (hlive : k ≠ freeSector) : Via d i dir k
  | next {j k : Nat} {dir' : Direction} (hj : Via d i dir j) (h : d.Follows j dir' k)
    (hdir : dir' ≠ .down) (hlive : k ≠ freeSector) : Via d i dir k

theorem Via.follows (h : d.Via i dir k) : k ≠ freeSector ∧ ∃ owner dir', d.Follows owner dir' k := by
  cases h with
  | first h hlive => exact ⟨hlive, i, dir, h⟩
  | next hj h hdir hlive => exact ⟨hlive, _, _, h⟩

/-- The links of a record that is reached to its neighbours are followed. -/
theorem Via.neighbour (h : d.Via i dir k) (hr : d.records[k]? = some r) (hdir : dir' ≠ .down) :
    d.Follows k dir' (r.link dir') := by
  obtain ⟨hlive, owner, dir'', hfollows⟩ := h.follows
  exact hfollows.neighbour hlive hr hdir

/-- A tree of siblings holds what is reached from the link to it. -/
theorem Spells.via (h : d.Spells link t) (hstart : link ≠ freeSector → d.Via i dir link) :
    ∀ k ∈ t.toList, d.Via i dir k := by
  induction t generalizing link with
  | leaf => exact fun k hk => absurd hk List.not_mem_nil
  | node before id after ihb iha =>
    obtain ⟨rfl, hlive, r, hr, hbefore, hafter⟩ := h
    have hvia := hstart hlive
    have hleft : d.Follows link .left r.left := hvia.neighbour hr Direction.left_ne_down
    have hright : d.Follows link .right r.right := hvia.neighbour hr Direction.right_ne_down
    intro k hk
    rw [SiblingTree.toList, List.mem_append, List.mem_cons] at hk
    -- one more step along the siblings leads into either part
    rcases hk with hk | rfl | hk
    · exact ihb hbefore (hvia.next hleft Direction.left_ne_down) k hk
    · exact hvia
    · exact iha hafter (hvia.next hright Direction.right_ne_down) k hk

/-- It holds nothing else. -/
theorem Spells.mem_of_via (h : d.Spells link t) (hl : d.Follows i dir link) (hk : d.Via i dir k) :
    k ∈ t.toList := by
  induction hk with
  | first hfollows hlive =>
    rw [hfollows.link_eq hl] at hlive ⊢
    exact h.mem hlive
  | @next j k dir' hj hfollows hdir hlive ih =>
    -- the tree of the record before goes on in both directions
    obtain ⟨sub, hsub, hpart⟩ := h.exists_sub ih
    cases sub with
    | leaf => exact absurd hsub hj.follows.1
    | node before id after =>
      obtain ⟨rfl, -, r, hr, hbefore, hafter⟩ := hsub
      obtain ⟨r', hr', rfl⟩ := hfollows.exists_record
      obtain rfl : r = r' := Option.some.inj (hr.symm.trans hr')
      refine hpart.subset ?_
      rw [SiblingTree.toList, List.mem_append, List.mem_cons]
      cases dir' with
      | down => exact absurd rfl hdir
      | left => exact .inl (hbefore.mem hlive)
      | right => exact .inr (.inr (hafter.mem hlive))

/-- Two ways that meet begin at the same link, or one of them leads to where the other begins. -/
theorem Via.meet (hd : d.Orderly) (h : d.Via i dir k) (h' : d.Via j dir' k) :
    (i = j ∧ dir = dir') ∨ (dir ≠ .down ∧ d.Via j dir' i) ∨ (dir' ≠ .down ∧ d.Via i dir j) := by
  induction h with
  | first hk hlive =>
    cases h' with
    | first hk' => exact .inl (hd.single _ _ _ _ _ hk hk' hlive)
    | next hj' hk' hdir' =>
      obtain ⟨rfl, rfl⟩ := hd.single _ _ _ _ _ hk hk' hlive
      exact .inr (.inl ⟨hdir', hj'⟩)
  | next hi hk hdir hlive ih =>
    cases h' with
    | first hk' =>
      obtain ⟨rfl, rfl⟩ := hd.single _ _ _ _ _ hk hk' hlive
      exact .inr (.inr ⟨hdir, hi⟩)
    | next hj' hk' hdir' =>
      -- the last link is the same, so they have met before
      obtain ⟨rfl, rfl⟩ := hd.single _ _ _ _ _ hk hk' hlive
      exact ih hj'

/-- Siblings do not lead back to where they begin: the tree below would be a part of itself. -/
theorem Spells.not_via_self (h : d.Spells link (.node before link after)) (hdir : dir ≠ .down) :
    ¬ d.Via link dir link := by
  intro hvia
  have hparts := h
  obtain ⟨-, -, r, hr, hbefore, hafter⟩ := hparts
  have hfollows : d.Follows link dir (r.link dir) := hvia.neighbour hr hdir
  have hsize : ∀ part : SiblingTree, d.Spells (r.link dir) part →
      (SiblingTree.node before link after).toList.length ≤ part.toList.length := by
    intro part hpart
    obtain ⟨sub, hsub, hinfix⟩ := hpart.exists_sub (hpart.mem_of_via hfollows hvia)
    rw [h.unique hsub]
    exact hinfix.length_le
  cases dir with
  | down => exact hdir rfl
  -- the tree of `link` would fit into the part on its left, or on its right
  | left =>
    have hle := hsize before hbefore
    rw [SiblingTree.toList, List.length_append, List.length_cons] at hle
    omega
  | right =>
    have hle := hsize after hafter
    rw [SiblingTree.toList, List.length_append, List.length_cons] at hle
    omega

/-- In an orderly directory no sibling is met twice. -/
theorem Spells.nodup (hd : d.Orderly) (h : d.Spells link t) (hl : d.Follows i dir link) :
    t.toList.Nodup := by
  induction t generalizing link i dir with
  | leaf => exact List.nodup_nil
  | node before id after ihb iha =>
    have hparts := h
    obtain ⟨rfl, hlive, r, hr, hbefore, hafter⟩ := hparts
    have hleft : d.Follows link .left r.left := hl.neighbour hlive hr Direction.left_ne_down
    have hright : d.Follows link .right r.right := hl.neighbour hlive hr Direction.right_ne_down
    have hbeforeVia : ∀ k ∈ before.toList, d.Via link .left k :=
      hbefore.via (Via.first hleft)
    have hafterVia : ∀ k ∈ after.toList, d.Via link .right k :=
      hafter.via (Via.first hright)
    have hself : ∀ dir : Direction, dir ≠ .down → ¬ d.Via link dir link :=
      fun _ hdir => h.not_via_self hdir
    rw [SiblingTree.toList, List.nodup_append, List.nodup_cons]
    -- each part by itself, the record in neither of them, and none in both
    refine ⟨ihb hbefore hleft, ⟨fun hin => ?_, iha hafter hright⟩, ?_⟩
    · exact hself .right Direction.right_ne_down (hafterVia link hin)
    · rintro k hk _ hk' rfl
      rcases List.mem_cons.mp hk' with rfl | hk'
      · exact hself .left Direction.left_ne_down (hbeforeVia k hk)
      · -- ways from the two neighbours that meet have met in the record, or one leads through the
        -- other's start
        rcases (hbeforeVia k hk).meet hd (hafterVia k hk') with ⟨-, h⟩ | ⟨-, h⟩ | ⟨-, h⟩
        · cases h
        · exact hself .right Direction.right_ne_down h
        · exact hself .left Direction.left_ne_down h

/-! ### Children are a part of their siblings -/

theorem siblings_sublist (levels : Nat) (h : d.Spells link t) (met : Std.TreeSet Nat) :
    (((d.siblings levels link).run met).value.1.map Prod.fst).Sublist t.toList := by
  induction levels generalizing link t met with
  | zero => exact List.nil_sublist _
  | succ levels ih =>
    -- on the levels of the scan; what it finds on either side is a part of what stands there
    rcases d.claim_cases link met with ⟨hnone, -⟩ | ⟨r, hsome, hlead, hr, -⟩
    · rw [siblings_succ_of_none hnone]
      exact List.nil_sublist _
    · rw [siblings_succ_of_some hsome]
      simp only [Noted.value_bind, Noted.value_pure, List.map_append, List.map_cons]
      cases t with
      | leaf => exact absurd h hlead.1
      | node before id after =>
        obtain ⟨rfl, -, r', hr', hbefore, hafter⟩ := h
        obtain rfl : r = r' := Option.some.inj (hr.symm.trans hr')
        exact (ih hbefore _).append ((ih hafter _).cons_cons _)

/-- The children of a node are some of its siblings' tree, in order. -/
def InOrder (d : Directory) (n : Node) : Prop :=
  ∀ t, d.Spells n.record.child t → (n.children.map Node.id).Sublist t.toList

theorem inOrder_leaf (id : Nat) (r : Record) : ∀ n ∈ (Node.mk id r []).nodes, d.InOrder n := by
  intro n hn t _
  rw [Node.nodes_mk, List.flatMap_nil, List.mem_singleton] at hn
  rw [hn]
  exact List.nil_sublist _

theorem growAll_inOrder (ih : ∀ id r met, ∀ n ∈ ((d.grow levels id r).run met).value.1.nodes, d.InOrder n)
    (found : List (Nat × Record)) (met : Std.TreeSet Nat) :
    ∀ n ∈ ((d.growAll levels found).run met).value.1.flatMap Node.nodes, d.InOrder n := by
  induction found with
  | nil => simp [growAll]
  | cons p found ihf =>
    rw [growAll_cons]
    simp only [Noted.value_bind, Noted.value_pure, List.flatMap_cons]
    intro n hn
    rcases List.mem_append.mp hn with hn | hn
    · unfold growOne at hn
      split at hn
      · exact ih _ _ _ n hn
      · exact inOrder_leaf _ _ n hn
    · exact ihf n hn

theorem grow_inOrder (levels id : Nat) (r : Record) (met : Std.TreeSet Nat) :
    ∀ n ∈ ((d.grow levels id r).run met).value.1.nodes, d.InOrder n := by
  induction levels generalizing id r met with
  | zero => exact inOrder_leaf id r
  | succ levels ih =>
    rw [grow_succ]
    simp only [Noted.value_bind, Noted.value_pure]
    have hsub := fun t (ht : d.Spells r.child t) => siblings_sublist d.size ht met
    generalize ((d.siblings d.size r.child).run met).value = found at *
    have hheads := (growAll_grown (d := d) levels found.1 found.2).heads
    have hbelow := growAll_inOrder ih found.1 found.2
    generalize ((d.growAll levels found.1).run found.2).value = out at *
    intro n hn
    rw [Node.nodes_mk] at hn
    rcases List.mem_cons.mp hn with rfl | hn
    · -- the node has what the scan found, and the nodes below it were grown with the levels that are
      -- left
      intro t ht
      have := hsub t ht
      rwa [← hheads, List.map_map] at this
    · exact hbelow n hn

theorem inOrder_tree (d : Directory) : ∀ n ∈ d.tree.value.nodes, d.InOrder n := by
  rw [value_tree]
  exact grow_inOrder _ _ _ _

/-! ### Nothing is missing -/

/-- What is in the tree was reached by a link. -/
theorem follows_of_mem_ids (hk : k ∈ d.tree.value.ids) (hne : k ≠ 0) :
    k ≠ freeSector ∧ ∃ owner dir, d.Follows owner dir k := by
  -- the records that links lead to are a closed set, so it has the tree's records
  have hclosed : d.Closed {k | k = 0 ∨ k ≠ freeSector ∧ ∃ owner dir, d.Follows owner dir k} := by
    refine ⟨.inl rfl, ?_, ?_, ?_⟩
    · rintro k (rfl | ⟨hlive, owner, dir, h⟩) r hr hkind hl
      · rw [getElem?_root, Option.some.injEq] at hr
        exact .inr ⟨hl.1, 0, .down, hr ▸ .root⟩
      · by_cases hk0 : k = 0
        · subst hk0
          rw [getElem?_root, Option.some.injEq] at hr
          exact .inr ⟨hl.1, 0, .down, hr ▸ .root⟩
        · exact .inr ⟨hl.1, k, .down,
            h.next hlive hr .down fun _ => isStorage_iff.mpr (hkind.resolve_left hk0)⟩
    · rintro k (rfl | ⟨hlive, owner, dir, h⟩) hk0 r hr hl
      · exact absurd rfl hk0
      · exact .inr ⟨hl.1, k, .left, h.neighbour hlive hr Direction.left_ne_down⟩
    · rintro k (rfl | ⟨hlive, owner, dir, h⟩) hk0 r hr hl
      · exact absurd rfl hk0
      · exact .inr ⟨hl.1, k, .right, h.neighbour hlive hr Direction.right_ne_down⟩
  exact (ids_tree_subset hclosed k hk).resolve_left hne

/-- The link from a node of the tree to its children is followed. -/
theorem follows_child {n : Node} (hn : n ∈ d.tree.value.nodes)
    (hstorage : n.id = 0 ∨ n.record.isStorage = true) : d.Follows n.id .down n.record.child := by
  have hr := (fits_tree d n hn).1
  by_cases h0 : n.id = 0
  · rw [h0, getElem?_root, Option.some.injEq] at hr
    rw [h0, ← hr]
    exact .root
  · obtain ⟨hlive, owner, dir, h⟩ := follows_of_mem_ids (List.mem_map_of_mem hn) h0
    exact h.next hlive hr .down fun _ => hstorage.resolve_left h0

/-- What a link to a tree leads to is in the tree of the directory. -/
theorem Spells.subset (hd : d.Orderly) (h : d.Spells link t) (hl : d.Follows i dir link)
    (hin : d.Leads link → link ∈ d.tree.value.ids) : ∀ k ∈ t.toList, k ∈ d.tree.value.ids := by
  induction t generalizing link i dir with
  | leaf => exact fun k hk => absurd hk List.not_mem_nil
  | node before id after ihb iha =>
    obtain ⟨rfl, hlive, r, hr, hbefore, hafter⟩ := h
    have hmem := hin ⟨hlive, (Array.getElem?_eq_some_iff.mp hr).1⟩
    have hne : link ≠ 0 := fun h0 => hd.root i dir (h0 ▸ hl)
    intro k hk
    rw [SiblingTree.toList, List.mem_append, List.mem_cons] at hk
    rcases hk with hk | rfl | hk
    · -- the links of a record in the tree lead into the tree
      exact ihb hbefore (hl.neighbour hlive hr Direction.left_ne_down)
        ((closed_ids_tree d).left link hmem hne r hr) k hk
    · exact hmem
    · exact iha hafter (hl.neighbour hlive hr Direction.right_ne_down)
        ((closed_ids_tree d).right link hmem hne r hr) k hk

end Directory

/-- Every record below a node is a child of some node. -/
theorem Node.exists_parent {k : Nat} (root : Node) (hk : k ∈ root.idsBelow) :
    ∃ m ∈ root.nodes, k ∈ m.children.map Node.id := by
  induction root using children_induction with
  | h root ih =>
    obtain ⟨c, hc, hk⟩ := List.mem_flatMap.mp hk
    rw [ids_eq] at hk
    rcases List.mem_cons.mp hk with rfl | hk
    · exact ⟨root, mem_nodes_self root, List.mem_map_of_mem hc⟩
    · obtain ⟨m, hm, hk⟩ := ih c hc hk
      exact ⟨m, nodes_subset hc hm, hk⟩

namespace Directory

variable {d : Directory}

/-- A node of the tree with a tree of siblings: every one of them is its child. One that is missing
would be the child of another node. -/
theorem mem_children_of_mem_siblings {n : Node} {t : SiblingTree} (hd : d.Orderly)
    (hn : n ∈ d.tree.value.nodes) (hstorage : n.id = 0 ∨ n.record.isStorage = true)
    (ht : d.Spells n.record.child t) : ∀ k ∈ t.toList, k ∈ n.children.map Node.id := by
  have hfollows := follows_child hn hstorage
  have hmem : n.id ∈ d.tree.value.ids := List.mem_map_of_mem hn
  have hall := ht.subset hd hfollows ((closed_ids_tree d).child n.id hmem n.record
    (fits_tree d n hn).1 (hstorage.imp_right isStorage_iff.mp))
  intro k hk
  have hvia : d.Via n.id .down k := ht.via (Via.first hfollows) k hk
  have hk0 : k ≠ 0 := by
    rintro rfl
    obtain ⟨-, owner, dir, h⟩ := hvia.follows
    exact hd.root owner dir h
  -- the record is in the tree of the directory, so it is the child of some node `m`
  have hbelow := hall k hk
  rw [Node.ids_eq, id_tree] at hbelow
  obtain ⟨m, hm, hkm⟩ := Node.exists_parent _ ((List.mem_cons.mp hbelow).resolve_left hk0)
  obtain ⟨c, hc, rfl⟩ := List.mem_map.mp hkm
  have hfollowsParent := follows_child hm ((fits_tree d m hm).2 (List.ne_nil_of_mem hc))
  obtain ⟨tm, htm⟩ := hd.trees _ _ hfollowsParent
  have hktm : c.id ∈ tm.toList := (d.inOrder_tree m hm tm htm).subset hkm
  have hviaParent : d.Via m.id .down c.id := htm.via (Via.first hfollowsParent) _ hktm
  -- the ways from `n` and from `m` meet in it
  have hsame : n.id = m.id := by
    rcases hvia.meet hd hviaParent with h | h | h
    · exact h.1
    · exact absurd rfl h.1
    · exact absurd rfl h.1
  rwa [List.inj_on_of_nodup_map d.nodup_ids_tree hn hm hsame]

/-- **Children are in the order of their tree of siblings.** In an orderly directory every node of the
tree that the loops build has the record of its position. The root and storages have as children the records of the tree of
siblings that their link spells out, those on the left of a record before it and those on its right
behind it, however deep or unbalanced the tree is. Other nodes have no children. -/
theorem children_in_sibling_order (d : Directory) (hd : d.Orderly) :
    ∀ n ∈ d.tree.value.nodes, d.records[n.id]? = some n.record ∧
      (n.id = 0 ∨ n.record.isStorage = true →
        ∃ t, d.Spells n.record.child t ∧ n.children.map Node.id = t.toList) ∧
      (¬ (n.id = 0 ∨ n.record.isStorage = true) → n.children = []) := by
  intro n hn
  obtain ⟨hr, hleaf⟩ := fits_tree d n hn
  refine ⟨hr, fun hstorage => ?_, fun hnot => by_contra fun hne => hnot (hleaf hne)⟩
  have hfollows := follows_child hn hstorage
  obtain ⟨t, ht⟩ := hd.trees _ _ hfollows
  refine ⟨t, ht, ?_⟩
  have hsub : (n.children.map Node.id).Sublist t.toList := d.inOrder_tree n hn t ht
  have hback := mem_children_of_mem_siblings hd hn hstorage ht
  -- a part of the siblings, without repetition, that has them all
  have hlength := (List.subperm_of_subset (ht.nodup hd hfollows) hback).length_le
  exact hsub.eq_of_length_le hlength

/-! A storage in the middle of its siblings, whose own children lean to one side. -/

/-- Eight records in good order, and a storage that nothing leads to, with links of all bad kinds. -/
def orderSample : Directory where
  records := #[
    { name := Name.ofString "Root Entry", kind := .root, child := 3 },
    { name := Name.ofString "a", kind := .stream },
    { name := Name.ofString "b", kind := .stream, left := 1 },
    { name := Name.ofString "c", kind := .storage, left := 2, right := 4, child := 5 },
    { name := Name.ofString "d", kind := .stream },
    { name := Name.ofString "a", kind := .stream, right := 6 },
    { name := Name.ofString "b", kind := .storage, right := 7 },
    { name := Name.ofString "c", kind := .stream },
    { name := Name.ofString "x", kind := .storage, left := 8, right := 3, child := 99 }]
  size_pos := by decide

/-- The followed links are among those that are closed under following. -/
theorem follows_mem {links : List (Nat × Direction × Nat)} (hroot : (0, .down, d.root.child) ∈ links)
    (hclosed : ∀ x ∈ links, x.2.2 ≠ freeSector → ∀ r ∈ d.records[x.2.2]?,
      ∀ dir ∈ [Direction.down, .left, .right], (dir = .down → r.isStorage = true) →
        (x.2.2, dir, r.link dir) ∈ links)
    {i k : Nat} {dir : Direction} (h : d.Follows i dir k) : (i, dir, k) ∈ links := by
  induction h with
  | root => exact hroot
  | next h hlive hr dir' hdown ih =>
    exact hclosed _ ih hlive _ hr dir' (by cases dir' <;> simp) hdown

/-- The links that are followed in the sample. -/
def orderLinks : List (Nat × Direction × Nat) :=
  [(0, .down, 3), (3, .left, 2), (2, .left, 1), (3, .right, 4), (3, .down, 5), (5, .right, 6),
    (6, .right, 7)] ++
  [(1, .left), (1, .right), (2, .right), (4, .left), (4, .right), (5, .left), (6, .left), (6, .down),
    (7, .left), (7, .right)].map fun (i, dir) => (i, dir, freeSector)

theorem mem_orderLinks {i k : Nat} {dir : Direction} (h : orderSample.Follows i dir k) :
    (i, dir, k) ∈ orderLinks :=
  follows_mem (by decide) (by decide +kernel) h

theorem spells_orderSample :
    orderSample.Spells 3 (.node (.node (.node .leaf 1 .leaf) 2 .leaf) 3 (.node .leaf 4 .leaf)) ∧
      orderSample.Spells 5 (.node .leaf 5 (.node .leaf 6 (.node .leaf 7 .leaf))) :=
  ⟨⟨rfl, by decide, _, rfl, ⟨rfl, by decide, _, rfl, ⟨rfl, by decide, _, rfl, rfl, rfl⟩, rfl⟩,
      ⟨rfl, by decide, _, rfl, rfl, rfl⟩⟩,
    ⟨rfl, by decide, _, rfl, rfl, ⟨rfl, by decide, _, rfl, rfl, ⟨rfl, by decide, _, rfl, rfl, rfl⟩⟩⟩⟩

theorem orderly_orderSample : orderSample.Orderly where
  trees owner link h := by
    have hdown : ∀ x ∈ orderLinks, x.2.1 = .down → x.2.2 = 3 ∨ x.2.2 = 5 ∨ x.2.2 = freeSector := by
      -- only links down lead to trees, and there are two of these
      decide
    rcases hdown _ (mem_orderLinks h) rfl with hlink | hlink | hlink
    · exact ⟨_, hlink ▸ spells_orderSample.1⟩
    · exact ⟨_, hlink ▸ spells_orderSample.2⟩
    · exact ⟨.leaf, hlink⟩
  single owner owner' dir dir' link h h' hlive := by
    have hsingle : ∀ x ∈ orderLinks, ∀ y ∈ orderLinks, x.2.2 = y.2.2 → x.2.2 ≠ freeSector →
        x.1 = y.1 ∧ x.2.1 = y.2.1 := by
      decide
    exact hsingle _ (mem_orderLinks h) _ (mem_orderLinks h') rfl hlive
  root owner dir h := by
    have hroot : ∀ x ∈ orderLinks, x.2.2 ≠ 0 := by decide
    exact hroot _ (mem_orderLinks h) rfl

/-- The children of the root, and of the storage among them, are in the order of their links. -/
theorem children_in_sibling_order_sample : orderSample.Orderly ∧
    orderSample.tree.value.children.map Node.id = [1, 2, 3, 4] ∧
    ∃ n ∈ orderSample.tree.value.nodes, n.id = 3 ∧ n.children.map Node.id = [5, 6, 7] := by
  have hall := children_in_sibling_order orderSample orderly_orderSample
  have hrootMem := Node.mem_nodes_self orderSample.tree.value
  -- the root first
  obtain ⟨hr, hchildren, -⟩ := hall _ hrootMem
  obtain ⟨t, ht, hids⟩ := hchildren (.inl (id_tree _))
  rw [id_tree, getElem?_root, Option.some.injEq] at hr
  rw [← hr] at ht
  rw [ht.unique spells_orderSample.1] at hids
  refine ⟨orderly_orderSample, hids, ?_⟩
  -- then its third child, which is a storage
  have hmem : 3 ∈ orderSample.tree.value.children.map Node.id := by
    rw [hids]
    decide
  obtain ⟨n, hn, hid⟩ := List.mem_map.mp hmem
  have hnMem := Node.mem_nodes_of_mem_children hrootMem hn
  obtain ⟨hr, hchildren, -⟩ := hall n hnMem
  rw [hid] at hr
  have hstored : orderSample.records[3]?.any Record.isStorage = true := by decide
  rw [hr, Option.any_some] at hstored
  obtain ⟨t, ht, hids⟩ := hchildren (.inr hstored)
  have hchild : orderSample.records[3]?.map Record.child = some 5 := by decide
  rw [hr, Option.map_some, Option.some.injEq] at hchild
  rw [hchild] at ht
  rw [ht.unique spells_orderSample.2] at hids
  exact ⟨n, hnMem, hid, hids⟩

end Directory

end InstallerPackage
