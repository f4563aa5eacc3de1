import InstallerPackage.Container.Outline
import InstallerPackage.Proofs.Image.Records
import InstallerPackage.Proofs.Spelling

/-!
# The records of an outline

`Outline.WellFormed` are the outlines that a directory can hold. The records of such an outline spell
out a tree of siblings for every storage (`Outline.spelled`), so a reader finds the entries of a
storage below it, each of them once.
-/

namespace InstallerPackage

open Image

namespace Outline

/-- Is the root or a storage at the position `id`? -/
def IsStorage (o : Outline) (id : Nat) : Prop := id = 0 ∨ ∃ e, o[id - 1]? = some e ∧ e.payload = none

/-- Every entry is in the root or in a storage that comes before it, names have between one and 31
units and no slash, and the names in a storage are different from each other. -/
structure WellFormed (o : Outline) : Prop where
  parent : ∀ (i : Nat) (e : Entry), o[i]? = some e → e.parent ≤ i ∧ o.IsStorage e.parent
  length : ∀ e ∈ o, 1 ≤ e.name.length ∧ e.name.length < Record.nameUnits
  units : ∀ e ∈ o, ∀ c ∈ e.name, c < 2 ^ 16
  slash : ∀ e ∈ o, Name.slash ∉ e.name.decode
  distinct : ∀ (i j : Nat) (e f : Entry), o[i]? = some e → o[j]? = some f → e.parent = f.parent →
    e.name.decode = f.name.decode → i = j

variable {order : Name → Name → Bool} {o : Outline} {i k : Nat} {e : Entry}

/-! ### Positions -/

/-- The storage that the entry at a position is in. -/
def parentOf (o : Outline) (k : Nat) : Nat := (o[k - 1]?.map Entry.parent).getD 0

/-- The bytes of the stream at a position; storages have none. -/
def payloadAt (o : Outline) : (id : Nat) → List UInt8
  | 0 => []
  | i + 1 => (o[i]?.bind Entry.payload).getD []

theorem mem_inside {p : Entry × Nat} :
    p ∈ o.inside i ↔ 1 ≤ p.2 ∧ o[p.2 - 1]? = some p.1 ∧ p.1.parent = i := by
  rw [inside, List.mem_filter, List.mem_zipIdx_iff_le_and_getElem?_sub, decide_eq_true_eq, and_assoc]

theorem toList_arrange_perm (order : Name → Name → Bool) (o : Outline) (i : Nat) :
    (arrange order o i).toList.Perm ((o.inside i).map Prod.snd) := by
  rw [arrange, SiblingTree.toList_balanced]
  exact (List.mergeSort_perm _ _).map _

theorem mem_toList_arrange :
    k ∈ (arrange order o i).toList ↔ 1 ≤ k ∧ ∃ e, o[k - 1]? = some e ∧ e.parent = i := by
  rw [(toList_arrange_perm order o i).mem_iff, List.mem_map]
  constructor
  · rintro ⟨p, hp, rfl⟩
    obtain ⟨hk, he, hparent⟩ := mem_inside.mp hp
    exact ⟨hk, p.1, he, hparent⟩
  · rintro ⟨hk, e, he, hparent⟩
    exact ⟨(e, k), mem_inside.mpr ⟨hk, he, hparent⟩, rfl⟩

theorem nodup_toList_arrange (order : Name → Name → Bool) (o : Outline) (i : Nat) :
    (arrange order o i).toList.Nodup := by
  rw [(toList_arrange_perm order o i).nodup_iff]
  have hall : ((o.zipIdx 1).map Prod.snd).Nodup := by
    rw [List.zipIdx_map_snd]
    exact List.nodup_range'
  exact hall.sublist (List.filter_sublist.map _)

/-! ### Items -/

/-- The root's record. -/
def rootItem (order : Name → Name → Bool) (o : Outline) : Item :=
  { name := rootName, kind := .root, child := (arrange order o 0).root }

/-- The records behind the root's. -/
def rest (order : Name → Name → Bool) (o : Outline) : List Item :=
  (o.zipIdx 1).map fun (e, id) => item order o e id

theorem items_eq (order : Name → Name → Bool) (o : Outline) :
    o.items order = rootItem order o :: rest order o := rfl

theorem length_rest (order : Name → Name → Bool) (o : Outline) : (rest order o).length = o.length := by
  rw [rest, List.length_map, List.length_zipIdx]

theorem getElem?_rest (order : Name → Name → Bool) (h : o[i]? = some e) :
    (rest order o)[i]? = some (item order o e (i + 1)) := by
  rw [rest, List.getElem?_map, List.getElem?_zipIdx, h]
  simp [Nat.add_comm]

theorem item_name (order : Name → Name → Bool) (o : Outline) (e : Entry) (id : Nat) :
    (item order o e id).name = e.name := by
  unfold item
  split <;> rfl

theorem item_payload (order : Name → Name → Bool) (o : Outline) (e : Entry) (id : Nat) :
    (item order o e id).payload = e.payload.getD [] := by
  unfold item
  split <;> simp [*]

theorem item_payload_of_not_isStream {id : Nat} (h : (item order o e id).kind.isStream = false) :
    (item order o e id).payload = [] := by
  revert h
  unfold item
  split
  · exact fun h => absurd h.symm Bool.false_ne_true
  · exact fun _ => rfl

theorem item_links (order : Name → Name → Bool) (o : Outline) (e : Entry) (id : Nat) :
    (item order o e id).left = (linksOf (arrange order o e.parent) id).1 ∧
      (item order o e id).right = (linksOf (arrange order o e.parent) id).2 := by
  unfold item
  split <;> exact ⟨rfl, rfl⟩

theorem item_of_isStorage {id : Nat} (h : (item order o e id).kind.isStorage = true) :
    (item order o e id).child = (arrange order o id).root := by
  revert h
  unfold item
  split
  · intro h
    exact absurd h Bool.false_ne_true
  · exact fun _ => rfl

/-- A link of an outline leads nowhere or to an entry. -/
theorem link_lt {link : Nat} (h : link = freeSector ∨ link ∈ (arrange order o i).toList)
    (hsmall : o.length < freeSector) : link < 2 ^ 32 := by
  rcases h with rfl | h
  · decide
  · obtain ⟨hpos, e, he, -⟩ := mem_toList_arrange.mp h
    have hlt := (List.getElem?_eq_some_iff.mp he).1
    have : freeSector < 2 ^ 32 := by decide
    omega

theorem linksOf_lt (order : Name → Name → Bool) (hsmall : o.length < freeSector) (i id : Nat) :
    (linksOf (arrange order o i) id).1 < 2 ^ 32 ∧ (linksOf (arrange order o i) id).2 < 2 ^ 32 := by
  rw [linksOf]
  cases hlookup : (arrange order o i).links.lookup id with
  | none =>
    -- both links are free
    exact ⟨by decide, by decide⟩
  | some links =>
    -- links that were looked up are links of the tree
    obtain ⟨front, back, heq, -⟩ := List.lookup_eq_some_iff.mp hlookup
    have hmem : (id, links.1, links.2) ∈ (arrange order o i).links := by
      rw [heq]
      exact List.mem_append_right _ (List.mem_cons_self ..)
    obtain ⟨hleft, hright⟩ := SiblingTree.links_cases hmem
    exact ⟨link_lt hleft hsmall, link_lt hright hsmall⟩

theorem fits_rootItem (order : Name → Name → Bool) (hsmall : o.length < freeSector) {start size : Nat}
    (hstart : start < 2 ^ 32) (hsize : size < 2 ^ 64) :
    Slot.Fits ⟨rootItem order o, start, size⟩ where
  kind := rfl
  unused h := by cases h
  length := (by decide : rootName.length < Record.nameUnits)
  units := (by decide : ∀ c ∈ rootName, c < 2 ^ 16)
  left := (by decide : freeSector < 2 ^ 32)
  right := (by decide : freeSector < 2 ^ 32)
  child := link_lt (SiblingTree.root_cases _) hsmall
  start := hstart
  size := hsize

theorem fits_item (order : Name → Name → Bool) (hw : o.WellFormed) (hsmall : o.length < freeSector)
    (he : o[i]? = some e) {start size : Nat} (hstart : start < 2 ^ 32) (hsize : size < 2 ^ 64) :
    Slot.Fits ⟨item order o e (i + 1), start, size⟩ := by
  have hmem := List.mem_of_getElem? he
  obtain ⟨hleft, hright⟩ := item_links order o e (i + 1)
  obtain ⟨hleft', hright'⟩ := linksOf_lt order hsmall e.parent (i + 1)
  have hkind : (item order o e (i + 1)).kind = .stream ∨ (item order o e (i + 1)).kind = .storage := by
    unfold item
    split
    · exact .inl rfl
    · exact .inr rfl
  -- the kind is one of two, the names are short, and the links fit
  refine ⟨?_, ?_, ?_, ?_, ?_, ?_, ?_, hstart, hsize⟩
  · rcases hkind with h | h <;> · dsimp only; rw [h]; rfl
  · rcases hkind with h | h <;> · dsimp only; rw [h]; exact fun h => nomatch h
  · dsimp only
    rw [item_name]
    exact (hw.length e hmem).2
  · dsimp only
    rw [item_name]
    exact hw.units e hmem
  · exact hleft ▸ hleft'
  · exact hright ▸ hright'
  · unfold item
    split
    · exact (by decide : freeSector < 2 ^ 32)
    · exact link_lt (SiblingTree.root_cases _) hsmall

/-! ### The directory of an outline -/

/-- A directory with the records of an outline: the root's, one for every entry in the order of the
outline, and behind them only records that are not in use. -/
structure Listed (order : Name → Name → Bool) (o : Outline) (d : Directory) : Prop where
  root : ∃ start size, Slot.Shows ⟨rootItem order o, start, size⟩ d.root
  entry : ∀ (i : Nat) (e : Entry), o[i]? = some e → ∃ start size r,
    d.records[i + 1]? = some r ∧ Slot.Shows ⟨item order o e (i + 1), start, size⟩ r
  other : ∀ (i : Nat) (r : Record), d.records[i + 1]? = some r → o[i]? = none →
    r.kind = .unallocated

variable {d : Directory}

theorem Listed.getElem?_of_mem (h : Listed order o d) (hk : k ∈ (arrange order o i).toList) :
    ∃ e r, 1 ≤ k ∧ o[k - 1]? = some e ∧ e.parent = i ∧ d.records[k]? = some r ∧ r.name = e.name ∧
      r.left = (linksOf (arrange order o i) k).1 ∧ r.right = (linksOf (arrange order o i) k).2 := by
  obtain ⟨hpos, e, he, hparent⟩ := mem_toList_arrange.mp hk
  obtain ⟨start, size, r, hr, hshows⟩ := h.entry _ _ he
  rw [Nat.sub_add_cancel hpos] at hr hshows
  obtain ⟨hleft, hright⟩ := item_links order o e k
  refine ⟨e, r, hpos, he, hparent, hr, hshows.name.trans (item_name order o e k), ?_, ?_⟩
  · rw [← hparent]
    exact hshows.left.trans hleft
  · rw [← hparent]
    exact hshows.right.trans hright

/-- The links of the records spell out the trees of siblings. -/
theorem Listed.spells (h : Listed order o d) (hsize : d.records.size ≤ freeSector) (i : Nat) :
    d.Spells (arrange order o i).root (arrange order o i) := by
  refine Directory.spells_of_links (fun id hid => ?_) fun id left right hlinks => ?_
  · -- so small a directory has no record at the position that means `no link`
    obtain ⟨e, r, -, -, -, hr, -⟩ := h.getElem?_of_mem hid
    have := (Array.getElem?_eq_some_iff.mp hr).1
    omega
  · have hid : id ∈ (arrange order o i).toList := by
      rw [← SiblingTree.map_fst_links]
      exact List.mem_map_of_mem hlinks
    have hlookup := SiblingTree.lookup_links (nodup_toList_arrange order o i) hlinks
    obtain ⟨e, r, -, -, -, hr, -, hleft, hright⟩ := h.getElem?_of_mem hid
    -- what the tree says about the record is what its slot was given
    rw [linksOf, hlookup] at hleft hright
    exact ⟨r, hr, hleft, hright⟩

theorem Listed.spelled (h : Listed order o d) (hsize : d.records.size ≤ freeSector) :
    d.Spelled o.parentOf (arrange order o) where
  spells i r hr hstorage := by
    -- it is enough that the storage leads to the root of its tree
    suffices hchild : r.child = (arrange order o i).root by
      rw [hchild]
      exact h.spells hsize i
    cases i with
    | zero =>
      obtain ⟨start, size, hshows⟩ := h.root
      rw [Directory.getElem?_root, Option.some.injEq] at hr
      exact hr ▸ hshows.child
    | succ i =>
      replace hstorage := hstorage.resolve_left (Nat.succ_ne_zero i)
      cases he : o[i]? with
      | none =>
        -- records behind the last entry are not in use
        rw [Record.isStorage, h.other i r hr he] at hstorage
        exact absurd hstorage Bool.false_ne_true
      | some e =>
        obtain ⟨start, size, r', hr', hshows⟩ := h.entry i e he
        obtain rfl : r = r' := Option.some.inj (hr.symm.trans hr')
        rw [hshows.child]
        refine item_of_isStorage ?_
        rw [← hshows.kind]
        exact hstorage
  nodup i := nodup_toList_arrange order o i
  parent i k hk := by
    obtain ⟨hpos, e, he, hparent⟩ := mem_toList_arrange.mp hk
    refine ⟨Nat.ne_of_gt hpos, ?_⟩
    rw [parentOf, he]
    exact hparent

/-! ### Paths -/

/-- The names on the way from the root to a position, as they are read. -/
inductive At (o : Outline) : (id : Nat) → (trail : List Name) → Prop
  | root : At o 0 []
  | entry {i : Nat} {e : Entry} {trail : List Name} :
    o[i]? = some e → At o e.parent trail → At o (i + 1) (trail ++ [e.name.decode])

/-- A node of the tree below such a directory shows its entry. -/
theorem Listed.shows_node (h : Listed order o d) {n : Node} (hn : n ∈ d.tree.value.nodes)
    (hid : n.id = i + 1) (he : o[i]? = some e) :
    n.name = e.name.decode ∧ n.record.kind = (item order o e (i + 1)).kind := by
  obtain ⟨start, size, r, hr, hshows⟩ := h.entry i e he
  obtain ⟨hrec, -⟩ := Directory.fits_tree d n hn
  rw [hid, hr, Option.some.injEq] at hrec
  rw [Node.name, Record.decoded, ← hrec, hshows.name, item_name]
  exact ⟨rfl, hshows.kind⟩

/-- The names on the way to an entry lead to the node with its record. -/
theorem Listed.descend (h : Listed order o d) (hsize : d.records.size ≤ freeSector)
    (hw : o.WellFormed) {id : Nat} {trail : List Name} (hat : o.At id trail) :
    ∃ n, d.tree.value.descend trail = some n ∧ n ∈ d.tree.value.nodes ∧ n.id = id := by
  obtain ⟨-, hshaped⟩ := Directory.tree_spelled (h.spelled hsize)
  -- on the way to the entry: its parent has a node, whose children are those of the outline
  induction hat with
  | root =>
    refine ⟨_, rfl, Node.mem_nodes_self _, ?_⟩
    rw [Directory.value_tree]
    exact (Directory.grow_grown d.size 0 d.root (.ofList [0])).id_eq
  | @entry i e trail he hat ih =>
    obtain ⟨n, hn, hmem, hid⟩ := ih
    -- a parent is the root or a storage, so the node has children at all
    have hstorage : n.id = 0 ∨ n.record.isStorage := by
      rcases (hw.parent i e he).2 with h0 | ⟨f, hf, hpayload⟩
      · exact .inl (hid.trans h0)
      by_cases h0 : e.parent = 0
      · exact .inl (hid.trans h0)
      · have hkind := (h.shows_node hmem (hid.trans (by omega)) hf).2
        rw [item, hpayload] at hkind
        rw [Record.isStorage, hkind]
        exact .inr rfl
    have hchildren := hshaped n hmem hstorage
    have hnodup : (n.children.map Node.id).Nodup := hchildren ▸ nodup_toList_arrange order o n.id
    -- the entry is arranged below its parent, so one of the children has its record
    have hk : i + 1 ∈ n.children.map Node.id := by
      rw [hchildren]
      exact mem_toList_arrange.mpr ⟨Nat.succ_pos i, e, he, hid.symm⟩
    obtain ⟨c, hc, hcid⟩ := List.mem_map.mp hk
    have hcmem := Node.mem_nodes_of_mem_children hmem hc
    refine ⟨c, Node.descend_of_child hn hc (h.shows_node hcmem hcid he).1 ?_, hcmem, hcid⟩
    -- a child of the same name would be the same entry
    intro c' hc' hname
    have hk' : c'.id ∈ (arrange order o n.id).toList := hchildren ▸ List.mem_map_of_mem hc'
    obtain ⟨hpos, f, hf, hparent⟩ := mem_toList_arrange.mp hk'
    have hname' := (h.shows_node (Node.mem_nodes_of_mem_children hmem hc')
      (Nat.sub_add_cancel hpos).symm hf).1
    have hindex := hw.distinct _ _ f e hf he (hparent.trans hid) (hname'.symm.trans hname)
    refine List.inj_on_of_nodup_map hnodup hc' hc ?_
    rw [hcid, ← hindex, Nat.sub_add_cancel hpos]

end Outline

end InstallerPackage
