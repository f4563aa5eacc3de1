import InstallerPackage.Container.Directory

/-!
# Trees of siblings

The records below a storage are linked into a binary tree. `SiblingTree` is that tree as a value:

* `SiblingTree.toList` are its records in order;
* `SiblingTree.balanced` arranges a list with the middle record at the root, and
  `toList_balanced` says that the order is kept;
* `Directory.Spells` says that the links of a directory spell out a given tree.
-/

namespace InstallerPackage

/-- A binary tree of record positions. -/
inductive SiblingTree where
  | leaf
  | node (before : SiblingTree) (id : Nat) (after : SiblingTree)
  deriving DecidableEq, Repr

namespace SiblingTree

/-- The records in order. -/
def toList : SiblingTree → List Nat
  | leaf => []
  | node before id after => before.toList ++ id :: after.toList

/-- The link to a tree. -/
def root : SiblingTree → Nat
  | leaf => freeSector
  | node _ id _ => id

/-- The links of every record in the tree: its position, the link to its left and to its right. -/
def links : SiblingTree → List (Nat × Nat × Nat)
  | leaf => []
  | node before id after => before.links ++ (id, before.root, after.root) :: after.links

/-- The tree that has the middle record of a list at its root, and so on below. -/
def balanced (ids : List Nat) : SiblingTree :=
  match h : ids.drop (ids.length / 2) with
  | [] => leaf
  | id :: after => node (balanced (ids.take (ids.length / 2))) id (balanced after)
termination_by ids.length
decreasing_by
  all_goals
    have := congrArg List.length h
    simp only [List.length_drop, List.length_cons, List.length_take] at *
    omega

theorem toList_balanced (ids : List Nat) : (balanced ids).toList = ids := by
  fun_induction balanced ids with
  | case1 ids h =>
    -- the second half of a list is only empty if the list is
    have := congrArg List.length h
    simp only [List.length_drop, List.length_nil] at this
    have : ids = [] := List.length_eq_zero_iff.mp (by omega)
    simp [toList, this]
  | case2 ids id after h ih₁ ih₂ =>
    rw [toList, ih₁, ih₂, ← h, List.take_append_drop]

end SiblingTree

/-- The links of a directory, from `link` on, spell out a tree. -/
def Directory.Spells (d : Directory) : (link : Nat) → SiblingTree → Prop
  | link, .leaf => link = freeSector
  | link, .node before id after =>
    link = id ∧ id ≠ freeSector ∧
      ∃ r, d.records[id]? = some r ∧ Spells d r.left before ∧ Spells d r.right after

end InstallerPackage
