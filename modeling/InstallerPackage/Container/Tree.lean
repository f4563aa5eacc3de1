import Std.Data.TreeMap
import Std.Data.TreeSet
import InstallerPackage.Container.Directory

/-!
# The tree of storages

The children of a storage form a binary tree of their own: the storage's record leads to the root of
that tree, and every record in it leads to one subtree with the siblings before and to one with
the siblings after it. Links may be damaged, shared or cyclic, so a record is *claimed* when it is met
for the first time and ignored from then on. Trees may also be as deep as the directory is long, so they
are gone through with a stack of what is left to do:

* `Directory.claim` decides whether a link leads to a new record, and reports links to nowhere;
* `Directory.listFrom` lists a tree of siblings in order. Its stack has the records that wait until
  everything on their left is listed;
* `Directory.attachFrom` finds the children of the root and of all storages. Its stack has the storages
  whose children have not been looked for;
* `Directory.tree` is the whole tree, put together from these families. The root has been claimed from
  the start.

`Node.places` walks a tree with every parent before its children, once more with a stack, and
`Node.find?` goes down a path.
-/

namespace InstallerPackage

/-- A record in its place in the tree. -/
inductive Node where
  | mk (id : Nat) (record : Record) (children : List Node)

namespace Node

/-- The position of the node's record in the directory. -/
def id : Node → Nat
  | mk id _ _ => id

/-- The record of the node. -/
def record : Node → Record
  | mk _ record _ => record

/-- The nodes below this one, in order. -/
def children : Node → List Node
  | mk _ _ children => children

/-- The readable name of the node. -/
def name (n : Node) : Name := n.record.decoded

end Node

/-! ### Building the tree -/

namespace Directory

/-- A pass over the directory that remembers which records it has met. -/
abbrev Scan := StateT (Std.TreeSet Nat) Noted

/-- The record that a link leads to, unless it leads nowhere or has been met before. -/
def claim (d : Directory) (link : Nat) : Scan (Option Record) := fun met =>
  if link = freeSector then pure (none, met)
  else match d.records[link]? with
    | none => ⟨(none, met), [.recordOutside link d.size]⟩
    | some record =>
      -- a record is claimed by the first link to it, whatever that link is for
      if met.contains link then pure (none, met) else pure (some record, met.insert link)

/-- Goes on with the list of a tree of siblings. A turn tests one link. If it leads to a new record, the
record is put on the stack and its left link is next. Otherwise everything on the left of the record on
top of the stack has been listed, so that record is listed too and its right link is next. With an empty
stack the list is complete. -/
def listFrom (d : Directory) :
    (turns : Nat) → (link : Nat) → (stack : List (Nat × Record)) → (found : Array (Nat × Record)) →
      (met : Std.TreeSet Nat) → (noticed : Array Notice) →
      Noted (List (Nat × Record) × Std.TreeSet Nat)
  | 0, _, _, found, met, noticed => ⟨(found.toList, met), noticed.toList⟩
  | turns + 1, link, stack, found, met, noticed =>
    let tested := (d.claim link).run met
    let noticed := noticed ++ tested.notices
    match tested.value with
    | (some record, met) =>
      listFrom d turns record.left ((link, record) :: stack) found met noticed
    | (none, met) =>
      match stack with
      | [] => ⟨(found.toList, met), noticed.toList⟩
      | (id, record) :: stack =>
        -- everything on the left of the record is listed, so it is its turn
        listFrom d turns record.right stack (found.push (id, record)) met noticed

/-- The siblings that can be reached from a link, in order. Every record is put on the stack and taken
from it once, and the root is never among them, so twice as many turns as there are records are
enough. -/
def siblingsAt (d : Directory) (link : Nat) : Scan (List (Nat × Record)) := fun met =>
  d.listFrom (2 * d.size) link [] #[] met #[]

/-- A storage, by the position of its record, and the records of its children in order. -/
structure Family where
  parent : Nat
  children : List (Nat × Record)

/-- Puts the storages among some siblings on the stack, the last one on top. -/
def pushStorages (found stack : List (Nat × Record)) : List (Nat × Record) :=
  found.foldl (fun stack p => if p.2.isStorage then p :: stack else stack) stack

/-- Finds the children of all storages on the stack, and of the storages among these children. The family
that was found last comes first. -/
def attachFrom (d : Directory) :
    (turns : Nat) → (stack : List (Nat × Record)) → (families : List Family) →
      (met : Std.TreeSet Nat) → (noticed : Array Notice) → Noted (List Family)
  | _, [], families, _, noticed => ⟨families, noticed.toList⟩
  | 0, _, families, _, noticed => ⟨families, noticed.toList⟩
  | turns + 1, (id, record) :: stack, families, met, noticed =>
    let found := (d.siblingsAt record.child).run met
    -- the last of the new storages comes on top, so its children are found next
    attachFrom d turns (pushStorages found.value.1 stack) (⟨id, found.value.1⟩ :: families)
      found.value.2 (noticed ++ found.notices)

/-- The nodes below each storage, with one family more. What is below its children has to be there
already. -/
def withFamily (below : Std.TreeMap Nat (List Node)) (f : Family) : Std.TreeMap Nat (List Node) :=
  below.insert f.parent (f.children.map fun (id, record) => .mk id record (below.getD id []))

/-- The nodes below each storage. A storage comes on the stack when the family that it belongs to is
found, so its own family was found later, and comes first. -/
def assemble (families : List Family) : Std.TreeMap Nat (List Node) := families.foldl withFamily ∅

/-- The tree below the root record. A storage is put on the stack once, so there are no more turns than
records. -/
def tree (d : Directory) : Noted Node := do
  let families ← d.attachFrom d.size [(0, d.root)] [] (.ofList [0]) #[]
  pure (.mk 0 d.root ((assemble families).getD 0 []))

end Directory

/-! ### Walking the tree -/

/-- A node and how it is reached. -/
structure Place where
  /-- The names from this node up to the child of the root, the node's own name first. -/
  trail : List Name
  node : Node

/-- The path from below the root to the node. -/
def Place.path (p : Place) : Name := p.trail.foldr (fun name path => path.join name) []

namespace Node

theorem sizeOf_append_le (l more : List Node) : sizeOf (l ++ more) ≤ sizeOf l + sizeOf more := by
  induction l with
  | nil => exact Nat.le_add_left ..
  | cons n l ih =>
    rw [List.cons_append, List.cons.sizeOf_spec, List.cons.sizeOf_spec]
    omega

/-- Goes on with a walk. The stack has the nodes whose turn is still to come, with the names of the nodes
above them; the children of a node are put on it from the last to the first, so that the first child
comes next. -/
def walkFrom (stack : List (List Name × Node)) (walked : Array Place) : Array Place :=
  match stack with
  | [] => walked
  | (above, node) :: stack =>
    let trail := node.name :: above
    -- what is below a node is walked before what comes behind it
    walkFrom (node.children.map (trail, ·) ++ stack) (walked.push ⟨trail, node⟩)
termination_by sizeOf (stack.map Prod.snd)
decreasing_by
  obtain ⟨id, record, children⟩ := node
  have hsize := sizeOf_append_le children (stack.map Prod.snd)
  have hnode : (children.map (record.decoded :: above, ·)).map Prod.snd = children :=
    (List.map_map ..).trans (List.map_id _)
  simp only [Node.children, Node.name, Node.record, List.map_append, hnode, List.map_cons,
    List.cons.sizeOf_spec, mk.sizeOf_spec]
  omega

/-- All nodes but the root: parents before their children, siblings in order. -/
def places (root : Node) : List Place := (walkFrom (root.children.map ([], ·)) #[]).toList

/-- The node at the end of some steps; a step leads to the first child of that name. -/
def descend : Node → List Name → Option Node
  | node, [] => some node
  | node, step :: rest =>
    match node.children.find? (·.name = step) with
    | some child => descend child rest
    | none => none

/-- The node that a path leads to. Slashes at its ends and doubled ones do not count, so the empty
path leads to the root. -/
def find? (root : Node) (path : Name) : Option Node := root.descend path.steps

end Node

end InstallerPackage
