import InstallerPackage.Container.Siblings

/-!
# What a compound file is to hold

An `Outline` lists the storages and streams to be written, in any order in which every storage comes
before what is in it. The position of an entry in the list is its position in the directory, behind
the root. `Outline.items` are the directory records: the entries of a storage are linked into a
balanced tree of siblings, in the order of their names.
-/

namespace InstallerPackage

/-- A storage or a stream to be written. -/
structure Entry where
  /-- The name as stored. -/
  name : Name
  /-- The position of the storage that the entry is in; 0 is the root. -/
  parent : Nat := 0
  /-- The bytes of a stream; a storage has none. -/
  payload : Option (List UInt8) := none
  deriving DecidableEq, Repr

/-- The entries to be written. Entry `i` of the list has position `i + 1`. -/
abbrev Outline := List Entry

/-- A directory record to be written, before its stream has a place. -/
structure Item where
  /-- The name as stored. -/
  name : Name
  kind : ObjectKind
  payload : List UInt8 := []
  left : Nat := freeSector
  right : Nat := freeSector
  child : Nat := freeSector
  deriving DecidableEq, Repr

namespace Outline

/-- The entries in a storage, with their positions. -/
def inside (o : Outline) (id : Nat) : List (Entry × Nat) := (o.zipIdx 1).filter (·.1.parent = id)

/-- The tree of the siblings in a storage, in the order of their names. -/
def arrange (order : Name → Name → Bool) (o : Outline) (id : Nat) : SiblingTree :=
  .balanced (((o.inside id).mergeSort fun a b => order a.1.name b.1.name).map Prod.snd)

/-- The links of a record in a tree of siblings. -/
def linksOf (tree : SiblingTree) (id : Nat) : Nat × Nat :=
  (tree.links.lookup id).getD (freeSector, freeSector)

/-- The record for an entry. -/
def item (order : Name → Name → Bool) (o : Outline) (e : Entry) (id : Nat) : Item :=
  let links := linksOf (arrange order o e.parent) id
  match e.payload with
  | some payload =>
    { name := e.name, kind := .stream, payload := payload, left := links.1, right := links.2 }
  | none =>
    { name := e.name, kind := .storage, left := links.1, right := links.2
      child := (arrange order o id).root }

/-- The name of every root record. -/
def rootName : Name := Name.ofString "Root Entry"

/-- The records for a file with the given entries: the root comes first. -/
def items (order : Name → Name → Bool) (o : Outline) : List Item :=
  { name := rootName, kind := .root, child := (arrange order o 0).root } ::
    (o.zipIdx 1).map fun (e, id) => item order o e id

end Outline

end InstallerPackage
