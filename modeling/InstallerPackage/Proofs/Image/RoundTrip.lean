import InstallerPackage.Proofs.Image.Loading
import InstallerPackage.Proofs.Packages
import InstallerPackage.Proofs.Paths

/-!
# What is written is what is read

`Package.openStream?_write` is the round trip of compound files: for every outline that a directory
can hold, in every layout, a written file opens without a notice about the file, and the path to an
entry leads to its payload.
-/

namespace InstallerPackage

open Image

namespace Outline

variable {o : Outline} {id : Nat} {trail : List Name}

/-- Every entry can be reached from the root, as its storage comes before it. -/
theorem WellFormed.exists_at (hw : o.WellFormed) (i : Nat) {e : Entry} (he : o[i]? = some e) :
    ∃ trail, o.At (i + 1) trail := by
  -- a storage has a smaller position than what is in it
  induction i using Nat.strongRecOn generalizing e with
  | ind i ih =>
    obtain ⟨hle, hstorage⟩ := hw.parent i e he
    rcases Nat.eq_zero_or_pos e.parent with hzero | hpos
    · have hat : o.At e.parent [] := by
        rw [hzero]
        exact .root
      exact ⟨_, .entry he hat⟩
    · -- the way to its storage, and then one step more
      obtain ⟨f, hf, -⟩ := hstorage.resolve_left (Nat.ne_of_gt hpos)
      obtain ⟨trail, hat⟩ := ih (e.parent - 1) (by omega) hf
      rw [Nat.sub_add_cancel hpos] at hat
      exact ⟨_, .entry he hat⟩

/-- The names on the way to an entry can be joined to a path. -/
theorem WellFormed.steps_joinAll (hw : o.WellFormed) (hat : o.At id trail) :
    (Name.joinAll trail).steps = trail := by
  refine Name.steps_joinAll ?_
  -- on the way: a name with neither slashes nor gaps is one step
  induction hat with
  | root => exact fun name hname => absurd hname List.not_mem_nil
  | @entry i e trail he hat ih =>
    have hmem := List.mem_of_getElem? he
    intro name hname
    rcases List.mem_append.mp hname with hname | hname
    · exact ih name hname
    · rw [List.mem_singleton.mp hname]
      refine ⟨Name.decode_ne_nil ?_, hw.slash e hmem⟩
      exact List.ne_nil_of_length_pos (hw.length e hmem).1

end Outline

/-- **Round trip.** Take any entries that a directory can hold and any layout that a header can
describe. If the file needs no more sectors than a reader follows, then it is opened as a package
without a notice about any part of the compound file, every entry has a path, and the stream at the
path of an entry is exactly its payload, or empty for a storage. -/
theorem Package.openStream?_write (l : Layout) (o : Outline) (style : Manifest.Style) (hl : l.Valid)
    (hw : o.WellFormed) (hs : (plan l (o.items l.order)).Small) :
    ∃ p, (Package.load (write l o) style).outcome.value = .ok p ∧
      (∀ n ∈ (Package.load (write l o) style).outcome.notices, n.area ∉
        [Area.header, .allocationList, .allocationTable, .chain, .directory, .miniStream]) ∧
      ∀ (i : Nat) (e : Entry), o[i]? = some e →
        (∃ trail, o.At (i + 1) trail) ∧
        ∀ trail, o.At (i + 1) trail →
          p.openStream? (Name.joinAll trail) = some ⟨Bytes.ofList (e.payload.getD []), []⟩ := by
  obtain ⟨c, hc, hholding⟩ := load_write hl hw hs
  -- a package reads streams of all kinds, and all of them are there
  have hquiet : c.Quiet := by
    intro r hr
    obtain ⟨i, hi⟩ := Array.mem_iff_getElem?.mp hr
    rw [hholding.readRecord i r hi]
  obtain ⟨p, hp, hpc, hareas⟩ := Package.load_of_container hc hquiet style
  refine ⟨p, hp, fun n hn => ?_, fun i e he => ⟨hw.exists_at i he, fun trail hat => ?_⟩⟩
  · -- the areas of the notices are those of later phases
    have harea := hareas n hn
    revert harea
    cases n.area <;> decide
  · -- the path leads to the node of the entry, and the record of that node is the entry's
    obtain ⟨n, hn, hmem, hid⟩ := hholding.listed.descend hholding.size_le hw hat
    have hrecord := (Directory.fits_tree c.directory n hmem).1
    rw [hid] at hrecord
    have hfind : c.root.find? (Name.joinAll trail) = some n := by
      rw [Node.find?, hw.steps_joinAll hat, hholding.root, hn]
    rw [Package.openStream?, hpc, hfind, Option.map_some, hholding.readRecord _ _ hrecord, Outline.payloadAt, he]
    rfl

/-- The sample opens as a package, and the path to its short stream leads to its payload. -/
theorem Package.openStream?_write_sample :
    let long := List.replicate miniCutoff 7
    let o := Outline.sample long
    Layout.sample.Valid ∧ o.WellFormed ∧ (plan .sample (o.items Layout.sample.order)).Small ∧
      ∃ p, (Package.load (write .sample o) {}).outcome.value = .ok p ∧
        p.openStream? (Name.ofString "A/b") = some ⟨Bytes.ofList [1, 2, 3], []⟩ ∧
        p.openStream? (Name.ofString "c") = some ⟨Bytes.ofList long, []⟩ := by
  intro long o
  have hw := Outline.wellFormed_sample long
  have hs : (plan .sample (o.items Layout.sample.order)).Small := small_sample List.length_replicate
  refine ⟨Layout.valid_sample, hw, hs, ?_⟩
  obtain ⟨p, hp, -, hread⟩ := Package.openStream?_write .sample o {} Layout.valid_sample hw hs
  have hstorage : o[0]? = some { name := Name.ofString "A" } := rfl
  have hshort : o[1]? = some { name := Name.ofString "b", parent := 1, payload := some [1, 2, 3] } :=
    rfl
  have hlong : o[2]? = some { name := Name.ofString "c", payload := some long } := rfl
  exact ⟨p, hp, (hread 1 _ hshort).2 _ (.entry hshort (.entry hstorage .root)),
    (hread 2 _ hlong).2 _ (.entry hlong .root)⟩

end InstallerPackage
