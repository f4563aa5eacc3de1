import InstallerPackage.Package
import InstallerPackage.Proofs.Opening

/-!
# From the file to the package

Once the compound file is open, nothing can make `Package.load` fail, and apart from what is reported
while streams are read, its notices are about the summary, the string pool and the schema:
`Package.load_of_container`. `Package.ReadFrom` says of every part of a package where it comes from.
-/

namespace InstallerPackage

namespace Noted

variable {α β : Type} {areas : List Area}

/-- All notices are about the given areas. -/
def About (areas : List Area) (x : Noted α) : Prop := ∀ n ∈ x.notices, n.area ∈ areas

theorem about_of_notices {x : Noted α} (h : x.notices = []) : x.About areas := by
  intro n hn
  rw [h] at hn
  exact absurd hn List.not_mem_nil

theorem About.bind {x : Noted α} {f : α → Noted β} (hx : x.About areas)
    (hf : ∀ a, (f a).About areas) : (x >>= f).About areas := by
  intro n hn
  rw [notices_bind, List.mem_append] at hn
  exact hn.elim (hx n) (hf _ n)

end Noted

open Noted

/-! ### The parts of a package -/

/-- What is read behind the compound file itself. -/
def Area.behindContainer : List Area := [.summary, .stringPool, .schema]

theorem Summary.about_apply (b : ByteArray) (s : Summary) :
    (Summary.apply b s).About Area.behindContainer := by
  unfold apply
  split
  · exact about_of_notices rfl
  · dsimp only
    split
    · refine About.bind (fun n hn => ?_) fun _ => about_of_notices rfl
      rw [List.mem_singleton.mp hn]
      exact (by decide : Area.summary ∈ Area.behindContainer)
    · exact about_of_notices rfl

theorem StringPool.about_cutFrom (page : CodePage) (text : ByteArray) (offset index : Nat)
    (lengths : List Nat) (found : Array String) :
    (cutFrom page text offset index lengths found).About Area.behindContainer := by
  induction lengths generalizing offset index found with
  | nil => exact about_of_notices rfl
  | cons length rest ih =>
    unfold cutFrom
    split
    · intro n hn
      rw [List.mem_singleton.mp hn]
      exact (by decide : Area.stringPool ∈ Area.behindContainer)
    · exact ih _ _ _

theorem StringPool.about_read? (pool text : ByteArray) :
    (read? pool text).About Area.behindContainer := by
  unfold read?
  split
  · exact about_of_notices rfl
  · refine About.bind ?_ fun _ => about_of_notices rfl
    unfold cut
    split
    · exact about_of_notices rfl
    · exact about_cutFrom _ text 0 1 _ _

variable {c : Container}

/-- Every stream of a file can be read without a notice. -/
def Container.Quiet (c : Container) : Prop :=
  ∀ r ∈ c.directory.records, (c.volume.readRecord r).notices = []

namespace Database

theorem mem_of_find? {name : Name} {r : Record} (h : find? c name = some r) :
    r ∈ c.directory.records :=
  Array.mem_of_find?_eq_some h

theorem about_loadPool (hc : c.Quiet) : (loadPool c).About Area.behindContainer := by
  unfold loadPool
  split
  · next hpool htext =>
    refine (about_of_notices (hc _ (mem_of_find? hpool))).bind fun pool => ?_
    refine (about_of_notices (hc _ (mem_of_find? htext))).bind fun text => ?_
    exact StringPool.about_read? pool text
  · exact about_of_notices rfl

theorem about_loadTables (hc : c.Quiet) (pool : StringPool) :
    (loadTables c pool).About Area.behindContainer := by
  unfold loadTables
  split
  · intro n hn
    rw [List.mem_singleton.mp hn]
    decide
  · next r hr =>
    -- the stream of the columns is not looked for when it is empty
    have hfound := (Option.filter_eq_some_iff.mp hr).1
    exact (about_of_notices (hc r (mem_of_find? hfound))).bind fun _ => about_of_notices rfl

theorem about_readTable (hc : c.Quiet) (db : Database) (name : String) :
    (db.readTable c name).About Area.behindContainer := by
  unfold readTable
  split
  · next hr => exact (about_of_notices (hc _ (mem_of_find? hr))).bind fun _ => about_of_notices rfl
  · exact about_of_notices rfl

theorem about_manifest (hc : c.Quiet) (db : Database) (style : Manifest.Style) :
    (db.manifest c style).About Area.behindContainer := by
  unfold manifest
  split
  · exact about_of_notices rfl
  · exact (about_readTable hc db _).bind fun _ => (about_readTable hc db _).bind fun _ =>
      (about_readTable hc db _).bind fun _ => about_of_notices rfl

end Database

namespace Package

theorem about_loadSummary (hc : c.Quiet) : (loadSummary c).About Area.behindContainer := by
  unfold loadSummary
  split
  · exact about_of_notices rfl
  · next hr =>
    exact (about_of_notices (hc _ (Array.mem_of_find?_eq_some hr))).bind fun bytes =>
      Summary.about_apply bytes _

/-- A file whose streams can all be read is opened as a package, and what there is to report is not
about the compound file. -/
theorem load_of_container {b : ByteArray} (h : (Container.load b).outcome = ⟨.ok c, []⟩)
    (hc : c.Quiet) (style : Manifest.Style) :
    ∃ p, (load b style).outcome.value = .ok p ∧ p.container = c ∧
      ∀ n ∈ (load b style).outcome.notices, n.area ∈ Area.behindContainer := by
  rw [load, Attempt.outcome_bind_of_eq h, Attempt.outcome_ofNoted_bind]
  dsimp only
  rw [Attempt.outcome_ofNoted_bind]
  -- every later phase reports on its own area only, so the notices can be taken phase by phase
  have hsummary := about_loadSummary hc
  have hpool := Database.about_loadPool hc
  cases hp : (Database.loadPool c).value with
  | none =>
    -- a package without a database
    refine ⟨_, rfl, rfl, fun n hn => ?_⟩
    rcases List.mem_append.mp hn with hn | hn
    · exact hsummary n hn
    rcases List.mem_append.mp hn with hn | hn
    · exact hpool n hn
    · exact absurd hn List.not_mem_nil
  | some pool =>
    -- with a pool, the tables and the list of files are read as well
    have htables := Database.about_loadTables hc pool
    have hmanifest := Database.about_manifest hc (Database.loadTables c pool).value style
    dsimp only
    rw [Attempt.outcome_ofNoted_bind]
    dsimp only
    rw [Attempt.outcome_ofNoted_bind]
    refine ⟨_, rfl, rfl, fun n hn => ?_⟩
    rcases List.mem_append.mp hn with hn | hn
    · exact hsummary n hn
    rcases List.mem_append.mp hn with hn | hn
    · exact hpool n hn
    rcases List.mem_append.mp hn with hn | hn
    · exact htables n hn
    rcases List.mem_append.mp hn with hn | hn
    · exact hmanifest n hn
    · exact absurd hn List.not_mem_nil

variable {b : ByteArray} {style : Manifest.Style} {p : Package}

/-- Everything in a package was read from its container, and the container from the file. -/
structure ReadFrom (b : ByteArray) (style : Manifest.Style) (p : Package) : Prop where
  container : (Container.load b).outcome.value = .ok p.container
  summary : p.summary = (loadSummary p.container).value
  /-- Without a string pool the database is empty. -/
  database : p.database = (Database.loadPool p.container).value.elim {} fun pool =>
    (Database.loadTables p.container pool).value
  tables : p.tables = p.database.tables.map fun t => ⟨t.name, Database.rowCount p.container t⟩
  files : p.files = (p.database.manifest p.container style).value
  zones : p.zones = Zone.map p.container.volume p.container.header.slots
    p.container.header.directoryStart

theorem readFrom_of_load (h : (load b style).outcome.value = .ok p) : ReadFrom b style p := by
  -- the phases of the loading, each with what it has given
  obtain ⟨c, hc, h⟩ := Attempt.bind_eq_ok.mp h
  obtain ⟨summary, hsummary, h⟩ := Attempt.bind_eq_ok.mp h
  obtain ⟨pool?, hpool, h⟩ := Attempt.bind_eq_ok.mp h
  rw [Attempt.ofNoted_eq_ok] at hsummary hpool
  -- whether there is a database shows at the pool
  cases pool? with
  | none =>
    obtain rfl := Attempt.pure_eq_ok.mp h
    exact ⟨hc, hsummary.symm, by rw [hpool]; rfl, rfl, rfl, rfl⟩
  | some pool =>
    obtain ⟨db, hdb, h⟩ := Attempt.bind_eq_ok.mp h
    obtain ⟨files, hfiles, h⟩ := Attempt.bind_eq_ok.mp h
    rw [Attempt.ofNoted_eq_ok] at hdb hfiles
    obtain rfl := Attempt.pure_eq_ok.mp h
    exact ⟨hc, hsummary.symm, by rw [hpool]; exact hdb.symm, rfl, hfiles.symm, rfl⟩

/-- The parts of a loaded package, each as it was read from the open file. -/
structure Loaded (b : ByteArray) (style : Manifest.Style) (p : Package) : Prop where
  container : p.container.Opened b
  summary : p.summary = (loadSummary p.container).value
  /-- There is a database only behind a string pool. -/
  database : (p.tables = [] ∧ p.files = []) ∨
    ∃ pool, p.database = (Database.loadTables p.container pool).value ∧
      p.tables.length = p.database.tables.length ∧
      p.files = (p.database.manifest p.container style).value

theorem loaded_of_load (hload : (load b style).outcome.value = .ok p) : Loaded b style p := by
  have h := readFrom_of_load hload
  refine ⟨Container.opened_of_load h.container, h.summary, ?_⟩
  have hdatabase := h.database
  -- without a pool the database is the empty one
  cases hpool : (Database.loadPool p.container).value with
  | none =>
    rw [hpool] at hdatabase
    refine .inl ⟨?_, ?_⟩
    · rw [h.tables, hdatabase]
      rfl
    · rw [h.files, hdatabase]
      rfl
  | some pool =>
    rw [hpool] at hdatabase
    exact .inr ⟨pool, hdatabase, by rw [h.tables, List.length_map], h.files⟩

end Package

end InstallerPackage
