import InstallerPackage.Proofs.ShorterReads
import InstallerPackage.Proofs.Strict.Packages

/-!
# The sectors of the directory

The directory's chain is followed twice. To read the directory, a walk counts its steps and stops at a
sentinel, at a link that leads out of the table, or at its limit; it may meet a sector many times. To
map the zones of the file, the sectors that were met are remembered, and the chain is followed to the
first link that leads back to one of them or out of the table.

`Chain.Leads` says that a chain leads over given sectors, and no link has a meaning of its own for it.
Two facts decide what the two ways have in common:

* the remembered sectors are closed under the links (`Chain.Leads.closed`), so no way along the chain
  ever leaves them (`Chain.Leads.subset_of_closed`);
* a chain that ends is followed to its end by both, for a link back would keep it from ending
  (`Chain.Leads.eq_of_ends`).

`Volume.materialize_directorySectors` puts them together. `Zone.mem_directorySectors_iff` says which
sectors are remembered, for tables of any size.
-/

namespace InstallerPackage

namespace Chain

/-- From `link` on the chain leads over `sectors`, and then to `last`. A link counts as soon as the
table knows it, even if its number is that of a sentinel. -/
inductive Leads (table : Array Nat) : (link : Nat) → (sectors : List Nat) → (last : Nat) → Prop
  | stop (link : Nat) : Leads table link [] link
  | step {link next last : Nat} {rest : List Nat} (hnext : table[link]? = some next)
      (hrest : Leads table next rest last) : Leads table link (link :: rest) last

variable {table : Array Nat} {link last last' : Nat} {c c' : List Nat}

namespace Leads

theorem of_path (h : Path table link c last) : Leads table link c last := by
  induction c generalizing link with
  | nil =>
    obtain rfl : link = last := h
    exact .stop link
  | cons s rest ih =>
    obtain ⟨rfl, -, next, hnext, hrest⟩ := h
    exact .step hnext (ih hrest)

/-- In a table without room for the sentinels, no link that it knows is one of them. -/
theorem path (hsize : table.size ≤ endOfChain) (h : Leads table link c last) :
    Path table link c last := by
  induction h with
  | stop link => exact rfl
  | step hnext hrest ih =>
    refine ⟨rfl, ?_, _, hnext, ih⟩
    have hlt := (Array.getElem?_eq_some_iff.mp hnext).1
    rw [isSentinel, Bool.or_eq_false_iff]
    refine ⟨beq_false_of_ne (by omega), beq_false_of_ne ?_⟩
    simp only [endOfChain, freeSector] at hsize ⊢
    omega

theorem append {mid : Nat} (h : Leads table link c mid) (h' : Leads table mid c' last) :
    Leads table link (c ++ c') last := by
  induction h with
  | stop link => exact h'
  | step hnext hrest ih => exact .step hnext (ih h')

theorem exists_of_append (h : Leads table link (c ++ c') last) :
    ∃ mid, Leads table link c mid ∧ Leads table mid c' last := by
  induction c generalizing link with
  | nil => exact ⟨link, .stop link, h⟩
  | cons s rest ih =>
    cases h with
    | step hnext hrest =>
      obtain ⟨mid, hbefore, hafter⟩ := ih hrest
      exact ⟨mid, .step hnext hbefore, hafter⟩

/-! ### Where a chain goes -/

theorem lt_size (h : Leads table link c last) : ∀ s ∈ c, s < table.size := by
  induction h with
  | stop link => exact fun s hs => absurd hs List.not_mem_nil
  | step hnext hrest ih =>
    intro s hs
    rcases List.mem_cons.mp hs with rfl | hs
    · exact (Array.getElem?_eq_some_iff.mp hnext).1
    · exact ih s hs

theorem start_mem (h : Leads table link c last) : link ∈ c ∨ link = last := by
  cases h with
  | stop => exact .inr rfl
  | step => exact .inl (List.mem_cons_self ..)

/-- The link of every sector of a chain is the next one, or the one behind all of them. -/
theorem next_mem {s t : Nat} (h : Leads table link c last) (hs : s ∈ c)
    (ht : table[s]? = some t) : t ∈ c ∨ t = last := by
  induction h with
  | stop link => exact absurd hs List.not_mem_nil
  | step hnext hrest ih =>
    rcases List.mem_cons.mp hs with rfl | hs
    · obtain rfl := Option.some.inj (hnext.symm.trans ht)
      exact hrest.start_mem.imp_left (List.mem_cons_of_mem _)
    · exact (ih hs).imp_left (List.mem_cons_of_mem _)

/-- A chain that was followed until it leads back or out of the table is closed under the links. -/
theorem closed (h : Leads table link c last) (hdone : table.size ≤ last ∨ last ∈ c) {s t : Nat}
    (hs : s ∈ c) (ht : table[s]? = some t) (hlt : t < table.size) : t ∈ c := by
  rcases h.next_mem hs ht with ht | rfl
  · exact ht
  · exact hdone.resolve_left (Nat.not_le.mpr hlt)

/-- No way along the chain leaves a set of sectors that is closed under the links. -/
theorem subset_of_closed {met : List Nat} (h : Leads table link c last)
    (hstart : link < table.size → link ∈ met)
    (hclosed : ∀ s ∈ met, ∀ t, table[s]? = some t → t < table.size → t ∈ met) :
    ∀ s ∈ c, s ∈ met := by
  induction h with
  | stop link => exact fun s hs => absurd hs List.not_mem_nil
  | step hnext hrest ih =>
    have hlink := hstart (Array.getElem?_eq_some_iff.mp hnext).1
    intro s hs
    rcases List.mem_cons.mp hs with rfl | hs
    · exact hlink
    · exact ih (hclosed _ hlink _ hnext) s hs

/-- What was followed to the first link back or out of the table contains every way along the chain. -/
theorem subset (h : Leads table link c last) (h' : Leads table link c' last')
    (hdone : table.size ≤ last' ∨ last' ∈ c') : ∀ s ∈ c, s ∈ c' := by
  refine h.subset_of_closed (fun hlt => ?_) fun s hs t ht hlt => h'.closed hdone hs ht hlt
  rcases h'.start_mem with hmem | rfl
  · exact hmem
  · exact hdone.resolve_left (Nat.not_le.mpr hlt)

/-! ### Chains that end -/

/-- A chain that leads out of the table begins with every other way along it. -/
theorem exists_rest (h : Leads table link c last) (hend : table.size ≤ last)
    (h' : Leads table link c' last') : ∃ rest, c = c' ++ rest ∧ Leads table last' rest last := by
  -- both take the same turns, and only the longer one can go on at the end
  induction h' generalizing c with
  | stop link => exact ⟨c, rfl, h⟩
  | step hnext' hrest' ih =>
    cases h with
    | stop => exact absurd (Array.getElem?_eq_some_iff.mp hnext').1 (Nat.not_lt.mpr hend)
    | step hnext hrest =>
      obtain rfl := Option.some.inj (hnext'.symm.trans hnext)
      obtain ⟨rest, rfl, hlast⟩ := ih hrest
      exact ⟨rest, rfl, hlast⟩

theorem eq_nil_of_le (h : Leads table link c last) (hend : table.size ≤ link) : c = [] := by
  cases h with
  | stop => rfl
  | step hnext => exact absurd (Array.getElem?_eq_some_iff.mp hnext).1 (Nat.not_lt.mpr hend)

/-- A chain that leads out of the table has no link back, so it is followed to its end. -/
theorem eq_of_ends (h : Leads table link c last) (hend : table.size ≤ last)
    (h' : Leads table link c' last') (hdone : table.size ≤ last' ∨ last' ∈ c') : c = c' := by
  -- the other chain stops along the way; nothing is left if it stopped where this one does
  obtain ⟨rest, rfl, hrest⟩ := h.exists_rest hend h'
  rcases hdone with hout | hback
  · rw [hrest.eq_nil_of_le hout, List.append_nil]
  · -- from `last'` a circle leads back to `last'`, and the chain would have to end behind it as well
    obtain ⟨front, circle, rfl⟩ := List.append_of_mem hback
    obtain ⟨mid, -, hcircle⟩ := h'.exists_of_append
    obtain rfl : last' = mid := by
      cases hcircle with
      | step => rfl
    obtain ⟨more, hmore, -⟩ := hrest.exists_rest hend (hcircle.append hrest)
    have hlength := congrArg List.length hmore
    simp only [List.length_append, List.length_cons] at hlength
    omega

end Leads

end Chain

open Chain

/-! ### The remembered sectors -/

/-- A strict run along the chain ends where the chain leads back to a sector that was met, or out of
the table. -/
theorem Strict.leads_of_distinct {table : Array Nat} {steps link : Nat} {met : Std.TreeSet Nat}
    {sectors : List Nat} (h : distinct table steps link met = pure sectors) :
    sectors.Nodup ∧ (∀ s ∈ sectors, s ∉ met) ∧
      ∃ last, Leads table link sectors last ∧
        (table.size ≤ last ∨ last ∈ met ∨ last ∈ sectors) := by
  -- on the steps, with the sectors met free; running out of steps is a fault and not an end
  induction steps generalizing link met sectors with
  | zero => cases h
  | succ steps ih =>
    rw [distinct] at h
    by_cases hout : table.size ≤ link
    · -- the chain has left the table
      rw [if_pos hout] at h
      obtain rfl := Except.ok.inj h
      exact ⟨List.nodup_nil, fun s hs => absurd hs List.not_mem_nil, link, .stop link, .inl hout⟩
    rw [if_neg hout] at h
    by_cases hmet : met.contains link = true
    · -- the chain leads back to a sector that was met before this part of it
      rw [if_pos hmet] at h
      obtain rfl := Except.ok.inj h
      exact ⟨List.nodup_nil, fun s hs => absurd hs List.not_mem_nil, link, .stop link,
        .inr (.inl hmet)⟩
    rw [if_neg hmet, item_of_lt (Nat.not_le.mp hout), pure_bind] at h
    cases hrest : distinct table steps table[link] (met.insert link) with
    | error e =>
      rw [hrest] at h
      cases h
    | ok rest =>
      rw [hrest] at h
      obtain rfl := Except.ok.inj h
      -- behind `link`, which is now among the sectors met, no sector is `link` again
      obtain ⟨hnodup, hfresh, last, hleads, hlast⟩ := ih hrest
      have hself : link ∈ met.insert link := Std.TreeSet.mem_insert_self
      refine ⟨List.nodup_cons.mpr ⟨fun hmem => hfresh link hmem hself, hnodup⟩, ?_, last,
        .step (Array.getElem?_eq_getElem _) hleads, ?_⟩
      · intro s hs
        rcases List.mem_cons.mp hs with rfl | hs
        · exact hmet
        · exact fun hold => hfresh s hs (Std.TreeSet.mem_insert.mpr (.inr hold))
      · rcases hlast with hlast | hlast | hlast
        · exact .inl hlast
        · rcases Std.TreeSet.mem_insert.mp hlast with heq | hold
          · -- the rest of the chain leads back to its beginning
            obtain rfl := Std.compare_eq_iff_eq.mp heq
            exact .inr (.inr (List.mem_cons_self ..))
          · exact .inr (.inl hold)
        · exact .inr (.inr (List.mem_cons_of_mem _ hlast))

namespace Zone

variable {table : Array Nat} {start : Nat}

/-- Strictly followed, the chain ends within one step more than the table has entries. -/
theorem distinct_directorySectors (table : Array Nat) (start : Nat) :
    Strict.distinct table (table.size + 1) start ∅ = pure (directorySectors table start) :=
  Strict.distinct_eq (fun _ hi => absurd hi Std.TreeSet.not_mem_emptyc) (Nat.le_add_right ..)

/-- The remembered sectors are distinct, and they were followed to the first link back or out of the
table. -/
theorem leads_directorySectors (table : Array Nat) (start : Nat) :
    (directorySectors table start).Nodup ∧
      ∃ last, Leads table start (directorySectors table start) last ∧
        (table.size ≤ last ∨ last ∈ directorySectors table start) := by
  obtain ⟨hnodup, -, last, hleads, hlast⟩ :=
    Strict.leads_of_distinct (distinct_directorySectors table start)
  refine ⟨hnodup, last, hleads, hlast.imp_right fun h => h.resolve_left ?_⟩
  exact Std.TreeSet.not_mem_emptyc

theorem length_directorySectors_le (table : Array Nat) (start : Nat) :
    (directorySectors table start).length ≤ table.size := by
  obtain ⟨hnodup, last, hleads, -⟩ := leads_directorySectors table start
  rw [← List.length_range (n := table.size)]
  exact (hnodup.subperm fun s hs => List.mem_range.mpr (hleads.lt_size s hs)).length_le

/-- The remembered sectors are all that the chain ever leads over. -/
theorem mem_directorySectors_iff {s : Nat} :
    s ∈ directorySectors table start ↔ ∃ c last, Leads table start c last ∧ s ∈ c := by
  obtain ⟨-, last, hleads, hdone⟩ := leads_directorySectors table start
  exact ⟨fun hs => ⟨_, last, hleads, hs⟩, fun ⟨c, last', h, hs⟩ => h.subset hleads hdone s hs⟩

end Zone

/-! ### Both ways along the chain -/

/-- In a table without room for the sentinels, a sentinel leads out of it. -/
theorem size_le_of_isSentinel {table : Array Nat} {link : Nat} (hsize : table.size ≤ endOfChain)
    (h : isSentinel link = true) : table.size ≤ link := by
  simp only [isSentinel, Bool.or_eq_true, beq_iff_eq, endOfChain, freeSector] at hsize h
  omega

namespace Volume

variable {v : Volume} {start last : Nat} {c : List Nat}

/-- An unbounded walk meets the sectors of a chain that ends within the limit, and no others. -/
theorem walk_eq_of_ends (hsize : v.table.size ≤ endOfChain) (h : Leads v.table start c last)
    (hend : v.table.size ≤ last) (hlength : c.length ≤ unboundedSteps) :
    (v.walk .regular start 0).sectors.toList = c := by
  -- of the four ways to stop a walk, an unbounded one knows three
  obtain ⟨last', hpath, hends⟩ :=
    Chain.exists_ends v.table (fun n => (v.payload .regular n).size) 0 unboundedSteps start
  obtain ⟨rest, hc, hrest⟩ := h.exists_rest hend (Leads.of_path hpath)
  -- the walk stopped at the end of the chain, or it took as many steps as the chain has sectors
  have hnil : rest = [] := by
    generalize (Chain.walk v.table _ 0 unboundedSteps start).stop = stop at hends
    cases hends with
    | sentinel hlast => exact hrest.eq_nil_of_le (size_le_of_isSentinel hsize hlast)
    | outside hlast => exact hrest.eq_nil_of_le hlast
    | cut hsteps =>
      rw [hc, List.length_append, hsteps] at hlength
      exact List.length_eq_zero_iff.mp (by omega)
    | enough hpos => exact absurd hpos (Nat.lt_irrefl 0)
  rw [hc, hnil, List.append_nil]
  rfl

theorem exists_leads_walk (v : Volume) (start : Nat) :
    ∃ last, Leads v.table start (v.walk .regular start 0).sectors.toList last := by
  obtain ⟨last, hpath, -⟩ :=
    Chain.exists_ends v.table (fun n => (v.payload .regular n).size) 0 unboundedSteps start
  exact ⟨last, Leads.of_path hpath⟩

theorem toList_materialize_visited (v : Volume) (start : Nat) :
    (v.materialize .regular start 0).value.data.toList =
      (v.walk .regular start 0).sectors.toList.flatMap fun n => (v.sector n).data.toList := by
  rw [toList_materialize_unbounded, toList_gather]
  rfl

/-- **The sectors of the directory are those that it is read from.** Let the table have no room for the
sentinels. Then the sectors that are remembered from a start sector are distinct, so there are no more
of them than the table has entries; each is linked to the next one, and the last one leads out of the
table or back to one of them. A strict run finds them without using up its steps.

* If the chain reaches a sentinel or leaves the table within the limit, an unbounded read gives their
  bytes, one sector after the other.
* However long the chain is, an unbounded read only gathers the bytes of remembered sectors. -/
theorem materialize_directorySectors (v : Volume) (start : Nat)
    (hsize : v.table.size ≤ endOfChain) :
    let sectors := Zone.directorySectors v.table start
    let read := (v.materialize .regular start 0).value.data.toList
    let visited := (v.walk .regular start 0).sectors.toList
    Strict.distinct v.table (v.table.size + 1) start ∅ = pure sectors ∧
      sectors.Nodup ∧ sectors.length ≤ v.table.size ∧
      (∃ last, Path v.table start sectors last ∧ (v.table.size ≤ last ∨ last ∈ sectors)) ∧
      ((∃ c last, Path v.table start c last ∧ c.length ≤ unboundedSteps ∧
          (isSentinel last = true ∨ v.table.size ≤ last)) →
        read = sectors.flatMap fun n => (v.sector n).data.toList) ∧
      (read = visited.flatMap fun n => (v.sector n).data.toList) ∧
      ∀ n ∈ visited, n ∈ sectors := by
  intro sectors read visited
  obtain ⟨hnodup, last, hleads, hdone⟩ := Zone.leads_directorySectors v.table start
  refine ⟨Zone.distinct_directorySectors v.table start, hnodup,
    Zone.length_directorySectors_le v.table start, ⟨last, hleads.path hsize, hdone⟩, ?_,
    toList_materialize_visited v start, fun n hn => ?_⟩
  · rintro ⟨c, last', hpath, hlength, hlast⟩
    have hc : Leads v.table start c last' := Leads.of_path hpath
    have hend : v.table.size ≤ last' := hlast.elim (size_le_of_isSentinel hsize) id
    -- the chain ends, so both ways lead over all its sectors
    have hvisited : visited = c := walk_eq_of_ends hsize hc hend hlength
    have hsectors : c = sectors := hc.eq_of_ends hend hleads hdone
    calc read = visited.flatMap fun n => (v.sector n).data.toList := toList_materialize_visited v start
      _ = sectors.flatMap fun n => (v.sector n).data.toList := by rw [hvisited, hsectors]
  · obtain ⟨last', hwalk⟩ := exists_leads_walk v start
    exact hwalk.subset hleads hdone n hn

/-! A chain that ends, and one that runs in a circle behind its first sector. -/

/-- Sectors of two bytes. From sector 0 the chain leads over sector 2 to sector 1 and ends; from sector
5 it leads to sector 3 and then goes back and forth between sectors 4 and 3. -/
def circleSample : Volume where
  bytes := Bytes.ofList [0, 0, 1, 2, 3, 4, 5, 6]
  sectorSize := 2
  miniSectorSize := 2
  miniCutoff := 4096
  table := #[2, endOfChain, 1, 4, 3, 3]

/-- The first chain is read in full. The second one is read over and over again, up to the limit, but
only three sectors are met. -/
theorem materialize_directorySectors_circle :
    circleSample.table.size ≤ endOfChain ∧
      Zone.directorySectors circleSample.table 0 = [0, 2, 1] ∧
      (circleSample.materialize .regular 0 0).value.data.toList = [1, 2, 5, 6, 3, 4] ∧
      Zone.directorySectors circleSample.table 5 = [5, 3, 4] ∧
      ∀ n ∈ (circleSample.walk .regular 5 0).sectors.toList, n ∈ [5, 3, 4] := by
  have hsize : circleSample.table.size ≤ endOfChain := by decide
  have hfirst : Zone.directorySectors circleSample.table 0 = [0, 2, 1] := by decide +kernel
  have hsecond : Zone.directorySectors circleSample.table 5 = [5, 3, 4] := by decide +kernel
  -- the chain with its links, as the table has them
  have hpath : Path circleSample.table 0 [0, 2, 1] endOfChain :=
    ⟨rfl, rfl, 2, rfl, rfl, rfl, 1, rfl, rfl, rfl, endOfChain, rfl, rfl⟩
  obtain ⟨-, -, -, -, hread, -, -⟩ := materialize_directorySectors circleSample 0 hsize
  obtain ⟨-, -, -, -, -, -, hmet⟩ := materialize_directorySectors circleSample 5 hsize
  refine ⟨hsize, hfirst, ?_, hsecond, ?_⟩
  · rw [hread ⟨[0, 2, 1], endOfChain, hpath, by decide, .inl rfl⟩, hfirst]
    decide +kernel
  · rw [hsecond] at hmet
    exact hmet

end Volume

end InstallerPackage
