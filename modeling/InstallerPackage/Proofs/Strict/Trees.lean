import InstallerPackage.Proofs.Stacks
import InstallerPackage.Proofs.Strict.Faults

/-!
# The tree of storages, built strictly

The strict loops have positions on their stacks and look a record up whenever they need it. Building
the tree looks up only records that exist, and neither loop runs out of turns:

* a turn of a list either claims a record, which puts it on the stack, or takes one from the stack, so
  there is enough as long as there are more turns than twice the records left and what is on the stack
  (`Strict.listFrom_eq`);
* a turn of the outer loop takes one storage from the stack, and what comes on the stack has been claimed
  just before, so there is enough as long as there are as many turns as records left and storages on the
  stack (`Strict.attachFrom_eq`).
-/

namespace InstallerPackage.Strict

variable (d : Directory)

/-- The record that a link leads to, unless it leads nowhere or has been met before, and what has been
met then. -/
def claim (link : Nat) (met : Std.TreeSet Nat) : Strict (Option Record × Std.TreeSet Nat) :=
  if link = freeSector then pure (none, met)
  else if d.size ≤ link then pure (none, met)
  else if met.contains link then pure (none, met)
  else do
    let record ← item d.records link
    pure (some record, met.insert link)

/-- Goes on with the list of a tree of siblings. -/
def listFrom : (turns : Nat) → (link : Nat) → (stack : List Nat) → (found : Array Nat) →
    (met : Std.TreeSet Nat) → Strict (List Nat × Std.TreeSet Nat)
  | 0, _, _, _, _ => throw .endless
  | turns + 1, link, stack, found, met => do
    match ← claim d link met with
    | (some record, met) => listFrom turns record.left (link :: stack) found met
    | (none, met) =>
      match stack with
      | [] => pure (found.toList, met)
      | id :: stack =>
        let record ← item d.records id
        listFrom turns record.right stack (found.push id) met

/-- Finds the children of all storages on the stack, and of the storages among these children. -/
def attachFrom : (turns : Nat) → (stack : List (Nat × Record)) → (families : List Directory.Family) →
    (met : Std.TreeSet Nat) → Strict (List Directory.Family)
  | _, [], families, _ => pure families
  | 0, _ :: _, _, _ => throw .endless
  | turns + 1, (id, record) :: stack, families, met => do
    let (ids, met) ← listFrom d (2 * d.size) record.child [] #[] met
    let found ← ids.mapM fun i => do
      let child ← item d.records i
      pure (i, child)
    attachFrom turns (Directory.pushStorages found stack) (⟨id, found⟩ :: families) met

/-- The tree below the root record. -/
def tree : Strict Node := do
  let families ← attachFrom d d.size [(0, d.root)] [] (.ofList [0])
  pure (.mk 0 d.root ((Directory.assemble families).getD 0 []))

variable {d} {turns : Nat} {met : Std.TreeSet Nat}

theorem claim_eq (link : Nat) (met : Std.TreeSet Nat) :
    claim d link met = pure ((d.claim link).run met).value := by
  rw [Directory.claim_run]
  unfold claim
  -- the three tests of a claim, the second one being the bound of the look-up
  split
  · rfl
  cases hr : d.records[link]? with
  | none => rw [if_pos (show d.size ≤ link from Array.getElem?_eq_none_iff.mp hr)]
  | some r =>
    have hlt : link < d.size := (Array.getElem?_eq_some_iff.mp hr).1
    rw [if_neg (Nat.not_le.mpr hlt), item_eq hr]
    split <;> rfl

/-- A list with enough turns ends, and its stack only has positions of records. -/
theorem listFrom_eq (link : Nat) (stack : List (Nat × Record)) (found : Array (Nat × Record))
    (noticed : Array Notice) (hstack : ∀ p ∈ stack, d.records[p.1]? = some p.2)
    (h : 2 * d.unmet met + stack.length < turns) :
    listFrom d turns link (stack.map Prod.fst) (found.map Prod.fst) met =
      pure ((d.listFrom turns link stack found met noticed).value.map (List.map Prod.fst) id) := by
  -- on the turns: each one claims a record or takes one from the stack
  induction turns generalizing link stack found met noticed with
  | zero => omega
  | succ turns ih =>
    rw [listFrom, claim_eq, pure_bind]
    rcases d.claim_cases link met with ⟨hnone, -⟩ | ⟨r, hsome, hlead, hr, hmet⟩
    · rw [hnone, Directory.listFrom_succ_of_none hnone]
      cases stack with
      | nil => simp [Directory.listRest]
      | cons p stack =>
        -- a record is taken from the stack, and nothing is claimed
        obtain ⟨hp, hstack⟩ := List.forall_mem_cons.mp hstack
        rw [List.length_cons] at h
        have hpush : (found.map Prod.fst).push p.1 = (found.push p).map Prod.fst := by simp
        change (do
          let record ← item d.records p.1
          listFrom d turns record.right (stack.map Prod.fst) ((found.map Prod.fst).push p.1) met) = _
        rw [item_eq hp, pure_bind, hpush]
        exact ih _ _ _ _ hstack (by omega)
    · rw [hsome, Directory.listFrom_succ_of_some hsome]
      -- the record that comes on the stack is one less to claim
      have hlt := d.unmet_insert_lt hlead.2 hmet
      refine ih _ ((link, r) :: stack) found noticed ?_ ?_
      · exact List.forall_mem_cons.mpr ⟨hr, hstack⟩
      · rw [List.length_cons]
        omega

/-- The list of a whole tree of siblings ends. -/
theorem siblingsAt_eq (h0 : 0 ∈ met) (link : Nat) :
    listFrom d (2 * d.size) link [] #[] met =
      pure (((d.siblingsAt link).run met).value.map (List.map Prod.fst) id) := by
  have hlt := d.unmet_lt_size h0
  have h := listFrom_eq (d := d) link [] #[] #[] (fun p hp => absurd hp List.not_mem_nil)
    (show 2 * d.unmet met + 0 < 2 * d.size by omega)
  rwa [List.map_nil, Array.map_empty] at h

theorem mapM_item_eq {found : List (Nat × Record)} (h : ∀ p ∈ found, d.records[p.1]? = some p.2) :
    ((found.map Prod.fst).mapM fun i => do
      let child ← item d.records i
      pure (i, child)) = pure found := by
  induction found with
  | nil => rfl
  | cons p found ih =>
    obtain ⟨hp, h⟩ := List.forall_mem_cons.mp h
    rw [List.map_cons, List.mapM_cons, item_eq hp, pure_bind, pure_bind, ih h, pure_bind]

theorem length_pushStorages_le (found stack : List (Nat × Record)) :
    (Directory.pushStorages found stack).length ≤ found.length + stack.length := by
  induction found generalizing stack with
  | nil => exact Nat.le_add_left ..
  | cons p found ih =>
    rw [Directory.pushStorages, List.foldl_cons, ← Directory.pushStorages]
    refine (ih _).trans ?_
    split
    · rw [List.length_cons, List.length_cons]
      omega
    · rw [List.length_cons]
      omega

/-- The outer loop with enough turns ends. -/
theorem attachFrom_eq {stack : List (Nat × Record)} (families : List Directory.Family)
    (noticed : Array Notice) (h0 : 0 ∈ met) (h : d.unmet met + stack.length ≤ turns) :
    attachFrom d turns stack families met =
      pure (d.attachFrom turns stack families met noticed).value := by
  -- on the turns as well, one for every storage that is on the stack or may still come there
  induction turns generalizing stack families met noticed with
  | zero =>
    obtain rfl : stack = [] := List.eq_nil_of_length_eq_zero (by omega)
    rfl
  | succ turns ih =>
    cases stack with
    | nil => rfl
    | cons p stack =>
      obtain ⟨id, record⟩ := p
      obtain ⟨hscan, hrecords⟩ := Directory.siblings_scanned (d := d) d.size record.child met
      have hcount := Directory.length_siblings_add_unmet_le (d := d) d.size record.child met
      rw [attachFrom, siblingsAt_eq h0, pure_bind, Directory.attachFrom, Directory.siblingsAt_run h0]
      generalize (d.siblings d.size record.child).run met = found at *
      -- what was listed was claimed, so there are as many fewer records left
      have hpush := length_pushStorages_le found.value.1 stack
      rw [List.length_cons] at h
      change (((found.value.1.map Prod.fst).mapM fun i => do
        let child ← item d.records i
        pure (i, child)) >>= _) = _
      rw [mapM_item_eq hrecords, pure_bind]
      refine ih _ _ (hscan.subset h0) ?_
      change d.unmet found.value.2 + _ ≤ turns
      omega

theorem tree_eq (d : Directory) : tree d = pure d.tree.value := by
  have h0 : 0 ∈ (Std.TreeSet.ofList [0] : Std.TreeSet Nat) := by simp
  have hlt := d.unmet_lt_size h0
  rw [tree, attachFrom_eq [] #[] h0 (by rw [List.length_singleton]; omega), pure_bind]
  rfl

end InstallerPackage.Strict
