import InstallerPackage.Container.Name

/-!
# Paths, put together and taken apart

Names without a slash that are joined to a path are its steps again: `Name.steps_joinAll`.
-/

namespace InstallerPackage.Name

/-- The path with the given steps. -/
def joinAll (steps : List Name) : Name := steps.foldl join []

theorem parts_append_slash (front back : Name) :
    parts (front ++ slash :: back) = parts front ++ parts back := by
  induction front with
  | nil => rfl
  | cons c front ih =>
    rw [List.cons_append, parts, parts, ih]
    split
    · rfl
    · -- the first part of the front takes the character, and the back stays as it is
      cases hparts : parts front with
      | nil => exact absurd hparts (parts_ne_nil front)
      | cons part more => rfl

theorem parts_of_slash_not_mem {name : Name} (h : slash ∉ name) : name.parts = [name] := by
  induction name with
  | nil => rfl
  | cons c rest ih =>
    rw [List.mem_cons, not_or] at h
    rw [parts, if_neg (Ne.symm h.1), ih h.2]

theorem steps_join (path name : Name) : (join path name).steps = path.steps ++ name.steps := by
  unfold join
  split
  · next h =>
    rw [h]
    rfl
  · rw [steps, parts_append_slash, List.filter_append]
    rfl

theorem steps_of_slash_not_mem {name : Name} (hne : name ≠ []) (h : slash ∉ name) :
    name.steps = [name] := by
  rw [steps, parts_of_slash_not_mem h, List.filter_cons_of_pos (by simpa using hne), List.filter_nil]

theorem steps_joinAll {names : List Name} (h : ∀ name ∈ names, name ≠ [] ∧ slash ∉ name) :
    (joinAll names).steps = names := by
  have hfold : ∀ path : Name, (names.foldl join path).steps = path.steps ++ names := by
    induction names with
    | nil => intro path; rw [List.foldl_nil, List.append_nil]
    | cons name names ih =>
      intro path
      -- every name adds one step, since it is neither empty nor cut by a slash
      obtain ⟨hne, hslash⟩ := h name (List.mem_cons_self ..)
      rw [List.foldl_cons, ih (fun n hn => h n (List.mem_cons_of_mem _ hn)), steps_join,
        steps_of_slash_not_mem hne hslash, List.append_assoc, List.singleton_append]
  exact hfold []

/-- A stored name stands for at least one character. -/
theorem decode_ne_nil {stored : Name} (h : stored ≠ []) : stored.decode ≠ [] := by
  obtain ⟨c, rest, rfl⟩ := List.exists_cons_of_ne_nil h
  rw [decode_cons]
  -- already the first unit is expanded to something
  intro hnil
  have hexpand : expand c = [] := (List.append_eq_nil_iff.mp hnil).1
  unfold expand at hexpand
  split at hexpand
  · exact List.cons_ne_nil _ _ hexpand
  split at hexpand
  · exact List.cons_ne_nil _ _ hexpand
  split at hexpand <;> exact List.cons_ne_nil _ _ hexpand

end InstallerPackage.Name
