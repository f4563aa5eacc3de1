import InstallerPackage.Proofs.Database.Folders

/-!
# Paths and their separator

Joining leaves the separator out after an empty path and where the path ends with one already. So an
empty name anywhere on the way changes how the next one is joined. `Folder.resolve_separated` says
that paths come out well all the same. Where the separator is a character that occurs in no name and
no key, and no two or more folders are in each other,

* there is no separator in front of a path, and there are no two in a row;
* the parts between the separators, empty ones left out, are the texts that the path is made of,
  empty ones left out;
* another such character in the place of the separator changes nothing else.

A path is its `Lineage`, joined (`resolve_eq_joinAll`), whatever has been looked up before; the
separator and the cache are no part of a lineage. What remains is a fact about joining texts, and
each of the three is carried from text to text by a lemma on a single join: `WellSpaced.join`,
`parts_join` and `join_replaced`.
-/

namespace InstallerPackage.Folder

variable {folders : Map} {separator key path parent name : String} {texts : List String}
  {c c' : Char}

/-! ### What a path is made of -/

/-- The texts on the way to a folder, the outermost first: the names of the folders, and the key
that stands for itself if the way begins at one without a row. -/
inductive Lineage (folders : Map) : (key : String) → (texts : List String) → Prop
  | unknown {key : String} (hf : folders[key]? = none) : Lineage folders key [key]
  | top {key : String} {f : Folder} (hf : folders[key]? = some f) (htop : f.IsTop key) :
    Lineage folders key [f.name]
  | child {key : String} {f : Folder} {texts : List String} (hf : folders[key]? = some f)
    (htop : ¬ f.IsTop key) (h : Lineage folders f.parent texts) :
    Lineage folders key (texts ++ [f.name])

/-- Texts joined to a path. -/
def joinAll (separator : String) (texts : List String) : String := texts.foldl (join separator) ""

theorem join_empty (separator name : String) : join separator "" name = name := by
  rw [join, if_pos (.inl rfl), String.empty_append]

theorem Lineage.pathOf (h : Lineage folders key texts) (separator : String) :
    PathOf folders separator key (joinAll separator texts) := by
  induction h with
  | @unknown key hf =>
    rw [joinAll, List.foldl_cons, List.foldl_nil, join_empty]
    exact .unknown hf
  | top hf htop =>
    rw [joinAll, List.foldl_cons, List.foldl_nil, join_empty]
    exact .top hf htop
  | child hf htop _ ih =>
    rw [joinAll, List.foldl_concat]
    exact .child hf htop ih

theorem PathOf.exists_lineage (h : PathOf folders separator key path) :
    ∃ texts, Lineage folders key texts := by
  induction h with
  | unknown hf => exact ⟨_, .unknown hf⟩
  | top hf htop => exact ⟨_, .top hf htop⟩
  | child hf htop _ ih =>
    obtain ⟨texts, h⟩ := ih
    exact ⟨_, .child hf htop h⟩

theorem Lineage.unique {texts' : List String} (h : Lineage folders key texts)
    (h' : Lineage folders key texts') : texts = texts' := by
  -- on the way up; an entry of the map decides which case the other way is in
  induction h generalizing texts' with
  | unknown hf =>
    cases h' with
    | unknown _ => rfl
    | top hf' _ => cases hf.symm.trans hf'
    | child hf' _ _ => cases hf.symm.trans hf'
  | top hf htop =>
    cases h' with
    | unknown hf' => cases hf.symm.trans hf'
    | top hf' _ =>
      obtain rfl := Option.some.inj (hf.symm.trans hf')
      rfl
    | child hf' htop' _ =>
      obtain rfl := Option.some.inj (hf.symm.trans hf')
      exact absurd htop htop'
  | child hf htop _ ih =>
    cases h' with
    | unknown hf' => cases hf.symm.trans hf'
    | top hf' htop' =>
      obtain rfl := Option.some.inj (hf.symm.trans hf')
      exact absurd htop' htop
    | child hf' _ h' =>
      obtain rfl := Option.some.inj (hf.symm.trans hf')
      rw [ih h']

/-- Among folders without cycles a look-up returns the lineage of the folder, joined. -/
theorem resolve_eq_joinAll (ha : Acyclic folders) (h : Lineage folders key texts)
    (separator : String) (earlier : List String) :
    (resolve folders separator key (cacheAfter folders separator earlier)).1 =
      joinAll separator texts :=
  (sound_resolve ha (sound_cacheAfter ha separator earlier) key).1.unique (h.pathOf separator)

/-- The character is in no name of the table, and in no key that a folder is in. -/
structure Free (folders : Map) (c : Char) : Prop where
  name : ∀ (key : String) (f : Folder), folders[key]? = some f → c ∉ f.name.toList
  parent : ∀ (key : String) (f : Folder), folders[key]? = some f → c ∉ f.parent.toList

theorem free_of_toList
    (h : ∀ row ∈ folders.toList, c ∉ row.2.name.toList ∧ c ∉ row.2.parent.toList) :
    Free folders c :=
  ⟨fun _ _ hf => (h _ (Std.TreeMap.mem_toList_iff_getElem?_eq_some.mpr hf)).1,
    fun _ _ hf => (h _ (Std.TreeMap.mem_toList_iff_getElem?_eq_some.mpr hf)).2⟩

theorem Lineage.not_mem (h : Lineage folders key texts) (hc : Free folders c)
    (hkey : c ∉ key.toList) : ∀ t ∈ texts, c ∉ t.toList := by
  induction h with
  | unknown _ => exact List.forall_mem_singleton.mpr hkey
  | top hf _ => exact List.forall_mem_singleton.mpr (hc.name _ _ hf)
  | child hf _ _ ih =>
    intro t ht
    rcases List.mem_append.mp ht with ht | ht
    · exact ih (hc.parent _ _ hf) t ht
    · exact List.mem_singleton.mp ht ▸ hc.name _ _ hf

/-! ### A single join -/

/-- Where a path ends with the separator, or is empty, a name is appended as it is. -/
theorem toList_join (c : Char) (parent name : String) :
    (join (String.singleton c) parent name).toList =
      if parent.toList = [] ∨ parent.toList.getLast? = some c then parent.toList ++ name.toList
      else parent.toList ++ c :: name.toList := by
  -- both say that nothing has to be put between the path and the name
  have hcond : (parent = "" ∨ (String.singleton c).toList.isSuffixOf parent.toList) ↔
      (parent.toList = [] ∨ parent.toList.getLast? = some c) := by
    rw [String.toList_singleton, List.isSuffixOf_iff_suffix,
      List.singleton_suffix_iff_getLast?_eq_some, String.toList_eq_nil_iff]
  rw [join]
  by_cases h : parent.toList = [] ∨ parent.toList.getLast? = some c
  · rw [if_pos h, if_pos (hcond.mpr h), String.toList_append]
  · rw [if_neg h, if_neg (mt hcond.mp h), String.toList_append, String.toList_append,
      String.toList_singleton, List.append_assoc, List.singleton_append]

/-- No separator in front, and no two in a row. -/
structure WellSpaced (c : Char) (path : List Char) : Prop where
  front : path.head? ≠ some c
  apart : path.IsChain fun x y => ¬ (x = c ∧ y = c)

theorem WellSpaced.not_infix {l : List Char} (h : WellSpaced c l) : ¬ [c, c] <:+: l := by
  intro hin
  have hpair := h.apart.infix hin
  rw [List.isChain_pair] at hpair
  exact hpair ⟨rfl, rfl⟩

theorem wellSpaced_of_not_mem {l : List Char} (h : c ∉ l) : WellSpaced c l := by
  refine ⟨fun hc => h (List.mem_of_head? hc), ?_⟩
  refine (List.pairwise_of_forall_mem_list fun x hx y _ hxy => ?_).isChain
  exact h (hxy.1 ▸ hx)

/-- A path stays well spaced when a name without the separator is joined to it. -/
theorem WellSpaced.join (h : WellSpaced c parent.toList) (hname : c ∉ name.toList) :
    WellSpaced c (Folder.join (String.singleton c) parent name).toList := by
  have hn := wellSpaced_of_not_mem hname
  rw [toList_join]
  split
  · next hend =>
    rcases hend with hnil | hlast
    · rw [hnil, List.nil_append]
      exact hn
    · -- the separator at the end is followed by the name, which does not begin with one
      refine ⟨?_, List.isChain_append.mpr ⟨h.apart, hn.apart, fun _ _ y hy hxy => ?_⟩⟩
      · obtain ⟨front, hfront⟩ := List.getLast?_eq_some_iff.mp hlast
        have hne : parent.toList ≠ [] := by
          rw [hfront]
          exact List.append_ne_nil_of_right_ne_nil _ (List.cons_ne_nil c [])
        rw [List.head?_append_of_ne_nil _ hne]
        exact h.front
      · exact hn.front (hxy.2 ▸ hy)
  · next hend =>
    -- a separator goes in between, which neither of its neighbours is
    obtain ⟨hne, hlast⟩ := not_or.mp hend
    refine ⟨?_, List.isChain_append.mpr ⟨h.apart, List.isChain_cons.mpr ⟨?_, hn.apart⟩, ?_⟩⟩
    · rw [List.head?_append_of_ne_nil _ hne]
      exact h.front
    · exact fun y hy hxy => hn.front (hxy.2 ▸ hy)
    · exact fun x hx _ _ hxy => hlast (hxy.1 ▸ hx)

/-- The parts of a path between separators, empty ones left out. -/
def parts (c : Char) (path : List Char) : List (List Char) := (path.splitOn c).filter (· ≠ [])

theorem parts_of_not_mem {l : List Char} (h : c ∉ l) : parts c l = [l].filter (· ≠ []) := by
  rw [parts, List.splitOn_eq_singleton h]

theorem parts_append_cons (c : Char) (front back : List Char) :
    parts c (front ++ c :: back) = parts c front ++ parts c back := by
  rw [parts, List.splitOn_append_cons_self, List.filter_append, parts, parts]

/-- A name adds itself to the parts, unless it is empty. -/
theorem parts_join (parent : String) (hname : c ∉ name.toList) :
    parts c (join (String.singleton c) parent name).toList =
      parts c parent.toList ++ [name.toList].filter (· ≠ []) := by
  rw [toList_join, ← parts_of_not_mem hname]
  -- with or without the separator in between, the name is a part of its own
  split
  · next hend =>
    rcases hend with hnil | hlast
    · rw [hnil]
      rfl
    · -- behind the separator at the end there is an empty part, which does not count
      obtain ⟨front, hfront⟩ := List.getLast?_eq_some_iff.mp hlast
      have hparent : parts c parent.toList = parts c front := by
        rw [hfront, parts_append_cons]
        exact List.append_nil _
      rw [hparent, hfront, List.append_assoc, List.singleton_append, parts_append_cons]
  · exact parts_append_cons c parent.toList name.toList

/-- Another character in the place of one. -/
def replace (c c' x : Char) : Char := if x = c then c' else x

theorem replace_self (c c' : Char) : replace c c' c = c' := if_pos rfl

theorem map_replace_of_not_mem {l : List Char} (h : c ∉ l) (c' : Char) :
    l.map (replace c c') = l := by
  have hsame : ∀ x ∈ l, replace c c' x = id x := fun x hx =>
    if_neg fun hxc : x = c => h (hxc ▸ hx)
  rw [List.map_congr_left hsame, List.map_id]

/-- The second path is the first one with another separator. -/
structure Replaced (c c' : Char) (path path' : String) : Prop where
  eq : path'.toList = path.toList.map (replace c c')
  /-- So far the other separator is not used. -/
  unused : ∀ x ∈ path.toList, x = c' → x = c

theorem Replaced.getLast?_eq_some_iff {path' : String} (h : Replaced c c' path path') :
    path'.toList.getLast? = some c' ↔ path.toList.getLast? = some c := by
  rw [h.eq, List.getLast?_map, Option.map_eq_some_iff]
  constructor
  · rintro ⟨x, hx, hreplace⟩
    by_cases hxc : x = c
    · rw [hx, hxc]
    · rw [replace, if_neg hxc] at hreplace
      exact absurd (h.unused x (List.mem_of_getLast? hx) hreplace) hxc
  · exact fun hc => ⟨c, hc, replace_self c c'⟩

/-- The same name joined with the one separator and with the other. -/
theorem join_replaced {parent' : String} (h : Replaced c c' parent parent') (hc : c ∉ name.toList)
    (hc' : c' ∉ name.toList) :
    Replaced c c' (join (String.singleton c) parent name)
      (join (String.singleton c') parent' name) := by
  have hnil : parent'.toList = [] ↔ parent.toList = [] := by rw [h.eq, List.map_eq_nil_iff]
  have hname := map_replace_of_not_mem hc c'
  -- of the two claims one is about the places of the separator, the other one about its not being in
  -- names
  constructor
  · -- the separator is left out on both sides, or on none
    simp only [toList_join, hnil, h.getLast?_eq_some_iff]
    split
    · rw [List.map_append, h.eq, hname]
    · rw [List.map_append, List.map_cons, h.eq, hname, replace_self]
  · intro x hx hxc
    have hmem : x ∈ parent.toList ∨ x ∈ c :: name.toList := by
      rw [toList_join] at hx
      split at hx
      · exact (List.mem_append.mp hx).imp_right (List.mem_cons_of_mem c)
      · exact List.mem_append.mp hx
    rcases hmem with hx | hx
    · exact h.unused x hx hxc
    · rcases List.mem_cons.mp hx with hx | hx
      · exact hx
      · exact absurd (hxc ▸ hx) hc'

/-! ### Joining all texts -/

theorem wellSpaced_joinAll (h : ∀ t ∈ texts, c ∉ t.toList) :
    WellSpaced c (joinAll (String.singleton c) texts).toList := by
  induction texts using List.reverseRecOn with
  | nil => exact wellSpaced_of_not_mem List.not_mem_nil
  | append_singleton texts t ih =>
    rw [joinAll, List.foldl_concat]
    exact (ih fun t ht => h t (List.mem_append_left _ ht)).join
      (h t (List.mem_append_right _ (List.mem_singleton_self t)))

theorem parts_joinAll (h : ∀ t ∈ texts, c ∉ t.toList) :
    parts c (joinAll (String.singleton c) texts).toList =
      (texts.map String.toList).filter (· ≠ []) := by
  induction texts using List.reverseRecOn with
  | nil => rfl
  | append_singleton texts t ih =>
    rw [joinAll, List.foldl_concat,
      parts_join _ (h t (List.mem_append_right _ (List.mem_singleton_self t))), ← joinAll,
      ih fun t ht => h t (List.mem_append_left _ ht), List.map_append, List.filter_append]
    rfl

theorem replaced_joinAll (h : ∀ t ∈ texts, c ∉ t.toList) (h' : ∀ t ∈ texts, c' ∉ t.toList) :
    Replaced c c' (joinAll (String.singleton c) texts) (joinAll (String.singleton c') texts) := by
  induction texts using List.reverseRecOn with
  | nil => exact ⟨rfl, fun x hx => absurd hx List.not_mem_nil⟩
  | append_singleton texts t ih =>
    have ht : t ∈ texts ++ [t] := List.mem_append_right _ (List.mem_singleton_self t)
    rw [joinAll, joinAll, List.foldl_concat, List.foldl_concat]
    exact join_replaced (ih (fun t ht => h t (List.mem_append_left _ ht))
      fun t ht => h' t (List.mem_append_left _ ht)) (h t ht) (h' t ht)

/-! ### Paths -/

/-- **Paths are well separated.** Let the folders be without cycles, and the separator a character
that is in no name and no key. Whatever has been looked up before, the path of a key

* does not begin with the separator, and does not have two of them in a row;
* has as its parts the texts of its lineage, both without the empty ones, where the lineage is the
  only one;
* is the path that another such separator gives, also after other look-ups, except for the
  separator. -/
theorem resolve_separated (ha : Acyclic folders) (hc : Free folders c) (hkey : c ∉ key.toList)
    (earlier : List String) :
    let separator := String.singleton c
    let path := (resolve folders separator key (cacheAfter folders separator earlier)).1
    path.toList.head? ≠ some c ∧ ¬ [c, c] <:+: path.toList ∧
    (∃! texts, Lineage folders key texts) ∧
    (∀ texts, Lineage folders key texts →
      (path.toList.splitOn c).filter (· ≠ []) = (texts.map String.toList).filter (· ≠ [])) ∧
    ∀ (c' : Char) (earlier' : List String), Free folders c' → c' ∉ key.toList →
      (resolve folders (String.singleton c') key
        (cacheAfter folders (String.singleton c') earlier')).1 = path.map (replace c c') := by
  intro separator path
  -- the lineage is that of the path that was found, and it does not depend on the separator
  obtain ⟨texts, hl⟩ :=
    (sound_resolve ha (sound_cacheAfter ha separator earlier) key).1.exists_lineage
  have hpath : path = joinAll separator texts := resolve_eq_joinAll ha hl separator earlier
  have hfree := hl.not_mem hc hkey
  have hspaced : WellSpaced c path.toList := hpath ▸ wellSpaced_joinAll hfree
  refine ⟨hspaced.front, hspaced.not_infix, ⟨texts, hl, fun _ h => h.unique hl⟩, ?_, ?_⟩
  · intro texts' hl'
    rw [hl'.unique hl, hpath]
    exact parts_joinAll hfree
  · -- the other path has the same lineage, so it is the same names joined
    intro c' earlier' hc' hkey'
    have hreplaced := replaced_joinAll hfree (hl.not_mem hc' hkey')
    rw [resolve_eq_joinAll ha hl, hpath, ← String.toList_inj, String.toList_map]
    exact hreplaced.eq

/-- Nested folders, two of which have no name: the outermost one, and one on the way. -/
def gapSample : Map :=
  .ofList [("ROOT", Folder.mk "" ""), ("APP", Folder.mk "ROOT" "App"), ("VOID", Folder.mk "APP" ""),
    ("DOC", Folder.mk "VOID" "Doc")]

/-- With empty names at the beginning and in the middle, after different look-ups, the two paths of
`DOC` differ in their separators only. -/
theorem resolve_separated_gaps :
    (Acyclic gapSample ∧ Free gapSample '/' ∧ Free gapSample '\\' ∧ '/' ∉ "DOC".toList ∧
      '\\' ∉ "DOC".toList) ∧
    Lineage gapSample "DOC" ["", "App", "", "Doc"] ∧
    (resolve gapSample "/" "DOC" (cacheAfter gapSample "/" ["VOID", "NONE"])).1 = "App/Doc" ∧
    ("App/Doc".toList.splitOn '/').filter (· ≠ []) = ["App".toList, "Doc".toList] ∧
    (resolve gapSample "\\" "DOC" (cacheAfter gapSample "\\" ["APP"])).1 =
      "App/Doc".map (replace '/' '\\') := by
  have hacyclic : Acyclic gapSample :=
    acyclic_of_toList (fun k => ["ROOT", "APP", "VOID", "DOC"].idxOf k) (by decide)
  have hslash : Free gapSample '/' := free_of_toList (by decide)
  have hbackslash : Free gapSample '\\' := free_of_toList (by decide)
  -- from the top down to the folder that is looked up
  have hlineage : Lineage gapSample "DOC" ["", "App", "", "Doc"] := by
    have hroot : Lineage gapSample "ROOT" [""] := .top (f := ⟨"", ""⟩) rfl (by decide)
    have happ : Lineage gapSample "APP" ["", "App"] :=
      .child (f := ⟨"ROOT", "App"⟩) rfl (by decide) hroot
    have hvoid : Lineage gapSample "VOID" ["", "App", ""] :=
      .child (f := ⟨"APP", ""⟩) rfl (by decide) happ
    exact .child (f := ⟨"VOID", "Doc"⟩) rfl (by decide) hvoid
  have hkey : '/' ∉ "DOC".toList := by decide
  obtain ⟨-, -, -, hparts, hreplace⟩ :=
    resolve_separated hacyclic hslash hkey ["VOID", "NONE"]
  refine ⟨⟨hacyclic, hslash, hbackslash, hkey, by decide⟩, hlineage, rfl, ?_, ?_⟩
  · exact hparts _ hlineage
  · exact hreplace '\\' ["APP"] hbackslash (by decide)

end InstallerPackage.Folder
