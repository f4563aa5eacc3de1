import InstallerPackage.Proofs.ByteLists
import InstallerPackage.Summary

/-!
# Which entries of a property set count

Nothing in a property set can be trusted: not the offset of its section, not the number of its entries,
not the offsets of the values. What is read from it is, all the same, a function of what its entries say,
field by field.

* `Summary.IsFor` are the conditions under which an entry is taken for that of a field, and
  `Summary.readings` are the values of all entries for a field, in the order of the table. An entry whose
  value is cut off has none.
* `Summary.inOrder_eq` says what sorting does: the entries for the code page come first, and neither
  they nor the others change their order. `Summary.fill_eq_foldl` follows the loop over them, whose code
  page changes on the way. By the end of those in front it is `Summary.pageOf`, the page of the last one
  that can be read, and it stays that for all texts.
* `Summary.get_foldl_put` says that a field has the last of its values, and `Summary.pageOf_eq` that the
  code page is that of the last entry for it. So the order of entries for different fields does not
  matter, and the page applies to texts in front of its entry, too.
* `Summary.value_apply` is the equation for a whole property set, with a section or without.
-/

namespace InstallerPackage.Summary

/-! ### Entries for a field -/

/-- The bytes that a value needs, with its type. A text has a value even where its length is missing. -/
def Kind.room : Kind → Nat
  | short => 6
  | long => 8
  | text => 4
  | time => 12

/-- The first section, up to the end of the data. -/
def sectionOf (b : ByteArray) : ByteArray := b.extract (Bytes.number b 44 4) b.size

/-- The number of entries that are looked at: as many as the section declares, if it has room for them.
There are none without a section. -/
def entryCount (b : ByteArray) : Nat :=
  if b.size < 48 ∨ (sectionOf b).size < 8 then 0
  else min (Bytes.number (sectionOf b) 4 4) (((sectionOf b).size - 8) / 8)

/-- Where the value of an entry begins. -/
def valuePlace (body : ByteArray) (i : Nat) : Nat := Bytes.number body (12 + 8 * i) 4

/-- An entry is for a field if there is room for a type at its offset, and it has the number and the
type of the field. Only the low half of a type counts. -/
structure IsFor (body : ByteArray) (f : Field) (i : Nat) : Prop where
  room : valuePlace body i + 4 ≤ body.size
  id : Bytes.number body (8 + 8 * i) 4 = f.id
  kind : Bytes.number body (valuePlace body i) 4 % 0x10000 = f.kind.code

instance (body : ByteArray) (f : Field) (i : Nat) : Decidable (IsFor body f i) :=
  decidable_of_iff
    (valuePlace body i + 4 ≤ body.size ∧ Bytes.number body (8 + 8 * i) 4 = f.id ∧
      Bytes.number body (valuePlace body i) 4 % 0x10000 = f.kind.code)
    ⟨fun ⟨h₁, h₂, h₃⟩ => ⟨h₁, h₂, h₃⟩, fun ⟨h₁, h₂, h₃⟩ => ⟨h₁, h₂, h₃⟩⟩

/-- The value of an entry for a field, if all its bytes are there. -/
def valueAt? (body : ByteArray) (page : CodePage) (f : Field) (i : Nat) : Option Value :=
  Value.read? f.kind page body (valuePlace body i)

/-- The values of the entries for a field, in the order of the table. -/
def readings (b : ByteArray) (page : CodePage) (f : Field) : List (Option Value) :=
  ((List.range (entryCount b)).filter (IsFor (sectionOf b) f ·)).map (valueAt? (sectionOf b) page f)

/-- The last value that can be read. -/
def lastOf (values : List (Option Value)) : Option Value := (values.filterMap id).getLast?

/-- The code page for the value of its field. -/
def pageFor : Option Value → CodePage
  | some (.number n) => .ofNumber n
  | _ => .latin1

variable {b body : ByteArray} {page : CodePage} {f : Field} {i : Nat}

/-- Values are missing only where the bytes end too soon. -/
theorem read?_eq_none_iff {kind : Kind} {offset : Nat} (h : offset + 4 ≤ body.size) :
    Value.read? kind page body offset = none ↔ body.size < offset + kind.room := by
  unfold Value.read?
  cases kind with
  | text => exact iff_of_false (Option.some_ne_none _) (Nat.not_lt.mpr h)
  | short | long | time => exact ite_eq_left_iff.trans (by simp [Kind.room])

theorem Kind.ofCode?_eq_some_iff {code : Nat} {k : Kind} :
    Kind.ofCode? code = some k ↔ code = k.code := by
  constructor
  · intro h
    unfold Kind.ofCode? at h
    have hcode := List.find?_some h
    exact (of_decide_eq_true hcode).symm
  · rintro rfl
    exact Kind.ofCode?_code k

theorem Field.find?_eq_some_iff {id : Nat} {kind : Kind} :
    Field.find? id kind = some f ↔ id = f.id ∧ kind = f.kind := by
  constructor
  · intro h
    unfold Field.find? at h
    have hfound := List.find?_some h
    have hfield := of_decide_eq_true hfound
    exact ⟨hfield.1.symm, hfield.2.symm⟩
  · rintro ⟨rfl, rfl⟩
    exact Field.find?_id_kind f

/-- The entries that are kept are those for a field, each with the place of its value. -/
theorem entryAt?_eq_some_iff {e : Entry} :
    entryAt? body i = some e ↔ IsFor body e.field i ∧ e.offset = valuePlace body i := by
  obtain ⟨field, offset⟩ := e
  unfold entryAt?
  dsimp only
  split
  · next hsize =>
    refine iff_of_false (Option.some_ne_none _).symm fun h => ?_
    exact Nat.not_lt.mpr h.1.room hsize
  · next hsize =>
    constructor
    · -- the type and the field are looked up one after the other, so both have to be there
      intro h
      obtain ⟨kind, hkind, h⟩ := Option.bind_eq_some_iff.mp h
      obtain ⟨field', hfield, h⟩ := Option.bind_eq_some_iff.mp h
      cases h
      rw [Kind.ofCode?_eq_some_iff] at hkind
      obtain ⟨hid, rfl⟩ := Field.find?_eq_some_iff.mp hfield
      exact ⟨⟨Nat.not_lt.mp hsize, hid, hkind⟩, rfl⟩
    · rintro ⟨h, rfl⟩
      have hkind := Kind.ofCode?_eq_some_iff.mpr h.kind
      have hfield := Field.find?_eq_some_iff.mpr ⟨h.id, rfl⟩
      exact Option.bind_eq_some_iff.mpr ⟨field.kind, hkind,
        Option.bind_eq_some_iff.mpr ⟨field, hfield, rfl⟩⟩

theorem IsFor.entryAt?_eq (h : IsFor body f i) : entryAt? body i = some ⟨f, valuePlace body i⟩ :=
  entryAt?_eq_some_iff.mpr ⟨h, rfl⟩

/-- An entry is for one field only. -/
theorem IsFor.eq {g : Field} (hf : IsFor body f i) (hg : IsFor body g i) : f = g :=
  congrArg Entry.field (Option.some.inj (hf.entryAt?_eq.symm.trans hg.entryAt?_eq))

/-! ### From entries to fields -/

/-- Puts the value of an entry into its field, if it can be read in a given code page. -/
def put (body : ByteArray) (page : CodePage) (s : Summary) (e : Entry) : Summary :=
  match Value.read? e.field.kind page body e.offset with
  | some value => s.set e.field value
  | none => s

/-- The code page that the entries declare: the last one that can be read. -/
def pageOf (body : ByteArray) (entries : List Entry) : CodePage :=
  (entries.filter (·.field = .codePage)).foldl
    (fun page e =>
      match Value.read? e.field.kind page body e.offset with
      | some (.number n) => .ofNumber n
      | _ => page)
    .latin1

/-- The values of the kept entries for a field. -/
def readingsOf (body : ByteArray) (page : CodePage) (l : List Entry) (f : Field) :
    List (Option Value) :=
  (l.filter (·.field = f)).map fun e => Value.read? f.kind page body e.offset

theorem readingsOf_append (l l' : List Entry) :
    readingsOf body page (l ++ l') f = readingsOf body page l f ++ readingsOf body page l' f := by
  simp only [readingsOf, List.filter_append, List.map_append]

/-- What is kept of some places of the table says what the places say. -/
theorem readingsOf_filterMap (places : List Nat) :
    readingsOf body page (places.filterMap (entryAt? body)) f =
      (places.filter (IsFor body f ·)).map (valueAt? body page f) := by
  -- on the places: an entry that is kept is for one field only
  induction places with
  | nil => rfl
  | cons i places ih =>
    by_cases hi : IsFor body f i
    · rw [List.filterMap_cons_some hi.entryAt?_eq]
      simpa [readingsOf, hi, valueAt?] using ih
    · cases hentry : entryAt? body i with
      | none =>
        rw [List.filterMap_cons_none hentry]
        simpa [hi] using ih
      | some e =>
        have hfield : e.field ≠ f := by
          rintro rfl
          exact hi (entryAt?_eq_some_iff.mp hentry).1
        rw [List.filterMap_cons_some hentry]
        simpa [readingsOf, hi, hfield] using ih

@[simp] theorem lastOf_append_none (values : List (Option Value)) :
    lastOf (values ++ [none]) = lastOf values := by
  simp [lastOf]

@[simp] theorem lastOf_append_some (values : List (Option Value)) (v : Value) :
    lastOf (values ++ [some v]) = some v := by
  simp [lastOf]

theorem get_put_of_ne {e : Entry} (s : Summary) (h : f ≠ e.field) :
    (put body page s e).get f = s.get f := by
  unfold put
  split
  · exact get_set_of_ne s h _
  · rfl

theorem get_put_self (s : Summary) (e : Entry) :
    (put body page s e).get e.field =
      (Value.read? e.field.kind page body e.offset).getD (s.get e.field) := by
  unfold put
  split
  · next v hvalue => rw [hvalue, get_set_self s hvalue, Option.getD_some]
  · next hvalue => rw [hvalue, Option.getD_none]

@[simp] theorem totalSize_put (s : Summary) (e : Entry) :
    (put body page s e).totalSize = s.totalSize := by
  unfold put
  split
  · exact totalSize_set ..
  · rfl

theorem totalSize_foldl_put (l : List Entry) (s : Summary) :
    (l.foldl (put body page) s).totalSize = s.totalSize := by
  induction l generalizing s with
  | nil => rfl
  | cons e l ih => rw [List.foldl_cons, ih, totalSize_put]

/-- **A field has the last value that can be read for it**, and keeps what it had if there is none. -/
theorem get_foldl_put (l : List Entry) (s : Summary) :
    (l.foldl (put body page) s).get f = (lastOf (readingsOf body page l f)).getD (s.get f) := by
  -- from behind, since the last value counts
  induction l using List.reverseRecOn with
  | nil => rfl
  | append_singleton l e ih =>
    rw [List.foldl_concat, readingsOf_append]
    -- another field's entry changes nothing
    by_cases he : e.field = f
    · subst he
      have hlast : readingsOf body page [e] e.field =
          [Value.read? e.field.kind page body e.offset] := by
        simp [readingsOf]
      rw [get_put_self, hlast, ih]
      cases Value.read? e.field.kind page body e.offset with
      | none => rw [lastOf_append_none, Option.getD_none]
      | some v => rw [lastOf_append_some, Option.getD_some, Option.getD_some]
    · have hnone : readingsOf body page [e] f = [] := by
        simp [readingsOf, he]
      rw [hnone, List.append_nil, ← ih, get_put_of_ne _ (Ne.symm he)]

theorem pageOf_concat_of_ne {e : Entry} (l : List Entry) (h : e.field ≠ .codePage) :
    pageOf body (l ++ [e]) = pageOf body l := by
  simp only [pageOf, List.filter_append, List.filter_cons, List.filter_nil, h, decide_false,
    Bool.false_eq_true, if_false, List.append_nil]

theorem pageOf_concat {e : Entry} (l : List Entry) (h : e.field = .codePage) :
    pageOf body (l ++ [e]) =
      match Value.read? .short page body e.offset with
      | some (.number n) => .ofNumber n
      | _ => pageOf body l := by
  obtain ⟨field, offset⟩ := e
  subst h
  unfold pageOf
  rw [List.filter_append, List.foldl_append]
  rfl

/-- **The code page is that of the last entry for it** whose value can be read. -/
theorem pageOf_eq (l : List Entry) :
    pageOf body l = pageFor (lastOf (readingsOf body page l .codePage)) := by
  -- from behind as well: the last number that can be read is the page
  induction l using List.reverseRecOn with
  | nil => rfl
  | append_singleton l e ih =>
    rw [readingsOf_append]
    by_cases he : e.field = .codePage
    · have hlast : readingsOf body page [e] .codePage =
          [Value.read? .short page body e.offset] := by
        simp [readingsOf, he, Field.kind]
      rw [pageOf_concat l he, hlast]
      -- the value for the code page is a number, or there is none
      by_cases hsize : body.size < e.offset + 6
      · have hvalue : Value.read? .short page body e.offset = none := if_pos hsize
        rw [hvalue, lastOf_append_none, ← ih]
      · have hvalue : Value.read? .short page body e.offset =
            some (.number (Bytes.number body (e.offset + 4) 2)) := if_neg hsize
        rw [hvalue, lastOf_append_some, pageFor]
    · have hnone : readingsOf body page [e] .codePage = [] := by
        simp [readingsOf, he]
      rw [hnone, List.append_nil, ← ih, pageOf_concat_of_ne l he]

/-! ### The values one after the other -/

theorem waits_trans (e₁ e₂ e₃ : Entry) (h : decide (e₁.waits ≤ e₂.waits) = true)
    (h' : decide (e₂.waits ≤ e₃.waits) = true) : decide (e₁.waits ≤ e₃.waits) = true := by
  rw [decide_eq_true_eq] at h h' ⊢
  exact Bool.le_trans h h'

theorem waits_total (e e' : Entry) : (decide (e.waits ≤ e'.waits) || decide (e'.waits ≤ e.waits)) = true := by
  simp only [Bool.or_eq_true, decide_eq_true_eq]
  exact Bool.le_total ..

theorem pairwise_inOrder (l : List Entry) :
    (inOrder l).Pairwise fun e e' => decide (e.waits ≤ e'.waits) = true :=
  List.pairwise_mergeSort waits_trans waits_total l

/-- Sorting keeps the order of the entries that wait, and of those that do not. -/
theorem filter_waits_inOrder (l : List Entry) (w : Bool) :
    (inOrder l).filter (·.waits = w) = l.filter (·.waits = w) := by
  -- entries of one kind are in order already, so they are still there in that order, and none is new
  have hsorted : (l.filter (·.waits = w)).Pairwise fun e e' => decide (e.waits ≤ e'.waits) = true := by
    refine List.pairwise_of_forall_mem_list fun e he e' he' => ?_
    have hw := of_decide_eq_true (List.mem_filter.mp he).2
    have hw' := of_decide_eq_true (List.mem_filter.mp he').2
    rw [decide_eq_true_eq, hw, hw']
  have hsub : (l.filter (·.waits = w)).Sublist (inOrder l) :=
    List.sublist_mergeSort waits_trans waits_total hsorted List.filter_sublist
  have hfilter := hsub.filter (·.waits = w)
  -- what is left of the sorted list has the same entries, and those are all of them
  rw [List.filter_filter] at hfilter
  simp only [Bool.and_self] at hfilter
  exact (hfilter.eq_of_length ((List.mergeSort_perm l _).filter _).length_eq.symm).symm

/-- In a list in which none waits in front of one that does not, those that do not wait come first. -/
theorem eq_append_of_pairwise {l : List Entry}
    (h : l.Pairwise fun e e' => decide (e.waits ≤ e'.waits) = true) :
    l = l.filter (·.waits = false) ++ l.filter (·.waits = true) := by
  -- on the list: once an entry waits, all entries behind it do
  induction l with
  | nil => rfl
  | cons e l ih =>
    obtain ⟨hfirst, hrest⟩ := List.pairwise_cons.mp h
    cases hw : e.waits with
    | false =>
      rw [List.filter_cons_of_pos (by simp [hw]), List.filter_cons_of_neg (by simp [hw]),
        List.cons_append, ← ih hrest]
    | true =>
      have hall : ∀ e' ∈ l, e'.waits = true := by
        intro e' he'
        have hle := of_decide_eq_true (hfirst e' he')
        rw [hw] at hle
        exact Bool.eq_true_of_true_le hle
      have hnone : (e :: l).filter (·.waits = false) = [] := by
        rw [List.filter_eq_nil_iff]
        intro e' he'
        rcases List.mem_cons.mp he' with rfl | he'
        · simp [hw]
        · simp [hall e' he']
      rw [hnone, List.nil_append, List.filter_eq_self.mpr]
      intro e' he'
      rcases List.mem_cons.mp he' with rfl | he'
      · simp [hw]
      · simp [hall e' he']

/-- **The entries for the code page come first**, and nothing else is moved. -/
theorem inOrder_eq (l : List Entry) :
    inOrder l = l.filter (·.field = .codePage) ++ l.filter (·.field ≠ .codePage) := by
  rw [eq_append_of_pairwise (pairwise_inOrder l), filter_waits_inOrder, filter_waits_inOrder]
  simp [Entry.waits]

/-- No entry overtakes another one for the same field. -/
theorem filter_inOrder (l : List Entry) (f : Field) :
    (inOrder l).filter (·.field = f) = l.filter (·.field = f) := by
  rw [inOrder_eq, List.filter_append, List.filter_filter, List.filter_filter]
  -- the entries for a field are all of one kind
  by_cases hf : f = .codePage
  · subst hf
    simp
  · have hnone : l.filter (fun e => decide (e.field = f) && decide (e.field = .codePage)) = [] := by
      rw [List.filter_eq_nil_iff]
      rintro e - h
      simp only [Bool.and_eq_true, decide_eq_true_eq] at h
      exact hf (h.1.symm.trans h.2)
    rw [hnone, List.nil_append]
    refine List.filter_congr fun e _ => ?_
    rw [← Bool.decide_and, decide_eq_decide]
    exact and_iff_left_of_imp fun he hpage => hf (he.symm.trans hpage)

/-- The entries for the code page settle it. None of their values depends on it. -/
theorem foldl_take_pages (page : CodePage) (s : Summary) {l : List Entry}
    (h : ∀ e ∈ l, e.field = .codePage) :
    l.foldl (Filling.take body) ⟨s, .latin1⟩ = ⟨l.foldl (put body page) s, pageOf body l⟩ := by
  -- from behind, so that the page so far is that of the entries before
  induction l using List.reverseRecOn with
  | nil => rfl
  | append_singleton l e ih =>
    obtain ⟨field, offset⟩ := e
    obtain rfl : field = .codePage := h ⟨field, offset⟩ (by simp)
    have hpage := @pageOf_concat body page ⟨.codePage, offset⟩ l rfl
    rw [List.foldl_concat, List.foldl_concat, ih fun e he => h e (List.mem_append_left _ he), hpage]
    -- the number of a code page is read in the same way in every page
    simp only [Filling.take, put, Field.kind, Value.read?]
    by_cases hsize : body.size < offset + 6
    · simp only [if_pos hsize]
    · simp only [if_neg hsize]

/-- Other entries leave the code page as it is. -/
theorem foldl_take_rest (page : CodePage) (s : Summary) {l : List Entry}
    (h : ∀ e ∈ l, e.field ≠ .codePage) :
    l.foldl (Filling.take body) ⟨s, page⟩ = ⟨l.foldl (put body page) s, page⟩ := by
  induction l generalizing s with
  | nil => rfl
  | cons e l ih =>
    obtain ⟨he, hl⟩ := List.forall_mem_cons.mp h
    have hone : Filling.take body ⟨s, page⟩ e = ⟨put body page s e, page⟩ := by
      unfold Filling.take put
      cases Value.read? e.field.kind page body e.offset with
      | none => rfl
      | some v => simp [he]
    rw [List.foldl_cons, List.foldl_cons, hone, ih _ hl]

/-- **One code page applies to all values**, so the order in which entries for different fields are read
does not matter. -/
theorem fill_eq_foldl (l : List Entry) (s : Summary) :
    fill body l s = l.foldl (put body (pageOf body l)) s := by
  have hpage : pageOf body (l.filter (·.field = .codePage)) = pageOf body l := by
    simp only [pageOf, List.filter_filter, Bool.and_self]
  have hloop : fill body l s = (inOrder l).foldl (put body (pageOf body l)) s := by
    rw [fill, inOrder_eq, List.foldl_append, List.foldl_append,
      foldl_take_pages (pageOf body l) s fun e he => of_decide_eq_true (List.mem_filter.mp he).2, hpage,
      foldl_take_rest _ _ fun e he => of_decide_eq_true (List.mem_filter.mp he).2]
  rw [hloop]
  refine ext_get (fun f => ?_) ?_
  · rw [get_foldl_put, get_foldl_put, readingsOf, filter_inOrder, ← readingsOf]
  · rw [totalSize_foldl_put, totalSize_foldl_put]

/-! ### A whole property set -/

/-- The section, if there is room for its head. -/
theorem body?_eq (b : ByteArray) :
    body? b = if b.size < 48 ∨ (sectionOf b).size < 8 then none else some (sectionOf b) := by
  have hsize : (sectionOf b).size = b.size - Bytes.number b 44 4 := by
    rw [sectionOf, ByteArray.size_extract, Nat.min_self]
  rw [hsize]
  change (if b.size < 48 then none
    else if b.size < Bytes.number b 44 4 + 8 then none
    else some (Bytes.slice b (Bytes.number b 44 4) (b.size - Bytes.number b 44 4))) = _
  -- the two tests of the head, the second one on the section itself
  by_cases hpreamble : b.size < 48
  · rw [if_pos hpreamble, if_pos (.inl hpreamble)]
  · rw [if_neg hpreamble]
    by_cases hhead : b.size < Bytes.number b 44 4 + 8
    · rw [if_pos hhead, if_pos (.inr (by omega))]
    · rw [if_neg hhead, if_neg (by omega), Bytes.slice_eq_extract, sectionOf,
        Nat.add_sub_cancel' (by omega)]

/-- The entries of a property set that are kept. -/
def kept (b : ByteArray) : List Entry :=
  (List.range (entryCount b)).filterMap (entryAt? (sectionOf b))

theorem readingsOf_kept : readingsOf (sectionOf b) page (kept b) f = readings b page f :=
  readingsOf_filterMap (List.range (entryCount b))

/-- All that is read of a property set is the values of the kept entries. -/
theorem value_apply (b : ByteArray) (s : Summary) :
    (apply b s).value = fill (sectionOf b) (kept b) s := by
  unfold apply
  rw [body?_eq]
  by_cases h : b.size < 48 ∨ (sectionOf b).size < 8
  · rw [if_pos h, kept, entryCount, if_pos h, fill_eq_foldl]
    rfl
  · have hkept : kept b = entries (sectionOf b) := by
      rw [kept, entryCount, if_neg h]
      rfl
    rw [if_neg h, hkept]
    dsimp only
    split <;> simp only [Noted.value_bind, Noted.value_pure]

/-- The code page of a property set. A number is read in the same way in every page. -/
def pageIn (b : ByteArray) : CodePage := pageFor (lastOf (readings b .latin1 .codePage))

theorem pageOf_kept (b : ByteArray) : pageOf (sectionOf b) (kept b) = pageIn b := by
  have h : pageOf (sectionOf b) (kept b) = pageFor (lastOf (readingsOf _ .latin1 (kept b) _)) :=
    pageOf_eq (kept b)
  rw [h, readingsOf_kept, pageIn]

/-- The fields of a summary after a property set has been read. -/
theorem get_apply (b : ByteArray) (s : Summary) (f : Field) :
    (apply b s).value.get f = (lastOf (readings b (pageIn b) f)).getD (s.get f) := by
  rw [value_apply, fill_eq_foldl, get_foldl_put, pageOf_kept, readingsOf_kept]

theorem totalSize_apply (b : ByteArray) (s : Summary) :
    (apply b s).value.totalSize = s.totalSize := by
  rw [value_apply, fill_eq_foldl, totalSize_foldl_put]

end InstallerPackage.Summary
