import InstallerPackage.Proofs.Summary.Entries
import InstallerPackage.Summary.PropertySet

/-!
# The order of the entries of a property set

The table of a property set may list its entries in any order, and some twice. What is read depends on
one thing only: which entry for a field stands behind which other entry for the same field.

* `Summary.fill_congr` says so for entries of one section, and `Summary.Moved.readings_eq` for two
  property sets whose entries say the same in another order (`Summary.Moved`).
* `Summary.TableMoved.moved` gives the plain case, in which the table alone is changed. No value may
  stand inside the table then, since it would be another value afterwards.
* `Summary.apply_last_readings` puts this together with what every field is.
-/

namespace InstallerPackage.Summary

variable {b b' : ByteArray} {page : CodePage} {f : Field} {σ : Nat → Nat}

/-! ### Entries in another order -/

/-- Two lists of entries fill a summary in the same way if they have the same entries for each field. -/
theorem fill_congr {body : ByteArray} {l l' : List Entry}
    (h : ∀ f : Field, l'.filter (·.field = f) = l.filter (·.field = f)) (s : Summary) :
    fill body l' s = fill body l s := by
  -- a field sees only its own entries, and the code page is a field, too
  have hreadings : ∀ (page : CodePage) (f : Field),
      readingsOf body page l' f = readingsOf body page l f := by
    intro page f
    rw [readingsOf, h f, readingsOf]
  have hpage : pageOf body l' = pageOf body l := by
    have h' : pageOf body l' = pageFor (lastOf (readingsOf _ .latin1 l' _)) := pageOf_eq l'
    rw [h', hreadings, ← pageOf_eq l]
  refine ext_get (fun f => ?_) ?_
  · rw [fill_eq_foldl, fill_eq_foldl, hpage, get_foldl_put, get_foldl_put, hreadings]
  · rw [fill_eq_foldl, fill_eq_foldl, totalSize_foldl_put, totalSize_foldl_put]

/-- What the `i`-th entry of the second property set says, the `σ i`-th entry of the first one says.
Entries for the same field do not overtake each other. -/
structure Moved (σ : Nat → Nat) (b b' : ByteArray) : Prop where
  count : entryCount b' = entryCount b
  perm : ((List.range (entryCount b)).map σ).Perm (List.range (entryCount b))
  isFor : ∀ i < entryCount b, ∀ f, IsFor (sectionOf b') f i ↔ IsFor (sectionOf b) f (σ i)
  value : ∀ i < entryCount b, ∀ f, IsFor (sectionOf b') f i →
    valueAt? (sectionOf b') (pageIn b) f i = valueAt? (sectionOf b) (pageIn b) f (σ i)
  order : ∀ i j f, i < j → j < entryCount b → IsFor (sectionOf b') f i → IsFor (sectionOf b') f j →
    σ i < σ j

namespace Moved

/-- The entries for a field are the same ones, in the same order. -/
theorem map_filter_eq (h : Moved σ b b') (f : Field) :
    ((List.range (entryCount b')).filter (IsFor (sectionOf b') f ·)).map σ =
      (List.range (entryCount b)).filter (IsFor (sectionOf b) f ·) := by
  rw [h.count]
  have hpast : ((List.range (entryCount b)).filter (IsFor (sectionOf b') f ·)).map σ =
      ((List.range (entryCount b)).map σ).filter (IsFor (sectionOf b) f ·) := by
    rw [List.filter_map]
    refine congrArg (List.map σ) (List.filter_congr fun i hi => ?_)
    rw [Function.comp_apply, decide_eq_decide]
    exact h.isFor i (List.mem_range.mp hi) f
  -- both lists of places are increasing, so that it is enough to have the same places
  have hsorted : (((List.range (entryCount b)).filter (IsFor (sectionOf b') f ·)).map σ).Pairwise
      (· < ·) := by
    rw [List.pairwise_map]
    refine List.Pairwise.imp_of_mem ?_ (List.pairwise_lt_range.filter _)
    intro i j hi hj hlt
    simp only [List.mem_filter, List.mem_range, decide_eq_true_eq] at hi hj
    exact h.order i j f hlt hj.1 hi.2 hj.2
  refine List.Perm.eq_of_pairwise (fun i j _ _ hij hji => ?_) hsorted
    (List.pairwise_lt_range.filter _) ?_
  · exact absurd hij (Nat.lt_asymm hji)
  · rw [hpast]
    exact h.perm.filter _

theorem readings_eq (h : Moved σ b b') (f : Field) :
    readings b' (pageIn b) f = readings b (pageIn b) f := by
  have hvalues : readings b' (pageIn b) f =
      ((List.range (entryCount b')).filter (IsFor (sectionOf b') f ·)).map
        (valueAt? (sectionOf b) (pageIn b) f ∘ σ) := by
    refine List.map_congr_left fun i hi => ?_
    simp only [List.mem_filter, List.mem_range, decide_eq_true_eq, h.count] at hi
    exact h.value i hi.1 f hi.2
  rw [hvalues, ← List.map_map, h.map_filter_eq f, readings]

theorem pageIn_eq (h : Moved σ b b') : pageIn b' = pageIn b :=
  -- the readings for the code page are numbers, whatever the code page is
  congrArg (fun values => pageFor (lastOf values)) (h.readings_eq .codePage)

/-- A property set whose entries are moved is read in the same way. -/
theorem value_apply_eq (h : Moved σ b b') (s : Summary) :
    (apply b' s).value = (apply b s).value := by
  refine ext_get (fun f => ?_) ?_
  · rw [get_apply, get_apply, h.pageIn_eq, h.readings_eq]
  · rw [totalSize_apply, totalSize_apply]

end Moved

/-! ### Moving the rows of the table -/

/-- A value is the same in two sections that are the same from its type on. -/
theorem read?_congr {body body' : ByteArray} {start place : Nat} {kind : Kind} (hsize : body'.size = body.size)
    (h : body'.data.toList.drop start = body.data.toList.drop start) (hplace : start ≤ place) :
    Value.read? kind page body' place = Value.read? kind page body place := by
  cases kind with
  | text =>
    simp only [Value.read?, readText, hsize, Bytes.number_eq_of_drop_eq h (Nat.le_add_right_of_le hplace),
      Bytes.slice_eq_of_drop_eq h (Nat.le_add_right_of_le hplace)]
  | short | long | time =>
    simp only [Value.read?, hsize, Bytes.number_eq_of_drop_eq h (Nat.le_add_right_of_le hplace)]

/-- The rows of the table are moved, and the rest of the section stays as it is. All values stand
outside the table. -/
structure TableMoved (σ : Nat → Nat) (b b' : ByteArray) : Prop where
  count : entryCount b' = entryCount b
  perm : ((List.range (entryCount b)).map σ).Perm (List.range (entryCount b))
  size : (sectionOf b').size = (sectionOf b).size
  behind : (sectionOf b').data.toList.drop (8 + 8 * entryCount b) =
    (sectionOf b).data.toList.drop (8 + 8 * entryCount b)
  id : ∀ i < entryCount b,
    Bytes.number (sectionOf b') (8 + 8 * i) 4 = Bytes.number (sectionOf b) (8 + 8 * σ i) 4
  place : ∀ i < entryCount b, valuePlace (sectionOf b') i = valuePlace (sectionOf b) (σ i)
  outside : ∀ i < entryCount b, valuePlace (sectionOf b) i + 4 ≤ (sectionOf b).size →
    8 + 8 * entryCount b ≤ valuePlace (sectionOf b) i
  order : ∀ i j f, i < j → j < entryCount b → IsFor (sectionOf b) f (σ i) →
    IsFor (sectionOf b) f (σ j) → σ i < σ j

namespace TableMoved

theorem lt (h : TableMoved σ b b') {i : Nat} (hi : i < entryCount b) : σ i < entryCount b :=
  List.mem_range.mp (h.perm.subset (List.mem_map_of_mem (List.mem_range.mpr hi)))

/-- A row that is moved is for the same field. -/
theorem isFor_iff (h : TableMoved σ b b') {i : Nat} (hi : i < entryCount b) (f : Field) :
    IsFor (sectionOf b') f i ↔ IsFor (sectionOf b) f (σ i) := by
  have htype (hroom : valuePlace (sectionOf b) (σ i) + 4 ≤ (sectionOf b).size) :
      Bytes.number (sectionOf b') (valuePlace (sectionOf b') i) 4 =
        Bytes.number (sectionOf b) (valuePlace (sectionOf b) (σ i)) 4 := by
    rw [h.place i hi]
    exact Bytes.number_eq_of_drop_eq h.behind (h.outside (σ i) (h.lt hi) hroom) 4
  -- both directions need the room of the value first, since its type is read only where there is room
  constructor
  · intro hfor
    have hroom := hfor.room
    rw [h.place i hi, h.size] at hroom
    exact ⟨hroom, h.id i hi ▸ hfor.id, htype hroom ▸ hfor.kind⟩
  · intro hfor
    refine ⟨?_, (h.id i hi).trans hfor.id, (congrArg (· % 0x10000) (htype hfor.room)).trans hfor.kind⟩
    rw [h.place i hi, h.size]
    exact hfor.room

/-- Moving the rows of the table moves the entries. -/
theorem moved (h : TableMoved σ b b') : Moved σ b b' where
  count := h.count
  perm := h.perm
  isFor _ hi := h.isFor_iff hi
  value i hi f hfor := by
    have hroom := ((h.isFor_iff hi f).mp hfor).room
    rw [valueAt?, valueAt?, h.place i hi]
    exact read?_congr h.size h.behind (h.outside (σ i) (h.lt hi) hroom)
  order i j f hij hj hi' hj' :=
    h.order i j f hij hj ((h.isFor_iff (hij.trans hj) f).mp hi') ((h.isFor_iff hj f).mp hj')

end TableMoved

/-! ### What is read of any property set -/

/-- **The last readable entry for a field counts, wherever it stands.** Whatever the bytes are and
whatever is known before:

* the size of the file is left alone;
* a field has the last value that can be read for it, and what it had before if there is none. Texts
  are in the code page of the last readable entry for it, or in Latin-1;
* a value cannot be read only if its bytes are not all there;
* only the entries of each field and their order matter, also if the entries of the section are listed
  in another way, or if those of another property set say the same. -/
theorem apply_last_readings (b : ByteArray) (s : Summary) :
    (apply b s).value.totalSize = s.totalSize ∧
    (∀ f, (apply b s).value.get f = (lastOf (readings b (pageIn b) f)).getD (s.get f)) ∧
    (∀ page f i, IsFor (sectionOf b) f i →
      (valueAt? (sectionOf b) page f i = none ↔
        (sectionOf b).size < valuePlace (sectionOf b) i + f.kind.room)) ∧
    (∀ l : List Entry,
      (∀ f : Field, l.filter (·.field = f) = (kept b).filter (·.field = f)) →
        fill (sectionOf b) l s = (apply b s).value) ∧
    (∀ b' σ, Moved σ b b' → (apply b' s).value = (apply b s).value) := by
  refine ⟨totalSize_apply b s, get_apply b s, ?_, ?_, ?_⟩
  · intro page f i hfor
    exact read?_eq_none_iff hfor.room
  · intro l hl
    rw [value_apply]
    exact fill_congr hl s
  · intro b' σ h
    exact h.value_apply_eq s

/-- A property set with two titles and two code pages, whose table lists the values in any order. The
value of the last code page is cut off. -/
def listing (order : List Nat) : ByteArray :=
  let section₁ := PropertySet.body
    [⟨2, .text [0x41]⟩, ⟨2, .text [0xC3, 0xA9]⟩, ⟨1, .short 65001⟩, ⟨1, .short 1252⟩]
  Bytes.ofList (PropertySet.preamble ++ section₁.take 8 ++
    order.flatMap (fun i => (section₁.drop (8 + 8 * i)).take 8) ++ (section₁.drop 40).rdrop 3)

/-- The code page may stand in front of the titles or behind them. -/
theorem apply_last_readings_listing :
    (apply (listing [2, 0, 1, 3]) {}).value = (apply (listing [0, 1, 2, 3]) {}).value ∧
      (apply (listing [0, 1, 2, 3]) {}).value = { title := "é", codePage := 65001 } := by
  have hcount : entryCount (listing [0, 1, 2, 3]) = 4 := by decide +kernel
  have hmoved : TableMoved (fun i => [2, 0, 1, 3].getD i 0) (listing [0, 1, 2, 3])
      (listing [2, 0, 1, 3]) := by
    have htitle : IsFor (sectionOf (listing [0, 1, 2, 3])) .title 0 ∧
        IsFor (sectionOf (listing [0, 1, 2, 3])) .title 1 := by decide +kernel
    have hpage : IsFor (sectionOf (listing [0, 1, 2, 3])) .codePage 2 := by decide +kernel
    refine ⟨?_, ?_, ?_, ?_, ?_, ?_, ?_, fun i j f hij hj hi hj' => ?_⟩
    case refine_8 =>
      -- only a code page overtakes something, and what it overtakes are titles
      rw [hcount] at hj
      interval_cases j <;> interval_cases i <;> first
        | exact absurd ((hpage.eq hi).trans (hj'.eq htitle.1)) (by decide)
        | exact absurd ((hpage.eq hi).trans (hj'.eq htitle.2)) (by decide)
        | decide
    all_goals decide +kernel
  refine ⟨(apply_last_readings (listing [0, 1, 2, 3]) {}).2.2.2.2 _ _ hmoved.moved, ?_⟩
  rw [value_apply, fill_eq_foldl]
  decide +kernel

end InstallerPackage.Summary
