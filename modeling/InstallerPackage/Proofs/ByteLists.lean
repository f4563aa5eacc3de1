import Mathlib
import InstallerPackage.Bytes

/-!
# Byte arrays as lists

Proofs about what is cut out of a byte array are proofs about lists: a slice is `drop` and `take`,
a number is `Bytes.valueOf` its bytes. `toList_slice` and `number_ofList` lead from the one to the
other, and `number_ofList_skip` and `number_ofList_here` read a field out of a list of fields that
follow each other. By `slice_eq_of_drop_eq` and `number_eq_of_drop_eq` nothing in front of a place counts
for what is read there.
-/

namespace InstallerPackage.Bytes

/-- The number that some bytes stand for, the lowest one first. -/
def valueOf : List UInt8 → Nat
  | [] => 0
  | x :: rest => x.toNat + 256 * valueOf rest

/-! ### Slices -/

@[simp] theorem toList_ofList (l : List UInt8) : (ofList l).data.toList = l := by
  simp [ofList]

theorem ofList_toList (b : ByteArray) : ofList b.data.toList = b := by
  cases b
  rfl

theorem length_toList (b : ByteArray) : b.data.toList.length = b.size := by
  rw [Array.length_toList, ByteArray.size_data]

theorem toList_inj {a b : ByteArray} : a.data.toList = b.data.toList ↔ a = b := by
  rw [Array.toList_inj]
  exact ⟨ByteArray.ext, fun h => h ▸ rfl⟩

theorem toList_extract (b : ByteArray) (start stop : Nat) :
    (b.extract start stop).data.toList = (b.data.toList.drop start).take (stop - start) := by
  rw [ByteArray.data_extract, Array.toList_extract, List.extract_eq_take_drop]

theorem toList_slice (b : ByteArray) (offset length : Nat) :
    (slice b offset length).data.toList = (b.data.toList.drop offset).take length := by
  rw [slice_eq_extract, toList_extract, Nat.add_sub_cancel_left]

theorem slice_ofList (l : List UInt8) (offset length : Nat) :
    slice (ofList l) offset length = ofList ((l.drop offset).take length) := by
  rw [← toList_inj, toList_slice, toList_ofList, toList_ofList]

/-- A part of a part is a part. -/
theorem slice_slice {offset length start width : Nat} (b : ByteArray) (h : start + width ≤ length) :
    slice (slice b offset length) start width = slice b (offset + start) width := by
  rw [← toList_inj, toList_slice, toList_slice, toList_slice, List.drop_take, List.take_take,
    List.drop_drop, Nat.min_eq_left (by omega)]

/-! ### Numbers -/

theorem number_lt (b : ByteArray) (offset width : Nat) : number b offset width < 256 ^ width := by
  induction width generalizing offset with
  | zero => simp
  | succ width ih =>
    have h := byte_lt b offset
    have h' := ih (offset + 1)
    simp only [number_succ, Nat.pow_succ]
    omega

theorem number_ofList (l : List UInt8) (offset width : Nat) :
    number (ofList l) offset width = valueOf ((l.drop offset).take width) := by
  -- byte by byte; behind the end of the list all bytes are zero
  induction width generalizing offset with
  | zero => simp [valueOf]
  | succ width ih =>
    rw [number_succ, ih, byte_ofList]
    cases h : l[offset]? with
    | none =>
      have hlen : l.length ≤ offset := List.getElem?_eq_none_iff.mp h
      rw [List.drop_of_length_le hlen, List.drop_of_length_le (by omega)]
      simp [valueOf]
    | some x =>
      obtain ⟨hlt, rfl⟩ := List.getElem?_eq_some_iff.mp h
      rw [List.drop_eq_getElem_cons hlt]
      rfl

/-- A number inside a part of the bytes. -/
theorem number_slice {offset length start width : Nat} (b : ByteArray) (h : start + width ≤ length) :
    number (slice b offset length) start width = number b (offset + start) width := by
  rw [← ofList_toList b, slice_ofList, number_ofList, number_ofList, List.drop_take, List.take_take,
    List.drop_drop, Nat.min_eq_left (by omega)]

theorem valueOf_little (width n : Nat) : valueOf (little width n) = n % 256 ^ width := by
  induction width generalizing n with
  | zero => simp [little, valueOf, Nat.mod_one]
  | succ width ih =>
    rw [little, valueOf, ih, Nat.pow_succ', Nat.mod_mul]
    simp

/-- Fields before the one that is read can be skipped. -/
theorem number_ofList_skip {field : List UInt8} {offset : Nat} (h : field.length ≤ offset)
    (more : List UInt8) (width : Nat) :
    number (ofList (field ++ more)) offset width
      = number (ofList more) (offset - field.length) width := by
  rw [number_ofList, number_ofList, List.drop_append, List.drop_of_length_le h, List.nil_append]

/-- A field at the front is read as it was written. -/
theorem number_ofList_here (width n : Nat) (more : List UInt8) :
    number (ofList (little width n ++ more)) 0 width = n % 256 ^ width := by
  rw [number_ofList, List.drop_zero, List.take_left' (length_little width n), valueOf_little]

/-- A number between other bytes. -/
theorem number_ofList_between (width n : Nat) (before after : List UInt8) :
    number (ofList (before ++ (little width n ++ after))) before.length width = n % 256 ^ width := by
  rw [number_ofList_skip (Nat.le_refl _), Nat.sub_self, number_ofList_here]

theorem length_flatMap_little (width : Nat) (l : List Nat) :
    (l.flatMap (little width)).length = width * l.length := by
  induction l with
  | nil => rfl
  | cons n l ih =>
    rw [List.flatMap_cons, List.length_append, ih, length_little, List.length_cons, Nat.mul_succ,
      Nat.add_comm]

theorem number_ofList_prefix {field : List UInt8} {offset width : Nat}
    (h : offset + width ≤ field.length) (more : List UInt8) :
    number (ofList (field ++ more)) offset width = number (ofList field) offset width := by
  rw [number_ofList, number_ofList, List.drop_append_of_le_length (by omega),
    List.take_append_of_le_length]
  rw [List.length_drop]
  omega

/-- A number inside one of several fields of one length is read in that field alone. -/
theorem number_ofList_field {α : Type} {f : α → List UInt8} {l : List α} {u i offset width : Nat}
    {a : α} (hf : ∀ a ∈ l, (f a).length = u) (ha : l[i]? = some a) (hin : offset + width ≤ u)
    (more : List UInt8) :
    number (ofList (l.flatMap f ++ more)) (u * i + offset) width =
      number (ofList (f a)) offset width := by
  -- field by field; each one before takes its length off the offset
  induction l generalizing i with
  | nil => simp at ha
  | cons b l ih =>
    have hb : (f b).length = u := hf b (List.mem_cons_self ..)
    rw [List.flatMap_cons, List.append_assoc]
    cases i with
    | zero =>
      obtain rfl : b = a := by simpa using ha
      rw [Nat.mul_zero, Nat.zero_add, number_ofList_prefix (by rw [hb]; exact hin)]
    | succ i =>
      rw [number_ofList_skip (by rw [hb, Nat.mul_succ]; omega), hb,
        show u * (i + 1) + offset - u = u * i + offset by rw [Nat.mul_succ]; omega]
      exact ih (fun a ha => hf a (List.mem_cons_of_mem b ha)) ha

/-- Numbers of one width that follow each other are read back one by one, whatever comes behind. -/
theorem number_ofList_flatMap {width i n : Nat} {l : List Nat} (hn : l[i]? = some n)
    (more : List UInt8) :
    number (ofList (l.flatMap (little width) ++ more)) (width * i) width = n % 256 ^ width := by
  have h := number_ofList_field (u := width) (fun n _ => length_little width n) hn
    (Nat.le_of_eq (Nat.zero_add width)) more
  rw [Nat.add_zero] at h
  rw [h, ← List.append_nil (little width n), number_ofList_here]

/-! ### The same end -/

section SameEnd

variable {a b : ByteArray} {start place : Nat}

theorem slice_eq_of_drop_eq (h : a.data.toList.drop start = b.data.toList.drop start)
    (hplace : start ≤ place) (length : Nat) : slice a place length = slice b place length := by
  obtain ⟨k, rfl⟩ := Nat.exists_eq_add_of_le hplace
  rw [← toList_inj, toList_slice, toList_slice, ← List.drop_drop, h, List.drop_drop]

theorem number_eq_of_drop_eq (h : a.data.toList.drop start = b.data.toList.drop start)
    (hplace : start ≤ place) (width : Nat) : number a place width = number b place width := by
  have hpart := @number_slice place width 0 width
  rw [← Nat.add_zero place, ← hpart a (by omega), ← hpart b (by omega),
    slice_eq_of_drop_eq h hplace]

end SameEnd

/-! ### Zeros at the end -/

theorem trimmedLength_le (b : ByteArray) (n : Nat) : trimmedLength b n ≤ n := by
  induction n with
  | zero => exact Nat.le_refl 0
  | succ n ih =>
    unfold trimmedLength
    split
    · exact Nat.le_succ_of_le ih
    · exact Nat.le_refl _

theorem trimmedLength_ofList_append {l : List UInt8} {n : Nat} (h : n ≤ l.length)
    (more : List UInt8) : trimmedLength (ofList (l ++ more)) n = trimmedLength (ofList l) n := by
  induction n with
  | zero => rfl
  | succ n ih =>
    have hbyte : byte (ofList (l ++ more)) n = byte (ofList l) n := by
      rw [byte_ofList, byte_ofList, List.getElem?_append_left h]
    rw [trimmedLength, trimmedLength, hbyte, ih (Nat.le_of_succ_le h)]

theorem trimmedLength_ofList {l : List UInt8} (h : l.getLast? ≠ some 0) :
    trimmedLength (ofList l) l.length = l.length := by
  cases hlen : l.length with
  | zero => rfl
  | succ n =>
    have hlast : l[n]? = some l[n] := List.getElem?_eq_getElem (by omega)
    rw [trimmedLength, byte_ofList, hlast, if_neg]
    intro hzero
    apply h
    rw [List.getLast?_eq_getElem?, hlen, Nat.add_sub_cancel, hlast]
    simpa [← UInt8.toNat_inj] using hzero

theorem trimZeros_ofList {l : List UInt8} (h : l.getLast? ≠ some 0) :
    trimZeros (ofList l) = ofList l := by
  rw [trimZeros, size_ofList, trimmedLength_ofList h, ← toList_inj, toList_extract]
  simp

/-- One more zero at the end is dropped, too. -/
theorem trimZeros_ofList_concat_zero (l : List UInt8) :
    trimZeros (ofList (l ++ [0])) = trimZeros (ofList l) := by
  -- the byte that was added is the first one to be dropped
  have hlength : trimmedLength (ofList (l ++ [0])) (l ++ [0]).length =
      trimmedLength (ofList l) l.length := by
    have hzero : byte (ofList (l ++ [0])) l.length = 0 := by
      rw [byte_ofList, List.getElem?_concat_length]
      rfl
    rw [List.length_append, List.length_singleton, trimmedLength, if_pos hzero,
      trimmedLength_ofList_append (Nat.le_refl _)]
  rw [trimZeros, trimZeros, size_ofList, size_ofList, hlength, ← toList_inj, toList_extract,
    toList_extract, toList_ofList, toList_ofList, List.drop_zero, List.drop_zero,
    List.take_append_of_le_length]
  exact trimmedLength_le _ _

end InstallerPackage.Bytes
