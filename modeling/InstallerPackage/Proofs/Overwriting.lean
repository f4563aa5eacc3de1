import InstallerPackage.Proofs.Strict.Containers

/-!
# Changing some bytes of a file

`Bytes.overwrite` puts other bytes in the place of some of a file's. What is cut out of the file in
front of them or behind them is the same as before, and so is every number there: two files that
agree on a part agree on all that is read from it (`Bytes.number_eq_of_slice_eq`). In particular the
header stays the same as long as the first 512 bytes do (`Header.read_eq_of_slice_eq`).
-/

namespace InstallerPackage

namespace Bytes

variable {b b' : ByteArray} {field : List UInt8} {offset start length width : Nat}

/-- The bytes with some of them, from `offset` on, replaced by others. -/
def overwrite (b : ByteArray) (offset : Nat) (field : List UInt8) : ByteArray :=
  ofList (b.data.toList.take offset ++ field ++ b.data.toList.drop (offset + field.length))

theorem size_overwrite (h : offset + field.length ≤ b.size) :
    (overwrite b offset field).size = b.size := by
  rw [overwrite, size_ofList, List.length_append, List.length_append, List.length_take,
    List.length_drop, length_toList]
  omega

/-- Nothing in front of the replaced bytes changes. -/
theorem slice_overwrite_before (h : offset + field.length ≤ b.size) (hle : start + length ≤ offset) :
    slice (overwrite b offset field) start length = slice b start length := by
  have hlength : (b.data.toList.take offset).length = offset := by
    rw [List.length_take, length_toList]
    omega
  -- the slice ends before the part in front of the new bytes does
  rw [← toList_inj, toList_slice, toList_slice, overwrite, toList_ofList, List.append_assoc,
    List.drop_append_of_le_length (by omega), List.take_append_of_le_length (by
      rw [List.length_drop]
      omega), List.drop_take, List.take_take, Nat.min_eq_left (by omega)]

/-- Nothing behind them does. -/
theorem slice_overwrite_behind (h : offset + field.length ≤ b.size)
    (hle : offset + field.length ≤ start) :
    slice (overwrite b offset field) start length = slice b start length := by
  have hlength : (b.data.toList.take offset ++ field).length = offset + field.length := by
    rw [List.length_append, List.length_take, length_toList]
    omega
  -- the new bytes are as many as those they stand for, so nothing behind them has moved
  rw [← toList_inj, toList_slice, toList_slice, overwrite, toList_ofList, List.drop_append,
    List.drop_of_length_le (by omega), List.nil_append, List.drop_drop, hlength,
    Nat.add_sub_cancel' hle]

/-- In their place there are the new ones. -/
theorem slice_overwrite_self (h : offset + field.length ≤ b.size) :
    slice (overwrite b offset field) offset field.length = ofList field := by
  have hlength : (b.data.toList.take offset).length = offset := by
    rw [List.length_take, length_toList]
    omega
  rw [← toList_inj, toList_slice, overwrite, toList_ofList, toList_ofList, List.append_assoc,
    List.drop_left' hlength, List.take_left' rfl]

/-- Where two files agree, they hold the same numbers. -/
theorem number_eq_of_slice_eq (h : slice b start length = slice b' start length)
    {offset width : Nat} (hle : offset + width ≤ length) :
    number b (start + offset) width = number b' (start + offset) width := by
  rw [← number_slice b hle, h, number_slice b' hle]

end Bytes

/-! ### The header -/

variable {b b' : ByteArray}

theorem Header.read_eq_of_slice_eq (h : Bytes.slice b 0 size = Bytes.slice b' 0 size) :
    read b = read b' := by
  rw [← read_slice b, h, read_slice]

theorem isCompoundFile_eq_of_slice_eq (hsize : b.size = b'.size)
    (h : Bytes.slice b 0 Header.size = Bytes.slice b' 0 Header.size) :
    isCompoundFile b = isCompoundFile b' := by
  have hread := Header.read_eq_of_slice_eq h
  rw [isCompoundFile, isCompoundFile, hread, ← hsize]
  -- the signature is compared only in a file that has a header
  by_cases hlarge : Header.size ≤ b.size
  · have hstarts : Bytes.startsWith b Header.signatureBytes =
        Bytes.startsWith b' Header.signatureBytes := by
      rw [Bool.eq_iff_iff, Header.startsWith_iff_number hlarge,
        Header.startsWith_iff_number (hsize ▸ hlarge), hread]
    rw [hstarts]
  · simp [hlarge]

end InstallerPackage
