/-!
# Byte arrays as files read them

Everything in a compound file is cut out of a byte array by offset: slices that stop at the end of
the data, little-endian numbers whose missing bytes count as zero, arrays of 32-bit words. Offsets
come from the data itself and may be far larger than the data, so every operation here is total
and none depends on an offset being small.

* `Bytes.slice` is the part of an array from an offset on, clipped to the array.
* `Bytes.number` reads a little-endian number of any width, `Bytes.words` all 32-bit words.
* `Bytes.little` writes a number back.
* `Bytes.padTo` fills a list of bytes up to a multiple of some length.
-/

namespace InstallerPackage.Bytes

/-! ### Reading -/

/-- The value of the byte at `offset`, zero past the end. -/
def byte (b : ByteArray) (offset : Nat) : Nat :=
  if h : offset < b.size then b[offset].toNat else 0

/-- The little-endian number that `count` bytes from `offset` on amount to, read one by one. -/
def sumFrom (b : ByteArray) (offset : Nat) : (count : Nat) → Nat
  | 0 => 0
  | count + 1 => byte b offset + 256 * sumFrom b (offset + 1) count

/-- The little-endian number in the `width` bytes from `offset` on. Bytes past the end count as
zero. -/
def number (b : ByteArray) (offset width : Nat) : Nat :=
  -- the width may exceed the array by far, so only the bytes that exist are read
  sumFrom b offset (min width (b.size - offset))

/-- The bytes from `offset` on, at most `length` of them. -/
def slice (b : ByteArray) (offset length : Nat) : ByteArray :=
  -- both ends are clipped before the packed array sees them: offsets may exceed a machine word
  if offset < b.size then b.extract offset (min (offset + length) b.size) else ByteArray.empty

/-- The 32-bit word at `offset`. -/
def word (b : ByteArray) (offset : Nat) : Nat :=
  byte b offset +
    (byte b (offset + 1) + (byte b (offset + 2) + byte b (offset + 3) * 256) * 256) * 256

/-- The 32-bit words of an array; up to three bytes at its end are left over. -/
def words (b : ByteArray) : Array Nat :=
  Array.ofFn fun i : Fin (b.size / 4) => word b (4 * i)

/-- The number of bytes before the zeros at the end, among the first `n`. -/
def trimmedLength (b : ByteArray) : Nat → Nat
  | 0 => 0
  | n + 1 => if byte b n = 0 then trimmedLength b n else n + 1

/-- The array without the zeros at its end. -/
def trimZeros (b : ByteArray) : ByteArray :=
  b.extract 0 (trimmedLength b b.size)

/-- Do the bytes at the start of `b` read `expected`? -/
def startsWith (b : ByteArray) (expected : List Nat) : Bool :=
  expected.length ≤ b.size && expected.zipIdx.all fun (value, i) => byte b i == value

/-! ### Writing -/

/-- The `width` little-endian bytes of `n`; what does not fit is dropped. -/
def little : (width : Nat) → Nat → List UInt8
  | 0, _ => []
  | width + 1, n => UInt8.ofNat n :: little width (n / 256)

/-- A byte array with the given content. -/
def ofList (l : List UInt8) : ByteArray := ⟨l.toArray⟩

/-- The number of pieces of `unit` bytes that hold `n` bytes. -/
def pieces (unit n : Nat) : Nat := (n + unit - 1) / unit

/-- The list filled up with zeros to a multiple of `unit`. -/
def padTo (unit : Nat) (l : List UInt8) : List UInt8 :=
  l ++ List.replicate (pieces unit l.length * unit - l.length) 0

/-- A lower-case hexadecimal digit. -/
def hexDigit (n : Nat) : Char :=
  if n < 10 then Char.ofNat (48 + n) else Char.ofNat (87 + n)

/-- Two hexadecimal digits for every byte. -/
def hex (b : ByteArray) : String :=
  String.ofList (b.data.toList.flatMap fun x => [hexDigit (x.toNat / 16), hexDigit (x.toNat % 16)])

/-! ### Sizes and values -/

theorem byte_lt (b : ByteArray) (offset : Nat) : byte b offset < 256 := by
  unfold byte
  split
  · exact UInt8.toNat_lt _
  · decide

theorem sumFrom_of_size_le {b : ByteArray} {offset : Nat} (h : b.size ≤ offset) (count : Nat) :
    sumFrom b offset count = 0 := by
  induction count generalizing offset with
  | zero => rfl
  | succ count ih =>
    have hb : byte b offset = 0 := by
      have : ¬ offset < b.size := by omega
      simp [byte, this]
    simp [sumFrom, hb, ih (show b.size ≤ offset + 1 by omega)]

/-- Reading on past the end changes nothing. -/
theorem number_eq_sumFrom (b : ByteArray) (offset width : Nat) :
    number b offset width = sumFrom b offset width := by
  unfold number
  induction width generalizing offset with
  | zero => simp [sumFrom]
  | succ width ih =>
    by_cases h : b.size ≤ offset
    · rw [sumFrom_of_size_le h, sumFrom_of_size_le h]
    · have hmin : min (width + 1) (b.size - offset) = min width (b.size - (offset + 1)) + 1 := by
        omega
      rw [hmin, sumFrom, sumFrom, ih]

@[simp] theorem number_zero (b : ByteArray) (offset : Nat) : number b offset 0 = 0 := by
  simp [number, sumFrom]

/-- The byte at `offset` is the lowest one. -/
theorem number_succ (b : ByteArray) (offset width : Nat) :
    number b offset (width + 1) = byte b offset + 256 * number b (offset + 1) width := by
  simp only [number_eq_sumFrom, sumFrom]

@[simp] theorem size_ofList (l : List UInt8) : (ofList l).size = l.length := by
  simp [ofList, ByteArray.size]

theorem slice_eq_extract (b : ByteArray) (offset length : Nat) :
    slice b offset length = b.extract offset (offset + length) := by
  unfold slice
  split
  · apply ByteArray.ext_getElem
    · simp only [ByteArray.size_extract]
      omega
    · intro i h₁ h₂
      simp only [ByteArray.getElem_extract]
  · apply ByteArray.ext_getElem
    · simp only [ByteArray.size_extract, ByteArray.size_empty]
      omega
    · intro i h₁ h₂
      simp only [ByteArray.size_empty] at h₁
      omega

@[simp] theorem size_slice (b : ByteArray) (offset length : Nat) :
    (slice b offset length).size = min length (b.size - offset) := by
  rw [slice_eq_extract, ByteArray.size_extract]
  omega

theorem word_eq_number (b : ByteArray) (offset : Nat) : word b offset = number b offset 4 := by
  simp only [word, number_succ, number_zero, Nat.add_assoc, Nat.reduceAdd]
  omega

@[simp] theorem size_words (b : ByteArray) : (words b).size = b.size / 4 := by
  simp [words]

@[simp] theorem getElem_words (b : ByteArray) (i : Nat) (h : i < (words b).size) :
    (words b)[i] = number b (4 * i) 4 := by
  simp [words, word_eq_number]

@[simp] theorem length_little (width n : Nat) : (little width n).length = width := by
  induction width generalizing n with
  | zero => rfl
  | succ width ih => simp [little, ih]

theorem le_pieces_mul {unit : Nat} (h : 0 < unit) (n : Nat) : n ≤ pieces unit n * unit := by
  have := Nat.div_add_mod (n + unit - 1) unit
  have := Nat.mod_lt (n + unit - 1) h
  simp only [pieces, Nat.mul_comm _ unit]
  omega

@[simp] theorem length_padTo {unit : Nat} (h : 0 < unit) (l : List UInt8) :
    (padTo unit l).length = pieces unit l.length * unit := by
  have := le_pieces_mul h l.length
  simp only [padTo, List.length_append, List.length_replicate]
  omega

theorem byte_ofList (l : List UInt8) (offset : Nat) :
    byte (ofList l) offset = (l[offset]?.map UInt8.toNat).getD 0 := by
  unfold byte
  split
  · next h =>
    have h' : offset < l.length := by simpa using h
    simp only [ofList, h', List.getElem?_eq_getElem, Option.map_some, Option.getD_some]
    rfl
  · next h =>
    have h' : l.length ≤ offset := by simpa using h
    simp [h']

end InstallerPackage.Bytes
