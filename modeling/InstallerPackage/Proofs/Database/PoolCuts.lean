import InstallerPackage.Proofs.Database.Pools

/-!
# Cutting a pool whose lengths are arbitrary

The lengths of a pool are added up twice: once for either word, to find out which of the two holds the
lengths, and once while the texts are cut. `StringPool.textEnd` is the sum that both have in common. As
long as it stays within the texts, cutting has done one thing only, and goes on from there
(`StringPool.cut_after`); so everything about the result is read off after as many texts as there are,
or after those before the first one that overruns.

`StringPool.cut_detected` says what comes out for every pool, whatever its words are.
-/

namespace InstallerPackage.StringPool

/-- Where text `i` ends if the given words are the lengths. Text 0 is empty. -/
def textEnd (pool : ByteArray) (w : LengthWord) : (i : Nat) → Nat
  | 0 => 0
  | i + 1 => textEnd pool w i + word pool w (i + 1)

/-- The bytes of text `i + 1`. -/
def piece (pool text : ByteArray) (w : LengthWord) (i : Nat) : ByteArray :=
  text.extract (textEnd pool w i) (textEnd pool w (i + 1))

variable {pool text : ByteArray} {w : LengthWord} {page : CodePage} {i k : Nat}

/-! ### Adding up lengths -/

theorem textEnd_succ (pool : ByteArray) (w : LengthWord) (i : Nat) :
    textEnd pool w (i + 1) = textEnd pool w i + word pool w (i + 1) := rfl

theorem textEnd_mono (pool : ByteArray) (w : LengthWord) (h : i ≤ k) :
    textEnd pool w i ≤ textEnd pool w k := by
  induction h with
  | refl => exact Nat.le_refl _
  | step _ ih => exact Nat.le_trans ih (Nat.le_add_right ..)

theorem getElem?_lengths (pool : ByteArray) (w : LengthWord) (h : i < pool.size / 4 - 1) :
    (lengths pool w)[i]? = some (word pool w (i + 1)) := by
  rw [lengths, List.getElem?_map, List.getElem?_range h]
  rfl

theorem textEnd_eq_sum (pool : ByteArray) (w : LengthWord) (h : k ≤ pool.size / 4 - 1) :
    textEnd pool w k = ((lengths pool w).take k).sum := by
  induction k with
  | zero => rfl
  | succ k ih =>
    rw [textEnd, ih (Nat.le_of_succ_le h), List.take_add_one, getElem?_lengths pool w h,
      List.sum_append]
    rfl

theorem fits_iff (pool : ByteArray) (size : Nat) (w : LengthWord) :
    fits pool size w = true ↔ textEnd pool w (pool.size / 4 - 1) = size := by
  rw [fits_eq, beq_iff_eq, textEnd_eq_sum pool w (Nat.le_refl _),
    List.take_of_length_le (Nat.le_of_eq (length_lengths pool w))]

theorem lengthWord_eq_low_iff (pool : ByteArray) (size : Nat) :
    lengthWord pool size = .low ↔ textEnd pool .low (pool.size / 4 - 1) = size ∧
      textEnd pool .high (pool.size / 4 - 1) ≠ size := by
  rw [ne_eq, ← fits_iff, ← fits_iff, lengthWord]
  cases fits pool size .low <;> cases fits pool size .high <;> decide

/-- A word that fits is only passed over for another one that fits. -/
theorem textEnd_lengthWord (pool : ByteArray) (size : Nat)
    (h : textEnd pool .low (pool.size / 4 - 1) = size ∨
      textEnd pool .high (pool.size / 4 - 1) = size) :
    textEnd pool (lengthWord pool size) (pool.size / 4 - 1) = size := by
  rw [← fits_iff, ← fits_iff] at h
  rw [← fits_iff, lengthWord]
  cases hlow : fits pool size .low <;> cases hhigh : fits pool size .high <;> simp_all

/-- Where the lengths overrun the texts, there is a first one that does. -/
theorem exists_overrun {size n : Nat} (h : size < textEnd pool w n) :
    ∃ i < n, ∀ j, textEnd pool w j ≤ size ↔ j ≤ i := by
  -- the least number whose sum is too large, found from above
  induction n with
  | zero => exact absurd h (Nat.not_lt_zero _)
  | succ n ih =>
    by_cases hn : size < textEnd pool w n
    · obtain ⟨i, hi, hfirst⟩ := ih hn
      exact ⟨i, Nat.lt_succ_of_lt hi, hfirst⟩
    · -- everything up to `n` still fits, so the overrun is the one at `n`
      refine ⟨n, Nat.lt_succ_self n, fun j => ⟨fun hj => ?_, fun hj => ?_⟩⟩
      · by_contra hlt
        exact absurd (Nat.lt_of_lt_of_le h (textEnd_mono pool w (Nat.not_le.mp hlt)))
          (Nat.not_lt.mpr hj)
      · exact Nat.le_trans (textEnd_mono pool w hj) (Nat.not_lt.mp hn)

/-! ### Cutting -/

/-- The texts 0 to `k`, each without the zeros at its end. -/
def firstTexts (pool text : ByteArray) (w : LengthWord) (page : CodePage) (k : Nat) : List String :=
  "" :: (List.range k).map fun i => page.decodeTrimmed (piece pool text w i)

theorem length_firstTexts (pool text : ByteArray) (w : LengthWord) (page : CodePage) (k : Nat) :
    (firstTexts pool text w page k).length = k + 1 := by
  rw [firstTexts, List.length_cons, List.length_map, List.length_range]

theorem getElem?_firstTexts (pool text : ByteArray) (w : LengthWord) (page : CodePage) (h : i < k) :
    (firstTexts pool text w page k)[i + 1]? = some (page.decodeTrimmed (piece pool text w i)) := by
  rw [firstTexts, List.getElem?_cons_succ, List.getElem?_map, List.getElem?_range h]
  rfl

theorem drop_lengths (pool : ByteArray) (w : LengthWord) (h : k < pool.size / 4 - 1) :
    (lengths pool w).drop k = word pool w (k + 1) :: (lengths pool w).drop (k + 1) := by
  obtain ⟨hlt, hget⟩ := List.getElem?_eq_some_iff.mp (getElem?_lengths pool w h)
  rw [List.drop_eq_getElem_cons hlt, hget]

/-- After as many texts as there is room for, cutting goes on with the next one. -/
theorem cut_after (page : CodePage) (hpool : 4 ≤ pool.size) (hk : k ≤ pool.size / 4 - 1)
    (hroom : textEnd pool w k ≤ text.size) :
    cut pool text w page = cutFrom page text (textEnd pool w k) (k + 1) ((lengths pool w).drop k)
      (firstTexts pool text w page k).toArray := by
  -- text by text, for the offset is the end of the one before
  induction k with
  | zero =>
    rw [cut, if_neg (Nat.not_lt.mpr hpool)]
    rfl
  | succ k ih =>
    have hbefore : textEnd pool w k ≤ text.size :=
      Nat.le_trans (textEnd_mono pool w (Nat.le_succ k)) hroom
    have hpiece : Bytes.slice text (textEnd pool w k) (word pool w (k + 1)) = piece pool text w k :=
      Bytes.slice_eq_extract ..
    have hpush : (firstTexts pool text w page k).toArray.push
        (page.decodeTrimmed (piece pool text w k)) = (firstTexts pool text w page (k + 1)).toArray := by
      simp [firstTexts, List.range_succ]
    rw [ih (Nat.le_of_succ_le hk) hbefore, drop_lengths pool w hk, cutFrom,
      ← textEnd_succ, if_neg (Nat.not_lt.mpr hroom), hpiece, hpush]

/-- All texts are cut if there is room for all of them. -/
theorem cut_of_le (page : CodePage) (hpool : 4 ≤ pool.size)
    (hroom : textEnd pool w (pool.size / 4 - 1) ≤ text.size) :
    cut pool text w page = ⟨(firstTexts pool text w page (pool.size / 4 - 1)).toArray, []⟩ := by
  rw [cut_after page hpool (Nat.le_refl _) hroom,
    List.drop_of_length_le (Nat.le_of_eq (length_lengths pool w)), cutFrom]
  rfl

/-- The first text that overruns is the last one that is looked at. -/
theorem cut_of_overrun (page : CodePage) (hpool : 4 ≤ pool.size) (hi : i < pool.size / 4 - 1)
    (hfirst : ∀ j, textEnd pool w j ≤ text.size ↔ j ≤ i) :
    cut pool text w page = ⟨(firstTexts pool text w page i ++ [missing]).toArray,
      [.stringOverrun (i + 1) (textEnd pool w i) (word pool w (i + 1)) text.size]⟩ := by
  have hover : text.size < textEnd pool w (i + 1) :=
    Nat.not_le.mp (mt (hfirst (i + 1)).mp (Nat.not_succ_le_self i))
  rw [cut_after page hpool (Nat.le_of_lt hi) ((hfirst i).mpr (Nat.le_refl i)), drop_lengths pool w hi,
    cutFrom, ← textEnd_succ, if_pos hover, List.push_toArray]

/-- What is cut begins with all texts that end within the bytes that there are. -/
theorem exists_cut_eq (pool text : ByteArray) (w : LengthWord) (page : CodePage)
    (hpool : 4 ≤ pool.size) :
    ∃ k more, (cut pool text w page).value = (firstTexts pool text w page k ++ more).toArray ∧
      ∀ i < pool.size / 4 - 1, textEnd pool w (i + 1) ≤ text.size → i < k := by
  rcases Nat.lt_or_ge text.size (textEnd pool w (pool.size / 4 - 1)) with hover | hroom
  · obtain ⟨k, hk, hfirst⟩ := exists_overrun hover
    exact ⟨k, [missing], congrArg Noted.value (cut_of_overrun page hpool hk hfirst),
      fun i _ hend => (hfirst (i + 1)).mp hend⟩
  · refine ⟨pool.size / 4 - 1, [], ?_, fun i hi _ => hi⟩
    rw [cut_of_le page hpool hroom, List.append_nil]

/-- The bytes of the first texts are the bytes up to their end. -/
theorem flatMap_piece (h : textEnd pool w k ≤ text.size) :
    (List.range k).flatMap (fun i => (piece pool text w i).data.toList) =
      text.data.toList.take (textEnd pool w k) := by
  induction k with
  | zero => rfl
  | succ k ih =>
    rw [List.range_succ, List.flatMap_append, List.flatMap_singleton,
      ih (Nat.le_trans (textEnd_mono pool w (Nat.le_succ k)) h), piece, Bytes.toList_extract,
      textEnd_succ, Nat.add_sub_cancel_left, List.take_add]

/-- **Finding the lengths and cutting the texts fit together.** Let a pool have at least one record, and
let the lengths be in the word that is found.

* It is the low word just if the low words add up to the size of the texts and the high ones do not.
* Text 0 is empty, and text `i + 1` is what stands between its end and the end of the text before, for
  all texts that end within the bytes that there are.
* If all of them do, there is a text for every record and nothing to report. Otherwise the list of the
  texts ends with a placeholder for the first one that does not, and that is reported.
* If either word adds up to the size of the texts, the pieces that are cut make up all the bytes. -/
theorem cut_detected (pool text : ByteArray) (page : CodePage) (hpool : 4 ≤ pool.size) :
    let count := pool.size / 4
    let w := lengthWord pool text.size
    let out := cut pool text w page
    (w = .low ↔ textEnd pool .low (count - 1) = text.size ∧
      textEnd pool .high (count - 1) ≠ text.size) ∧
    out.value[0]? = some "" ∧
    (∀ i, i + 1 < count → textEnd pool w (i + 1) ≤ text.size → out.value[i + 1]? =
      some (page.decode (Bytes.trimZeros
        (text.extract (textEnd pool w i) (textEnd pool w (i + 1)))))) ∧
    (textEnd pool w (count - 1) ≤ text.size → out.value.size = count ∧ out.notices = []) ∧
    (text.size < textEnd pool w (count - 1) → ∃ i, i + 1 < count ∧
      (∀ j, textEnd pool w j ≤ text.size ↔ j ≤ i) ∧
      out.value.size = i + 2 ∧ out.value[i + 1]? = some "<Error>" ∧
      out.notices = [.stringOverrun (i + 1) (textEnd pool w i) (word pool w (i + 1)) text.size]) ∧
    (textEnd pool .low (count - 1) = text.size ∨ textEnd pool .high (count - 1) = text.size →
      out.value.size = count ∧ out.notices = [] ∧
      text.data.toList = (List.range (count - 1)).flatMap fun i =>
        (text.extract (textEnd pool w i) (textEnd pool w (i + 1))).data.toList) := by
  intro count w out
  have hcount : count - 1 + 1 = count := Nat.sub_add_cancel (Nat.div_pos hpool (by decide))
  -- without an overrun every word has its text
  have hwhole : textEnd pool w (count - 1) ≤ text.size → out.value.size = count ∧ out.notices = [] := by
    intro hroom
    have hout : out = _ := cut_of_le page hpool hroom
    rw [hout]
    exact ⟨by rw [List.size_toArray, length_firstTexts, hcount], rfl⟩
  obtain ⟨k, more, hvalue, hends⟩ := exists_cut_eq pool text w page hpool
  refine ⟨lengthWord_eq_low_iff pool text.size, ?_, fun i hi hend => ?_, hwhole, fun hover => ?_,
    fun hfits => ?_⟩
  · -- the empty text stands in front of all that is cut
    rw [hvalue]
    rfl
  · have hik : i < k := hends i (by omega) hend
    rw [hvalue, List.getElem?_toArray, List.getElem?_append_left (by rw [length_firstTexts]; omega)]
    exact getElem?_firstTexts pool text w page hik
  · obtain ⟨i, hi, hfirst⟩ := exists_overrun hover
    have hlength := length_firstTexts pool text w page i
    have hout : out = _ := cut_of_overrun page hpool hi hfirst
    refine ⟨i, by omega, hfirst, ?_⟩
    rw [hout]
    refine ⟨?_, ?_, rfl⟩
    · rw [List.size_toArray, List.length_append, hlength, List.length_singleton]
    · rw [List.getElem?_toArray, ← hlength, List.getElem?_concat_length]
      rfl
  · -- then the word that is found fits as well, and the last piece ends where the bytes do
    have htotal : textEnd pool w (count - 1) = text.size := textEnd_lengthWord pool text.size hfits
    have hpieces := flatMap_piece (Nat.le_of_eq htotal)
    rw [htotal, List.take_of_length_le (Nat.le_of_eq (Bytes.length_toList text))] at hpieces
    obtain ⟨hsize, hnotices⟩ := hwhole (Nat.le_of_eq htotal)
    exact ⟨hsize, hnotices, hpieces.symm⟩

/-! A pool of two texts. -/

/-- The low words are 3 and 2, the high ones 9 and 9. -/
def cutPool : ByteArray := Bytes.ofList (Bytes.little 4 0 ++ [3, 9, 2, 9].flatMap (Bytes.little 2))

/-- With five bytes the lengths are in the low words, and the first text loses two zeros. With four they
are looked for in the high words, and the first text is not there. -/
theorem cut_detected_pair :
    let text := Bytes.ofList [97, 0, 0, 98, 99]
    let short := Bytes.ofList [97, 0, 0, 98]
    4 ≤ cutPool.size ∧ lengthWord cutPool text.size = .low ∧
      (cut cutPool text (lengthWord cutPool text.size) .latin1).value[1]? = some "a" ∧
      (cut cutPool text (lengthWord cutPool text.size) .latin1).value.size = 3 ∧
      lengthWord cutPool short.size = .high ∧
      (cut cutPool short (lengthWord cutPool short.size) .latin1).notices =
        [.stringOverrun 1 0 9 4] := by
  intro text short
  have hpool : 4 ≤ cutPool.size := by decide
  have hlow : lengthWord cutPool text.size = .low := by decide +kernel
  have hhigh : lengthWord cutPool short.size = .high := by decide +kernel
  -- the two sizes of data, with the pool in common
  obtain ⟨-, -, htext, hall, -⟩ := cut_detected cutPool text .latin1 hpool
  obtain ⟨-, -, -, -, hover, -⟩ := cut_detected cutPool short .latin1 hpool
  rw [hlow] at htext hall
  rw [hhigh] at hover
  rw [hlow, hhigh]
  refine ⟨hpool, rfl, ?_, (hall (by decide +kernel)).1, rfl, ?_⟩
  · rw [htext 0 (by decide) (by decide +kernel)]
    decide +kernel
  · obtain ⟨i, -, hfirst, -, -, hnotices⟩ := hover (by decide +kernel)
    have hfar : ¬ textEnd cutPool .high 1 ≤ short.size := by decide +kernel
    obtain rfl : i = 0 := Nat.lt_one_iff.mp (Nat.not_le.mp (mt (hfirst 1).mpr hfar))
    rw [hnotices]
    decide +kernel

end InstallerPackage.StringPool
