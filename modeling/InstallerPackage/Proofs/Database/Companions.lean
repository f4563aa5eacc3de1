import InstallerPackage.Proofs.Database.PoolCuts

/-!
# Companions that pass for lengths

Next to the length of a text its record has another word, the companion, and a reader has only two sums
to tell the one from the other. Lengths in the high words are always found. Lengths in the low words are
found just if the companions do not pass for lengths, that is, if their sum is not the size of the texts,
or if each of them is the length after all: `StringPool.read?_written`.

That there is no other way is a matter of counting. No text comes out longer than the word that was taken
for its length (`StringPool.length_le_word`). So if the right texts come out, no length is above its
companion, and since both have the same sum, none is below it either.
-/

namespace InstallerPackage

/-- Every byte gives at most one character. -/
theorem CodePage.length_decodeTrimmed_latin1_le (b : ByteArray) :
    (latin1.decodeTrimmed b).length ≤ b.size := by
  rw [decodeTrimmed, decode, String.length_ofList, latin1, Charset.decode, List.length_map,
    List.length_map, Bytes.length_toList, Bytes.trimZeros, ByteArray.size_extract]
  omega

namespace StringPool

variable {entries : List Entry} {e : Entry} {w : LengthWord} {i : Nat}

/-- The strings of a pool are its texts, a character for every byte. -/
theorem stringsOf_eq (entries : List Entry) :
    stringsOf entries =
      "" :: entries.map fun e => String.ofList (e.text.map fun x => Char.ofNat x.toNat) := by
  have hdecode : ∀ e : Entry, CodePage.latin1.decode (Bytes.ofList e.text) =
      String.ofList (e.text.map fun x => Char.ofNat x.toNat) := by
    intro e
    rw [CodePage.decode, CodePage.latin1, Charset.decode, Bytes.toList_ofList, List.map_map]
    rfl
  rw [stringsOf, List.map_congr_left fun e _ => hdecode e]

/-- The words of a record are read at its place in the pool. -/
theorem word_poolOf (hfits : ∀ e ∈ entries, e.Fits) (w w' : LengthWord)
    (he : entries[i]? = some e) :
    word (Bytes.ofList (poolOf w entries)) w' (i + 1) = e.wordAt w w' := by
  have hlength := length_lengths (Bytes.ofList (poolOf w entries)) w'
  have hlt : i < (Bytes.ofList (poolOf w entries)).size / 4 - 1 := by
    rw [← hlength, lengths_poolOf hfits, List.length_map]
    exact (List.getElem?_eq_some_iff.mp he).1
  have hword := getElem?_lengths _ w' hlt
  rw [lengths_poolOf hfits, List.getElem?_map, he] at hword
  exact (Option.some.inj hword).symm

/-- Reading a pool with code page 0 is cutting the texts with the words that are found. -/
theorem value_read?_poolOf (w : LengthWord) (entries : List Entry) (text : ByteArray) :
    (read? (Bytes.ofList (poolOf w entries)) text).value =
      let pool := Bytes.ofList (poolOf w entries)
      some ⟨.latin1, (cut pool text (lengthWord pool text.size) .latin1).value⟩ := by
  have hsize : ¬ (Bytes.ofList (poolOf w entries)).size < 4 := by
    rw [Bytes.size_ofList, length_poolOf]
    omega
  rw [read?, if_neg hsize, codePageOf_poolOf]
  rfl

/-- A text that is cut is no longer than the word that is taken for its length. -/
theorem length_le_word {pool text : ByteArray} {n : Nat} {s : String}
    (hs : (firstTexts pool text w .latin1 n)[i + 1]? = some s) :
    s.length ≤ word pool w (i + 1) := by
  -- a text that is there belongs to a record of the pool
  have hi : i < n := by
    have hlt := (List.getElem?_eq_some_iff.mp hs).1
    rw [length_firstTexts] at hlt
    omega
  have hpiece := getElem?_firstTexts pool text w .latin1 hi
  obtain rfl := Option.some.inj (hs.symm.trans hpiece)
  calc (CodePage.latin1.decodeTrimmed (piece pool text w i)).length
      ≤ (piece pool text w i).size := CodePage.length_decodeTrimmed_latin1_le _
    _ ≤ textEnd pool w (i + 1) - textEnd pool w i := by
        rw [piece, ByteArray.size_extract]
        omega
    _ = word pool w (i + 1) := by rw [textEnd_succ, Nat.add_sub_cancel_left]

/-- The right texts only come out of companions that pass for lengths if these are the lengths. -/
theorem companion_eq_of_read?_low (hfits : ∀ e ∈ entries, e.Fits)
    (hsum : (entries.map Entry.companion).sum = (textOf entries).length)
    (hfound : read? (Bytes.ofList (poolOf .low entries)) (Bytes.ofList (textOf entries)) =
      ⟨some ⟨.latin1, (stringsOf entries).toArray⟩, []⟩) :
    ∀ e ∈ entries, e.companion = e.text.length := by
  set pool := Bytes.ofList (poolOf .low entries) with hpoolOf
  set text := Bytes.ofList (textOf entries) with htextOf
  have hsize : text.size = (textOf entries).length := Bytes.size_ofList _
  have hpool : 4 ≤ pool.size := by
    rw [hpoolOf, Bytes.size_ofList, length_poolOf]
    omega
  -- the high words add up, so they are the ones that the texts are cut with
  have hhigh : fits pool text.size .high = true := by
    rw [hsize, hpoolOf, fits_poolOf hfits]
    exact beq_iff_eq.mpr hsum
  have hword : lengthWord pool text.size = .high := by
    rw [lengthWord, hhigh, Bool.not_true, Bool.and_false, if_neg Bool.false_ne_true]
  have hcut : cut pool text .high .latin1 = _ :=
    cut_of_le .latin1 hpool (Nat.le_of_eq ((fits_iff _ _ _).mp hhigh))
  have hstrings : stringsOf entries = firstTexts pool text .high .latin1 (pool.size / 4 - 1) := by
    have hvalue := congrArg Noted.value hfound
    rw [value_read?_poolOf] at hvalue
    dsimp only at hvalue
    rw [← hpoolOf, hword, hcut] at hvalue
    simpa using hvalue.symm
  -- a text that comes back whole is no longer than the companion it was cut by
  have hle : ∀ e ∈ entries, e.text.length ≤ e.companion := by
    intro e he
    obtain ⟨i, hi⟩ := List.mem_iff_getElem?.mp he
    have hs : (stringsOf entries)[i + 1]? =
        some (String.ofList (e.text.map fun x => Char.ofNat x.toNat)) := by
      rw [stringsOf_eq, List.getElem?_cons_succ, List.getElem?_map, hi, Option.map_some]
    rw [hstrings] at hs
    have hlength := length_le_word hs
    rwa [String.length_ofList, List.length_map, word_poolOf hfits .low .high hi] at hlength
  -- no length is above its companion, and the sums are the same
  by_contra hne
  push Not at hne
  obtain ⟨e, he, hne⟩ := hne
  have hlt := List.sum_lt_sum _ _ hle ⟨e, he, Nat.lt_of_le_of_ne (hle e he) (Ne.symm hne)⟩
  rw [hsum, length_textOf] at hlt
  exact Nat.lt_irrefl _ hlt

/-- **A pool is read back whatever its companions are, if the lengths are in the high words.** If they
are in the low words, it is read back just if the companions do not add up to the size of the texts or
are the lengths themselves; so it is, in particular, if no text is empty and all companions are 1. What
is read is the empty string and then every text in Latin-1, and there is nothing to report. -/
theorem read?_written (entries : List Entry) (hfits : ∀ e ∈ entries, e.Fits) :
    let text := Bytes.ofList (textOf entries)
    let strings :=
      "" :: entries.map fun e => String.ofList (e.text.map fun x => Char.ofNat x.toNat)
    let ReadsBack (w : LengthWord) : Prop :=
      read? (Bytes.ofList (poolOf w entries)) text = ⟨some ⟨.latin1, strings.toArray⟩, []⟩
    ReadsBack .high ∧
    (ReadsBack .low ↔ (entries.map Entry.companion).sum ≠ text.size ∨
      ∀ e ∈ entries, e.companion = e.text.length) ∧
    ((∀ e ∈ entries, e.text ≠ []) → (∀ e ∈ entries, e.companion = 1) → ReadsBack .low) := by
  intro text strings ReadsBack
  have hsize : text.size = (textOf entries).length := Bytes.size_ofList _
  have hreads : ∀ w, ReadsBack w ↔ read? (Bytes.ofList (poolOf w entries)) text =
      ⟨some ⟨.latin1, (stringsOf entries).toArray⟩, []⟩ := by
    intro w
    rw [stringsOf_eq]
  rw [hreads, hreads, hsize]
  refine ⟨read?_high hfits, ⟨fun hfound => ?_, ?_⟩, fun hne hones => read?_low_of_ones hfits hones hne⟩
  · -- whether the companions pass for lengths shows at their sum
    by_cases hsum : (entries.map Entry.companion).sum = (textOf entries).length
    · exact .inr (companion_eq_of_read?_low hfits hsum hfound)
    · exact .inl hsum
  · rintro (hsum | heq)
    · exact read?_low hfits hsum
    · exact read?_low_of_eq hfits heq

/-- Two texts, and companions that add up to their size without being their lengths. -/
def crossed : List Entry := [⟨[97, 98], 1⟩, ⟨[99], 2⟩]

/-- Two texts of one letter, with companions 1. -/
def letters : List Entry := [⟨[97], 1⟩, ⟨[98], 1⟩]

/-- The crossed pool is lost in the low words only. The letters are read back although the companions
are taken for their lengths. -/
theorem read?_written_crossed :
    (∀ e ∈ crossed, e.Fits) ∧
      read? (Bytes.ofList (poolOf .high crossed)) (Bytes.ofList [97, 98, 99]) =
        ⟨some ⟨.latin1, #["", "ab", "c"]⟩, []⟩ ∧
      read? (Bytes.ofList (poolOf .low crossed)) (Bytes.ofList [97, 98, 99]) ≠
        ⟨some ⟨.latin1, #["", "ab", "c"]⟩, []⟩ ∧
      (∀ e ∈ letters, e.Fits) ∧ lengthWord (Bytes.ofList (poolOf .low letters)) 2 = .high ∧
      read? (Bytes.ofList (poolOf .low letters)) (Bytes.ofList [97, 98]) =
        ⟨some ⟨.latin1, #["", "a", "b"]⟩, []⟩ := by
  have hcrossed : ∀ e ∈ crossed, e.Fits := by
    intro e he
    rcases List.mem_pair.mp he with rfl | rfl <;> constructor <;> decide
  have hletters : ∀ e ∈ letters, e.Fits := by
    intro e he
    rcases List.mem_pair.mp he with rfl | rfl <;> constructor <;> decide
  obtain ⟨hhigh, hlow, -⟩ := read?_written crossed hcrossed
  obtain ⟨-, -, hones⟩ := read?_written letters hletters
  exact ⟨hcrossed, hhigh, mt hlow.mp (by decide), hletters, by decide, hones (by decide) (by decide)⟩

end StringPool

end InstallerPackage
