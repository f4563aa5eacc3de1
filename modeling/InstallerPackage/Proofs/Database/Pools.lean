import InstallerPackage.Database.StringPool
import InstallerPackage.Proofs.ByteLists

/-!
# String pools, written and read

A pool is written as a list of texts, each with a companion: what stands next to its length in the
record. The companions are the reason why a reader may take the wrong word for the length. It still
finds the texts if

* the lengths stand in the high words (`StringPool.read?_high`), as these are what it trusts in doubt;
* the lengths stand in the low words and the companions do not add up to the size of the texts
  (`StringPool.read?_low`);
* all companions are 1 and no text is empty (`StringPool.read?_low_of_ones`). If 1 for every text adds
  up to the size of the texts, then 1 is the length of each of them, and the wrong words read the same.
-/

namespace InstallerPackage.StringPool

/-! ### Writing a pool -/

/-- The bytes of a text, and the number next to its length. -/
structure Entry where
  text : List UInt8
  companion : Nat

/-- What the given word of the entry's record holds, if the lengths are in the word `w`. -/
def Entry.wordAt (w : LengthWord) (e : Entry) (w' : LengthWord) : Nat :=
  if w' = w then e.text.length else e.companion

/-- The record of an entry. -/
def Entry.record (w : LengthWord) (e : Entry) : List UInt8 :=
  Bytes.little 2 (e.wordAt w .low) ++ Bytes.little 2 (e.wordAt w .high)

/-- The bytes of a pool with code page 0. -/
def poolOf (w : LengthWord) (entries : List Entry) : List UInt8 :=
  Bytes.little 4 0 ++ entries.flatMap (Entry.record w)

/-- The bytes of all texts. -/
def textOf (entries : List Entry) : List UInt8 := entries.flatMap Entry.text

/-- The strings of a pool with code page 0. -/
def stringsOf (entries : List Entry) : List String :=
  "" :: entries.map fun e => CodePage.latin1.decode (Bytes.ofList e.text)

/-- Entries that can be written down: numbers fit into their words, and no text ends with a zero. -/
structure Entry.Fits (e : Entry) : Prop where
  length : e.text.length < 2 ^ 16
  companion : e.companion < 2 ^ 16
  trimmed : e.text.getLast? ≠ some 0

variable {w w' : LengthWord} {entries : List Entry}

theorem length_record (w : LengthWord) (e : Entry) : (e.record w).length = 4 := by
  rw [Entry.record, List.length_append, Bytes.length_little, Bytes.length_little]

theorem length_poolOf (w : LengthWord) (entries : List Entry) :
    (poolOf w entries).length = 4 * (entries.length + 1) := by
  induction entries with
  | nil => rfl
  | cons e entries ih =>
    rw [poolOf, List.length_append] at ih ⊢
    rw [List.flatMap_cons, List.length_append, length_record, List.length_cons]
    omega

theorem length_textOf (entries : List Entry) :
    (textOf entries).length = (entries.map fun e => e.text.length).sum := by
  rw [textOf, List.length_flatMap]

/-! ### The lengths -/

theorem number_record {e : Entry} (he : e.Fits) (w w' : LengthWord) :
    Bytes.number (Bytes.ofList (e.record w)) (wordOffset w') 2 = e.wordAt w w' := by
  have hlt : ∀ w', e.wordAt w w' < 256 ^ 2 := by
    intro w'
    unfold Entry.wordAt
    split
    · exact he.length
    · exact he.companion
  cases w' with
  | low => rw [wordOffset, Entry.record, Bytes.number_ofList_here, Nat.mod_eq_of_lt (hlt _)]
  | high =>
    rw [wordOffset, Entry.record, ← List.append_nil (Bytes.little 2 (e.wordAt w .high)),
      Bytes.number_ofList_skip (Nat.le_of_eq (Bytes.length_little ..)), Bytes.length_little, Nat.sub_self,
      Bytes.number_ofList_here, Nat.mod_eq_of_lt (hlt _)]

/-- Both words of all records are read as they were written. -/
theorem lengths_poolOf (hfits : ∀ e ∈ entries, e.Fits) (w w' : LengthWord) :
    lengths (Bytes.ofList (poolOf w entries)) w' = entries.map fun e => e.wordAt w w' := by
  have hcount : (Bytes.ofList (poolOf w entries)).size / 4 - 1 = entries.length := by
    rw [Bytes.size_ofList, length_poolOf, Nat.mul_div_cancel_left _ (by decide), Nat.add_sub_cancel]
  apply List.ext_getElem
  · rw [length_lengths, hcount, List.length_map]
  · intro i hi hi'
    have hlt : i < entries.length := by rwa [List.length_map] at hi'
    -- neither word reaches over the end of its record
    have hoffset : wordOffset w' + 2 ≤ 4 := by cases w' <;> decide
    -- the code page takes as much room as a record
    have hskip : 4 * (i + 1) + wordOffset w' - 4 = 4 * i + wordOffset w' := by omega
    simp only [lengths, List.getElem_map, List.getElem_range, word]
    rw [poolOf, Bytes.number_ofList_skip (by rw [Bytes.length_little]; omega), Bytes.length_little,
      hskip, ← List.append_nil (entries.flatMap _),
      Bytes.number_ofList_field (fun e _ => length_record w e) (List.getElem?_eq_getElem hlt) hoffset]
    exact number_record (hfits _ (List.getElem_mem hlt)) w w'

/-- To stop at a total that is too large comes to the same as to add up everything. -/
theorem addsUp_eq (size total : Nat) (l : List Nat) : addsUp size total l = (total + l.sum == size) := by
  induction l generalizing total with
  | nil => rfl
  | cons length rest ih =>
    rw [addsUp, ih, List.sum_cons, ← Nat.add_assoc]
    split
    · next hlarge =>
      -- the lengths that are left do not make a total smaller
      exact (beq_eq_false_iff_ne.mpr (by omega)).symm
    · rfl

theorem fits_eq (pool : ByteArray) (size : Nat) (w : LengthWord) :
    fits pool size w = ((lengths pool w).sum == size) := by
  rw [fits, addsUp_eq, Nat.zero_add]

theorem fits_poolOf (hfits : ∀ e ∈ entries, e.Fits) (w w' : LengthWord) (size : Nat) :
    fits (Bytes.ofList (poolOf w entries)) size w' =
      ((entries.map fun e => e.wordAt w w').sum == size) := by
  rw [fits_eq, lengths_poolOf hfits]

/-- The words that hold the lengths add up to the size of the texts. -/
theorem fits_self (hfits : ∀ e ∈ entries, e.Fits) (w : LengthWord) :
    fits (Bytes.ofList (poolOf w entries)) (textOf entries).length w = true := by
  rw [fits_poolOf hfits, length_textOf]
  simp only [Entry.wordAt, if_true, beq_self_eq_true]

/-! ### The texts -/

/-- Texts that follow each other are cut where they were put together. -/
theorem cutFrom_flatten (page : CodePage) (texts : List (List UInt8)) (before : List UInt8)
    (index : Nat) (found : Array String) :
    cutFrom page (Bytes.ofList (before ++ texts.flatten)) before.length index
        (texts.map List.length) found =
      ⟨found ++ (texts.map fun t => page.decodeTrimmed (Bytes.ofList t)).toArray, []⟩ := by
  induction texts generalizing before index found with
  | nil =>
    rw [List.map_nil, List.map_nil, cutFrom, Array.append_empty]
    rfl
  | cons t texts ih =>
    have hsize : (Bytes.ofList (before ++ (t :: texts).flatten)).size =
        before.length + (t.length + texts.flatten.length) := by
      rw [Bytes.size_ofList, List.length_append, List.flatten_cons, List.length_append]
    have hin : ¬ (Bytes.ofList (before ++ (t :: texts).flatten)).size < before.length + t.length := by
      omega
    have hslice : Bytes.slice (Bytes.ofList (before ++ (t :: texts).flatten)) before.length t.length
        = Bytes.ofList t := by
      rw [Bytes.slice_ofList, List.drop_left, List.flatten_cons, List.take_left]
    rw [List.map_cons, cutFrom, if_neg hin, hslice]
    -- from here on, this text is one of those that were cut already
    rw [List.flatten_cons, ← List.append_assoc, ← List.length_append, ih, List.map_cons]
    simp

theorem codePageOf_poolOf (w : LengthWord) (entries : List Entry) :
    codePageOf (Bytes.ofList (poolOf w entries)) = .latin1 := by
  rw [codePageOf, poolOf, Bytes.number_ofList_here]
  rfl

/-- A pool is read back if the words that the reader takes for the lengths are the lengths. -/
theorem read?_of_lengths (hfits : ∀ e ∈ entries, e.Fits)
    (h : lengths (Bytes.ofList (poolOf w entries))
        (lengthWord (Bytes.ofList (poolOf w entries)) (textOf entries).length) =
      entries.map fun e => e.text.length) :
    read? (Bytes.ofList (poolOf w entries)) (Bytes.ofList (textOf entries)) =
      ⟨some ⟨.latin1, (stringsOf entries).toArray⟩, []⟩ := by
  have hsize : ¬ (poolOf w entries).length < 4 := by
    rw [length_poolOf]
    omega
  have hcut := cutFrom_flatten .latin1 (entries.map Entry.text) [] 1 #[""]
  have htext : (entries.map Entry.text).flatten = textOf entries := List.flatMap_def.symm
  -- no text loses a zero at its end
  have hdecode : ∀ e ∈ entries, CodePage.latin1.decodeTrimmed (Bytes.ofList e.text) =
      CodePage.latin1.decode (Bytes.ofList e.text) := by
    intro e he
    rw [CodePage.decodeTrimmed, Bytes.trimZeros_ofList (hfits e he).trimmed]
  have hstrings : #[""] ++ ((entries.map Entry.text).map fun t =>
      CodePage.latin1.decodeTrimmed (Bytes.ofList t)).toArray = (stringsOf entries).toArray := by
    rw [List.map_map, stringsOf, ← List.map_congr_left hdecode]
    simp [Function.comp_def]
  rw [htext, hstrings, List.nil_append, List.length_nil, List.map_map] at hcut
  simp only [read?, cut, Bytes.size_ofList, hsize, if_false, codePageOf_poolOf, h]
  rw [show (entries.map fun e => e.text.length) = entries.map (List.length ∘ Entry.text) from rfl, hcut]
  rfl

/-! ### Which word holds the lengths -/

/-- Lengths in the high words are found, whatever their companions are. -/
theorem read?_high (hfits : ∀ e ∈ entries, e.Fits) :
    read? (Bytes.ofList (poolOf .high entries)) (Bytes.ofList (textOf entries)) =
      ⟨some ⟨.latin1, (stringsOf entries).toArray⟩, []⟩ := by
  refine read?_of_lengths hfits ?_
  -- the low words are only taken when the high ones do not fit
  rw [lengthWord, fits_self hfits .high, Bool.not_true, Bool.and_false, if_neg Bool.false_ne_true,
    lengths_poolOf hfits]
  simp only [Entry.wordAt, if_true]

/-- Lengths in the low words are found if the companions cannot be lengths. -/
theorem read?_low (hfits : ∀ e ∈ entries, e.Fits)
    (hsum : (entries.map Entry.companion).sum ≠ (textOf entries).length) :
    read? (Bytes.ofList (poolOf .low entries)) (Bytes.ofList (textOf entries)) =
      ⟨some ⟨.latin1, (stringsOf entries).toArray⟩, []⟩ := by
  refine read?_of_lengths hfits ?_
  have hhigh : fits (Bytes.ofList (poolOf .low entries)) (textOf entries).length .high = false := by
    rw [fits_poolOf hfits]
    exact beq_false_of_ne hsum
  rw [lengthWord, fits_self hfits .low, hhigh, Bool.not_false, Bool.and_self, if_pos rfl,
    lengths_poolOf hfits]
  simp only [Entry.wordAt, if_true]

/-- Lengths in the low words are found if they stand in the high words, too. -/
theorem read?_low_of_eq (hfits : ∀ e ∈ entries, e.Fits)
    (heq : ∀ e ∈ entries, e.companion = e.text.length) :
    read? (Bytes.ofList (poolOf .low entries)) (Bytes.ofList (textOf entries)) =
      ⟨some ⟨.latin1, (stringsOf entries).toArray⟩, []⟩ := by
  refine read?_of_lengths hfits ?_
  rw [lengths_poolOf hfits]
  refine List.map_congr_left fun e he => ?_
  unfold Entry.wordAt
  split
  · rfl
  · exact heq e he

/-- Positive numbers whose sum is their count are all 1. -/
theorem eq_one_of_sum_eq_length {l : List Nat} (hpos : ∀ n ∈ l, 0 < n) (hsum : l.length = l.sum) :
    ∀ n ∈ l, n = 1 := by
  induction l with
  | nil => exact fun n hn => absurd hn List.not_mem_nil
  | cons m l ih =>
    have hm := hpos m (List.mem_cons_self ..)
    have hrest : ∀ n ∈ l, 0 < n := fun n hn => hpos n (List.mem_cons_of_mem m hn)
    -- the rest is at least its count, which leaves no more than 1 for the first
    have hle := List.length_le_sum_of_one_le l hrest
    rw [List.length_cons, List.sum_cons] at hsum
    intro n hn
    rcases List.mem_cons.mp hn with rfl | hn
    · omega
    · exact ih hrest (by omega) n hn

/-- Lengths in the low words are found if all companions are 1 and no text is empty. -/
theorem read?_low_of_ones (hfits : ∀ e ∈ entries, e.Fits) (hones : ∀ e ∈ entries, e.companion = 1)
    (hne : ∀ e ∈ entries, e.text ≠ []) :
    read? (Bytes.ofList (poolOf .low entries)) (Bytes.ofList (textOf entries)) =
      ⟨some ⟨.latin1, (stringsOf entries).toArray⟩, []⟩ := by
  by_cases hsum : (entries.map Entry.companion).sum = (textOf entries).length
  · -- the companions are taken for the lengths, and they are equal to them
    have hcompanions : entries.map Entry.companion = List.replicate entries.length 1 := by
      rw [List.eq_replicate_iff, List.length_map]
      refine ⟨rfl, fun n hn => ?_⟩
      obtain ⟨e, he, rfl⟩ := List.mem_map.mp hn
      exact hones e he
    -- so the lengths are positive numbers that add up to their count
    have hlengths : ∀ e ∈ entries, e.text.length = 1 := by
      have hall := eq_one_of_sum_eq_length (l := entries.map fun e => e.text.length)
        (fun n hn => ?_) ?_
      · exact fun e he => hall _ (List.mem_map_of_mem he)
      · obtain ⟨e, he, rfl⟩ := List.mem_map.mp hn
        exact List.length_pos_of_ne_nil (hne e he)
      · rw [← length_textOf, ← hsum, hcompanions, List.sum_replicate_nat, Nat.mul_one,
          List.length_map]
    exact read?_low_of_eq hfits fun e he => (hones e he).trans (hlengths e he).symm
  · exact read?_low hfits hsum

end InstallerPackage.StringPool
