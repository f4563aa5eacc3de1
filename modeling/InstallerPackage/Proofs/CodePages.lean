import Mathlib.Data.List.Basic
import InstallerPackage.Text.CodePage

/-!
# What bytes mean in a code page

Whatever bytes a text has, they can be read in every page, and what comes out has no more characters than
there were bytes (`CodePage.length_decode_le`).

* `DoubleByte.decode_encoded`: in a page with characters of one or two bytes, a text is read back from the
  bytes of its characters, and what comes behind it does not matter.
* `CodePage.decode_extending`: in a page that extends ASCII, a byte of the second half stands for the
  character at its place.
* `CodePage.decode_of_ascii`: the bytes of ASCII mean the same in all pages except the seven that list
  other characters there.
-/

namespace InstallerPackage

/-! ### Characters of one or two bytes -/

namespace DoubleByte

variable {page : DoubleByte} {b lead trail : Nat} {c : Char} {bytes rest : List Nat}

/-- A step of the loop, with the bytes that it leaves. -/
theorem decodeFrom_cons (found : Array Char) (b : Nat) (rest : List Nat) :
    page.decodeFrom found (b :: rest) =
      match page.single b, rest with
      | some c, _ => page.decodeFrom (found.push c) rest
      | none, [] => (found.push Utf8.replacement).toList
      | none, trail :: behind =>
        match page.pair b trail with
        | some c => page.decodeFrom (found.push c) behind
        | none => page.decodeFrom (found.push Utf8.replacement) (trail :: behind) := by
  -- what the byte is alone decides first, then the byte behind it
  cases rest with
  | nil => cases hb : page.single b <;> simp only [decodeFrom, hb]
  | cons trail behind =>
    cases hb : page.single b with
    | some c => simp only [decodeFrom, hb]
    | none => cases hpair : page.pair b trail <;> simp only [decodeFrom, hb, hpair]

/-- The characters that have been found stay in front. -/
theorem decodeFrom_eq : ∀ (found : Array Char) (bytes : List Nat),
    page.decodeFrom found bytes = found.toList ++ page.decode bytes
  | found, [] => by simp [decode, decodeFrom]
  | found, [b] => by
    rw [decode, decodeFrom_cons, decodeFrom_cons]
    cases page.single b <;> simp [decodeFrom]
  | found, b :: trail :: rest => by
    -- the loop goes on in the same way, whatever has been found
    have hone := fun found => decodeFrom_eq found (trail :: rest)
    have htwo := fun found => decodeFrom_eq found rest
    rw [decode, decodeFrom_cons, decodeFrom_cons]
    cases page.single b with
    | some c => simp [hone]
    | none => cases hpair : page.pair b trail <;> simp [hpair, hone, htwo]

theorem decode_cons_of_single (h : page.single b = some c) (rest : List Nat) :
    page.decode (b :: rest) = c :: page.decode rest := by
  rw [decode, decodeFrom_cons, h]
  exact decodeFrom_eq _ rest

theorem decode_cons_of_pair (h : page.single lead = none) (h' : page.pair lead trail = some c)
    (rest : List Nat) : page.decode (lead :: trail :: rest) = c :: page.decode rest := by
  rw [decode, decodeFrom_cons, h]
  dsimp only
  rw [h']
  exact decodeFrom_eq _ rest

/-- A byte without a meaning is replaced by itself. -/
theorem decode_cons_of_none (h : page.single b = none) (h' : ∀ trail ∈ rest.head?, page.pair b trail = none) :
    page.decode (b :: rest) = Utf8.replacement :: page.decode rest := by
  rw [decode, decodeFrom_cons, h]
  cases rest with
  | nil => rfl
  | cons trail rest =>
    dsimp only
    rw [h' trail rfl]
    exact decodeFrom_eq _ _

/-- The bytes of a character. -/
inductive Encodes (page : DoubleByte) : (bytes : List Nat) → Char → Prop
  | single {b : Nat} {c : Char} (h : page.single b = some c) : Encodes page [b] c
  | pair {lead trail : Nat} {c : Char} (h : page.single lead = none)
    (h' : page.pair lead trail = some c) : Encodes page [lead, trail] c

/-- **A text is read back from the bytes of its characters**, whatever comes behind them. -/
theorem decode_encoded {text : List (List Nat × Char)} (h : ∀ x ∈ text, page.Encodes x.1 x.2)
    (rest : List Nat) :
    page.decode (text.flatMap Prod.fst ++ rest) = text.map Prod.snd ++ page.decode rest := by
  induction text with
  | nil => rfl
  | cons x text ih =>
    obtain ⟨hx, htext⟩ := List.forall_mem_cons.mp h
    obtain ⟨bytes, c⟩ := x
    rw [List.flatMap_cons, List.append_assoc, List.map_cons, List.cons_append, ← ih htext]
    cases hx with
    | single hb => exact decode_cons_of_single hb _
    | pair hlead hpair => exact decode_cons_of_pair hlead hpair _

/-- Two half-width katakana of one byte, a line of two bytes, and a byte that leads to nothing. -/
example : page932.decode [0xB6, 0xC5, 0x84, 0x9F, 0x84] = ['ｶ', 'ﾅ', '─', '\ufffd'] := by decide +kernel

/-- Every character takes one of the bytes at least. -/
theorem length_decode_le : ∀ bytes : List Nat, (page.decode bytes).length ≤ bytes.length
  | [] => Nat.le_refl 0
  | [b] => by
    cases hb : page.single b with
    | some c =>
      rw [decode_cons_of_single hb]
      exact Nat.le_refl 1
    | none =>
      rw [decode_cons_of_none hb (by simp)]
      exact Nat.le_refl 1
  | b :: trail :: rest => by
    have hone := length_decode_le (trail :: rest)
    cases hb : page.single b with
    | some c =>
      rw [decode_cons_of_single hb]
      exact Nat.succ_le_succ hone
    | none =>
      cases hpair : page.pair b trail with
      | some c =>
        -- two bytes give one character here, which is why the count is an inequality
        rw [decode_cons_of_pair hb hpair]
        exact Nat.le_succ_of_le (Nat.succ_le_succ (length_decode_le rest))
      | none =>
        rw [decode_cons_of_none hb (by simpa using hpair)]
        exact Nat.succ_le_succ hone

/-- Bytes that stand for themselves do so in a row. -/
theorem decode_of_ascii (hpage : ∀ b < 0x80, page.single b = some (Char.ofNat b)) :
    ∀ bytes : List Nat, (∀ b ∈ bytes, b < 0x80) → page.decode bytes = bytes.map Char.ofNat
  | [], _ => rfl
  | b :: rest, h => by
    obtain ⟨hb, hrest⟩ := List.forall_mem_cons.mp h
    rw [decode_cons_of_single (hpage b hb), decode_of_ascii hpage rest hrest, List.map_cons]

theorem ascii_of_lt (h : b < 0x80) : ascii b = some (Char.ofNat b) := if_pos h

theorem single932_of_lt (h : b < 0x80) : single932 b = some (Char.ofNat b) := if_pos (Nat.le_of_lt h)

end DoubleByte

/-! ### UTF-8 -/

namespace Utf8

/-- A byte gives one character at most, and one more for a sequence that it breaks off. -/
theorem length_step_le (pending : Option Pending) (b : Nat) :
    (step pending b).1.length + (step pending b).2.toList.length ≤ 1 + pending.toList.length := by
  -- a byte that begins a character gives none yet, but one is pending
  have hfirst : (first b).1.length + (first b).2.toList.length ≤ 1 := by
    unfold first
    repeat' split
    all_goals exact Nat.le_refl 1
  cases pending with
  | none => exact hfirst
  | some p =>
    unfold step
    dsimp only
    -- a byte that does not continue the sequence ends it, and begins anew
    split
    · split <;> simp
    · simp only [List.length_cons, Option.toList_some, List.length_nil]
      omega

theorem length_decodeFrom_le (pending : Option Pending) (bytes : List Nat) :
    (decodeFrom pending bytes).length ≤ bytes.length + pending.toList.length := by
  induction bytes generalizing pending with
  | nil => cases pending <;> simp [decodeFrom]
  | cons b rest ih =>
    have hstep := length_step_le pending b
    have hrest := ih (step pending b).2
    simp only [decodeFrom, List.length_append, List.length_cons]
    omega

end Utf8

/-! ### All pages -/

namespace CodePage

/-- A text has no more characters than bytes. -/
theorem length_decode_le (page : CodePage) (b : ByteArray) : (page.decode b).length ≤ b.size := by
  rw [decode, String.length_ofList]
  unfold Charset.decode
  cases page.charset with
  | latin1 | table => simp
  | utf8 => exact Nat.le_trans (Utf8.length_decodeFrom_le none _) (by simp)
  | doubleByte chars => exact Nat.le_trans (chars.length_decode_le _) (by simp)

/-- So nothing is read where there are no bytes. -/
theorem decode_of_size_eq_zero (page : CodePage) {b : ByteArray} (h : b.size = 0) : page.decode b = "" := by
  have hlength := page.length_decode_le b
  rw [h] at hlength
  exact String.length_eq_zero_iff.mp (Nat.le_zero.mp hlength)

theorem getElem?_asciiChars {n : Nat} (h : n < 0x80) : asciiChars[n]? = some (Char.ofNat n) := by
  rw [asciiChars, Array.getElem?_ofFn, dif_pos h]

/-- In a page that extends ASCII, a byte of the second half stands for the character at its place. -/
theorem decode_extending (upper : String) (b : ByteArray) :
    (extending upper).decode b = b.data.toList.map fun x =>
      if x.toNat < 0x80 then Char.ofNat x.toNat
      else (upper.toList[x.toNat - 0x80]?).getD Utf8.replacement := by
  unfold extending Charset.decode
  -- the first half of the table holds the characters of ASCII
  dsimp only
  rw [List.map_map]
  refine List.map_congr_left fun x _ => ?_
  have hsize : asciiChars.size = 0x80 := Array.size_ofFn
  rw [Function.comp_apply, Array.getElem?_append, hsize]
  split
  · next hlt => rw [getElem?_asciiChars hlt, Option.getD_some]
  · rw [List.getElem?_toArray]

/-- The first half of the page is ASCII. -/
def ExtendsAscii (charset : Charset) : Prop :=
  ∀ b : ByteArray, (∀ x ∈ b.data.toList, x.toNat < 0x80) →
    charset.decode b = b.data.toList.map fun x => Char.ofNat x.toNat

theorem extendsAscii_latin1 : ExtendsAscii .latin1 := fun _ _ => List.map_map

theorem extendsAscii_extending (upper : String) : ExtendsAscii (extending upper) := by
  intro b h
  rw [decode_extending]
  exact List.map_congr_left fun x hx => if_pos (h x hx)

theorem extendsAscii_ascii : ExtendsAscii (.table asciiChars) := by
  intro b h
  unfold Charset.decode
  dsimp only
  rw [List.map_map]
  refine List.map_congr_left fun x hx => ?_
  rw [Function.comp_apply, getElem?_asciiChars (h x hx), Option.getD_some]

theorem extendsAscii_utf8 : ExtendsAscii .utf8 := by
  intro b h
  rw [Charset.decode, Utf8.decode_of_ascii _ (by simpa using h), List.map_map]
  rfl

theorem extendsAscii_doubleByte {page : DoubleByte}
    (hpage : ∀ b < 0x80, page.single b = some (Char.ofNat b)) : ExtendsAscii (.doubleByte page) := by
  intro b h
  rw [Charset.decode, DoubleByte.decode_of_ascii hpage _ (by simpa using h), List.map_map]
  rfl

/-- The pages with other characters in their first half: those of large computers, and Arabic page 864,
which has a percent sign of its own. -/
def unlikeAscii : List Nat := [273, 424, 500, 864, 875, 1026, 1140]

theorem extendsAscii_registered : ∀ p ∈ registered, p.1 ∉ unlikeAscii → ExtendsAscii p.2.charset := by
  -- the pages are gone through one by one, and all of them are of six kinds
  unfold registered
  simp only [numbered]
  repeat' refine List.forall_mem_cons.mpr ⟨?_, ?_⟩
  all_goals first
    | exact fun h => absurd (by decide) h
    | with_reducible exact fun _ => extendsAscii_extending _
    | with_reducible exact fun _ => extendsAscii_doubleByte fun _ => DoubleByte.ascii_of_lt
    | with_reducible exact fun _ => extendsAscii_doubleByte fun _ => DoubleByte.single932_of_lt
    | with_reducible exact fun _ => extendsAscii_latin1
    | with_reducible exact fun _ => extendsAscii_utf8
    | with_reducible exact fun _ => extendsAscii_ascii
    | exact fun p hp => absurd hp List.not_mem_nil

/-- **ASCII means the same in all other pages**, also under numbers that no page has. -/
theorem decode_of_ascii (n : Nat) (hn : n ∉ unlikeAscii) (b : ByteArray)
    (h : ∀ x ∈ b.data.toList, x.toNat < 0x80) :
    (ofNumber n).decode b = String.ofList (b.data.toList.map fun x => Char.ofNat x.toNat) := by
  have hpage : ExtendsAscii (ofNumber n).charset := by
    rw [ofNumber]
    cases hlookup : registered.lookup n with
    | none => exact extendsAscii_latin1
    | some page =>
      obtain ⟨front, back, heq, -⟩ := List.lookup_eq_some_iff.mp hlookup
      have hmem : (n, page) ∈ registered := heq ▸ List.mem_append_right _ (List.mem_cons_self ..)
      exact extendsAscii_registered _ hmem hn
  rw [decode, hpage b h]

end CodePage

end InstallerPackage
