import InstallerPackage.Container.Name

/-!
# Stored names, and how they are read

`Name.encode` squeezes a name, and `Name.decode` expands what is stored. `Name.decode_undoes_encode`
says how the two fit together. The code points from `0x3800` to `0x4840` are reserved: they stand
for something else, and a name that contains one cannot be told from what it stands for. For all the
others

* a name is read as it was before it was squeezed;
* what is read is free of reserved code points, whatever is stored, and so reading it once more
  changes nothing.

Reading has no state, so it is enough to know what every single code point stands for:
`expand_pair`, `expand_single` and `expand_of_not_isReserved` say this for the three kinds that
squeezing produces. The induction is along `squeeze`, which takes two characters at a time where
both can be squeezed.
-/

namespace InstallerPackage.Name

variable {c d x y : Nat} {name : Name}

/-! ### The sixty-four characters -/

theorem squeezable_lt (digit : Nat) : squeezable digit < 0x80 := by
  unfold squeezable
  split
  · omega
  split
  · omega
  split
  · omega
  split <;> decide

/-- A character among the sixty-four is told by its number. -/
theorem squeezable_of_digit? (h : digit? c = some x) : squeezable x = c ∧ x < 64 := by
  -- the five branches of the table: ten digits, two alphabets, and two single characters
  unfold digit? at h
  split at h
  · obtain rfl := Option.some.inj h
    rw [squeezable, if_pos (by omega)]
    omega
  split at h
  · obtain rfl := Option.some.inj h
    rw [squeezable, if_neg (by omega), if_pos (by omega)]
    omega
  split at h
  · obtain rfl := Option.some.inj h
    rw [squeezable, if_neg (by omega), if_neg (by omega), if_pos (by omega)]
    omega
  split at h
  · next hc =>
    obtain rfl := Option.some.inj h
    exact ⟨hc.symm, by decide⟩
  split at h
  · next hc =>
    obtain rfl := Option.some.inj h
    exact ⟨hc.symm, by decide⟩
  · cases h

example : (List.range 64).map squeezable =
    ofString "0123456789ABCDEFGHIJKLMNOPQRSTUVWXYZabcdefghijklmnopqrstuvwxyz._" := by decide

/-! ### Single code points -/

/-- The code points that stand for something else. -/
def IsReserved (c : Nat) : Prop := 0x3800 ≤ c ∧ c ≤ 0x4840

instance : DecidablePred IsReserved := fun c =>
  inferInstanceAs (Decidable (0x3800 ≤ c ∧ c ≤ 0x4840))

/-- The low six bits of a pair are the first character, the others the second one. -/
theorem expand_pair (hx : x < 64) (hy : y < 64) :
    expand (pairBase + x + 64 * y) = [squeezable x, squeezable y] := by
  have hrange : pairBase ≤ pairBase + x + 64 * y ∧ pairBase + x + 64 * y < singleBase := by
    simp only [pairBase, singleBase]
    omega
  have hsub : pairBase + x + 64 * y - pairBase = x + 64 * y := by omega
  have hlow : (x + 64 * y) % 64 = x := by rw [Nat.add_mul_mod_self_left, Nat.mod_eq_of_lt hx]
  have hhigh : (x + 64 * y) / 64 = y := by omega
  rw [expand, if_pos hrange, hsub, hlow, hhigh]

theorem expand_single (hx : x < 64) : expand (singleBase + x) = [squeezable x] := by
  have hpair : ¬ (pairBase ≤ singleBase + x ∧ singleBase + x < singleBase) := by omega
  have hrange : singleBase ≤ singleBase + x ∧ singleBase + x < tableMark := by
    simp only [singleBase, tableMark]
    omega
  rw [expand, if_neg hpair, if_pos hrange, Nat.add_sub_cancel_left]

theorem expand_tableMark : expand tableMark = [0x21] := by decide

theorem expand_of_not_isReserved (h : ¬ IsReserved c) : expand c = [c] := by
  have hpair : ¬ (pairBase ≤ c ∧ c < singleBase) := fun hc =>
    h ⟨hc.1, Nat.le_trans (Nat.le_of_lt hc.2) (by decide)⟩
  have hsingle : ¬ (singleBase ≤ c ∧ c < tableMark) := fun hc =>
    h ⟨Nat.le_trans (by decide) hc.1, Nat.le_of_lt hc.2⟩
  have hmark : ¬ c = tableMark := by
    rintro rfl
    exact h (by decide)
  rw [expand, if_neg hpair, if_neg hsingle, if_neg hmark]

/-- No code point stands for a reserved one. -/
theorem not_isReserved_of_mem_expand (h : d ∈ expand c) : ¬ IsReserved d := by
  -- what a packed code point gives is ASCII, far below the reserved ones
  have hsmall : ∀ digit, ¬ IsReserved (squeezable digit) := fun digit hres =>
    absurd (Nat.lt_of_le_of_lt hres.1 (squeezable_lt digit)) (by decide)
  unfold expand at h
  split at h
  · rcases List.mem_cons.mp h with h | h
    · rw [h]
      exact hsmall _
    · rw [List.mem_singleton.mp h]
      exact hsmall _
  split at h
  · rw [List.mem_singleton.mp h]
    exact hsmall _
  split at h
  · rw [List.mem_singleton.mp h]
    decide
  · -- a code point that stands for itself is outside of all ranges
    next hpair hsingle hmark =>
    rw [List.mem_singleton.mp h]
    simp only [pairBase, singleBase, tableMark, IsReserved] at hpair hsingle hmark ⊢
    omega

/-! ### Names -/

theorem not_isReserved_of_mem_decode {stored : Name} (h : d ∈ stored.decode) :
    ¬ IsReserved d := by
  obtain ⟨c, -, hd⟩ := List.mem_flatMap.mp h
  exact not_isReserved_of_mem_expand hd

/-- Where no code point is reserved there is nothing to expand. -/
theorem decode_of_not_isReserved (h : ∀ c ∈ name, ¬ IsReserved c) : name.decode = name := by
  induction name with
  | nil => rfl
  | cons c rest ih =>
    obtain ⟨hc, hrest⟩ := List.forall_mem_cons.mp h
    rw [decode_cons, expand_of_not_isReserved hc, ih hrest]
    rfl

/-- Squeezed neighbours come out in their order again. -/
theorem decode_squeeze (h : ∀ c ∈ name, ¬ IsReserved c) : (squeeze name).decode = name := by
  -- the cases of the packing: two characters at once, one alone, or one that is no packed one
  induction name using squeeze.induct with
  | case1 => rfl
  | case2 c x hx =>
    obtain ⟨hc, hlt⟩ := squeezable_of_digit? hx
    rw [squeeze, hx, decode_cons, expand_single hlt, hc]
    rfl
  | case3 c hx =>
    rw [squeeze, hx]
    exact decode_of_not_isReserved h
  | case4 c d rest x y hy hx ih =>
    obtain ⟨-, h⟩ := List.forall_mem_cons.mp h
    obtain ⟨-, h⟩ := List.forall_mem_cons.mp h
    obtain ⟨hc, hxlt⟩ := squeezable_of_digit? hx
    -- both characters of the pair are among the sixty-four
    obtain ⟨hd, hylt⟩ := squeezable_of_digit? hy
    rw [squeeze, hx, hy, decode_cons, expand_pair hxlt hylt, ih h, hc, hd]
    rfl
  | case5 c d rest x hy hx ih =>
    -- the second character is left for the next turn
    obtain ⟨-, h⟩ := List.forall_mem_cons.mp h
    obtain ⟨hc, hlt⟩ := squeezable_of_digit? hx
    rw [squeeze, hx, hy, decode_cons, expand_single hlt, ih h, hc]
    rfl
  | case6 c d rest hx ih =>
    obtain ⟨hc, h⟩ := List.forall_mem_cons.mp h
    rw [squeeze, hx, decode_cons, expand_of_not_isReserved hc, ih h]
    rfl

theorem decode_encode (h : ∀ c ∈ name, ¬ IsReserved c) : (encode name).decode = name := by
  unfold encode
  split
  · next rest =>
    obtain ⟨-, h⟩ := List.forall_mem_cons.mp h
    rw [decode_cons, expand_tableMark, decode_squeeze h]
    rfl
  · exact decode_squeeze h

/-- **Reading undoes squeezing.** A name is read as it was before it was squeezed if and only if
none of its code points is reserved. And whatever is stored, what is read has no reserved code
point, and is read as itself. -/
theorem decode_undoes_encode :
    (∀ name : Name, (∀ c ∈ name, ¬ IsReserved c) ↔ (encode name).decode = name) ∧
    ∀ stored : Name, (∀ c ∈ stored.decode, ¬ IsReserved c) ∧
      stored.decode.decode = stored.decode := by
  refine ⟨fun name => ⟨decode_encode, fun h c hc => ?_⟩, fun stored => ⟨?_, ?_⟩⟩
  · rw [← h] at hc
    exact not_isReserved_of_mem_decode hc
  · exact fun _ => not_isReserved_of_mem_decode
  · exact decode_of_not_isReserved fun _ => not_isReserved_of_mem_decode

/-- The name of a table, squeezed to a mark, two pairs, a character that stays as it is, and a
single one. -/
theorem decode_undoes_encode_table :
    (∀ c ∈ ofString "!Icon é_", ¬ IsReserved c) ∧
    encode (ofString "!Icon é_") = [0x4840, 0x4192, 0x4472, 0x20, 0xE9, 0x483F] ∧
    decode [0x4840, 0x4192, 0x4472, 0x20, 0xE9, 0x483F] = ofString "!Icon é_" := by
  have hfree : ∀ c ∈ ofString "!Icon é_", ¬ IsReserved c := by decide
  have hencode : encode (ofString "!Icon é_") = [0x4840, 0x4192, 0x4472, 0x20, 0xE9, 0x483F] := by
    decide
  exact ⟨hfree, hencode, hencode ▸ (decode_undoes_encode.1 _).mp hfree⟩

end InstallerPackage.Name
