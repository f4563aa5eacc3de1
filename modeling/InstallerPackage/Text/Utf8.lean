/-!
# UTF-8 with replacement

Text that claims to be UTF-8 need not be. `Utf8.decode` accepts any bytes and puts one replacement
character for every *maximal part* of a sequence: the longest run of bytes that begins some well-formed
sequence but cannot be completed. A byte that begins no sequence at all is such a part by itself.

The decoder reads one byte at a time. `Utf8.Pending` is the sequence that it is in the middle of, with
the range in which the next byte has to lie; the range is narrower after some first bytes, which
excludes surrogates, overlong forms and numbers above `0x10FFFF` at their second byte.
-/

namespace InstallerPackage.Utf8

/-- Stands for bytes that are not well-formed. -/
def replacement : Char := Char.ofNat 0xFFFD

/-- A sequence that is not complete yet. -/
structure Pending where
  /-- The number that the bytes so far amount to. -/
  value : Nat
  /-- The bytes that are still to come, less one. -/
  more : Nat
  /-- The least value of the next byte. -/
  low : Nat
  /-- The greatest value of the next byte. -/
  high : Nat
  deriving DecidableEq, Repr

/-- What a first byte begins: the characters that it completes, and the sequence that it opens. -/
def first (b : Nat) : List Char × Option Pending :=
  if b < 0x80 then ([Char.ofNat b], none)
  -- no sequence begins with a continuation byte, or with one that a shorter one would do for
  else if b < 0xC2 then ([replacement], none)
  else if b < 0xE0 then ([], some ⟨b - 0xC0, 0, 0x80, 0xBF⟩)
  else if b = 0xE0 then ([], some ⟨0, 1, 0xA0, 0xBF⟩)
  -- no surrogates
  else if b = 0xED then ([], some ⟨0xD, 1, 0x80, 0x9F⟩)
  else if b < 0xF0 then ([], some ⟨b - 0xE0, 1, 0x80, 0xBF⟩)
  else if b = 0xF0 then ([], some ⟨0, 2, 0x90, 0xBF⟩)
  else if b < 0xF4 then ([], some ⟨b - 0xF0, 2, 0x80, 0xBF⟩)
  -- nothing above U+10FFFF
  else if b = 0xF4 then ([], some ⟨4, 2, 0x80, 0x8F⟩)
  else ([replacement], none)

/-- One byte, with the sequence that it may continue. -/
def step : Option Pending → Nat → List Char × Option Pending
  | none, b => first b
  | some p, b =>
    if p.low ≤ b ∧ b ≤ p.high then
      let value := p.value * 64 + (b - 0x80)
      match p.more with
      | 0 => ([Char.ofNat value], none)
      | more + 1 => ([], some ⟨value, more, 0x80, 0xBF⟩)
    else
      -- the sequence is broken off, and the byte begins anew
      let (chars, open_) := first b
      (replacement :: chars, open_)

/-- The characters that the bytes stand for, in the middle of a sequence or between two. -/
def decodeFrom : Option Pending → List Nat → List Char
  | none, [] => []
  | some _, [] => [replacement]
  | pending, b :: rest =>
    let (chars, pending) := step pending b
    chars ++ decodeFrom pending rest

/-- The characters that the bytes stand for. -/
def decode (bytes : List Nat) : List Char := decodeFrom none bytes

/-- Bytes below `0x80` stand for themselves. -/
theorem decode_of_ascii (bytes : List Nat) (h : ∀ b ∈ bytes, b < 0x80) :
    decode bytes = bytes.map Char.ofNat := by
  unfold decode
  induction bytes with
  | nil => rfl
  | cons b rest ih =>
    have hb : b < 0x80 := h b (by simp)
    have := ih fun x hx => h x (by simp [hx])
    simp [decodeFrom, step, first, hb, this]

end InstallerPackage.Utf8
