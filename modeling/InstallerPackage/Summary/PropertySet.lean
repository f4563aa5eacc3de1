import InstallerPackage.Summary

/-!
# Writing summary information

`PropertySet.write` lays out a property set the way installers do: the preamble, one section, in it
the table of properties in the given order, and behind it their values, each filled up to a multiple
of four bytes. `Content.value` is what a value means.
-/

namespace InstallerPackage.Summary

/-- A value to be written. -/
inductive Content where
  | short (n : Nat)
  | long (n : Nat)
  /-- The bytes of a text; a zero is written behind them. -/
  | text (bytes : List UInt8)
  | time (ticks : Nat)
  deriving DecidableEq, Repr

namespace Content

/-- The type of a value. -/
def kind : Content → Kind
  | short _ => .short
  | long _ => .long
  | text _ => .text
  | time _ => .time

/-- Does a value fit its type? -/
def Fits : Content → Prop
  | short n => n < 1 <<< 16
  | long n => n < 1 <<< 32
  | text bytes => bytes.length + 1 < 1 <<< 32
  | time ticks => ticks < 1 <<< 64

/-- What a value means when texts are encoded in `page`. -/
def value (page : CodePage) : Content → Value
  | short n | long n => .number n
  | text bytes => .text (page.decodeTrimmed (Bytes.ofList bytes))
  | time ticks => .number (Time.ofTicks ticks)

/-- The type and the value. -/
def bytes : Content → List UInt8
  | short n => Bytes.little 4 Kind.short.code ++ Bytes.little 2 n ++ Bytes.little 2 0
  | long n => Bytes.little 4 Kind.long.code ++ Bytes.little 4 n
  | text bytes =>
    Bytes.little 4 Kind.text.code ++ Bytes.little 4 (bytes.length + 1) ++ bytes ++ [0]
  | time ticks => Bytes.little 4 Kind.time.code ++ Bytes.little 8 ticks

/-- The type and the value, filled up with zeros. -/
def padded (c : Content) : List UInt8 := Bytes.padTo 4 c.bytes

end Content

/-- A property to be written. -/
structure Property where
  id : Nat
  content : Content
  deriving DecidableEq, Repr

namespace PropertySet

/-- What stands before the first section. -/
def preamble : List UInt8 :=
  Bytes.little 2 0xFFFE ++ Bytes.little 2 0 ++ Bytes.little 4 0x00020006 ++
    List.replicate 16 0 ++ Bytes.little 4 1 ++
    [0xE0, 0x85, 0x9F, 0xF2, 0xF9, 0x4F, 0x68, 0x10, 0xAB, 0x91, 0x08, 0x00, 0x2B, 0x27, 0xB3, 0xD9] ++
    Bytes.little 4 preambleSize

/-- The table for properties whose values begin at `offset`. -/
def table : (offset : Nat) → List Property → List UInt8
  | _, [] => []
  | offset, p :: rest =>
    Bytes.little 4 p.id ++ Bytes.little 4 offset ++
      table (offset + p.content.padded.length) rest

/-- The values, one after the other. -/
def values (properties : List Property) : List UInt8 :=
  properties.flatMap fun p => p.content.padded

/-- The number of bytes before the values of a section with `n` properties. -/
def valuesPlace (n : Nat) : Nat := 8 + 8 * n

/-- The section. -/
def body (properties : List Property) : List UInt8 :=
  let n := properties.length
  Bytes.little 4 (valuesPlace n + (values properties).length) ++ Bytes.little 4 n ++
    table (valuesPlace n) properties ++ values properties

/-- A property set. -/
def write (properties : List Property) : ByteArray := Bytes.ofList (preamble ++ body properties)

theorem length_preamble : preamble.length = preambleSize := by
  simp [preamble, preambleSize]

@[simp] theorem length_table (offset : Nat) (properties : List Property) :
    (table offset properties).length = 8 * properties.length := by
  induction properties generalizing offset with
  | nil => rfl
  | cons p rest ih =>
    simp [table, ih]
    omega

end PropertySet

end InstallerPackage.Summary
