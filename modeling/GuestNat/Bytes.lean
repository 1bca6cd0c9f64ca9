/-!
# Octets and big-endian words

Everything on the wire is a list of octets. Words of 16 and 32 bits are written
most significant octet first. The arithmetic is on naturals, so that a fact about
a field is a fact about division and remainder. The main statements are
`word16_be16` and `word32_be32`: reading a written word gives the word back.
-/
namespace GuestNat

/-- A string of octets. -/
abbrev Bytes := List UInt8

/-- The 16-bit word with the given high and low octet. -/
def word16 (hi lo : UInt8) : UInt16 :=
  UInt16.ofNat (hi.toNat * 256 + lo.toNat)

/-- The two octets of a word, high octet first. -/
def be16 (w : UInt16) : Bytes :=
  [UInt8.ofNat (w.toNat / 256), UInt8.ofNat (w.toNat % 256)]

/-- The 32-bit word with the given octets, highest first. -/
def word32 (a b c d : UInt8) : UInt32 :=
  UInt32.ofNat (a.toNat * 16777216 + b.toNat * 65536 + c.toNat * 256 + d.toNat)

/-- The four octets of a word, highest first. -/
def be32 (w : UInt32) : Bytes :=
  [UInt8.ofNat (w.toNat / 16777216), UInt8.ofNat (w.toNat / 65536 % 256),
    UInt8.ofNat (w.toNat / 256 % 256), UInt8.ofNat (w.toNat % 256)]

@[simp] theorem length_be16 (w : UInt16) : (be16 w).length = 2 := rfl

@[simp] theorem length_be32 (w : UInt32) : (be32 w).length = 4 := rfl

@[simp] theorem toNat_word16 (hi lo : UInt8) :
    (word16 hi lo).toNat = hi.toNat * 256 + lo.toNat := by
  have h1 := hi.toNat_lt
  have h2 := lo.toNat_lt
  simp only [word16, UInt16.toNat_ofNat']
  omega

@[simp] theorem toNat_word32 (a b c d : UInt8) : (word32 a b c d).toNat =
    a.toNat * 16777216 + b.toNat * 65536 + c.toNat * 256 + d.toNat := by
  have h1 := a.toNat_lt
  have h2 := b.toNat_lt
  have h3 := c.toNat_lt
  have h4 := d.toNat_lt
  simp only [word32, UInt32.toNat_ofNat']
  omega

theorem word16_be16 (w : UInt16) :
    word16 (UInt8.ofNat (w.toNat / 256)) (UInt8.ofNat (w.toNat % 256)) = w := by
  apply UInt16.toNat_inj.mp
  have h := w.toNat_lt
  rw [toNat_word16, UInt8.toNat_ofNat', UInt8.toNat_ofNat']
  omega

theorem word32_be32 (w : UInt32) :
    word32 (UInt8.ofNat (w.toNat / 16777216)) (UInt8.ofNat (w.toNat / 65536 % 256))
      (UInt8.ofNat (w.toNat / 256 % 256)) (UInt8.ofNat (w.toNat % 256)) = w := by
  apply UInt32.toNat_inj.mp
  have h := w.toNat_lt
  rw [toNat_word32, UInt8.toNat_ofNat', UInt8.toNat_ofNat', UInt8.toNat_ofNat',
    UInt8.toNat_ofNat']
  omega

end GuestNat
