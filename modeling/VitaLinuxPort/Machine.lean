import Mathlib.Algebra.Group.Nat.Defs

/-!
# What the C code leaves to the target

The cart runs on the PSTV, an ARMv7 machine, and its tests run on the build host. The two differ in
the width of `size_t` and in the size of `struct input_event`; everything else the modelled code
uses has a fixed width. The development is over any target.
-/

namespace VitaLinuxPort

/-- The sizes that depend on the target. Linux has a `size_t` of 32 or of 64 bits, no narrower than
`int`, and an evdev record is never larger than the 256-byte buffer it is reassembled in. -/
class Target where
  sizeBits : Nat
  sizeBits_ge : 32 ≤ sizeBits
  sizeBits_le : sizeBits ≤ 64
  eventBytes : Nat
  eventBytes_pos : 0 < eventBytes
  eventBytes_le : eventBytes ≤ 256

/-- The PSTV. -/
@[reducible] def armv7 : Target where
  sizeBits := 32
  sizeBits_ge := by decide
  sizeBits_le := by decide
  eventBytes := 16
  eventBytes_pos := by decide
  eventBytes_le := by decide

variable [Target]

/-- `a + b` in `size_t`. -/
def sizeAdd (a b : Nat) : Nat := (a + b) % 2 ^ Target.sizeBits

/-- `a - b` in `size_t`. -/
def sizeSub (a b : Nat) : Nat := (a + (2 ^ Target.sizeBits - b)) % 2 ^ Target.sizeBits

theorem sizeAdd_of_lt {a b : Nat} (h : a + b < 2 ^ Target.sizeBits) : sizeAdd a b = a + b :=
  Nat.mod_eq_of_lt h

theorem sizeSub_of_le {a b : Nat} (ha : a < 2 ^ Target.sizeBits) (hb : b ≤ a) :
    sizeSub a b = a - b := by
  rw [sizeSub, show a + (2 ^ Target.sizeBits - b) = a - b + 2 ^ Target.sizeBits by omega,
    Nat.add_mod_right, Nat.mod_eq_of_lt (by omega)]

theorem two_pow_16_le_sizeBits : 2 ^ 16 ≤ 2 ^ Target.sizeBits :=
  Nat.pow_le_pow_right (by decide) (Nat.le_trans (by decide) Target.sizeBits_ge)

/-- A C string: the characters before the terminating zero. -/
abbrev CString := List Char

end VitaLinuxPort
