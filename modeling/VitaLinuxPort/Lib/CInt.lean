import Mathlib.Algebra.Group.Nat.Defs
import Mathlib.Data.Option.Basic

/-!
# C integer arithmetic that notices its limits

An integer type of C is a range. Here an operation on it has a result where the exact result lies in
the range, and none where C leaves the computation undefined or lets it wrap: outside the range, and
on a division by zero. A function of the source written with these operations has a result exactly
where no step of it leaves its type. Only a conversion has a result for every value.
-/

namespace VitaLinuxPort

structure CIntType where
  lowest : Int
  highest : Int

namespace CIntType

def int32 : CIntType := { lowest := -2147483648, highest := 2147483647 }

def int64 : CIntType := { lowest := -9223372036854775808, highest := 9223372036854775807 }

def uint64 : CIntType := { lowest := 0, highest := 18446744073709551615 }

variable (type : CIntType)

def Holds (value : Int) : Prop := type.lowest ≤ value ∧ value ≤ type.highest

instance (value : Int) : Decidable (type.Holds value) :=
  inferInstanceAs (Decidable (_ ∧ _))

def fit (value : Int) : Option Int :=
  if type.Holds value then some value else none

def add (left right : Int) : Option Int := type.fit (left + right)

def sub (left right : Int) : Option Int := type.fit (left - right)

def mul (left right : Int) : Option Int := type.fit (left * right)

/-- Division truncates toward zero. -/
def div (left right : Int) : Option Int :=
  if right = 0 then none else type.fit (left.tdiv right)

/-- Conversion to `int`, which keeps the value modulo the size of the type. -/
def toInt32 (value : Int) : Int := value.bmod (2 ^ 32)

variable {type}

@[simp] theorem fit_eq_some_iff {value result : Int} :
    type.fit value = some result ↔ type.Holds value ∧ value = result := by
  simp [fit]

theorem fit_of_holds {value : Int} (h : type.Holds value) : type.fit value = some value :=
  if_pos h

theorem add_of_holds {left right : Int} (h : type.Holds (left + right)) :
    type.add left right = some (left + right) :=
  fit_of_holds h

theorem sub_of_holds {left right : Int} (h : type.Holds (left - right)) :
    type.sub left right = some (left - right) :=
  fit_of_holds h

theorem mul_of_holds {left right : Int} (h : type.Holds (left * right)) :
    type.mul left right = some (left * right) :=
  fit_of_holds h

theorem div_of_holds {left right : Int} (hright : right ≠ 0)
    (h : type.Holds (left.tdiv right)) : type.div left right = some (left.tdiv right) := by
  rw [div, if_neg hright, fit_of_holds h]

theorem holds_int32_iff {value : Int} :
    int32.Holds value ↔ -2147483648 ≤ value ∧ value ≤ 2147483647 := Iff.rfl

theorem holds_int64_iff {value : Int} :
    int64.Holds value ↔ -9223372036854775808 ≤ value ∧ value ≤ 9223372036854775807 := Iff.rfl

theorem holds_uint64_iff {value : Int} :
    uint64.Holds value ↔ 0 ≤ value ∧ value ≤ 18446744073709551615 := Iff.rfl

theorem toInt32_eq_iff {value : Int} : toInt32 value = value ↔ int32.Holds value := by
  rw [toInt32, holds_int32_iff, Int.bmod_def]
  split
  · omega
  · omega

end CIntType

/-- Unsigned addition, with no result where it would wrap. -/
def checkedAdd (left right : UInt64) : Option UInt64 :=
  if left.toNat + right.toNat < 2 ^ 64 then some (left + right) else none

theorem checkedAdd_of_lt {left right : UInt64} (h : left.toNat + right.toNat < 2 ^ 64) :
    checkedAdd left right = some (left + right) :=
  if_pos h

end VitaLinuxPort
