import VitaLinuxPort.Lib.CInt
import VitaLinuxPort.Toolkit.VitaControl

/-!
# `vita-inputwatch`

How `toolkit/share/vita-inputwatch.c` reads the duration it is given, and what each turn of its loop
makes of it and of the clock before it polls. An `unsigned long` is as wide as a `size_t`.
-/

namespace VitaLinuxPort

section Arguments

variable [Target]

/-- What `strtoul` leaves, as in `StrtoullResult`. -/
structure StrtoulResult where
  value : Nat
  errno : Bool
  rest : Option CString

/-- `strtoul(text, &end, 10)`. -/
def strtoul (text : CString) : StrtoulResult :=
  let number := text.dropWhile isSpace
  let unsigned := if number.head? = some '-' ∨ number.head? = some '+' then number.tail else number
  let digits := unsigned.takeWhile Char.isDigit
  let magnitude := Nat.ofDigitChars 10 digits 0
  if digits = [] then ⟨0, false, none⟩
  else if 2 ^ Target.sizeBits ≤ magnitude then
    ⟨2 ^ Target.sizeBits - 1, true, some (unsigned.dropWhile Char.isDigit)⟩
  else
    ⟨if number.head? = some '-' then sizeSub 0 magnitude else magnitude, false,
      some (unsigned.dropWhile Char.isDigit)⟩

def parsePositive (text : CString) : Option UInt32 :=
  if text = [] then none
  else
    let parsed := strtoul text
    if parsed.errno ∨ parsed.rest ≠ some [] ∨ parsed.value > 4294967295 then none
    else some (.ofNat parsed.value)

end Arguments

/-- What the monotonic clock reads. -/
structure Timespec where
  sec : Int
  nsec : Int
  sec_nonneg : 0 ≤ sec
  sec_le : sec ≤ 9223372036854775807
  nsec_nonneg : 0 ≤ nsec
  nsec_lt : nsec < 1000000000

def Timespec.nanoseconds (time : Timespec) : Int := time.sec * 1000000000 + time.nsec

open CIntType

/-- `elapsed_ms`, where the clock may fail to be read. -/
def elapsedMs (start : Timespec) (now : Option Timespec) : Option Int :=
  match now with
  | none => some 0
  | some now => do
      let seconds ← int64.sub now.sec start.sec
      let nanoseconds := now.nsec - start.nsec
      let milliseconds ← int64.mul seconds 1000
      let elapsed ← int64.add milliseconds (nanoseconds.tdiv 1000000)
      return toInt32 elapsed

def remaining (durationMs : UInt32) (start : Timespec) (now : Option Timespec) : Option Int := do
  int32.sub (toInt32 durationMs.toNat) (← elapsedMs start now)

/-- What a turn of the loop does first. -/
inductive WatchTurn where
  | ended (status : Nat)
  | poll (timeout : Int)
  deriving DecidableEq, Repr

/-- A turn of the loop up to its `poll`. -/
def watchTurn (durationMs maxEvents eventsSeen : UInt32) (start : Timespec)
    (now : Option Timespec) : Option WatchTurn := do
  let remaining ← remaining durationMs start now
  return if maxEvents > 0 ∧ eventsSeen ≥ maxEvents then .ended 0
    else if remaining ≤ 0 then .ended 1
    else .poll remaining

end VitaLinuxPort
