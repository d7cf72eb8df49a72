import Mathlib.Data.List.Infix
import VitaLinuxPort.Lib.Python
import VitaLinuxPort.Machine

/-!
# Taking the initramfs out of the kernel

`tools/lib/vita-extract-initramfs.py`, from what `readelf` and `nm` print about a kernel. The patterns
that find a line's fields are not modelled: a line that matches is the record of its fields.
-/

namespace VitaLinuxPort

namespace Initramfs

inductive ByteOrder where
  | little
  | big
  deriving DecidableEq

/-- A section of the file, and the addresses it has in memory. -/
structure Section where
  name : CString
  addr : Nat
  off : Nat
  size : Nat
  deriving DecidableEq

/-- A line of `readelf -S -W`. -/
structure SectionLine extends Section where
  type : CString
  deriving DecidableEq

/-- A line of `nm`. -/
structure SymbolLine where
  value : Nat
  name : CString
  deriving DecidableEq

/-- The kernel: what the tools print about it, and the file. -/
structure Kernel where
  header : CString
  symbolLines : List SymbolLine
  sectionLines : List SectionLine
  data : List UInt8
  deriving DecidableEq

/-- What the script writes and prints, without the hash. -/
structure Extraction where
  startAddr : Nat
  startSection : Section
  sizeAddr : Nat
  sizeSection : Section
  endianness : ByteOrder
  size : Nat
  blob : List UInt8
  deriving DecidableEq

def fail {α : Type} (text : String) : Except CString α :=
  .error ("vita-extract-initramfs: " ++ text).toList

/-- `%x`. -/
def hex (n : Nat) : String := .ofList (Nat.toDigits 16 n)

def startSymbol : CString := "__initramfs_start".toList

def sizeSymbol : CString := "__initramfs_size".toList

def findSymbolAddr (lines : List SymbolLine) (name : CString) : Except CString Nat :=
  match lines.find? (·.name = name) with
  | some line => .ok line.value
  | none => fail ("symbol not found: " ++ .ofList name)

/-- The sections that are in the file. -/
def listSections (lines : List SectionLine) : List Section :=
  (lines.filter (·.type ≠ "NOBITS".toList)).map (·.toSection)

def Section.Contains (sec : Section) (addr : Nat) : Prop :=
  sec.addr ≤ addr ∧ addr < sec.addr + sec.size

instance (sec : Section) (addr : Nat) : Decidable (sec.Contains addr) :=
  inferInstanceAs (Decidable (_ ∧ _))

def sectionContaining (sections : List Section) (addr : Nat) : Option Section :=
  sections.find? (·.Contains addr)

/-- The section of a symbol, or the end of the script. -/
def sectionOf (sections : List Section) (symbol : CString) (addr : Nat) : Except CString Section :=
  match sectionContaining sections addr with
  | some sec => .ok sec
  | none => fail ("no ELF section contains " ++ .ofList symbol ++ " (0x" ++ hex addr ++ ")")

def checkEndianness (header : CString) : Except CString ByteOrder :=
  let lower := header.map Char.toLower
  if "little endian".toList <:+: lower then .ok .little
  else if "big endian".toList <:+: lower then .ok .big
  else fail "could not determine ELF endianness"

def fromBytes (byteorder : ByteOrder) (bytes : List UInt8) : Nat :=
  match byteorder with
  | .little => Python.fromBytesLittle bytes
  | .big => Python.fromBytesBig bytes

/-- Where the section table puts an address in the file. -/
def Section.fileOff (sec : Section) (addr : Nat) : Nat := sec.off + (addr - sec.addr)

/-- The next `length` bytes of the file, all of them. -/
def readAll (data : List UInt8) (off length : Nat) (what : String) : Except CString (List UInt8) :=
  let bytes := Python.slice data off (off + length)
  if bytes.length ≠ length then fail ("truncated read of " ++ what) else .ok bytes

def main (kernel : Kernel) : Except CString Extraction := do
  let endianness ← checkEndianness kernel.header
  let startAddr ← findSymbolAddr kernel.symbolLines startSymbol
  let sizeAddr ← findSymbolAddr kernel.symbolLines sizeSymbol
  let sections := listSections kernel.sectionLines
  let startSection ← sectionOf sections startSymbol startAddr
  let sizeSection ← sectionOf sections sizeSymbol sizeAddr
  let sizeBytes ← readAll kernel.data (sizeSection.fileOff sizeAddr) 4 "__initramfs_size"
  let size := fromBytes endianness sizeBytes
  if size ≤ 0 ∨ kernel.data.length < size then
    fail ("implausible __initramfs_size value: " ++ toString size)
  else
    let blob ← readAll kernel.data (startSection.fileOff startAddr) size "initramfs blob"
    return { startAddr, startSection, sizeAddr, sizeSection, endianness, size, blob }

end Initramfs

end VitaLinuxPort
