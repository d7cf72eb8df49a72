import VitaLinuxPort.Lib.Text
import VitaLinuxPort.Tools.Manifest

/-!
# The listing of the rootfs archive

What `console_check` of `tools/vita-manifest.sh` reads: the lines of `cpio -itv`, one for each entry of the
archive, and the filters that choose a line by its last word and take the mode and the device numbers from
it.
-/

namespace VitaLinuxPort

namespace Manifest

/-! ### What `cpio` prints -/

/-- `[[:space:]]`. -/
def isSpace (c : Char) : Bool := c = ' ' || 9 ≤ c.toNat && c.toNat ≤ 13

/-- A name or a number among the columns, which has no blanks and no commas. -/
structure Column where
  text : CString
  ne_nil : text ≠ []
  plain : ∀ c ∈ text, c ≠ ',' ∧ isSpace c = false

/-- What an entry is besides a device and a link. -/
inductive Kind where
  | regular
  | directory
  | fifo
  | socket
  | unknown
  deriving DecidableEq

inductive DeviceKind where
  | char
  | block
  deriving DecidableEq

inductive Node where
  | plain (kind : Kind) (size : Nat)
  | symlink (size : Nat) (target : CString)
  | device (kind : DeviceKind) (major minor : Nat)
  deriving DecidableEq

/-- The first character of the mode. -/
def Node.letter : Node → Char
  | .plain .regular _ => '-'
  | .plain .directory _ => 'd'
  | .plain .fifo _ => 'p'
  | .plain .socket _ => 's'
  | .plain .unknown _ => '?'
  | .symlink _ _ => 'l'
  | .device .char _ _ => 'c'
  | .device .block _ _ => 'b'

/-- `%<width>lu`. -/
def padLeft (width n : Nat) : CString :=
  List.replicate (width - (Nat.toDigits 10 n).length) ' ' ++ Nat.toDigits 10 n

/-- `%-8.8s`. -/
def padRight (text : CString) : CString :=
  text.take 8 ++ List.replicate (8 - text.length) ' '

/-- The column of the size or of the device numbers. -/
def Node.numbers : Node → CString
  | .plain _ size => padLeft 8 size
  | .symlink size _ => padLeft 8 size
  | .device _ major minor => padLeft 3 major ++ ',' :: ' ' :: padLeft 3 minor

def Node.arrow : Node → CString
  | .symlink _ target => " -> ".toList ++ target
  | _ => []

/-- An entry, whose texts are on one line. -/
structure Entry where
  node : Node
  permissions : Column
  links : Nat
  owner : Column
  group : Column
  date : CString
  path : CString
  one_line : '\n' ∉ date ++ path ++ node.arrow

/-- The mode of an entry. -/
def Entry.mode (e : Entry) : CString := e.node.letter :: e.permissions.text

/-- The columns before the numbers. -/
def Entry.columns (e : Entry) : CString :=
  e.mode ++ ' ' :: (padLeft 3 e.links ++ ' ' :: (padRight e.owner.text ++ ' ' ::
    (padRight e.group.text ++ [' '])))

def Entry.line (e : Entry) : CString :=
  e.columns ++ (e.node.numbers ++ ' ' :: (e.date ++ ' ' :: (e.path ++ e.node.arrow)))

/-! ### What the script reads of it -/

/-- What `awk` cuts a line at. -/
def blank (c : Char) : Bool := c = ' ' || c = '\t'

/-- `$NF == "dev/console" || $NF ~ /\/dev\/console$/`. -/
def isConsoleLine (line : CString) : Bool :=
  let last := (Text.words blank line).getLastD []
  last = "dev/console".toList ∨ "/dev/console".toList <:+ last

/-- `[0-9]+,[[:space:]]*[0-9]+` at the beginning of a text. -/
def numberPair (text : CString) : Option CString :=
  let major := text.takeWhile Char.isDigit
  match text.dropWhile Char.isDigit with
  | ',' :: rest =>
      let minor := (rest.dropWhile isSpace).takeWhile Char.isDigit
      if major = [] ∨ minor = [] then none
      else some (major ++ ',' :: (rest.takeWhile isSpace ++ minor))
  | _ => none

/-- `perm`, of all the lines. -/
def perm (lines : List CString) : CString :=
  ['\n'].intercalate (lines.map fun line => (Text.words blank line).headD [])

/-- `majmin`: the first match on the first line that has one, without its spaces. -/
def majmin (lines : List CString) : CString :=
  ((lines.findSome? (Text.firstMatch numberPair)).getD []).filter (· ≠ ' ')

/-- `listing` is `none` where the archive cannot be listed. -/
def inspect (listing : Option (List Entry)) : Archive :=
  match listing with
  | none => .unlisted
  | some entries =>
      match (entries.map Entry.line).filter isConsoleLine with
      | [] => .missing
      | lines => .console (perm lines) (majmin lines)

end Manifest

end VitaLinuxPort
