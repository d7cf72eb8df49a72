import VitaLinuxPort.Lib.Text
import VitaLinuxPort.Machine

/-!
# The inventory of removable storage

`toolkit/bin/vita-storage`: the record that it makes of each removable partition, how it packs the records
into one text, and how it takes them out of it again to print them. What sysfs, `blkid` and the mount table
say are oracles; so is what a word matches where the shell takes it for a pattern.
-/

namespace VitaLinuxPort

namespace VitaStorage

/-- `partitions` are the names of the entries of `class/block` that are partitions, and `realEntry` is where
they lead to, empty where `readlink` fails. `removable` is the flag of a disk without its white space,
`blkid` what the program prints of a device, and `mounts` the lines of the mount table. -/
structure World where
  devRoot : CString
  partitions : List CString
  realEntry : CString → CString
  removable : CString → CString
  isPresent : CString → Bool
  blkid : CString → CString
  mounts : List CString

/-! ### A record -/

/-- `NAME="\([^"]*\)"` at the beginning of a text, without what stands around the group. -/
def valueAt (name text : CString) : Option CString :=
  if name ++ ['=', '"'] <+: text then
    let rest := text.drop (name.length + 2)
    if '"' ∈ rest then some (rest.takeWhile (· ≠ '"')) else none
  else none

/-- `s/.*NAME="\([^"]*\)".*/\1/p` of one line: `.*` takes as much as it can. -/
def sedValue (name line : CString) : Option CString := Text.lastMatch (valueAt name) line

/-- What is left of an output in `$(…)`. -/
def substituted (output : CString) : CString := Text.dropTrailing '\n' output

/-- `$(printf '%s\n' "$info" | sed …)`. -/
def extracted (name info : CString) : CString :=
  substituted (['\n'].intercalate ((info.splitOn '\n').filterMap (sedValue name)))

/-- `[ -n "$value" ] || value=UNKNOWN`. -/
def known (value : CString) : CString := if value = [] then "UNKNOWN".toList else value

/-- The eight fields. -/
structure Fields where
  device : CString
  parent : CString
  removable : CString
  filesystem : CString
  label : CString
  uuid : CString
  mounted : CString
  mountpoint : CString
  deriving DecidableEq

def Fields.toList (f : Fields) : List CString :=
  [f.device, f.parent, f.removable, f.filesystem, f.label, f.uuid, f.mounted, f.mountpoint]

/-- `$1` to `$8`; the script stops at one that is not set (`set -u`). -/
def Fields.ofList : List CString → Option Fields
  | device :: parent :: removable :: filesystem :: label :: uuid :: mounted :: mountpoint :: _ =>
      some { device, parent, removable, filesystem, label, uuid, mounted, mountpoint }
  | _ => none

/-- What `awk` cuts a line at. -/
def blank (c : Char) : Bool := c = ' ' || c = '\t'

/-- `$k` of a line, empty where the line has fewer words. -/
def field (line : CString) (k : Nat) : CString := (Text.words blank line).getD (k - 1) []

section Inventory

variable (w : World)

/-- `mountpoint` as `awk` prints it: the second word of the first line about the device. -/
def mountpoint (device : CString) : CString :=
  match w.mounts.find? fun line => field line 1 = device with
  | none => []
  | some line => field line 2

/-- The disk of a partition. -/
def parent (name : CString) : CString :=
  Text.afterLast '/' (Text.beforeLast '/' (w.realEntry name))

/-- The tests in the body of the loop. -/
def isListed (name : CString) : Bool :=
  w.realEntry name ≠ [] ∧ w.removable (parent w name) = ['1'] ∧
    w.isPresent (w.devRoot ++ '/' :: name)

/-- The record of a partition, of which `blkid` printed the three attributes. -/
def fieldsOf (name filesystem label uuid : CString) : Fields :=
  let device := "/dev/".toList ++ name
  { device, parent := "/dev/".toList ++ parent w name, removable := w.removable (parent w name),
    filesystem := known filesystem, label := known label, uuid := known uuid,
    mounted := if mountpoint w device = [] then ['0'] else ['1'],
    mountpoint := if mountpoint w device = [] then "NONE".toList else mountpoint w device }

def record (name : CString) : Fields :=
  let info := substituted (w.blkid (w.devRoot ++ '/' :: name))
  fieldsOf w name (extracted "TYPE".toList info) (extracted "LABEL".toList info)
    (extracted "UUID".toList info)

/-- All the records, before they are packed. -/
def records : List Fields := (w.partitions.filter (isListed w)).map (record w)

end Inventory

/-! ### Packing and printing -/

def Fields.text (f : Fields) : CString := ['|'].intercalate f.toList

/-- `records`. -/
def packed (records : List Fields) : CString := ['\n'].intercalate (records.map Fields.text)

/-- What follows the negation of a bracket expression, where it has one. -/
def afterNegation : CString → CString
  | '!' :: text => text
  | '^' :: text => text
  | text => text

/-- What follows a `[` ends a bracket expression: a character or more and a `]`, before any slash. -/
def closesBracket (text : CString) : Bool :=
  match afterNegation text with
  | [] => false
  | c :: rest => c ≠ '/' && ']' ∈ rest.takeWhile (· ≠ '/')

/-- The shell takes the word for a pattern. -/
def isPattern : CString → Bool
  | [] => false
  | c :: rest => c = '*' || c = '?' || (c = '[' && closesBracket rest) || isPattern rest

section Output

variable (found : CString → List CString)

/-- Pathname expansion, where `found` are the files that a pattern matches. -/
def expand (word : CString) : List CString :=
  if isPattern word then
    match found word with
    | [] => [word]
    | names => names
  else [word]

/-- `set -- $record` with `IFS='|'`, and the eight parameters after it. -/
def printRecord (word : CString) : Option Fields :=
  Fields.ofList ((Text.lines '|' word).flatMap (expand found))

/-- The fields that are printed for each word of `$records`, `none` where the script stops. -/
def printed (records : List Fields) : Option (List Fields) :=
  ((Text.words (· = '\n') (packed records)).flatMap (expand found)).mapM (printRecord found)

/-- The lines of a record. -/
def recordLines (index : Nat) (f : Fields) : List CString :=
  let line (key value : CString) : CString :=
    "storage_".toList ++ Nat.toDigits 10 index ++ '_' :: key ++ '=' :: value
  [line "device".toList f.device, line "parent".toList f.parent,
    line "removable".toList f.removable, line "filesystem".toList f.filesystem,
    line "label".toList f.label, line "uuid".toList f.uuid, line "mounted".toList f.mounted,
    line "mountpoint".toList f.mountpoint]

/-- `vita-storage --machine`. -/
def vitaStorage (w : World) : Option (List CString) :=
  (printed found (records w)).map fun fields =>
    "schema=1".toList :: ("storage_count=".toList ++ Nat.toDigits 10 (records w).length) ::
      (fields.zipIdx 1).flatMap fun (f, index) => recordLines index f

end Output

end VitaStorage

end VitaLinuxPort
