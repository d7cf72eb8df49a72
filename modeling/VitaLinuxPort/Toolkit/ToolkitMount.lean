import VitaLinuxPort.Lib.Text
import VitaLinuxPort.Machine

/-!
# Mounting the toolkit payload

`toolkit/bin/vita-toolkit-mount`: its arguments, the paths it accepts, how it finds its target in the
mount table, and what it asks of `mkdir`, `mount` and `umount`. The table is its lines; the files and the
three programs are oracles.
-/

namespace VitaLinuxPort

namespace ToolkitMount

/-! ### Paths and the mount table -/

/-- `[A-Za-z0-9_./:-]`. -/
def allowed (c : Char) : Bool := c.isAlphanum || c ∈ ['_', '.', '/', ':', '-']

def systemDirs : List CString :=
  ["/".toList, "/dev".toList, "/proc".toList, "/sys".toList, "/run".toList, "/etc".toList,
    "/bin".toList, "/sbin".toList, "/usr".toList, "/var".toList, "/home".toList]

/-- The three patterns, in their order. -/
def validPath (path : CString) : Bool :=
  if path.head? ≠ some '/' then false
  else if ['.', '.'] <:+: path ∨ ¬ path.all allowed then false
  else if path ∈ systemDirs then false
  else true

/-- What `awk` cuts a line at. -/
def blank (c : Char) : Bool := c = ' ' || c = '\t'

/-- `$k` of a line, empty where the line has fewer words. -/
def field (line : CString) (k : Nat) : CString := (Text.words blank line).getD (k - 1) []

/-- The sources that are printed, `none` where `awk` exits with 1. -/
def mountedSource (table : List CString) (target : CString) : Option (List CString) :=
  match table.filter fun line => field line 2 = target with
  | [] => none
  | found => some (found.map fun line => field line 1)

/-! ### Arguments -/

inductive SourceKind where
  | device
  | file
  deriving DecidableEq

structure Options where
  source : CString
  sourceKind : Option SourceKind
  target : CString
  machine : Bool
  unmount : Bool
  deriving DecidableEq

def defaults : Options where
  source := []
  sourceKind := none
  target := "/opt/vita-toolkit".toList
  machine := false
  unmount := false

inductive Parsed where
  | options (o : Options)
  | help
  | usage
  deriving DecidableEq

/-- The loop over the arguments; a second source is refused. -/
def parseArgs (o : Options) : List CString → Parsed
  | [] => .options o
  | arg :: rest =>
      if arg = "--unmount".toList then parseArgs { o with unmount := true } rest
      else if arg = "--machine".toList then parseArgs { o with machine := true } rest
      else if arg = "-h".toList ∨ arg = "--help".toList then .help
      else
        match rest with
        | [] => .usage
        | value :: rest =>
            if arg = "--device".toList ∧ o.sourceKind = none then
              parseArgs { o with source := value, sourceKind := some .device } rest
            else if arg = "--file".toList ∧ o.sourceKind = none then
              parseArgs { o with source := value, sourceKind := some .file } rest
            else if arg = "--target".toList then parseArgs { o with target := value } rest
            else .usage

/-! ### The run -/

/-- The mount table, the file `procMounts`, is `none` where it cannot be read; the three programs answer
whether they succeed. -/
structure World where
  procMounts : CString
  mounts : Option (List CString)
  isFile : CString → Bool
  isPresent : CString → Bool
  isDir : CString → Bool
  makeDir : CString → Bool
  mount : (options source target : CString) → Bool
  unmount : CString → Bool

inductive Command where
  | makeDir (dir : CString)
  | mount (options source target : CString)
  | unmount (target : CString)
  deriving DecidableEq

/-- The directory that a command works on. -/
def Command.target : Command → CString
  | .makeDir dir => dir
  | .mount _ _ target => target
  | .unmount target => target

/-- How the script ends: with status 2, with 0 and its usage, with a message and 1, or with the report's
keys and values and 0. -/
inductive Outcome where
  | usage
  | help
  | failed (message : CString)
  | reported (pairs : List (CString × CString))
  deriving DecidableEq

/-- `$(mounted_source)`: one source a line. -/
def current (sources : List CString) : CString := ['\n'].intercalate sources

def reportCurrent (status : CString) (o : Options) (sources : List CString) : Outcome :=
  .reported [("status".toList, status), ("target".toList, o.target),
    ("source".toList, current sources)]

section Run

variable (w : World) (o : Options) (table : List CString)

def unmountTarget : List Command × Outcome :=
  match mountedSource table o.target with
  | none => ([], .failed ("target is not mounted: ".toList ++ o.target))
  | some sources =>
      ([.unmount o.target],
        if w.unmount o.target then reportCurrent "unmounted".toList o sources
        else .failed ("unmount failed: ".toList ++ o.target))

def mountOptions : CString :=
  if o.sourceKind = some .file then "loop,ro,nosuid,nodev".toList else "ro,nosuid,nodev".toList

def sourceType : CString :=
  match o.sourceKind with
  | none => []
  | some .device => "device".toList
  | some .file => "file".toList

def mountSource : List Command × Outcome :=
  let mkdir := Command.makeDir o.target
  let mount := Command.mount (mountOptions o) o.source o.target
  if !w.makeDir o.target then
    ([mkdir], .failed ("cannot create mountpoint: ".toList ++ o.target))
  else if !w.isDir o.target then
    ([mkdir], .failed ("mountpoint is not a directory: ".toList ++ o.target))
  else if !w.mount (mountOptions o) o.source o.target then
    ([mkdir, mount], .failed "mount failed".toList)
  else
    ([mkdir, mount],
      .reported [("status".toList, "mounted".toList), ("target".toList, o.target),
        ("source".toList, o.source), ("source_type".toList, sourceType o),
        ("filesystem".toList, "squashfs".toList), ("options".toList, mountOptions o)])

/-- The run once its arguments are read. -/
def run : List Command × Outcome :=
  if !validPath o.target then ([], .failed ("unsafe mount target: ".toList ++ o.target))
  else
    match w.mounts with
    | none => ([], .failed ("cannot read mount table: ".toList ++ w.procMounts))
    | some table =>
        if o.unmount then unmountTarget w o table
        else if o.source = [] then
          ([], .failed
            "--device or --file is required; automatic discovery is disabled".toList)
        else if !validPath o.source then
          ([], .failed ("unsafe device or image path: ".toList ++ o.source))
        else if o.sourceKind = some .file ∧ !w.isFile o.source then
          ([], .failed ("SquashFS image file does not exist: ".toList ++ o.source))
        else if o.sourceKind ≠ some .file ∧ !w.isPresent o.source then
          ([], .failed ("SquashFS device does not exist: ".toList ++ o.source))
        else
          match mountedSource table o.target with
          | some sources => ([], reportCurrent "already_mounted".toList o sources)
          | none => mountSource w o

end Run

def vitaToolkitMount (w : World) (args : List CString) : List Command × Outcome :=
  match parseArgs defaults args with
  | .help => ([], .help)
  | .usage => ([], .usage)
  | .options o => run w o

end ToolkitMount

end VitaLinuxPort
