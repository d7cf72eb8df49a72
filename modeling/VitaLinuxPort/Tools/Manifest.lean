import VitaLinuxPort.Lib.Checklist
import VitaLinuxPort.Machine

/-!
# The deploy manifest

`tools/vita-manifest.sh`: its arguments, its ten sections of checks and its exit status. The files and
the programs it runs are oracles that answer the same all along; any command whose failure ends the
script (`set -e`) may fail. The facts of the manifest and the details of the checks go to the report
only: a fact is a call that may fail, a check its name and its status.
-/

namespace VitaLinuxPort

namespace Manifest

open Checklist

/-- What `sha256sum` prints first, which is not empty. -/
structure Digest where
  text : CString
  nonempty : text ≠ []
  deriving DecidableEq

/-- How the extractor ends: it fails, what it prints is no record with a hash and a size, or the hash
of the embedded initramfs. -/
inductive Extraction where
  | failed
  | unreadable
  | found (sha256 : CString)
  deriving DecidableEq

/-- What listing an archive gives: nothing, no `dev/console`, or its mode and its numbers. -/
inductive Archive where
  | unlisted
  | missing
  | console (perm majmin : CString)
  deriving DecidableEq

/-- The files, the programs and the target. `size`, `mode` and `sha256` are `none` where the program
fails; `succeeds k` is how the call number `k` of the script ends. -/
structure World where
  pwd : CString
  workdir : CString
  isDir : CString → Bool
  isFile : CString → Bool
  lines : CString → List CString
  size : CString → Option Nat
  mode : CString → Option CString
  sha256 : CString → Option Digest
  insideWorkTree : CString → Bool
  head : CString → Option CString
  porcelain : CString → List CString
  tracked : CString → List CString
  dtc : CString → Bool
  extract : (vmlinux nm readelf : CString) → Extraction
  archive : CString → Archive
  remoteSha256 : (user host path : CString) → Option CString
  succeeds : Nat → Bool

/-- The variables that the arguments set. -/
structure Options where
  kernelDir : CString
  outerDir : CString
  models : CString
  payload : CString
  kplugin : CString
  rootfsSource : CString
  expectRootfsSha256 : CString
  stagedDtbs : List CString
  readbackDir : CString
  remoteHost : CString
  remoteReadbackLive : Bool
  remoteSshUser : CString
  remoteZimagePath : CString
  remoteDtbPath : CString
  bootLog : CString
  targetModel : CString
  targetFirmware : CString
  minZimageBytes : CString
  dirtyAllowlist : CString
  outJson : CString
  nmBin : CString
  readelfBin : CString
  deriving DecidableEq

def defaults (pwd : CString) : Options where
  kernelDir := []
  outerDir := pwd
  models := "pstv".toList
  payload := []
  kplugin := []
  rootfsSource := []
  expectRootfsSha256 := []
  stagedDtbs := []
  readbackDir := []
  remoteHost := []
  remoteReadbackLive := false
  remoteSshUser := "root".toList
  remoteZimagePath := "ux0:/linux/zImage".toList
  remoteDtbPath := []
  bootLog := []
  targetModel := []
  targetFirmware := []
  minZimageBytes := "20971520".toList
  dirtyAllowlist := []
  outJson := []
  nmBin := "nm".toList
  readelfBin := "readelf".toList

/-- The options that take a value. -/
def valueOptions : List (CString × (Options → CString → Options)) :=
  [("--kernel-dir".toList, fun o value => { o with kernelDir := value }),
    ("--outer-dir".toList, fun o value => { o with outerDir := value }),
    ("--model".toList, fun o value => { o with models := value }),
    ("--payload".toList, fun o value => { o with payload := value }),
    ("--kplugin".toList, fun o value => { o with kplugin := value }),
    ("--rootfs-source".toList, fun o value => { o with rootfsSource := value }),
    ("--expect-rootfs-sha256".toList, fun o value => { o with expectRootfsSha256 := value }),
    ("--staged-dtb".toList, fun o value => { o with stagedDtbs := o.stagedDtbs ++ [value] }),
    ("--dirty-allowlist".toList, fun o value => { o with dirtyAllowlist := value }),
    ("--out".toList, fun o value => { o with outJson := value }),
    ("--target-model".toList, fun o value => { o with targetModel := value }),
    ("--target-firmware".toList, fun o value => { o with targetFirmware := value }),
    ("--boot-log".toList, fun o value => { o with bootLog := value }),
    ("--readback-dir".toList, fun o value => { o with readbackDir := value }),
    ("--remote-host".toList, fun o value => { o with remoteHost := value }),
    ("--remote-ssh-user".toList, fun o value => { o with remoteSshUser := value }),
    ("--remote-zimage-path".toList, fun o value => { o with remoteZimagePath := value }),
    ("--remote-dtb-path".toList, fun o value => { o with remoteDtbPath := value }),
    ("--min-zimage-bytes".toList, fun o value => { o with minZimageBytes := value }),
    ("--nm".toList, fun o value => { o with nmBin := value }),
    ("--readelf".toList, fun o value => { o with readelfBin := value })]

inductive Parsed where
  | options (o : Options)
  | help
  | usage
  deriving DecidableEq

/-- The loop over the arguments. -/
def parseArgs (o : Options) : List CString → Parsed
  | [] => .options o
  | arg :: rest =>
      if arg = "--remote-readback-live".toList then
        parseArgs { o with remoteReadbackLive := true } rest
      else if arg = "-h".toList ∨ arg = "--help".toList then .help
      else
        match valueOptions.lookup arg, rest with
        | some set, value :: rest => parseArgs (set o value) rest
        | _, _ => .usage

def record (name : List CString) (status : Status) : List (Step CString) :=
  [.check { name := name.flatten, status }, .call]

section Sections

variable (w : World) (o : Options)

/-- Both calls of `git_state`. `comm -23` leaves the entries that the allowlist does not have. -/
def gitState (dir label : CString) : List (Step CString) :=
  if !w.insideWorkTree dir then record ["git:".toList, label] .fail ++ [.call]
  else
    orAbort (w.head dir) fun _ =>
      let dirty := w.porcelain dir
      [.call, .call] ++
        if dirty = [] then
          [.call, .call] ++ record ["git:".toList, label, ":clean".toList] .pass
        else
          let unexplained :=
            if o.dirtyAllowlist ≠ [] ∧ w.isFile o.dirtyAllowlist then
              dirty.diff (w.lines o.dirtyAllowlist)
            else dirty
          [.call, .call, .call] ++
            record ["git:".toList, label, ":clean".toList]
              (if unexplained = [] then .pass else .fail)

def overlayDir : CString := o.outerDir ++ "/buildroot-vita/board/vita/local".toList

def requiredFiles : List CString :=
  ["etc/wpa_supplicant.conf".toList, "root/.ssh/authorized_keys".toList,
    "etc/ssh/ssh_host_ed25519_key".toList, "etc/ssh/ssh_host_ed25519_key.pub".toList,
    "etc/ssh/ssh_host_rsa_key".toList, "etc/ssh/ssh_host_rsa_key.pub".toList,
    "etc/ssh/ssh_host_ecdsa_key".toList, "etc/ssh/ssh_host_ecdsa_key.pub".toList]

def privateKeys : List CString :=
  ["etc/ssh/ssh_host_ed25519_key".toList, "etc/ssh/ssh_host_rsa_key".toList,
    "etc/ssh/ssh_host_ecdsa_key".toList]

def requiredFile (rel : CString) : List (Step CString) :=
  let path := overlayDir o ++ "/".toList ++ rel
  if !w.isFile path then record ["overlay:file:".toList, rel] .fail
  else
    orAbort (w.size path) fun size =>
      if size ≤ 0 then record ["overlay:file:".toList, rel] .fail
      else [.call, .call] ++ record ["overlay:file:".toList, rel] .pass

def privateKey (rel : CString) : List (Step CString) :=
  let path := overlayDir o ++ "/".toList ++ rel
  if !w.isFile path then []
  else
    orAbort (w.mode path) fun mode =>
      record ["overlay:mode:".toList, rel] (if mode ≠ "600".toList then .fail else .pass)

/-- The tracked files of the overlay but for its `.gitignore` and `README.md`. -/
def trackedSecret : List CString :=
  (w.tracked o.outerDir).filter fun line =>
    !(line.isEmpty || "/.gitignore".toList.isSuffixOf line || "/README.md".toList.isSuffixOf line)

def overlayCheck : List (Step CString) :=
  if !w.isDir (overlayDir o) then record ["overlay:present".toList] .fail
  else
    record ["overlay:present".toList] .pass ++ requiredFiles.flatMap (requiredFile w o) ++
      privateKeys.flatMap (privateKey w o) ++
      record ["overlay:not-committed".toList]
        (if trackedSecret w o ≠ [] then .fail else .pass) ++
      [.call]

def zimage : CString := o.kernelDir ++ "/arch/arm/boot/zImage".toList

def configFile : CString := o.kernelDir ++ "/.config".toList

/-- What `grep -m1` and `sed` find between the quotes. -/
def initramfsSource (lines : List CString) : CString :=
  let key := "CONFIG_INITRAMFS_SOURCE=".toList
  match lines.find? key.isPrefixOf with
  | none => []
  | some line =>
      let quoted := line.drop key.length
      if 2 ≤ quoted.length ∧ quoted.head? = some '"' ∧ quoted.getLast? = some '"' then
        quoted.tail.dropLast
      else []

/-- A number as `[` reads it, `none` where it says that an integer is expected. -/
def shellInteger (text : CString) : Option Int :=
  let trimmed := ((text.dropWhile Char.isWhitespace).reverse.dropWhile Char.isWhitespace).reverse
  let (sign, digits) : Int × CString := match trimmed with
    | '-' :: digits => (-1, digits)
    | '+' :: digits => (1, digits)
    | digits => (1, digits)
  if digits ≠ [] ∧ digits.all Char.isDigit then
    let value := sign * digits.foldl (fun value c => value * 10 + (c.toNat - '0'.toNat : Nat)) 0
    if -0x8000000000000000 ≤ value ∧ value < 0x8000000000000000 then some value else none
  else none

/-- `[ "$size" -lt "$MIN_ZIMAGE_BYTES" ]`, which is false where that is no integer. -/
def belowFloor (size : Nat) : Bool :=
  match shellInteger o.minZimageBytes with
  | none => false
  | some floor => (size : Int) < floor

def zimageGate : List (Step CString) :=
  if !w.isFile (zimage o) then record ["zimage:present".toList] .fail
  else
    orAbort (w.size (zimage o)) fun size => orAbort (w.sha256 (zimage o)) fun _ =>
      [.call, .call, .call] ++ record ["zimage:present".toList] .pass ++
        (if !w.isFile (configFile o) then record ["zimage:config-initramfs-source".toList] .fail
        else
          .call :: record ["zimage:config-initramfs-source".toList]
            (if initramfsSource (w.lines (configFile o)) = [] then .fail else .pass)) ++
        record ["zimage:min-size".toList] (if belowFloor o size then .fail else .pass)

/-- The fourth and the fifth section. -/
def hashedFile (name path : CString) : List (Step CString) :=
  if path = [] then []
  else if w.isFile path then [.call, .call, .call] ++ record [name] .pass
  else record [name] .fail

def payloadCheck : List (Step CString) := hashedFile w "payload:present".toList o.payload

def kpluginCheck : List (Step CString) := hashedFile w "kplugin:present".toList o.kplugin

/-- `MODELS` once `all` is expanded. -/
def models : CString :=
  if o.models = "all".toList then "vita1000,vita2000,pstv".toList else o.models

/-- `IFS=',' read -r -a`: the fields of the first line, but for an empty last one. -/
def modelList : List CString :=
  let fields := ((models o).takeWhile (· ≠ '\n')).splitOn ','
  if fields.getLast? = some [] then fields.dropLast else fields

def dtbPath (model : CString) : CString :=
  o.kernelDir ++ "/arch/arm/boot/dts/".toList ++ model ++ ".dtb".toList

/-- `${entry%%=*}`. -/
def stagedModel (entry : CString) : CString := entry.takeWhile (· ≠ '=')

/-- `${entry#*=}`. -/
def stagedPath (entry : CString) : CString :=
  if '=' ∈ entry then (entry.dropWhile (· ≠ '=')).tail else entry

def getStagedDtb (model : CString) : Option CString :=
  (o.stagedDtbs.find? fun entry => stagedModel entry = model).map stagedPath

/-- What is left of an output in `$(...)`. -/
def substituted (output : CString) : CString :=
  (output.reverse.dropWhile (· = '\n')).reverse

def stagedCheck (model : CString) (dtbSha : Digest) : List (Step CString) :=
  match getStagedDtb o model with
  | none => []
  | some path =>
      let staged := substituted path
      if !w.isFile staged then
        record ["dtb:".toList, model, ":matches-build-output".toList] .fail
      else
        orAbort (w.sha256 staged) fun stagedSha =>
          [.call, .call] ++ record ["dtb:".toList, model, ":matches-build-output".toList]
            (if stagedSha = dtbSha then .pass else .fail)

/-- The body of the loop over the models. -/
def dtbCheck (model : CString) : List (Step CString) :=
  if !w.isFile (dtbPath o model) then record ["dtb:".toList, model, ":present".toList] .fail
  else
    orAbort (w.sha256 (dtbPath o model)) fun dtbSha => orAbort (w.size (dtbPath o model)) fun _ =>
      [.call, .call, .call] ++ record ["dtb:".toList, model, ":present".toList] .pass ++
        record ["dtb:".toList, model, ":decompiles".toList]
          (if w.dtc (dtbPath o model) then .pass else .fail) ++
        stagedCheck w o model dtbSha

def vmlinux : CString := o.kernelDir ++ "/vmlinux".toList

/-- `ROOTFS_SOURCE` from the seventh section on. -/
def rootfsSource : CString :=
  let beside := o.kernelDir ++ "/rootfs.cpio.zst".toList
  if o.rootfsSource = [] ∧ w.isFile beside then beside else o.rootfsSource

/-- The test against what is expected, `[]` where nothing is. -/
def byteIdentical (expect embSha : CString) : List (Step CString) :=
  record ["initramfs:byte-identical".toList]
    (if expect ≠ [] then if expect = embSha then .pass else .fail else .skip)

def initramfsCheck : List (Step CString) :=
  if !w.isFile (vmlinux o) then record ["initramfs:extract".toList] .fail
  else
    match w.extract (vmlinux o) o.nmBin o.readelfBin with
    | .failed => record ["initramfs:extract".toList] .fail
    | .unreadable => [.abort]
    | .found embSha =>
        [.call, .call, .call] ++ record ["initramfs:extract".toList] .pass ++
          if o.expectRootfsSha256 = [] ∧ rootfsSource w o ≠ [] ∧ w.isFile (rootfsSource w o) then
            orAbort (w.sha256 (rootfsSource w o)) fun expect =>
              [.call, .call] ++ byteIdentical expect.text embSha
          else byteIdentical o.expectRootfsSha256 embSha

def extractedRootfs : CString := w.workdir ++ "/embedded-rootfs.cpio.zst".toList

/-- `cpio_src`. -/
def cpioSrc : Option CString :=
  if w.isFile (vmlinux o) ∧ w.isFile (extractedRootfs w) then some (extractedRootfs w)
  else if rootfsSource w o ≠ [] ∧ w.isFile (rootfsSource w o) then some (rootfsSource w o)
  else none

def consoleCheck : List (Step CString) :=
  match cpioSrc w o with
  | none => record ["rootfs:dev-console".toList] .skip
  | some src =>
      match w.archive src with
      | .unlisted | .missing => record ["rootfs:dev-console".toList] .fail
      | .console perm majmin =>
          [.call, .call, .call] ++ record ["rootfs:dev-console".toList]
            (if perm.head? = some 'c' ∧ majmin = "5,1".toList then .pass else .fail)

/-- `cut -d, -f1`. -/
def primaryModel : CString :=
  substituted (['\n'].intercalate (((models o).splitOn '\n').map fun line =>
    line.takeWhile (· ≠ ',')))

/-- The hash in a `[`, empty where there is none. -/
def shaText (path : CString) : CString := ((w.sha256 path).map Digest.text).getD []

/-- One of the two comparisons of `remote_readback_offline`. -/
def readbackMatches (readback expect : CString) : Bool :=
  w.isFile readback && w.isFile expect && shaText w readback == shaText w expect

def remoteReadbackOffline (dir : CString) : List (Step CString) :=
  let rz := dir ++ "/zImage".toList
  let rd := dir ++ "/".toList ++ primaryModel o ++ ".dtb".toList
  let rd := if w.isFile rd then rd else dir ++ "/pstv.dtb".toList
  .call :: record ["remote-readback".toList]
    (if readbackMatches w rz (zimage o) && readbackMatches w rd (dtbPath o (primaryModel o)) then
      .pass else .fail)

def remoteReadbackLive : List (Step CString) :=
  match w.remoteSha256 o.remoteSshUser o.remoteHost o.remoteZimagePath,
    w.remoteSha256 o.remoteSshUser o.remoteHost o.remoteDtbPath with
  | some remoteZimageSha, some remoteDtbSha =>
      orAbort (w.sha256 (zimage o)) fun localZimageSha =>
        orAbort (w.sha256 (dtbPath o (primaryModel o))) fun localDtbSha =>
          [.call, .call] ++ record ["remote-readback".toList]
            (if remoteZimageSha = localZimageSha.text ∧ remoteDtbSha = localDtbSha.text then .pass
            else .fail)
  | _, _ => record ["remote-readback".toList] .fail

def readbackCheck : List (Step CString) :=
  if o.readbackDir ≠ [] then remoteReadbackOffline w o o.readbackDir
  else if o.remoteReadbackLive ∧ o.remoteHost ≠ [] then
    if o.remoteDtbPath = [] then record ["remote-readback".toList] .fail
    else remoteReadbackLive w o
  else record ["remote-readback".toList] .skip

/-- The tenth section; the events of a boot log are the output of one call. -/
def targetCheck : List (Step CString) :=
  (if o.targetModel ≠ [] then [.call] else []) ++
    (if o.targetFirmware ≠ [] then [.call] else []) ++
    if o.bootLog = [] then []
    else if w.isFile o.bootLog then
      [.call, .call, .call] ++ record ["boot-log:parsed".toList] .pass
    else record ["boot-log:parsed".toList] .fail

/-- All that is done between the arguments and the summary: `mktemp` and the empty list of facts, the
ten sections, the last two facts, the manifest and its output. -/
def steps : List (Step CString) :=
  [.call, .call] ++ gitState w o o.kernelDir "kernel".toList ++
    gitState w o o.outerDir "outer".toList ++ overlayCheck w o ++ zimageGate w o ++
    payloadCheck w o ++ kpluginCheck w o ++ (modelList o).flatMap (dtbCheck w o) ++
    initramfsCheck w o ++ consoleCheck w o ++ readbackCheck w o ++ targetCheck w o ++
    [.call, .call, .call, .call]

end Sections

/-- The exit status; `ofCommand` is that of the command that failed, which is not 0. -/
inductive ExitStatus where
  | code (n : Nat)
  | ofCommand
  deriving DecidableEq, Repr

def vitaManifest (w : World) (args : List CString) : ExitStatus :=
  match parseArgs (defaults w.pwd) args with
  | .help => .code 0
  | .usage => .code 2
  | .options o =>
      if o.kernelDir = [] then .code 2
      else if !w.isDir o.kernelDir then .code 2
      else if !w.isDir o.outerDir then .code 2
      else
        match exit w.succeeds (steps w o) with
        | .aborted => .ofCommand
        | .failed => .code 1
        | .passed => .code 0

end Manifest

end VitaLinuxPort
