import Mathlib.Data.Char
import Mathlib.Data.List.Lex
import Mathlib.Data.List.Sort
import VitaLinuxPort.Lib.Text
import VitaLinuxPort.Machine

/-!
# The native toolchain in the toolkit payload

`tools/build-vita-toolkit-squashfs.sh` where it is given a toolchain tree: how it verifies the tree against
`NATIVE-TOOLCHAIN-MANIFEST`, and what it copies into the stage. The contents of files and the texts of links
are their bytes, and the shell counts characters in bytes.
-/

namespace VitaLinuxPort

namespace ToolkitSquashfs

/-- What is in a directory besides directories: a regular file, a link, or a device, a pipe or a
socket. -/
inductive Leaf where
  | file (mode content : CString)
  | symlink (mode target : CString)
  | special
  deriving DecidableEq

/-- `-type f -o -type l`. -/
def Leaf.isFileOrLink : Leaf → Bool
  | .file _ _ => true
  | .symlink _ _ => true
  | .special => false

/-- The leaves of a directory, each with its path from there, which has a name between any two slashes. No
name has a newline. -/
structure Tree where
  leaves : List (CString × Leaf)
  nodup : (leaves.map Prod.fst).Nodup
  names : ∀ entry ∈ leaves, ∀ name ∈ entry.1.splitOn '/',
    name ≠ [] ∧ name ≠ ['.'] ∧ name ≠ ['.', '.'] ∧ '\n' ∉ name

def manifestName : CString := "NATIVE-TOOLCHAIN-MANIFEST".toList

/-- `TOOLCHAIN_ROOT`. `elsewhere` is what any other path leads to, through dots, slashes or links to
directories, and `linked` what is read through the manifest where that is a link to a file. `sha256` is the
hash in hexadecimal, and `marks` tells the paths of which `sha256sum` says, by a backslash before the hash,
that it does not print them as they are. -/
structure Root where
  path : CString
  isDir : Bool
  tree : Tree
  elsewhere : CString → Option Leaf
  linked : Option CString
  isPresent : CString → Bool
  sha256 : CString → CString
  marks : CString → Bool

def required : List CString :=
  ["bin/tcc".toList, "bin/cc".toList, "toolchain-env.sh".toList, "lib/tcc/libtcc1.a".toList,
    "lib/tcc/runmain.o".toList, "lib/tcc/include/tccdefs.h".toList,
    "lib/tcc/include/tcclib.h".toList, "sysroot/usr/include/stdio.h".toList,
    "sysroot/usr/lib/crt1.o".toList, "sysroot/usr/lib/libc.so".toList,
    "share/native-toolchain/BUILD-INFO".toList]

/-- `/*|..|../*|*/../*|*/..`. -/
def isUnsafe (path : CString) : Bool :=
  path.head? = some '/' ∨ path = "..".toList ∨ "../".toList <+: path ∨ "/../".toList <:+: path ∨
    "/..".toList <:+ path

/-- `(^|/)(\.git|\.ssh|local)(/|$)|wpa_supplicant`. -/
def isForbidden (path : CString) : Bool :=
  (path.splitOn '/').any (fun name =>
      [".git".toList, ".ssh".toList, "local".toList].contains name) ∨
    "wpa_supplicant".toList <:+: path

section Verification

variable (r : Root)

/-- `$TOOLCHAIN_ROOT/$rel`. -/
def Root.pathOf (rel : CString) : CString := r.path ++ '/' :: rel

def Root.leafAt (rel : CString) : Option Leaf :=
  match r.tree.leaves.lookup rel with
  | some leaf => some leaf
  | none => r.elsewhere rel

/-- What the manifest holds, `none` where it is no file. -/
def Root.manifest : Option CString :=
  match r.tree.leaves.lookup manifestName with
  | some (.file _ content) => some content
  | some (.symlink _ _) => r.linked
  | _ => none

def hashFile (rel content : CString) : CString :=
  if r.marks (r.pathOf rel) then '\\' :: r.sha256 content else r.sha256 content

def compare (rel : CString) (actual expected : CString × CString × CString) :
    Except CString Unit :=
  if actual.1 ≠ expected.1 then .error ("toolchain manifest mode mismatch: ".toList ++ rel)
  else if actual.2.1 ≠ expected.2.1 then
    .error ("toolchain manifest size mismatch: ".toList ++ rel)
  else if actual.2.2 ≠ expected.2.2 then
    .error ("toolchain manifest hash mismatch: ".toList ++ rel)
  else .ok ()

/-- The three columns of a leaf: its mode, its size and its hash. -/
def columns (rel : CString) : Option Leaf → Except CString (CString × CString × CString)
  | some (.symlink mode text) =>
      let target := Text.dropTrailing '\n' text
      if isUnsafe target then
        .error ("unsafe toolchain symlink: ".toList ++ rel ++ " -> ".toList ++ target)
      else .ok (mode, Nat.toDigits 10 target.length, r.sha256 target)
  | some (.file mode content) =>
      .ok (mode, Nat.toDigits 10 content.length, hashFile r rel content)
  | _ => .error ("toolchain manifest path is missing: ".toList ++ rel)

/-- The body of the loop over the lines; the state is `previous` and the file `listed`. -/
def verifyLine (state : CString × List CString) (line : CString) :
    Except CString (CString × List CString) :=
  match Text.words (· = ' ') line with
  | [rel, expectedMode, expectedSize, expectedHash] =>
      if isUnsafe rel ∨ ' ' ∈ rel ∨ '\t' ∈ rel then
        .error ("unsafe toolchain manifest path: ".toList ++ rel)
      else if rel = state.1 then
        .error ("duplicate toolchain manifest path: ".toList ++ rel)
      else do
        let actual ← columns r rel (r.leafAt rel)
        compare rel actual (expectedMode, expectedSize, expectedHash)
        return (rel, state.2 ++ [rel])
  | words => .error ("malformed toolchain manifest entry: ".toList ++ words.headD [])

/-- `find . \( -type f -o -type l \) ! -name NATIVE-TOOLCHAIN-MANIFEST -print`. -/
def find : List CString :=
  ((r.tree.leaves.filter fun entry =>
      entry.2.isFileOrLink && Text.afterLast '/' entry.1 ≠ manifestName).map
    fun entry => "./".toList ++ entry.1)

/-- `s|^\./||`. -/
def withoutDot (path : CString) : CString :=
  if "./".toList <+: path then path.drop 2 else path

/-- The file `actual`. -/
def actual : List CString := ((find r).map withoutDot).insertionSort (· ≤ ·)

/-- The whole verification, which gives the file `listed`. `read` gives up on what follows the last
newline. -/
def verifyToolchain : Except CString (List CString) :=
  if !r.isDir then .error ("missing toolchain root: ".toList ++ r.path)
  else
    match r.manifest with
    | none => .error ("missing toolchain manifest: ".toList ++ r.pathOf manifestName)
    | some text =>
        match required.find? fun name => !r.isPresent name with
        | some name => .error ("toolchain manifest root lacks ".toList ++ name)
        | none => do
            let (_, listed) ← (Text.terminatedLines '\n' text).foldlM (verifyLine r) ([], [])
            if ¬ listed.IsChain (· ≤ ·) then .error "toolchain manifest is not sorted".toList
            else if listed ≠ actual r then
              .error "toolchain manifest does not cover the exact file set".toList
            else if listed.any isForbidden then
              .error "toolchain manifest contains forbidden local material".toList
            else .ok listed

/-- What `cp -a` copies besides directories. -/
def copied : List CString := r.tree.leaves.map Prod.fst

/-- The staging of a verified tree; `taken` are the paths that the stage has already. -/
def stageToolchain (taken : CString → Bool) : Except CString (List CString) := do
  let listed ← verifyToolchain r
  match listed.find? taken with
  | some rel => .error ("toolchain path collides with toolkit payload: ".toList ++ rel)
  | none => .ok (copied r)

end Verification

end ToolkitSquashfs

end VitaLinuxPort
