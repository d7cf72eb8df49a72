import VitaLinuxPort.Tools.Manifest

/-!
# The references of a manifest

A reference is what the operator gives to compare the build with: a staged device tree, the hash of
the root file system, or its source. When the script exits 0 every reference that a check looks at
agrees. No check looks at a staged entry for a model that is not checked, nor at one that comes after
another for its model, nor at the source when the hash is given too or when it is no file; so all the
references agree exactly when these do.
-/

namespace VitaLinuxPort

namespace Manifest

open Checklist

section Agreement

variable (w : World) (o : Options)

/-- The file of a staged entry is identical to the build output of its model. -/
def StagedAgrees (entry : CString) : Prop :=
  w.isFile (stagedPath entry) = true ∧ ∃ digest, w.sha256 (stagedPath entry) = some digest ∧
    w.sha256 (dtbPath o (stagedModel entry)) = some digest

/-- The hash of the embedded initramfs. -/
def embedded : Option CString :=
  match w.extract (vmlinux o) o.nmBin o.readelfBin with
  | .found embSha => some embSha
  | .failed | .unreadable => none

def HashAgrees : Prop := embedded w o = some o.expectRootfsSha256

def SourceAgrees : Prop :=
  w.isFile o.rootfsSource = true ∧ ∃ digest, w.sha256 o.rootfsSource = some digest ∧
    embedded w o = some digest.text

/-- Every reference that is given agrees with the build. -/
structure ReferencesAgree : Prop where
  staged : ∀ entry ∈ o.stagedDtbs, '=' ∈ entry → StagedAgrees w o entry
  hash : o.expectRootfsSha256 ≠ [] → HashAgrees w o
  source : o.rootfsSource ≠ [] → SourceAgrees w o

/-- A staged entry that no check looks at: its model is not on the list, or it is not the first entry
for its model, or its file is not what the shell is left with. -/
def StagedOverlooked (entry : CString) : Prop :=
  stagedModel entry ∉ modelList o ∨
    o.stagedDtbs.find? (fun other => stagedModel other = stagedModel entry) ≠ some entry ∨
      substituted (stagedPath entry) ≠ stagedPath entry

/-- The source is not looked at when the hash is given, or when it is no file. -/
def SourceOverlooked : Prop := o.expectRootfsSha256 ≠ [] ∨ w.isFile o.rootfsSource = false

/-- Every reference that no check looks at agrees with the build. -/
structure OverlookedAgree : Prop where
  staged : ∀ entry ∈ o.stagedDtbs, '=' ∈ entry → StagedOverlooked o entry → StagedAgrees w o entry
  source : o.rootfsSource ≠ [] → SourceOverlooked w o → SourceAgrees w o

end Agreement

variable {w : World} {o : Options}

theorem allPass_record {name : List CString} {status : Status} :
    AllPass (record name status) ↔ status ≠ .fail := by
  simp [record]

theorem allPass_steps {args : List CString} (hargs : parseArgs (defaults w.pwd) args = .options o)
    (hexit : vitaManifest w args = .code 0) : AllPass (steps w o) := by
  rw [vitaManifest, hargs] at hexit
  dsimp only at hexit
  split at hexit
  · cases hexit
  · split at hexit
    · cases hexit
    · split at hexit
      · cases hexit
      · cases hrun : exit w.succeeds (steps w o) with
        | passed => exact allPass_of_passed hrun
        | failed => rw [hrun] at hexit; cases hexit
        | aborted => rw [hrun] at hexit; cases hexit

/-- The build output of a checked model, and the staged file that is compared with it. -/
theorem staged_of_allPass {entry : CString} (hpass : AllPass (dtbCheck w o (stagedModel entry)))
    (hfirst : o.stagedDtbs.find? (fun other => stagedModel other = stagedModel entry) = some entry)
    (hpath : substituted (stagedPath entry) = stagedPath entry) : StagedAgrees w o entry := by
  unfold dtbCheck at hpass
  split at hpass
  · simp [allPass_record] at hpass
  obtain ⟨dtbSha, hdtb, hpass⟩ := allPass_orAbort hpass
  obtain ⟨-, -, hpass⟩ := allPass_orAbort hpass
  have hstaged := ((allPass_append _ _).mp hpass).2
  have hget : getStagedDtb o (stagedModel entry) = some (stagedPath entry) := by
    rw [getStagedDtb, hfirst, Option.map_some]
  simp only [stagedCheck, hget, hpath] at hstaged
  split at hstaged
  · simp [allPass_record] at hstaged
  rename_i hfile
  obtain ⟨stagedSha, hsha, hrecord⟩ := allPass_orAbort hstaged
  have hequal : stagedSha = dtbSha := by
    by_contra hne
    simp [allPass_record, hne] at hrecord
  refine ⟨by simpa using hfile, stagedSha, hsha, ?_⟩
  rw [hdtb, hequal]

/-- The initramfs is extracted, and it is the one of the reference that is looked at. -/
theorem rootfs_of_allPass (hpass : AllPass (initramfsCheck w o)) :
    (o.expectRootfsSha256 ≠ [] → HashAgrees w o) ∧
      (o.rootfsSource ≠ [] → ¬ SourceOverlooked w o → SourceAgrees w o) := by
  unfold initramfsCheck at hpass
  split at hpass
  · simp [allPass_record] at hpass
  cases hextract : w.extract (vmlinux o) o.nmBin o.readelfBin with
  | failed => simp [hextract, allPass_record] at hpass
  | unreadable => simp [hextract] at hpass
  | found embSha =>
    have hembedded : embedded w o = some embSha := by rw [embedded, hextract]
    rw [hextract] at hpass
    have hidentical := ((allPass_append _ _).mp hpass).2
    constructor
    · intro hgiven
      rw [if_neg (fun h => hgiven h.1)] at hidentical
      have hequal : o.expectRootfsSha256 = embSha := by
        by_contra hne
        simp [byteIdentical, allPass_record, hgiven, hne] at hidentical
      rw [HashAgrees, hembedded, hequal]
    · intro hgiven hlooked
      have hsource : rootfsSource w o = o.rootfsSource := if_neg fun h => hgiven h.1
      obtain ⟨hempty, hfile⟩ := not_or.mp hlooked
      rw [hsource, if_pos ⟨not_not.mp hempty, hgiven, by simpa using hfile⟩] at hidentical
      obtain ⟨digest, hdigest, hrecord⟩ := allPass_orAbort hidentical
      have hequal : digest.text = embSha := by
        by_contra hne
        simp [byteIdentical, allPass_record, digest.nonempty, hne] at hrecord
      exact ⟨by simpa using hfile, digest, hdigest, by rw [hembedded, hequal]⟩

/-- When the script exits 0, all references agree if and only if those do that no check looks at. -/
theorem references_agree_iff {args : List CString}
    (hargs : parseArgs (defaults w.pwd) args = .options o)
    (hexit : vitaManifest w args = .code 0) : ReferencesAgree w o ↔ OverlookedAgree w o := by
  have hpass := allPass_steps hargs hexit
  simp only [steps, allPass_append, allPass_flatMap] at hpass
  obtain ⟨⟨⟨⟨⟨⟨-, hdtbs⟩, hinitramfs⟩, -⟩, -⟩, -⟩, -⟩ := hpass
  have hrootfs := rootfs_of_allPass hinitramfs
  constructor
  · intro h
    exact ⟨fun entry hentry hequals _ => h.staged entry hentry hequals,
      fun hgiven _ => h.source hgiven⟩
  · intro h
    refine ⟨?_, hrootfs.1, ?_⟩
    · intro entry hentry hequals
      by_cases hoverlooked : StagedOverlooked o entry
      · exact h.staged entry hentry hequals hoverlooked
      · obtain ⟨hmodel, hlooked⟩ := not_or.mp hoverlooked
        obtain ⟨hfirst, hpath⟩ := not_or.mp hlooked
        exact staged_of_allPass (hdtbs _ (not_not.mp hmodel)) (not_not.mp hfirst) (not_not.mp hpath)
    · intro hgiven
      by_cases hoverlooked : SourceOverlooked w o
      · exact h.source hgiven hoverlooked
      · exact hrootfs.2 hgiven hoverlooked

/-- Every check passes, `old.dtb` is another device tree than the one that is built, and there is no
`gone.zst`. -/
def oldTree : World where
  pwd := "/repo".toList
  workdir := "/tmp/vita-manifest".toList
  isDir _ := true
  isFile path := path ≠ "gone.zst".toList
  lines _ := ["CONFIG_INITRAMFS_SOURCE=\"rootfs.cpio.zst\"".toList]
  size _ := some 20971520
  mode _ := some "600".toList
  sha256 path :=
    if path = "old.dtb".toList then some ⟨"0d".toList, by decide⟩
    else some ⟨"ad".toList, by decide⟩
  insideWorkTree _ := true
  head _ := some "c3".toList
  porcelain _ := []
  tracked _ := []
  dtc _ := true
  extract _ _ _ := .found "ad".toList
  archive _ := .console "crw--w--w-".toList "5,1".toList
  remoteSha256 _ _ _ := none
  succeeds _ := true

def treeArgs (args : List String) : List CString :=
  ["--kernel-dir".toList, "/kernel".toList] ++ args.map String.toList

def stagedOptions (entry : String) : Options :=
  { defaults oldTree.pwd with kernelDir := "/kernel".toList, stagedDtbs := [entry.toList] }

/-- The build output staged for the model that is checked. -/
theorem references_agree_iff_pstv :
    vitaManifest oldTree (treeArgs ["--staged-dtb", "pstv=new.dtb"]) = .code 0 ∧
      ReferencesAgree oldTree (stagedOptions "pstv=new.dtb") := by
  have hargs : parseArgs (defaults oldTree.pwd) (treeArgs ["--staged-dtb", "pstv=new.dtb"])
      = .options (stagedOptions "pstv=new.dtb") := by decide
  have hexit : vitaManifest oldTree (treeArgs ["--staged-dtb", "pstv=new.dtb"]) = .code 0 := by
    decide
  refine ⟨hexit, (references_agree_iff hargs hexit).mpr ⟨?_, ?_⟩⟩
  · intro entry hentry _ hoverlooked
    obtain rfl := List.mem_singleton.mp hentry
    obtain hmodel | hfirst | hpath := hoverlooked
    · exact absurd (by decide) hmodel
    · exact absurd (by decide) hfirst
    · exact absurd (by decide) hpath
  · intro hgiven
    exact absurd rfl hgiven

/-- A stale device tree for a model that is not checked goes through. -/
theorem stale_tree_passes :
    ¬ ∀ (w : World) (args : List CString) (o : Options),
      parseArgs (defaults w.pwd) args = .options o → vitaManifest w args = .code 0 →
        ReferencesAgree w o := by
  intro h
  have hagree := h oldTree (treeArgs ["--staged-dtb", "vita1000=old.dtb"])
    (stagedOptions "vita1000=old.dtb") (by decide) (by decide)
  obtain ⟨-, digest, hstaged, hbuilt⟩ := hagree.staged "vita1000=old.dtb".toList
    (by decide) (by decide)
  have hdiffer : oldTree.sha256 (stagedPath "vita1000=old.dtb".toList)
      ≠ oldTree.sha256 (dtbPath (stagedOptions "vita1000=old.dtb")
        (stagedModel "vita1000=old.dtb".toList)) := by
    decide
  exact hdiffer (hstaged.trans hbuilt.symm)

/-- So do a second entry for a model, a source next to the hash, and a source that is no file. -/
example :
    [["--staged-dtb", "pstv=new.dtb", "--staged-dtb", "pstv=old.dtb"],
      ["--expect-rootfs-sha256", "ad", "--rootfs-source", "old.dtb"],
      ["--rootfs-source", "gone.zst"]].map (fun args => vitaManifest oldTree (treeArgs args))
      = [.code 0, .code 0, .code 0] := by decide +kernel

end Manifest

end VitaLinuxPort
