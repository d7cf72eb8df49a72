import VitaLinuxPort.Lib.ProgramState
import VitaLinuxPort.Tools.Publication

/-!
# A publication replaces the whole tree or nothing

Wherever the script is stopped, the output is the tree it found, or that tree is the backup and there is no
output, or the output is the complete new tree. No `mv` ever finds a tree where it moves one to, and the
removal of the new tree by the trap comes to the same as a `mv` of it that fails.
-/

namespace VitaLinuxPort

namespace Publication

open Program

variable {T : Type} {s t u v : World T} {removes returns : Prop}

/-! ### What a publication may have come to -/

/-- The new tree is what it was, or was removed. -/
def Left (removes : Prop) (s : World T) (root : Option T) : Prop :=
  removes → root = s.root ∨ root = none

/-- The output is the tree that was found, if there was one. -/
def Kept (removes : Prop) (s t : World T) : Prop :=
  ∃ root, t = ⟨s.output, root, none⟩ ∧ Left removes s root

/-- It is the backup. -/
def Open (removes : Prop) (s t : World T) : Prop :=
  ∃ root, t = ⟨none, root, s.output⟩ ∧ Left removes s root

/-- The output is the new tree, and of the old one there may be something left. -/
def Replaced (removes : Prop) (s t : World T) : Prop :=
  ∃ tree root backup, t = ⟨some tree, root, backup⟩ ∧ (removes → s.root = some tree)

def Publishing (removes : Prop) (s t : World T) : Prop :=
  Kept removes s t ∨ Open removes s t ∨ Replaced removes s t

/-- How the script ends: with 0 only after a replacement that is complete; otherwise, unless a removal or
the `mv` of the backup failed, with what it found. -/
structure Ended (removes returns : Prop) (s : World T) (status : Nat) (t : World T) : Prop where
  done : status = 0 → ∃ tree root, t = ⟨some tree, root, none⟩ ∧ (removes → s.root = some tree)
  failed : status ≠ 0 → removes → returns → Kept removes s t

/-- What the trap's action makes of a state. -/
def Cleaned (removes : Prop) (t u : World T) : Prop :=
  ∃ root, u = { t with root } ∧ (removes → root = t.root ∨ root = none)

theorem Left.cleaned {root later : Option T} (h : Left removes s root)
    (hlater : removes → later = root ∨ later = none) : Left removes s later := by
  intro hremoves
  rcases hlater hremoves with rfl | rfl
  · exact h hremoves
  · exact .inr rfl

theorem Kept.cleaned (h : Kept removes s t) (hu : Cleaned removes t u) : Kept removes s u := by
  obtain ⟨root, rfl, hroot⟩ := h
  obtain ⟨later, rfl, hlater⟩ := hu
  exact ⟨later, rfl, hroot.cleaned hlater⟩

theorem Open.cleaned (h : Open removes s t) (hu : Cleaned removes t u) : Open removes s u := by
  obtain ⟨root, rfl, hroot⟩ := h
  obtain ⟨later, rfl, hlater⟩ := hu
  exact ⟨later, rfl, hroot.cleaned hlater⟩

theorem Replaced.cleaned (h : Replaced removes s t) (hu : Cleaned removes t u) :
    Replaced removes s u := by
  obtain ⟨tree, root, backup, rfl, htree⟩ := h
  obtain ⟨later, rfl, _⟩ := hu
  exact ⟨tree, later, backup, rfl, htree⟩

theorem Publishing.cleaned (h : Publishing removes s t) (hu : Cleaned removes t u) :
    Publishing removes s u :=
  h.imp (fun h => h.cleaned hu) fun h => h.imp (fun h => h.cleaned hu) fun h => h.cleaned hu

/-! ### The contract -/

/-- The removals succeed if `removes`, and the `mv` of the backup if `returns`. -/
def contract (removes returns : Prop) (s : World T) : Contract Command.Answer (World T) where
  step t event u := World.step t event u ∧ (removes → ∀ place, event ≠ ⟨.remove place, false⟩) ∧
    (returns → event ≠ ⟨.move .backup .output, false⟩)
  inv := Publishing removes s
  safe request t := ∀ source target, request = .move source target → t.get target = none

theorem keeps_cleanUp (h : Publishing removes s t) :
    cleanUp.Keeps (contract removes returns s) (fun _ u => Cleaned removes t u) t := by
  refine keeps_ask h (fun _ _ hrequest => by cases hrequest) fun ok u hstep => ?_
  obtain ⟨⟨left, rfl, hok⟩, hremoves, _⟩ := hstep
  have hleft : Cleaned removes t (t.put .root left) := by
    refine ⟨left, rfl, fun hr => .inr (hok ?_)⟩
    cases ok with
    | true => rfl
    | false => exact absurd rfl (hremoves hr .root)
  exact keeps_pure (h.cleaned hleft) hleft

/-- A command under the trap. What holds after it must outlast the trap's action. -/
theorem keeps_trapped {command : Command} {post : Bool → World T → Prop} (h : Publishing removes s t)
    (hsafe : (contract removes returns s).safe command t)
    (hdone : ∀ answer u, (contract removes returns s).step t ⟨command, answer⟩ u →
      Publishing removes s u ∧ post answer u)
    (hcleaned : ∀ answer u v, Cleaned removes u v → post answer u → post answer v) :
    (trapped command).Keeps (contract removes returns s) post t := by
  have hcommand : (ask command).Keeps (contract removes returns s) post t := ⟨h, hsafe, hdone⟩
  refine hcommand.interruptible (fun u hu => ?_) fun answer u hu hpost => ?_
  · refine ⟨hu, (fun _ _ hrequest => by cases hrequest), fun _ v hstep => ?_⟩
    obtain rfl : v = u := hstep.1
    exact ⟨hu, rfl⟩
  · exact (keeps_cleanUp hu).mono fun _ v _ hv => hcleaned answer u v hv hpost

theorem keeps_exit {status : Nat} (h : Publishing removes s t)
    (hended : ∀ u, Cleaned removes t u → Ended removes returns s status u) :
    (exit status).Keeps (contract removes returns s) (Ended removes returns s) t := by
  refine ((keeps_cleanUp h).mono fun _ u hu hcleaned => ?_).bind
  exact keeps_pure hu (hended u hcleaned)

theorem keeps_exit_kept (h : Kept removes s t) :
    (exit 1).Keeps (contract removes returns s) (Ended removes returns s) t :=
  keeps_exit (.inl h) fun _ hu => ⟨fun hzero => absurd hzero Nat.one_ne_zero, fun _ _ _ => h.cleaned hu⟩

/-! ### The new tree -/

/-- The states after the `rm` of the backup, or without one. -/
def Removed (removes : Prop) (tree : T) (removed : Bool) (u : World T) : Prop :=
  ∃ root backup, u = ⟨some tree, root, backup⟩ ∧ (removed = true → backup = none) ∧
    (removes → removed = true)

theorem keeps_removeBackup {saved : Bool} (hsaved : saved = s.output.isSome) {tree : T} {root : Option T}
    (htree : removes → s.root = some tree) :
    (withBackup saved (.remove .backup)).Keeps (contract removes returns s) (Removed removes tree)
      ⟨some tree, root, s.output⟩ := by
  have hreplaced : ∀ root backup, Publishing removes s ⟨some tree, root, backup⟩ :=
    fun root backup => .inr (.inr ⟨tree, root, backup, rfl, htree⟩)
  cases saved with
  | false =>
      have hnone : s.output = none := by simpa using hsaved
      exact keeps_pure (hreplaced _ _) ⟨root, s.output, rfl, fun _ => hnone, fun _ => rfl⟩
  | true =>
      refine keeps_trapped (hreplaced _ _) (fun _ _ hrequest => by cases hrequest)
        (fun ok u hstep => ?_) fun ok u v hv hpost => ?_
      · obtain ⟨⟨left, rfl, hok⟩, hremoves, _⟩ := hstep
        refine ⟨hreplaced _ _, root, left, rfl, hok, fun hr => ?_⟩
        cases ok with
        | true => rfl
        | false => exact absurd rfl (hremoves hr .backup)
      · obtain ⟨_, backup, rfl, hgone⟩ := hpost
        obtain ⟨later, rfl, _⟩ := hv
        exact ⟨later, backup, rfl, hgone⟩

theorem keeps_replaced {saved : Bool} (hsaved : saved = s.output.isSome) {tree : T} {root : Option T}
    (htree : removes → s.root = some tree) :
    (do
      let removed ← withBackup saved (.remove .backup)
      exit (if removed then 0 else 1) : Calls Nat).Keeps (contract removes returns s)
        (Ended removes returns s) ⟨some tree, root, s.output⟩ := by
  refine ((keeps_removeBackup hsaved htree).mono fun removed u hu h => ?_).bind
  obtain ⟨root, backup, rfl, hgone, hremoved⟩ := h
  refine keeps_exit hu fun v hv => ?_
  obtain ⟨later, rfl, _⟩ := hv
  cases removed with
  | true => exact ⟨fun _ => ⟨tree, later, by rw [hgone rfl], htree⟩, fun hstatus => absurd rfl hstatus⟩
  | false => exact ⟨fun hzero => absurd hzero Nat.one_ne_zero, fun _ hr => by cases hremoved hr⟩

/-! ### The old tree -/

/-- After a `mv` from the output the old tree is the backup, or where it was. -/
def Saved (removes : Prop) (s : World T) (ok : Bool) (u : World T) : Prop :=
  if ok then Open removes s u else Kept removes s u

/-- After the `mv` back it is where it was, or still the backup. -/
def Returned (removes returns : Prop) (s : World T) (ok : Bool) (u : World T) : Prop :=
  if ok then Kept removes s u else ¬ returns ∧ Open removes s u

theorem keeps_save {root : Option T} (hroot : Left removes s root) :
    (trapped (.move .output .backup)).Keeps (contract removes returns s) (Saved removes s)
      ⟨s.output, root, none⟩ := by
  refine keeps_trapped (.inl ⟨root, rfl, hroot⟩) (fun _ _ hrequest => by cases hrequest; rfl)
    (fun ok u hstep => ?_) fun ok u v hv hpost => ?_
  · cases ok with
    | true =>
        obtain ⟨tree, htree, moved, rfl, hsame⟩ := hstep.1
        obtain rfl := hsame rfl
        have hopen : Open removes s ⟨none, root, some moved⟩ := by
          refine ⟨root, ?_, hroot⟩
          rw [show s.output = some moved from htree]
        exact ⟨.inr (.inl hopen), hopen⟩
    | false =>
        obtain rfl : u = ⟨s.output, root, none⟩ := hstep.1
        exact ⟨.inl ⟨root, rfl, hroot⟩, root, rfl, hroot⟩
  · cases ok with
    | true => exact Open.cleaned hpost hv
    | false => exact Kept.cleaned hpost hv

theorem keeps_moveBack {root : Option T} (hroot : Left removes s root) :
    (trapped (.move .backup .output)).Keeps (contract removes returns s) (Returned removes returns s)
      ⟨none, root, s.output⟩ := by
  refine keeps_trapped (.inr (.inl ⟨root, rfl, hroot⟩)) (fun _ _ hrequest => by cases hrequest; rfl)
    (fun ok u hstep => ?_) fun ok u v hv hpost => ?_
  · obtain ⟨hstep, _, hreturns⟩ := hstep
    cases ok with
    | true =>
        obtain ⟨tree, htree, moved, rfl, hsame⟩ := hstep
        obtain rfl := hsame rfl
        have hkept : Kept removes s ⟨some moved, root, none⟩ := by
          refine ⟨root, ?_, hroot⟩
          rw [show s.output = some moved from htree]
        exact ⟨.inl hkept, hkept⟩
    | false =>
        obtain rfl : u = ⟨none, root, s.output⟩ := hstep
        exact ⟨.inr (.inl ⟨root, rfl, hroot⟩), fun hr => hreturns hr rfl, root, rfl, hroot⟩
  · cases ok with
    | true => exact Kept.cleaned hpost hv
    | false => exact ⟨hpost.1, hpost.2.cleaned hv⟩

theorem keeps_returned {saved : Bool} (hsaved : saved = s.output.isSome) (h : Open removes s t) :
    (do
      let _ ← withBackup saved (.move .backup .output)
      exit 1 : Calls Nat).Keeps (contract removes returns s) (Ended removes returns s) t := by
  obtain ⟨root, rfl, hroot⟩ := h
  cases saved with
  | false =>
      have hnone : s.output = none := by simpa using hsaved
      exact keeps_exit_kept ⟨root, by rw [hnone], hroot⟩
  | true =>
      refine ((keeps_moveBack hroot).mono fun ok u hu h => ?_).bind
      cases ok with
      | true => exact keeps_exit_kept h
      | false =>
          exact keeps_exit hu fun _ _ =>
            ⟨fun hzero => absurd hzero Nat.one_ne_zero, fun _ _ hr => absurd hr h.1⟩

/-! ### The whole script -/

/-- After the `mv` of the new tree it is the output, or was not there to be moved. -/
def Installed (removes : Prop) (s : World T) (ok : Bool) (u : World T) : Prop :=
  if ok then ∃ tree root, u = ⟨some tree, root, s.output⟩ ∧ (removes → s.root = some tree)
  else Open removes s u

theorem keeps_moveNew {root : Option T} (hroot : Left removes s root) :
    (trapped (.move .root .output)).Keeps (contract removes returns s) (Installed removes s)
      ⟨none, root, s.output⟩ := by
  refine keeps_trapped (.inr (.inl ⟨root, rfl, hroot⟩)) (fun _ _ hrequest => by cases hrequest; rfl)
    (fun ok u hstep => ?_) fun ok u v hv hpost => ?_
  · cases ok with
    | true =>
        obtain ⟨tree, htree, moved, rfl, hsame⟩ := hstep.1
        obtain rfl := hsame rfl
        have hmoved : removes → s.root = some moved := by
          intro hr
          rcases hroot hr with rfl | rfl
          · exact htree
          · cases htree
        exact ⟨.inr (.inr ⟨moved, none, s.output, rfl, hmoved⟩), moved, none, rfl, hmoved⟩
    | false =>
        obtain rfl : u = ⟨none, root, s.output⟩ := hstep.1
        exact ⟨.inr (.inl ⟨root, rfl, hroot⟩), root, rfl, hroot⟩
  · cases ok with
    | true =>
        obtain ⟨tree, _, rfl, htree⟩ := hpost
        obtain ⟨later, rfl, _⟩ := hv
        exact ⟨tree, later, rfl, htree⟩
    | false => exact Open.cleaned hpost hv

theorem keeps_install {saved : Bool} (hsaved : saved = s.output.isSome) (h : Open removes s t) :
    (install saved).Keeps (contract removes returns s) (Ended removes returns s) t := by
  obtain ⟨root, rfl, hroot⟩ := h
  refine ((keeps_moveNew hroot).mono fun ok u _ h => ?_).bind
  cases ok with
  | true =>
      obtain ⟨tree, root, rfl, htree⟩ := h
      exact keeps_replaced hsaved htree
  | false => exact keeps_returned hsaved h

theorem kept_refl (hbackup : s.backup = none) : Kept removes s s :=
  ⟨s.root, by rw [← hbackup], fun _ => .inl rfl⟩

/-- The test whether there is an output. -/
def Tested (removes : Prop) (s : World T) (present : Bool) (u : World T) : Prop :=
  present = s.output.isSome ∧ Kept removes s u

theorem keeps_test (hbackup : s.backup = none) :
    (trapped (.isPresent .output)).Keeps (contract removes returns s) (Tested removes s) s := by
  refine keeps_trapped (.inl (kept_refl hbackup)) (fun _ _ hrequest => by cases hrequest)
    (fun present u hstep => ?_) fun present u v hv hpost => ⟨hpost.1, hpost.2.cleaned hv⟩
  obtain ⟨rfl, hpresent⟩ := hstep.1
  exact ⟨.inl (kept_refl hbackup), hpresent, kept_refl hbackup⟩

theorem keeps_publish (hbackup : s.backup = none) :
    publish.Keeps (contract removes returns s) (Ended removes returns s) s := by
  refine ((keeps_test hbackup).mono fun present u _ h => ?_).bind
  obtain ⟨hpresent, root, rfl, hroot⟩ := h
  cases present with
  | false =>
      have hnone : s.output = none := by simpa using hpresent
      exact keeps_install hpresent ⟨root, by rw [hnone], hroot⟩
  | true =>
      refine ((keeps_save hroot).mono fun ok u _ h => ?_).bind
      cases ok with
      | true => exact keeps_install hpresent h
      | false => exact keeps_exit_kept h

theorem keeps_replaceOutput (hbackup : s.backup = none) (force : Bool) :
    (replaceOutput force).Keeps (contract removes returns s) (Ended removes returns s) s := by
  cases force with
  | true => exact keeps_publish hbackup
  | false =>
      have hkept : Kept removes s s := kept_refl hbackup
      refine keeps_ask (.inl hkept) (fun _ _ hrequest => by cases hrequest) fun present u hstep => ?_
      obtain rfl : u = s := hstep.1.1
      cases present with
      | true => exact keeps_pure (.inl hkept) ⟨fun hzero => absurd hzero Nat.one_ne_zero, fun _ _ _ => hkept⟩
      | false => exact keeps_publish hbackup

/-- Without `--force` an output that is there is refused. -/
theorem keeps_refused (hpresent : s.output ≠ none) :
    (replaceOutput false).Keeps ⟨World.step, (· = s), fun _ _ => True⟩ (fun status _ => status = 1)
      s := by
  refine keeps_ask rfl trivial fun present u hstep => ?_
  obtain ⟨rfl, hsome⟩ := hstep
  have htrue : present = true := hsome.trans (Option.isSome_iff_ne_none.mpr hpresent)
  subst htrue
  exact keeps_pure rfl rfl

/-- Every command succeeds that can, and no signal comes in. -/
private def succeed : (command : Command) → World Nat → Bool × World Nat
  | .isPresent place, s => ((s.get place).isSome, s)
  | .move source target, s =>
      match s.get source with
      | some tree => (true, (s.put target (some tree)).put source none)
      | none => (false, s)
  | .remove place, s => (true, s.put place none)
  | .signalled, s => (false, s)

private theorem step_succeed (command : Command) (s : World Nat) :
    World.step s ⟨command, (succeed command s).1⟩ (succeed command s).2 := by
  cases command with
  | isPresent place => exact ⟨rfl, rfl⟩
  | move source target =>
      cases hsource : s.get source with
      | none =>
          simp only [succeed, hsource]
          rfl
      | some tree =>
          simp only [succeed, hsource]
          exact ⟨tree, hsource, tree, rfl, fun _ => rfl⟩
  | remove place => exact ⟨none, rfl, fun _ => rfl⟩
  | signalled => rfl

end Publication

end VitaLinuxPort
