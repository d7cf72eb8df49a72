import Mathlib.Algebra.BigOperators.Fin
import VitaLinuxPort.Lib.Ownership
import VitaLinuxPort.Proof.Input.Session

/-!
# Descriptors

Every descriptor that is opened belongs to one owner at a time: the candidate it was opened for, then
the slot that claims the candidate. On every way out, whether a failed probe, the lack of an empty
slot, a lost device or the shutdown, the owner closes it. So at the end of every operation the open
descriptors are those in the slots, and the engine has only used and closed open ones.
-/

namespace VitaLinuxPort

open Ownership

def Syscall.toUse : Syscall → Option (Use Int)
  | .openNode result => if 0 ≤ result then some (.acquire result) else none
  | .close fd => some (.release fd)
  | .read fd _ | .ioctl fd => some (.use fd)

theorem toUse_openNode {fd : Int} (h : 0 ≤ fd) :
    Syscall.toUse (.openNode fd) = some (.acquire fd) :=
  if_pos h

theorem toUse_openNode_failed {fd : Int} (h : fd < 0) : Syscall.toUse (.openNode fd) = none :=
  if_neg (not_le.mpr h)

/-- The calls lead in good order from holding the descriptors `s` to holding `t`. -/
def OwnsCalls (s : Multiset Int) (calls : List Syscall) (t : Multiset Int) : Prop :=
  Owns s (calls.filterMap Syscall.toUse) t

namespace OwnsCalls

variable {s t u : Multiset Int} {calls calls' : List Syscall} {fd : Int}

theorem nil (s : Multiset Int) : OwnsCalls s [] s := Owns.nil s

theorem append (h : OwnsCalls s calls t) (h' : OwnsCalls t calls' u) :
    OwnsCalls s (calls ++ calls') u := by
  rw [OwnsCalls, List.filterMap_append]
  exact Owns.append h h'

theorem openNode (hfd : 0 ≤ fd) (h : OwnsCalls (fd ::ₘ s) calls t) :
    OwnsCalls s (.openNode fd :: calls) t := by
  rw [OwnsCalls, List.filterMap_cons_some (toUse_openNode hfd)]
  exact Owns.acquire h

theorem openNode_failed (hfd : fd < 0) : OwnsCalls s [.openNode fd] s := by
  rw [OwnsCalls, List.filterMap_cons_none (toUse_openNode_failed hfd)]
  exact Owns.nil s

theorem close (fd : Int) (s : Multiset Int) : OwnsCalls (fd ::ₘ s) [.close fd] s :=
  Owns.release fd s

theorem uses (hcalls : Uses fd calls) (hmem : fd ∈ s) : OwnsCalls s calls s := by
  have hlog : ∀ action ∈ calls.filterMap Syscall.toUse, action = .use fd := by
    intro action haction
    obtain ⟨call, hcall, htoUse⟩ := List.mem_filterMap.mp haction
    rcases hcalls call hcall with rfl | ⟨count, rfl⟩ <;> exact (Option.some.inj htoUse).symm
  exact Owns.uses hlog hmem

theorem closes (fds : List Int) (s : Multiset Int) :
    OwnsCalls ((fds : Multiset Int) + s) (fds.map .close) s := by
  rw [OwnsCalls, List.filterMap_map]
  have huses : (fds.filterMap (Syscall.toUse ∘ Syscall.close)) = fds.map Use.release := by
    rw [← List.filterMap_eq_map]
    rfl
  rw [huses]
  exact Owns.releases fds s

end OwnsCalls

def CartInputSource.descriptor (source : CartInputSource) : Multiset Int :=
  if 0 ≤ source.fd then {source.fd} else 0

theorem descriptor_congr {s t : CartInputSource} (h : t.fd = s.fd) :
    t.descriptor = s.descriptor := by
  rw [CartInputSource.descriptor, CartInputSource.descriptor, h]

def CartInput.descriptors (input : CartInput) : Multiset Int :=
  ∑ slot, (input.source slot).descriptor

def CartInput.otherDescriptors (input : CartInput) (slot : Slot) : Multiset Int :=
  ∑ other ∈ Finset.univ.erase slot, (input.source other).descriptor

theorem descriptors_eq (input : CartInput) (slot : Slot) :
    input.descriptors = (input.source slot).descriptor + input.otherDescriptors slot :=
  (Finset.add_sum_erase _ _ (Finset.mem_univ slot)).symm

theorem otherDescriptors_congr {input input' : CartInput} {slot : Slot}
    (h : ∀ other, other ≠ slot → input'.source other = input.source other) :
    input'.otherDescriptors slot = input.otherDescriptors slot := by
  refine Finset.sum_congr rfl fun other hother => ?_
  rw [h other (Finset.ne_of_mem_erase hother)]

theorem descriptors_cleared : CartInput.cleared.descriptors = 0 := by
  simp [CartInput.descriptors, CartInput.cleared, CartInputSource.descriptor, resetSource]

theorem descriptors_eq_list (input : CartInput) :
    input.descriptors = (((List.finRange 4).filter fun slot => (input.source slot).fd ≥ 0).map
      fun slot => (input.source slot).fd : List Int) := by
  rw [CartInput.descriptors, Fin.sum_univ_def]
  induction List.finRange 4 with
  | nil => rfl
  | cons slot slots ih =>
      rw [List.map_cons, List.sum_cons, ih, CartInputSource.descriptor]
      by_cases hopen : 0 ≤ (input.source slot).fd
      · rw [if_pos hopen, List.filter_cons_of_pos (by simpa using hopen), List.map_cons,
          ← Multiset.cons_coe, Multiset.singleton_add]
      · rw [if_neg hopen, List.filter_cons_of_neg (by simpa using hopen), zero_add]

section Discovery

theorem uses_nil (fd : Int) : Uses fd [] := fun _ h => absurd h (List.not_mem_nil)

theorem uses_append {fd : Int} {calls calls' : List Syscall} (h : Uses fd calls)
    (h' : Uses fd calls') : Uses fd (calls ++ calls') :=
  fun call hcall => (List.mem_append.mp hcall).elim (h call) (h' call)

theorem uses_cons_ioctl {fd : Int} {calls : List Syscall} (h : Uses fd calls) :
    Uses fd (.ioctl fd :: calls) :=
  List.forall_mem_cons.mpr ⟨.inl rfl, h⟩

theorem uses_map_ioctl {α : Type*} (fd : Int) (xs : List α) :
    Uses fd (xs.map fun _ => .ioctl fd) := by
  intro call hcall
  obtain ⟨_, _, rfl⟩ := List.mem_map.mp hcall
  exact .inl rfl

theorem uses_probeIsGamepad (fd : Int) (probe : Probe) : Uses fd (probeIsGamepad fd probe).2 := by
  unfold probeIsGamepad
  split
  · exact uses_cons_ioctl (uses_nil fd)
  · split <;> exact uses_cons_ioctl (uses_cons_ioctl (uses_nil fd))

theorem uses_probeIsActionKeyboard (fd : Int) (probe : Probe) :
    Uses fd (probeIsActionKeyboard fd probe).2 := by
  unfold probeIsActionKeyboard
  split <;> exact uses_cons_ioctl (uses_nil fd)

theorem uses_probeSnapshotAxes (source : CartInputSource) (fd : Int) (probe : Probe) :
    Uses fd (probeSnapshotAxes source fd probe).2 := by
  unfold probeSnapshotAxes
  dsimp only
  split
  · exact uses_cons_ioctl (uses_nil fd)
  · exact uses_cons_ioctl (uses_map_ioctl fd _)

theorem uses_classifySource (scratch : CartInputSource) (fd sysfsRank : Int) (probe : Probe) :
    Uses fd (classifySource scratch fd sysfsRank probe).2.2 := by
  unfold classifySource
  split
  · exact uses_cons_ioctl (uses_nil fd)
  · next name _ =>
      have hsnapshot := uses_probeSnapshotAxes
        { scratch with name := name.take (cartInputNameMax - 1) } fd probe
      have hgamepad := uses_cons_ioctl (uses_probeIsGamepad fd probe)
      have hkeyboard := uses_probeIsActionKeyboard fd probe
      have hnone := uses_append hgamepad (uses_nil fd)
      have hboth := uses_append hgamepad hkeyboard
      simp only [apply_ite Prod.snd]
      split_ifs
      · exact hnone
      · exact uses_append hnone hsnapshot
      · exact hboth
      · exact uses_append hboth hsnapshot
      · exact hboth
      · exact uses_append hboth hsnapshot

/-- An entry whose node is opened and admitted adds its descriptor; of the others nothing stays. -/
theorem ownsCalls_examineEntry (entry : Dirent) (s : Multiset Int) :
    OwnsCalls s (examineEntry entry).2
      (((examineEntry entry).1.toList.map CartInputCandidate.fd : List Int) + s) := by
  have hclassify := uses_classifySource
    { CartInputSource.zero with fd := -1, node := entry.dName } entry.opened (sysfsRank entry)
    entry.probe
  unfold examineEntry
  split
  · simpa using OwnsCalls.nil s
  · split_ifs with hlong hclosed
    · simpa using OwnsCalls.nil s
    · simpa using OwnsCalls.openNode_failed (s := s) hclosed
    · have hheld := OwnsCalls.uses hclassify (Multiset.mem_cons_self entry.opened s)
      dsimp only
      split
      · simpa using OwnsCalls.openNode (by omega) (hheld.append (.close entry.opened s))
      · simpa using OwnsCalls.openNode (by omega) hheld

theorem ownsCalls_scanDirectory (count : Nat) (entries : List Dirent) (s : Multiset Int) :
    OwnsCalls s (scanDirectory count entries).2
      (((scanDirectory count entries).1.map CartInputCandidate.fd : List Int) + s) := by
  induction entries generalizing count s with
  | nil => simpa [scanDirectory] using OwnsCalls.nil s
  | cons entry rest ih =>
      rw [scanDirectory]
      split
      · have hentry := ownsCalls_examineEntry entry s
        have hrest := ih (count + (examineEntry entry).1.toList.length)
          (((examineEntry entry).1.toList.map CartInputCandidate.fd : List Int) + s)
        dsimp only
        rw [List.map_append, ← Multiset.coe_add, add_comm (Multiset.ofList _), add_assoc]
        exact hentry.append hrest
      · simpa using OwnsCalls.nil s

theorem descriptors_setSource {input : CartInput} {slot : Slot} {source : CartInputSource}
    (hempty : (input.source slot).fd < 0) (hfd : 0 ≤ source.fd) :
    (input.setSource slot source).descriptors = source.fd ::ₘ input.descriptors := by
  have hothers : (input.setSource slot source).otherDescriptors slot =
      input.otherDescriptors slot :=
    otherDescriptors_congr fun other hother => Function.update_of_ne hother _ _
  rw [descriptors_eq _ slot, hothers, descriptors_eq input slot, CartInput.setSource]
  simp only [Function.update_self, CartInputSource.descriptor]
  rw [if_pos hfd, if_neg (by omega), zero_add, Multiset.singleton_add]

theorem ownsCalls_claimCandidates (input : CartInput) {candidates : List CartInputCandidate}
    (hprepared : ∀ candidate ∈ candidates, candidate.Prepared) :
    OwnsCalls ((candidates.map CartInputCandidate.fd : List Int) + input.descriptors)
      (claimCandidates input candidates).calls
      (claimCandidates input candidates).input.descriptors := by
  induction candidates generalizing input with
  | nil => simpa [claimCandidates] using OwnsCalls.nil input.descriptors
  | cons candidate rest ih =>
      have hfd := (hprepared candidate List.mem_cons_self).fd_nonneg
      have ih := fun input => ih input fun c hc => hprepared c (List.mem_cons_of_mem _ hc)
      rw [claimCandidates, List.map_cons, ← Multiset.cons_coe, Multiset.cons_add]
      rcases hslot : firstFreeSlot input with _ | slot
      · exact (OwnsCalls.close candidate.fd _).append (ih input)
      · have hempty : (input.source slot).fd < 0 := by
          simpa [slotEmpty] using List.find?_some hslot
        have hmoved : (input.setSource slot candidate.connected).descriptors =
            candidate.fd ::ₘ input.descriptors := descriptors_setSource hempty hfd
        have hrest := ih (input.setSource slot candidate.connected)
        rw [hmoved, Multiset.add_cons] at hrest
        exact hrest

theorem ownsCalls_discoverPass (input : CartInput) (directory : Directory) :
    OwnsCalls input.descriptors (discoverPass input directory).calls
      (discoverPass input directory).input.descriptors := by
  cases directory with
  | missing => exact .nil _
  | unreadable => exact .nil _
  | entries list =>
      have hscan := ownsCalls_scanDirectory 0 list input.descriptors
      have hperm := ((cartInputPlan_perm (scanDirectory 0 list).1).map CartInputCandidate.fd)
      rw [← Multiset.coe_eq_coe.mpr hperm] at hscan
      have hprepared : ∀ candidate ∈ (Directory.entries list).planned, candidate.Prepared :=
        fun _ => prepared_of_mem_planned
      have hclaims := ownsCalls_claimCandidates input hprepared
      simp only [discoverPass, sweepLeftovers_claimCandidates, List.append_nil]
      exact hscan.append hclaims

end Discovery

section Polling

variable [Target]

/-- A pump that goes on keeps its source's descriptor; one that loses the device closes it. -/
theorem ownsCalls_pumpSource (reads : List ReadResult) {p : Pump} (hopen : 0 ≤ p.source.fd)
    (others : Multiset Int) :
    ∃ calls, (pumpSource reads p).calls = p.calls ++ calls ∧
      OwnsCalls (p.source.descriptor + others) calls
        ((pumpSource reads p).source.descriptor + others) := by
  have hheld : p.source.descriptor = {p.source.fd} := if_pos hopen
  have hmem : p.source.fd ∈ p.source.descriptor + others := by simp [hheld]
  rcases pumpSource_cases reads p with hcontinues | ⟨q, hcontinues, hlost⟩
  · obtain ⟨used, hused, huses⟩ := hcontinues.calls
    refine ⟨used, hused, ?_⟩
    rw [descriptor_congr hcontinues.device.fd]
    exact .uses huses hmem
  · obtain ⟨used, hused, huses⟩ := hcontinues.calls
    have hqfd := hcontinues.device.fd
    refine ⟨used ++ [.close p.source.fd], ?_, ?_⟩
    · rw [hlost, handleDisconnect, if_pos (by rw [hqfd]; exact hopen)]
      simp [Pump.called, hused, hqfd]
    · have hnone : (pumpSource reads p).source.descriptor = 0 := by
        rw [hlost, CartInputSource.descriptor, (lostDevice_handleDisconnect q).fd]
        rfl
      rw [hnone, zero_add]
      refine (OwnsCalls.uses huses hmem).append ?_
      rw [hheld, Multiset.singleton_add]
      exact .close _ _

theorem ownsCalls_pollSource (reads : Slot → List ReadResult) (s : PollState) (slot : Slot) :
    ∃ calls, (pollSource reads s slot).calls = s.calls ++ calls ∧
      OwnsCalls s.input.descriptors calls (pollSource reads s slot).input.descriptors := by
  unfold pollSource
  split
  · exact ⟨[], (List.append_nil _).symm, .nil _⟩
  · next hopen =>
      split
      · exact ⟨[], (List.append_nil _).symm, .nil _⟩
      · obtain ⟨calls, hcalls, howns⟩ := ownsCalls_pumpSource (reads slot) (p := s.load slot)
          (not_lt.mp hopen) (s.input.otherDescriptors slot)
        refine ⟨calls, hcalls, ?_⟩
        have hothers : (s.store slot (pumpSource (reads slot) (s.load slot))).input.otherDescriptors
            slot = s.input.otherDescriptors slot :=
          otherDescriptors_congr fun other hother => Function.update_of_ne hother _ _
        have hself : (s.store slot (pumpSource (reads slot) (s.load slot))).input.source slot =
            (pumpSource (reads slot) (s.load slot)).source := Function.update_self _ _ _
        rw [descriptors_eq _ slot, descriptors_eq (s.store slot _).input slot, hothers, hself]
        exact howns

theorem ownsCalls_foldl_pollSource (reads : Slot → List ReadResult) (slots : List Slot)
    (s : PollState) :
    ∃ calls, (slots.foldl (pollSource reads) s).calls = s.calls ++ calls ∧
      OwnsCalls s.input.descriptors calls (slots.foldl (pollSource reads) s).input.descriptors := by
  induction slots generalizing s with
  | nil => exact ⟨[], (List.append_nil _).symm, .nil _⟩
  | cons slot slots ih =>
      obtain ⟨first, hfirst, hownsFirst⟩ := ownsCalls_pollSource reads s slot
      obtain ⟨more, hmore, hownsMore⟩ := ih (pollSource reads s slot)
      refine ⟨first ++ more, ?_, hownsFirst.append hownsMore⟩
      rw [List.foldl_cons, hmore, hfirst, List.append_assoc]

end Polling

namespace InputSession

variable [Target] {s t : InputSession} {op : InputOp} {ops : List InputOp}

omit [Target] in
/-- An object is initialized only while it holds no descriptor. -/
def InitsEmpty (s : InputSession) : InputOp → Prop
  | .init _ => ∀ slot, (s.input.source slot).fd < 0
  | _ => True

theorem ownsCalls_step (hinit : InitsEmpty s op) (h : Performs s op t) :
    ∃ calls, t.calls = s.calls ++ calls ∧
      OwnsCalls s.input.descriptors calls t.input.descriptors := by
  subst h
  cases op with
  | init directory =>
      refine ⟨_, rfl, ?_⟩
      have hnone : s.input.descriptors = CartInput.cleared.descriptors := by
        rw [descriptors_cleared]
        refine Finset.sum_eq_zero fun slot _ => ?_
        rw [CartInputSource.descriptor, if_neg (not_le.mpr (hinit slot))]
      rw [hnone]
      exact ownsCalls_discoverPass .cleared directory
  | rescan directory => exact ⟨_, rfl, ownsCalls_discoverPass s.input directory⟩
  | poll reads resyncs =>
      obtain ⟨calls, hcalls, howns⟩ := ownsCalls_foldl_pollSource reads (List.finRange 4)
        { input := s.input, resyncs, calls := [] }
      refine ⟨calls, ?_, howns⟩
      rw [List.nil_append] at hcalls
      rw [← hcalls]
      rfl
  | shutdown =>
      refine ⟨_, rfl, ?_⟩
      rw [show (s.perform .shutdown).input = .cleared from rfl, descriptors_cleared,
        descriptors_eq_list]
      have hcloses := OwnsCalls.closes (((List.finRange 4).filter fun slot =>
        (s.input.source slot).fd ≥ 0).map fun slot => (s.input.source slot).fd) 0
      rw [List.map_map, add_zero] at hcloses
      exact hcloses

end InputSession

/-- If the call opens a descriptor, it was not open after the calls before. -/
def Syscall.Fresh (before : List Syscall) : Syscall → Prop
  | .openNode fd => 0 ≤ fd → before.count (.openNode fd) = before.count (.close fd)
  | _ => True

/-- If the call is on a descriptor, that has been opened once more than closed before. -/
def Syscall.OnOpen (before : List Syscall) : Syscall → Prop
  | .openNode _ => True
  | .close fd | .read fd _ | .ioctl fd => before.count (.openNode fd) = before.count (.close fd) + 1

instance (before : List Syscall) : DecidablePred (Syscall.Fresh before) := fun call =>
  match call with
  | .openNode _ => inferInstanceAs (Decidable (_ → _))
  | .close _ | .read _ _ | .ioctl _ => isTrue trivial

/-- The relation of every call to the calls before it. -/
def EachCall (law : List Syscall → Syscall → Prop) (calls : List Syscall) : Prop :=
  ∀ i : Fin calls.length, law (calls.take i) calls[i]

instance (law : List Syscall → Syscall → Prop) [∀ before, DecidablePred (law before)]
    (calls : List Syscall) : Decidable (EachCall law calls) :=
  inferInstanceAs (Decidable (∀ _, _))

theorem eachCall_iff {law : List Syscall → Syscall → Prop} {calls : List Syscall} :
    EachCall law calls ↔
      ∀ before call after, calls = before ++ call :: after → law before call := by
  constructor
  · rintro h before call after rfl
    simpa using h ⟨before.length, by simp⟩
  · intro h i
    exact h _ _ (calls.drop (i + 1)) (by simp)

theorem count_acquire {fd : Int} (hfd : 0 ≤ fd) (calls : List Syscall) :
    (calls.filterMap Syscall.toUse).count (.acquire fd) = calls.count (.openNode fd) := by
  induction calls with
  | nil => rfl
  | cons call calls ih =>
      cases call with
      | openNode result =>
          by_cases hresult : 0 ≤ result
          · rw [List.filterMap_cons_some (toUse_openNode hresult)]
            simp [List.count_cons, ih]
          · have hne : result ≠ fd := fun h => hresult (h ▸ hfd)
            rw [List.filterMap_cons_none (toUse_openNode_failed (not_le.mp hresult))]
            simp [ih, hne]
      | close other => simpa [Syscall.toUse] using ih
      | read other count => simpa [Syscall.toUse] using ih
      | ioctl other => simpa [Syscall.toUse] using ih

theorem count_release (fd : Int) (calls : List Syscall) :
    (calls.filterMap Syscall.toUse).count (.release fd) = calls.count (.close fd) := by
  induction calls with
  | nil => rfl
  | cons call calls ih =>
      cases call with
      | openNode result =>
          by_cases hresult : 0 ≤ result
          · rw [List.filterMap_cons_some (toUse_openNode hresult)]
            simpa using ih
          · rw [List.filterMap_cons_none (toUse_openNode_failed (not_le.mp hresult))]
            simpa using ih
      | close other => simp [Syscall.toUse, List.count_cons, ih]
      | read other count => simpa [Syscall.toUse] using ih
      | ioctl other => simpa [Syscall.toUse] using ih

theorem nonneg_of_mem_acquired {fd : Int} {calls : List Syscall}
    (h : Use.acquire fd ∈ calls.filterMap Syscall.toUse) : 0 ≤ fd := by
  obtain ⟨call, _, huse⟩ := List.mem_filterMap.mp h
  cases call with
  | openNode result =>
      rw [Syscall.toUse] at huse
      split at huse
      · cases huse
        assumption
      · cases huse
  | close other => cases huse
  | read other count => cases huse
  | ioctl other => cases huse

theorem count_heldAfter_calls {calls : List Syscall} {fd : Int} (hfd : 0 ≤ fd)
    (h : Disciplined 0 (calls.filterMap Syscall.toUse)) :
    (heldAfter 0 (calls.filterMap Syscall.toUse)).count fd + calls.count (.close fd) =
      calls.count (.openNode fd) := by
  have hcount := count_heldAfter h fd
  rw [count_release, count_acquire hfd, Multiset.count_zero, zero_add] at hcount
  exact hcount

theorem freshIn_of_fresh {calls : List Syscall} (hfresh : EachCall Syscall.Fresh calls)
    (hdisciplined : Disciplined 0 (calls.filterMap Syscall.toUse)) :
    FreshIn 0 (calls.filterMap Syscall.toUse) := by
  intro before fd after heq
  have hmem : Use.acquire fd ∈ calls.filterMap Syscall.toUse := by simp [heq]
  have hfd := nonneg_of_mem_acquired hmem
  obtain ⟨front, back, hcalls, hfront, hback⟩ := List.filterMap_eq_append_iff.mp heq
  obtain ⟨skipped, call, rest, rfl, hskipped, hcall, _⟩ := List.filterMap_eq_cons_iff.mp hback
  have hbefore : (front ++ skipped).filterMap Syscall.toUse = before := by
    rw [List.filterMap_append, hfront, List.filterMap_eq_nil_iff.mpr hskipped, List.append_nil]
  have hopen : call = .openNode fd := by
    cases call with
    | openNode result =>
        rw [Syscall.toUse] at hcall
        split at hcall <;> cases hcall
        rfl
    | close other => cases hcall
    | read other count => cases hcall
    | ioctl other => cases hcall
  have hbalance := eachCall_iff.mp hfresh (front ++ skipped) call rest (by simp [hcalls])
  rw [hopen] at hbalance
  have hdisciplinedBefore : Disciplined 0 before :=
    (disciplined_append.mp (heq ▸ hdisciplined)).1
  have hcount := count_heldAfter_calls hfd (hbefore.symm ▸ hdisciplinedBefore)
  rw [hbalance hfd, hbefore] at hcount
  rw [← Multiset.count_eq_zero]
  omega

namespace InputSession

/-- The state of the descriptors between operations. -/
structure Conserved (s : InputSession) : Prop where
  balance : ∀ fd, 0 ≤ fd → s.calls.count (.openNode fd) =
    s.calls.count (.close fd) + (Finset.univ.filter fun slot => (s.input.source slot).fd = fd).card
  held_once : ∀ i j, 0 ≤ (s.input.source i).fd →
    (s.input.source i).fd = (s.input.source j).fd → i = j
  on_open : EachCall Syscall.OnOpen s.calls

theorem count_descriptors {fd : Int} (hfd : 0 ≤ fd) (input : CartInput) :
    input.descriptors.count fd =
      (Finset.univ.filter fun slot => (input.source slot).fd = fd).card := by
  rw [CartInput.descriptors, Multiset.count_sum', Finset.card_filter]
  refine Finset.sum_congr rfl fun slot _ => ?_
  rw [CartInputSource.descriptor]
  by_cases heq : (input.source slot).fd = fd
  · rw [heq, if_pos hfd, if_pos rfl, Multiset.count_singleton_self]
  · rw [if_neg heq]
    split
    · exact Multiset.count_eq_zero.mpr (by simpa using Ne.symm heq)
    · rfl

theorem conserved_of_owns {s : InputSession} (howns : OwnsCalls 0 s.calls s.input.descriptors)
    (hfresh : EachCall Syscall.Fresh s.calls) : Conserved s where
  balance fd hfd := by
    have hcount := count_heldAfter_calls hfd howns.1
    rw [howns.2, count_descriptors hfd] at hcount
    omega
  held_once i j hfd heq := by
    have hnodup := nodup_heldAfter (freshIn_of_fresh hfresh howns.1) Multiset.nodup_zero
    rw [howns.2] at hnodup
    have hle := Multiset.nodup_iff_count_le_one.mp hnodup (s.input.source i).fd
    rw [count_descriptors hfd, Finset.card_le_one] at hle
    exact hle i (by simp) j (by simp [heq])
  on_open := by
    rw [eachCall_iff]
    intro before call after heq
    have howns' := howns.1
    have hfreshIn := freshIn_of_fresh hfresh howns.1
    rw [heq, List.filterMap_append] at howns' hfreshIn
    obtain ⟨hbefore, hcall⟩ := disciplined_append.mp howns'
    have hfreshBefore : FreshIn 0 (before.filterMap Syscall.toUse) := by
      intro front fd back h
      refine hfreshIn front fd (back ++ (call :: after).filterMap Syscall.toUse) ?_
      rw [h, List.append_assoc, List.cons_append]
    have hnodup := nodup_heldAfter hfreshBefore Multiset.nodup_zero
    have hheld : ∀ fd, fd ∈ heldAfter 0 (before.filterMap Syscall.toUse) →
        before.count (.openNode fd) = before.count (.close fd) + 1 := by
      intro fd hmem
      have hcount := count_heldAfter hbefore fd
      rw [Multiset.count_eq_one_of_mem hnodup hmem, Multiset.count_zero, zero_add] at hcount
      have hpos : 0 < (before.filterMap Syscall.toUse).count (.acquire fd) := by omega
      have hfd := nonneg_of_mem_acquired (List.count_pos_iff.mp hpos)
      rw [count_release, count_acquire hfd] at hcount
      omega
    cases call with
    | openNode result => trivial
    | close fd => exact hheld fd hcall.1
    | read fd count => exact hheld fd hcall.1
    | ioctl fd => exact hheld fd hcall.1

variable [Target]

/-- In every run in which `open` hands out no open descriptor, descriptors are conserved; a run that
ends with a shutdown has closed each as often as it opened it. -/
theorem descriptors_conserved {ops : List InputOp} {s : InputSession} (run : Run Performs fresh ops s)
    (hinit : ∀ past op rest u, ops = past ++ op :: rest → Run Performs fresh past u →
      InitsEmpty u op) (hfresh : EachCall Syscall.Fresh s.calls) :
    Conserved s ∧ (ops.getLast? = some .shutdown →
      ∀ fd, 0 ≤ fd → s.calls.count (.openNode fd) = s.calls.count (.close fd)) := by
  have howns : OwnsCalls 0 s.calls s.input.descriptors := by
    refine Run.always_of_good (P := fun u => OwnsCalls 0 u.calls u.input.descriptors)
      (descriptors_cleared ▸ OwnsCalls.nil _) (fun u op v _ hu hop h => ?_) hinit List.prefix_rfl run
    obtain ⟨calls, hcalls, hstep⟩ := ownsCalls_step hop h
    rw [hcalls]
    exact hu.append hstep
  have hconserved := conserved_of_owns howns hfresh
  refine ⟨hconserved, fun hlast fd hfd => ?_⟩
  obtain ⟨front, rfl⟩ := List.getLast?_eq_some_iff.mp hlast
  obtain ⟨u, _, hshutdown⟩ := Run.concat_iff.mp run
  have hcleared : s.input = .cleared := hshutdown ▸ rfl
  have hbalance := hconserved.balance fd hfd
  have hnone : (Finset.univ.filter fun slot => (s.input.source slot).fd = fd) = ∅ := by
    refine Finset.filter_eq_empty_iff.mpr fun slot _ => ?_
    rw [hcleared]
    simp only [CartInput.cleared, resetSource]
    omega
  rw [hnone, Finset.card_empty, Nat.add_zero] at hbalance
  exact hbalance

private def unplugging : List InputOp :=
  [.poll (fun _ => [.bytes []]) (fun _ => []), .rescan (.entries [keyboard 3]), .shutdown]

private def wholeLife : List InputOp := .init (.entries [keyboard 3]) :: unplugging

omit [Target] in
theorem descriptors_conserved_wholeLife :
    letI := armv7
    let s := after wholeLife
    Conserved s ∧ (wholeLife.getLast? = some .shutdown →
      ∀ fd, 0 ≤ fd → s.calls.count (.openNode fd) = s.calls.count (.close fd)) := by
  let _ : Target := armv7
  refine descriptors_conserved (run_after wholeLife) (fun past op rest u heq hpast => ?_)
    (by decide)
  rcases past with _ | ⟨first, past⟩
  · cases (List.cons.inj heq).1
    cases Run.nil_iff.mp hpast
    exact fun slot => (by decide : (-1 : Int) < 0)
  · have hmem : op ∈ unplugging := by
      rw [(List.cons.inj heq).2]
      simp
    simp only [unplugging, List.mem_cons, List.not_mem_nil, or_false] at hmem
    rcases hmem with rfl | rfl | rfl <;> trivial

end InputSession

end VitaLinuxPort
