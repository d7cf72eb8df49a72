import VitaLinuxPort.Proof.Input.ActionQueue

/-!
# What a slot without a device holds

Of a device that is gone nothing is left in its slot: no key is held, every axis is at zero and no
part of a record is kept for the next device. The frame a poll reports is therefore that of the
devices that are there, and so it would be whatever an absent slot held.
-/

namespace VitaLinuxPort

theorem heldKeys_probeSnapshotAxes (source : CartInputSource) (fd : Int) (probe : Probe) :
    (probeSnapshotAxes source fd probe).1.heldKeys = 0 := by
  unfold probeSnapshotAxes
  dsimp only
  split <;> rfl

theorem heldKeys_classifySource (scratch : CartInputSource) (h : scratch.heldKeys = 0)
    (fd sysfsRank : Int) (probe : Probe) :
    (classifySource scratch fd sysfsRank probe).2.1.heldKeys = 0 := by
  unfold classifySource
  split
  · exact h
  · next name _ =>
      have hsnapshot := heldKeys_probeSnapshotAxes
        { scratch with name := name.take (cartInputNameMax - 1) } fd probe
      simp only [apply_ite Prod.snd, apply_ite Prod.fst]
      split_ifs
      any_goals exact h
      all_goals exact hsnapshot

theorem heldKeys_examineEntry {entry : Dirent} {candidate : CartInputCandidate}
    (h : (examineEntry entry).1 = some candidate) : candidate.prepared.heldKeys = 0 := by
  have hclassified := heldKeys_classifySource
    { CartInputSource.zero with fd := -1, node := entry.dName } rfl entry.opened (sysfsRank entry)
    entry.probe
  unfold examineEntry at h
  split at h
  · cases h
  · split_ifs at h
    dsimp only at h
    split at h
    · cases h
    · cases h
      exact hclassified

theorem heldKeys_of_mem_claims {input : CartInput} {directory : Directory} {slot : Slot}
    {candidate : CartInputCandidate} (h : (slot, candidate) ∈ input.claims directory) :
    candidate.connected.heldKeys = 0 := by
  obtain ⟨entry, hexamined⟩ := exists_entry_of_mem_planned (List.of_mem_zip h).2
  exact heldKeys_examineEntry hexamined

/-- Nothing of a device is left. -/
structure Clean (source : CartInputSource) (partialBytes : List UInt8) : Prop where
  heldKeys : source.heldKeys = 0
  lastRaw : ∀ axis, source.lastRaw axis = 0
  partialBytes : partialBytes = []

structure CartInput.Representation (input : CartInput) : Prop where
  absent_iff : ∀ slot, (input.source slot).fd < 0 ↔ (input.source slot).state = .absent
  clean : ∀ slot, (input.source slot).state = .absent →
    Clean (input.source slot) (input.partialBytes slot)
  queue : QueueOk input.pending

/-- The objects hold the same devices; what their absent slots hold may differ. -/
def CartInput.SameDevices (input other : CartInput) : Prop :=
  ∀ slot, input.source slot = other.source slot ∨ ¬ input.Present slot ∧ ¬ other.Present slot

/-- The frame shows the devices that are there and nothing else. -/
structure CartInputFrame.Shows (frame : CartInputFrame) (input : CartInput) : Prop where
  unaffected : ∀ other, input.SameDevices other → buildFrame other = frame
  connectedMask : ∀ slot : Slot, frame.connectedMask.toNat.testBit slot ↔ input.Present slot
  heldKeys : ∀ code, frame.heldKeys.toNat.testBit code →
    ∃ slot, input.Present slot ∧ (input.source slot).heldKeys.toNat.testBit code
  axisOwner : ∀ axis, frame.axisPresent axis = true →
    ∃ slot : Slot, input.Present slot ∧ frame.axisOwner axis = slot

section Frame

variable {input other : CartInput}

theorem addSource_congr (h : input.SameDevices other) (frame : CartInputFrame) (slot : Slot) :
    frame.addSource input.source slot = frame.addSource other.source slot := by
  unfold CartInputFrame.addSource
  rcases h slot with hsame | ⟨habsent, hotherAbsent⟩
  · rw [hsame]
  · rw [if_pos (not_not.mp habsent), if_pos (not_not.mp hotherAbsent)]

theorem buildFrame_congr (h : input.SameDevices other) : buildFrame input = buildFrame other := by
  have hadd : CartInputFrame.addSource input.source = CartInputFrame.addSource other.source := by
    funext frame slot
    exact addSource_congr h frame slot
  rw [buildFrame, buildFrame, hadd]

private theorem testBit_slot : ∀ i slot : Slot,
    ((1 : UInt32) <<< UInt32.ofNat i).toNat.testBit slot = decide (slot = i) := by
  decide

/-- What the loop over the sources has put into the frame once it has passed the given slots. -/
private structure ShowsSlots (input : CartInput) (slots : List Slot) (frame : CartInputFrame) :
    Prop where
  connectedMask : ∀ slot : Slot,
    frame.connectedMask.toNat.testBit slot ↔ slot ∈ slots ∧ input.Present slot
  heldKeys : ∀ code, frame.heldKeys.toNat.testBit code →
    ∃ slot, input.Present slot ∧ (input.source slot).heldKeys.toNat.testBit code
  axisOwner : ∀ axis, frame.axisPresent axis = true →
    ∃ slot : Slot, input.Present slot ∧ frame.axisOwner axis = slot

private theorem ShowsSlots.addSource {slots : List Slot} {frame : CartInputFrame}
    (h : ShowsSlots input slots frame) (i : Slot) :
    ShowsSlots input (slots ++ [i]) (frame.addSource input.source i) := by
  unfold CartInputFrame.addSource
  split
  · next habsent =>
      refine ⟨fun slot => ?_, h.heldKeys, h.axisOwner⟩
      rw [h.connectedMask slot, List.mem_append, List.mem_singleton]
      constructor
      · rintro ⟨hmem, hpresent⟩
        exact ⟨.inl hmem, hpresent⟩
      · rintro ⟨hmem | rfl, hpresent⟩
        · exact ⟨hmem, hpresent⟩
        · exact absurd habsent hpresent
  · next hpresent =>
      refine ⟨fun slot => ?_, fun code hcode => ?_, fun axis haxis => ?_⟩
      · rw [UInt32.toNat_or, Nat.testBit_or, testBit_slot, Bool.or_eq_true, h.connectedMask slot,
          decide_eq_true_eq, List.mem_append, List.mem_singleton]
        constructor
        · rintro (⟨hmem, hslot⟩ | rfl)
          · exact ⟨.inl hmem, hslot⟩
          · exact ⟨.inr rfl, hpresent⟩
        · rintro ⟨hmem | rfl, hslot⟩
          · exact .inl ⟨hmem, hslot⟩
          · exact .inr rfl
      · rw [UInt64.toNat_or, Nat.testBit_or, Bool.or_eq_true] at hcode
        rcases hcode with hbefore | hhere
        · exact h.heldKeys code hbefore
        · exact ⟨i, hpresent, hhere⟩
      · dsimp only at haxis ⊢
        by_cases htakes : frame.takes (input.source i) axis = true
        · rw [if_pos htakes]
          exact ⟨i, hpresent, rfl⟩
        · rw [if_neg htakes]
          simp only [htakes, Bool.false_or] at haxis
          exact h.axisOwner axis haxis

private theorem showsSlots_foldl (input : CartInput) (slots : List Slot) :
    ShowsSlots input slots (slots.foldl (CartInputFrame.addSource input.source) .empty) := by
  induction slots using List.reverseRecOn with
  | nil =>
      refine ⟨fun slot => ?_, fun code hcode => ?_, nofun⟩
      · simp [CartInputFrame.empty]
      · simp [CartInputFrame.empty] at hcode
  | append_singleton slots i ih =>
      rw [List.foldl_concat]
      exact ih.addSource i

theorem shows_buildFrame (input : CartInput) : (buildFrame input).Shows input := by
  have hslots := showsSlots_foldl input (List.finRange 4)
  refine ⟨fun other h => (buildFrame_congr h).symm, fun slot => ?_, hslots.heldKeys, hslots.axisOwner⟩
  rw [buildFrame, hslots.connectedMask slot]
  simp

end Frame

variable [Target]

theorem clean_pollOwn (own : Own) (habsent : own.1.state = .absent ↔ own.1.fd < 0)
    (hclean : own.1.state = .absent → Clean own.1 own.2.1) (reads : List ReadResult)
    (h : (pollOwn reads own).1.state = .absent) :
    Clean (pollOwn reads own).1 (pollOwn reads own).2.1 := by
  unfold pollOwn at h ⊢
  split at h
  · next hclosed =>
      rw [if_pos hclosed]
      exact hclean h
  · next hopen =>
      rw [if_neg hopen]
      split at h
      · next hdesync => exact absurd (hdesync.symm.trans h) (by decide)
      · next hdesync =>
          rw [if_neg hdesync]
          rcases pumpSource_cases reads (Pump.ofOwn own) with hsame | ⟨q, _, heq⟩
          · exact absurd (habsent.mp (hsame.device.absent_iff.mp h)) hopen
          · have hlost := lostDevice_handleDisconnect q
            rw [heq]
            exact ⟨hlost.heldKeys, congrFun hlost.lastRaw, rfl⟩

namespace CartInput.Representation

omit [Target] in
theorem cleared : CartInput.cleared.Representation where
  absent_iff _ := by simp [CartInput.cleared, resetSource]
  clean _ _ := ⟨rfl, fun _ => rfl, rfl⟩
  queue := queueOk_nil

theorem poll {input : CartInput} (rep : input.Representation) (wf : input.WellFormed)
    (reads : Slot → List ReadResult) (resyncs : Slot → List ResyncAnswer) :
    (cartInputPoll input reads resyncs).input.Representation where
  absent_iff slot := ((wf.poll reads resyncs).absent_iff slot).symm
  clean slot habsent := by
    have hown := own_cartInputPoll input reads resyncs slot
    have hpolled := clean_pollOwn (input.source slot, input.partialBytes slot, resyncs slot)
      (wf.absent_iff slot) (rep.clean slot) (reads slot)
    rw [← hown] at hpolled
    exact hpolled habsent
  queue := rep.queue.poll reads resyncs

theorem withClaims {input : CartInput} (rep : input.Representation) (wf : input.WellFormed)
    (directory : Directory) :
    (input.withClaims (input.claims directory)).Representation where
  absent_iff slot := ((wf.withClaims directory).absent_iff slot).symm
  clean slot habsent := by
    rcases source_withClaims_cases input directory slot with ⟨candidate, _, h⟩ | ⟨_, h⟩
    · rw [h] at habsent
      cases habsent
    · rw [h] at habsent ⊢
      exact rep.clean slot habsent
  queue := rep.queue

omit [Target] in
/-- What is claimed for a device finds no key held and no part of a record in its slot. -/
theorem claimed {input : CartInput} (rep : input.Representation) {directory : Directory}
    {slot : Slot} {candidate : CartInputCandidate} (h : (slot, candidate) ∈ input.claims directory) :
    ((input.withClaims (input.claims directory)).source slot).heldKeys = 0 ∧
      (input.withClaims (input.claims directory)).partialBytes slot = [] := by
  rw [source_of_mem_claims h]
  have habsent := (rep.absent_iff slot).mp (fd_lt_of_mem_claims h)
  exact ⟨heldKeys_of_mem_claims h, (rep.clean slot habsent).partialBytes⟩

end CartInput.Representation

namespace InputSession

theorem representation_step {s t : InputSession} {op : InputOp}
    (h : s.input.WellFormed ∧ s.input.Representation) (hstep : Performs s op t) :
    t.input.WellFormed ∧ t.input.Representation := by
  refine ⟨wellFormed_step h.1 hstep, ?_⟩
  subst hstep
  cases op with
  | init directory =>
      rw [input_perform_init]
      exact CartInput.Representation.cleared.withClaims .cleared directory
  | rescan directory =>
      rw [input_perform_rescan]
      exact h.2.withClaims h.1 directory
  | poll reads resyncs => exact h.2.poll h.1 reads resyncs
  | shutdown => exact .cleared

/-- In every state a session can reach an absent slot holds nothing of any device, so that the next
device claimed for it begins with no key held and no part of a record; and a poll shows no absent
slot. -/
theorem representation_of_run {ops : List InputOp} {s : InputSession}
    (run : Run Performs fresh ops s) :
    s.input.Representation ∧
      (∀ directory slot candidate, (slot, candidate) ∈ s.input.claims directory →
        ((s.perform (.rescan directory)).input.source slot).heldKeys = 0 ∧
          (s.perform (.rescan directory)).input.partialBytes slot = []) ∧
      ∀ reads resyncs, (cartInputPoll s.input reads resyncs).frame.Shows
        (s.perform (.poll reads resyncs)).input := by
  have hrep : s.input.WellFormed ∧ s.input.Representation :=
    run.invariant (P := fun s => s.input.WellFormed ∧ s.input.Representation) ⟨.cleared, .cleared⟩
      fun _ _ _ => representation_step
  refine ⟨hrep.2, fun directory slot candidate hclaim => ?_, fun reads resyncs => ?_⟩
  · rw [input_perform_rescan]
    exact hrep.2.claimed hclaim
  · exact shows_buildFrame _

/-- A gamepad in mid-record whose descriptor then fails, and a keyboard in its slot. -/
private def gamepadLost : List InputOp :=
  [.init (.entries [gamepad "event0".toList [] 3]),
    .poll (fun _ => [.bytes [1, 2, 3], .failed]) fun _ => [],
    .rescan (.entries [keyboard 4])]

omit [Target] in
theorem representation_of_run_gamepadLost :
    letI := armv7
    let s := after gamepadLost
    s.input.Representation ∧ s.input.Present 0 ∧ s.input.partialBytes 0 = [] := by
  let _ : Target := armv7
  exact ⟨(representation_of_run (run_after gamepadLost)).1, by decide, by decide⟩

end InputSession

end VitaLinuxPort
