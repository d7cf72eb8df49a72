import VitaLinuxPort.Proof.Input.Session

/-!
# Which source owns an axis

A frame gives each axis to the first slot that contributes to it. That is the source of the highest
rank as long as no higher slot holds a source of a higher rank that contributes too. A pass over an
empty object leaves the slots in this order, and losing devices keeps it. A rescan keeps it if what
it claims fits in between the devices that are there, which nothing in the pass looks at.
-/

namespace VitaLinuxPort

def CartInput.Contributes (input : CartInput) (axis : AxisSlot) (slot : Slot) : Prop :=
  input.Present slot ∧ (input.source slot).axisValid axis = true ∧
    cartInputAxisNormalize ((input.source slot).lastRaw axis) ((input.source slot).axis axis) ≠
      cartInputAxisInvalid

instance (input : CartInput) (axis : AxisSlot) : DecidablePred (input.Contributes axis) :=
  fun _ => inferInstanceAs (Decidable (_ ∧ _ ∧ _))

theorem addSource_axis (input : CartInput) (axis : AxisSlot) (frame : CartInputFrame) (i : Slot) :
    (CartInputFrame.addSource input.source frame i).axisPresent axis =
        (decide (input.Contributes axis i) || frame.axisPresent axis) ∧
      (CartInputFrame.addSource input.source frame i).axisOwner axis =
        if input.Contributes axis i ∧ frame.axisPresent axis = false then i.val
        else frame.axisOwner axis := by
  unfold CartInputFrame.addSource
  split
  · next habsent =>
      have hnot : ¬ input.Contributes axis i := fun h => h.1 habsent
      simp [hnot]
  · next hpresent =>
      have htakes : frame.takes (input.source i) axis = true ↔
          input.Contributes axis i ∧ frame.axisPresent axis = false := by
        simp [CartInputFrame.takes, CartInput.Contributes, CartInput.Present, hpresent, and_assoc]
      constructor
      · rw [Bool.eq_iff_iff]
        cases hframe : frame.axisPresent axis <;> simp [htakes, hframe]
      · simp only [htakes]

/-- Each axis goes to the first contributor of those asked, if there is none already. -/
theorem foldl_addSource_axis (input : CartInput) (axis : AxisSlot) (slots : List Slot)
    (frame : CartInputFrame) :
    (slots.foldl (CartInputFrame.addSource input.source) frame).axisPresent axis =
        (slots.any (fun i => input.Contributes axis i) || frame.axisPresent axis) ∧
      (slots.foldl (CartInputFrame.addSource input.source) frame).axisOwner axis =
        if frame.axisPresent axis then frame.axisOwner axis
        else (slots.find? fun i => input.Contributes axis i).elim (frame.axisOwner axis) Fin.val := by
  induction slots generalizing frame with
  | nil => simp
  | cons first rest ih =>
      obtain ⟨hpresent, howner⟩ := addSource_axis input axis frame first
      obtain ⟨ihPresent, ihOwner⟩ := ih (CartInputFrame.addSource input.source frame first)
      rw [List.foldl_cons, ihPresent, ihOwner, hpresent, howner]
      by_cases hfirst : input.Contributes axis first <;>
        cases hframe : frame.axisPresent axis <;> simp [hfirst]

theorem buildFrame_axis (input : CartInput) (axis : AxisSlot) :
    (buildFrame input).axisPresent axis =
        (List.finRange 4).any (fun i => input.Contributes axis i) ∧
      (buildFrame input).axisOwner axis =
        ((List.finRange 4).find? fun i => input.Contributes axis i).elim 4 Fin.val := by
  have h := foldl_addSource_axis input axis (List.finRange 4) .empty
  rw [← buildFrame] at h
  simpa [CartInputFrame.empty] using h

/-- The source could have a value for the axis: it is calibrated to a range that can be
normalized. -/
def CartInputSource.Calibrated (source : CartInputSource) (axis : AxisSlot) : Prop :=
  source.axisValid axis = true ∧ (source.axis axis).Usable

theorem CartInput.Contributes.calibrated {input : CartInput} {axis : AxisSlot} {slot : Slot}
    (h : input.Contributes axis slot) : (input.source slot).Calibrated axis :=
  ⟨h.2.1, usable_of_normalize_ne h.2.2⟩

namespace InputSession

/-- Every axis of the frame is owned by a contributor of the highest rank, and by none exactly when
there is none. -/
def ArbitratesByRank (s : InputSession) : Prop :=
  ∀ axis, ((buildFrame s.input).axisPresent axis = true →
      ∃ owner : Slot, (buildFrame s.input).axisOwner axis = owner ∧
        s.input.Contributes axis owner ∧
        ∀ slot, s.input.Contributes axis slot → s.rank slot ≤ s.rank owner) ∧
    ((buildFrame s.input).axisPresent axis = false ∧ (buildFrame s.input).axisOwner axis = 4 ↔
      ∀ slot, ¬ s.input.Contributes axis slot)

/-- Of two sources calibrated for an axis, the one in the higher slot does not have the higher
rank. -/
def RankOrdered (s : InputSession) : Prop :=
  ∀ i j axis, i < j → s.input.Present i → s.input.Present j →
    (s.input.source i).Calibrated axis → (s.input.source j).Calibrated axis → s.rank j ≤ s.rank i

theorem RankOrdered.arbitrates {s : InputSession} (ordered : RankOrdered s) :
    ArbitratesByRank s := by
  intro axis
  obtain ⟨hpresent, howner⟩ := buildFrame_axis s.input axis
  rw [hpresent, howner]
  constructor
  · intro hany
    rcases hfind : (List.finRange 4).find? fun i => decide (s.input.Contributes axis i) with
      _ | owner
    · rw [List.find?_eq_none] at hfind
      rw [List.any_eq_true] at hany
      obtain ⟨slot, hmem, hslot⟩ := hany
      exact absurd hslot (hfind slot hmem)
    · obtain ⟨hcontributes, before, after, hsplit, hbefore⟩ :=
        List.find?_eq_some_iff_append.mp hfind
      rw [decide_eq_true_eq] at hcontributes
      refine ⟨owner, rfl, hcontributes, fun slot hslot => ?_⟩
      -- a contributor is not among the slots before the first one
      have hle : owner ≤ slot := by
        have hmem : slot ∈ before ++ owner :: after := hsplit ▸ List.mem_finRange slot
        have hsorted : (before ++ owner :: after).Pairwise (· < ·) :=
          hsplit ▸ List.pairwise_lt_finRange 4
        rcases List.mem_append.mp hmem with hmem | hmem
        · simpa [hslot] using hbefore slot hmem
        · rcases List.mem_cons.mp hmem with rfl | hmem
          · exact le_refl _
          · exact ((List.pairwise_cons.mp (List.pairwise_append.mp hsorted).2.1).1 slot hmem).le
      rcases hle.eq_or_lt with rfl | hlt
      · exact le_refl _
      · exact ordered owner slot axis hlt hcontributes.1 hslot.1 hcontributes.calibrated
          hslot.calibrated
  · rw [List.any_eq_false]
    simp only [List.mem_finRange, decide_eq_true_eq, true_imp_iff]
    constructor
    · exact And.left
    · intro hnone
      refine ⟨hnone, ?_⟩
      rw [List.find?_eq_none.mpr (by simpa using hnone)]
      rfl

/-- Each claim of a rescan fits in between the devices that are there and share an axis with it. -/
def RescanFits (s : InputSession) : InputOp → Prop
  | .rescan directory =>
      ∀ claim ∈ s.input.claims directory, ∀ slot axis, s.input.Present slot →
        (s.input.source slot).Calibrated axis → claim.2.prepared.Calibrated axis →
          (claim.1 < slot → s.rank slot ≤ claim.2.rank) ∧
          (slot < claim.1 → claim.2.rank ≤ s.rank slot)
  | _ => True

theorem rank_le_of_claims {input : CartInput} {directory : Directory} {i j : Slot}
    {a b : CartInputCandidate} (ha : (i, a) ∈ input.claims directory)
    (hb : (j, b) ∈ input.claims directory) (hij : i < j) : b.rank ≤ a.rank := by
  obtain ⟨m, hm, hma⟩ := List.getElem_of_mem ha
  obtain ⟨n, hn, hnb⟩ := List.getElem_of_mem hb
  have hpairwise := List.pairwise_iff_getElem.mp (claims_pairwise input directory)
  rcases Nat.lt_trichotomy m n with hlt | rfl | hlt
  · have hbefore := (hpairwise m n hm hn hlt).2
    rw [hma, hnb] at hbefore
    rcases hbefore with h | h
    · exact h.le
    · exact h.1.ge
  · cases hma.symm.trans hnb
    exact absurd hij (lt_irrefl _)
  · have hlower := (hpairwise n m hn hm hlt).1
    rw [hma, hnb] at hlower
    exact absurd hij hlower.asymm

theorem rankOrdered_discovered {s : InputSession} {base : CartInput} {directory : Directory}
    (hbase : RankOrdered { s with input := base })
    (hfits : RescanFits { s with input := base } (.rescan directory)) :
    RankOrdered (s.discovered (discoverPass base directory)) := by
  intro i j axis hij hi hj hci hcj
  simp only [discovered, claimed_discoverPass, input_discoverPass, CartInput.Present] at *
  rcases source_withClaims_cases base directory i with ⟨a, ha, hia⟩ | ⟨hinone, hikept⟩ <;>
    rcases source_withClaims_cases base directory j with ⟨b, hb, hjb⟩ | ⟨hjnone, hjkept⟩
  · rw [mem_claims_iff_lookup.mp ha, mem_claims_iff_lookup.mp hb]
    exact rank_le_of_claims ha hb hij
  · rw [hia] at hci
    rw [hjkept] at hj hcj
    rw [mem_claims_iff_lookup.mp ha, hjnone]
    exact (hfits (i, a) ha j axis hj hcj hci).1 hij
  · rw [hjb] at hcj
    rw [hikept] at hi hci
    rw [mem_claims_iff_lookup.mp hb, hinone]
    exact (hfits (j, b) hb i axis hi hci hcj).2 hij
  · rw [hikept] at hi hci
    rw [hjkept] at hj hcj
    rw [hinone, hjnone]
    exact hbase i j axis hij hi hj hci hcj

variable [Target]

theorem rankOrdered_step {s t : InputSession} {op : InputOp} (ordered : RankOrdered s)
    (hfits : RescanFits s op) (h : Performs s op t) : RankOrdered t := by
  subst h
  cases op with
  | init directory =>
      refine rankOrdered_discovered ?_ ?_
      · intro i _ _ _ hi
        exact absurd rfl hi
      · intro _ _ slot _ hslot
        exact absurd rfl hslot
  | rescan directory => exact rankOrdered_discovered ordered hfits
  | poll reads resyncs =>
      intro i j axis hij hi hj hci hcj
      have hiSame := sameDevice_of_present hi
      have hjSame := sameDevice_of_present hj
      simp only [perform, CartInputSource.Calibrated, hiSame.axis, hiSame.axisValid, hjSame.axis,
        hjSame.axisValid] at hci hcj
      exact ordered i j axis hij (hiSame.absent_iff.not.mp hi) (hjSame.absent_iff.not.mp hj) hci hcj
  | shutdown =>
      intro i _ _ _ hi
      exact absurd rfl hi

/-- In a run whose rescans all fit, every frame in every state gives each axis to a contributor of
the highest rank. -/
theorem arbitratesByRank_of_rescansFit {ops : List InputOp}
    (hfits : ∀ past op rest u, ops = past ++ op :: rest → Run Performs fresh past u →
      RescanFits u op) :
    ∀ past u, past <+: ops → Run Performs fresh past u → ArbitratesByRank u := by
  intro past u hpre hpast
  have hstart : RankOrdered fresh := fun _ _ _ _ hi => absurd rfl hi
  have hordered := Run.always_of_good hstart
    (fun _ _ _ _ hu hgood h => rankOrdered_step hu hgood h) hfits hpre hpast
  exact hordered.arbitrates

instance (source : CartInputSource) (axis : AxisSlot) : Decidable (source.Calibrated axis) :=
  inferInstanceAs (Decidable (_ ∧ _ ∧ _))

private def pads (fd : Int) : List Dirent :=
  [gamepad "event0".toList [] fd, gamepad "event1".toList [] (fd + 1),
    gamepad "event2".toList [] (fd + 2)]

private def buttons (fd : Int) : Dirent := gamepad "event3".toList vitaButtonsPhys fd

private def buttonsFirst : List InputOp :=
  [.init (.entries [buttons 3]), .rescan (.entries [gamepad "event0".toList [] 4])]

omit [Target] in
theorem arbitratesByRank_of_rescansFit_buttonsFirst :
    letI := armv7
    Run Performs fresh buttonsFirst (after buttonsFirst) ∧ ArbitratesByRank (after buttonsFirst) := by
  let _ : Target := armv7
  have hrun := run_after buttonsFirst
  refine ⟨hrun, arbitratesByRank_of_rescansFit (fun past op rest u heq hpast => ?_) buttonsFirst _
    (List.prefix_refl _) hrun⟩
  cases hpast.unique performs_functional (run_after past)
  rcases past with _ | ⟨first, _ | ⟨second, more⟩⟩
  · cases (List.cons.inj heq).1
    trivial
  · simp only [List.singleton_append] at heq
    cases (List.cons.inj heq).1
    cases (List.cons.inj (List.cons.inj heq).2).1
    show ∀ claim ∈ CartInput.claims _ _, ∀ slot axis, _
    decide
  · simp [buttonsFirst] at heq

omit [Target] in
/-- Three gamepads hold the lower slots when the buttons are plugged in: a gamepad of rank 2 owns the
axes, though the buttons of rank 4 contribute to them. -/
theorem gamepad_owns_axis_over_buttons :
    letI := armv7
    let s := after [.init (.entries (pads 3)), .rescan (.entries (pads 6 ++ [buttons 9]))]
    (buildFrame s.input).axisPresent 0 = true ∧ (buildFrame s.input).axisOwner 0 = 0 ∧
      s.rank 0 = 2 ∧ s.input.Contributes 0 3 ∧ s.rank 3 = 4 ∧
      (List.ofFn fun slot => (s.input.source slot).node).Nodup := by
  decide

end InputSession

end VitaLinuxPort
