import Mathlib.Data.Fintype.Pi
import VitaLinuxPort.Proof.Input.Session

/-!
# Generation counters

A source's counter starts at zero, stands at one while the slot has a device, and goes to two when
the device is lost. A claim resets the source and takes over the counter of the prepared one, so it
always ends at one: up from zero, but down from two. Hence churn shows as long as no rescan claims a
slot that has had a device, and a device that is plugged in again leaves no trace in the frames.
-/

namespace VitaLinuxPort

/-- The counter has gone up, in the order of serial numbers. -/
def Later (before after : UInt32) : Prop :=
  0 < (after - before).toNat ∧ (after - before).toNat < 2 ^ 31

instance (before after : UInt32) : Decidable (Later before after) :=
  inferInstanceAs (Decidable (_ ∧ _))

theorem later_add_one (before : UInt32) : Later before (before + 1) := by
  rw [Later, UInt32.add_comm before 1, UInt32.add_sub_cancel]
  decide

def CartInputFrame.Connected (frame : CartInputFrame) (slot : Slot) : Prop :=
  frame.connectedMask &&& (1 <<< UInt32.ofNat slot) ≠ 0

theorem connectedMask_foldl (input : CartInput) (slots : List Slot) (frame : CartInputFrame) :
    (slots.foldl (CartInputFrame.addSource input.source) frame).connectedMask =
      slots.foldl (fun mask i =>
        if decide (input.Present i) then mask ||| (1 <<< UInt32.ofNat i) else mask)
        frame.connectedMask := by
  induction slots generalizing frame with
  | nil => rfl
  | cons first rest ih =>
      rw [List.foldl_cons, List.foldl_cons, ih]
      by_cases hpresent : input.Present first
      · have habsent : ¬ (input.source first).state = .absent := hpresent
        simp [CartInputFrame.addSource, habsent, hpresent]
      · have habsent : (input.source first).state = .absent := not_not.mp hpresent
        simp [CartInputFrame.addSource, habsent, hpresent]

theorem connected_buildFrame_iff (input : CartInput) (slot : Slot) :
    (buildFrame input).Connected slot ↔ input.Present slot := by
  have hmask : ∀ (present : Slot → Bool) (slot : Slot),
      ((List.finRange 4).foldl (fun mask i =>
        if present i then mask ||| (1 <<< UInt32.ofNat i) else mask) (0 : UInt32)) &&&
          (1 <<< UInt32.ofNat slot) ≠ 0 ↔ present slot = true := by
    decide
  rw [CartInputFrame.Connected, buildFrame, connectedMask_foldl]
  exact (hmask (fun i => decide (input.Present i)) slot).trans decide_eq_true_iff

instance (frame : CartInputFrame) (slot : Slot) : Decidable (frame.Connected slot) :=
  inferInstanceAs (Decidable (_ ≠ _))

namespace InputSession

/-- The counter of a slot in use is one; in an empty slot it tells whether there was a device. -/
structure Counted (input : CartInput) : Prop where
  present : ∀ slot, input.Present slot → (input.source slot).generation = 1
  absent : ∀ slot, ¬ input.Present slot →
    (input.source slot).generation = 0 ∨ (input.source slot).generation = 2

theorem counted_cleared : Counted .cleared where
  present _ h := absurd rfl h
  absent _ _ := .inl rfl

theorem generation_of_mem_claims {input : CartInput} {directory : Directory} {slot : Slot}
    {candidate : CartInputCandidate} (h : (slot, candidate) ∈ input.claims directory) :
    ((input.withClaims (input.claims directory)).source slot).generation = 1 := by
  rw [source_of_mem_claims h]
  show candidate.prepared.generation + 1 = 1
  rw [(prepared_of_mem_claims h).generation]
  rfl

theorem counted_withClaims {input : CartInput} (counted : Counted input) (directory : Directory) :
    Counted (input.withClaims (input.claims directory)) where
  present slot h := by
    rcases source_withClaims_cases input directory slot with ⟨candidate, hmem, _⟩ | ⟨_, hkept⟩
    · exact generation_of_mem_claims hmem
    · rw [CartInput.Present, hkept] at h
      rw [hkept]
      exact counted.present slot h
  absent slot h := by
    rcases source_withClaims_cases input directory slot with ⟨candidate, _, hclaimed⟩ | ⟨_, hkept⟩
    · exact absurd (by simp [CartInput.Present, hclaimed, CartInputCandidate.connected]) h
    · rw [CartInput.Present, hkept] at h
      rw [hkept]
      exact counted.absent slot h

def Renews : InputOp → Prop
  | .init _ | .shutdown => True
  | .rescan _ | .poll _ _ => False

/-- A rescan claims only slots that have not had a device. -/
def ClaimsUnused (s : InputSession) : InputOp → Prop
  | .rescan directory =>
      ∀ claim ∈ s.input.claims directory, (s.input.source claim.1).generation = 0
  | _ => True

/-- The counter of every slot that the step connects or disconnects goes up. An initialization
connects the slots of an object it has cleared. -/
def CountsUp (s : InputSession) (op : InputOp) (t : InputSession) : Prop :=
  match op with
  | .init directory => ∀ claim ∈ CartInput.cleared.claims directory,
      Later (CartInput.cleared.source claim.1).generation (t.input.source claim.1).generation
  | .rescan directory => ∀ claim ∈ s.input.claims directory,
      Later (s.input.source claim.1).generation (t.input.source claim.1).generation
  | .poll _ _ => ∀ slot, s.input.Present slot → ¬ t.input.Present slot →
      Later (s.input.source slot).generation (t.input.source slot).generation
  | .shutdown => True

variable [Target]

theorem counted_poll {input : CartInput} (wf : input.WellFormed) (counted : Counted input)
    (reads : Slot → List ReadResult) (resyncs : Slot → List ResyncAnswer) :
    Counted (cartInputPoll input reads resyncs).input where
  present slot h := by
    have hsame := sameDevice_of_present h
    rw [hsame.generation]
    exact counted.present slot (hsame.absent_iff.not.mp h)
  absent slot h := by
    rcases cartInputPoll_cases input reads resyncs slot with hsame | ⟨hopen, hlost⟩
    · rw [hsame.generation]
      exact counted.absent slot ((not_congr hsame.absent_iff.not).mp h)
    · have hpresent : input.Present slot := fun habsent => by
        have := (wf.absent_iff slot).mp habsent
        omega
      rw [hlost.generation, counted.present slot hpresent]
      exact .inr rfl

theorem counted_step {s t : InputSession} {op : InputOp} (wf : s.input.WellFormed)
    (counted : Counted s.input) (h : Performs s op t) : Counted t.input := by
  subst h
  cases op with
  | init directory =>
      rw [input_perform_init]
      exact counted_withClaims counted_cleared directory
  | rescan directory =>
      rw [input_perform_rescan]
      exact counted_withClaims counted directory
  | poll reads resyncs => exact counted_poll wf counted reads resyncs
  | shutdown => exact counted_cleared

theorem counted_of_run {ops : List InputOp} {s : InputSession} (run : Run Performs fresh ops s) :
    s.input.WellFormed ∧ Counted s.input :=
  run.invariant (P := fun s => s.input.WellFormed ∧ Counted s.input) ⟨.cleared, counted_cleared⟩
    fun _ _ _ h hstep => ⟨wellFormed_step h.1 hstep, counted_step h.1 h.2 hstep⟩

theorem countsUp_iff {s t : InputSession} {op : InputOp} (wf : s.input.WellFormed)
    (counted : Counted s.input) (h : Performs s op t) : CountsUp s op t ↔ ClaimsUnused s op := by
  subst h
  cases op with
  | init directory =>
      refine iff_of_true (fun claim hmem => ?_) trivial
      rw [input_perform_init, generation_of_mem_claims hmem]
      exact later_add_one 0
  | rescan directory =>
      refine forall₂_congr fun claim hmem => ?_
      have habsent : ¬ s.input.Present claim.1 :=
        not_not.mpr ((wf.absent_iff claim.1).mpr (fd_lt_of_mem_claims hmem))
      rw [input_perform_rescan, generation_of_mem_claims hmem]
      rcases counted.absent claim.1 habsent with hzero | htwo
      · rw [hzero]
        decide
      · rw [htwo]
        decide
  | poll reads resyncs =>
      refine iff_of_true (fun slot hpresent hgone => ?_) trivial
      rcases cartInputPoll_cases s.input reads resyncs slot with hsame | ⟨_, hlost⟩
      · exact absurd (hsame.absent_iff.not.mpr hpresent) hgone
      · rw [show (s.perform (.poll reads resyncs)).input =
          (cartInputPoll s.input reads resyncs).input from rfl, hlost.generation]
        exact later_add_one _
  | shutdown => exact iff_of_true trivial trivial

/-- A slot that has lost its device stays empty as long as only unused slots are claimed. -/
def Spent (input : CartInput) (slot : Slot) : Prop :=
  ¬ input.Present slot ∧ (input.source slot).generation = 2

theorem spent_step {s t : InputSession} {op : InputOp} {slot : Slot} (wf : s.input.WellFormed)
    (hrenews : ¬ Renews op) (hunused : ClaimsUnused s op) (hspent : Spent s.input slot)
    (h : Performs s op t) : Spent t.input slot := by
  subst h
  cases op with
  | init directory => exact absurd trivial hrenews
  | rescan directory =>
      rw [input_perform_rescan]
      rcases source_withClaims_cases s.input directory slot with ⟨candidate, hmem, _⟩ | ⟨_, hkept⟩
      · have hzero := hunused _ hmem
        rw [hspent.2] at hzero
        cases hzero
      · rw [Spent, CartInput.Present, hkept]
        exact hspent
  | poll reads resyncs =>
      rcases cartInputPoll_cases s.input reads resyncs slot with hsame | ⟨hopen, hlost⟩
      · exact ⟨(not_congr hsame.absent_iff.not).mpr hspent.1, hsame.generation.trans hspent.2⟩
      · have hclosed := (wf.absent_iff slot).mp (not_not.mp hspent.1)
        omega
  | shutdown => exact absurd trivial hrenews

theorem present_or_spent_step {s t : InputSession} {op : InputOp} {slot : Slot}
    (wf : s.input.WellFormed) (counted : Counted s.input) (hrenews : ¬ Renews op)
    (hpresent : s.input.Present slot) (h : Performs s op t) :
    t.input.Present slot ∨ Spent t.input slot := by
  have hcounted := counted_step wf counted h
  by_cases hafter : t.input.Present slot
  · exact .inl hafter
  refine .inr ⟨hafter, ?_⟩
  subst h
  cases op with
  | init directory => exact absurd trivial hrenews
  | rescan directory =>
      rw [input_perform_rescan] at hafter
      rcases source_withClaims_cases s.input directory slot with ⟨candidate, _, hclaimed⟩ | ⟨_, hkept⟩
      · exact absurd (by simp [CartInput.Present, hclaimed, CartInputCandidate.connected]) hafter
      · rw [CartInput.Present, hkept] at hafter
        exact absurd hpresent hafter
  | poll reads resyncs =>
      rcases cartInputPoll_cases s.input reads resyncs slot with hsame | ⟨_, hlost⟩
      · exact absurd (hsame.absent_iff.not.mpr hpresent) hafter
      · exact hlost.generation.trans (by rw [counted.present slot hpresent]; rfl)
  | shutdown => exact absurd trivial hrenews

/-- Two frames between which a slot was disconnected and connected again, while nothing changed in
the other slots, differ in their totals. The frame of a poll is that of the state it leaves. -/
def ReconnectsShow (ops : List InputOp) : Prop :=
  ∀ past lost regained rest u v w slot, ops = past ++ lost ++ regained ++ rest →
    (∀ op ∈ lost ++ regained, ¬ Renews op) →
    Run Performs fresh past u → Run Performs u lost v → Run Performs v regained w →
    (buildFrame u.input).Connected slot → ¬ v.input.Present slot →
    (buildFrame w.input).Connected slot →
    (∀ other, other ≠ slot → w.input.source other = u.input.source other) →
    (buildFrame u.input).generationTotal ≠ (buildFrame w.input).generationTotal

theorem reconnectsShow_of_claimsUnused {ops : List InputOp}
    (hunused : ∀ past op rest u, ops = past ++ op :: rest → Run Performs fresh past u →
      ClaimsUnused u op) : ReconnectsShow ops := by
  intro past lost regained rest u v w slot heq hkeep hpast hlost hregained hbefore hbetween hafter _
  rw [connected_buildFrame_iff] at hbefore hafter
  have hcounted := counted_of_run hpast
  have hgood : ∀ {front op back x}, lost ++ regained = front ++ op :: back →
      Run Performs u front x → ¬ Renews op ∧ ClaimsUnused x op := by
    intro front op back x hsplit hfront
    refine ⟨hkeep op (by simp [hsplit]), hunused (past ++ front) op (back ++ rest) x ?_ ?_⟩
    · rw [heq, List.append_assoc past, hsplit]
      simp
    · exact Run.append_iff.mpr ⟨u, hpast, hfront⟩
  have hmiddle : (v.input.WellFormed ∧ Counted v.input) ∧
      (v.input.Present slot ∨ Spent v.input slot) := by
    refine Run.always_of_good (P := fun x => (x.input.WellFormed ∧ Counted x.input) ∧
      (x.input.Present slot ∨ Spent x.input slot)) ⟨hcounted, .inl hbefore⟩
      (fun x op y _ hx (hop : ¬ Renews op ∧ ClaimsUnused x op) h =>
        ⟨⟨wellFormed_step hx.1.1 h, counted_step hx.1.1 hx.1.2 h⟩, ?_⟩)
      (fun front op back x hsplit hfront => @hgood front op (back ++ regained) x (by simp [hsplit])
        hfront) List.prefix_rfl hlost
    rcases hx.2 with hpresent | hspent
    · exact present_or_spent_step hx.1.1 hx.1.2 hop.1 hpresent h
    · exact .inr (spent_step hx.1.1 hop.1 hop.2 hspent h)
  have hspent := hmiddle.2.resolve_left hbetween
  have hend : w.input.WellFormed ∧ Spent w.input slot := by
    refine Run.always_of_good (P := fun x => x.input.WellFormed ∧ Spent x.input slot)
      ⟨hmiddle.1.1, hspent⟩
      (fun x op y _ hx (hop : ¬ Renews op ∧ ClaimsUnused x op) h =>
        ⟨wellFormed_step hx.1 h, spent_step hx.1 hop.1 hop.2 hx.2 h⟩)
      (fun front op back x hsplit hfront => ?_) List.prefix_rfl hregained
    exact @hgood (lost ++ front) op back x (by simp [hsplit])
      (Run.append_iff.mpr ⟨v, hlost, hfront⟩)
  exact absurd hafter hend.2.1

/-- Throughout a run every connect and disconnect counts up and every reconnect shows in the frames,
exactly when no rescan of the run claims a slot that has had a device. -/
theorem churn_counts_iff_claimsUnused {ops : List InputOp} :
    ((∀ past op rest u v, ops = past ++ op :: rest → Run Performs fresh past u →
        Performs u op v → CountsUp u op v) ∧ ReconnectsShow ops) ↔
      ∀ past op rest u, ops = past ++ op :: rest → Run Performs fresh past u →
        ClaimsUnused u op := by
  constructor
  · intro hcounts past op rest u heq hpast
    have hu := counted_of_run hpast
    exact (countsUp_iff hu.1 hu.2 rfl).mp (hcounts.1 past op rest u _ heq hpast rfl)
  · intro hunused
    refine ⟨fun past op rest u v heq hpast h => ?_, reconnectsShow_of_claimsUnused hunused⟩
    have hu := counted_of_run hpast
    exact (countsUp_iff hu.1 hu.2 h).mpr (hunused past op rest u heq hpast)

private def replugged : List InputOp :=
  [.init (.entries [keyboard 3]), .poll (fun _ => []) (fun _ => []),
    .poll (fun _ => [.bytes []]) (fun _ => []), .rescan (.entries [keyboard 4]),
    .poll (fun _ => []) (fun _ => [])]

omit [Target] in
/-- A keyboard is unplugged and plugged in again: its counter goes down, and the frames before and
after are the same in total. -/
theorem replugged_counts_down :
    letI := armv7
    let before := after (replugged.take 2)
    let lost := after (replugged.take 3)
    let regained := after (replugged.take 4)
    let polled := after replugged
    (buildFrame before.input).Connected 0 ∧ ¬ lost.input.Present 0 ∧
      (buildFrame polled.input).Connected 0 ∧
      (lost.input.source 0).generation = 2 ∧ (regained.input.source 0).generation = 1 ∧
      (buildFrame before.input).generationTotal = (buildFrame polled.input).generationTotal := by
  decide

end InputSession

end VitaLinuxPort
