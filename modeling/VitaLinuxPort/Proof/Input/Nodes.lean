import Mathlib.Algebra.BigOperators.Fin
import VitaLinuxPort.Proof.Input.Session

/-!
# One device in one slot

A discovery pass looks at the directory and at which slots are empty, not at what the other slots
hold. So a rescan that finds the node of an open device again, and reaches it before the empty slots
run out, opens it a second time, and every key press on the device then arrives twice. This is the
only way in which a device comes to sit in two slots.
-/

namespace VitaLinuxPort

variable [Target]

omit [Target] in
theorem pending_handleDisconnect (p : Pump) : (handleDisconnect p).pending = p.pending := by
  unfold handleDisconnect
  dsimp only
  split <;> rfl

theorem length_pending_beginRead (p : Pump) :
    (beginRead p).pending.length ≤
      p.pending.length + p.partialBytes.length / Target.eventBytes := by
  have hevents := length_pending_consumeEvents (eventsOf p.partialBytes) p
  rw [eventsOf, List.length_map, Framing.length_records] at hevents
  rw [beginRead_eq]
  exact hevents

theorem length_pending_pumpSource (reads : List ReadResult) (p : Pump) :
    (pumpSource reads p).pending.length ≤ p.pending.length +
      (p.partialBytes.length + (delivered reads).length) / Target.eventBytes := by
  have hmono : p.partialBytes.length / Target.eventBytes ≤
      (p.partialBytes.length + (delivered reads).length) / Target.eventBytes :=
    Nat.div_le_div_right (Nat.le_add_right _ _)
  induction reads generalizing p with
  | nil => exact (length_pending_beginRead p).trans (Nat.add_le_add_left hmono _)
  | cons got reads ih =>
      have hrest : ∀ data : List UInt8,
          (pumpSource reads ((beginRead p).setBytes ((beginRead p).partialBytes ++ data))).pending.length
            ≤ p.pending.length +
              (p.partialBytes.length + (data ++ delivered reads).length) / Target.eventBytes := by
        intro data
        have hnext := ih ((beginRead p).setBytes ((beginRead p).partialBytes ++ data))
          (Nat.div_le_div_right (Nat.le_add_right _ _))
        have hbytes : (beginRead p).partialBytes.length =
            p.partialBytes.length % Target.eventBytes := by
          rw [beginRead_eq]
          exact Framing.length_rest _ _
        have hsplit := Nat.add_mul_div_left (p.partialBytes.length % Target.eventBytes +
          (data ++ delivered reads).length) (p.partialBytes.length / Target.eventBytes)
          Target.eventBytes_pos
        have hwhole := Nat.mod_add_div p.partialBytes.length Target.eventBytes
        rw [Nat.add_right_comm, hwhole] at hsplit
        have hfirst := length_pending_beginRead p
        simp only [List.length_append, hbytes, Nat.add_assoc] at hnext hsplit ⊢
        omega
      rcases got with (_ | ⟨byte, data⟩) | _ | _ | _ <;> simp only [pumpSource]
      · rw [pending_handleDisconnect]
        exact (length_pending_beginRead p).trans (Nat.add_le_add_left hmono _)
      · exact hrest (byte :: data)
      · have := hrest []
        rw [List.append_nil] at this
        exact this
      · exact (length_pending_beginRead p).trans (Nat.add_le_add_left hmono _)
      · rw [pending_handleDisconnect]
        exact (length_pending_beginRead p).trans (Nat.add_le_add_left hmono _)

theorem length_pending_pollSource (reads : Slot → List ReadResult) (s : PollState) (slot : Slot) :
    (pollSource reads s slot).input.pending.length ≤ s.input.pending.length +
      ((s.input.partialBytes slot).length + (delivered (reads slot)).length) /
        Target.eventBytes := by
  unfold pollSource
  split
  · exact Nat.le_add_right _ _
  · split
    · exact Nat.le_add_right _ _
    · exact length_pending_pumpSource (reads slot) (s.load slot)

theorem length_pending_foldl (reads : Slot → List ReadResult) {slots : List Slot}
    (hnodup : slots.Nodup) (s : PollState) :
    (slots.foldl (pollSource reads) s).input.pending.length ≤ s.input.pending.length +
      (slots.map fun slot => ((s.input.partialBytes slot).length +
        (delivered (reads slot)).length) / Target.eventBytes).sum := by
  induction slots generalizing s with
  | nil => simp
  | cons first rest ih =>
      rw [List.nodup_cons] at hnodup
      have hone := length_pending_pollSource reads s first
      have hmore := ih hnodup.2 (pollSource reads s first)
      have hbytes : ∀ slot ∈ rest, (pollSource reads s first).input.partialBytes slot =
          s.input.partialBytes slot := by
        intro slot hslot
        exact congrArg (·.2.1) (own_pollSource_ne reads s
          (show slot ≠ first from fun h => hnodup.1 (h ▸ hslot)))
      rw [List.map_congr_left fun slot hslot => by rw [hbytes slot hslot]] at hmore
      rw [List.foldl_cons, List.map_cons, List.sum_cons]
      omega

def UniqueNodes (input : CartInput) : Prop :=
  ∀ i j, input.Present i → input.Present j → (input.source i).node = (input.source j).node → i = j

/-- The reads of a poll after a press on the device: its record on every descriptor of the node. -/
def pressOn (input : CartInput) (node : CString) (record : List UInt8) : Slot → List ReadResult :=
  fun slot =>
    if input.Present slot ∧ (input.source slot).node = node then [.bytes record] else []

def OneActionPerPress (input : CartInput) : Prop :=
  ∀ node record resyncs, record.length = Target.eventBytes →
    (pollSources input (pressOn input node record) resyncs).input.pending.length ≤
      input.pending.length + 1

theorem oneActionPerPress_of_unique {input : CartInput} (wf : input.WellFormed)
    (unique : UniqueNodes input) : OneActionPerPress input := by
  intro node record resyncs hrecord
  have hpos := Target.eventBytes_pos
  have hcount := length_pending_foldl (pressOn input node record) (List.nodup_finRange 4)
    { input, resyncs, calls := [] }
  have hterm : ∀ slot, ((input.partialBytes slot).length +
      (delivered (pressOn input node record slot)).length) / Target.eventBytes =
        if input.Present slot ∧ (input.source slot).node = node then 1 else 0 := by
    intro slot
    have hlt := wf.partial_lt slot
    unfold pressOn
    split
    · rw [delivered_bytes, delivered_nil, List.append_nil, hrecord, Nat.add_div_right _ hpos,
        Nat.div_eq_of_lt hlt]
    · rw [delivered_nil, List.length_nil, Nat.add_zero, Nat.div_eq_of_lt hlt]
  have hsum : ((List.finRange 4).map fun slot => ((input.partialBytes slot).length +
      (delivered (pressOn input node record slot)).length) / Target.eventBytes).sum ≤ 1 := by
    simp only [hterm]
    rw [← Fin.sum_univ_def, Finset.sum_boole, Nat.cast_id, Finset.card_le_one]
    intro i hi j hj
    rw [Finset.mem_filter] at hi hj
    exact unique i j hi.2.1 hj.2.1 (hi.2.2.trans hj.2.2.symm)
  exact hcount.trans (Nat.add_le_add_left hsum _)

omit [Target] in
theorem exists_mem_zip_iff {α β : Type*} {xs : List α} {ys : List β} {y : β} :
    (∃ x, (x, y) ∈ xs.zip ys) ↔ y ∈ ys.take xs.length := by
  induction xs generalizing ys with
  | nil => simp
  | cons x xs ih =>
      cases ys with
      | nil => simp
      | cons first ys => simp [← ih, exists_or]

/-- None of the candidates a pass will claim is the node of a device that is there. -/
def NewNodes (input : CartInput) (directory : Directory) : Prop :=
  ∀ candidate ∈ directory.planned.take input.emptySlots.length, ∀ slot, input.Present slot →
    (input.source slot).node ≠ candidate.node

omit [Target] in
theorem node_of_mem_claims {input : CartInput} {directory : Directory} {slot : Slot}
    {candidate : CartInputCandidate} (h : (slot, candidate) ∈ input.claims directory) :
    ((input.withClaims (input.claims directory)).source slot).node = candidate.node := by
  rw [source_of_mem_claims h]
  exact (prepared_of_mem_claims h).node

omit [Target] in
theorem slot_eq_of_claims {input : CartInput} {directory : Directory}
    (hnames : directory.NamesNodup) {i j : Slot} {a b : CartInputCandidate}
    (ha : (i, a) ∈ input.claims directory) (hb : (j, b) ∈ input.claims directory)
    (hnode : a.node = b.node) : i = j := by
  obtain ⟨m, hm, hma⟩ := List.getElem_of_mem ha
  obtain ⟨n, hn, hnb⟩ := List.getElem_of_mem hb
  have hnodup := List.pairwise_iff_getElem.mp (nodup_planned_nodes hnames)
  rw [CartInput.claims, List.length_zip] at hm hn
  simp only [CartInput.claims, List.getElem_zip, Prod.mk.injEq] at hma hnb
  have hsame : m = n := by
    rcases Nat.lt_trichotomy m n with hlt | heq | hlt
    · have := hnodup m n (by simp; omega) (by simp; omega) hlt
      simp [hma.2, hnb.2, hnode] at this
    · exact heq
    · have := hnodup n m (by simp; omega) (by simp; omega) hlt
      simp [hma.2, hnb.2, hnode] at this
  subst hsame
  exact hma.1.symm.trans hnb.1

theorem uniqueNodes_withClaims_iff {input : CartInput} (wf : input.WellFormed)
    {directory : Directory} (hnames : directory.NamesNodup) (unique : UniqueNodes input) :
    UniqueNodes (input.withClaims (input.claims directory)) ↔ NewNodes input directory := by
  have hcases := source_withClaims_cases input directory
  constructor
  · intro hunique candidate hcandidate slot hpresent hnode
    obtain ⟨claimed, hmem⟩ := exists_mem_zip_iff.mpr hcandidate
    have hempty := (wf.absent_iff claimed).mpr (fd_lt_of_mem_claims hmem)
    have hkept : (input.withClaims (input.claims directory)).source slot = input.source slot := by
      rcases hcases slot with ⟨other, hother, _⟩ | ⟨_, h⟩
      · exact absurd ((wf.absent_iff slot).mpr (fd_lt_of_mem_claims hother)) hpresent
      · exact h
    have hclaimed := source_of_mem_claims hmem
    have heq := hunique claimed slot (by simp [CartInput.Present, hclaimed,
      CartInputCandidate.connected]) (by rw [CartInput.Present, hkept]; exact hpresent)
      (by rw [hkept, hnode]; exact node_of_mem_claims hmem)
    exact hpresent (heq ▸ hempty)
  · intro hnew i j hi hj hnode
    rcases hcases i with ⟨a, ha, _⟩ | ⟨_, hikept⟩ <;>
      rcases hcases j with ⟨b, hb, _⟩ | ⟨_, hjkept⟩
    · rw [node_of_mem_claims ha, node_of_mem_claims hb] at hnode
      exact slot_eq_of_claims hnames ha hb hnode
    · rw [CartInput.Present, hjkept] at hj
      rw [node_of_mem_claims ha, hjkept] at hnode
      exact absurd hnode.symm (hnew a (exists_mem_zip_iff.mp ⟨i, ha⟩) j hj)
    · rw [CartInput.Present, hikept] at hi
      rw [node_of_mem_claims hb, hikept] at hnode
      exact absurd hnode (hnew b (exists_mem_zip_iff.mp ⟨j, hb⟩) i hi)
    · rw [CartInput.Present, hikept] at hi
      rw [CartInput.Present, hjkept] at hj
      rw [hikept, hjkept] at hnode
      exact unique i j hi hj hnode

omit [Target] in
theorem uniqueNodes_cleared : UniqueNodes .cleared := by
  intro i j hi
  exact absurd rfl hi

theorem UniqueNodes.poll {input : CartInput} (unique : UniqueNodes input)
    (reads : Slot → List ReadResult) (resyncs : Slot → List ResyncAnswer) :
    UniqueNodes (cartInputPoll input reads resyncs).input := by
  intro i j hi hj hnode
  have hiSame := sameDevice_of_present hi
  have hjSame := sameDevice_of_present hj
  rw [hiSame.node, hjSame.node] at hnode
  exact unique i j (hiSame.absent_iff.not.mp hi) (hjSame.absent_iff.not.mp hj) hnode

namespace InputSession

omit [Target] in
def NamesNodup : InputOp → Prop
  | .init directory | .rescan directory => directory.NamesNodup
  | .poll _ _ | .shutdown => True

omit [Target] in
def RescansNewNodes (s : InputSession) : InputOp → Prop
  | .rescan directory => NewNodes s.input directory
  | _ => True

theorem uniqueNodes_step_iff {s t : InputSession} {op : InputOp} (hnames : NamesNodup op)
    (wf : s.input.WellFormed) (unique : UniqueNodes s.input) (h : Performs s op t) :
    UniqueNodes t.input ↔ RescansNewNodes s op := by
  subst h
  cases op with
  | init directory =>
      rw [input_perform_init]
      refine iff_of_true ?_ trivial
      refine (uniqueNodes_withClaims_iff .cleared hnames uniqueNodes_cleared).mpr ?_
      intro _ _ slot hpresent
      exact absurd rfl hpresent
  | rescan directory =>
      rw [input_perform_rescan]
      exact uniqueNodes_withClaims_iff wf hnames unique
  | poll reads resyncs => exact iff_of_true (unique.poll reads resyncs) trivial
  | shutdown => exact iff_of_true uniqueNodes_cleared trivial

/-- Throughout a run no device sits in two slots, and no press enqueues two actions, exactly when
every rescan of the run claims new nodes only. -/
theorem uniqueNodes_iff_rescansNewNodes {ops : List InputOp} {t : InputSession}
    (run : Run Performs fresh ops t) (hnames : ∀ op ∈ ops, NamesNodup op) :
    (∀ past u, past <+: ops → Run Performs fresh past u →
        UniqueNodes u.input ∧ OneActionPerPress u.input) ↔
      ∀ past op rest u, ops = past ++ op :: rest → Run Performs fresh past u →
        RescansNewNodes u op := by
  refine Run.always_iff performs_functional (I := fun u => u.input.WellFormed) run .cleared
    ⟨uniqueNodes_cleared, oneActionPerPress_of_unique .cleared uniqueNodes_cleared⟩
    (fun _ _ _ _ wf h => wellFormed_step wf h) fun u op v hop wf hu h => ?_
  rw [← uniqueNodes_step_iff (hnames op hop) wf hu.1 h]
  exact ⟨And.left, fun hunique =>
    ⟨hunique, oneActionPerPress_of_unique (wellFormed_step wf h) hunique⟩⟩

omit [Target] in
theorem uniqueNodes_iff_rescansNewNodes_keyboard :
    letI := armv7
    let ops := [.init (.entries [keyboard 3]), .rescan (.entries [keyboard 4])]
    (∀ past u, past <+: ops → Run Performs fresh past u →
        UniqueNodes u.input ∧ OneActionPerPress u.input) ↔
      ∀ past op rest u, ops = past ++ op :: rest → Run Performs fresh past u →
        RescansNewNodes u op := by
  let _ : Target := armv7
  refine uniqueNodes_iff_rescansNewNodes (run_after _) ?_
  intro op hop
  simp only [List.mem_cons, List.not_mem_nil, or_false] at hop
  rcases hop with rfl | rfl <;> exact List.nodup_singleton _

private def press : List UInt8 := List.replicate 8 0 ++ [1, 0, 1, 0, 1, 0, 0, 0]

omit [Target] in
/-- A rescan with the keyboard still plugged in opens it again, and ESC arrives twice. -/
theorem keyboard_claimed_twice :
    letI := armv7
    let s := after [.init (.entries [keyboard 3]), .rescan (.entries [keyboard 4])]
    let pressed := pollSources s.input (pressOn s.input "event0".toList press) fun _ => []
    s.input.Present 0 ∧ s.input.Present 1 ∧
      (s.input.source 0).node = (s.input.source 1).node ∧
      pressed.input.pending = [.quit, .quit] := by
  decide

end InputSession

end VitaLinuxPort
