import VitaLinuxPort.Lib.BoundedQueue
import VitaLinuxPort.Proof.Input.Reassembly
import VitaLinuxPort.Proof.Input.Session

/-!
# The action queue

All that happens to the queue of actions is that events of a connected source offer actions to it
and that a poll takes its front. So over a run of polls it is a bounded queue: the actions returned
and those still pending are the ones offered while fewer than eight were pending, in the order in
which the slots are pumped and in each slot the order of the stream.

Which events offer an action is decided on the value cut to sixteen bits, so that it is not only the
presses.
-/

namespace VitaLinuxPort

/-- The action an event offers to the queue. -/
def InputEvent.offered (event : InputEvent) (source : CartInputSource) : Option CartInputAction :=
  if event.type = evKey ∧ source.state = .connected ∧
      cartInputKeyEmitsAction event.value.toUInt32.toUInt16 = true ∧
      cartInputMapKey event.code ≠ .none then
    some (cartInputMapKey event.code)
  else none

theorem InputEvent.offered_ne_none {event : InputEvent} {source : CartInputSource}
    {action : CartInputAction} (h : event.offered source = some action) : action ≠ .none := by
  unfold InputEvent.offered at h
  split at h
  · next hoffers =>
      cases h
      exact hoffers.2.2.2
  · cases h

theorem enqueueAction_eq {action : CartInputAction} (h : action ≠ .none)
    (pending : List CartInputAction) :
    enqueueAction pending action = BoundedQueue.offer 8 pending action := by
  rw [enqueueAction, if_neg h, BoundedQueue.offer]

theorem pending_processKeyEvent (code : UInt16) (value : Int32) (p : Pump) :
    (processKeyEvent code value p).pending =
      if cartInputKeyEmitsAction value.toUInt32.toUInt16 = true ∧ cartInputMapKey code ≠ .none then
        BoundedQueue.offer 8 p.pending (cartInputMapKey code)
      else p.pending := by
  unfold processKeyEvent
  dsimp only
  by_cases hemits : cartInputKeyEmitsAction value.toUInt32.toUInt16 = true
  · by_cases hmapped : cartInputMapKey code = .none
    · rw [if_pos hemits, if_neg (fun h => h.2 hmapped), hmapped]
      rfl
    · rw [if_pos hemits, if_pos ⟨hemits, hmapped⟩, enqueueAction_eq hmapped]
  · rw [if_neg hemits, if_neg (fun h => hemits h.1)]

theorem pending_consumeEvent (event : InputEvent) (p : Pump) :
    (consumeEvent event p).pending =
      (event.offered p.source).toList.foldl (BoundedQueue.offer 8) p.pending := by
  by_cases hkey : event.type = evKey
  · have hsyn : event.type ≠ evSyn := by
      rw [hkey]
      decide
    unfold consumeEvent InputEvent.offered
    dsimp only
    rw [if_neg hsyn, if_pos hkey]
    by_cases hconnected : p.source.state = .connected
    · rw [if_pos hconnected, pending_processKeyEvent]
      simp only [hkey, hconnected, true_and]
      split <;> rfl
    · rw [if_neg hconnected, if_neg fun h => hconnected h.2.1]
      rfl
  · have hoffered : event.offered p.source = none := if_neg fun h => hkey h.1
    rw [hoffered]
    rcases haxis : axisSlot event.code with _ | slot <;>
      simp only [consumeEvent, haxis, if_neg hkey] <;> split_ifs <;> rfl

variable [Target]

open BufferStep

omit [Target] in
/-- The actions, at most one, that a step of a pump offers. -/
def BufferStep.offers (p : Pump) : BufferStep → List CartInputAction
  | consume event => (event.offered p.source).toList
  | request _ _ | fill _ _ | lose => []

/-- The actions offered along a trace of a pump. -/
def traceOffers : List BufferStep → Pump → List CartInputAction
  | [], _ => []
  | step :: trace, p => step.offers p ++ traceOffers trace (step.apply p)

theorem pending_apply (step : BufferStep) (p : Pump) :
    (step.apply p).pending = (step.offers p).foldl (BoundedQueue.offer 8) p.pending := by
  cases step with
  | consume event => exact pending_consumeEvent event _
  | request held count => rfl
  | fill held data => rfl
  | lose =>
      unfold BufferStep.apply handleDisconnect
      dsimp only
      split <;> rfl

theorem pending_replay (trace : List BufferStep) (p : Pump) :
    (replay trace p).pending = (traceOffers trace p).foldl (BoundedQueue.offer 8) p.pending := by
  induction trace generalizing p with
  | nil => rfl
  | cons step trace ih =>
      rw [traceOffers, List.foldl_append, ← pending_apply]
      exact ih (step.apply p)

/-- The actions a poll offers from the given slots on. -/
def pollOffers (reads : Slot → List ReadResult) : List Slot → PollState → List CartInputAction
  | [], _ => []
  | slot :: slots, s =>
      (if (s.input.source slot).fd < 0 ∨ (s.input.source slot).state = .desync then []
        else traceOffers (pumpTrace (reads slot) (s.input.partialBytes slot)) (s.load slot)) ++
        pollOffers reads slots (pollSource reads s slot)

theorem pending_foldl_pollSource (reads : Slot → List ReadResult) (slots : List Slot)
    (s : PollState) :
    (slots.foldl (pollSource reads) s).input.pending =
      (pollOffers reads slots s).foldl (BoundedQueue.offer 8) s.input.pending := by
  induction slots generalizing s with
  | nil => rfl
  | cons slot slots ih =>
      rw [List.foldl_cons, ih, pollOffers, List.foldl_append]
      refine congrArg (List.foldl _ · _) ?_
      by_cases hclosed : (s.input.source slot).fd < 0
      · rw [pollSource, if_pos hclosed, if_pos (.inl hclosed)]
        rfl
      · by_cases hdesync : (s.input.source slot).state = .desync
        · rw [pollSource, if_neg hclosed, if_pos hdesync, if_pos (.inr hdesync)]
          rfl
        · rw [pollSource, if_neg hclosed, if_neg hdesync, if_neg (by simp [hclosed, hdesync])]
          have hpump := pending_replay (pumpTrace (reads slot) (s.input.partialBytes slot))
            (s.load slot)
          have hreplay := replay_pumpTrace (reads slot) (s.load slot)
          exact (congrArg Pump.pending hreplay).symm.trans hpump

/-- What the reads and ioctls of one poll answer. -/
structure PollAnswers where
  reads : Slot → List ReadResult
  resyncs : Slot → List ResyncAnswer

/-- What happens at the queue in one poll: the offers of the sources, and the front is taken. -/
def pollEvents (input : CartInput) (answers : PollAnswers) :
    List (BoundedQueue.Event CartInputAction) :=
  (pollOffers answers.reads (List.finRange 4)
    { input, resyncs := answers.resyncs, calls := [] }).map .offer ++ [.take]

theorem pending_pollSources (input : CartInput) (answers : PollAnswers) :
    (pollSources input answers.reads answers.resyncs).input.pending =
      BoundedQueue.run 8 input.pending ((pollOffers answers.reads (List.finRange 4)
        { input, resyncs := answers.resyncs, calls := [] }).map .offer) := by
  rw [BoundedQueue.run_offers]
  exact pending_foldl_pollSource answers.reads _ _

theorem pending_cartInputPoll (input : CartInput) (answers : PollAnswers) :
    (cartInputPoll input answers.reads answers.resyncs).input.pending =
      BoundedQueue.run 8 input.pending (pollEvents input answers) := by
  rw [pollEvents, BoundedQueue.run_append, ← pending_pollSources]
  rfl

/-- What may stand in the queue. -/
structure QueueOk (pending : List CartInputAction) : Prop where
  length_le : pending.length ≤ 8
  none_not_mem : .none ∉ pending

omit [Target] in
theorem queueOk_nil : QueueOk [] := ⟨Nat.zero_le _, List.not_mem_nil⟩

omit [Target] in
theorem QueueOk.offer {pending : List CartInputAction} (ok : QueueOk pending)
    {action : CartInputAction} (h : action ≠ .none) :
    QueueOk (BoundedQueue.offer 8 pending action) where
  length_le := BoundedQueue.length_offer_le ok.length_le action
  none_not_mem := by
    rw [BoundedQueue.offer_eq_append, List.mem_append]
    rintro (hold | hnew)
    · exact ok.none_not_mem hold
    · split at hnew
      · exact h (List.mem_singleton.mp hnew).symm
      · exact absurd hnew List.not_mem_nil

omit [Target] in
theorem QueueOk.offers {pending offers : List CartInputAction} (ok : QueueOk pending)
    (h : .none ∉ offers) : QueueOk (offers.foldl (BoundedQueue.offer 8) pending) := by
  induction offers generalizing pending with
  | nil => exact ok
  | cons action offers ih =>
      obtain ⟨hfirst, hrest⟩ := not_or.mp (List.mem_cons.not.mp h)
      exact ih (ok.offer (Ne.symm hfirst)) hrest

omit [Target] in
theorem QueueOk.tail {pending : List CartInputAction} (ok : QueueOk pending) :
    QueueOk pending.tail where
  length_le := Nat.le_trans (List.tail_sublist pending).length_le ok.length_le
  none_not_mem hmem := ok.none_not_mem (List.mem_of_mem_tail hmem)

omit [Target] in
theorem none_not_mem_offers (step : BufferStep) (p : Pump) : .none ∉ step.offers p := by
  cases step with
  | consume event =>
      intro hmem
      exact InputEvent.offered_ne_none (Option.mem_toList.mp hmem) rfl
  | request held count => exact List.not_mem_nil
  | fill held data => exact List.not_mem_nil
  | lose => exact List.not_mem_nil

theorem none_not_mem_traceOffers (trace : List BufferStep) (p : Pump) :
    .none ∉ traceOffers trace p := by
  induction trace generalizing p with
  | nil => exact List.not_mem_nil
  | cons step trace ih =>
      rw [traceOffers, List.mem_append]
      exact not_or.mpr ⟨none_not_mem_offers step p, ih _⟩

theorem none_not_mem_pollOffers (reads : Slot → List ReadResult) (slots : List Slot)
    (s : PollState) : .none ∉ pollOffers reads slots s := by
  induction slots generalizing s with
  | nil => exact List.not_mem_nil
  | cons slot slots ih =>
      rw [pollOffers, List.mem_append]
      refine not_or.mpr ⟨?_, ih _⟩
      split
      · exact List.not_mem_nil
      · exact none_not_mem_traceOffers _ _

omit [Target] in
theorem QueueOk.front_ne_none {front : CartInputAction} {rest : List CartInputAction}
    (ok : QueueOk (front :: rest)) : front ≠ .none := by
  rintro rfl
  exact ok.none_not_mem List.mem_cons_self

theorem QueueOk.drained {input : CartInput} (ok : QueueOk input.pending)
    (reads : Slot → List ReadResult) (resyncs : Slot → List ResyncAnswer) :
    QueueOk (pollSources input reads resyncs).input.pending := by
  rw [pollSources, pending_foldl_pollSource]
  exact ok.offers (none_not_mem_pollOffers reads _ _)

theorem QueueOk.poll {input : CartInput} (ok : QueueOk input.pending)
    (reads : Slot → List ReadResult) (resyncs : Slot → List ResyncAnswer) :
    QueueOk (cartInputPoll input reads resyncs).input.pending :=
  (ok.drained reads resyncs).tail

theorem action_cartInputPoll_eq_none_iff {input : CartInput} (ok : QueueOk input.pending)
    (answers : PollAnswers) :
    (cartInputPoll input answers.reads answers.resyncs).action = .none ↔
      (pollSources input answers.reads answers.resyncs).input.pending = [] := by
  have hok := ok.drained answers.reads answers.resyncs
  change (pollSources input answers.reads answers.resyncs).input.pending.headD .none = .none ↔ _
  rcases hqueue : (pollSources input answers.reads answers.resyncs).input.pending with
    _ | ⟨front, rest⟩
  · simp
  · rw [hqueue] at hok
    simp [hok.front_ne_none]

theorem taken_pollEvents {input : CartInput} (ok : QueueOk input.pending) (answers : PollAnswers) :
    BoundedQueue.taken 8 input.pending (pollEvents input answers) =
      [(cartInputPoll input answers.reads answers.resyncs).action].filter (· ≠ .none) := by
  have hok := ok.drained answers.reads answers.resyncs
  rw [pollEvents, BoundedQueue.taken_append, BoundedQueue.taken_offers, ← pending_pollSources]
  change _ = [(pollSources input answers.reads answers.resyncs).input.pending.headD .none].filter _
  rcases hqueue : (pollSources input answers.reads answers.resyncs).input.pending with
    _ | ⟨front, rest⟩
  · rfl
  · rw [hqueue] at hok
    simp [BoundedQueue.taken, hok.front_ne_none]

namespace InputSession

theorem queueOk_of_run {ops : List InputOp} {s : InputSession} (run : Run Performs fresh ops s) :
    QueueOk s.input.pending := by
  refine run.invariant (P := fun s => QueueOk s.input.pending) queueOk_nil ?_
  rintro s op _ ok rfl
  cases op with
  | init directory =>
      rw [input_perform_init]
      exact queueOk_nil
  | rescan directory =>
      rw [input_perform_rescan]
      exact ok
  | poll reads resyncs => exact ok.poll reads resyncs
  | shutdown => exact queueOk_nil

def poll (s : InputSession) (answers : PollAnswers) : InputSession :=
  s.perform (.poll answers.reads answers.resyncs)

/-- What happens at the queue in a run of polls. -/
def queueEvents (s : InputSession) : List PollAnswers → List (BoundedQueue.Event CartInputAction)
  | [] => []
  | answers :: polls => pollEvents s.input answers ++ queueEvents (s.poll answers) polls

/-- What the polls of a run return. -/
def returned (s : InputSession) : List PollAnswers → List CartInputAction
  | [] => []
  | answers :: polls =>
      (cartInputPoll s.input answers.reads answers.resyncs).action ::
        returned (s.poll answers) polls

theorem taken_queueEvents (polls : List PollAnswers) {s : InputSession}
    (ok : QueueOk s.input.pending) :
    BoundedQueue.taken 8 s.input.pending (s.queueEvents polls) =
        (s.returned polls).filter (· ≠ .none) ∧
      BoundedQueue.run 8 s.input.pending (s.queueEvents polls) =
        (polls.foldl poll s).input.pending := by
  induction polls generalizing s with
  | nil => exact ⟨rfl, rfl⟩
  | cons answers polls ih =>
      have hone := pending_cartInputPoll s.input answers
      obtain ⟨htaken, hrun⟩ := ih (s := s.poll answers) (ok.poll answers.reads answers.resyncs)
      rw [show (s.poll answers).input.pending = _ from hone] at htaken hrun
      constructor
      · rw [queueEvents, BoundedQueue.taken_append, taken_pollEvents ok, htaken, ← List.filter_append]
        rfl
      · rw [queueEvents, BoundedQueue.run_append, hrun]
        rfl

/-- From any state a session can reach, a run of polls returns, in order and leaving what stays in
the queue, the actions its sources offer while fewer than eight are pending; and a poll returns no
action only from an empty queue. -/
theorem polls_fifo {ops : List InputOp} {s : InputSession} (run : Run Performs fresh ops s)
    (polls : List PollAnswers) :
    (s.returned polls).filter (· ≠ .none) ++ (polls.foldl poll s).input.pending =
        s.input.pending ++ BoundedQueue.accepted 8 s.input.pending (s.queueEvents polls) ∧
      ∀ answers : PollAnswers, (cartInputPoll s.input answers.reads answers.resyncs).action = .none ↔
        (pollSources s.input answers.reads answers.resyncs).input.pending = [] := by
  have ok := queueOk_of_run run
  obtain ⟨htaken, hrun⟩ := taken_queueEvents polls ok
  refine ⟨?_, action_cartInputPoll_eq_none_iff ok⟩
  rw [← htaken, ← hrun]
  exact BoundedQueue.taken_append_run _ _

/-- The keyboard of the session, ESC and then Q pressed on it at once. -/
private def twoPresses : PollAnswers where
  reads slot := if slot = 0 then
    [.bytes (List.replicate 8 0 ++ [1, 0, 1, 0, 1, 0, 0, 0] ++
      List.replicate 8 0 ++ [1, 0, 16, 0, 1, 0, 0, 0])] else []
  resyncs _ := []

private def noPresses : PollAnswers where
  reads _ := []
  resyncs _ := []

omit [Target] in
theorem polls_fifo_twoPresses :
    letI := armv7
    let s := after [.init (.entries [keyboard 3])]
    let polls := [twoPresses, noPresses, noPresses]
    (s.returned polls).filter (· ≠ .none) ++ (polls.foldl poll s).input.pending =
        s.input.pending ++ BoundedQueue.accepted 8 s.input.pending (s.queueEvents polls) ∧
      s.returned polls = [.quit, .quit, .none] := by
  exact ⟨(@polls_fifo armv7 _ _ (@run_after armv7 _) _).1, by decide⟩

end InputSession

section Presses

/-- A key event of a connected source offers the action of its code where it is a press, and nothing
where it is not. -/
def PressPolicy (code : UInt16) (value : Int32) : Prop :=
  ∀ p : Pump, p.source.state = .connected →
    (consumeEvent ⟨evKey, code, value⟩ p).pending =
      (if value = 1 then keyActionTable.lookup code else none).toList.foldl
        (BoundedQueue.offer 8) p.pending

omit [Target] in
theorem keyActionTable_ne_none {row : UInt16 × CartInputAction} (h : row ∈ keyActionTable) :
    row.2 ≠ .none := by
  revert row
  decide

omit [Target] in
theorem cartInputMapKey_ne_none {code : UInt16} {action : CartInputAction}
    (h : keyActionTable.lookup code = some action) : cartInputMapKey code ≠ .none := by
  obtain ⟨front, back, heq, _⟩ := List.lookup_eq_some_iff.mp h
  have hrow : (code, action) ∈ keyActionTable := by simp [heq]
  rw [cartInputMapKey, h]
  exact keyActionTable_ne_none hrow

omit [Target] in
theorem offered_key (code : UInt16) (value : Int32) {source : CartInputSource}
    (h : source.state = .connected) :
    InputEvent.offered ⟨evKey, code, value⟩ source =
      if value.toUInt32.toUInt16 = 1 then keyActionTable.lookup code else none := by
  unfold InputEvent.offered cartInputKeyEmitsAction
  simp only [h, beq_iff_eq, true_and]
  rcases hrow : keyActionTable.lookup code with _ | action
  · simp [cartInputMapKey, hrow]
  · have hmapped := cartInputMapKey_ne_none hrow
    simp only [hmapped, ne_eq, not_false_iff, and_true]
    simp [cartInputMapKey, hrow]

omit [Target] in
/-- The press policy fails exactly for the values that are one only in their low sixteen bits, on
the keys that mean an action. -/
theorem pressPolicy_iff (code : UInt16) (value : Int32) :
    PressPolicy code value ↔
      (value.toUInt32.toUInt16 = 1 → value = 1 ∨ keyActionTable.lookup code = none) := by
  constructor
  · intro policy hlow
    let p := Pump.ofOwn ({ CartInputSource.zero with state := .connected }, [], [])
    have hoffered := policy p rfl
    rw [pending_consumeEvent, offered_key code value rfl, if_pos hlow] at hoffered
    by_cases hvalue : value = 1
    · exact .inl hvalue
    · refine .inr ?_
      rw [if_neg hvalue] at hoffered
      rcases hrow : keyActionTable.lookup code with _ | action
      · rfl
      · simp [hrow, p, Pump.ofOwn, BoundedQueue.offer] at hoffered
  · intro hlow p hconnected
    rw [pending_consumeEvent, offered_key code value hconnected]
    by_cases hvalue : value = 1
    · rw [if_pos hvalue, if_pos (by subst hvalue; decide)]
    · rw [if_neg hvalue]
      split
      · next h =>
          rw [(hlow h).resolve_left hvalue]
      · rfl

omit [Target] in
/-- The value 65537 on ESC quits. -/
theorem not_pressPolicy_esc : ¬ PressPolicy 1 65537 := by
  intro policy
  have hoffered := policy (Pump.ofOwn ({ CartInputSource.zero with state := .connected }, [], [])) rfl
  revert hoffered
  decide

end Presses

end VitaLinuxPort
