import VitaLinuxPort.Proof.Input.Reassembly
import VitaLinuxPort.Proof.InputWatch.Remaining
import VitaLinuxPort.Toolkit.InputWatch.Watch

/-!
# What the watch reports

However the reads cut the stream up, the events that `vita-inputwatch` prints are those of the bytes it
has read, the same that the cart would consume, and its counts are how many there are of each kind. It
asks for no more than what the record under way lacks, so it never reads past the last event it was to
report, and it ends with 0 exactly where it has reported them all or the device has ended between records.
-/

namespace VitaLinuxPort

/-- The counts of these events, which wrap as `unsigned int` does. -/
def countsOf (events : List InputEvent) : WatchCounts where
  eventsSeen := .ofNat events.length
  keyPresses := .ofNat (events.countP fun e => e.type = evKey ∧ e.value = 1)
  keyReleases := .ofNat (events.countP fun e => e.type = evKey ∧ e.value = 0)
  keyRepeats := .ofNat (events.countP fun e => e.type = evKey ∧ e.value = 2)
  absEvents := .ofNat (events.countP fun e => e.type = evAbs)
  synReports := .ofNat (events.countP fun e => e.type = evSyn ∧ e.code = synReport)

theorem countEvent_countsOf (events : List InputEvent) (event : InputEvent) :
    countEvent event (countsOf events) = countsOf (events ++ [event]) := by
  have hkey : evKey ≠ evAbs := by decide
  have hsyn : evKey ≠ evSyn := by decide
  have habs : evAbs ≠ evSyn := by decide
  unfold countEvent countsOf
  simp only [List.length_append, List.length_singleton, List.countP_append, List.countP_singleton]
  split
  · next htype =>
      simp only [htype, hkey, hsyn, false_and, true_and, decide_false, Bool.false_eq_true, if_false]
      split
      · next hvalue => simp [hvalue]
      split
      · next hvalue => simp [hvalue]
      split
      · next hvalue => simp [hvalue]
      · next hpress hrelease hrepeat => simp [hpress, hrelease, hrepeat]
  split
  · next hother htype => simp [htype, habs, hkey.symm]
  split
  · next hother hother' htype => simp [htype, hsyn.symm, habs.symm]
  · next hother hother' htype => simp [hother, hother', htype]

variable [Target]

namespace Watch

/-- What has been read. -/
def bytes (w : Watch) : List UInt8 := w.reads.flatMap Prod.snd

/-- What is reported is what has been read. -/
structure Exact (maxEvents : UInt32) (w : Watch) : Prop where
  events : w.printed.map Prod.snd = eventsOf w.bytes
  numbers : w.printed.map Prod.fst = (List.range' 1 w.printed.length).map UInt32.ofNat
  counts : w.counts = countsOf (eventsOf w.bytes)
  pending : w.pending = Framing.rest Target.eventBytes w.bytes
  asked : ∀ read ∈ w.reads, 0 < read.1 ∧ read.1 ≤ Target.eventBytes ∧ read.2.length ≤ read.1
  few : maxEvents ≠ 0 → w.printed.length ≤ maxEvents.toNat

/-- All that was to be reported has been, or the device has ended between records. -/
def Done (maxEvents : UInt32) (w : Watch) : Prop :=
  (maxEvents ≠ 0 ∧ w.printed.length = maxEvents.toNat) ∨
    (w.reads.getLast?.map Prod.snd = some [] ∧ w.pending = [])

variable {maxEvents : UInt32} {w : Watch}

omit [Target] in
/-- No read has found the end. -/
def Open (w : Watch) : Prop := ∀ read ∈ w.reads, read.2 ≠ []

theorem Exact.eventsSeen (h : Exact maxEvents w) :
    w.counts.eventsSeen = .ofNat w.printed.length := by
  rw [h.counts, ← h.events]
  simp [countsOf]

theorem Exact.length_pending (h : Exact maxEvents w) : w.pending.length < Target.eventBytes := by
  rw [h.pending]
  exact Framing.length_rest_lt Target.eventBytes_pos _

/-- A turn begins by testing whether all has been reported. -/
theorem Exact.reached_iff (h : Exact maxEvents w) :
    (maxEvents > 0 ∧ w.counts.eventsSeen ≥ maxEvents) ↔
      maxEvents ≠ 0 ∧ w.printed.length = maxEvents.toNat := by
  by_cases hzero : maxEvents = 0
  · subst hzero
    exact iff_of_false (fun h => absurd h.1 (by decide)) fun h => h.1 rfl
  · have hfew := h.few hzero
    have hwidth := maxEvents.toNat_lt
    have hseen : (UInt32.ofNat w.printed.length).toNat = w.printed.length := by
      rw [UInt32.toNat_ofNat', Nat.mod_eq_of_lt (by omega)]
    have hpos : maxEvents > 0 := by
      rw [gt_iff_lt, UInt32.lt_iff_toNat_lt]
      exact Nat.pos_of_ne_zero fun htoNat => hzero (UInt32.toNat_inj.mp htoNat)
    rw [h.eventsSeen, ge_iff_le, UInt32.le_iff_toNat_le, hseen]
    exact ⟨fun h => ⟨hzero, Nat.le_antisymm hfew h.2⟩, fun h => ⟨hpos, h.2.ge⟩⟩

omit [Target] in
theorem Open.not_ended (h : w.Open) : w.reads.getLast?.map Prod.snd ≠ some [] := by
  intro hlast
  obtain ⟨read, hread, hnil⟩ := Option.map_eq_some_iff.mp hlast
  exact h read (List.mem_of_getLast? hread) hnil

theorem exact_started (maxEvents : UInt32) : started.Exact maxEvents where
  events := by
    show [] = eventsOf []
    rw [eventsOf, Framing.records_of_lt Target.eventBytes_pos, List.map_nil]
  numbers := rfl
  counts := by
    show (⟨0, 0, 0, 0, 0, 0⟩ : WatchCounts) = countsOf (eventsOf [])
    rw [eventsOf, Framing.records_of_lt Target.eventBytes_pos, List.map_nil]
    rfl
  pending := (Framing.rest_of_lt Target.eventBytes_pos).symm
  asked := List.forall_mem_nil _
  few _ := Nat.zero_le _

/-- What a read stores is reported where it ends a record, and held back where it does not. -/
theorem Exact.consume {data : List UInt8} (h : w.Exact maxEvents)
    (hroom : maxEvents ≠ 0 → w.printed.length < maxEvents.toNat)
    (hdata : data.length ≤ Target.eventBytes - w.pending.length) :
    Exact maxEvents (Watch.consume
      { w with
        reads := w.reads ++ [(Target.eventBytes - w.pending.length, data)]
        pending := w.pending ++ data }) := by
  have hpending := h.length_pending
  have hbytes : ∀ pending counts printed, bytes
      ⟨pending, counts, printed, w.reads ++ [(Target.eventBytes - w.pending.length, data)]⟩ =
        w.bytes ++ data := by
    intro pending counts printed
    simp [bytes]
  have hasked : ∀ read ∈ w.reads ++ [(Target.eventBytes - w.pending.length, data)],
      0 < read.1 ∧ read.1 ≤ Target.eventBytes ∧ read.2.length ≤ read.1 := by
    intro read hread
    rcases List.mem_append.mp hread with hread | hread
    · exact h.asked read hread
    · rw [List.mem_singleton.mp hread]
      exact ⟨by omega, Nat.sub_le _ _, hdata⟩
  have hevents : eventsOf (w.bytes ++ data) = eventsOf w.bytes ++ eventsOf (w.pending ++ data) := by
    rw [eventsOf_append, h.pending]
  have hrest : Framing.rest Target.eventBytes (w.bytes ++ data) =
      Framing.rest Target.eventBytes (w.pending ++ data) := by
    rw [Framing.rest_append Target.eventBytes_pos, h.pending]
  unfold Watch.consume
  split
  · next hwhole =>
      have hone : eventsOf (w.pending ++ data) = [decodeEvent (w.pending ++ data)] := by
        rw [eventsOf, Framing.records_of_le Target.eventBytes_pos hwhole.ge,
          List.take_of_length_le hwhole.le, List.drop_of_length_le hwhole.le,
          Framing.records_of_lt Target.eventBytes_pos]
        rfl
      have hnone : Framing.rest Target.eventBytes (w.pending ++ data) = [] := by
        rw [Framing.rest_of_le Target.eventBytes_pos hwhole.ge, List.drop_of_length_le hwhole.le,
          Framing.rest_of_lt Target.eventBytes_pos]
      have hcounts : countEvent (decodeEvent (w.pending ++ data)) w.counts =
          countsOf (eventsOf w.bytes ++ [decodeEvent (w.pending ++ data)]) := by
        rw [h.counts, countEvent_countsOf]
      refine ⟨?_, ?_, ?_, ?_, hasked, ?_⟩
      · rw [hbytes, hevents, hone, List.map_append, h.events]
        rfl
      · have hseen : (countEvent (decodeEvent (w.pending ++ data)) w.counts).eventsSeen =
            .ofNat (1 + w.printed.length) := by
          rw [hcounts, ← h.events]
          simp [countsOf, Nat.add_comm]
        show ((w.printed ++ [(_, decodeEvent (w.pending ++ data))]).map Prod.fst) =
          (List.range' 1 (w.printed ++ [_]).length).map UInt32.ofNat
        rw [List.map_append, h.numbers, List.length_append, List.length_singleton,
          List.range'_1_concat, List.map_append, List.map_singleton, List.map_singleton, hseen]
      · rw [hbytes, hevents, hone]
        exact hcounts
      · rw [hbytes, hrest, hnone]
      · intro hmax
        rw [List.length_append, List.length_singleton]
        exact hroom hmax
  · next hpart =>
      have hshort : (w.pending ++ data).length < Target.eventBytes := by
        rw [List.length_append] at hpart ⊢
        omega
      have hnone : eventsOf (w.pending ++ data) = [] := by
        rw [eventsOf, Framing.records_of_lt hshort, List.map_nil]
      refine ⟨?_, h.numbers, ?_, ?_, hasked, h.few⟩
      · rw [hbytes, hevents, hnone, List.append_nil]
        exact h.events
      · rw [hbytes, hevents, hnone, List.append_nil]
        exact h.counts
      · rw [hbytes, hrest, Framing.rest_of_lt hshort]

omit [Target] in
theorem watchTurn_ended {durationMs eventsSeen : UInt32} {start : Timespec} {now : Option Timespec}
    {turn : WatchTurn} (h : watchTurn durationMs maxEvents eventsSeen start now = some turn) :
    turn = .ended 0 ∧ (maxEvents > 0 ∧ eventsSeen ≥ maxEvents) ∨
      turn ≠ .ended 0 ∧ (∀ status, turn = .ended status → status = 1) ∧
        ¬(maxEvents > 0 ∧ eventsSeen ≥ maxEvents) := by
  obtain ⟨left, -, hturn⟩ := Option.bind_eq_some_iff.mp h
  obtain rfl := Option.some.inj hturn
  split
  · next hall => exact .inl ⟨rfl, hall⟩
  split
  · next hall _ => exact .inr ⟨by simp, by simp, hall⟩
  · next hall _ => exact .inr ⟨by simp, by simp, hall⟩

/-- The loop ends with this status. -/
structure Ends (maxEvents : UInt32) (w : Watch) (status : Nat) : Prop where
  reported : w.Exact maxEvents
  le_one : status ≤ 1
  done : status = 0 ↔ w.Done maxEvents

/-- After a turn the loop goes on or ends. -/
def After (maxEvents : UInt32) : Watch × Option Nat → Prop
  | (next, none) => next.Exact maxEvents ∧ next.Open
  | (last, some status) => last.Ends maxEvents status

/-- A turn that ends the loop with 1 while the reports are not all there. -/
theorem Exact.ends_one (h : w.Exact maxEvents) (hopen : w.Open)
    (hroom : maxEvents ≠ 0 → w.printed.length < maxEvents.toNat) : w.Ends maxEvents 1 where
  reported := h
  le_one := Nat.le_refl 1
  done := by
    refine iff_of_false Nat.one_ne_zero fun hdone => ?_
    rcases hdone with ⟨hmax, hall⟩ | ⟨hlast, -⟩
    · exact absurd hall (hroom hmax).ne
    · exact hopen.not_ended hlast

theorem Exact.receive (h : w.Exact maxEvents) (hopen : w.Open)
    (hroom : maxEvents ≠ 0 → w.printed.length < maxEvents.toNat) (answer : ReadResult) :
    After maxEvents (w.receive answer) := by
  have hpending := h.length_pending
  cases answer with
  | eagain => exact ⟨h, hopen⟩
  | eintr => exact h.ends_one hopen hroom
  | failed => exact h.ends_one hopen hroom
  | bytes data =>
      have hstored : (data.take (Target.eventBytes - w.pending.length)).length ≤
          Target.eventBytes - w.pending.length := List.length_take_le _ _
      by_cases hnil : data.take (Target.eventBytes - w.pending.length) = []
      · -- the device has ended
        have hbytes : bytes { w with
            reads := w.reads ++ [(Target.eventBytes - w.pending.length, ([] : List UInt8))] } =
              w.bytes := by
          simp [bytes]
        simp only [Watch.receive, hnil, if_true]
        refine ⟨⟨?_, h.numbers, ?_, ?_, ?_, h.few⟩, ?_, ?_⟩
        · rw [hbytes]
          exact h.events
        · rw [hbytes]
          exact h.counts
        · rw [hbytes]
          exact h.pending
        · intro read hread
          rcases List.mem_append.mp hread with hread | hread
          · exact h.asked read hread
          · rw [List.mem_singleton.mp hread]
            exact ⟨by omega, Nat.sub_le _ _, Nat.zero_le _⟩
        · split
          · exact Nat.zero_le _
          · exact Nat.le_refl _
        · have hlast : ¬(maxEvents ≠ 0 ∧ w.printed.length = maxEvents.toNat) :=
            fun hall => (hroom hall.1).ne hall.2
          simp [Done, hlast]
      · simp only [Watch.receive, if_neg hnil]
        refine ⟨h.consume hroom hstored, ?_⟩
        have hreads : (Watch.consume
            { w with
              reads := w.reads ++ [(Target.eventBytes - w.pending.length,
                data.take (Target.eventBytes - w.pending.length))]
              pending := w.pending ++ data.take (Target.eventBytes - w.pending.length) }).reads =
            w.reads ++ [(Target.eventBytes - w.pending.length,
              data.take (Target.eventBytes - w.pending.length))] := by
          unfold Watch.consume
          split <;> rfl
        intro read hread
        rw [hreads] at hread
        rcases List.mem_append.mp hread with hread | hread
        · exact hopen read hread
        · rw [List.mem_singleton.mp hread]
          exact hnil

/-- A turn of the loop. -/
theorem Exact.turn (h : w.Exact maxEvents) (hopen : w.Open) {durationMs : UInt32} {start : Timespec}
    {answers : TurnAnswers} {next : Watch} {status : Option Nat}
    (hturn : w.turn durationMs maxEvents start answers = some (next, status)) :
    After maxEvents (next, status) := by
  obtain ⟨turn, hwatch, hrest⟩ := Option.bind_eq_some_iff.mp hturn
  have hcases := watchTurn_ended hwatch
  rw [h.reached_iff] at hcases
  rcases hcases with ⟨rfl, hall⟩ | ⟨hne, hone, hnot⟩
  · -- all has been reported
    cases hrest
    exact ⟨h, Nat.zero_le _, iff_of_true rfl (.inl hall)⟩
  · have hroom : maxEvents ≠ 0 → w.printed.length < maxEvents.toNat := fun hmax =>
      Nat.lt_of_le_of_ne (h.few hmax) fun hall => hnot ⟨hmax, hall⟩
    have hstop := h.ends_one hopen hroom
    cases turn with
    | ended code =>
        obtain rfl := hone code rfl
        cases hrest
        exact hstop
    | poll timeout =>
        cases hpoll : answers.poll with
        | interrupted =>
            simp only [hpoll, Option.pure_def, Option.some.injEq, Prod.mk.injEq] at hrest
            obtain ⟨rfl, rfl⟩ := hrest
            exact ⟨h, hopen⟩
        | failed | timedOut =>
            simp only [hpoll, Option.pure_def, Option.some.injEq, Prod.mk.injEq] at hrest
            obtain ⟨rfl, rfl⟩ := hrest
            exact hstop
        | ready readable broken =>
            simp only [hpoll, Option.pure_def, Option.some.injEq] at hrest
            split at hrest
            · cases hrest
              exact hstop
            · have hreceive := h.receive hopen hroom answers.read
              rw [hrest] at hreceive
              exact hreceive

theorem Exact.run (h : w.Exact maxEvents) (hopen : w.Open) {durationMs : UInt32} {start : Timespec}
    {answers : List TurnAnswers} {last : Watch} {status : Option Nat}
    (hrun : Watch.run durationMs maxEvents start answers w = some (last, status)) :
    After maxEvents (last, status) := by
  induction answers generalizing w with
  | nil =>
      cases hrun
      exact ⟨h, hopen⟩
  | cons first rest ih =>
      obtain ⟨⟨next, code⟩, hturn, hrest⟩ := Option.bind_eq_some_iff.mp hrun
      have hnext := h.turn hopen hturn
      cases code with
      | some code =>
          cases hrest
          exact hnext
      | none => exact ih hnext.1 hnext.2 hrest

/-- A key press that arrives in two parts, with a signal and the next record behind it. -/
private def pressInParts : List TurnAnswers :=
  [⟨none, .ready true false, .bytes (List.replicate 8 0 ++ [1, 0])⟩, ⟨none, .interrupted, .eagain⟩,
    ⟨none, .ready true false, .bytes ([48, 1, 1, 0, 0, 0] ++ List.replicate 16 7)⟩,
    ⟨none, .timedOut, .eagain⟩]

end Watch

end VitaLinuxPort
