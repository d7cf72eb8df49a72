import Mathlib.Algebra.Group.Nat.Defs
import VitaLinuxPort.Lib.Register
import VitaLinuxPort.Proof.Input.Desync

/-!
# What a source knows after an overrun

The kernel answers a resynchronisation with the state the device has now, while the events after the
SYN_REPORT may be older. Each key and each axis is a register that those events write: the snapshot
fills it, an event that is still to come overwrites it, and the last of these carries what the device
says in the end.
-/

namespace VitaLinuxPort

section Bits

variable {bit : Nat}

theorem testBit_shift {shift : UInt64} (hshift : shift.toNat < 64) (hbit : bit < 64) :
    ((1 : UInt64) <<< shift).toNat.testBit bit = decide (bit = shift.toNat) := by
  have hpow : ((1 : UInt64) <<< shift).toNat = 2 ^ shift.toNat % 2 ^ 64 := by
    rw [UInt64.toNat_shiftLeft, Nat.mod_eq_of_lt hshift, UInt64.toNat_one, Nat.one_shiftLeft]
  rw [hpow, Nat.testBit_mod_two_pow, Nat.testBit_two_pow, decide_eq_true hbit, Bool.true_and]
  exact decide_eq_decide.mpr eq_comm

theorem testBit_not (keys : UInt64) (hbit : bit < 64) :
    (~~~keys).toNat.testBit bit = !keys.toNat.testBit bit := by
  rw [UInt64.toNat_not, UInt64.size, Nat.sub_sub, Nat.add_comm 1,
    Nat.testBit_two_pow_sub_succ keys.toNat_lt, decide_eq_true hbit, Bool.true_and]

theorem testBit_mergeKeyState (state : List UInt8) (hbit : bit < 64) :
    (mergeKeyState state).toNat.testBit bit = bitTest state bit := by
  have hmerged : ∀ n ≤ 64, ((List.range n).foldl
      (fun merged code => if bitTest state code then merged ||| (1 <<< UInt64.ofNat code) else merged)
      (0 : UInt64)).toNat.testBit bit = (decide (bit < n) && bitTest state bit) := by
    intro n hn
    induction n with
    | zero => simp
    | succ n ih =>
        have hshift : (UInt64.ofNat n).toNat = n :=
          UInt64.toNat_ofNat_of_lt' (by rw [UInt64.size]; omega)
        rw [List.range_succ, List.foldl_concat]
        by_cases heq : bit = n
        · subst heq
          split
          · next hset =>
              rw [UInt64.toNat_or, Nat.testBit_or, testBit_shift (by omega) hbit, hshift]
              simp [hset]
          · next hclear =>
              rw [ih (by omega)]
              simp [hclear]
        · have hlt : bit < n + 1 ↔ bit < n := by omega
          rw [decide_eq_decide.mpr hlt, ← ih (by omega)]
          split
          · rw [UInt64.toNat_or, Nat.testBit_or, testBit_shift (by omega) hbit, hshift,
              decide_eq_false heq, Bool.or_false]
          · rfl
  rw [mergeKeyState, hmerged 64 (Nat.le_refl _), decide_eq_true hbit, Bool.true_and]

/-- A key event writes the bit of its own code and no other. -/
theorem testBit_holdKey (keys : UInt64) (code : UInt16) (value : Int32) (hbit : bit < 64) :
    (holdKey keys code value).toNat.testBit bit =
      if code.toNat = bit then decide (value ≠ 0) else keys.toNat.testBit bit := by
  unfold holdKey
  by_cases hcode : code.toNat < 64
  · have hshift : code.toUInt64.toNat < 64 := by simpa using hcode
    rw [if_pos (show code < 64 from hcode)]
    split
    · next hdown =>
        rw [UInt64.toNat_or, Nat.testBit_or, testBit_shift hshift hbit]
        by_cases heq : code.toNat = bit
        · simp [heq, hdown]
        · simp [heq, Ne.symm heq]
    · next hup =>
        rw [UInt64.toNat_and, Nat.testBit_and, testBit_not _ hbit, testBit_shift hshift hbit]
        by_cases heq : code.toNat = bit
        · simp [heq, hup]
        · simp [heq, Ne.symm heq]
  · rw [if_neg (show ¬ code < 64 from hcode), if_neg (by omega)]

end Bits

/-- What a device reports when it is asked. -/
structure DeviceState where
  down : Nat → Bool
  position : AxisSlot → Int32

/-- Both ioctls succeed, and give the state of the device: every key of the first 64, every
calibrated axis. -/
structure ResyncAnswer.Reports (answer : ResyncAnswer) (device : DeviceState)
    (axisValid : AxisSlot → Bool) : Prop where
  keys : ∃ state, answer.keyState = some state ∧
    ∀ code < 64, bitTest state code = device.down code
  axes : ∀ slot, axisValid slot → ∃ info, answer.abs slot = some info ∧
    info.value = device.position slot

/-- Whether an event says of a key that it is down, if the event is about that key. -/
def InputEvent.keyReading (code : Nat) (event : InputEvent) : Option Bool :=
  if event.type = evKey ∧ event.code.toNat = code then some (event.value ≠ 0) else none

def InputEvent.axisReading (slot : AxisSlot) (event : InputEvent) : Option Int32 :=
  if event.type = evAbs ∧ axisSlot event.code = some slot then some event.value else none

instance (event : InputEvent) : Decidable event.IsDropped := inferInstanceAs (Decidable (_ ∧ _))

instance (event : InputEvent) : Decidable event.IsReport := inferInstanceAs (Decidable (_ ∧ _))

/-- How many overruns the events end, one being open before them or not. -/
def endedOverruns : Bool → List InputEvent → Nat
  | _, [] => 0
  | false, event :: events => endedOverruns (decide event.IsDropped) events
  | true, event :: events =>
      if event.IsReport then endedOverruns false events + 1 else endedOverruns true events

variable {p : Pump} {event : InputEvent}

theorem consumeEvent_dropped (hconnected : p.source.state = .connected) (h : event.IsDropped) :
    consumeEvent event p = { p with source := p.source.setState .desync } := by
  rw [consumeEvent]
  dsimp only
  rw [if_pos h.1, if_pos ⟨h.2, hconnected⟩]

theorem consumeEvent_report (hdesync : p.source.state = .desync) (h : event.IsReport) :
    consumeEvent event p =
      { resyncAfterDesync p with source := (resyncAfterDesync p).source.setState .connected } := by
  rw [consumeEvent]
  dsimp only
  rw [if_pos h.1, if_neg (by simp [hdesync]), if_pos ⟨h.2, hdesync⟩]

/-- Inside an overrun every event is discarded. -/
theorem consumeEvent_discarded (hdesync : p.source.state = .desync) (h : ¬ event.IsReport) :
    consumeEvent event p = p := by
  have hmark : event.type = evSyn → event.code ≠ synReport := fun htype hcode => h ⟨htype, hcode⟩
  unfold consumeEvent
  dsimp only
  split
  · next htype => simp [hdesync, hmark htype]
  · split
    · simp [hdesync]
    · split
      · cases axisSlot event.code <;> simp [hdesync]
      · rfl

theorem consumeEvents_discarded (hdesync : p.source.state = .desync) {events : List InputEvent}
    (h : ∀ event ∈ events, ¬ event.IsReport) : consumeEvents events p = p := by
  induction events with
  | nil => rfl
  | cons event events ih =>
      rw [List.forall_mem_cons] at h
      rw [consumeEvents_cons, consumeEvent_discarded hdesync h.1, ih h.2]

theorem resyncs_consumeEvent_connected (hconnected : p.source.state = .connected)
    (event : InputEvent) : (consumeEvent event p).resyncs = p.resyncs := by
  rcases haxis : axisSlot event.code with _ | slot <;>
    simp only [consumeEvent, haxis, hconnected] <;> split_ifs <;> simp_all [processKeyEvent]

/-- Each overrun that ends takes one answer. -/
theorem resyncs_consumeEvents (events : List InputEvent) (p : Pump) :
    (p.source.state = .connected →
        (consumeEvents events p).resyncs = p.resyncs.drop (endedOverruns false events)) ∧
      (p.source.state = .desync →
        (consumeEvents events p).resyncs = p.resyncs.drop (endedOverruns true events)) := by
  induction events generalizing p with
  | nil => exact ⟨fun _ => rfl, fun _ => rfl⟩
  | cons event events ih =>
      rw [consumeEvents_cons]
      constructor
      · intro hconnected
        have hresyncs := resyncs_consumeEvent_connected hconnected event
        obtain ⟨hdropped, hreport, hother⟩ :=
          state_consumeEvent (p := p) (by simp [hconnected]) event
        rw [endedOverruns, ← hresyncs]
        by_cases h : event.IsDropped
        · rw [decide_eq_true h]
          exact (ih _).2 (hdropped h)
        · rw [decide_eq_false h]
          refine (ih _).1 ?_
          by_cases hmark : event.IsReport
          · exact hreport hmark
          · rw [hother h hmark, hconnected]
      · intro hdesync
        rw [endedOverruns]
        split
        · next h =>
            have hconsume := consumeEvent_report hdesync h
            rw [(ih _).1 (by rw [hconsume]; rfl), hconsume]
            exact List.drop_tail
        · next h =>
            rw [consumeEvent_discarded hdesync h]
            exact (ih p).2 hdesync

/-- In step, a source takes keys and canonical axes, and passes over the rest. -/
theorem consumeEvent_connected (hconnected : p.source.state = .connected)
    (hdropped : ¬ event.IsDropped) :
    consumeEvent event p =
      if event.type = evKey then processKeyEvent event.code event.value p
      else if event.type = evAbs then
        match axisSlot event.code with
        | some slot =>
            { p with
              source :=
                { p.source with lastRaw := Function.update p.source.lastRaw slot event.value } }
        | none => p
      else p := by
  unfold consumeEvent
  dsimp only
  split
  · next htype =>
      have hcode : event.code ≠ synDropped := fun h => hdropped ⟨htype, h⟩
      rw [if_neg (by simp [hcode]), if_neg (by simp [hconnected]), if_neg (by rw [htype]; decide),
        if_neg (by rw [htype]; decide)]
  · cases axisSlot event.code <;> simp only [hconnected]

theorem connected_consumeEvent (hconnected : p.source.state = .connected)
    (hdropped : ¬ event.IsDropped) : (consumeEvent event p).source.state = .connected := by
  obtain ⟨_, hreport, hother⟩ := state_consumeEvent (p := p) (by simp [hconnected]) event
  by_cases h : event.IsReport
  · exact hreport h
  · rw [hother hdropped h, hconnected]

theorem register_heldKeys {code : Nat} (hcode : code < 64) :
    Register (fun p : Pump => p.source.state = .connected) (fun event => ¬ event.IsDropped)
      (fun p event => consumeEvent event p) (fun p => p.source.heldKeys.toNat.testBit code)
      (InputEvent.keyReading code) where
  keeps _ _ hdropped hconnected := connected_consumeEvent hconnected hdropped
  view_step p event hdropped hconnected := by
    rw [consumeEvent_connected hconnected hdropped]
    by_cases hkey : event.type = evKey
    · have hheld := testBit_holdKey p.source.heldKeys event.code event.value hcode
      rw [if_pos hkey, processKeyEvent, hheld, InputEvent.keyReading]
      by_cases heq : event.code.toNat = code <;> simp [hkey, heq]
    · have hsilent : event.keyReading code = none := if_neg fun h => hkey h.1
      rw [if_neg hkey, hsilent, Option.getD_none]
      split
      · cases axisSlot event.code <;> rfl
      · rfl

theorem register_lastRaw (slot : AxisSlot) :
    Register (fun p : Pump => p.source.state = .connected) (fun event => ¬ event.IsDropped)
      (fun p event => consumeEvent event p) (fun p => p.source.lastRaw slot)
      (InputEvent.axisReading slot) where
  keeps _ _ hdropped hconnected := connected_consumeEvent hconnected hdropped
  view_step p event hdropped hconnected := by
    rw [consumeEvent_connected hconnected hdropped]
    by_cases habs : event.type = evAbs
    · have hkey : event.type ≠ evKey := by rw [habs]; decide
      rw [if_neg hkey, if_pos habs, InputEvent.axisReading]
      cases haxis : axisSlot event.code with
      | none => simp
      | some written =>
          by_cases heq : written = slot
          · subst heq
            simp [habs]
          · simp [heq, Ne.symm heq]
    · have hsilent : event.axisReading slot = none := if_neg fun h => habs h.1
      rw [if_neg habs, hsilent, Option.getD_none]
      split <;> rfl

/-- The source knows the state of the device. -/
structure Tracks (source : CartInputSource) (device : DeviceState) : Prop where
  connected : source.state = .connected
  heldKeys : ∀ code < 64, source.heldKeys.toNat.testBit code = device.down code
  lastRaw : ∀ slot, source.axisValid slot → source.lastRaw slot = device.position slot

/-- Of each key and each calibrated axis, the last of the events, if one is about it, says what the
device says. -/
structure EndsOn (events : List InputEvent) (device : DeviceState) (axisValid : AxisSlot → Bool) :
    Prop where
  keys : ∀ code < 64, ∀ down ∈ (events.filterMap (InputEvent.keyReading code)).getLast?,
    down = device.down code
  axes : ∀ slot, axisValid slot →
    ∀ position ∈ (events.filterMap (InputEvent.axisReading slot)).getLast?,
      position = device.position slot

variable {device : DeviceState} {answer : ResyncAnswer}

theorem tracks_resynced {source : CartInputSource} (h : answer.Reports device source.axisValid) :
    Tracks ((source.resynced answer).setState .connected) device where
  connected := rfl
  heldKeys code hcode := by
    obtain ⟨state, hstate, hkeys⟩ := h.keys
    have hheld : ((source.resynced answer).setState .connected).heldKeys = mergeKeyState state := by
      simp [CartInputSource.setState, CartInputSource.resynced, hstate]
    rw [hheld, testBit_mergeKeyState state hcode, hkeys code hcode]
  lastRaw slot hvalid := by
    obtain ⟨info, hinfo, hvalue⟩ := h.axes slot hvalid
    have hraw : ((source.resynced answer).setState .connected).lastRaw slot = info.value := by
      simp only [CartInputSource.setState, CartInputSource.resynced] at hvalid ⊢
      rw [if_pos hvalid, hinfo, Option.elim_some]
    rw [hraw, hvalue]

/-- Events that end on what the source knows already leave it knowing that. -/
theorem tracks_consumeEvents (h : Tracks p.source device) {events : List InputEvent}
    (hdropped : ∀ event ∈ events, ¬ event.IsDropped)
    (hends : EndsOn events device p.source.axisValid) :
    Tracks (consumeEvents events p).source device where
  connected := by
    have hrecovers := state_consumeEvents h.connected events
    refine hrecovers.2 ?_
    rintro ⟨before, dropped, after, rfl, hmark, _⟩
    exact hdropped dropped (by simp) hmark
  heldKeys code hcode := (register_heldKeys hcode).view_foldl_of_last h.connected hdropped
    (h.heldKeys code hcode) (hends.keys code hcode)
  lastRaw slot hvalid := by
    rw [(continues_consumeEvents events p).device.axisValid] at hvalid
    exact (register_lastRaw slot).view_foldl_of_last h.connected hdropped (h.lastRaw slot hvalid)
      (hends.axes slot hvalid)

/-- A stream whose last overrun stands after `before`: the SYN_DROPPED, events without a SYN_REPORT,
the SYN_REPORT, and events without a SYN_DROPPED. -/
structure LastOverrun where
  before : List InputEvent
  dropped : InputEvent
  garbage : List InputEvent
  report : InputEvent
  tail : List InputEvent
  isDropped : dropped.IsDropped
  discarded : ∀ event ∈ garbage, ¬ event.IsReport
  isReport : report.IsReport
  inStep : ∀ event ∈ tail, ¬ event.IsDropped

namespace LastOverrun

variable (stream : LastOverrun)

def events : List InputEvent :=
  stream.before ++ stream.dropped :: (stream.garbage ++ stream.report :: stream.tail)

/-- What the events up to the SYN_DROPPED have done, and the source out of sync. -/
theorem desync_consumeEvents (hconnected : p.source.state = .connected) :
    (consumeEvents (stream.before ++ [stream.dropped]) p).source.state = .desync := by
  have hopen : OverrunOpen (stream.before ++ [stream.dropped]) :=
    ⟨stream.before, stream.dropped, [], rfl, stream.isDropped, by simp⟩
  exact (state_consumeEvents hconnected _).1 hopen

/-- What stands between the SYN_DROPPED and the SYN_REPORT changes nothing. -/
theorem consumeEvents_garbage (hconnected : p.source.state = .connected) {seen : List InputEvent}
    (hseen : seen <+: stream.garbage) :
    consumeEvents (stream.before ++ stream.dropped :: seen) p =
      consumeEvents (stream.before ++ [stream.dropped]) p := by
  rw [List.append_cons stream.before stream.dropped seen, consumeEvents_append]
  exact consumeEvents_discarded (stream.desync_consumeEvents hconnected)
    fun event hmem => stream.discarded event (hseen.subset hmem)

/-- The answer that ends the last overrun is the one after those that ended the earlier ones. -/
theorem resyncs_consumeEvents (hconnected : p.source.state = .connected) :
    (consumeEvents (stream.before ++ [stream.dropped]) p).resyncs =
      p.resyncs.drop (endedOverruns false stream.before) := by
  have hbefore := (VitaLinuxPort.resyncs_consumeEvents stream.before p).1 hconnected
  have hstate := state_consumeEvents hconnected stream.before
  have hnot : ¬ stream.dropped.IsReport := fun h =>
    absurd (h.2.symm.trans stream.isDropped.2) (by decide)
  rw [consumeEvents_append, ← hbefore]
  by_cases hopen : OverrunOpen stream.before
  · rw [consumeEvents_cons, consumeEvent_discarded (hstate.1 hopen) hnot]
    rfl
  · rw [consumeEvents_cons, consumeEvent_dropped (hstate.2 hopen) stream.isDropped]
    rfl

theorem tracks_consumeEvents (hconnected : p.source.state = .connected)
    (hanswer : p.resyncs[endedOverruns false stream.before]? = some answer)
    (hreports : answer.Reports device p.source.axisValid)
    (hends : EndsOn stream.tail device p.source.axisValid) :
    Tracks (consumeEvents stream.events p).source device := by
  have hdesync := stream.desync_consumeEvents hconnected
  have hresyncs := stream.resyncs_consumeEvents hconnected
  have hvalid := (continues_consumeEvents (stream.before ++ [stream.dropped]) p).device.axisValid
  have hgarbage := stream.consumeEvents_garbage hconnected List.prefix_rfl
  have hevents : stream.events =
      (stream.before ++ stream.dropped :: stream.garbage) ++ stream.report :: stream.tail := by
    simp [events]
  rw [hevents, consumeEvents_append, hgarbage, consumeEvents_cons]
  generalize consumeEvents (stream.before ++ [stream.dropped]) p = q at hdesync hresyncs hvalid
  have hhead : q.resyncs.headD { keyState := none, abs := fun _ => none } = answer := by
    rw [hresyncs, List.headD_eq_head?_getD, List.head?_drop, hanswer, Option.getD_some]
  rw [← hvalid] at hreports hends
  rw [consumeEvent_report hdesync stream.isReport]
  refine VitaLinuxPort.tracks_consumeEvents ?_ stream.inStep hends
  rw [resyncAfterDesync, hhead]
  exact tracks_resynced hreports

end LastOverrun

variable [Target]

namespace InputSession

variable {s : InputSession} {ops : List InputOp}

/-- After a poll that reads the end of an overrun, a connected source knows what the device says,
whatever was lost and whatever overruns went before, and nothing inside the overrun has touched the
source or the queue. -/
theorem overrun_converges (run : Run Performs fresh ops s) {slot : Slot}
    (hconnected : (s.input.source slot).state = .connected)
    {reads : Slot → List ReadResult} (hreads : ∀ got ∈ reads slot, got.Delivers)
    {stream : LastOverrun}
    (hstream : eventsOf (s.input.partialBytes slot ++ delivered (reads slot)) = stream.events)
    {resyncs : Slot → List ResyncAnswer} {answer : ResyncAnswer}
    (hanswer : (resyncs slot)[endedOverruns false stream.before]? = some answer)
    {device : DeviceState} (hreports : answer.Reports device (s.input.source slot).axisValid)
    (hends : EndsOn stream.tail device (s.input.source slot).axisValid) :
    let after := (cartInputPoll s.input reads resyncs).input.source slot
    after.state = .connected ∧
      (∀ code < 64, after.heldKeys.toNat.testBit code = device.down code) ∧
      (∀ axis, after.axisValid axis → after.lastRaw axis = device.position axis) ∧
      ∀ p : Pump, p.source.state = .connected → ∀ seen, seen <+: stream.garbage →
        consumeEvents (stream.before ++ stream.dropped :: seen) p =
          consumeEvents (stream.before ++ [stream.dropped]) p := by
  have hreadable := readable_of_connected (wellFormed_of_run run) hconnected (resyncs slot)
  have hpump := own_pumpSource_of_delivers hreads
    (Pump.ofOwn (s.input.source slot, s.input.partialBytes slot, resyncs slot))
  rw [source_cartInputPoll, pollOwn_of_readable hreadable, hpump]
  have htracks := stream.tracks_consumeEvents
    (p := (Pump.ofOwn (s.input.source slot, s.input.partialBytes slot, resyncs slot)).setBytes
      (s.input.partialBytes slot ++ delivered (reads slot))) hconnected hanswer hreports hends
  rw [← hstream] at htracks
  exact ⟨htracks.connected, htracks.heldKeys, htracks.lastRaw,
    fun p hp seen hseen => stream.consumeEvents_garbage hp hseen⟩

private def record (type code value : UInt8) : ReadResult :=
  .bytes (List.replicate 8 0 ++ [type, 0, code, 0, value, 0, 0, 0])

/-- A second overrun loses the press of key 30; an older release and press of it come after. -/
private def twoOverruns : LastOverrun where
  before := [⟨0, 3, 0⟩, ⟨0, 0, 0⟩]
  dropped := ⟨0, 3, 0⟩
  garbage := [⟨1, 17, 1⟩]
  report := ⟨0, 0, 0⟩
  tail := [⟨1, 30, 0⟩, ⟨3, 0, 100⟩, ⟨1, 30, 1⟩]
  isDropped := by decide
  discarded := by decide
  isReport := by decide
  inStep := by decide

private def heldThirty : DeviceState where
  down code := code == 30
  position slot := if slot = 0 then 100 else 128

private def answerThirty : ResyncAnswer where
  keyState := some [0, 0, 0, 64]
  abs slot := some ⟨if slot = 0 then 100 else 128, 0, 255, 0, 0, 0⟩

private def padSession : InputSession :=
  letI := armv7
  after [.init (.entries [gamepad "event0".toList [] 3])]

private def twoOverrunReads : Slot → List ReadResult := fun _ =>
  [record 0 3 0, .eintr, record 0 0 0, record 0 3 0, record 1 17 1, record 0 0 0, record 1 30 0,
    record 3 0 100, record 1 30 1]

private def lastAnswerThirty : Slot → List ResyncAnswer := fun _ =>
  [{ keyState := none, abs := fun _ => none }, answerThirty]

omit [Target] in
theorem overrun_converges_twoOverruns :
    letI := armv7
    let after := (cartInputPoll padSession.input twoOverrunReads lastAnswerThirty).input.source 0
    after.state = .connected ∧
      (∀ code < 64, after.heldKeys.toNat.testBit code = heldThirty.down code) ∧
      (∀ axis, after.axisValid axis → after.lastRaw axis = heldThirty.position axis) ∧
      ∀ p : Pump, p.source.state = .connected → ∀ seen, seen <+: twoOverruns.garbage →
        consumeEvents (twoOverruns.before ++ twoOverruns.dropped :: seen) p =
          consumeEvents (twoOverruns.before ++ [twoOverruns.dropped]) p := by
  have run : letI := armv7
      Run Performs fresh [.init (.entries [gamepad "event0".toList [] 3])] padSession :=
    @run_after armv7 _
  have hconnected : (padSession.input.source 0).state = .connected := by decide +kernel
  have hreads : ∀ got ∈ twoOverrunReads 0, got.Delivers := by
    simp [twoOverrunReads, record, ReadResult.Delivers]
  have hstream : letI := armv7
      eventsOf (padSession.input.partialBytes 0 ++ delivered (twoOverrunReads 0)) =
        twoOverruns.events := by decide +kernel
  have hreports : answerThirty.Reports heldThirty (padSession.input.source 0).axisValid :=
    ⟨⟨_, rfl, by decide⟩, fun slot _ => ⟨_, rfl, rfl⟩⟩
  have hkeys : ∀ code < 64, (twoOverruns.tail.filterMap (InputEvent.keyReading code)).getLast? =
      if code = 30 then some true else none := by decide +kernel
  have haxes : ∀ slot, (twoOverruns.tail.filterMap (InputEvent.axisReading slot)).getLast? =
      if slot = 0 then some 100 else none := by decide +kernel
  have hends : EndsOn twoOverruns.tail heldThirty (padSession.input.source 0).axisValid := by
    refine ⟨fun code hcode down hdown => ?_, fun slot _ position hposition => ?_⟩
    · rw [hkeys code hcode, Option.mem_ite_none_right, Option.mem_some] at hdown
      simp [heldThirty, ← hdown.2, hdown.1]
    · rw [haxes slot, Option.mem_ite_none_right, Option.mem_some] at hposition
      simp [heldThirty, ← hposition.2, hposition.1]
  exact @overrun_converges armv7 _ _ run _ hconnected _ hreads _ hstream lastAnswerThirty _ rfl _
    hreports hends

end InputSession

end VitaLinuxPort
