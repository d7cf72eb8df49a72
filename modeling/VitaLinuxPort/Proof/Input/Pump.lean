import VitaLinuxPort.Lib.Framing
import VitaLinuxPort.Cart.Input.Poll

/-!
# What pumping a source does

Consuming an event changes of its source only what the device reports, and asks nothing of any
descriptor but the source's own. A source that is pumped therefore either keeps its device or loses
it, and in the second case the descriptor is closed once, as the last thing.

What the pump does to the source depends on the bytes read and not on how they were cut: the events
consumed are the records of the stream, and the pump can be stopped and resumed at any read.
-/

namespace VitaLinuxPort

structure SameDevice (s t : CartInputSource) : Prop where
  fd : t.fd = s.fd
  generation : t.generation = s.generation
  node : t.node = s.node
  axis : t.axis = s.axis
  axisValid : t.axisValid = s.axisValid
  absent_iff : t.state = .absent ↔ s.state = .absent

theorem SameDevice.refl (s : CartInputSource) : SameDevice s s := ⟨rfl, rfl, rfl, rfl, rfl, Iff.rfl⟩

theorem SameDevice.trans {s t u : CartInputSource} (h : SameDevice s t) (h' : SameDevice t u) :
    SameDevice s u where
  fd := h'.fd.trans h.fd
  generation := h'.generation.trans h.generation
  node := h'.node.trans h.node
  axis := h'.axis.trans h.axis
  axisValid := h'.axisValid.trans h.axisValid
  absent_iff := h'.absent_iff.trans h.absent_iff

structure LostDevice (s t : CartInputSource) : Prop where
  fd : t.fd = -1
  state : t.state = .absent
  generation : t.generation = s.generation + 1
  heldKeys : t.heldKeys = 0
  lastRaw : t.lastRaw = fun _ => 0

def Uses (fd : Int) (calls : List Syscall) : Prop :=
  ∀ call ∈ calls, call = .ioctl fd ∨ ∃ count, call = .read fd count

structure Continues (p q : Pump) : Prop where
  device : SameDevice p.source q.source
  calls : ∃ used, q.calls = p.calls ++ used ∧ Uses p.source.fd used

namespace Continues

theorem refl (p : Pump) : Continues p p :=
  ⟨.refl _, [], (List.append_nil _).symm, by simp [Uses]⟩

theorem trans {p q r : Pump} (h : Continues p q) (h' : Continues q r) : Continues p r := by
  obtain ⟨used, hused, huses⟩ := h.calls
  obtain ⟨more, hmore, hmoreUses⟩ := h'.calls
  rw [h.device.fd] at hmoreUses
  refine ⟨h.device.trans h'.device, used ++ more, by rw [hmore, hused, List.append_assoc], ?_⟩
  intro call hcall
  rcases List.mem_append.mp hcall with hcall | hcall
  · exact huses call hcall
  · exact hmoreUses call hcall

end Continues

variable {p q : Pump} {event : InputEvent}

theorem continues_processKeyEvent (code : UInt16) (value : Int32) (p : Pump) :
    Continues p (processKeyEvent code value p) :=
  ⟨⟨rfl, rfl, rfl, rfl, rfl, Iff.rfl⟩, [], (List.append_nil _).symm, by simp [Uses]⟩

theorem continues_resyncAfterDesync (p : Pump) : Continues p (resyncAfterDesync p) := by
  refine ⟨⟨rfl, rfl, rfl, rfl, rfl, Iff.rfl⟩, _, rfl, ?_⟩
  intro call hcall
  rcases List.mem_cons.mp hcall with rfl | hcall
  · exact .inl rfl
  · obtain ⟨_, _, rfl⟩ := List.mem_map.mp hcall
    exact .inl rfl

theorem continues_setState (p : Pump) {state : CartInputState} (hstate : state ≠ .absent)
    (hsource : p.source.state ≠ .absent) :
    Continues p { p with source := p.source.setState state } :=
  ⟨⟨rfl, rfl, rfl, rfl, rfl, iff_of_false hstate hsource⟩, [], (List.append_nil _).symm,
    by simp [Uses]⟩

theorem continues_consumeEvent (event : InputEvent) (p : Pump) :
    Continues p (consumeEvent event p) := by
  unfold consumeEvent
  dsimp only
  split
  · split
    · next h => exact continues_setState p (by decide) (by simp [h.2])
    · split
      · next h =>
          have hresync := continues_resyncAfterDesync p
          refine hresync.trans (continues_setState _ (by decide) ?_)
          rw [ne_eq, hresync.device.absent_iff, h.2]
          decide
      · exact .refl p
  · split
    · split
      · exact continues_processKeyEvent _ _ p
      · exact .refl p
    · split
      · split
        · split
          · exact ⟨⟨rfl, rfl, rfl, rfl, rfl, Iff.rfl⟩, [], (List.append_nil _).symm, by simp [Uses]⟩
          · exact .refl p
        · exact .refl p
      · exact .refl p

theorem length_pending_consumeEvent (event : InputEvent) (p : Pump) :
    (consumeEvent event p).pending.length ≤ p.pending.length + 1 := by
  have henqueue : ∀ action, (enqueueAction p.pending action).length ≤ p.pending.length + 1 := by
    intro action
    unfold enqueueAction
    split_ifs <;> simp
  rcases haxis : axisSlot event.code with _ | slot <;>
    simp only [consumeEvent, haxis] <;> split_ifs
  any_goals exact Nat.le_succ _
  all_goals
    unfold processKeyEvent
    dsimp only
    split
    · exact henqueue _
    · exact Nat.le_succ _

abbrev Pump.setBytes (p : Pump) (bytes : List UInt8) : Pump := { p with partialBytes := bytes }

theorem consumeEvent_setBytes (event : InputEvent) (p : Pump) (bytes : List UInt8) :
    consumeEvent event (p.setBytes bytes) = (consumeEvent event p).setBytes bytes := by
  rcases haxis : axisSlot event.code with _ | slot <;>
    simp only [consumeEvent, haxis] <;> split_ifs <;> rfl

def consumeEvents (events : List InputEvent) (p : Pump) : Pump :=
  events.foldl (fun p event => consumeEvent event p) p

theorem consumeEvents_cons (event : InputEvent) (events : List InputEvent) (p : Pump) :
    consumeEvents (event :: events) p = consumeEvents events (consumeEvent event p) := rfl

theorem consumeEvents_append (first second : List InputEvent) (p : Pump) :
    consumeEvents (first ++ second) p = consumeEvents second (consumeEvents first p) :=
  List.foldl_append

theorem consumeEvents_setBytes (events : List InputEvent) (p : Pump) (bytes : List UInt8) :
    consumeEvents events (p.setBytes bytes) = (consumeEvents events p).setBytes bytes := by
  induction events generalizing p with
  | nil => rfl
  | cons event events ih => rw [consumeEvents_cons, consumeEvents_cons, consumeEvent_setBytes, ih]

theorem continues_consumeEvents (events : List InputEvent) (p : Pump) :
    Continues p (consumeEvents events p) := by
  induction events generalizing p with
  | nil => exact .refl p
  | cons event events ih => exact (continues_consumeEvent event p).trans (ih _)

theorem length_pending_consumeEvents (events : List InputEvent) (p : Pump) :
    (consumeEvents events p).pending.length ≤ p.pending.length + events.length := by
  induction events generalizing p with
  | nil => exact Nat.le_refl _
  | cons event events ih =>
      have hone := length_pending_consumeEvent event p
      have hrest := ih (consumeEvent event p)
      rw [List.length_cons]
      exact hrest.trans (by omega)

/-- The read has bytes, or is to be repeated. -/
def ReadResult.Delivers : ReadResult → Prop
  | .bytes data => data ≠ []
  | .eintr => True
  | .eagain | .failed => False

def delivered (reads : List ReadResult) : List UInt8 :=
  reads.flatMap fun got => match got with
    | .bytes data => data
    | _ => []

@[simp] theorem delivered_nil : delivered [] = [] := rfl

@[simp] theorem delivered_bytes (data : List UInt8) (reads : List ReadResult) :
    delivered (.bytes data :: reads) = data ++ delivered reads := rfl

@[simp] theorem delivered_eintr (reads : List ReadResult) :
    delivered (.eintr :: reads) = delivered reads := rfl

@[simp] theorem delivered_append (first second : List ReadResult) :
    delivered (first ++ second) = delivered first ++ delivered second :=
  List.flatMap_append

theorem delivered_flatten (polls : List (List ReadResult)) :
    delivered polls.flatten = polls.flatMap delivered := by
  induction polls with
  | nil => rfl
  | cons reads polls ih => rw [List.flatten_cons, delivered_append, ih, List.flatMap_cons]

section Buffer

variable [Target]

def eventsOf (bytes : List UInt8) : List InputEvent :=
  (Framing.records Target.eventBytes bytes).map decodeEvent

/-- The pump after the whole records of its buffer. -/
def Pump.drained (p : Pump) : Pump :=
  (consumeEvents (eventsOf p.partialBytes) p).setBytes (Framing.rest Target.eventBytes p.partialBytes)

theorem drained_of_lt {p : Pump} (h : p.partialBytes.length < Target.eventBytes) :
    p.drained = p := by
  rw [Pump.drained, eventsOf, Framing.records_of_lt h, Framing.rest_of_lt h]
  rfl

theorem drainEvents_eq_drained {fuel : Nat} (p : Pump) (h : p.partialBytes.length ≤ fuel) :
    drainEvents fuel p = p.drained := by
  have hpos := Target.eventBytes_pos
  induction fuel generalizing p with
  | zero =>
      rw [drainEvents]
      exact (drained_of_lt (by omega)).symm
  | succ fuel ih =>
      rw [drainEvents]
      dsimp only
      split
      · next hlong =>
          have hconsume := consumeEvent_setBytes
            (decodeEvent (p.partialBytes.take Target.eventBytes)) p
            (p.partialBytes.drop Target.eventBytes)
          rw [Pump.setBytes] at hconsume
          rw [hconsume, ih _ (by simp; omega)]
          simp only [Pump.drained, eventsOf, Framing.records_of_le hpos hlong,
            Framing.rest_of_le hpos hlong, List.map_cons]
          rw [consumeEvents_setBytes, consumeEvents_cons]
      · next hlt => exact (drained_of_lt (by omega)).symm

theorem beginRead_eq (p : Pump) :
    beginRead p = p.drained.called
      (.read p.drained.source.fd (sizeSub 256 p.drained.partialBytes.length)) := by
  rw [beginRead, drainEvents_eq_drained p (Nat.le_refl _)]

theorem continues_beginRead (p : Pump) : Continues p (beginRead p) := by
  rw [beginRead_eq]
  have hevents := continues_consumeEvents (eventsOf p.partialBytes) p
  have hdrained : Continues p p.drained := ⟨hevents.device, hevents.calls⟩
  refine hdrained.trans ⟨.refl _, _, rfl, ?_⟩
  intro call hcall
  exact .inr ⟨_, List.mem_singleton.mp hcall⟩

theorem length_partialBytes_beginRead (p : Pump) :
    (beginRead p).partialBytes.length < Target.eventBytes := by
  rw [beginRead_eq]
  exact Framing.length_rest_lt Target.eventBytes_pos _

theorem pumpSource_cases (reads : List ReadResult) (p : Pump) :
    Continues p (pumpSource reads p) ∨
      ∃ q, Continues p q ∧ pumpSource reads p = handleDisconnect q := by
  induction reads generalizing p with
  | nil => exact .inl (continues_beginRead p)
  | cons got reads ih =>
      have hbegin := continues_beginRead p
      rcases got with (_ | ⟨byte, data⟩) | _ | _ | _ <;> simp only [pumpSource]
      · exact .inr ⟨_, hbegin, rfl⟩
      · -- the bytes read leave the source alone
        have hread : Continues p { beginRead p with
            partialBytes := (beginRead p).partialBytes ++ byte :: data } :=
          ⟨hbegin.device, hbegin.calls⟩
        exact (ih _).imp hread.trans fun ⟨q, hq, heq⟩ => ⟨q, hread.trans hq, heq⟩
      · exact (ih _).imp hbegin.trans fun ⟨q, hq, heq⟩ => ⟨q, hbegin.trans hq, heq⟩
      · exact .inl hbegin
      · exact .inr ⟨_, hbegin, rfl⟩

theorem length_partialBytes_pumpSource (reads : List ReadResult) (p : Pump) :
    (pumpSource reads p).partialBytes.length < Target.eventBytes := by
  induction reads generalizing p with
  | nil => exact length_partialBytes_beginRead p
  | cons got reads ih =>
      rcases got with (_ | ⟨byte, data⟩) | _ | _ | _ <;> simp only [pumpSource]
      · exact Target.eventBytes_pos
      · exact ih _
      · exact ih _
      · exact length_partialBytes_beginRead p
      · exact Target.eventBytes_pos

end Buffer

theorem lostDevice_handleDisconnect (p : Pump) :
    LostDevice p.source (handleDisconnect p).source := by
  unfold handleDisconnect Pump.called
  split <;> exact ⟨rfl, rfl, rfl, rfl, rfl⟩

end VitaLinuxPort
