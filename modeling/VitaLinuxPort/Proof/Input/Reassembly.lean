import VitaLinuxPort.Proof.Input.Polls

/-!
# Reassembling the events

What a pump does at the buffer of partial bytes is a trace: it takes a record off and consumes it,
asks for as many bytes as the buffer has room for, puts what it gets at the end. Replaying the trace
is pumping. However the stream is cut into reads, the events of the trace are the records of the old
bytes and all new ones, and between two reads the buffer holds less than a record, so that there is
room for more and every request stays inside the buffer.
-/

namespace VitaLinuxPort

/-- What a pump does at the buffer; `held` is the number of bytes in it. -/
inductive BufferStep where
  | consume (event : InputEvent)
  | request (held count : Nat)
  | fill (held : Nat) (data : List UInt8)
  | lose
  deriving DecidableEq, Repr

variable [Target]

namespace BufferStep

def apply (p : Pump) : BufferStep → Pump
  | consume event => consumeEvent event (p.setBytes (p.partialBytes.drop Target.eventBytes))
  | request _ count => p.called (.read p.source.fd count)
  | fill _ data => p.setBytes (p.partialBytes ++ data)
  | lose => handleDisconnect p

def replay (trace : List BufferStep) (p : Pump) : Pump := trace.foldl apply p

omit [Target] in
def consumed (trace : List BufferStep) : List InputEvent :=
  trace.filterMap fun step => match step with
    | consume event => some event
    | _ => none

omit [Target] in
@[simp] theorem consumed_append (first second : List BufferStep) :
    consumed (first ++ second) = consumed first ++ consumed second :=
  List.filterMap_append

theorem replay_append (first second : List BufferStep) (p : Pump) :
    replay (first ++ second) p = replay second (replay first p) :=
  List.foldl_append

end BufferStep

open BufferStep

/-- The records of the buffer are consumed, and the room behind the rest is asked for. -/
def readTrace (bytes : List UInt8) : List BufferStep :=
  (eventsOf bytes).map .consume ++
    [.request (Framing.rest Target.eventBytes bytes).length
      (sizeSub 256 (Framing.rest Target.eventBytes bytes).length)]

def pumpTrace : List ReadResult → List UInt8 → List BufferStep
  | [], bytes => readTrace bytes
  | got :: reads, bytes =>
      let rest := Framing.rest Target.eventBytes bytes
      readTrace bytes ++ match got with
        | .bytes [] => [.lose]
        | .bytes data => .fill rest.length data :: pumpTrace reads (rest ++ data)
        | .eintr => pumpTrace reads rest
        | .eagain => []
        | .failed => [.lose]

theorem consumed_readTrace (bytes : List UInt8) : consumed (readTrace bytes) = eventsOf bytes := by
  simp [readTrace, consumed, List.filterMap_map]

omit [Target] in
theorem partialBytes_consumeEvent (event : InputEvent) (p : Pump) :
    (consumeEvent event p).partialBytes = p.partialBytes := by
  have hsame := congrArg Pump.partialBytes (consumeEvent_setBytes event p p.partialBytes)
  exact hsame

theorem replay_consume (bytes : List UInt8) (p : Pump) (hbytes : p.partialBytes = bytes) :
    replay ((eventsOf bytes).map .consume) p = p.drained := by
  induction hlength : bytes.length using Nat.strongRecOn generalizing bytes p with
  | ind length ih =>
      subst hbytes
      rcases Nat.lt_or_ge p.partialBytes.length Target.eventBytes with hshort | hlong
      · rw [Pump.drained, eventsOf, Framing.records_of_lt hshort, Framing.rest_of_lt hshort]
        rfl
      · have hpos := Target.eventBytes_pos
        have hdrop : (p.partialBytes.drop Target.eventBytes).length < length := by
          rw [List.length_drop]
          omega
        have hnext := ih _ hdrop (p.partialBytes.drop Target.eventBytes)
          (consumeEvent (decodeEvent (p.partialBytes.take Target.eventBytes))
            (p.setBytes (p.partialBytes.drop Target.eventBytes)))
          (partialBytes_consumeEvent _ _) rfl
        simp only [eventsOf] at hnext
        rw [eventsOf, Framing.records_of_le hpos hlong, List.map_cons, List.map_cons, replay,
          List.foldl_cons]
        refine hnext.trans ?_
        rw [consumeEvent_setBytes]
        simp only [Pump.drained, eventsOf, Framing.records_of_le hpos hlong,
          Framing.rest_of_le hpos hlong, List.map_cons, consumeEvents_setBytes]
        rfl

theorem replay_readTrace (p : Pump) : replay (readTrace p.partialBytes) p = beginRead p := by
  rw [readTrace, replay_append, replay_consume _ p rfl, beginRead_eq]
  rfl

theorem partialBytes_beginRead (p : Pump) :
    (beginRead p).partialBytes = Framing.rest Target.eventBytes p.partialBytes := by
  rw [beginRead_eq]
  rfl

/-- The trace is what the pump does. -/
theorem replay_pumpTrace (reads : List ReadResult) (p : Pump) :
    replay (pumpTrace reads p.partialBytes) p = pumpSource reads p := by
  induction reads generalizing p with
  | nil => exact replay_readTrace p
  | cons got reads ih =>
      have hrest := partialBytes_beginRead p
      rcases got with (_ | ⟨byte, data⟩) | _ | _ | _ <;>
        simp only [pumpTrace, pumpSource, replay_append, replay_readTrace]
      · rfl
      · rw [← hrest]
        exact ih ((beginRead p).setBytes ((beginRead p).partialBytes ++ byte :: data))
      · rw [← hrest]
        exact ih (beginRead p)
      · rfl
      · rfl

theorem eventsOf_append (front back : List UInt8) :
    eventsOf (front ++ back) =
      eventsOf front ++ eventsOf (Framing.rest Target.eventBytes front ++ back) := by
  rw [eventsOf, Framing.records_append Target.eventBytes_pos, List.map_append]
  rfl

/-- Where every read but the last delivers, the events consumed are the records of the stream. -/
theorem consumed_pumpTrace {reads : List ReadResult} (hreads : ∀ got ∈ reads, got.Delivers)
    (bytes : List UInt8) :
    consumed (pumpTrace (reads ++ [.eagain]) bytes) = eventsOf (bytes ++ delivered reads) := by
  induction reads generalizing bytes with
  | nil => simp [pumpTrace, consumed_readTrace]
  | cons got reads ih =>
      have hrest := ih fun later hlater => hreads later (List.mem_cons_of_mem _ hlater)
      have hgot := hreads got List.mem_cons_self
      rw [List.cons_append, eventsOf_append]
      rcases got with (_ | ⟨byte, data⟩) | _ | _ | _
      · exact absurd rfl hgot
      · rw [pumpTrace, consumed_append, consumed_readTrace, delivered_bytes, ← List.append_assoc,
          ← hrest]
        · rfl
        · simp
      · rw [pumpTrace, consumed_append, consumed_readTrace, delivered_eintr, ← hrest]
      · exact hgot.elim
      · exact hgot.elim

theorem partialBytes_pumpSource {reads : List ReadResult} (hreads : ∀ got ∈ reads, got.Delivers)
    (p : Pump) :
    (pumpSource (reads ++ [.eagain]) p).partialBytes =
      Framing.rest Target.eventBytes (p.partialBytes ++ delivered reads) := by
  induction reads generalizing p with
  | nil =>
      rw [delivered_nil, List.append_nil]
      exact partialBytes_beginRead p
  | cons got reads ih =>
      have hrest := fun q => ih (fun later hlater => hreads later (List.mem_cons_of_mem _ hlater)) q
      have hgot := hreads got List.mem_cons_self
      have hpos := Target.eventBytes_pos
      rw [List.cons_append]
      rcases got with (_ | ⟨byte, data⟩) | _ | _ | _ <;> simp only [pumpSource]
      · exact absurd rfl hgot
      · rw [hrest, delivered_bytes, Framing.rest_append hpos p.partialBytes]
        simp only [partialBytes_beginRead, List.append_assoc]
      · rw [hrest, delivered_eintr, Framing.rest_append hpos p.partialBytes, partialBytes_beginRead]
      · exact hgot.elim
      · exact hgot.elim

/-- Every request is for at least one byte and ends with the buffer, and an answer no longer than its
request ends inside it. -/
def SafeRequests (trace : List BufferStep) : Prop :=
  (∀ held count, .request held count ∈ trace → 0 < count ∧ held + count ≤ 256) ∧
    ∀ held data, .fill held data ∈ trace → data.length ≤ sizeSub 256 held → held + data.length ≤ 256

theorem sizeSub_held (bytes : List UInt8) :
    sizeSub 256 (Framing.rest Target.eventBytes bytes).length =
      256 - (Framing.rest Target.eventBytes bytes).length ∧
    (Framing.rest Target.eventBytes bytes).length < 256 := by
  have hshort := Framing.length_rest_lt Target.eventBytes_pos bytes
  have hroom := Target.eventBytes_le
  have hwide := two_pow_16_le_sizeBits
  exact ⟨sizeSub_of_le (by omega) (by omega), by omega⟩

theorem SafeRequests.append {first second : List BufferStep} (hfirst : SafeRequests first)
    (hsecond : SafeRequests second) : SafeRequests (first ++ second) := by
  constructor
  · intro held count hmem
    exact (List.mem_append.mp hmem).elim (hfirst.1 held count) (hsecond.1 held count)
  · intro held data hmem
    exact (List.mem_append.mp hmem).elim (hfirst.2 held data) (hsecond.2 held data)

theorem safeRequests_readTrace (bytes : List UInt8) : SafeRequests (readTrace bytes) := by
  obtain ⟨hcount, hheld⟩ := sizeSub_held bytes
  constructor
  · intro held count hmem
    simp only [readTrace, List.mem_append, List.mem_map, reduceCtorEq, and_false, exists_false,
      List.mem_singleton, request.injEq, false_or] at hmem
    omega
  · intro held data hmem
    simp [readTrace] at hmem

theorem safeRequests_fill (bytes data : List UInt8) :
    SafeRequests [.fill (Framing.rest Target.eventBytes bytes).length data] := by
  obtain ⟨hcount, hheld⟩ := sizeSub_held bytes
  refine ⟨by simp, ?_⟩
  intro held answer hmem hfits
  obtain ⟨rfl, rfl⟩ : held = (Framing.rest Target.eventBytes bytes).length ∧ answer = data := by
    simpa using hmem
  omega

theorem safeRequests_pumpTrace (reads : List ReadResult) (bytes : List UInt8) :
    SafeRequests (pumpTrace reads bytes) := by
  induction reads generalizing bytes with
  | nil => exact safeRequests_readTrace bytes
  | cons got reads ih =>
      refine (safeRequests_readTrace bytes).append ?_
      rcases got with (_ | ⟨byte, data⟩) | _ | _ | _
      · exact ⟨by simp, by simp⟩
      · exact (safeRequests_fill bytes (byte :: data)).append (ih _)
      · exact ih _
      · exact ⟨by simp, by simp⟩
      · exact ⟨by simp, by simp⟩

/-- Pumps one after the other, each ended by EAGAIN. -/
def pumpInTurn (p : Pump) (polls : List (List ReadResult)) : Pump :=
  polls.foldl (fun p reads => pumpSource (reads ++ [.eagain]) p) p

def traceInTurn (bytes : List UInt8) : List (List ReadResult) → List BufferStep
  | [] => []
  | reads :: polls =>
      pumpTrace (reads ++ [.eagain]) bytes ++
        traceInTurn (Framing.rest Target.eventBytes (bytes ++ delivered reads)) polls

theorem safeRequests_traceInTurn (bytes : List UInt8) (polls : List (List ReadResult)) :
    SafeRequests (traceInTurn bytes polls) := by
  induction polls generalizing bytes with
  | nil => exact ⟨nofun, nofun⟩
  | cons reads polls ih => exact (safeRequests_pumpTrace _ bytes).append (ih _)

theorem replay_traceInTurn {polls : List (List ReadResult)}
    (hpolls : ∀ reads ∈ polls, ∀ got ∈ reads, got.Delivers) (p : Pump) :
    replay (traceInTurn p.partialBytes polls) p = pumpInTurn p polls := by
  induction polls generalizing p with
  | nil => rfl
  | cons reads polls ih =>
      have hlater := ih fun later hlater => hpolls later (List.mem_cons_of_mem _ hlater)
      rw [traceInTurn, replay_append, replay_pumpTrace,
        ← partialBytes_pumpSource (hpolls reads List.mem_cons_self), hlater]
      rfl

theorem consumed_traceInTurn {polls : List (List ReadResult)}
    (hpolls : ∀ reads ∈ polls, ∀ got ∈ reads, got.Delivers) {bytes : List UInt8}
    (hbytes : bytes.length < Target.eventBytes) :
    consumed (traceInTurn bytes polls) = eventsOf (bytes ++ delivered polls.flatten) := by
  induction polls generalizing bytes with
  | nil =>
      simp only [traceInTurn, List.flatten_nil, delivered_nil, List.append_nil, eventsOf,
        Framing.records_of_lt hbytes]
      rfl
  | cons reads polls ih =>
      have hlater := ih (fun later hlater => hpolls later (List.mem_cons_of_mem _ hlater))
        (Framing.length_rest_lt Target.eventBytes_pos (bytes ++ delivered reads))
      rw [traceInTurn, consumed_append, hlater, consumed_pumpTrace (hpolls reads List.mem_cons_self),
        List.flatten_cons, delivered_append, ← List.append_assoc, ← eventsOf_append]

theorem partialBytes_pumpInTurn {polls : List (List ReadResult)}
    (hpolls : ∀ reads ∈ polls, ∀ got ∈ reads, got.Delivers) {p : Pump}
    (hbytes : p.partialBytes.length < Target.eventBytes) :
    (pumpInTurn p polls).partialBytes =
      Framing.rest Target.eventBytes (p.partialBytes ++ delivered polls.flatten) := by
  induction polls generalizing p with
  | nil =>
      rw [List.flatten_nil, delivered_nil, List.append_nil, Framing.rest_of_lt hbytes]
      rfl
  | cons reads polls ih =>
      have hreads := hpolls reads List.mem_cons_self
      have hbytes' := partialBytes_pumpSource hreads p
      have hlater := ih (fun later hlater => hpolls later (List.mem_cons_of_mem _ hlater))
        (p := pumpSource (reads ++ [.eagain]) p)
        (by rw [hbytes']; exact Framing.length_rest_lt Target.eventBytes_pos _)
      rw [hbytes', ← Framing.rest_append Target.eventBytes_pos, List.append_assoc,
        ← delivered_append, ← List.flatten_cons] at hlater
      exact hlater

/-- The pumps consume the records of the stream, in order, and hold back what is left of it; every
request they make is for at least one byte and inside the buffer. -/
structure Reassembles (p : Pump) (polls : List (List ReadResult)) : Prop where
  replayed : replay (traceInTurn p.partialBytes polls) p = pumpInTurn p polls
  requests : SafeRequests (traceInTurn p.partialBytes polls)
  events : consumed (traceInTurn p.partialBytes polls) =
    eventsOf (p.partialBytes ++ delivered polls.flatten)
  held : (pumpInTurn p polls).partialBytes =
    Framing.rest Target.eventBytes (p.partialBytes ++ delivered polls.flatten)
  held_lt : (pumpInTurn p polls).partialBytes.length < Target.eventBytes

/-- A stream is reassembled however it is cut into reads and pumps, and any two ways to cut it
consume the same events and hold back the same bytes. -/
theorem pumps_reassemble {p : Pump} (hheld : p.partialBytes.length < Target.eventBytes)
    {polls : List (List ReadResult)} (hpolls : ∀ reads ∈ polls, ∀ got ∈ reads, got.Delivers) :
    Reassembles p polls ∧
      ∀ others : List (List ReadResult), (∀ reads ∈ others, ∀ got ∈ reads, got.Delivers) →
        delivered others.flatten = delivered polls.flatten →
        consumed (traceInTurn p.partialBytes others) = consumed (traceInTurn p.partialBytes polls) ∧
          (pumpInTurn p others).partialBytes = (pumpInTurn p polls).partialBytes := by
  have hrest := partialBytes_pumpInTurn hpolls hheld
  refine ⟨⟨replay_traceInTurn hpolls p, safeRequests_traceInTurn _ _,
    consumed_traceInTurn hpolls hheld, hrest, ?_⟩, ?_⟩
  · rw [hrest]
    exact Framing.length_rest_lt Target.eventBytes_pos _
  · intro others hothers hsame
    rw [consumed_traceInTurn hothers hheld, consumed_traceInTurn hpolls hheld,
      partialBytes_pumpInTurn hothers hheld, hrest, hsame]
    exact ⟨rfl, rfl⟩

/-- A key press of which three bytes have come, in two more pumps. -/
private def shortReads : List (List ReadResult) :=
  [[.bytes [0, 0, 0, 0, 0], .eintr, .bytes [1, 0]], [.bytes [30, 0, 1, 0, 0, 0, 7]]]

omit [Target] in
theorem pumps_reassemble_shortReads :
    letI := armv7
    let p := { Pump.ofOwn (.zero, [], []) with partialBytes := [0, 0, 0] }
    Reassembles p shortReads ∧ consumed (traceInTurn p.partialBytes shortReads) = [⟨evKey, 30, 1⟩] ∧
      (pumpInTurn p shortReads).partialBytes = [7] := by
  let _ : Target := armv7
  have hpolls : ∀ reads ∈ shortReads, ∀ got ∈ reads, got.Delivers := by
    simp [shortReads, ReadResult.Delivers]
  exact ⟨(pumps_reassemble (by decide) hpolls).1, by decide, by decide⟩

end VitaLinuxPort
