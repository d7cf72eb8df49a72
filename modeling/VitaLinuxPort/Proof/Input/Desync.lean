import VitaLinuxPort.Proof.Input.Session

/-!
# Recovery from an overrun

A poll does not read a source that is out of sync, so the SYN_REPORT that ends the overrun must be
read by the poll that read the SYN_DROPPED. Cutting a stream into polls is harmless as long as no poll
but the last ends inside an overrun: the source then ends as if the stream had been read by one poll.
A poll that does end there leaves the source out of sync for good, whatever comes after.
-/

namespace VitaLinuxPort

def InputEvent.IsDropped (event : InputEvent) : Prop := event.type = evSyn ∧ event.code = synDropped

def InputEvent.IsReport (event : InputEvent) : Prop := event.type = evSyn ∧ event.code = synReport

/-- The events end inside an overrun: no SYN_REPORT follows the last SYN_DROPPED. -/
def OverrunOpen (events : List InputEvent) : Prop :=
  ∃ before dropped after, events = before ++ dropped :: after ∧ dropped.IsDropped ∧
    ∀ event ∈ after, ¬ event.IsReport

theorem not_overrunOpen_nil : ¬ OverrunOpen [] := by
  rintro ⟨before, dropped, after, h, _⟩
  simp at h

theorem overrunOpen_concat (events : List InputEvent) (last : InputEvent) :
    OverrunOpen (events ++ [last]) ↔
      last.IsDropped ∨ (OverrunOpen events ∧ ¬ last.IsReport) := by
  constructor
  · rintro ⟨before, dropped, after, heq, hdropped, hafter⟩
    rcases List.eq_nil_or_concat after with rfl | ⟨front, final, rfl⟩
    · obtain ⟨_, hlast⟩ := List.append_inj' heq rfl
      cases List.singleton_inj.mp hlast
      exact .inl hdropped
    · rw [List.concat_eq_append, ← List.cons_append, ← List.append_assoc] at heq
      obtain ⟨rfl, hlast⟩ := List.append_inj' heq rfl
      cases List.singleton_inj.mp hlast
      refine .inr ⟨⟨before, dropped, front, rfl, hdropped, fun event hmem => ?_⟩, ?_⟩
      · exact hafter event (by simp [hmem])
      · exact hafter last (by simp)
  · rintro (hdropped | ⟨⟨before, dropped, after, rfl, hdropped, hafter⟩, hreport⟩)
    · exact ⟨events, last, [], rfl, hdropped, by simp⟩
    · refine ⟨before, dropped, after ++ [last], by simp, hdropped, fun event hmem => ?_⟩
      rcases List.mem_append.mp hmem with hmem | hmem
      · exact hafter event hmem
      · cases List.mem_singleton.mp hmem
        exact hreport

/-- The two marks move a source that is there out of sync and back; nothing else moves it. -/
theorem state_consumeEvent {p : Pump} (hpresent : p.source.state ≠ .absent) (event : InputEvent) :
    (event.IsDropped → (consumeEvent event p).source.state = .desync) ∧
      (event.IsReport → (consumeEvent event p).source.state = .connected) ∧
      (¬ event.IsDropped → ¬ event.IsReport →
        (consumeEvent event p).source.state = p.source.state) := by
  have hdiffer : synDropped ≠ synReport := by decide
  refine ⟨?_, ?_, ?_⟩
  · rintro ⟨htype, hcode⟩
    cases hstate : p.source.state <;>
      simp_all [consumeEvent, CartInputSource.setState]
  · rintro ⟨htype, hcode⟩
    cases hstate : p.source.state <;>
      simp_all [consumeEvent, CartInputSource.setState, Ne.symm hdiffer]
  · intro hdropped hreport
    simp only [InputEvent.IsDropped, InputEvent.IsReport, not_and] at hdropped hreport
    unfold consumeEvent
    dsimp only
    split
    · next htype =>
        rw [if_neg fun h => hdropped htype h.1, if_neg fun h => hreport htype h.1]
    · split
      · split <;> rfl
      · split
        · split
          · split <;> rfl
          · rfl
        · rfl

theorem state_consumeEvents {p : Pump} (hconnected : p.source.state = .connected)
    (events : List InputEvent) :
    (OverrunOpen events → (consumeEvents events p).source.state = .desync) ∧
      (¬ OverrunOpen events → (consumeEvents events p).source.state = .connected) := by
  induction events using List.reverseRecOn with
  | nil => exact ⟨fun h => absurd h not_overrunOpen_nil, fun _ => hconnected⟩
  | append_singleton events last ih =>
      have hconcat : consumeEvents (events ++ [last]) p =
          consumeEvent last (consumeEvents events p) := by
        rw [consumeEvents_append, consumeEvents_cons]
        rfl
      have hpresent : (consumeEvents events p).source.state ≠ .absent := by
        by_cases hopen : OverrunOpen events
        · simp [ih.1 hopen]
        · simp [ih.2 hopen]
      obtain ⟨hdropped, hreport, hother⟩ := state_consumeEvent hpresent last
      rw [overrunOpen_concat, hconcat]
      constructor
      · rintro (h | ⟨hopen, hnot⟩)
        · exact hdropped h
        · by_cases h : last.IsDropped
          · exact hdropped h
          · rw [hother h hnot, ih.1 hopen]
      · intro h
        rw [not_or, not_and_not_right] at h
        by_cases hlast : last.IsReport
        · exact hreport hlast
        · rw [hother h.1 hlast, ih.2 fun hopen => hlast (h.2 hopen)]

theorem dvd_add_sub_mod {n : Nat} (hn : 0 < n) (length : Nat) :
    n ∣ length + (n - length % n) := by
  refine ⟨length / n + 1, ?_⟩
  have hdivide := Nat.div_add_mod length n
  have hmod := Nat.mod_lt length hn
  rw [Nat.mul_add, Nat.mul_one]
  omega

variable [Target]

theorem drained_append (p : Pump) (more : List UInt8) :
    (p.drained.setBytes (p.drained.partialBytes ++ more)).drained =
      (p.setBytes (p.partialBytes ++ more)).drained := by
  have hpos := Target.eventBytes_pos
  have hrecords := Framing.records_append hpos p.partialBytes more
  have hrest := Framing.rest_append hpos p.partialBytes more
  simp only [Pump.drained, eventsOf, hrecords, hrest, List.map_append, consumeEvents_setBytes]
  rw [consumeEvents_append]

theorem own_pumpSource_beginRead (reads : List ReadResult) (p : Pump) :
    (pumpSource reads (beginRead p)).own = (pumpSource reads p).own := by
  have hbegin : (beginRead (beginRead p)).own = (beginRead p).own := by
    rw [own_beginRead, drained_of_lt (length_partialBytes_beginRead p)]
  cases reads with
  | nil => exact hbegin
  | cons got reads =>
      rcases got with (_ | ⟨byte, data⟩) | _ | _ | _ <;> simp only [pumpSource]
      · exact own_handleDisconnect_congr hbegin
      · have hbytes : (beginRead (beginRead p)).partialBytes = (beginRead p).partialBytes :=
          congrArg (·.2.1) hbegin
        rw [hbytes]
        exact own_pumpSource_congr (own_setBytes_congr hbegin _) _
      · exact own_pumpSource_congr hbegin _
      · exact hbegin
      · exact own_handleDisconnect_congr hbegin

theorem own_pumpSource_append {first : List ReadResult} (hfirst : ∀ got ∈ first, got.Delivers)
    (second : List ReadResult) (p : Pump) :
    (pumpSource (first ++ second) p).own = (pumpSource second (pumpSource first p)).own := by
  induction first generalizing p with
  | nil => exact (own_pumpSource_beginRead second p).symm
  | cons got first ih =>
      rw [List.forall_mem_cons] at hfirst
      rcases got with (_ | ⟨byte, data⟩) | _ | _ | _
      · exact absurd rfl hfirst.1
      · simp only [List.cons_append, pumpSource]
        exact ih hfirst.2 _
      · simp only [List.cons_append, pumpSource]
        exact ih hfirst.2 _
      · exact hfirst.1.elim
      · exact hfirst.1.elim

theorem own_pumpSource_of_delivers {reads : List ReadResult}
    (hreads : ∀ got ∈ reads, got.Delivers) (p : Pump) :
    (pumpSource reads p).own = (p.setBytes (p.partialBytes ++ delivered reads)).drained.own := by
  induction reads generalizing p with
  | nil => simp [pumpSource]
  | cons got reads ih =>
      rw [List.forall_mem_cons] at hreads
      have hbegin : (beginRead p).own = p.drained.own := own_beginRead p
      have hbytes : (beginRead p).partialBytes = p.drained.partialBytes :=
        congrArg (·.2.1) hbegin
      rcases got with (_ | ⟨byte, data⟩) | _ | _ | _
      · exact absurd rfl hreads.1
      · simp only [pumpSource]
        rw [ih hreads.2, hbytes, delivered_bytes, ← drained_append p, List.append_assoc]
        exact own_drained_congr (own_setBytes_congr hbegin _)
      · simp only [pumpSource]
        rw [ih hreads.2, hbytes, delivered_eintr, ← drained_append p]
        exact own_drained_congr (own_setBytes_congr hbegin _)
      · exact hreads.1.elim
      · exact hreads.1.elim

section OneSlot

variable {own : Own}

structure Readable (own : Own) : Prop where
  fd : 0 ≤ own.1.fd
  connected : own.1.state = .connected
  partial_lt : own.2.1.length < Target.eventBytes

theorem readable_of_connected {input : CartInput} (wf : input.WellFormed) {slot : Slot}
    (hconnected : (input.source slot).state = .connected) (resyncs : List ResyncAnswer) :
    Readable (input.source slot, input.partialBytes slot, resyncs) := by
  have hopen := (wf.absent_iff slot).not.mp (by simp [hconnected])
  exact ⟨by simpa using hopen, hconnected, wf.partial_lt slot⟩

theorem pollOwn_of_readable (h : Readable own) (reads : List ReadResult) :
    pollOwn reads own = (pumpSource reads (Pump.ofOwn own)).own := by
  rw [pollOwn, if_neg (by have := h.fd; omega), if_neg (by simp [h.connected])]

theorem pollOwn_of_desync (h : own.1.state = .desync) (reads : List ReadResult) :
    pollOwn reads own = own := by
  rw [pollOwn, if_pos h]
  split <;> rfl

theorem pollOwn_nil (h : Readable own) : pollOwn [] own = own := by
  rw [pollOwn_of_readable h, pumpSource, own_beginRead, drained_of_lt (p := .ofOwn own) h.partial_lt,
    own_ofOwn]

/-- A poll that ends on EAGAIN leaves the source out of sync or ready for the next poll. -/
theorem pollOwn_cases (h : Readable own) {reads : List ReadResult}
    (hreads : ∀ got ∈ reads, got.Delivers) :
    (OverrunOpen (eventsOf (own.2.1 ++ delivered reads)) →
        (pollOwn reads own).1.state = .desync) ∧
      (¬ OverrunOpen (eventsOf (own.2.1 ++ delivered reads)) →
        Readable (pollOwn reads own)) := by
  have hown := own_pumpSource_of_delivers hreads (Pump.ofOwn own)
  have hdevice := continues_consumeEvents (eventsOf (own.2.1 ++ delivered reads))
    ((Pump.ofOwn own).setBytes (own.2.1 ++ delivered reads))
  have hstate := state_consumeEvents
    (p := (Pump.ofOwn own).setBytes (own.2.1 ++ delivered reads)) h.connected
    (eventsOf (own.2.1 ++ delivered reads))
  rw [pollOwn_of_readable h, hown]
  refine ⟨hstate.1, fun hclosed => ⟨?_, hstate.2 hclosed, ?_⟩⟩
  · exact h.fd.trans_eq hdevice.device.fd.symm
  · exact Framing.length_rest_lt Target.eventBytes_pos _

theorem pollOwn_append (h : Readable own) {first : List ReadResult}
    (hfirst : ∀ got ∈ first, got.Delivers) (hnext : Readable (pollOwn first own))
    (second : List ReadResult) :
    pollOwn (first ++ second) own = pollOwn second (pollOwn first own) := by
  rw [pollOwn_of_readable hnext, pollOwn_of_readable h, own_pumpSource_append hfirst]
  refine own_pumpSource_congr ?_ _
  rw [own_ofOwn, pollOwn_of_readable h]

/-- No poll of the list ends inside an overrun. -/
def ClosesOverruns (own : Own) (polls : List (List ReadResult)) : Prop :=
  ∀ past, past <+: polls → ¬ OverrunOpen (eventsOf (own.2.1 ++ past.flatMap delivered))

omit [Target] in
theorem delivers_flatten {polls : List (List ReadResult)}
    (hpolls : ∀ reads ∈ polls, ∀ got ∈ reads, got.Delivers) :
    ∀ got ∈ polls.flatten, got.Delivers := by
  intro got hgot
  obtain ⟨reads, hreads, hgot⟩ := List.mem_flatten.mp hgot
  exact hpolls reads hreads got hgot

theorem closesOverruns_concat {polls : List (List ReadResult)} {last : List ReadResult} :
    ClosesOverruns own (polls ++ [last]) ↔ ClosesOverruns own polls ∧
      ¬ OverrunOpen (eventsOf (own.2.1 ++ delivered (polls.flatten ++ last))) := by
  have hall : delivered (polls.flatten ++ last) = (polls ++ [last]).flatMap delivered := by
    rw [← delivered_flatten, List.flatten_append, List.flatten_singleton]
  rw [hall]
  constructor
  · intro hcloses
    refine ⟨fun past hpast => hcloses past (hpast.trans (List.prefix_append _ _)), ?_⟩
    exact hcloses _ List.prefix_rfl
  · rintro ⟨hpast, hfull⟩ past hpre
    rcases List.prefix_concat_iff.mp hpre with rfl | hpre
    · exact hfull
    · exact hpast past hpre

/-- Polls that close their overruns amount to one poll; after others the source is out of sync. -/
theorem foldl_pollOwn (h : Readable own) {polls : List (List ReadResult)}
    (hpolls : ∀ reads ∈ polls, ∀ got ∈ reads, got.Delivers) :
    (ClosesOverruns own polls →
        polls.foldl (fun own reads => pollOwn reads own) own = pollOwn polls.flatten own) ∧
      (¬ ClosesOverruns own polls →
        (polls.foldl (fun own reads => pollOwn reads own) own).1.state = .desync) := by
  induction polls using List.reverseRecOn with
  | nil =>
      refine ⟨fun _ => (pollOwn_nil h).symm, fun hnot => absurd (fun past hpast => ?_) hnot⟩
      cases List.prefix_nil.mp hpast
      rw [List.flatMap_nil, List.append_nil, eventsOf, Framing.records_of_lt h.partial_lt]
      exact not_overrunOpen_nil
  | append_singleton polls last ih =>
      have hfront := fun reads hmem => hpolls reads (List.mem_append_left _ hmem)
      have hflat := delivers_flatten hfront
      have hflatAll : ∀ got ∈ polls.flatten ++ last, got.Delivers := by
        simpa using delivers_flatten hpolls
      obtain ⟨hclosed, hstuck⟩ := ih hfront
      rw [List.foldl_concat, closesOverruns_concat]
      by_cases hpast : ClosesOverruns own polls
      · have hboundary := hpast polls List.prefix_rfl
        rw [← delivered_flatten] at hboundary
        have hnext := (pollOwn_cases h hflat).2 hboundary
        have happend := pollOwn_append h hflat hnext last
        have hends := pollOwn_cases h hflatAll
        rw [hclosed hpast, ← happend]
        refine ⟨fun _ => by simp, fun hnot => hends.1 ?_⟩
        exact not_not.mp fun hopen => hnot ⟨hpast, hopen⟩
      · rw [pollOwn_of_desync (hstuck hpast)]
        exact ⟨fun hboth => absurd hboth.1 hpast, fun _ => hstuck hpast⟩

theorem closesOverruns_map {slot : Slot} {polls : List (Slot → List ReadResult)} :
    ClosesOverruns own (polls.map (· slot)) ↔ ∀ past, past <+: polls → ¬ OverrunOpen
      (eventsOf (own.2.1 ++ delivered (past.flatMap (· slot)))) := by
  constructor
  · intro h past hpast
    have hopen := h _ (hpast.map _)
    rwa [← delivered_flatten] at hopen
  · intro h past hpast
    obtain ⟨earlier, hearlier, rfl⟩ := List.prefix_map_iff.mp hpast
    have hopen := h earlier hearlier
    rwa [List.flatMap, delivered_flatten] at hopen

theorem state_pumpSource_eof (data : List UInt8) (p : Pump) :
    (pumpSource [.bytes data, .bytes []] p).source.state = .absent := by
  rcases data with _ | ⟨byte, data⟩ <;> simp only [pumpSource] <;>
    exact (lostDevice_handleDisconnect _).state

end OneSlot

def pollNext (state : CartInput × (Slot → List ResyncAnswer)) (reads : Slot → List ReadResult) :
    CartInput × (Slot → List ResyncAnswer) :=
  let polled := cartInputPoll state.1 reads state.2
  (polled.input, polled.resyncs)

def pollInTurn (input : CartInput) (resyncs : Slot → List ResyncAnswer)
    (polls : List (Slot → List ReadResult)) : CartInput :=
  (polls.foldl pollNext (input, resyncs)).1

theorem source_pollInTurn (input : CartInput) (resyncs : Slot → List ResyncAnswer)
    (polls : List (Slot → List ReadResult)) (slot : Slot) :
    (pollInTurn input resyncs polls).source slot =
      ((polls.map (· slot)).foldl (fun own reads => pollOwn reads own)
        (input.source slot, input.partialBytes slot, resyncs slot)).1 := by
  induction polls generalizing input resyncs with
  | nil => rfl
  | cons reads polls ih =>
      rw [List.map_cons, List.foldl_cons, ← own_cartInputPoll]
      exact ih _ _

/-- The sources agree on what the device has reported. -/
def SameReadings (s t : CartInputSource) : Prop :=
  s.state = t.state ∧ s.heldKeys = t.heldKeys ∧ s.lastRaw = t.lastRaw

namespace InputSession

variable {s : InputSession} {ops : List InputOp}

/-- However a stream is cut into reads and polls, and whatever the last poll reads, a connected source
ends as if one poll had read it all, exactly when no earlier poll ends inside an overrun. -/
theorem split_polls_iff_closesOverruns (run : Run Performs fresh ops s) {slot : Slot}
    (hconnected : (s.input.source slot).state = .connected) (resyncs : Slot → List ResyncAnswer)
    {polls : List (Slot → List ReadResult)}
    (hpolls : ∀ reads ∈ polls, ∀ got ∈ reads slot, got.Delivers) :
    (∀ last : Slot → List ReadResult,
        Target.eventBytes ∣ (s.input.partialBytes slot ++
          delivered ((polls ++ [last]).flatMap (· slot))).length →
        SameReadings ((pollInTurn s.input resyncs (polls ++ [last])).source slot)
          ((cartInputPoll s.input (fun j => (polls ++ [last]).flatMap (· j)) resyncs).input.source
            slot)) ↔
      ∀ past, past <+: polls → ¬ OverrunOpen
        (eventsOf (s.input.partialBytes slot ++ delivered (past.flatMap (· slot)))) := by
  set own : Own := (s.input.source slot, s.input.partialBytes slot, resyncs slot) with hown
  have hreadable : Readable own := readable_of_connected (wellFormed_of_run run) hconnected _
  have hslot : ∀ reads ∈ polls.map (· slot), ∀ got ∈ reads, got.Delivers := by
    intro reads hreads
    obtain ⟨poll, hpoll, rfl⟩ := List.mem_map.mp hreads
    exact hpolls poll hpoll
  have hflat := delivers_flatten hslot
  have hcloses : ClosesOverruns own (polls.map (· slot)) ↔ _ := closesOverruns_map
  obtain ⟨hclosed, hstuck⟩ := foldl_pollOwn hreadable hslot
  refine Iff.trans ?_ hcloses
  simp only [source_pollInTurn, source_cartInputPoll, ← hown, List.map_append, List.map_cons,
    List.map_nil, List.foldl_concat, List.flatMap, List.flatten_append, List.flatten_singleton]
  constructor
  · intro hsame
    by_contra hopen
    -- a last poll that completes the record and then reads the end of file
    set pad := List.replicate (Target.eventBytes - (s.input.partialBytes slot ++
      delivered (polls.map (· slot)).flatten).length % Target.eventBytes) (0 : UInt8) with hpad
    have hstate := (hsame (fun _ => [.bytes pad, .bytes []]) ?_).1
    · rw [pollOwn_of_desync (hstuck hopen), hstuck hopen, pollOwn_of_readable hreadable] at hstate
      have happend := own_pumpSource_append hflat [.bytes pad, .bytes []] (Pump.ofOwn own)
      rw [happend] at hstate
      generalize pumpSource (polls.map (· slot)).flatten (Pump.ofOwn own) = p at hstate
      rw [Pump.own, state_pumpSource_eof pad p] at hstate
      cases hstate
    · have hdvd := dvd_add_sub_mod Target.eventBytes_pos (s.input.partialBytes slot ++
        delivered (polls.map (· slot)).flatten).length
      simpa [hpad, Nat.add_assoc] using hdvd
  · intro h last _
    have hboundary := h _ List.prefix_rfl
    rw [← delivered_flatten] at hboundary
    have hnext := (pollOwn_cases hreadable hflat).2 hboundary
    rw [hclosed h, pollOwn_append hreadable hflat hnext]
    exact ⟨rfl, rfl, rfl⟩

private def dropped : ReadResult := .bytes (List.replicate 8 0 ++ [0, 0, 3, 0, 0, 0, 0, 0])

private def report : ReadResult := .bytes (List.replicate 16 0)

private def noAnswers : Slot → List ResyncAnswer := fun _ => []

private def firstPoll : List (Slot → List ReadResult) := [fun _ => [dropped]]

omit [Target] in
theorem split_polls_iff_closesOverruns_keyboard :
    letI := armv7
    let s := after [.init (.entries [keyboard 3])]
    (∀ last : Slot → List ReadResult,
        Target.eventBytes ∣ (s.input.partialBytes 0 ++
          delivered ((firstPoll ++ [last]).flatMap (· 0))).length →
        SameReadings ((pollInTurn s.input noAnswers (firstPoll ++ [last])).source 0)
          ((cartInputPoll s.input (fun j => (firstPoll ++ [last]).flatMap (· j)) noAnswers).input.source
            0)) ↔
      ∀ past, past <+: firstPoll → ¬ OverrunOpen
        (eventsOf (s.input.partialBytes 0 ++ delivered (past.flatMap (· 0)))) := by
  refine @split_polls_iff_closesOverruns armv7 _ _ (@run_after armv7 [.init (.entries [keyboard 3])]) _
    (by decide) noAnswers _ ?_
  intro reads hreads got hgot
  cases List.mem_singleton.mp hreads
  cases List.mem_singleton.mp hgot
  simp [dropped, ReadResult.Delivers]

omit [Target] in
/-- A SYN_DROPPED in one poll and its SYN_REPORT in the next: the source stays out of sync, and does
not notice the end of file that follows either. -/
theorem overrun_split_between_polls :
    letI := armv7
    let s := after [.init (.entries [keyboard 3])]
    let split := pollInTurn s.input noAnswers [fun _ => [dropped], fun _ => [report]]
    let single := (cartInputPoll s.input (fun _ => [dropped, report]) noAnswers).input
    let splitEnd := pollInTurn s.input noAnswers [fun _ => [dropped], fun _ => [.bytes []]]
    let singleEnd := (cartInputPoll s.input (fun _ => [dropped, .bytes []]) noAnswers).input
    (s.input.source 0).state = .connected ∧ s.input.partialBytes 0 = [] ∧
      (split.source 0).state = .desync ∧ (single.source 0).state = .connected ∧
      (splitEnd.source 0).state = .desync ∧ (singleEnd.source 0).state = .absent := by
  decide

end InputSession

end VitaLinuxPort
