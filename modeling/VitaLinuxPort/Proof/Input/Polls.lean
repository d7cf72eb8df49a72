import VitaLinuxPort.Proof.Input.Pump

/-!
# What polling does to one source

During a poll the sources share the action queue and nothing else: a source, its partial bytes and
the answers of its descriptor are its own, and what becomes of them depends on nothing else. So a
poll is, for each slot, one pump of its own.
-/

namespace VitaLinuxPort

/-- What belongs to one source: itself, its partial bytes, the answers its descriptor will give. -/
abbrev Own := CartInputSource × List UInt8 × List ResyncAnswer

def Pump.own (p : Pump) : Own := (p.source, p.partialBytes, p.resyncs)

def Pump.ofOwn (own : Own) : Pump where
  source := own.1
  partialBytes := own.2.1
  pending := []
  resyncs := own.2.2
  calls := []

abbrev Pump.setShared (p : Pump) (pending : List CartInputAction) (calls : List Syscall) : Pump :=
  { p with pending, calls }

@[simp] theorem own_ofOwn (own : Own) : (Pump.ofOwn own).own = own := rfl

@[simp] theorem own_called (p : Pump) (call : Syscall) : (p.called call).own = p.own := rfl

theorem own_consumeEvent_setShared (event : InputEvent) (p : Pump)
    (pending : List CartInputAction) (calls : List Syscall) :
    (consumeEvent event (p.setShared pending calls)).own = (consumeEvent event p).own := by
  rcases haxis : axisSlot event.code with _ | slot <;>
    simp only [consumeEvent, haxis] <;> split_ifs <;> rfl

theorem Pump.eq_setShared {p q : Pump} (h : p.own = q.own) : p = q.setShared p.pending p.calls := by
  simp only [Pump.own, Prod.mk.injEq] at h
  obtain ⟨hsource, hbytes, hresyncs⟩ := h
  simp only [Pump.setShared, ← hsource, ← hbytes, ← hresyncs]

theorem own_consumeEvents_congr {p q : Pump} (h : p.own = q.own) (events : List InputEvent) :
    (consumeEvents events p).own = (consumeEvents events q).own := by
  induction events generalizing p q with
  | nil => exact h
  | cons event events ih =>
      have hone : (consumeEvent event p).own = (consumeEvent event q).own := by
        rw [Pump.eq_setShared h, own_consumeEvent_setShared]
      exact ih hone

theorem own_setBytes_congr {p q : Pump} (h : p.own = q.own) (bytes : List UInt8) :
    (p.setBytes bytes).own = (q.setBytes bytes).own := by
  simp only [Pump.own, Prod.mk.injEq] at h ⊢
  exact ⟨h.1, trivial, h.2.2⟩

theorem own_handleDisconnect_congr {p q : Pump} (h : p.own = q.own) :
    (handleDisconnect p).own = (handleDisconnect q).own := by
  rw [Pump.eq_setShared h]
  unfold handleDisconnect Pump.called Pump.own
  dsimp only
  split <;> rfl

variable [Target]

theorem own_drained_congr {p q : Pump} (h : p.own = q.own) : p.drained.own = q.drained.own := by
  have hbytes : p.partialBytes = q.partialBytes := congrArg (·.2.1) h
  rw [Pump.drained, Pump.drained, hbytes]
  exact own_setBytes_congr (own_consumeEvents_congr h _) _

@[simp] theorem own_beginRead (p : Pump) : (beginRead p).own = p.drained.own := by
  rw [beginRead_eq, own_called]

theorem own_pumpSource_congr {p q : Pump} (h : p.own = q.own) (reads : List ReadResult) :
    (pumpSource reads p).own = (pumpSource reads q).own := by
  induction reads generalizing p q with
  | nil =>
      rw [pumpSource, pumpSource, own_beginRead, own_beginRead]
      exact own_drained_congr h
  | cons got reads ih =>
      have hbegin : (beginRead p).own = (beginRead q).own := by
        rw [own_beginRead, own_beginRead]
        exact own_drained_congr h
      rcases got with (_ | ⟨byte, data⟩) | _ | _ | _ <;> simp only [pumpSource]
      · exact own_handleDisconnect_congr hbegin
      · have hbytes : (beginRead p).partialBytes = (beginRead q).partialBytes :=
          congrArg (·.2.1) hbegin
        rw [hbytes]
        exact ih (own_setBytes_congr hbegin _)
      · exact ih hbegin
      · exact hbegin
      · exact own_handleDisconnect_congr hbegin

def pollOwn (reads : List ReadResult) (own : Own) : Own :=
  if own.1.fd < 0 then own
  else if own.1.state = .desync then own
  else (pumpSource reads (Pump.ofOwn own)).own

omit [Target] in
def PollState.own (s : PollState) (slot : Slot) : Own := (s.load slot).own

omit [Target] in
theorem PollState.own_store_self (s : PollState) (slot : Slot) (p : Pump) :
    (s.store slot p).own slot = p.own := by
  simp [PollState.own, PollState.store, PollState.load, Pump.own]

omit [Target] in
theorem PollState.own_store_ne (s : PollState) {slot other : Slot} (h : other ≠ slot) (p : Pump) :
    (s.store slot p).own other = s.own other := by
  simp [PollState.own, PollState.store, PollState.load, Pump.own, h]

theorem own_pollSource_self (reads : Slot → List ReadResult) (s : PollState) (slot : Slot) :
    (pollSource reads s slot).own slot = pollOwn (reads slot) (s.own slot) := by
  unfold pollSource pollOwn
  by_cases hclosed : (s.input.source slot).fd < 0
  · rw [if_pos hclosed, if_pos (show (s.own slot).1.fd < 0 from hclosed)]
  · rw [if_neg hclosed, if_neg (show ¬ (s.own slot).1.fd < 0 from hclosed)]
    by_cases hdesync : (s.input.source slot).state = .desync
    · rw [if_pos hdesync, if_pos (show (s.own slot).1.state = .desync from hdesync)]
    · rw [if_neg hdesync, if_neg (show ¬ (s.own slot).1.state = .desync from hdesync),
        PollState.own_store_self]
      exact own_pumpSource_congr (own_ofOwn (s.own slot)).symm _

theorem own_pollSource_ne (reads : Slot → List ReadResult) (s : PollState) {slot other : Slot}
    (h : other ≠ slot) : (pollSource reads s slot).own other = s.own other := by
  unfold pollSource
  split
  · rfl
  · split
    · rfl
    · exact s.own_store_ne h _

theorem own_foldl_pollSource (reads : Slot → List ReadResult) (slots : List Slot)
    (hnodup : slots.Nodup) (s : PollState) (slot : Slot) :
    (slots.foldl (pollSource reads) s).own slot =
      if slot ∈ slots then pollOwn (reads slot) (s.own slot) else s.own slot := by
  induction slots generalizing s with
  | nil => simp
  | cons first rest ih =>
      rw [List.nodup_cons] at hnodup
      rw [List.foldl_cons, ih hnodup.2]
      by_cases hslot : slot = first
      · subst hslot
        rw [if_neg hnodup.1, if_pos List.mem_cons_self, own_pollSource_self]
      · rw [own_pollSource_ne reads s hslot]
        simp [hslot]

/-- A poll is, for each slot, a pump of its own. -/
theorem own_pollSources (input : CartInput) (reads : Slot → List ReadResult)
    (resyncs : Slot → List ResyncAnswer) (slot : Slot) :
    (pollSources input reads resyncs).own slot =
      pollOwn (reads slot) (input.source slot, input.partialBytes slot, resyncs slot) := by
  rw [pollSources, own_foldl_pollSource reads _ (List.nodup_finRange 4), if_pos (List.mem_finRange _)]
  rfl

theorem own_cartInputPoll (input : CartInput) (reads : Slot → List ReadResult)
    (resyncs : Slot → List ResyncAnswer) (slot : Slot) :
    ((cartInputPoll input reads resyncs).input.source slot,
        (cartInputPoll input reads resyncs).input.partialBytes slot,
        (cartInputPoll input reads resyncs).resyncs slot) =
      pollOwn (reads slot) (input.source slot, input.partialBytes slot, resyncs slot) :=
  own_pollSources input reads resyncs slot

theorem source_cartInputPoll (input : CartInput) (reads : Slot → List ReadResult)
    (resyncs : Slot → List ResyncAnswer) (slot : Slot) :
    (cartInputPoll input reads resyncs).input.source slot =
      (pollOwn (reads slot) (input.source slot, input.partialBytes slot, resyncs slot)).1 :=
  congrArg (·.1) (own_cartInputPoll input reads resyncs slot)

/-- A polled source keeps its device, or had one and has lost it. -/
theorem cartInputPoll_cases (input : CartInput) (reads : Slot → List ReadResult)
    (resyncs : Slot → List ResyncAnswer) (slot : Slot) :
    SameDevice (input.source slot) ((cartInputPoll input reads resyncs).input.source slot) ∨
      0 ≤ (input.source slot).fd ∧
        LostDevice (input.source slot) ((cartInputPoll input reads resyncs).input.source slot) := by
  rw [source_cartInputPoll, pollOwn]
  split
  · exact .inl (.refl _)
  · next hopen =>
      split
      · exact .inl (.refl _)
      · rcases pumpSource_cases (reads slot) (Pump.ofOwn
          (input.source slot, input.partialBytes slot, resyncs slot)) with hsame | ⟨q, hq, heq⟩
        · exact .inl hsame.device
        · refine .inr ⟨by simpa using hopen, ?_⟩
          have hlost := lostDevice_handleDisconnect q
          rw [heq]
          exact ⟨hlost.fd, hlost.state, hlost.generation.trans (by rw [hq.device.generation]; rfl),
            hlost.heldKeys, hlost.lastRaw⟩

end VitaLinuxPort
