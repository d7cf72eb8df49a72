import VitaLinuxPort.Lib.Run
import VitaLinuxPort.Cart.Input.Session
import VitaLinuxPort.Proof.Input.Discovery
import VitaLinuxPort.Proof.Input.Polls

/-!
# Reachable states of the input engine

In every state a sequence of operations can reach, a slot is absent exactly when it holds no
descriptor, and no slot holds back a whole record.
-/

namespace VitaLinuxPort

def CartInput.Present (input : CartInput) (slot : Slot) : Prop :=
  (input.source slot).state ≠ .absent

instance (input : CartInput) : DecidablePred input.Present :=
  fun _ => inferInstanceAs (Decidable (_ ≠ _))

variable [Target]

structure CartInput.WellFormed (input : CartInput) : Prop where
  absent_iff : ∀ slot, (input.source slot).state = .absent ↔ (input.source slot).fd < 0
  partial_lt : ∀ slot, (input.partialBytes slot).length < Target.eventBytes

namespace CartInput.WellFormed

theorem cleared : CartInput.cleared.WellFormed where
  absent_iff _ := by simp [CartInput.cleared, resetSource]
  partial_lt _ := Target.eventBytes_pos

theorem withClaims {input : CartInput} (wf : input.WellFormed) (directory : Directory) :
    (input.withClaims (input.claims directory)).WellFormed where
  absent_iff slot := by
    rcases source_withClaims_cases input directory slot with ⟨candidate, hmem, h⟩ | ⟨_, h⟩
    · have hfd := (prepared_of_mem_claims hmem).fd_nonneg
      simpa [h, CartInputCandidate.connected] using hfd
    · rw [h]
      exact wf.absent_iff slot
  partial_lt := wf.partial_lt

theorem poll {input : CartInput} (wf : input.WellFormed) (reads : Slot → List ReadResult)
    (resyncs : Slot → List ResyncAnswer) : (cartInputPoll input reads resyncs).input.WellFormed where
  absent_iff slot := by
    rcases cartInputPoll_cases input reads resyncs slot with hsame | ⟨_, hlost⟩
    · rw [hsame.absent_iff, hsame.fd]
      exact wf.absent_iff slot
    · rw [hlost.state, hlost.fd]
      decide
  partial_lt slot := by
    have hbytes : (cartInputPoll input reads resyncs).input.partialBytes slot =
        (pollOwn (reads slot) (input.source slot, input.partialBytes slot, resyncs slot)).2.1 :=
      congrArg (·.2.1) (own_cartInputPoll input reads resyncs slot)
    rw [hbytes, pollOwn]
    split
    · exact wf.partial_lt slot
    · split
      · exact wf.partial_lt slot
      · exact length_partialBytes_pumpSource _ _

end CartInput.WellFormed

theorem sameDevice_of_present {input : CartInput} {reads : Slot → List ReadResult}
    {resyncs : Slot → List ResyncAnswer} {slot : Slot}
    (h : (cartInputPoll input reads resyncs).input.Present slot) :
    SameDevice (input.source slot) ((cartInputPoll input reads resyncs).input.source slot) := by
  rcases cartInputPoll_cases input reads resyncs slot with hsame | ⟨_, hlost⟩
  · exact hsame
  · exact absurd hlost.state h

namespace InputSession

variable {s t : InputSession} {op : InputOp} {ops : List InputOp}

theorem performs_functional (s : InputSession) (op : InputOp) (t u : InputSession)
    (left : Performs s op t) (right : Performs s op u) : t = u :=
  left.symm.trans right

theorem input_perform_init (s : InputSession) (directory : Directory) :
    (s.perform (.init directory)).input =
      CartInput.cleared.withClaims (CartInput.cleared.claims directory) :=
  input_discoverPass _ _

theorem input_perform_rescan (s : InputSession) (directory : Directory) :
    (s.perform (.rescan directory)).input = s.input.withClaims (s.input.claims directory) :=
  input_discoverPass _ _

theorem wellFormed_step (wf : s.input.WellFormed) (h : Performs s op t) : t.input.WellFormed := by
  subst h
  cases op with
  | init directory =>
      rw [input_perform_init]
      exact CartInput.WellFormed.cleared.withClaims directory
  | rescan directory =>
      rw [input_perform_rescan]
      exact wf.withClaims directory
  | poll reads resyncs => exact wf.poll reads resyncs
  | shutdown => exact .cleared

theorem wellFormed_of_run (run : Run Performs fresh ops s) : s.input.WellFormed :=
  run.invariant (P := fun s => s.input.WellFormed) .cleared fun _ _ _ => wellFormed_step

def keyboard (fd : Int) : Dirent where
  dName := "event0".toList
  physFile := none
  nameFile := none
  staleName := []
  opened := fd
  probe :=
    { ioctlName := some ['k']
      gamepadKeys := none
      gamepadAbs := none
      keyboardKeys := some [2]
      snapshotAbs := none
      ioctlAbs := fun _ => none }

/-- A gamepad with two stick axes under the given name and physical path, opened as `fd`. -/
def gamepad (name phys : CString) (fd : Int) : Dirent where
  dName := name
  physFile := some phys
  nameFile := none
  staleName := []
  opened := fd
  probe :=
    { ioctlName := some ['p']
      gamepadKeys := some (List.replicate 38 0 ++ [27])
      gamepadAbs := some [3]
      keyboardKeys := none
      snapshotAbs := some [3]
      ioctlAbs := fun _ => some ⟨128, 0, 255, 0, 0, 0⟩ }

def after (ops : List InputOp) : InputSession := ops.foldl perform fresh

theorem run_after (ops : List InputOp) : Run Performs fresh ops (after ops) := by
  induction ops using List.reverseRecOn with
  | nil => exact .nil _
  | append_singleton ops op ih =>
      rw [after, List.foldl_concat]
      exact .concat ih rfl

end InputSession

end VitaLinuxPort
