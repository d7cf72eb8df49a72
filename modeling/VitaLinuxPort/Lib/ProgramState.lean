import VitaLinuxPort.Lib.Program
import VitaLinuxPort.Lib.Run

/-!
# Programs in a state

What a call does to the state of the system, and what it answers, is a relation on the states. A contract
adds what has to hold of the state before a program's first call and after each, so that it may be stopped
anywhere, and when a call is safe to make. A program keeps it with a postcondition about the value it
returns and the state it leaves. There is one rule for each way to build a program, and `Keeps.leads`
says what a proof by these rules means.
-/

namespace VitaLinuxPort

namespace Program

variable {Call : Type} {Answer : Call → Type} {α β σ : Type}

structure Contract (Answer : Call → Type) (σ : Type) where
  step : σ → Event Answer → σ → Prop
  inv : σ → Prop
  safe : Call → σ → Prop

/-- From `s`, the program keeps the contract and ends with the postcondition. -/
def Keeps (k : Contract Answer σ) : Program Call Answer α → (α → σ → Prop) → σ → Prop
  | done value, post, s => k.inv s ∧ post value s
  | call request rest, post, s => k.inv s ∧ k.safe request s ∧
      ∀ answer t, k.step s ⟨request, answer⟩ t → (rest answer).Keeps k post t

variable {k : Contract Answer σ} {p q : Program Call Answer α} {next : α → Program Call Answer β}
  {post post' : α → σ → Prop} {s t : σ} {request : Call} {events : List (Event Answer)} {value : α}

theorem Keeps.inv (h : p.Keeps k post s) : k.inv s := by
  cases p with
  | done _ => exact h.1
  | call _ _ => exact h.1

theorem keeps_pure (hinv : k.inv s) (hpost : post value s) :
    (pure value : Program Call Answer α).Keeps k post s := ⟨hinv, hpost⟩

theorem keeps_ask {next : Answer request → Program Call Answer β} {post : β → σ → Prop}
    (hinv : k.inv s) (hsafe : k.safe request s)
    (hnext : ∀ answer t, k.step s ⟨request, answer⟩ t → (next answer).Keeps k post t) :
    (ask request >>= next).Keeps k post s := ⟨hinv, hsafe, hnext⟩

theorem Keeps.bind {post : β → σ → Prop}
    (h : p.Keeps k (fun value t => (next value).Keeps k post t) s) : (p >>= next).Keeps k post s := by
  induction p generalizing s with
  | done value => exact h.2
  | call request rest ih => exact ⟨h.1, h.2.1, fun answer t hstep => ih answer (h.2.2 answer t hstep)⟩

theorem Keeps.mono (h : p.Keeps k post s) (hpost : ∀ value t, k.inv t → post value t → post' value t) :
    p.Keeps k post' s := by
  induction p generalizing s with
  | done value => exact ⟨h.1, hpost value s h.1 h.2⟩
  | call request rest ih => exact ⟨h.1, h.2.1, fun answer t hstep => ih answer (h.2.2 answer t hstep)⟩

theorem Keeps.yields {good : α → Prop} (h : p.Keeps k post s) (hyields : p.Yields good) :
    p.Keeps k (fun value t => post value t ∧ good value) s := by
  induction p generalizing s with
  | done value => exact ⟨h.1, h.2, hyields⟩
  | call request rest ih =>
      exact ⟨h.1, h.2.1, fun answer t hstep => ih answer (h.2.2 answer t hstep) (hyields answer)⟩

/-- Calls that leave the state alone, and are safe in it, keep whatever holds of it. -/
theorem keeps_of_only {allowed : Call → Prop} (honly : p.Only allowed)
    (hstay : ∀ event t, allowed event.request → k.step s event t → t = s)
    (hsafe : ∀ request, allowed request → k.safe request s) (hinv : k.inv s) :
    p.Keeps k (fun _ t => t = s) s := by
  induction p with
  | done value => exact ⟨hinv, rfl⟩
  | call request rest ih =>
      refine ⟨hinv, hsafe request honly.1, fun answer t hstep => ?_⟩
      rw [hstay _ _ honly.1 hstep]
      exact ih answer (honly.2 answer)

/-- Wherever a run of the program has come to, what was promised of the rest still holds. -/
theorem Keeps.leads (h : p.Keeps k post s) (hleads : p.Leads events q) (run : Run k.step s events t) :
    q.Keeps k post t := by
  induction hleads generalizing s with
  | stay p =>
      cases Run.nil_iff.mp run
      exact h
  | @answered request rest answer later q hlater ih =>
      rw [← List.singleton_append, Run.append_iff] at run
      obtain ⟨u, hfirst, hrest⟩ := run
      exact ih (h.2.2 answer u (Run.singleton_iff.mp hfirst)) hrest

theorem Keeps.inv_of_leads (h : p.Keeps k post s) (hleads : p.Leads events q)
    (run : Run k.step s events t) : k.inv t :=
  (h.leads hleads run).inv

theorem Keeps.safe_of_asks (h : p.Keeps k post s) (hasks : p.Asks events request)
    (run : Run k.step s events t) : k.safe request t := by
  obtain ⟨rest, hleads⟩ := hasks
  exact (h.leads hleads run).2.1

theorem Keeps.post_of_ends (h : p.Keeps k post s) (hends : p.Ends events value)
    (run : Run k.step s events t) : post value t :=
  (h.leads hends run).2

theorem Keeps.interruptible {test : Program Call Answer Bool} {handler : Program Call Answer Unit}
    (h : p.Keeps k post s) (htest : ∀ t, k.inv t → test.Keeps k (fun _ u => u = t) t)
    (hhandler : ∀ value t, k.inv t → post value t → handler.Keeps k (fun _ u => post value u) t) :
    (interruptible p test handler).Keeps k post s := by
  refine (h.mono fun value t ht hpost => ?_).bind
  refine ((htest t ht).mono fun signalled u hu hsame => ?_).bind
  subst hsame
  cases signalled with
  | false => exact keeps_pure hu hpost
  | true => exact ((hhandler value u hu hpost).mono fun _ v hv hkept => keeps_pure hv hkept).bind

/-- The whole run of a program on a system that answers every call in its own way. -/
def play (exec : (request : Call) → σ → Answer request × σ) :
    Program Call Answer α → σ → List (Event Answer) × α × σ
  | done value, s => ([], value, s)
  | call request rest, s =>
      let answered := exec request s
      let later := (rest answered.1).play exec answered.2
      (⟨request, answered.1⟩ :: later.1, later.2)

section Play

variable {exec : (request : Call) → σ → Answer request × σ}

theorem play_ends (p : Program Call Answer α) (s : σ) : p.Ends (p.play exec s).1 (p.play exec s).2.1 := by
  induction p generalizing s with
  | done value => exact .stay _
  | call request rest ih => exact .answered (ih _ _)

/-- Such a run is one of a system whose steps the answers are. -/
theorem play_run {step : σ → Event Answer → σ → Prop} {P : σ → Prop}
    (hexec : ∀ request u, P u → step u ⟨request, (exec request u).1⟩ (exec request u).2 ∧
      P (exec request u).2)
    (p : Program Call Answer α) (hs : P s) :
    Run step s (p.play exec s).1 (p.play exec s).2.2 ∧ P (p.play exec s).2.2 := by
  induction p generalizing s with
  | done value => exact ⟨.nil s, hs⟩
  | call request rest ih =>
      obtain ⟨hstep, hnext⟩ := hexec request s hs
      obtain ⟨hrun, hend⟩ := ih (exec request s).1 hnext
      refine ⟨?_, hend⟩
      rw [play, ← List.singleton_append, Run.append_iff]
      exact ⟨_, Run.singleton_iff.mpr hstep, hrun⟩

end Play

end Program

end VitaLinuxPort
