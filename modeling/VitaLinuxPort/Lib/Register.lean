import Mathlib.Data.List.Basic

/-!
# Registers

A part of a state that some events overwrite and the others leave alone. After any number of events
it holds what the last of those that wrote it wrote, and what it held before if none did.
-/

namespace VitaLinuxPort

variable {σ ε β : Type*}

/-- Under `Ready`, which the allowed events keep, what is seen of the state is what the event writes,
or what it was if the event writes nothing. -/
structure Register (Ready : σ → Prop) (Allowed : ε → Prop) (step : σ → ε → σ) (view : σ → β)
    (written : ε → Option β) : Prop where
  keeps : ∀ s e, Allowed e → Ready s → Ready (step s e)
  view_step : ∀ s e, Allowed e → Ready s → view (step s e) = (written e).getD (view s)

namespace Register

variable {Ready : σ → Prop} {Allowed : ε → Prop} {step : σ → ε → σ} {view : σ → β}
  {written : ε → Option β} {events : List ε} {s : σ} {value : β}

/-- The last write wins. -/
theorem view_foldl (register : Register Ready Allowed step view written) (hs : Ready s)
    (hevents : ∀ e ∈ events, Allowed e) :
    view (events.foldl step s) = (events.filterMap written).getLast?.getD (view s) := by
  induction events generalizing s with
  | nil => rfl
  | cons e events ih =>
      rw [List.forall_mem_cons] at hevents
      have hview := register.view_step s e hevents.1 hs
      rw [List.foldl_cons, ih (register.keeps s e hevents.1 hs) hevents.2, hview]
      cases hwritten : written e with
      | none => rw [List.filterMap_cons_none hwritten, Option.getD_none]
      | some wrote => rw [List.filterMap_cons_some hwritten, List.getLast?_cons, Option.getD_some,
          Option.getD_some]

/-- A register that holds a value still holds it if the last write, should there be one, is of that
value. -/
theorem view_foldl_of_last (register : Register Ready Allowed step view written) (hs : Ready s)
    (hevents : ∀ e ∈ events, Allowed e) (hview : view s = value)
    (hlast : ∀ wrote ∈ (events.filterMap written).getLast?, wrote = value) :
    view (events.foldl step s) = value := by
  rw [register.view_foldl hs hevents, hview]
  cases h : (events.filterMap written).getLast? with
  | none => rfl
  | some wrote => exact hlast wrote h

end Register

end VitaLinuxPort
