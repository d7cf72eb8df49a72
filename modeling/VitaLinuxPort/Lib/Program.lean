import Mathlib.Control.Basic
import Mathlib.Data.List.Basic

/-!
# Programs that call the system

A program is a tree: at each node it makes a call, and below the node stands what it goes on with for
every answer to that call. Nothing is said about who answers, so what holds of all paths through the
tree holds whatever the system does and whatever runs beside the program.
-/

namespace VitaLinuxPort

inductive Program (Call : Type) (Answer : Call → Type) (α : Type) where
  | done (value : α)
  | call (request : Call) (rest : Answer request → Program Call Answer α)

namespace Program

variable {Call : Type} {Answer : Call → Type} {α β : Type}

def bind : Program Call Answer α → (α → Program Call Answer β) → Program Call Answer β
  | done value, next => next value
  | call request rest, next => call request fun answer => (rest answer).bind next

instance : Monad (Program Call Answer) where
  pure := done
  bind := bind

def ask (request : Call) : Program Call Answer (Answer request) := call request done

/-- A part of a program, with a handler after it where a test asks for it; then the program goes on. -/
def interruptible (p : Program Call Answer α) (test : Program Call Answer Bool)
    (handler : Program Call Answer Unit) : Program Call Answer α := do
  let value ← p
  if ← test then handler
  return value

@[simp]
theorem pure_bind (value : α) (next : α → Program Call Answer β) :
    (pure value : Program Call Answer α) >>= next = next value := rfl

@[simp]
theorem done_bind (value : α) (next : α → Program Call Answer β) :
    (done value : Program Call Answer α) >>= next = next value := rfl

@[simp]
theorem call_bind {request : Call} (rest : Answer request → Program Call Answer α)
    (next : α → Program Call Answer β) :
    call request rest >>= next = call request fun answer => rest answer >>= next := rfl

@[simp]
theorem ask_bind (request : Call) (next : Answer request → Program Call Answer β) :
    ask request >>= next = call request next := rfl

/-- The calls of a program, each with the answer it got. -/
structure Event (Answer : Call → Type) where
  request : Call
  answer : Answer request

/-- `p.Leads events q`: with these calls and answers, in order, `p` has come to `q`. -/
inductive Leads : Program Call Answer α → List (Event Answer) → Program Call Answer α → Prop
  | stay (p : Program Call Answer α) : Leads p [] p
  | answered {request : Call} {rest : Answer request → Program Call Answer α}
      {answer : Answer request} {events : List (Event Answer)} {q : Program Call Answer α}
      (later : Leads (rest answer) events q) : Leads (call request rest) (⟨request, answer⟩ :: events) q

/-- The whole run of `p` makes these calls and returns `value`. -/
abbrev Ends (p : Program Call Answer α) (events : List (Event Answer)) (value : α) : Prop :=
  p.Leads events (done value)

/-- After these calls, the next call of `p` is `request`. -/
def Asks (p : Program Call Answer α) (events : List (Event Answer)) (request : Call) : Prop :=
  ∃ rest, p.Leads events (call request rest)

/-- Every call of the program is allowed. -/
def Only (allowed : Call → Prop) : Program Call Answer α → Prop
  | done _ => True
  | call request rest => allowed request ∧ ∀ answer, (rest answer).Only allowed

/-- Every value the program returns is good. -/
def Yields (good : α → Prop) : Program Call Answer α → Prop
  | done value => good value
  | call _ rest => ∀ answer, (rest answer).Yields good

section Leads

variable {p q r : Program Call Answer α} {request : Call} {events later : List (Event Answer)}
  {event : Event Answer} {value : α}

@[simp]
theorem leads_nil : p.Leads [] q ↔ p = q := by
  constructor
  · intro h
    cases h
    rfl
  · intro h
    subst h
    exact .stay p

@[simp]
theorem not_done_leads_cons : ¬ (done value).Leads (event :: events) q := nofun

@[simp]
theorem call_leads_cons {rest : Answer request → Program Call Answer α} :
    (call request rest).Leads (event :: events) q ↔
      ∃ answer, event = ⟨request, answer⟩ ∧ (rest answer).Leads events q := by
  constructor
  · intro h
    cases h with
    | answered h => exact ⟨_, rfl, h⟩
  · intro h
    obtain ⟨answer, rfl, h⟩ := h
    exact .answered h

theorem done_ends {result : α} : (done value).Ends events result ↔ events = [] ∧ value = result := by
  cases events with
  | nil => simp
  | cons event events => simp

theorem pure_ends {result : α} :
    (pure value : Program Call Answer α).Ends events result ↔ events = [] ∧ value = result :=
  done_ends

/-- A call is answered before the program returns. -/
theorem call_ends {rest : Answer request → Program Call Answer α} :
    (call request rest).Ends events value ↔
      ∃ answer later, events = ⟨request, answer⟩ :: later ∧ (rest answer).Ends later value := by
  cases events with
  | nil => simp
  | cons event events => simp [and_assoc]

theorem Leads.append (h : p.Leads events q) (h' : q.Leads later r) :
    p.Leads (events ++ later) r := by
  induction h with
  | stay p => exact h'
  | answered _ ih => exact .answered (ih h')

theorem Leads.bind (h : p.Leads events q) (next : α → Program Call Answer β) :
    (p >>= next).Leads events (q >>= next) := by
  induction h with
  | stay p => exact .stay _
  | answered _ ih => exact .answered ih

end Leads

section Asks

variable {p : Program Call Answer α} {request : Call} {events : List (Event Answer)} {value : α}

@[simp]
theorem not_done_asks : ¬ (done value : Program Call Answer α).Asks events request := by
  intro h
  obtain ⟨rest, h⟩ := h
  cases h

/-- The next call is the first one, or follows its answer. -/
theorem call_asks_iff {first : Call} {rest : Answer first → Program Call Answer α} :
    (call first rest).Asks events request ↔
      events = [] ∧ first = request ∨
        ∃ answer later, events = ⟨first, answer⟩ :: later ∧ (rest answer).Asks later request := by
  cases events with
  | nil =>
      simp only [Asks, leads_nil, true_and, List.nil_eq, reduceCtorEq, false_and, exists_false, or_false]
      constructor
      · intro h
        obtain ⟨_, h⟩ := h
        cases h
        rfl
      · intro h
        subst h
        exact ⟨rest, rfl⟩
  | cons event events =>
      simp only [Asks, call_leads_cons, reduceCtorEq, false_and, false_or, List.cons.injEq]
      constructor
      · intro h
        obtain ⟨later, answer, rfl, h⟩ := h
        exact ⟨answer, events, ⟨rfl, rfl⟩, later, h⟩
      · intro h
        obtain ⟨answer, _, ⟨rfl, rfl⟩, later, h⟩ := h
        exact ⟨later, answer, rfl, h⟩

end Asks

section Bind

variable {p : Program Call Answer α} {next : α → Program Call Answer β}
  {q : Program Call Answer β} {events : List (Event Answer)} {request : Call}

/-- A run of a sequence is still in its first part, or has a whole run of it behind it. -/
theorem bind_leads_iff :
    (p >>= next).Leads events q ↔
      (∃ p', p.Leads events p' ∧ q = p' >>= next) ∨
        ∃ value front back, events = front ++ back ∧ p.Ends front value ∧
          (next value).Leads back q := by
  constructor
  · induction p generalizing events with
    | done value => exact fun h => .inr ⟨value, [], events, rfl, .stay _, h⟩
    | call request rest ih =>
        intro h
        cases events with
        | nil =>
            have hq := leads_nil.mp h
            exact .inl ⟨_, .stay _, hq.symm⟩
        | cons event events =>
            obtain ⟨answer, rfl, hrest⟩ := call_leads_cons.mp h
            rcases ih answer hrest with ⟨p', hp, hq⟩ | ⟨value, front, back, rfl, hp, hq⟩
            · exact .inl ⟨p', .answered hp, hq⟩
            · exact .inr ⟨value, _ :: front, back, rfl, .answered hp, hq⟩
  · intro h
    rcases h with ⟨p', hp, rfl⟩ | ⟨value, front, back, rfl, hp, hq⟩
    · exact hp.bind next
    · exact (hp.bind next).append hq

theorem ask_leads {next : Answer request → Program Call Answer β} {answer : Answer request}
    (h : (next answer).Leads events q) :
    (ask request >>= next).Leads (⟨request, answer⟩ :: events) q :=
  .answered h

theorem bind_ends_iff {result : β} :
    (p >>= next).Ends events result ↔
      ∃ value front back, events = front ++ back ∧ p.Ends front value ∧
        (next value).Ends back result := by
  constructor
  · intro h
    rcases bind_leads_iff.mp h with ⟨p', hp, hq⟩ | h
    · cases p' with
      | done value => exact ⟨value, events, [], (List.append_nil events).symm, hp, leads_nil.mpr hq.symm⟩
      | call request rest => cases hq
    · exact h
  · exact fun h => bind_leads_iff.mpr (.inr h)

/-- A call of a sequence is a call of its first part, or of its second after a whole run of the first. -/
theorem bind_asks_iff :
    (p >>= next).Asks events request ↔
      p.Asks events request ∨
        ∃ value front back, events = front ++ back ∧ p.Ends front value ∧
          (next value).Asks back request := by
  constructor
  · intro h
    obtain ⟨rest, h⟩ := h
    rcases bind_leads_iff.mp h with ⟨p', hp, hq⟩ | ⟨value, front, back, hevents, hp, hq⟩
    · cases p' with
      | done value =>
          exact .inr ⟨value, events, [], (List.append_nil events).symm, hp, rest, leads_nil.mpr hq.symm⟩
      | call _ _ =>
          cases hq
          exact .inl ⟨_, hp⟩
    · exact .inr ⟨value, front, back, hevents, hp, rest, hq⟩
  · intro h
    rcases h with ⟨rest, hp⟩ | ⟨value, front, back, rfl, hp, rest, hq⟩
    · exact ⟨_, hp.bind next⟩
    · exact ⟨rest, (hp.bind next).append hq⟩

theorem ask_asks_iff {next : Answer request → Program Call Answer β} {later : Call} :
    (ask request >>= next).Asks events later ↔
      events = [] ∧ request = later ∨
        ∃ answer back, events = ⟨request, answer⟩ :: back ∧ (next answer).Asks back later :=
  call_asks_iff

theorem ask_ends {next : Answer request → Program Call Answer β} {result : β} :
    (ask request >>= next).Ends events result ↔
      ∃ answer later, events = ⟨request, answer⟩ :: later ∧ (next answer).Ends later result :=
  call_ends

/-- A program that gives up on a bad answer, and returns another value then, had a good one. -/
theorem tested_ends_iff {good : Answer request → Prop} [DecidablePred good]
    {next : Answer request → Program Call Answer β} {failed : Program Call Answer β} {result : β}
    (h : ∀ events, ¬ failed.Ends events result) :
    (ask request >>= fun answer => if good answer then next answer else failed).Ends events result ↔
      ∃ answer later, events = ⟨request, answer⟩ :: later ∧ good answer ∧
        (next answer).Ends later result := by
  rw [ask_ends]
  constructor
  · intro hends
    obtain ⟨answer, later, hevents, hends⟩ := hends
    split_ifs at hends with hgood
    · exact ⟨answer, later, hevents, hgood, hends⟩
    · exact absurd hends (h later)
  · intro hends
    obtain ⟨answer, later, hevents, hgood, hends⟩ := hends
    exact ⟨answer, later, hevents, by rwa [if_pos hgood]⟩

/-- The same with the test the other way. -/
theorem checked_ends_iff {bad : Answer request → Prop} [DecidablePred bad]
    {failed : Program Call Answer β} {next : Answer request → Program Call Answer β} {result : β}
    (h : ∀ events, ¬ failed.Ends events result) :
    (ask request >>= fun answer => if bad answer then failed else next answer).Ends events result ↔
      ∃ answer later, events = ⟨request, answer⟩ :: later ∧ ¬ bad answer ∧
        (next answer).Ends later result := by
  have htested : (ask request >>= fun answer =>
      if ¬ bad answer then next answer else failed).Ends events result ↔ _ := tested_ends_iff h
  simpa only [ite_not] using htested

end Bind

section Only

variable {allowed permitted : Call → Prop} {p q : Program Call Answer α}
  {events : List (Event Answer)} {request : Call}

@[simp]
theorem only_done (value : α) : (done value : Program Call Answer α).Only allowed := trivial

@[simp]
theorem only_pure (value : α) : (pure value : Program Call Answer α).Only allowed := trivial

@[simp]
theorem only_call {rest : Answer request → Program Call Answer α} :
    (call request rest).Only allowed ↔ allowed request ∧ ∀ answer, (rest answer).Only allowed := Iff.rfl

@[simp]
theorem only_ask :
    (ask request : Program Call Answer (Answer request)).Only allowed ↔ allowed request :=
  and_iff_left fun _ => trivial

@[simp]
theorem only_ite {c : Prop} [Decidable c] :
    (if c then p else q).Only allowed ↔ (c → p.Only allowed) ∧ (¬c → q.Only allowed) := by
  split <;> simp [*]

theorem Only.mono (h : p.Only allowed) (weaker : ∀ request, allowed request → permitted request) :
    p.Only permitted := by
  induction p with
  | done _ => trivial
  | call request _ ih => exact ⟨weaker request h.1, fun answer => ih answer (h.2 answer)⟩

theorem Only.bind {next : α → Program Call Answer β} (h : p.Only allowed)
    (hnext : ∀ value, (next value).Only allowed) : (p >>= next).Only allowed := by
  induction p with
  | done value => exact hnext value
  | call _ _ ih => exact ⟨h.1, fun answer => ih answer (h.2 answer)⟩

theorem only_forM {γ : Type} {each : γ → Program Call Answer Unit} {items : List γ}
    (h : ∀ item, (each item).Only allowed) :
    (items.forM each : Program Call Answer PUnit).Only allowed := by
  induction items with
  | nil => exact only_pure _
  | cons item items ih => exact (h item).bind fun _ => ih

/-- Nothing that is not allowed is on a path through the program, nor at its end. -/
theorem Only.leads (h : p.Only allowed) (run : p.Leads events q) :
    (∀ event ∈ events, allowed event.request) ∧ q.Only allowed := by
  induction run with
  | stay p => exact ⟨by simp, h⟩
  | answered _ ih =>
      obtain ⟨hlater, hend⟩ := ih (h.2 _)
      exact ⟨List.forall_mem_cons.mpr ⟨h.1, hlater⟩, hend⟩

theorem Only.of_asks (h : p.Only allowed) (asks : p.Asks events request) : allowed request := by
  obtain ⟨_, run⟩ := asks
  exact (h.leads run).2.1

theorem Only.not_asks (h : p.Only allowed) (hrequest : ¬ allowed request) :
    ¬ p.Asks events request :=
  fun asks => hrequest (h.of_asks asks)

end Only

section Yields

variable {good : α → Prop} {p : Program Call Answer α} {events : List (Event Answer)}
  {request : Call} {value : α}

@[simp]
theorem yields_pure : (pure value : Program Call Answer α).Yields good ↔ good value := Iff.rfl

@[simp]
theorem yields_call {rest : Answer request → Program Call Answer α} :
    (call request rest).Yields good ↔ ∀ answer, (rest answer).Yields good := Iff.rfl

theorem Yields.bind {p : Program Call Answer β} {next : β → Program Call Answer α}
    (hnext : ∀ value, (next value).Yields good) : (p >>= next).Yields good := by
  induction p with
  | done value => exact hnext value
  | call _ _ ih => exact fun answer => ih answer

theorem Yields.of_ends (h : p.Yields good) (run : p.Ends events value) : good value := by
  induction p generalizing events with
  | done result =>
      obtain ⟨_, rfl⟩ := done_ends.mp run
      exact h
  | call request rest ih =>
      obtain ⟨answer, later, _, hrest⟩ := call_ends.mp run
      exact ih answer (h answer) hrest

end Yields

end Program

end VitaLinuxPort
