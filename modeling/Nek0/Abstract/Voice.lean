import Mathlib.Data.List.Basic
import Nek0.Source.Notifier

/-!
# What a session says

The order in which one session may report: it greets once with `connected`, talks
while it runs, ends once, and after that says nothing the app acts on. The voice
of a session is how far along that order it is.
-/

namespace Nek0.Abstract

open Nek0.Source

inductive Voice where
  | greeting
  | talking
  | silent
  deriving DecidableEq, Repr

namespace Voice

def rank : Voice → Nat
  | .greeting => 0
  | .talking => 1
  | .silent => 2

/-- The voice after an event, unless the event is out of order. -/
def speak : Voice → TsEngineEvent → Option Voice
  | .silent, .other => some .silent
  | .silent, _ => none
  | .greeting, .connected _ => some .talking
  | .talking, .connected _ => none
  | _, .connectFailed .. | _, .disconnected _ => some .silent
  | voice, _ => some voice

/-- The voice after a list of events, unless one of them is out of order. -/
def listen : Voice → List TsEngineEvent → Option Voice
  | voice, [] => some voice
  | voice, event :: rest => (voice.speak event).bind fun next => next.listen rest

@[simp] theorem listen_nil (voice : Voice) : voice.listen [] = some voice := rfl

theorem listen_append (voice : Voice) (first second : List TsEngineEvent) :
    voice.listen (first ++ second) = (voice.listen first).bind fun next => next.listen second := by
  induction first generalizing voice with
  | nil => rfl
  | cons event rest ih =>
    simp only [List.cons_append, listen, ih, Option.bind_assoc]

theorem listen_cons {voice said : Voice} {event : TsEngineEvent} {rest : List TsEngineEvent}
    (heard : voice.listen (event :: rest) = some said) :
    ∃ next, voice.speak event = some next ∧ next.listen rest = some said :=
  Option.bind_eq_some_iff.mp heard

/-- A voice never goes back. -/
theorem rank_speak {voice next : Voice} {event : TsEngineEvent}
    (spoken : voice.speak event = some next) : voice.rank ≤ next.rank := by
  cases voice <;> cases event <;> cases spoken
  all_goals decide

/-- A silent session says nothing the app acts on. -/
theorem other_of_silent {events : List TsEngineEvent} {said : Voice}
    (heard : Voice.silent.listen events = some said) : ∀ event ∈ events, event = .other := by
  induction events with
  | nil => exact fun _ inside => nomatch inside
  | cons event rest ih =>
    obtain ⟨next, spoken, later⟩ := listen_cons heard
    have isOther : event = .other ∧ next = .silent := by
      cases event <;> simp_all [speak]
    obtain ⟨rfl, rfl⟩ := isOther
    exact List.forall_mem_cons.mpr ⟨rfl, ih later⟩

/-- The end of a session is the last thing it says that the app acts on. -/
theorem silent_of_terminal {voice next : Voice} {event : TsEngineEvent}
    (ends : event.isTerminal = true) (spoken : voice.speak event = some next) :
    voice ≠ .silent ∧ next = .silent := by
  cases voice <;> cases event <;> cases ends <;> cases spoken
  all_goals
    constructor
    · decide
    · rfl

/-- After an end nothing but silence follows. -/
theorem silent_of_mem {voice said : Voice} {events : List TsEngineEvent} {event : TsEngineEvent}
    (heard : voice.listen events = some said) (inside : event ∈ events)
    (ends : event.isTerminal = true) : said = .silent := by
  have stays : ∀ (rest : List TsEngineEvent) (said : Voice),
      Voice.silent.listen rest = some said → said = .silent := by
    intro rest
    induction rest with
    | nil => exact fun said later => (Option.some.inj later).symm
    | cons first rest ih =>
      intro said later
      obtain ⟨next, spoken, later⟩ := listen_cons later
      have order := rank_speak spoken
      cases next with
      | silent => exact ih said later
      | _ => exact absurd order (by decide)
  induction events generalizing voice with
  | nil => cases inside
  | cons first rest ih =>
    obtain ⟨next, spoken, later⟩ := listen_cons heard
    rcases List.mem_cons.mp inside with rfl | behind
    · obtain ⟨_, rfl⟩ := silent_of_terminal ends spoken
      exact stays rest said later
    · exact ih later behind

/-- The first end heard is the only one. -/
theorem terminal_unique {voice said : Voice} {event second : TsEngineEvent}
    {rest : List TsEngineEvent} (heard : voice.listen (event :: rest) = some said)
    (ends : event.isTerminal = true) (inside : second ∈ event :: rest)
    (endsToo : second.isTerminal = true) : event = second := by
  obtain ⟨next, spoken, later⟩ := listen_cons heard
  obtain ⟨_, rfl⟩ := silent_of_terminal ends spoken
  rcases List.mem_cons.mp inside with rfl | behind
  · rfl
  · have harmless := other_of_silent later second behind
    subst harmless
    cases endsToo

end Voice

end Nek0.Abstract
