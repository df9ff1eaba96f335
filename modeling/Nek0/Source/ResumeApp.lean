import Nek0.Source.CaptureEffects

/-!
# Resume after the process has died

`lib/models/resume_intent.dart` and what `lib/models/ts_state.dart` and the home screen make of
it. An entry is written when a session gets connected and removed by some disconnects; both wait
for the preferences, and a write that waits is lost with the process. The texts of an entry are
joined by a character that none of them contains, so the entry is the list of its texts here.
The channel of an entry is empty, as the handler has just cleared `channelToRestore`.
-/

namespace Nek0.Source.Resume

open Nek0.Library Nek0.Source.Voice

structure ResumeIntent where
  address : String
  nickname : String
  channel : Option String
  micWasMuted : Bool
  deriving DecidableEq, Repr

def ResumeIntent.hasCredentials (intent : ResumeIntent) : Bool :=
  intent.address ≠ "" && intent.nickname ≠ ""

namespace ResumeIntentStore

/-- The texts that `save` joins. -/
def texts (intent : ResumeIntent) : List String :=
  [intent.address, intent.nickname, intent.channel.getD "",
    if intent.micWasMuted then "1" else "0"]

/-- Muted unless the entry says otherwise. -/
def load : List String → Option ResumeIntent
  | address :: nickname :: rest =>
    some ⟨address, nickname, rest.head?.filter (· ≠ ""), rest[1]?.all (· ≠ "0")⟩
  | _ => none

@[simp] theorem load_texts (intent : ResumeIntent) :
    load (texts intent) = some { intent with channel := intent.channel.filter (· ≠ "") } := by
  obtain ⟨address, nickname, channel, micWasMuted⟩ := intent
  cases channel <;> cases micWasMuted <;> simp [texts, load]

end ResumeIntentStore

open ResumeIntentStore

/-- The entry under `resume_intent`, with the session it was saved for, which it does not
hold. -/
structure Entry where
  texts : List String
  session : Option ConnectionId
  deriving DecidableEq, Repr

structure ResumeApp where
  voice : VoiceApp
  /-- `address` and `nickname` of the runtime of a session. -/
  joined : ConnectionId → String × String
  disk : Option Entry
  /-- Calls of `save` and `clear` that wait, oldest first. -/
  writes : List (Option Entry)
  /-- `resumeIntentProvider`, which the home screen offers. -/
  offered : Option ResumeIntent
  /-- Calls of `resume` that wait for their `connect`. -/
  resuming : List ResumeIntent

namespace ResumeApp

def build (disk : Option Entry) : ResumeApp where
  voice := .build
  joined := fun _ => ("", "")
  disk := disk.map fun entry => { entry with session := none }
  writes := []
  offered := disk.bind fun entry => load entry.texts
  resuming := []

/-- `connect` from the call of the engine on. -/
def connect (s : ResumeApp) (address nickname : String) (savedMicGain : Option ℚ) : ResumeApp :=
  { s with
    joined := Function.update s.joined s.voice.engine.nextConnectionId (address, nickname)
    voice := s.voice.openSession savedMicGain }

/-- What the handler of a `connected` event saves. -/
def intentOf (s : ResumeApp) (cid : ConnectionId) : ResumeIntent where
  address := (s.joined cid).1
  nickname := (s.joined cid).2
  channel := none
  micWasMuted := (s.voice.stateOf cid).inputMuted

def entryOf (s : ResumeApp) (cid : ConnectionId) : Entry := ⟨texts (s.intentOf cid), some cid⟩

/-- The calls of `save` and `clear` that an action makes. -/
def storeCalls (s : ResumeApp) : VoiceApp.Action → List (Option Entry)
  | .disconnect cid =>
    let st := s.voice.stateOf cid
    if (st.connected || st.connecting) &&
        s.voice.rt.keys.all fun other => !(s.voice.stateOf other).connected then [none]
    else []
  | .event cid (.connected data) =>
    if s.voice.hears cid then
      -- The server asks the client to leave, which counts as connected by then.
      (if data.hostMessage ≠ "" && data.hostMessageMode = 3 &&
          s.voice.rt.keys.all fun other => other ≠ cid && !(s.voice.stateOf other).connected then
        [none] else []) ++ [some (s.entryOf cid)]
    else []
  | _ => []

/-- `resume` from the call of the engine on, which may refuse it. An entry of an earlier process
is for the resumed session from now on. -/
def resumed (s : ResumeApp) (intent : ResumeIntent) (accepted : Bool) (savedMicGain : Option ℚ) :
    ResumeApp :=
  let s := { s with resuming := s.resuming.erase intent }
  let cid := s.voice.engine.nextConnectionId
  let s := if accepted then
      { s.connect intent.address intent.nickname savedMicGain with
        disk := s.disk.map fun entry => { entry with session := entry.session.or (some cid) } }
    else s
  if intent.micWasMuted then { s with voice := s.voice.resumeMuted } else s

inductive Action where
  | connect (address nickname : String) (savedMicGain : Option ℚ)
  | voice (action : VoiceApp.Action)
  | resume
  | resumed (intent : ResumeIntent) (accepted : Bool) (savedMicGain : Option ℚ)
  | dismiss
  /-- The oldest write reaches the disk. -/
  | landed
  /-- The process dies and is started again. -/
  | died

/-- The parts of `connect` and `resume` that the voice part has as actions of its own. -/
def isPart : VoiceApp.Action → Bool
  | .openSession _ => true
  | .resumeMuted => true
  | _ => false

def step (s : ResumeApp) : Action → Option ResumeApp
  | .connect address nickname savedMicGain => some (s.connect address nickname savedMicGain)
  | .voice action =>
    if isPart action then none
    else (s.voice.step action).map fun voice =>
      { s with voice := voice, writes := s.writes ++ s.storeCalls action }
  | .resume => s.offered.bind fun intent =>
    if intent.hasCredentials then some { s with resuming := s.resuming ++ [intent] } else none
  | .resumed intent accepted savedMicGain =>
    if intent ∈ s.resuming then some (s.resumed intent accepted savedMicGain) else none
  | .dismiss => some { s with writes := s.writes ++ [none], offered := none }
  | .landed =>
    match s.writes with
    | [] => none
    | write :: writes => some { s with disk := write, writes := writes }
  | .died => some (.build s.disk)

end ResumeApp

end Nek0.Source.Resume
