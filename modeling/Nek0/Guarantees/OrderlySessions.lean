import Nek0.Abstract.Voice
import Nek0.Guarantees.NoDuplicateSessions
import Nek0.Source.NotifierFrames

/-!
# Orderly sessions

In every reachable state the events of a session that wait in the queue continue,
in order, what the app has heard from it, and the engine session is at least as far
along as they say. A connected record has heard the greeting and waits for nothing
else.
-/

namespace Nek0.Guarantees

open Nek0.Source Nek0.Source.Notifier Nek0.Abstract Nek0.Library

/-- The voice of a session that has reported everything up to its stage. -/
def stageVoice : Stage → Voice
  | .handshaking | .finishing => .greeting
  | .published | .stashed | .taken | .looping _ => .talking
  | .ended => .silent

/-- The events of a session that wait to be polled. -/
def eventsOf (e : Engine) (cid : ConnectionId) : List TsEngineEvent :=
  e.events.filterMap fun entry => if entry.1 = cid then some entry.2 else none

/-- What waits of a session continues what was heard of it. -/
def Continues (e : Engine) (cid : ConnectionId) (heard : Voice) : Prop :=
  ∃ session said, e.sessions cid = some session ∧ heard.listen (eventsOf e cid) = some said ∧
    said.rank ≤ (stageVoice session.stage).rank

theorem mem_eventsOf {e : Engine} {cid : ConnectionId} {event : TsEngineEvent} :
    event ∈ eventsOf e cid ↔ (cid, event) ∈ e.events := by
  simp only [eventsOf, List.mem_filterMap]
  constructor
  · rintro ⟨⟨other, found⟩, inside, kept⟩
    split at kept
    next same =>
      cases kept
      exact same ▸ inside
    next => cases kept
  · exact fun inside => ⟨_, inside, by simp⟩

theorem eventsOf_append {e later : Engine} {cid : ConnectionId} (said : List TsEngineEvent)
    (events : later.events = e.events ++ said.map fun event => (cid, event))
    (queried : ConnectionId) :
    eventsOf later queried = eventsOf e queried ++ if queried = cid then said else [] := by
  simp only [eventsOf, events, List.filterMap_append, List.filterMap_map]
  congr 1
  split
  next same =>
    subst same
    simp
  next different => simp [Ne.symm different]

theorem eventsOf_pop {e : Engine} {cid : ConnectionId} {event : TsEngineEvent}
    {rest : List (ConnectionId × TsEngineEvent)} (queue : e.events = (cid, event) :: rest)
    (queried : ConnectionId) :
    eventsOf e queried =
      (if cid = queried then [event] else []) ++ eventsOf (e.leave rest) queried := by
  simp only [eventsOf, Engine.leave, queue, List.filterMap_cons]
  by_cases same : cid = queried <;> simp [same]

theorem Continues.frame {e later : Engine} {cid : ConnectionId} {heard : Voice}
    (continues : Continues e cid heard) (sessions : later.sessions cid = e.sessions cid)
    (events : eventsOf later cid = eventsOf e cid) : Continues later cid heard := by
  obtain ⟨session, said, found, listened, behind⟩ := continues
  exact ⟨session, said, sessions.trans found, events ▸ listened, behind⟩

/-- A session moves to another stage and says what the new stage allows. -/
theorem Continues.move {e later : Engine} {cid moving : ConnectionId} {heard : Voice}
    {session moved : EngineSession} (said : List TsEngineEvent)
    (continues : Continues e cid heard) (found : e.sessions moving = some session)
    (sessions : later.sessions = Function.update e.sessions moving (some moved))
    (events : later.events = e.events ++ said.map fun event => (moving, event))
    (allowed : ∀ voice : Voice, voice.rank ≤ (stageVoice session.stage).rank →
      ∃ next, voice.listen said = some next ∧ next.rank ≤ (stageVoice moved.stage).rank) :
    Continues later cid heard := by
  by_cases same : cid = moving
  · subst same
    obtain ⟨before, voice, foundBefore, listened, behind⟩ := continues
    rw [found] at foundBefore
    cases foundBefore
    obtain ⟨next, spoken, within⟩ := allowed voice behind
    refine ⟨moved, next, by simp [sessions], ?_, within⟩
    rw [eventsOf_append said events, if_pos rfl, Voice.listen_append, listened]
    exact spoken
  · refine continues.frame (by simp [sessions, same]) ?_
    rw [eventsOf_append said events, if_neg same, List.append_nil]

/-- A session moves on without saying anything. -/
theorem Continues.setStage {e : Engine} {cid moving : ConnectionId} {heard : Voice}
    {session : EngineSession} {stage : Stage} (continues : Continues e cid heard)
    (found : e.sessions moving = some session)
    (order : (stageVoice session.stage).rank ≤ (stageVoice stage).rank) :
    Continues (e.setStage moving session stage) cid heard := by
  refine continues.move [] found rfl (by simp [Engine.setStage]) fun voice behind => ?_
  exact ⟨voice, rfl, behind.trans order⟩

theorem spoken_end {voice : Voice} {event : TsEngineEvent} (running : voice.rank ≤ 1)
    (ends : event.isTerminal = true) : voice.listen [event] = some .silent := by
  cases voice with
  | silent => exact absurd running (by decide)
  | _ => cases event <;> first | rfl | cases ends

theorem spoken_note {voice : Voice} {stage : Stage} {event : TsEngineEvent}
    (behind : voice.rank ≤ (stageVoice stage).rank) (may : Engine.mayNote stage event = true) :
    voice.listen [event] = some voice := by
  cases event with
  | connected | connectFailed | disconnected => cases may
  | other => cases voice <;> rfl
  | connectionPhase | error | rosterUpdated =>
    cases voice with
    | silent =>
      have running : stage ≠ .ended := by simpa [Engine.mayNote] using may
      cases stage <;> simp [stageVoice, Voice.rank] at behind running
    | _ => rfl

/-- Whatever a step says is in order, and its stage is at least as far along. -/
theorem spoken_of_moves {action : EngineAction} {source stage : Stage} {said : List TsEngineEvent}
    (moves : Engine.Moves action source stage said) {voice : Voice}
    (behind : voice.rank ≤ (stageVoice source).rank) :
    ∃ next, voice.listen said = some next ∧ next.rank ≤ (stageVoice stage).rank := by
  cases moves with
  | handshakeDone | stash | take | startLoop => exact ⟨voice, rfl, behind⟩
  | panics => exact ⟨voice, rfl, behind.trans (by simp [stageVoice, Voice.rank])⟩
  | fail waits =>
    have running : voice.rank ≤ 1 := by
      rcases waits with rfl | rfl <;> exact behind.trans (by decide)
    exact ⟨.silent, spoken_end running rfl, le_rfl⟩
  | drop => exact ⟨.silent, spoken_end behind rfl, le_rfl⟩
  | publish =>
    cases voice with
    | greeting => exact ⟨.talking, rfl, le_rfl⟩
    | _ => exact absurd behind (by decide)
  | note may => exact ⟨voice, spoken_note behind may, behind⟩

/-- Every step of the engine keeps a session's reports in order. -/
theorem continues_step {e later : Engine} {action : EngineAction} {cid : ConnectionId}
    {heard : Voice} (continues : Continues e cid heard) (taken : e.step action = some later) :
    Continues later cid heard := by
  obtain ⟨session, source, stage, said, found, rfl, moves, rfl⟩ := Engine.step_cases taken
  exact continues.move said found rfl rfl fun voice behind => spoken_of_moves moves behind

/-- A step of the engine leaves other sessions alone. -/
theorem frame_step {e later : Engine} {action : EngineAction} {cid : ConnectionId}
    (taken : e.step action = some later) (other : cid ≠ Engine.movedBy action) :
    later.sessions cid = e.sessions cid ∧ eventsOf later cid = eventsOf e cid := by
  obtain ⟨session, source, stage, said, _, _, _, rfl⟩ := Engine.step_cases taken
  constructor
  · exact Function.update_of_ne other ..
  · rw [eventsOf_append said rfl, if_neg other, List.append_nil]
    rfl

theorem continues_disconnect {e : Engine} {cid : ConnectionId} {heard : Voice}
    (continues : Continues e cid heard) (closed : ConnectionId) :
    Continues (e.disconnect closed) cid heard := by
  unfold Engine.disconnect
  split
  · exact continues
  next session found =>
    split
    next stage => exact continues.setStage found (by simp [stage, stageVoice, Voice.rank])
    next stage => exact continues.setStage found (by simp [stage, stageVoice, Voice.rank])
    · exact continues

/-- Cancelling another attempt. -/
theorem frame_cancelConnect (e : Engine) {cid cancelled : ConnectionId} (reported : Bool)
    (other : cid ≠ cancelled) :
    (e.cancelConnect cancelled reported).sessions cid = e.sessions cid ∧
      eventsOf (e.cancelConnect cancelled reported) cid = eventsOf e cid := by
  have silent : ∀ (engine : Engine) (event : TsEngineEvent),
      eventsOf (engine.push cancelled event) cid = eventsOf engine cid := by
    intro engine event
    rw [eventsOf_append [event] rfl, if_neg other, List.append_nil]
  unfold Engine.cancelConnect
  dsimp only
  split
  · exact ⟨rfl, rfl⟩
  · split
    · exact ⟨Function.update_of_ne other .., silent ..⟩
    · exact ⟨rfl, silent ..⟩
    · split
      · exact ⟨rfl, silent ..⟩
      · exact ⟨rfl, rfl⟩

/-- Executing calls of the app keeps the reports of every attempt it does not
cancel in order. -/
theorem continues_execute {e : Engine} {cid : ConnectionId} {heard : Voice} {reported : Bool}
    {calls : List NativeCall} (kept : .cancelConnect cid ∉ calls)
    (continues : Continues e cid heard) :
    Continues (calls.foldl (Engine.execute reported) e) cid heard := by
  induction calls generalizing e with
  | nil => exact continues
  | cons call rest ih =>
    simp only [List.mem_cons, not_or] at kept
    refine ih kept.2 ?_
    cases call with
    | disconnect closed => exact continues_disconnect continues closed
    | cancelConnect cancelled =>
      have other : cid ≠ cancelled := fun same => kept.1 (same ▸ rfl)
      obtain ⟨sessions, events⟩ := frame_cancelConnect e reported other
      exact continues.frame sessions events
    | moveToChannel _ _ => exact continues

/-! ## App and engine -/

/-- What the record of a session says agrees with what was heard of it. -/
structure Tidy (s : System) : Prop where
  consistent : Consistent s
  fresh : ∀ cid, s.engine.nextConnectionId ≤ cid → (s.app.stateOf cid).connected = false
  requests : ∀ cid rt, s.app.rt.find cid = some rt → rt.lastRequest.isSome = true
  heard : ∀ cid, (s.app.rt.find cid).isSome = true → ∃ voice, Continues s.engine cid voice ∧
    ((s.app.stateOf cid).connected = true →
      voice ≠ .greeting ∧ (s.app.stateOf cid).connecting = false)

/-- Steps that connect nothing and open nothing. -/
theorem Tidy.calm {s t : System} (tidy : Tidy s) (consistent : Consistent t)
    (next : t.engine.nextConnectionId = s.engine.nextConnectionId)
    (calmer : Calmer s.app t.app) (retains : Retains s.app t.app)
    (engine : ∀ cid voice, (t.app.rt.find cid).isSome = true → Continues s.engine cid voice →
      Continues t.engine cid voice) : Tidy t where
  consistent := consistent
  fresh cid unused := by
    have before := tidy.fresh cid (next ▸ unused)
    cases connected : (t.app.stateOf cid).connected with
    | false => rfl
    | true => exact (calmer.connected cid connected).symm.trans before
  requests cid after found := by
    obtain ⟨before, foundBefore, same⟩ := retains cid after found
    rw [same]
    exact tidy.requests cid before foundBefore
  heard cid present := by
    obtain ⟨voice, continues, settled⟩ := tidy.heard cid (retains.present present)
    refine ⟨voice, engine cid voice present continues, fun connected => ?_⟩
    obtain ⟨greeted, idle⟩ := settled (calmer.connected cid connected)
    refine ⟨greeted, ?_⟩
    cases connecting : (t.app.stateOf cid).connecting with
    | false => rfl
    | true => exact (calmer.connecting cid connecting).symm.trans idle

theorem Tidy.quiet {s : System} (tidy : Tidy s) {app : Notifier} {reported : Bool}
    (quiet : Quiet s.app app) (calmer : Calmer s.app app)
    (consistent : Consistent (System.settle app s.engine reported)) :
    Tidy (System.settle app s.engine reported) := by
  refine tidy.calm consistent (Engine.next_execute ..) (calmer.trans (calmer_of_same rfl))
    (retains_of_follows quiet.rt) fun cid voice present continues => ?_
  refine continues_execute (fun called => ?_) continues
  rcases quiet.cancels cid called with earlier | absent
  · rw [tidy.consistent.idle] at earlier
    cases earlier
  · have absent : (System.settle app s.engine reported).app.rt.find cid = none := absent
    simp [absent] at present

/-- A call of `connect` changes no record. -/
theorem Tidy.calls {s : System} (tidy : Tidy s) {app : Notifier} {call : ConnectCall}
    {reported : Bool} (calls : Calls s.app app call) (calmer : Calmer s.app app)
    (consistent : Consistent (System.settle app s.engine reported)) :
    Tidy (System.settle app s.engine reported) := by
  have idle : app.native = [] := calls.native.trans tidy.consistent.idle
  rw [settle_of_idle idle] at consistent ⊢
  exact tidy.calm consistent rfl calmer (retains_of_follows calls.rt)
    fun _ _ _ continues => continues

/-- The network returns: the retries keep the records and call nothing native. -/
theorem follows_retryAll (cids : List ConnectionId) (s : Notifier) :
    (∀ cid after, (cids.foldl retryWaiting s).rt.find cid = some after →
      ∃ before, s.rt.find cid = some before ∧ Follows after before) ∧
    (cids.foldl retryWaiting s).native = s.native := by
  induction cids generalizing s with
  | nil => exact ⟨fun _ rt found => ⟨rt, found, .refl rt⟩, rfl⟩
  | cons cid rest ih =>
    have first : (∀ other after, (retryWaiting s cid).rt.find other = some after →
        ∃ before, s.rt.find other = some before ∧ Follows after before) ∧
        (retryWaiting s cid).native = s.native := by
      unfold retryWaiting
      split
      · rcases s.retryNow_cases cid with same | ⟨rt, request, _, _, called⟩
        · rw [same]
          exact ⟨fun _ rt found => ⟨rt, found, .refl rt⟩, rfl⟩
        · have calls := calls_repeatConnect s cid (retryRequest rt request) (.retry cid) rt.chain
          rw [called]
          exact ⟨calls.rt, calls.native⟩
      · exact ⟨fun _ rt found => ⟨rt, found, .refl rt⟩, rfl⟩
    obtain ⟨later, native⟩ := ih (retryWaiting s cid)
    refine ⟨fun other after found => ?_, native.trans first.2⟩
    obtain ⟨middle, foundMiddle, late⟩ := later other after found
    obtain ⟨before, foundBefore, early⟩ := first.1 other middle foundMiddle
    exact ⟨before, foundBefore, late.trans early⟩

theorem Tidy.network {s : System} (tidy : Tidy s) {status : NetworkStatus} {reported : Bool}
    (consistent : Consistent (System.settle (s.app.onNetworkChanged status) s.engine reported)) :
    Tidy (System.settle (s.app.onNetworkChanged status) s.engine reported) := by
  have calmer := calmer_onNetworkChanged s.app status
  have noted := s.app.quiet_noteNetwork status
  unfold onNetworkChanged at consistent calmer ⊢
  dsimp only at consistent calmer ⊢
  split
  next handover =>
    rw [if_pos handover] at consistent calmer
    exact tidy.quiet (noted.trans (quiet_foldl quiet_dropForHandover _ _)) calmer consistent
  next handover =>
    rw [if_neg handover] at consistent calmer
    split
    next down =>
      rw [if_pos down] at consistent calmer
      exact tidy.quiet (noted.trans (quiet_foldl quiet_stopCountdown _ _)) calmer consistent
    next down =>
      rw [if_neg down] at consistent calmer
      split
      next returns =>
        rw [if_pos returns] at consistent calmer
        obtain ⟨rt, native⟩ := follows_retryAll (s.app.noteNetwork status).rt.keys
          (s.app.noteNetwork status)
        have idle := native.trans (show (s.app.noteNetwork status).native = [] from
          tidy.consistent.idle)
        rw [settle_of_idle idle] at consistent ⊢
        exact tidy.calm consistent rfl calmer (retains_of_follows rt)
          fun _ _ _ continues => continues
      next returns =>
        rw [if_neg returns] at consistent calmer
        exact tidy.quiet noted calmer consistent

/-- A call that reaches the engine opens a session nothing was heard of. -/
theorem Tidy.accept {s : System} (tidy : Tidy s) {call : ConnectCall}
    (consistent : Consistent (System.settle
      (s.app.completeConnect call (some s.engine.nextConnectionId))
      (s.engine.openSession call.chain) false)) :
    Tidy (System.settle (s.app.completeConnect call (some s.engine.nextConnectionId))
      (s.engine.openSession call.chain) false) := by
  have unused := tidy.consistent.unused
  rcases s.app.completeConnect_cases call (some s.engine.nextConnectionId) with
    ⟨refused, _⟩ | ⟨new, accepted, _, _, _, _, native, _, inserted, states⟩
  · exact absurd (refused _ rfl) tidy.consistent.positive.ne'
  · obtain rfl : s.engine.nextConnectionId = new := by simpa using accepted
    generalize s.app.completeConnect call (some s.engine.nextConnectionId) = app at *
    rw [settle_of_idle (native.trans tidy.consistent.idle)] at consistent ⊢
    have silent := tidy.fresh s.engine.nextConnectionId le_rfl
    refine ⟨consistent, fun cid later => ?_, fun cid rt found => ?_, fun cid present => ?_⟩
    · have later : s.engine.nextConnectionId + 1 ≤ cid := later
      rw [states, if_neg (Nat.lt_of_succ_le later).ne']
      exact tidy.fresh cid (Nat.le_of_succ_le later)
    · change app.rt.find cid = some rt at found
      rw [inserted, LinkedMap.find_insert] at found
      split at found
      next =>
        cases found
        rfl
      next => exact tidy.requests cid rt found
    · change (app.rt.find cid).isSome = true at present
      rw [inserted, LinkedMap.find_insert] at present
      rw [states]
      split at present
      next same =>
        subst same
        have nothing : eventsOf s.engine s.engine.nextConnectionId = [] := by
          refine List.eq_nil_iff_forall_not_mem.mpr fun event waits => ?_
          have known := tidy.consistent.events _ _ (mem_eventsOf.mp waits)
          simp [unused] at known
        refine ⟨.greeting, ⟨⟨.handshaking, call.chain⟩, .greeting, ?_, ?_, le_rfl⟩, ?_⟩
        · simp [Engine.openSession]
        · change Voice.greeting.listen (eventsOf s.engine s.engine.nextConnectionId) = _
          rw [nothing]
          rfl
        · simp [silent]
      next different =>
        obtain ⟨voice, continues, settled⟩ := tidy.heard cid present
        refine ⟨voice, continues.frame ?_ rfl, ?_⟩
        · simp [Engine.openSession, different]
        · rw [if_neg different]
          exact settled

/-- Handling events cancels no attempt. -/
theorem cancels_handleEvent {s : Notifier} (idle : s.native = []) (cid : ConnectionId)
    (event : TsEngineEvent) (env : Ambient) {queried : ConnectionId}
    (present : ((s.handleEvent cid event env).rt.find queried).isSome = true) :
    .cancelConnect queried ∉ (s.handleEvent cid event env).native := by
  intro called
  rcases s.handleEvent_cases cid event env with quiet | ⟨_, chain, request, arms⟩
  · rcases quiet.cancels queried called with earlier | absent
    · rw [idle] at earlier
      cases earlier
    · simp [absent] at present
  · rw [arms.native, idle] at called
    cases called

/-- The rest of a session's events continues what it said first. -/
theorem Continues.pop {e : Engine} {cid : ConnectionId} {event : TsEngineEvent}
    {rest : List (ConnectionId × TsEngineEvent)} {heard : Voice}
    (continues : Continues e cid heard) (queue : e.events = (cid, event) :: rest) :
    ∃ next, heard.speak event = some next ∧ Continues (e.leave rest) cid next := by
  obtain ⟨session, said, found, listened, behind⟩ := continues
  rw [eventsOf_pop queue, if_pos rfl] at listened
  obtain ⟨next, spoken, later⟩ := Voice.listen_cons listened
  exact ⟨next, spoken, session, said, found, later, behind⟩

theorem Continues.pop_other {e : Engine} {cid polled : ConnectionId} {event : TsEngineEvent}
    {rest : List (ConnectionId × TsEngineEvent)} {heard : Voice}
    (continues : Continues e cid heard) (queue : e.events = (polled, event) :: rest)
    (different : polled ≠ cid) : Continues (e.leave rest) cid heard := by
  refine continues.frame rfl ?_
  rw [eventsOf_pop queue, if_neg different]
  rfl

/-- What the record of a session says after an event of it. -/
theorem settled_handleEvent {s : Notifier} {cid : ConnectionId} {event : TsEngineEvent}
    {env : Ambient} {heard next : Voice} (present : (s.rt.find cid).isSome = true)
    (spoken : heard.speak event = some next)
    (settled : (s.stateOf cid).connected = true →
      heard ≠ .greeting ∧ (s.stateOf cid).connecting = false)
    (connected : ((s.handleEvent cid event env).stateOf cid).connected = true) :
    next ≠ .greeting ∧ ((s.handleEvent cid event env).stateOf cid).connecting = false := by
  by_cases greets : ∃ data, event = .connected data
  · obtain ⟨data, rfl⟩ := greets
    have handled : s.handleEvent cid (.connected data) env = s.handleConnected cid data := by
      unfold handleEvent
      rw [if_neg]
      rintro ⟨_, absent⟩
      simp [absent] at present
    refine ⟨?_, handled ▸ connecting_handleConnected s cid data⟩
    cases heard <;> cases spoken
    decide
  · have calmer := s.calmer_handleEvent cid env fun data same => greets ⟨data, same⟩
    obtain ⟨greeted, idle⟩ := settled (calmer.connected cid connected)
    constructor
    · rintro rfl
      have order := Voice.rank_speak spoken
      cases heard with
      | greeting => exact greeted rfl
      | _ => exact absurd order (by decide)
    · cases connecting : ((s.handleEvent cid event env).stateOf cid).connecting with
      | false => rfl
      | true => exact (calmer.connecting cid connecting).symm.trans idle

theorem Tidy.deliver {s : System} (tidy : Tidy s) {cid : ConnectionId} {event : TsEngineEvent}
    {rest : List (ConnectionId × TsEngineEvent)} {env : Ambient}
    (queue : s.engine.events = (cid, event) :: rest)
    (consistent : Consistent
      (System.settle (s.app.handleEvent cid event env) (s.engine.leave rest) false)) :
    Tidy (System.settle (s.app.handleEvent cid event env) (s.engine.leave rest) false) := by
  have only := only_handleEvent s.app cid event env
  have retains := retains_handleEvent s.app cid event env
  have known : cid < s.engine.nextConnectionId := by
    obtain ⟨session, found⟩ := Option.isSome_iff_exists.mp
      (tidy.consistent.events cid event (by simp [queue]))
    exact (tidy.consistent.known cid session.chain (by simp [Engine.chainAt, found])).1
  refine ⟨consistent, fun other unused => ?_, fun other after found => ?_, fun other present => ?_⟩
  · have unused : s.engine.nextConnectionId ≤ other := by
      have same := Engine.next_execute (s.engine.leave rest) false
        (s.app.handleEvent cid event env).native
      exact same.symm.trans_le unused
    have different : other ≠ cid := (known.trans_le unused).ne'
    exact (congrArg (·.connected) (only.state other different)).trans (tidy.fresh other unused)
  · obtain ⟨before, foundBefore, same⟩ := retains other after found
    rw [same]
    exact tidy.requests other before foundBefore
  · have kept := cancels_handleEvent tidy.consistent.idle cid event env present
    obtain ⟨voice, continues, settled⟩ := tidy.heard other (retains.present present)
    by_cases same : other = cid
    · subst same
      obtain ⟨next, spoken, later⟩ := continues.pop queue
      exact ⟨next, continues_execute kept later,
        settled_handleEvent (retains.present present) spoken settled⟩
    · refine ⟨voice, continues_execute kept (continues.pop_other queue (Ne.symm same)), ?_⟩
      have state : (System.settle (s.app.handleEvent cid event env) (s.engine.leave rest)
          false).app.stateOf other = s.app.stateOf other := only.state other same
      rw [state]
      exact settled

theorem tidy_step {s t : System} {action : System.Action} (tidy : Tidy s)
    (taken : s.step action = some t) : Tidy t := by
  have consistent := consistent_step tidy.consistent taken
  cases action with
  | app action reported =>
    cases action with
    | connect request =>
      cases taken
      exact tidy.calls (s.app.calls_connect request) (calmer_of_same rfl) consistent
    | completeConnect call reply =>
      cases reply with
      | some cid => cases taken
      | none =>
        obtain ⟨-, rfl⟩ := System.step_refused taken
        have idle : (s.app.completeConnect call none).native = [] := tidy.consistent.idle
        rw [settle_of_idle idle] at consistent ⊢
        exact tidy.calm consistent rfl (calmer_of_same rfl)
          (fun _ after found => ⟨after, found, rfl⟩) fun _ _ _ continues => continues
    | disconnect cid =>
      cases taken
      exact tidy.quiet (quiet_disconnect ..) (calmer_disconnect ..) consistent
    | cancelConnect cid =>
      cases taken
      exact tidy.quiet (quiet_cancelConnect ..) (calmer_cancelConnect ..) consistent
    | retryNow cid =>
      cases taken
      have calmer := s.app.calmer_retryNow cid
      rcases s.app.retryNow_cases cid with same | ⟨rt, request, _, _, called⟩
      · rw [same] at consistent calmer ⊢
        exact tidy.quiet (.refl _) calmer consistent
      · rw [called] at consistent calmer ⊢
        exact tidy.calls (calls_repeatConnect ..) calmer consistent
    | setAutoReconnect cid enabled =>
      cases taken
      exact tidy.quiet (quiet_setAutoReconnect ..) (calmer_setAutoReconnect ..) consistent
    | loadReconnectPreference =>
      cases taken
      exact tidy.quiet (quiet_loadReconnectPreference s.app)
        (calmer_loadReconnectPreference s.app) consistent
    | timer cid =>
      obtain ⟨rt, timer, found, armed, rfl⟩ := System.step_timer taken
      have calmer := s.app.calmer_timerFired cid rt timer
      rcases s.app.timerFired_cases cid rt timer with silent | called
      · rw [silent] at consistent calmer ⊢
        exact tidy.quiet (quiet_cancelTimer ..) calmer consistent
      · rw [called] at consistent calmer ⊢
        exact tidy.calls (calls_repeatConnect ..) calmer consistent
    | network status =>
      cases taken
      exact tidy.network consistent
    | event cid event env => cases taken
  | accept call =>
    simp only [System.step, Option.ite_none_right_eq_some, Option.some.injEq] at taken
    obtain ⟨_, rfl⟩ := taken
    exact tidy.accept consistent
  | deliver env =>
    obtain ⟨cid, event, rest, queue, rfl⟩ := System.step_deliver taken
    exact tidy.deliver queue consistent
  | engine action =>
    obtain ⟨engine, moved, rfl⟩ := Option.map_eq_some_iff.mp taken
    have aged : Engine.Ages (fun _ => True) s.engine engine := Engine.ages_step moved
    exact tidy.calm consistent aged.next (.refl _) (fun _ after found => ⟨after, found, rfl⟩)
      fun _ _ _ continues => continues_step continues moved

theorem tidy_start : Tidy .start where
  consistent := consistent_start
  fresh _ _ := rfl
  requests _ _ found := nomatch found
  heard _ present := nomatch present

/-- In every reachable state sessions report in order. -/
theorem tidy_of_run {history : List System.Action} {s : System}
    (run : Run System.step anyStep .start history s) : Tidy s :=
  run.invariant _ tidy_start fun _ _ _ tidy _ taken => tidy_step tidy taken

end Nek0.Guarantees
