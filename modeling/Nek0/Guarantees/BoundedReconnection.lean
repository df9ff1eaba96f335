import Nek0.Guarantees.NoDuplicateSessions
import Nek0.Source.NotifierFrames

/-!
# Bounded reconnection

What happens after a session is lost while the user does nothing and the network
stays as it is. The counter that bounds the attempts and chooses their delays
lives in the record of one connection id, and every attempt opens a new id whose
counter starts at zero. The bound and the delays are those of the policy as long as
each failure that is answered finds a counter that counts the attempts of its chain.
-/

namespace Nek0.Guarantees

open Nek0.Source Nek0.Source.Notifier Nek0.Library

/-- The delays of the automatic calls of a chain. -/
def automaticDelays (chain : ChainId) (calls : List ConnectCall) : List Nat :=
  calls.filterMap fun call =>
    match call.origin with
    | .timer _ delay => if call.chain = chain then some delay else none
    | _ => none

/-- The delays with which attempts of a chain were scheduled. -/
def scheduledDelays (chain : ChainId) (scheduled : List Scheduled) : List Nat :=
  scheduled.filterMap fun entry => if entry.chain = chain then some entry.delay else none

/-- The automatic calls of a chain since the state `s`. -/
def callsSince (chain : ChainId) (s t : System) : List Nat :=
  automaticDelays chain (t.app.connectCalls.drop s.app.connectCalls.length)

def scheduledSince (chain : ChainId) (s t : System) : List Nat :=
  scheduledDelays chain (t.app.scheduled.drop s.app.scheduled.length)

/-- The delay is one the policy gives the attempt. -/
def DelayOf (attempt delay : Nat) : Prop := ∃ draw, delay = ReconnectPolicy.delayFor attempt draw

/-- A connected session of a chain is lost: its end waits to be handled, and nothing
else of the chain is live or pending. -/
structure Lost (s : System) (cid : ConnectionId) (chain : ChainId) : Prop where
  record : ∃ rt, s.app.rt.find cid = some rt ∧ rt.chain = chain
  connected : (s.app.stateOf cid).connected = true
  pending : (cid, .disconnected false) ∈ s.engine.events
  alone : ∀ token, Holds s chain token → token = .session cid
  handled : ∀ other data, (other, .connected data) ∈ s.engine.events →
    s.engine.chainAt other ≠ some chain

/-- The user does nothing, the network stays as it is, and the attempts of the
chain fail with a retryable kind. -/
def Unattended (chain : ChainId) (s : System) : System.Action → Prop
  | .app (.timer _) _ | .app (.completeConnect ..) _ | .accept _ | .deliver _ => True
  | .app .. => False
  | .engine (.publish cid _) => s.engine.chainAt cid ≠ some chain
  | .engine (.fail cid kind retryable) => s.engine.chainAt cid = some chain →
    retryable = true ∧ kind ∉ ReconnectPolicy.nonRetryableKinds
  | .engine _ => True

/-- A failure of the chain that is answered finds a counter that counts the attempts
scheduled since the loss. -/
def CountsAttempts (chain : ChainId) (lost s : System) : System.Action → Prop
  | .deliver _ => ∀ cid event rest rt, s.engine.events = (cid, event) :: rest →
    s.app.rt.find cid = some rt → rt.chain = chain → s.app.reconnects cid event = true →
    s.app.attemptOf cid event = (scheduledSince chain lost s).length
  | _ => True

/-- At most `maxAttempts` automatic calls, each after the delay of its number, and no
timer once they are used up. -/
structure Bounded (chain : ChainId) (lost t : System) : Prop where
  attempts : (callsSince chain lost t).length ≤ ReconnectPolicy.maxAttempts
  delays : ∀ n delay, (callsSince chain lost t)[n]? = some delay → DelayOf n delay
  stops : (callsSince chain lost t).length = ReconnectPolicy.maxAttempts →
    ∀ cid rt, t.app.rt.find cid = some rt → rt.chain = chain → rt.reconnectTimer = none

/-- No session of the chain has an armed timer. -/
def Unarmed (chain : ChainId) (app : Notifier) : Prop :=
  ∀ cid rt, app.rt.find cid = some rt → rt.chain = chain → rt.reconnectTimer = none

/-- The one armed timer of the chain carries the given delay. -/
def ArmedWith (chain : ChainId) (app : Notifier) (delay : Nat) : Prop :=
  ∃ cid rt timer, app.rt.find cid = some rt ∧ rt.chain = chain ∧
    rt.reconnectTimer = some timer ∧ timer.delay = delay ∧ rt.autoReconnect = true

/-- Every scheduled attempt was called or is the one whose timer is armed. -/
structure Counted (chain : ChainId) (lost t : System) : Prop where
  sound : Sound {chain} t
  handled : ∀ other data, (other, .connected data) ∈ t.engine.events →
    t.engine.chainAt other ≠ some chain
  calls : lost.app.connectCalls.length ≤ t.app.connectCalls.length
  entries : lost.app.scheduled.length ≤ t.app.scheduled.length
  tally : Unarmed chain t.app ∧ scheduledSince chain lost t = callsSince chain lost t ∨
    ∃ delay, ArmedWith chain t.app delay ∧
      scheduledSince chain lost t = callsSince chain lost t ++ [delay]
  attempts : (scheduledSince chain lost t).length ≤ ReconnectPolicy.maxAttempts
  delays : ∀ n delay, (scheduledSince chain lost t)[n]? = some delay → DelayOf n delay

theorem Counted.bounded {chain : ChainId} {lost t : System} (counted : Counted chain lost t) :
    Bounded chain lost t := by
  have attempts := counted.attempts
  have delays := counted.delays
  rcases counted.tally with ⟨unarmed, same⟩ | ⟨delay, armed, longer⟩
  · rw [same] at attempts delays
    exact ⟨attempts, delays, fun _ => unarmed⟩
  · rw [longer] at attempts delays
    simp only [List.length_append, List.length_singleton] at attempts
    refine ⟨by omega, fun n delay found => delays n delay ?_, fun full => by omega⟩
    obtain ⟨inside, _⟩ := List.getElem?_eq_some_iff.mp found
    rw [List.getElem?_append_left inside, found]

theorem callsSince_append (chain : ChainId) {lost t : System} {app : Notifier} (engine : Engine)
    {call : ConnectCall} (older : lost.app.connectCalls.length ≤ t.app.connectCalls.length)
    (calls : app.connectCalls = t.app.connectCalls ++ [call]) :
    callsSince chain lost ⟨app, engine⟩ =
      callsSince chain lost t ++ automaticDelays chain [call] := by
  simp only [callsSince, calls, automaticDelays, List.drop_append_of_le_length older,
    List.filterMap_append]

theorem scheduledSince_append (chain : ChainId) {lost t : System} {app : Notifier}
    (engine : Engine) {entry : Scheduled}
    (older : lost.app.scheduled.length ≤ t.app.scheduled.length)
    (scheduled : app.scheduled = t.app.scheduled ++ [entry]) :
    scheduledSince chain lost ⟨app, engine⟩ =
      scheduledSince chain lost t ++ scheduledDelays chain [entry] := by
  simp only [scheduledSince, scheduled, scheduledDelays, List.drop_append_of_le_length older,
    List.filterMap_append]

/-- Every record stays as it is, or has no armed timer of the chain before and
after. -/
def SameTimers (chain : ChainId) (app later : Notifier) : Prop :=
  ∀ cid, later.rt.find cid = app.rt.find cid ∨
    (∀ rt, app.rt.find cid = some rt → rt.chain = chain → rt.reconnectTimer = none) ∧
    ∀ rt, later.rt.find cid = some rt → rt.chain = chain → rt.reconnectTimer = none

theorem Unarmed.same {chain : ChainId} {app later : Notifier} (unarmed : Unarmed chain app)
    (same : SameTimers chain app later) : Unarmed chain later := by
  intro cid rt found chained
  rcases same cid with kept | ⟨_, after⟩
  · exact unarmed cid rt (kept ▸ found) chained
  · exact after rt found chained

theorem ArmedWith.same {chain : ChainId} {app later : Notifier} {delay : Nat}
    (armed : ArmedWith chain app delay) (same : SameTimers chain app later) :
    ArmedWith chain later delay := by
  obtain ⟨cid, rt, timer, found, chained, isArmed, rest⟩ := armed
  rcases same cid with kept | ⟨before, _⟩
  · exact ⟨cid, rt, timer, kept ▸ found, chained, isArmed, rest⟩
  · rw [before rt found chained] at isArmed
    cases isArmed

/-- A step that schedules and calls nothing for the chain and touches no armed timer
of it. -/
theorem Counted.same {chain : ChainId} {lost t u : System} (counted : Counted chain lost t)
    (sound : Sound {chain} u)
    (handled : ∀ other data, (other, .connected data) ∈ u.engine.events →
      u.engine.chainAt other ≠ some chain)
    (calls : t.app.connectCalls.length ≤ u.app.connectCalls.length)
    (entries : t.app.scheduled.length ≤ u.app.scheduled.length)
    (callsSame : callsSince chain lost u = callsSince chain lost t)
    (entriesSame : scheduledSince chain lost u = scheduledSince chain lost t)
    (same : SameTimers chain t.app u.app) : Counted chain lost u := by
  refine ⟨sound, handled, counted.calls.trans calls, counted.entries.trans entries, ?_,
    entriesSame ▸ counted.attempts, entriesSame ▸ counted.delays⟩
  rw [callsSame, entriesSame]
  exact counted.tally.imp (And.imp_left fun unarmed => unarmed.same same)
    fun ⟨delay, armed, longer⟩ => ⟨delay, armed.same same, longer⟩

/-- While a session of the chain holds its token, no timer of the chain is armed. -/
theorem unarmed_of_session {chain : ChainId} {s : System} {cid : ConnectionId}
    (sound : Sound {chain} s) (held : Holds s chain (.session cid)) : Unarmed chain s.app := by
  intro other rt found chained
  cases armed : rt.reconnectTimer with
  | none => rfl
  | some timer =>
    have token : Holds s chain (.timer other) := ⟨rt, found, chained, by simp [armed]⟩
    exact nomatch sound.2 chain rfl _ _ held token

/-- A terminal event that waits gives its session the token. -/
theorem session_of_pending {s : System} {cid : ConnectionId} {event : TsEngineEvent}
    {rest : List (ConnectionId × TsEngineEvent)} {rt : SessionRuntime}
    (consistent : Consistent s) (queue : s.engine.events = (cid, event) :: rest)
    (ends : event.isTerminal = true) (found : s.app.rt.find cid = some rt) :
    Holds s rt.chain (.session cid) := by
  refine ⟨consistent.chains cid rt found, .inr ⟨by simp [found], ?_⟩⟩
  rw [pendingEnds_pop queue]
  simp [ends]

/-- A quiet answer to an event leaves the armed timers of the chain alone. -/
theorem sameTimers_handleEvent {chain : ChainId} {s : System} {cid : ConnectionId}
    {event : TsEngineEvent} {rest : List (ConnectionId × TsEngineEvent)} {env : Ambient}
    (sound : Sound {chain} s)
    (handled : ∀ other data, (other, .connected data) ∈ s.engine.events →
      s.engine.chainAt other ≠ some chain)
    (queue : s.engine.events = (cid, event) :: rest)
    (quiet : Quiet s.app (s.app.handleEvent cid event env)) :
    SameTimers chain s.app (s.app.handleEvent cid event env) := by
  intro queried
  by_cases same : queried = cid
  · subst same
    have unarmedAfter : (∀ rt, s.app.rt.find queried = some rt → rt.chain = chain →
          rt.reconnectTimer = none) →
        ∀ rt, (s.app.handleEvent queried event env).rt.find queried = some rt →
          rt.chain = chain → rt.reconnectTimer = none := by
      intro before rt found chained
      obtain ⟨earlier, foundEarlier, sameChain, _, timer⟩ := quiet.rt queried rt found
      have unarmed := before earlier foundEarlier (sameChain ▸ chained)
      rcases timer with kept | gone
      · rw [kept, unarmed]
      · exact gone
    cases event with
    | connected data =>
      have foreign : ∀ rt, s.app.rt.find queried = some rt → rt.chain = chain →
          rt.reconnectTimer = none := by
        intro rt found chained
        refine absurd (sound.1.chains queried rt found) ?_
        rw [chained]
        exact handled queried data (by simp [queue])
      exact .inr ⟨foreign, unarmedAfter foreign⟩
    | connectFailed kind retryable =>
      have ended : ∀ rt, s.app.rt.find queried = some rt → rt.chain = chain →
          rt.reconnectTimer = none := fun rt found chained =>
        unarmed_of_session sound (chained ▸ session_of_pending sound.1 queue rfl found)
          queried rt found chained
      exact .inr ⟨ended, unarmedAfter ended⟩
    | disconnected expected =>
      have ended : ∀ rt, s.app.rt.find queried = some rt → rt.chain = chain →
          rt.reconnectTimer = none := fun rt found chained =>
        unarmed_of_session sound (chained ▸ session_of_pending sound.1 queue rfl found)
          queried rt found chained
      exact .inr ⟨ended, unarmedAfter ended⟩
    | _ => exact .inl (by rw [(handleEvent_idle _ _ _ rfl).1])
  · exact .inl ((only_handleEvent s.app cid event env).rt queried same)

/-- The connected events that wait after the oldest event was handled. -/
theorem handled_deliver {chain : ChainId} {s : System} (app : Notifier) {cid : ConnectionId}
    {event : TsEngineEvent} {rest : List (ConnectionId × TsEngineEvent)} (reported : Bool)
    (handled : ∀ other data, (other, .connected data) ∈ s.engine.events →
      s.engine.chainAt other ≠ some chain)
    (queue : s.engine.events = (cid, event) :: rest)
    (same : ∀ other, (System.settle app (s.engine.leave rest) reported).engine.chainAt other =
      s.engine.chainAt other) :
    ∀ other data,
      (other, .connected data) ∈ (System.settle app (s.engine.leave rest) reported).engine.events →
      (System.settle app (s.engine.leave rest) reported).engine.chainAt other ≠ some chain := by
  intro other data pending
  rw [same]
  refine handled other data ?_
  rw [queue]
  exact List.mem_cons_of_mem _ (Engine.connected_execute pending)

/-- An event of the chain that is answered schedules the next attempt. -/
theorem counted_arms {chain : ChainId} {lost s : System} {cid : ConnectionId}
    {event : TsEngineEvent} {rest : List (ConnectionId × TsEngineEvent)} {app : Notifier}
    {request : ConnectRequest} {draw : Draw} {rt : SessionRuntime}
    (counted : Counted chain lost s) (sound : Sound {chain} ⟨app, s.engine.leave rest⟩)
    (handled : ∀ other data, (other, .connected data) ∈ (s.engine.leave rest).events →
      (s.engine.leave rest).chainAt other ≠ some chain)
    (queue : s.engine.events = (cid, event) :: rest) (found : s.app.rt.find cid = some rt)
    (chained : rt.chain = chain) (answers : s.app.reconnects cid event = true)
    (counts : s.app.attemptOf cid event = (scheduledSince chain lost s).length)
    (arms : Arms s.app app cid chain
      ⟨request, ReconnectPolicy.delayFor (s.app.attemptOf cid event) draw⟩) :
    Counted chain lost ⟨app, s.engine.leave rest⟩ := by
  have unarmed : Unarmed chain s.app := unarmed_of_session counted.sound
    (chained ▸ session_of_pending counted.sound.1 queue (isTerminal_of_reconnects answers) found)
  have tally : scheduledSince chain lost s = callsSince chain lost s := by
    rcases counted.tally with ⟨_, same⟩ | ⟨_, ⟨other, after, timer, foundOther, chainedOther,
      armed, _⟩, _⟩
    · exact same
    · rw [unarmed other after foundOther chainedOther] at armed
      cases armed
  have within : s.app.attemptOf cid event < ReconnectPolicy.maxAttempts := by
    simp only [reconnects, found, Bool.and_eq_true] at answers
    cases event with
    | connectFailed kind retryable => exact ReconnectPolicy.shouldRetry_attempt answers.2.2
    | disconnected expected => exact Nat.succ_pos _
    | _ => cases answers.2.2
  have entries :=
    scheduledSince_append chain (s.engine.leave rest) counted.entries arms.scheduled
  simp only [scheduledDelays, List.filterMap_cons, List.filterMap_nil, if_true] at entries
  obtain ⟨_, after, _, _, _, _, foundAfter, chainAfter, _, armed, flag⟩ := arms.armed
  refine ⟨sound, handled, ?_, ?_,
    .inr ⟨_, ⟨cid, after, _, foundAfter, chainAfter, armed, rfl, flag⟩, ?_⟩, ?_,
    fun n delay here => ?_⟩
  · exact arms.connectCalls ▸ counted.calls
  · rw [arms.scheduled]
    exact counted.entries.trans (by simp)
  · rw [entries, tally]
    simp only [callsSince, arms.connectCalls]
  · rw [entries, List.length_append, List.length_singleton]
    omega
  · rw [entries] at here
    rcases Nat.lt_or_ge n (scheduledSince chain lost s).length with earlier | now
    · rw [List.getElem?_append_left earlier] at here
      exact counted.delays n delay here
    · rw [List.getElem?_append_right now, List.getElem?_singleton] at here
      split at here
      next exact_n =>
        cases here
        refine ⟨draw, ?_⟩
        rw [counts]
        congr 1
        omega
      next => cases here

/-- A scheduled attempt of another chain. -/
theorem sameTimers_arms {chain other : ChainId} {s app : Notifier} {cid : ConnectionId}
    {timer : ReconnectTimer} (arms : Arms s app cid other timer) (foreign : other ≠ chain)
    (only : Only cid s app) : SameTimers chain s app := by
  intro queried
  by_cases same : queried = cid
  · subst same
    obtain ⟨before, after, foundBefore, chained, _, _, foundAfter, chainedAfter, _⟩ := arms.armed
    refine .inr ⟨fun rt found inChain => ?_, fun rt found inChain => ?_⟩
    · rw [foundBefore] at found
      cases found
      exact absurd (chained.symm.trans inChain) foreign
    · rw [foundAfter] at found
      cases found
      exact absurd (chainedAfter.symm.trans inChain) foreign
  · exact .inl (only.rt queried same)

theorem counted_deliver {chain : ChainId} {lost s : System} {cid : ConnectionId}
    {event : TsEngineEvent} {rest : List (ConnectionId × TsEngineEvent)} {env : Ambient}
    (counted : Counted chain lost s) (queue : s.engine.events = (cid, event) :: rest)
    (counts : ∀ rt, s.app.rt.find cid = some rt → rt.chain = chain →
      s.app.reconnects cid event = true →
      s.app.attemptOf cid event = (scheduledSince chain lost s).length) :
    Counted chain lost
      (System.settle (s.app.handleEvent cid event env) (s.engine.leave rest) false) := by
  have sound := sound_deliver counted.sound queue env
  have only := only_handleEvent s.app cid event env
  rcases s.app.handleEvent_cases cid event env with quiet | ⟨answers, other, request, arms⟩
  · have descends := descends_settle counted.sound.1 quiet (ages_pop queue) false
    refine counted.same sound
      (handled_deliver _ _ counted.handled queue fun other => descends.ages.chainAt other) ?_ ?_ ?_ ?_
      (sameTimers_handleEvent counted.sound counted.handled queue quiet)
    · exact (congrArg List.length quiet.connectCalls).ge
    · exact (congrArg List.length quiet.scheduled).ge
    · simp only [callsSince, System.settle, quiet.connectCalls]
    · simp only [scheduledSince, System.settle, quiet.scheduled]
  · have idle := arms.native.trans counted.sound.1.idle
    rw [settle_of_idle idle] at sound ⊢
    have handled := handled_deliver (s.app.handleEvent cid event env) false counted.handled
      queue fun other => by rw [settle_of_idle idle]; rfl
    rw [settle_of_idle idle] at handled
    obtain ⟨before, _, foundBefore, chained, _⟩ := arms.armed
    by_cases same : other = chain
    · subst same
      exact counted_arms counted sound handled queue foundBefore chained answers
        (counts before foundBefore chained answers) arms
    · refine counted.same sound handled ?_ ?_ ?_ ?_ (sameTimers_arms arms same only)
      · exact (congrArg List.length arms.connectCalls).ge
      · rw [arms.scheduled]
        simp
      · simp only [callsSince, arms.connectCalls]
      · rw [scheduledSince_append _ _ counted.entries arms.scheduled]
        simp [scheduledDelays, same]

theorem unarmed_repeatConnect {chain : ChainId} {s : System} {cid : ConnectionId}
    {rt : SessionRuntime} {timer : ReconnectTimer} (sound : Sound {chain} s)
    (found : s.app.rt.find cid = some rt) (armed : rt.reconnectTimer = some timer)
    (chained : rt.chain = chain) (request : ConnectRequest) (origin : Origin) :
    Unarmed chain (s.app.repeatConnect cid request origin rt.chain) := by
  intro other after foundAfter chainedAfter
  rw [← timerOf_of_find foundAfter, timerOf_repeatConnect]
  split
  · rfl
  next different =>
    rw [find_repeatConnect_of_ne _ _ _ _ different] at foundAfter
    rw [timerOf_of_find foundAfter]
    cases stillArmed : after.reconnectTimer with
    | none => rfl
    | some _ =>
      have here : Holds s chain (.timer cid) := ⟨rt, found, chained, by simp [armed]⟩
      have there : Holds s chain (.timer other) :=
        ⟨after, foundAfter, chainedAfter, by simp [stillArmed]⟩
      cases sound.2 chain rfl _ _ here there
      exact absurd rfl different

/-- The one armed timer of the chain makes the call it was armed for. -/
theorem counted_ownTimer {chain : ChainId} {lost s : System} {cid : ConnectionId}
    {rt : SessionRuntime} {timer : ReconnectTimer} (counted : Counted chain lost s)
    (found : s.app.rt.find cid = some rt) (armed : rt.reconnectTimer = some timer)
    (chained : rt.chain = chain) (reported : Bool) :
    Counted chain lost (System.settle (s.app.timerFired cid rt timer) s.engine reported) := by
  have sound := sound_timer counted.sound found armed reported
  have here : Holds s chain (.timer cid) := ⟨rt, found, chained, by simp [armed]⟩
  rcases counted.tally with ⟨unarmed, _⟩ | ⟨delay, ⟨other, after, armedTimer, foundOther,
    chainedOther, armedOther, rfl, auto⟩, longer⟩
  · rw [unarmed cid rt found chained] at armed
    cases armed
  · have there : Holds s chain (.timer other) :=
      ⟨after, foundOther, chainedOther, by simp [armedOther]⟩
    cases counted.sound.2 chain rfl _ _ here there
    rw [found] at foundOther
    cases foundOther
    rw [armed] at armedOther
    cases armedOther
    rw [timerFired_of_auto _ _ _ auto] at sound ⊢
    have calls := calls_repeatConnect s.app cid (retryRequest rt timer.request)
      (.timer cid timer.delay) rt.chain
    rw [settle_of_idle (calls.native.trans counted.sound.1.idle)] at sound ⊢
    have made := callsSince_append chain s.engine counted.calls calls.connectCalls
    simp only [automaticDelays, nextCall, List.filterMap_cons, List.filterMap_nil,
      Option.getD_some, chained, if_true] at made
    have kept : scheduledSince chain lost
        ⟨s.app.repeatConnect cid (retryRequest rt timer.request) (.timer cid timer.delay) rt.chain,
          s.engine⟩ = scheduledSince chain lost s := by
      simp only [scheduledSince, calls.scheduled]
    refine ⟨sound, counted.handled, counted.calls.trans (by simp [calls.connectCalls]),
      calls.scheduled ▸ counted.entries, .inl ⟨?_, ?_⟩, kept ▸ counted.attempts,
      kept ▸ counted.delays⟩
    · exact unarmed_repeatConnect counted.sound found armed chained _ _
    · rw [kept, longer, ← chained]
      rw [← chained] at made
      exact made.symm

/-- A timer of another chain. -/
theorem counted_otherTimer {chain : ChainId} {lost s : System} {cid : ConnectionId}
    {rt : SessionRuntime} {timer : ReconnectTimer} (counted : Counted chain lost s)
    (found : s.app.rt.find cid = some rt) (armed : rt.reconnectTimer = some timer)
    (foreign : rt.chain ≠ chain) (reported : Bool) :
    Counted chain lost (System.settle (s.app.timerFired cid rt timer) s.engine reported) := by
  have sound := sound_timer counted.sound found armed reported
  have others : ∀ app : Notifier, (∀ other, other ≠ cid → app.rt.find other = s.app.rt.find other) →
      (∀ after, app.rt.find cid = some after → after.chain = rt.chain) →
      SameTimers chain s.app app := by
    intro app same chainKept other
    by_cases own : other = cid
    · subst own
      refine .inr ⟨fun before foundBefore inChain => ?_, fun after foundAfter inChain => ?_⟩
      · rw [found] at foundBefore
        cases foundBefore
        exact absurd inChain foreign
      · exact absurd ((chainKept after foundAfter).symm.trans inChain) foreign
    · exact .inl (same other own)
  rcases s.app.timerFired_cases cid rt timer with silent | called
  · rw [silent] at sound ⊢
    have idle : (s.app.cancelTimer cid).native = [] := counted.sound.1.idle
    rw [settle_of_idle idle] at sound ⊢
    refine counted.same sound counted.handled le_rfl le_rfl rfl rfl (others _ ?_ ?_)
    · exact fun other different => by simp [find_cancelTimer, different]
    · intro after foundAfter
      obtain ⟨before, foundBefore, sameChain, _⟩ := (s.app.quiet_cancelTimer cid).rt cid after
        foundAfter
      rw [found] at foundBefore
      cases foundBefore
      exact sameChain
  · rw [called] at sound ⊢
    have calls := calls_repeatConnect s.app cid (retryRequest rt timer.request)
      (.timer cid timer.delay) rt.chain
    rw [settle_of_idle (calls.native.trans counted.sound.1.idle)] at sound ⊢
    refine counted.same sound counted.handled (by simp [calls.connectCalls])
      (congrArg List.length calls.scheduled).ge ?_ ?_ (others _ ?_ ?_)
    · rw [callsSince_append _ _ counted.calls calls.connectCalls]
      simp [automaticDelays, nextCall, foreign]
    · simp only [scheduledSince, calls.scheduled]
    · exact fun other different => find_repeatConnect_of_ne _ _ _ _ different
    · intro after foundAfter
      obtain ⟨before, foundBefore, sameChain, _⟩ := calls.rt cid after foundAfter
      rw [found] at foundBefore
      cases foundBefore
      exact sameChain

/-- A call that reaches the engine. -/
theorem counted_accept {chain : ChainId} {lost s : System} {call : ConnectCall}
    (counted : Counted chain lost s) (inside : call ∈ s.app.inFlight) :
    Counted chain lost
      (System.settle (s.app.completeConnect call (some s.engine.nextConnectionId))
        (s.engine.openSession call.chain) false) := by
  have sound := sound_accept counted.sound inside
  have unused := counted.sound.1.unused
  rcases s.app.completeConnect_cases call (some s.engine.nextConnectionId) with
    ⟨refused, _⟩ | ⟨new, accepted, _, _, calls, scheduled, native, _, inserted, _⟩
  · exact absurd (refused _ rfl) counted.sound.1.positive.ne'
  · obtain rfl : s.engine.nextConnectionId = new := by simpa using accepted
    generalize s.app.completeConnect call (some s.engine.nextConnectionId) = app at *
    rw [settle_of_idle (native.trans counted.sound.1.idle)] at sound ⊢
    refine counted.same sound (fun other data pending => ?_) (congrArg List.length calls).ge
      (congrArg List.length scheduled).ge ?_ ?_ fun other => ?_
    · have known := counted.sound.1.events other _ pending
      rw [Engine.chainAt_openSession, if_neg]
      · exact counted.handled other data pending
      · rintro rfl
        simp [unused] at known
    · simp only [callsSince, calls]
    · simp only [scheduledSince, scheduled]
    · rw [inserted, LinkedMap.find_insert]
      split
      next same =>
        refine .inr ⟨fun rt found _ => ?_, fun rt found _ => by cases found; rfl⟩
        have chained := counted.sound.1.chains other rt found
        rw [same, Engine.chainAt, unused] at chained
        cases chained
      next => exact .inl rfl

/-- A step of the engine connects no session of the chain. -/
theorem counted_engine {chain : ChainId} {lost s : System} {action : EngineAction}
    {engine : Engine} (counted : Counted chain lost s)
    (unattended : Unattended chain s (.engine action)) (moved : s.engine.step action = some engine) :
    Counted chain lost ⟨s.app, engine⟩ := by
  have taken : s.step (.engine action) = some ⟨s.app, engine⟩ := by simp [System.step, moved]
  have alone : RetriesAlone {chain} s (.engine action) := trivial
  have sound := sound_step counted.sound alone taken
  have ages : Engine.Ages (fun _ => False) s.engine engine := Engine.ages_step moved
  refine counted.same sound (fun other data pending => ?_) le_rfl le_rfl rfl rfl
    fun _ => .inl rfl
  rw [ages.chainAt]
  rcases Engine.connected_step moved pending with earlier | published
  · exact counted.handled other data earlier
  · obtain rfl := published
    exact unattended

/-- One step of an unattended run keeps count of the attempts. -/
theorem counted_step {chain : ChainId} {lost s t : System} {action : System.Action}
    (counted : Counted chain lost s) (unattended : Unattended chain s action)
    (counts : CountsAttempts chain lost s action) (taken : s.step action = some t) :
    Counted chain lost t := by
  cases action with
  | app action reported =>
    cases action with
    | completeConnect call reply =>
      cases reply with
      | some cid => cases taken
      | none =>
        obtain ⟨-, rfl⟩ := System.step_refused taken
        have sound := sound_refuse counted.sound call
        rw [settle_of_idle sound.1.idle]
        exact counted.same sound counted.handled le_rfl le_rfl rfl rfl fun _ => .inl rfl
    | timer cid =>
      obtain ⟨rt, timer, found, armed, rfl⟩ := System.step_timer taken
      by_cases chained : rt.chain = chain
      · exact counted_ownTimer counted found armed chained reported
      · exact counted_otherTimer counted found armed chained reported
    | _ => exact unattended.elim
  | accept call =>
    simp only [System.step, Option.ite_none_right_eq_some, Option.some.injEq] at taken
    rw [← taken.2]
    exact counted_accept counted taken.1
  | deliver env =>
    obtain ⟨cid, event, rest, queue, rfl⟩ := System.step_deliver taken
    exact counted_deliver counted queue fun rt => counts cid event rest rt queue
  | engine action =>
    obtain ⟨engine, moved, rfl⟩ := Option.map_eq_some_iff.mp taken
    exact counted_engine counted unattended moved

/-- At the loss nothing was scheduled or called yet. -/
theorem Lost.counted {chain : ChainId} {cid : ConnectionId} {s : System}
    (lost : Lost s cid chain) (consistent : Consistent s) : Counted chain s s := by
  obtain ⟨rt, found, rfl⟩ := lost.record
  have unique : AtMostOne {rt.chain} (Holds s) := by
    rintro _ rfl first second one two
    rw [lost.alone first one, lost.alone second two]
  have held : Holds s rt.chain (.session cid) := by
    refine ⟨consistent.chains cid rt found, .inr ⟨by simp [found], ?_⟩⟩
    exact List.countP_pos_iff.mpr ⟨_, lost.pending, by simp [TsEngineEvent.isTerminal]⟩
  have none : callsSince rt.chain s s = [] ∧ scheduledSince rt.chain s s = [] := by
    simp [callsSince, scheduledSince, automaticDelays, scheduledDelays]
  refine ⟨⟨consistent, unique⟩, lost.handled, le_rfl, le_rfl,
    .inl ⟨unarmed_of_session ⟨consistent, unique⟩ held, none.2.trans none.1.symm⟩, ?_, ?_⟩
  · simp [none.2]
  · simp [none.2]

/-- After a loss, in every unattended run whose answered failures find a counter that
counts the attempts of the chain, reconnecting is bounded by the policy. -/
theorem reconnection_is_bounded {history actions : List System.Action} {s₀ t : System}
    {cid : ConnectionId} {chain : ChainId} (before : Run System.step anyStep .start history s₀)
    (lost : Lost s₀ cid chain)
    (run : Run System.step (fun s action => Unattended chain s action ∧
      CountsAttempts chain s₀ s action) s₀ actions t) : Bounded chain s₀ t :=
  (run.invariant (Counted chain s₀) (lost.counted (consistent_of_run before))
    fun _ _ _ counted ⟨unattended, counts⟩ taken =>
      counted_step counted unattended counts taken).bounded

/-- A session that was connected and has just been lost. -/
def lossHistory : List System.Action :=
  [.app (.connect exampleRequest) false, .accept ⟨0, exampleRequest, .user, 0⟩,
    .engine (.handshakeDone 1), .engine (.publish 1 ⟨some 7, "", 0, [], []⟩), .deliver quietEnv,
    .engine (.stash 1), .engine (.take 1), .engine (.startLoop 1), .engine (.drop 1)]

theorem lost_of_lossHistory {s : System} (computed : exec System.step .start lossHistory = some s) :
    Run System.step anyStep .start lossHistory s ∧ Lost s 1 0 := by
  have passed : (exec System.step .start lossHistory).any (fun s =>
      s.engine.events == [(1, .disconnected false)] && (s.app.stateOf 1).connected &&
        (s.app.rt.find 1).any fun rt => rt.chain == 0) = true := by decide +kernel
  simp only [computed, Option.any_some, Bool.and_eq_true, beq_iff_eq, Option.any_eq_true]
    at passed
  obtain ⟨⟨queue, connected⟩, rt, found, chained⟩ := passed
  have run : Run System.step (RetriesAlone Set.univ) .start lossHistory s :=
    run_of_exec (by simp [lossHistory, RetriesAlone]) computed
  have sound : Sound Set.univ s := run.invariant _ sound_start fun _ _ _ => sound_step
  have held : Holds s 0 (.session 1) :=
    chained ▸ session_of_pending sound.1 queue rfl found
  refine ⟨run.weaken fun _ _ _ => trivial, ⟨rt, found, chained⟩, connected, by simp [queue],
    fun token holds => sound.2 0 (Set.mem_univ 0) _ _ holds held, fun other data pending => ?_⟩
  simp [queue] at pending

/-- The loss is answered with one attempt. -/
theorem reconnection_is_bounded_once :
    ∃ s₀ t, Run System.step anyStep .start lossHistory s₀ ∧ Lost s₀ 1 0 ∧
      Run System.step (fun s action => Unattended 0 s action ∧ CountsAttempts 0 s₀ s action) s₀
        [.deliver quietEnv, .app (.timer 1) false] t ∧
      callsSince 0 s₀ t = [3000] ∧ Bounded 0 s₀ t := by
  obtain ⟨s₀, computed, reached⟩ := (Option.any_eq_true ..).mp (show
    (exec System.step .start lossHistory).any (fun s₀ =>
      s₀.engine.events == [(1, .disconnected false)] &&
      (System.step s₀ (.deliver quietEnv)).any fun s =>
        (exec System.step s [.app (.timer 1) false]).any fun t =>
          callsSince 0 s₀ t == [3000]) = true by decide +kernel)
  simp only [Bool.and_eq_true, beq_iff_eq] at reached
  obtain ⟨queue, reached⟩ := reached
  obtain ⟨s, delivered, reached⟩ := (Option.any_eq_true ..).mp reached
  obtain ⟨before, lost⟩ := lost_of_lossHistory computed
  obtain ⟨t, rest, called⟩ := reaches_of_exec
    (fun s action => Unattended 0 s action ∧ CountsAttempts 0 s₀ s action)
    (by simp [Unattended, CountsAttempts]) reached
  have counts : CountsAttempts 0 s₀ s₀ (.deliver quietEnv) := by
    intro cid event others rt oldest _ _ _
    rw [queue] at oldest
    cases oldest
    simp [attemptOf, scheduledSince, scheduledDelays]
  have run := Run.cons (a := System.Action.deliver quietEnv) ⟨trivial, counts⟩ delivered rest
  exact ⟨s₀, t, before, lost, run, by simpa using called, reconnection_is_bounded before lost run⟩

/-- An automatic attempt of session `cid` opens session `cid + 1` and fails. -/
def failingAttempt (cid : ConnectionId) (channel : Option String) : List System.Action :=
  [.app (.timer cid) false,
    .accept ⟨cid, { exampleRequest with channel := channel }, .timer cid 3000, 0⟩,
    .engine (.fail (cid + 1) "timeout" true), .deliver quietEnv]

/-- Every failed attempt is the first of its connection id, so there is a seventh. -/
theorem attempts_are_not_bounded :
    ¬ ∀ (history actions : List System.Action) (s₀ t : System) (cid : ConnectionId)
      (chain : ChainId), Run System.step anyStep .start history s₀ → Lost s₀ cid chain →
      Run System.step (Unattended chain) s₀ actions t → Bounded chain s₀ t := by
  intro claimed
  let actions : List System.Action :=
    .deliver quietEnv :: ([1, 2, 3, 4, 5, 6, 7].map fun cid => failingAttempt cid (some "")).flatten
  obtain ⟨s₀, computed, reached⟩ := (Option.any_eq_true ..).mp (show
    (exec System.step .start lossHistory).any (fun s₀ =>
      (exec System.step s₀ actions).any fun t => (callsSince 0 s₀ t).length == 7) = true by
    decide +kernel)
  obtain ⟨before, lost⟩ := lost_of_lossHistory computed
  obtain ⟨t, run, called⟩ := reaches_of_exec (Unattended 0)
    (by simp [actions, failingAttempt, Unattended, ReconnectPolicy.nonRetryableKinds]) reached
  have bounded := (claimed lossHistory actions s₀ t 1 0 before lost run).attempts
  simp only [beq_iff_eq] at called
  simp [called, ReconnectPolicy.maxAttempts] at bounded

end Nek0.Guarantees
