import Nek0.Guarantees.StopIsFinal
import Nek0.Library.AtMostOne
import Nek0.Source.SystemEffects

/-!
# No duplicate sessions

A chain is one connect request of the user with all its retries. What may still
become a session of a chain is a token of it: a call of `connect` in flight, an
engine session that has not ended or whose end the app has not handled, and an
armed timer. Connecting, failing, scheduling and firing pass the one token of a
chain on. Only a retry by hand or by the return of the network makes a token out
of a record, so the bound is kept as long as the record has no other token beside
it.
-/

namespace Nek0.Guarantees

open Nek0.Source Nek0.Source.Notifier Nek0.Library

inductive Token where
  | call (call : ConnectCall)
  | session (cid : ConnectionId)
  | timer (cid : ConnectionId)

/-- The tokens of a chain. -/
def Holds (s : System) (chain : ChainId) : Token → Prop
  | .call call => call ∈ s.app.inFlight ∧ call.chain = chain
  | .session cid =>
    s.engine.chainAt cid = some chain ∧
      (0 < s.engine.openWeight cid ∨
        (s.app.rt.find cid).isSome = true ∧ 0 < s.engine.pendingEnds cid)
  | .timer cid => ∃ rt, s.app.rt.find cid = some rt ∧ rt.chain = chain ∧
      rt.reconnectTimer.isSome = true

/-- An engine session or attempt that has not ended, of a chain. -/
def Live (s : System) (chain : ChainId) (cid : ConnectionId) : Prop :=
  s.engine.chainAt cid = some chain ∧ 0 < s.engine.openWeight cid

/-- At most one engine session or attempt of every chain is live. -/
def NoDuplicates (s : System) : Prop := AtMostOne Set.univ (Live s)

/-- The retried record has nothing of its chain beside its own timer. -/
def Alone (watched : Set ChainId) (s : System) (cid : ConnectionId) : Prop :=
  ∀ rt, s.app.rt.find cid = some rt → rt.chain ∈ watched →
    ∀ token, Holds s rt.chain token → token = .timer cid

/-- A retry, by hand or by the return of the network, starts from records that
have nothing live or pending of their chain beside them. -/
def RetriesAlone (watched : Set ChainId) (s : System) : System.Action → Prop
  | .app (.retryNow cid) _ => Alone watched s cid
  | .app (.network status) _ =>
    s.app.network.available = false → status.available = true →
      (∀ cid, Waits s.app cid → Alone watched s cid) ∧
      ∀ cid other rt after, Waits s.app cid → Waits s.app other →
        s.app.rt.find cid = some rt → s.app.rt.find other = some after → rt.chain ∈ watched →
        rt.chain = after.chain → cid = other
  | _ => True

/-- Ids, tickets and chains are given out in order, records belong to the chain of
their engine session, and no session with a record ends twice. -/
structure Consistent (s : System) : Prop where
  chains : ∀ cid rt, s.app.rt.find cid = some rt → s.engine.chainAt cid = some rt.chain
  known : ∀ cid chain, s.engine.chainAt cid = some chain →
    cid < s.engine.nextConnectionId ∧ chain < s.app.connectCalls.length
  positive : 0 < s.engine.nextConnectionId
  calls : s.app.inFlight.Nodup
  tickets : ∀ call ∈ s.app.inFlight,
    call.ticket < s.app.connectCalls.length ∧ call.chain < s.app.connectCalls.length
  weights : ∀ cid, (s.app.rt.find cid).isSome = true → s.engine.weight cid ≤ 1
  events : ∀ cid event, (cid, event) ∈ s.engine.events → (s.engine.sessions cid).isSome = true
  idle : s.app.native = []

/-- Sessions were only removed and ended. -/
structure Evolves (s t : System) : Prop where
  rt : ∀ cid after, t.app.rt.find cid = some after →
    ∃ before, s.app.rt.find cid = some before ∧ after.chain = before.chain
  ages : Engine.Ages (fun cid => t.app.rt.find cid = none) s.engine t.engine

theorem Evolves.present {s t : System} (evolves : Evolves s t) {cid : ConnectionId}
    (present : (t.app.rt.find cid).isSome = true) : (s.app.rt.find cid).isSome = true := by
  obtain ⟨after, found⟩ := Option.isSome_iff_exists.mp present
  obtain ⟨before, foundBefore, _⟩ := evolves.rt cid after found
  simp [foundBefore]

theorem Evolves.weight_le {s t : System} (evolves : Evolves s t) {cid : ConnectionId}
    (present : (t.app.rt.find cid).isSome = true) : t.engine.weight cid ≤ s.engine.weight cid := by
  refine evolves.ages.weight cid fun absent => ?_
  simp [absent] at present

/-- Sessions that hold a token held it before. -/
theorem Evolves.session {s t : System} (evolves : Evolves s t) {chain : ChainId}
    {cid : ConnectionId} (held : Holds t chain (.session cid)) : Holds s chain (.session cid) := by
  obtain ⟨chained, held⟩ := held
  refine ⟨by rw [← evolves.ages.chainAt, chained], ?_⟩
  rcases held with alive | ⟨present, pending⟩
  · exact .inl (lt_of_lt_of_le alive (evolves.ages.openWeight cid))
  · have lighter := evolves.weight_le present
    simp only [Engine.weight] at lighter
    by_cases alive : 0 < s.engine.openWeight cid
    · exact .inl alive
    · exact .inr ⟨evolves.present present, by omega⟩

/-- Only the calls in flight have to be looked at to keep things in order. -/
theorem Evolves.consistent {s t : System} (evolves : Evolves s t) (consistent : Consistent s)
    (longer : s.app.connectCalls.length ≤ t.app.connectCalls.length)
    (calls : t.app.inFlight.Nodup)
    (tickets : ∀ call ∈ t.app.inFlight,
      call.ticket < t.app.connectCalls.length ∧ call.chain < t.app.connectCalls.length)
    (idle : t.app.native = []) : Consistent t where
  chains cid after found := by
    obtain ⟨before, foundBefore, sameChain⟩ := evolves.rt cid after found
    rw [evolves.ages.chainAt, consistent.chains cid before foundBefore, sameChain]
  known cid chain chained := by
    rw [evolves.ages.next]
    rw [evolves.ages.chainAt] at chained
    exact (consistent.known cid chain chained).imp_right (lt_of_lt_of_le · longer)
  positive := evolves.ages.next ▸ consistent.positive
  calls := calls
  tickets := tickets
  weights cid present :=
    (evolves.weight_le present).trans (consistent.weights cid (evolves.present present))
  events cid event pending := by
    refine Engine.isSome_sessions_of_chainAt (evolves.ages.chainAt cid).symm ?_
    exact (evolves.ages.events cid event pending).elim (consistent.events cid event) id
  idle := idle

/-- Timers were only cancelled besides. -/
structure Descends (s t : System) : Prop where
  rt : ∀ cid after, t.app.rt.find cid = some after →
    ∃ before, s.app.rt.find cid = some before ∧ Follows after before
  ages : Engine.Ages (fun cid => t.app.rt.find cid = none) s.engine t.engine

theorem Descends.evolves {s t : System} (descends : Descends s t) : Evolves s t :=
  ⟨fun cid after found =>
    let ⟨before, foundBefore, follows⟩ := descends.rt cid after found
    ⟨before, foundBefore, follows.1⟩, descends.ages⟩

theorem Descends.timer {s t : System} (descends : Descends s t) {chain : ChainId}
    {cid : ConnectionId} (held : Holds t chain (.timer cid)) : Holds s chain (.timer cid) := by
  obtain ⟨after, found, chained, armed⟩ := held
  obtain ⟨before, foundBefore, follows⟩ := descends.rt cid after found
  exact ⟨before, foundBefore, by rw [← follows.1, chained], follows.armed armed⟩

/-- The engine executes what a quiet step of the app has called. -/
theorem descends_settle {s : System} (consistent : Consistent s) {app : Notifier}
    {engine : Engine} (quiet : Quiet s.app app)
    (ages : Engine.Ages (fun cid => app.rt.find cid = none) s.engine engine) (reported : Bool) :
    Descends s (System.settle app engine reported) := by
  refine ⟨quiet.rt, ages.trans (engine.ages_execute reported app.native fun cid called => ?_)⟩
  rcases quiet.cancels cid called with earlier | absent
  · rw [consistent.idle] at earlier
    cases earlier
  · exact absent

/-- Steps that call nothing keep everything in order. -/
theorem Consistent.quiet {s : System} (consistent : Consistent s) {app : Notifier}
    {engine : Engine} (quiet : Quiet s.app app)
    (ages : Engine.Ages (fun cid => app.rt.find cid = none) s.engine engine) (reported : Bool) :
    Consistent (System.settle app engine reported) := by
  have sameCalls : (System.settle app engine reported).app.connectCalls = s.app.connectCalls :=
    quiet.connectCalls
  have sameFlight : (System.settle app engine reported).app.inFlight = s.app.inFlight :=
    quiet.inFlight
  refine (descends_settle consistent quiet ages reported).evolves.consistent consistent
    (by rw [sameCalls]) (sameFlight ▸ consistent.calls) (fun call inside => ?_) rfl
  rw [sameCalls]
  exact consistent.tickets call (sameFlight ▸ inside)

variable {watched : Set ChainId}

theorem holds_quiet {s : System} (consistent : Consistent s) (unique : AtMostOne watched (Holds s))
    {app : Notifier} {engine : Engine} (quiet : Quiet s.app app)
    (ages : Engine.Ages (fun cid => app.rt.find cid = none) s.engine engine) (reported : Bool) :
    AtMostOne watched (Holds (System.settle app engine reported)) := by
  have descends := descends_settle consistent quiet ages reported
  refine unique.mono fun chain token held => ?_
  cases token with
  | call call => exact ⟨quiet.inFlight ▸ held.1, held.2⟩
  | session cid => exact descends.evolves.session held
  | timer cid => exact descends.timer held

/-- Everything is in order and every chain has at most one token. -/
def Sound (watched : Set ChainId) (s : System) : Prop := Consistent s ∧ AtMostOne watched (Holds s)

theorem Sound.quiet {s : System} (sound : Sound watched s) {app : Notifier} {engine : Engine}
    (quiet : Quiet s.app app)
    (ages : Engine.Ages (fun cid => app.rt.find cid = none) s.engine engine) (reported : Bool) :
    Sound watched (System.settle app engine reported) :=
  ⟨sound.1.quiet quiet ages reported, holds_quiet sound.1 sound.2 quiet ages reported⟩

theorem settle_of_idle {app : Notifier} {engine : Engine} (idle : app.native = [])
    (reported : Bool) : System.settle app engine reported = ⟨app, engine⟩ := by
  simp only [System.settle, idle, List.foldl_nil]
  rw [← idle]

/-- Where the app has called nothing, the engine has nothing to execute. -/
theorem Sound.settle {app : Notifier} {engine : Engine} (sound : Sound watched ⟨app, engine⟩)
    (reported : Bool) : Sound watched (System.settle app engine reported) := by
  rw [settle_of_idle sound.1.idle]
  exact sound

theorem descends_calls {s : System} {app : Notifier} {call : ConnectCall}
    (calls : Calls s.app app call) : Descends s ⟨app, s.engine⟩ :=
  ⟨calls.rt, .refl s.engine⟩

/-- A new call is in order when its chain is known or its own ticket. -/
theorem Consistent.calls_next {s : System} (consistent : Consistent s) {app : Notifier}
    {call : ConnectCall} (calls : Calls s.app app call)
    (chain : call.chain ≤ s.app.connectCalls.length) : Consistent ⟨app, s.engine⟩ := by
  have longer : app.connectCalls.length = s.app.connectCalls.length + 1 := by
    simp [calls.connectCalls]
  refine (descends_calls calls).evolves.consistent consistent (longer ▸ Nat.le_succ _) ?_
    (fun made inside => ?_) (calls.native.trans consistent.idle)
  · rw [calls.inFlight]
    refine consistent.calls.append (List.nodup_singleton call) ?_
    intro made inside now
    have old := (consistent.tickets made inside).1
    rw [List.mem_singleton.mp now, calls.ticket] at old
    omega
  · rw [calls.inFlight, List.mem_append, List.mem_singleton] at inside
    change made.ticket < app.connectCalls.length ∧ made.chain < app.connectCalls.length
    rw [longer]
    rcases inside with earlier | rfl
    · exact (consistent.tickets made earlier).imp Nat.lt_succ_of_lt Nat.lt_succ_of_lt
    · exact ⟨calls.ticket ▸ Nat.lt_succ_self _, Nat.lt_succ_of_le chain⟩

/-- The only new token is the call itself. -/
theorem holds_calls {s : System} {app : Notifier} {call : ConnectCall}
    (calls : Calls s.app app call) {chain : ChainId} {token : Token}
    (held : Holds ⟨app, s.engine⟩ chain token) :
    Holds s chain token ∨ chain = call.chain ∧ token = .call call := by
  have descends := descends_calls calls
  cases token with
  | call made =>
    obtain ⟨inside, chained⟩ := held
    rw [calls.inFlight, List.mem_append, List.mem_singleton] at inside
    rcases inside with earlier | rfl
    · exact .inl ⟨earlier, chained⟩
    · exact .inr ⟨chained.symm, rfl⟩
  | session cid => exact .inl (descends.evolves.session held)
  | timer cid => exact .inl (descends.timer held)

/-- A call on behalf of a session takes the place of its timer. -/
theorem unique_repeatConnect {s : System} {cid : ConnectionId} {rt : SessionRuntime}
    (unique : AtMostOne watched (Holds s)) (request : ConnectRequest) (origin : Origin)
    (only : rt.chain ∈ watched → ∀ token, Holds s rt.chain token → token = .timer cid) :
    AtMostOne watched (Holds ⟨s.app.repeatConnect cid request origin rt.chain, s.engine⟩) := by
  have calls := calls_repeatConnect s.app cid request origin rt.chain
  refine unique.claim (.timer cid) (.call (s.app.nextCall request origin (some rt.chain))) only
    fun chain token held => ?_
  rcases holds_calls calls held with earlier | ⟨chained, new⟩
  · refine .inl ⟨?_, earlier⟩
    rintro rfl
    obtain ⟨after, found, _, armed⟩ := held
    have gone : (s.app.repeatConnect cid request origin rt.chain).timerOf cid = none := by simp
    rw [← timerOf_of_find found, gone] at armed
    cases armed
  · exact .inr ⟨chained, new⟩

theorem Consistent.repeatConnect {s : System} (consistent : Consistent s) {cid : ConnectionId}
    {rt : SessionRuntime} (found : s.app.rt.find cid = some rt) (request : ConnectRequest)
    (origin : Origin) :
    Consistent ⟨s.app.repeatConnect cid request origin rt.chain, s.engine⟩ := by
  refine consistent.calls_next (calls_repeatConnect s.app cid request origin rt.chain) ?_
  exact (consistent.known cid rt.chain (consistent.chains cid rt found)).2.le

/-- Retrying a record that has nothing of its chain beside it. -/
theorem sound_retryNow {s : System} {cid : ConnectionId} (sound : Sound watched s)
    (alone : Alone watched s cid) : Sound watched ⟨s.app.retryNow cid, s.engine⟩ := by
  rcases s.app.retryNow_cases cid with same | ⟨rt, request, found, _, called⟩
  · rwa [same]
  · rw [called]
    exact ⟨sound.1.repeatConnect found _ _, unique_repeatConnect sound.2 _ _ (alone rt found)⟩

theorem find_retryNow_of_ne (s : Notifier) {cid other : ConnectionId} (different : other ≠ cid) :
    (s.retryNow cid).rt.find other = s.rt.find other := by
  rcases s.retryNow_cases cid with same | ⟨rt, request, _, _, called⟩
  · rw [same]
  · rw [called, find_repeatConnect_of_ne _ _ _ _ different]

/-- Retrying one session leaves the waiting sessions of other chains alone. -/
theorem alone_retryNow {s : System} {cid other : ConnectionId} {rt : SessionRuntime}
    (found : s.app.rt.find cid = some rt) (different : other ≠ cid) (alone : Alone watched s other)
    (apart : ∀ after, s.app.rt.find other = some after → rt.chain ∈ watched →
      rt.chain ≠ after.chain) :
    Alone watched ⟨s.app.retryNow cid, s.engine⟩ other := by
  intro after foundAfter inside token held
  rw [find_retryNow_of_ne s.app different] at foundAfter
  rcases s.app.retryNow_cases cid with same | ⟨before, request, foundBefore, _, called⟩
  · rw [same] at held
    exact alone after foundAfter inside token held
  · rw [called] at held
    rcases holds_calls (calls_repeatConnect ..) held with earlier | ⟨chained, _⟩
    · exact alone after foundAfter inside token earlier
    · rw [found] at foundBefore
      cases foundBefore
      have sameChain : rt.chain = after.chain := chained.symm
      exact absurd sameChain (apart after foundAfter (sameChain ▸ inside))

/-- The network returns: the sessions that wait are retried one after the other,
each in a chain of its own. -/
theorem sound_retryAll {engine : Engine} {app : Notifier} (cids : List ConnectionId)
    (sound : Sound watched ⟨app, engine⟩) (distinct : cids.Nodup)
    (alone : ∀ cid ∈ cids, Waits app cid → Alone watched ⟨app, engine⟩ cid)
    (apart : ∀ cid ∈ cids, ∀ other ∈ cids, ∀ rt after, Waits app cid → Waits app other →
      app.rt.find cid = some rt → app.rt.find other = some after → rt.chain ∈ watched →
      rt.chain = after.chain → cid = other) :
    Sound watched ⟨cids.foldl retryWaiting app, engine⟩ := by
  induction cids generalizing app with
  | nil => exact sound
  | cons cid rest ih =>
    obtain ⟨fresh, distinctRest⟩ := List.nodup_cons.mp distinct
    simp only [List.forall_mem_cons] at alone apart
    rw [List.foldl_cons, retryWaiting]
    split
    next waiting =>
      cases found : app.rt.find cid with
      | none =>
        have idle : app.retryNow cid = app := by simp [Notifier.retryNow, found]
        rw [idle]
        exact ih sound distinctRest alone.2 fun one inside => (apart.2 one inside).2
      | some rt =>
        have waits : Waits app cid := ⟨by simp [found], waiting⟩
        have still : ∀ other ∈ rest, Waits (app.retryNow cid) other → Waits app other :=
          fun other inside later => by
            by_contra rests
            refine not_waits_retryNow rests (fun same => fresh ?_) later
            rw [same]
            exact inside
        have differs : ∀ other ∈ rest, other ≠ cid := fun other inside same => fresh (same ▸ inside)
        refine ih (sound_retryNow sound (alone.1 waits)) distinctRest
          (fun other inside later => ?_) (fun one inside other inside' before after later later'
            foundOne foundOther => ?_)
        · refine alone_retryNow found (differs other inside)
            (alone.2 other inside (still other inside later))
            fun after foundAfter watches sameChain => ?_
          exact differs other inside (apart.1.2 other inside rt after waits
            (still other inside later) found foundAfter watches sameChain).symm
        · rw [find_retryNow_of_ne _ (differs one inside)] at foundOne
          rw [find_retryNow_of_ne _ (differs other inside')] at foundOther
          exact (apart.2 one inside).2 other inside' before after (still one inside later)
            (still other inside' later') foundOne foundOther
    next => exact ih sound distinctRest alone.2 fun one inside => (apart.2 one inside).2

/-! ## Delivering events -/

/-- Polling an event takes it out of the queue. -/
theorem pendingEnds_pop {e : Engine} {cid : ConnectionId} {event : TsEngineEvent}
    {rest : List (ConnectionId × TsEngineEvent)} (queue : e.events = (cid, event) :: rest)
    (queried : ConnectionId) :
    e.pendingEnds queried = (e.leave rest).pendingEnds queried +
      if cid = queried ∧ event.isTerminal = true then 1 else 0 := by
  simp [Engine.pendingEnds, Engine.leave, queue, List.countP_cons]

theorem ages_pop {exempt : ConnectionId → Prop} {e : Engine} {cid : ConnectionId}
    {event : TsEngineEvent} {rest : List (ConnectionId × TsEngineEvent)}
    (queue : e.events = (cid, event) :: rest) :
    Engine.Ages exempt e (e.leave rest) := by
  refine ⟨rfl, fun _ => rfl, fun _ => le_refl _, fun queried _ => ?_,
    fun queried entry pending => .inl (queue ▸ List.mem_cons_of_mem _ pending)⟩
  have same : (e.leave rest).openWeight queried = e.openWeight queried := rfl
  rw [Engine.weight, Engine.weight, same, pendingEnds_pop queue]
  omega

theorem isTerminal_of_reconnects {s : Notifier} {cid : ConnectionId} {event : TsEngineEvent}
    (answers : s.reconnects cid event = true) : event.isTerminal = true := by
  unfold reconnects at answers
  split at answers
  · simp at answers
  · cases event <;> first | rfl | simp at answers

theorem evolves_arms {s : System} {app : Notifier} {cid : ConnectionId} {chain : ChainId}
    {timer : ReconnectTimer} {engine : Engine} (arms : Arms s.app app cid chain timer)
    (ages : Engine.Ages (fun cid => app.rt.find cid = none) s.engine engine) :
    Evolves s ⟨app, engine⟩ := by
  refine ⟨fun queried after found => ?_, ages⟩
  obtain ⟨before, armed, foundBefore, chained, _, _, foundAfter, sameChain, _⟩ := arms.armed
  by_cases same : queried = cid
  · subst same
    obtain rfl : armed = after := by simpa [foundAfter] using found
    exact ⟨before, foundBefore, by rw [sameChain, chained]⟩
  · obtain ⟨earlier, foundEarlier, follows⟩ := arms.others queried after same found
    exact ⟨earlier, foundEarlier, follows.1⟩

/-- The end of a session that the app answers with an armed timer. -/
theorem unique_arms {s : System} (consistent : Consistent s) (unique : AtMostOne watched (Holds s))
    {app : Notifier} {cid : ConnectionId} {event : TsEngineEvent} {chain : ChainId}
    {timer : ReconnectTimer} {rest : List (ConnectionId × TsEngineEvent)}
    (queue : s.engine.events = (cid, event) :: rest) (ends : event.isTerminal = true)
    (arms : Arms s.app app cid chain timer) :
    AtMostOne watched (Holds ⟨app, s.engine.leave rest⟩) := by
  have evolves := evolves_arms arms (ages_pop queue)
  obtain ⟨before, armed, foundBefore, chained, _, _, foundAfter, sameChain, _⟩ := arms.armed
  have popped := pendingEnds_pop queue cid
  have present : (s.app.rt.find cid).isSome = true := by simp [foundBefore]
  simp only [ends, and_self, if_true] at popped
  have given : Holds s chain (.session cid) :=
    ⟨chained ▸ consistent.chains cid before foundBefore, .inr ⟨present, by omega⟩⟩
  have ended : ∀ other, ¬ Holds ⟨app, s.engine.leave rest⟩ other (.session cid) := by
    rintro other ⟨_, held⟩
    have light := consistent.weights cid present
    have sameOpen : (s.engine.leave rest).openWeight cid =
      s.engine.openWeight cid := rfl
    simp only [Engine.weight] at light
    rcases held with alive | ⟨_, pending⟩
    · rw [sameOpen] at alive
      omega
    · have pending : 0 < (s.engine.leave rest).pendingEnds cid := pending
      omega
  refine unique.pass (.session cid) (.timer cid) given fun other token held => ?_
  cases token with
  | call call => exact .inl ⟨by rintro ⟨⟩, arms.inFlight ▸ held.1, held.2⟩
  | session queried =>
    refine .inl ⟨?_, evolves.session held⟩
    rintro ⟨⟩
    exact ended other held
  | timer queried =>
    obtain ⟨after, found, chainedAfter, isArmed⟩ := held
    by_cases same : queried = cid
    · subst same
      obtain rfl : armed = after := by simpa [foundAfter] using found
      exact .inr ⟨by rw [← chainedAfter, sameChain], rfl⟩
    · obtain ⟨earlier, foundEarlier, follows⟩ := arms.others queried after same found
      exact .inl ⟨by rintro ⟨⟩, earlier, foundEarlier, by rw [← follows.1, chainedAfter],
        follows.armed isArmed⟩

theorem sound_deliver {s : System} (sound : Sound watched s) {cid : ConnectionId}
    {event : TsEngineEvent} {rest : List (ConnectionId × TsEngineEvent)}
    (queue : s.engine.events = (cid, event) :: rest)
    (env : Ambient) :
    Sound watched (System.settle (s.app.handleEvent cid event env) (s.engine.leave rest) false) := by
  rcases s.app.handleEvent_cases cid event env with quiet | ⟨answers, chain, request, arms⟩
  · exact sound.quiet quiet (ages_pop queue) false
  · refine Sound.settle ⟨(evolves_arms arms (ages_pop queue)).consistent sound.1 ?_ ?_ ?_
      (arms.native.trans sound.1.idle),
      unique_arms sound.1 sound.2 queue (isTerminal_of_reconnects answers) arms⟩ false
    · rw [arms.connectCalls]
    · exact arms.inFlight ▸ sound.1.calls
    · simp only [arms.inFlight, arms.connectCalls]
      exact sound.1.tickets

/-! ## Reaching the engine -/

/-- The next id has not been given out. -/
theorem Consistent.unused {s : System} (consistent : Consistent s) :
    s.engine.sessions s.engine.nextConnectionId = none := by
  cases found : s.engine.sessions s.engine.nextConnectionId with
  | none => rfl
  | some session =>
    have given := (consistent.known s.engine.nextConnectionId session.chain
      (by simp [Engine.chainAt, found])).1
    exact absurd given (lt_irrefl _)

/-- No event waits for the next id. -/
theorem Consistent.silent {s : System} (consistent : Consistent s) :
    s.engine.pendingEnds s.engine.nextConnectionId = 0 := by
  refine List.countP_eq_zero.mpr fun entry pending => ?_
  have known := consistent.events entry.1 entry.2 pending
  have unused := consistent.unused
  intro counted
  simp only [Bool.and_eq_true, decide_eq_true_eq] at counted
  simp [counted.1, unused] at known

/-- A call that reaches the engine becomes the session it opens. -/
theorem sound_accept {s : System} (sound : Sound watched s) {call : ConnectCall}
    (inside : call ∈ s.app.inFlight) :
    Sound watched (System.settle (s.app.completeConnect call (some s.engine.nextConnectionId))
      (s.engine.openSession call.chain) false) := by
  obtain ⟨consistent, unique⟩ := sound
  rcases s.app.completeConnect_cases call (some s.engine.nextConnectionId) with
    ⟨refused, _⟩ | ⟨new, accepted, _, flight, calls, _, native, _, inserted, _⟩
  · exact absurd (refused _ rfl) consistent.positive.ne'
  · obtain rfl : s.engine.nextConnectionId = new := by simpa using accepted
    generalize s.app.completeConnect call (some s.engine.nextConnectionId) = app at *
    refine Sound.settle ⟨⟨fun cid rt found => ?_, fun cid chain chained => ?_, Nat.succ_pos _, ?_,
      fun made left => ?_, fun cid present => ?_, fun cid event pending => ?_,
      native.trans consistent.idle⟩,
      unique.pass (.call call) (.session s.engine.nextConnectionId)
        ⟨inside, rfl⟩ fun chain token held => ?_⟩ false
    · change app.rt.find cid = some rt at found
      rw [inserted, LinkedMap.find_insert] at found
      rw [Engine.chainAt_openSession]
      split at found
      next same =>
        cases found
        simp [same]
      next different =>
        rw [if_neg different]
        exact consistent.chains cid rt found
    · rw [Engine.chainAt_openSession] at chained
      change cid < s.engine.nextConnectionId + 1 ∧ chain < app.connectCalls.length
      rw [calls]
      split at chained
      next same =>
        cases chained
        exact ⟨same ▸ Nat.lt_succ_self _, (consistent.tickets call inside).2⟩
      next => exact (consistent.known cid chain chained).imp_left Nat.lt_succ_of_lt
    · exact flight ▸ consistent.calls.erase _
    · change made.ticket < app.connectCalls.length ∧ made.chain < app.connectCalls.length
      rw [calls]
      exact consistent.tickets made (List.mem_of_mem_erase (flight ▸ left))
    · change (app.rt.find cid).isSome = true at present
      rw [inserted, LinkedMap.find_insert] at present
      rw [Engine.weight, Engine.openWeight_openSession, Engine.pendingEnds_openSession]
      split
      next same => rw [same, consistent.silent]
      next different =>
        rw [if_neg different] at present
        exact consistent.weights cid present
    · have known := consistent.events cid event pending
      by_cases same : cid = s.engine.nextConnectionId
      · simp [Engine.openSession, same]
      · simpa [Engine.openSession, same] using known
    · cases token with
      | call made =>
        obtain ⟨left, chained⟩ := held
        rw [flight, consistent.calls.mem_erase_iff] at left
        exact .inl ⟨by simpa using left.1, left.2, chained⟩
      | session cid =>
        obtain ⟨chained, held⟩ := held
        rw [Engine.chainAt_openSession] at chained
        split at chained
        next same =>
          cases chained
          exact .inr ⟨rfl, by rw [same]⟩
        next different =>
          rw [Engine.openWeight_openSession, if_neg different, Engine.pendingEnds_openSession,
            inserted, LinkedMap.find_insert_of_ne _ _ different] at held
          exact .inl ⟨by rintro ⟨⟩, chained, held⟩
      | timer cid =>
        obtain ⟨rt, found, chained, armed⟩ := held
        change app.rt.find cid = some rt at found
        rw [inserted, LinkedMap.find_insert] at found
        split at found
        next =>
          cases found
          cases armed
        next => exact .inl ⟨by rintro ⟨⟩, rt, found, chained, armed⟩

/-- A call that ends without a session. -/
theorem sound_refuse {s : System} (sound : Sound watched s) (call : ConnectCall) :
    Sound watched ⟨s.app.completeConnect call none, s.engine⟩ := by
  obtain ⟨consistent, unique⟩ := sound
  have refused : s.app.completeConnect call none = { s.app with
    inFlight := s.app.inFlight.erase call } := rfl
  rw [refused]
  refine ⟨⟨consistent.chains, consistent.known, consistent.positive, consistent.calls.erase _,
    fun made left => consistent.tickets made (List.mem_of_mem_erase left), consistent.weights,
    consistent.events, consistent.idle⟩, unique.mono fun chain token held => ?_⟩
  cases token with
  | call made => exact ⟨List.mem_of_mem_erase held.1, held.2⟩
  | session cid => exact held
  | timer cid => exact held

/-! ## Whole runs -/

/-- A call of the user starts a chain that nothing belongs to yet. -/
theorem sound_connect {s : System} (sound : Sound watched s) (request : ConnectRequest) :
    Sound watched ⟨s.app.connect request .user none, s.engine⟩ := by
  obtain ⟨consistent, unique⟩ := sound
  have calls := s.app.calls_connect request
  have unclaimed : ∀ token, ¬ Holds s s.app.connectCalls.length token := by
    intro token held
    cases token with
    | call made => exact absurd held.2 (consistent.tickets made held.1).2.ne
    | session cid => exact absurd (consistent.known cid _ held.1).2 (lt_irrefl _)
    | timer cid =>
      obtain ⟨rt, found, chained, _⟩ := held
      exact absurd chained (consistent.known cid rt.chain (consistent.chains cid rt found)).2.ne
  exact ⟨consistent.calls_next calls le_rfl,
    unique.fresh unclaimed fun chain token held => holds_calls calls held⟩

theorem sound_network {s : System} (sound : Sound watched s) {status : NetworkStatus}
    {reported : Bool}
    (alone : RetriesAlone watched s (.app (.network status) reported)) :
    Sound watched (System.settle (s.app.onNetworkChanged status) s.engine reported) := by
  have noted := s.app.quiet_noteNetwork status
  unfold onNetworkChanged
  dsimp only
  split
  · exact sound.quiet (noted.trans (quiet_foldl quiet_dropForHandover _ _)) (.refl _) reported
  · split
    · exact sound.quiet (noted.trans (quiet_foldl quiet_stopCountdown _ _)) (.refl _) reported
    next up =>
      split
      next down =>
        obtain ⟨each, apart⟩ := alone (by simpa using down) (by simpa using up)
        have idle : (s.app.noteNetwork status).native = [] := sound.1.idle
        have now : Sound watched ⟨s.app.noteNetwork status, s.engine⟩ := by
          rw [← settle_of_idle idle reported]
          exact sound.quiet noted (.refl _) reported
        exact (sound_retryAll s.app.rt.keys now s.app.rt.nodup (fun cid _ => each cid)
          (fun cid _ other _ rt after => apart cid other rt after)).settle reported
      · exact sound.quiet noted (.refl _) reported

/-- A timer that fires becomes the call it makes. -/
theorem sound_timer {s : System} (sound : Sound watched s) {cid : ConnectionId}
    {rt : SessionRuntime} {timer : ReconnectTimer} (found : s.app.rt.find cid = some rt)
    (armed : rt.reconnectTimer = some timer) (reported : Bool) :
    Sound watched (System.settle (s.app.timerFired cid rt timer) s.engine reported) := by
  rcases s.app.timerFired_cases cid rt timer with silent | called
  · rw [silent]
    exact sound.quiet (quiet_cancelTimer ..) (.refl _) reported
  · have held : Holds s rt.chain (.timer cid) := ⟨rt, found, rfl, by simp [armed]⟩
    rw [called]
    exact Sound.settle ⟨sound.1.repeatConnect found _ _,
      unique_repeatConnect sound.2 _ _
        fun inside token other => sound.2 _ inside _ _ other held⟩ reported

/-- One step keeps the order of ids and the bound on tokens. -/
theorem sound_step {s t : System} {action : System.Action} (sound : Sound watched s)
    (alone : RetriesAlone watched s action) (taken : s.step action = some t) : Sound watched t := by
  cases action with
  | app action reported =>
    cases action with
    | connect request =>
      cases taken
      exact (sound_connect sound request).settle reported
    | completeConnect call reply =>
      cases reply with
      | some cid => cases taken
      | none =>
        obtain ⟨-, rfl⟩ := System.step_refused taken
        exact (sound_refuse sound call).settle reported
    | disconnect cid =>
      cases taken
      exact sound.quiet (quiet_disconnect ..) (.refl _) reported
    | cancelConnect cid =>
      cases taken
      exact sound.quiet (quiet_cancelConnect ..) (.refl _) reported
    | retryNow cid =>
      cases taken
      exact (sound_retryNow sound alone).settle reported
    | setAutoReconnect cid enabled =>
      cases taken
      exact sound.quiet (quiet_setAutoReconnect ..) (.refl _) reported
    | loadReconnectPreference =>
      cases taken
      exact sound.quiet (quiet_loadReconnectPreference s.app) (.refl _) reported
    | timer cid =>
      obtain ⟨rt, timer, found, armed, rfl⟩ := System.step_timer taken
      exact sound_timer sound found armed reported
    | network status =>
      cases taken
      exact sound_network sound alone
    | event cid event env => cases taken
  | accept call =>
    simp only [System.step, Option.ite_none_right_eq_some, Option.some.injEq] at taken
    rw [← taken.2]
    exact sound_accept sound taken.1
  | deliver env =>
    obtain ⟨cid, event, rest, queue, rfl⟩ := System.step_deliver taken
    exact sound_deliver sound queue env
  | engine action =>
    obtain ⟨engine, moved, rfl⟩ := Option.map_eq_some_iff.mp taken
    have idle : System.settle s.app engine false = ⟨s.app, engine⟩ :=
      settle_of_idle sound.1.idle false
    change Sound watched ⟨s.app, engine⟩
    rw [← idle]
    exact sound.quiet (.refl _) (Engine.ages_step moved) false

theorem consistent_start : Consistent .start where
  chains _ _ found := nomatch found
  known _ _ chained := nomatch chained
  positive := Nat.one_pos
  calls := .nil
  tickets _ inside := nomatch inside
  weights _ present := nomatch present
  events _ _ pending := nomatch pending
  idle := rfl

theorem sound_start : Sound watched .start := by
  refine ⟨consistent_start, fun chain _ first second held => ?_⟩
  cases first with
  | call made => cases held.1
  | session cid => cases held.1
  | timer cid =>
    obtain ⟨rt, found, _⟩ := held
    cases found

/-- Without a watched chain every step keeps ids, tickets and chains in order. -/
theorem consistent_step {s t : System} {action : System.Action} (consistent : Consistent s)
    (taken : s.step action = some t) : Consistent t := by
  have alone : RetriesAlone ∅ s action := by
    cases action with
    | app action reported =>
      cases action with
      | retryNow cid => exact fun _ _ inside => inside.elim
      | network status =>
        exact fun _ _ => ⟨fun _ _ _ _ inside => inside.elim,
          fun _ _ _ _ _ _ _ _ inside => inside.elim⟩
      | _ => trivial
    | _ => trivial
  have sound : Sound ∅ s := ⟨consistent, fun _ inside => inside.elim⟩
  exact (sound_step sound alone taken).1

theorem consistent_of_run {history : List System.Action} {s : System}
    (run : Run System.step anyStep .start history s) : Consistent s :=
  run.invariant _ consistent_start fun _ _ _ consistent _ taken => consistent_step consistent taken

/-- In every run whose retries start from records that have nothing of their chain
beside them, at most one engine session or attempt of every chain is live. -/
theorem no_duplicate_sessions {actions : List System.Action} {t : System}
    (run : Run System.step (RetriesAlone Set.univ) .start actions t) : NoDuplicates t := by
  have sound : Sound Set.univ t := run.invariant _ sound_start fun _ _ _ => sound_step
  intro chain inside cid other live liveToo
  have same := sound.2 chain inside (.session cid) (.session other)
    ⟨live.1, .inl live.2⟩ ⟨liveToo.1, .inl liveToo.2⟩
  cases same
  rfl

/-- An attempt that fails and is retried by its timer. -/
def retriedHistory : List System.Action :=
  [.app (.connect exampleRequest) false, .accept ⟨0, exampleRequest, .user, 0⟩,
    .engine (.fail 1 "timeout" true), .deliver quietEnv, .app (.timer 1) false,
    .accept ⟨1, exampleRequest, .timer 1 3000, 0⟩]

/-- The retried attempt is the only live one. -/
theorem no_duplicate_after_timer :
    ∃ t, Run System.step (RetriesAlone Set.univ) .start retriedHistory t ∧ Live t 0 2 ∧
      NoDuplicates t := by
  obtain ⟨t, run, live⟩ := reaches_of_exec (RetriesAlone Set.univ)
    (by simp [retriedHistory, RetriesAlone]) (show
    (exec System.step .start retriedHistory).any (fun t =>
      t.engine.chainAt 2 == some 0 && 0 < t.engine.openWeight 2) = true by decide +kernel)
  exact ⟨t, run, by simpa [Live] using live, no_duplicate_sessions run⟩

/-- While the retried attempt runs, the network goes away and returns. The record of
the failed attempt is still in the reconnecting phase and is retried once more. -/
theorem network_return_duplicates :
    ¬ ∀ (actions : List System.Action) (t : System),
      Run System.step anyStep .start actions t → NoDuplicates t := by
  intro claimed
  obtain ⟨t, run, live⟩ := reaches_of_exec anyStep (fun _ _ _ => trivial) (show
    (exec System.step .start (retriedHistory ++ [.app (.network ⟨false, "none", ""⟩) false,
      .app (.network ⟨true, "wifi", "9"⟩) false, .accept ⟨2, exampleRequest, .retry 1, 0⟩])).any
      (fun t => [2, 3].all fun cid =>
        t.engine.chainAt cid == some 0 && 0 < t.engine.openWeight cid) = true by decide +kernel)
  have both : Live t 0 2 ∧ Live t 0 3 := by simpa [Live] using live
  exact absurd (claimed _ t run 0 (Set.mem_univ 0) 2 3 both.1 both.2) (by decide)

end Nek0.Guarantees
