import Nek0.Library.Run
import Nek0.Source.SessionTabs

/-!
# Well-formed tabs

The order of the tabs and the session map have the same keys in every run, since one function
writes both and one removes from both. What may go wrong is the rest: whoever writes the record
of a session without a runtime creates a tab for it, and cancelling the selected tab leaves it
selected while others remain.
-/

namespace Nek0.Guarantees

open Nek0.Library Nek0.Source Nek0.Source.Notifier

variable {s t : Notifier} {cid : ConnectionId}

/-- `MultiServerState` and the runtime fit together. -/
structure WellFormed (s : Notifier) : Prop where
  nodup : s.order.Nodup
  keys : ∀ cid, cid ∈ s.order ↔ cid ∈ s.sessions.keys
  known : ∀ cid ∈ s.sessions.keys, cid ≠ 0 ∧ cid ∈ s.rt.keys
  selected : ∀ cid, s.selectedId = some cid → cid ∈ s.order

/-- Nothing writes the record of a session without a runtime, and the selected tab is cancelled
only as the last one. -/
def keepsTabs (s : Notifier) : TabAction → Bool
  | .table (.disconnect cid) => (s.rt.find cid).isSome
  | .table (.cancelConnect cid) => s.selectedId ≠ some cid || s.order.all (· = cid)
  | .table (.event _ (.disconnected _) _) => true
  | .table (.event cid _ _) => cid ≠ 0
  | .writeSession cid => (s.rt.find cid).isSome
  | _ => true

/-- What holds in every run. -/
structure Parallel (s : Notifier) : Prop where
  same : s.order = s.sessions.keys
  nonzero : 0 ∉ s.rt.keys

/-- Beside what holds anyway, only two things matter. -/
theorem Parallel.wellFormed_iff (parallel : Parallel s) :
    WellFormed s ↔ (∀ cid ∈ s.order, cid ∈ s.rt.keys) ∧
      ∀ cid, s.selectedId = some cid → cid ∈ s.order := by
  constructor
  · intro formed
    exact ⟨fun cid listed => (formed.known cid ((formed.keys cid).mp listed)).2, formed.selected⟩
  · rintro ⟨known, selected⟩
    refine ⟨parallel.same ▸ s.sessions.nodup, fun cid => by rw [parallel.same], ?_, selected⟩
    intro cid listed
    have runtime := known cid (parallel.same ▸ listed)
    exact ⟨fun zero => parallel.nonzero (zero ▸ runtime), runtime⟩

theorem Parallel.kept (parallel : Parallel s) (kept : Kept s t) : Parallel t where
  same := by rw [kept.order, kept.sessions, parallel.same]
  nonzero := kept.rt ▸ parallel.nonzero

theorem Parallel.wrote (parallel : Parallel s) (wrote : Wrote cid s t) : Parallel t where
  same := by rw [wrote.order, wrote.sessions, parallel.same]
  nonzero := wrote.rt ▸ parallel.nonzero

theorem wellFormed_kept (parallel : Parallel s) (formed : WellFormed s) (kept : Kept s t) :
    WellFormed t := by
  have before := parallel.wellFormed_iff.mp formed
  rw [(parallel.kept kept).wellFormed_iff, kept.order, kept.rt, kept.selectedId]
  exact before

/-- Writing a record keeps the tabs well formed if and only if the session has a runtime. -/
theorem wellFormed_wrote (parallel : Parallel s) (formed : WellFormed s) (wrote : Wrote cid s t) :
    WellFormed t ↔ cid ∈ s.rt.keys := by
  have before := parallel.wellFormed_iff.mp formed
  rw [(parallel.wrote wrote).wellFormed_iff, wrote.order, wrote.rt, wrote.selectedId]
  constructor
  · intro after
    exact after.1 cid (mem_listedWith.mpr (.inr rfl))
  · intro runtime
    refine ⟨fun listed either => ?_, fun selected chosen =>
      mem_listedWith.mpr (.inl (before.2 selected chosen))⟩
    rcases mem_listedWith.mp either with earlier | new
    · exact before.1 listed earlier
    · exact new ▸ runtime

/-- An operation that leaves the containers alone or writes sessions with a runtime. -/
def Tended (s t : Notifier) : Prop := Kept s t ∨ ∃ cid ∈ s.rt.keys, Wrote cid s t

theorem Parallel.tended (parallel : Parallel s) (tended : Tended s t) : Parallel t := by
  rcases tended with kept | ⟨_, -, wrote⟩
  · exact parallel.kept kept
  · exact parallel.wrote wrote

theorem wellFormed_tended (parallel : Parallel s) (formed : WellFormed s) (tended : Tended s t) :
    WellFormed t := by
  rcases tended with kept | ⟨_, runtime, wrote⟩
  · exact wellFormed_kept parallel formed kept
  · exact (wellFormed_wrote parallel formed wrote).mpr runtime

theorem tended_setSession (s : Notifier) {m : Notifier} (kept : Kept s m) {rt : SessionRuntime}
    (found : s.rt.find cid = some rt) (next : TsConnectionState) :
    Tended s (m.setSession cid next) :=
  .inr ⟨cid, (s.rt.mem_keys cid).mpr (by rw [found]; rfl), kept.wrote (wrote_setSession ..)⟩

theorem tended_retryNow (s : Notifier) (cid : ConnectionId) : Tended s (s.retryNow cid) := by
  unfold retryNow
  split
  · exact .inl (.refl s)
  next found =>
  split
  · exact .inl (.refl s)
  · exact tended_setSession s ((kept_cancelTimer ..).trans (kept_connect ..)) found _

theorem tended_setAutoReconnect (s : Notifier) (cid : ConnectionId) (enabled : Bool) :
    Tended s (s.setAutoReconnect cid enabled) := by
  unfold setAutoReconnect
  split
  · exact .inl (.refl s)
  next found =>
  have noted := kept_modifyRt s cid fun rt => { rt with autoReconnect := enabled }
  have stored : Kept s { s.modifyRt cid fun rt => { rt with autoReconnect := enabled } with
      autoReconnectPref := some enabled } :=
    ⟨noted.sessions, noted.order, noted.selectedId, noted.rt⟩
  cases enabled with
  | true => exact tended_setSession s stored found _
  | false => exact tended_setSession s (stored.trans (kept_cancelTimer ..)) found _

theorem tended_timerFired (s : Notifier) {rt : SessionRuntime} (found : s.rt.find cid = some rt)
    (timer : ReconnectTimer) : Tended s (s.timerFired cid rt timer) := by
  unfold timerFired
  dsimp only
  split
  · exact .inl (kept_cancelTimer ..)
  · exact tended_setSession s ((kept_cancelTimer ..).trans (kept_connect ..)) found _

theorem tended_stopCountdown (s : Notifier) (cid : ConnectionId) :
    Tended s (s.stopCountdown cid) := by
  unfold stopCountdown
  split
  · next waits =>
    simp only [Bool.and_eq_true, Option.isSome_iff_exists] at waits
    obtain ⟨⟨rt, found⟩, -⟩ := waits
    exact tended_setSession s (kept_cancelTimer ..) found _
  · exact .inl (.refl s)

theorem tended_retryWaiting (s : Notifier) (cid : ConnectionId) :
    Tended s (s.retryWaiting cid) := by
  unfold retryWaiting
  split
  · exact tended_retryNow s cid
  · exact .inl (.refl s)

theorem tended_dropForHandover (s : Notifier) (cid : ConnectionId) :
    Tended s (s.dropForHandover cid) := by
  unfold dropForHandover
  split
  · exact .inl ((kept_modifyRt ..).trans (kept_callNative ..))
  · exact .inl (.refl s)

/-- A relation that is kept by every tended step is kept by a loop of them. -/
theorem tended_foldl {holds : Notifier → Prop} {step : Notifier → ConnectionId → Notifier}
    (each : ∀ s cid, Tended s (step s cid)) (kept : ∀ s t, holds s → Tended s t → holds t)
    (cids : List ConnectionId) {s : Notifier} (start : holds s) : holds (cids.foldl step s) := by
  induction cids generalizing s with
  | nil => exact start
  | cons cid rest ih => exact ih (kept _ _ start (each s cid))

/-- What tended steps keep survives the preferences and changes of the network. -/
theorem tended_loadReconnectPreference {holds : Notifier → Prop}
    (kept : ∀ s t, holds s → Tended s t → holds t) (start : holds s) :
    holds s.loadReconnectPreference := by
  refine tended_foldl (fun s cid => ?_) kept _ start
  split
  · exact .inl (.refl s)
  · next found => exact tended_setSession s (kept_modifyRt ..) found _

theorem tended_onNetworkChanged {holds : Notifier → Prop}
    (kept : ∀ s t, holds s → Tended s t → holds t) (status : NetworkStatus) (start : holds s) :
    holds (s.onNetworkChanged status) := by
  have noted : holds (s.noteNetwork status) := kept _ _ start (.inl ⟨rfl, rfl, rfl, rfl⟩)
  unfold onNetworkChanged
  dsimp only
  split
  · exact tended_foldl tended_dropForHandover kept _ noted
  split
  · exact tended_foldl tended_stopCountdown kept _ noted
  split
  · exact tended_foldl tended_retryWaiting kept _ noted
  · exact noted

/-- A call that completes opens a session with a runtime, and nothing else. -/
theorem completeConnect_writes (s : Notifier) (call : ConnectCall) (reply : Option ConnectionId) :
    Kept s (s.completeConnect call reply) ∨ ∃ cid, cid ≠ 0 ∧
      (s.completeConnect call reply).sessions.keys = listedWith cid s.sessions.keys ∧
      (s.completeConnect call reply).order = listedWith cid s.order ∧
      (s.completeConnect call reply).rt.keys = listedWith cid s.rt.keys ∧
      (s.completeConnect call reply).selectedId = some cid := by
  unfold completeConnect
  dsimp only
  split
  · exact .inl ⟨rfl, rfl, rfl, rfl⟩
  · next cid answered =>
    obtain ⟨-, nonzero⟩ := Option.filter_eq_some_iff.mp answered
    exact .inr ⟨cid, by simpa using nonzero, rfl, rfl, rfl, rfl⟩

theorem parallel_completeConnect (parallel : Parallel s) (call : ConnectCall)
    (reply : Option ConnectionId) : Parallel (s.completeConnect call reply) := by
  rcases completeConnect_writes s call reply with kept | ⟨cid, nonzero, sessions, order, rt, -⟩
  · exact parallel.kept kept
  · refine ⟨by rw [order, sessions, parallel.same], fun listed => ?_⟩
    rw [rt, mem_listedWith] at listed
    rcases listed with earlier | new
    · exact parallel.nonzero earlier
    · exact nonzero new.symm

theorem wellFormed_completeConnect (parallel : Parallel s) (formed : WellFormed s)
    (call : ConnectCall) (reply : Option ConnectionId) :
    WellFormed (s.completeConnect call reply) := by
  rcases completeConnect_writes s call reply with kept | ⟨cid, -, -, order, rt, selected⟩
  · exact wellFormed_kept parallel formed kept
  · have before := parallel.wellFormed_iff.mp formed
    rw [(parallel_completeConnect parallel call reply).wellFormed_iff, order, rt, selected]
    refine ⟨fun listed either => ?_, fun chosen same => ?_⟩
    · rcases mem_listedWith.mp either with earlier | new
      · exact mem_listedWith.mpr (.inl (before.1 listed earlier))
      · exact mem_listedWith.mpr (.inr new)
    · exact mem_listedWith.mpr (.inr (Option.some.inj same).symm)

theorem parallel_cancelConnect (parallel : Parallel s) (cid : ConnectionId) :
    Parallel (s.cancelConnect cid) where
  same := congrArg (List.filter (· ≠ cid)) parallel.same
  nonzero listed := parallel.nonzero (List.mem_filter.mp listed).1

/-- Cancelling keeps the tabs well formed if and only if the selected one stays or none does. -/
theorem wellFormed_cancelConnect (parallel : Parallel s) (formed : WellFormed s)
    (cid : ConnectionId) : WellFormed (s.cancelConnect cid) ↔
      keepsTabs s (.table (.cancelConnect cid)) = true := by
  have before := parallel.wellFormed_iff.mp formed
  have order : (s.cancelConnect cid).order = s.order.filter (· ≠ cid) := rfl
  have rt : (s.cancelConnect cid).rt.keys = s.rt.keys.filter (· ≠ cid) := rfl
  have selected : (s.cancelConnect cid).selectedId =
      if s.order.filter (· ≠ cid) = [] then none else s.selectedId := rfl
  have known : ∀ listed ∈ s.order.filter (· ≠ cid), listed ∈ s.rt.keys.filter (· ≠ cid) := by
    intro listed stays
    obtain ⟨listed, other⟩ := List.mem_filter.mp stays
    exact List.mem_filter.mpr ⟨before.1 _ listed, other⟩
  have last : s.order.filter (· ≠ cid) = [] ↔ s.order.all (· = cid) = true := by
    simp [List.filter_eq_nil_iff]
  rw [(parallel_cancelConnect parallel cid).wellFormed_iff, order, rt, selected, keepsTabs,
    Bool.or_eq_true, ← last, decide_eq_true_eq]
  by_cases empty : s.order.filter (· ≠ cid) = []
  · refine iff_of_true ⟨known, fun chosen none => ?_⟩ (.inr empty)
    rw [if_pos empty] at none
    cases none
  · rw [if_neg empty]
    constructor
    · rintro ⟨-, stays⟩
      refine .inl fun cancelled => ?_
      simpa using (List.mem_filter.mp (stays cid cancelled)).2
    · rintro (other | none)
      · refine ⟨known, fun chosen same => List.mem_filter.mpr ⟨before.2 chosen same, ?_⟩⟩
        have stays : chosen ≠ cid := fun cancelled => other (cancelled ▸ same)
        simpa using stays
      · exact absurd none empty

theorem handleEvent_writes (s : Notifier) (cid : ConnectionId) (event : TsEngineEvent)
    (env : Ambient) : Kept s (s.handleEvent cid event env) ∨
      Wrote cid s (s.handleEvent cid event env) := by
  unfold handleEvent
  split
  · exact .inl (.refl s)
  cases event with
  | connected data => exact .inr (wrote_handleConnected ..)
  | connectionPhase phase =>
    cases connected : (s.stateOf cid).connected with
    | false => exact .inr (wrote_handleConnectionPhase s cid phase connected)
    | true =>
      have same : s.handleConnectionPhase cid phase = s := by
        simp [handleConnectionPhase, connected]
      exact .inl (by simpa only [same] using Kept.refl s)
  | connectFailed kind retryable => exact .inr (wrote_handleConnectFailed ..)
  | disconnected expected => exact (handleDisconnected_writes s cid expected env).imp id And.right
  | error => exact .inr (wrote_handleError ..)
  | rosterUpdated channels clients => exact .inr (wrote_setSession ..)
  | other => exact .inr (wrote_setSession ..)

/-- An event of the engine itself creates a session, except for a disconnect. -/
theorem handleEvent_zero (parallel : Parallel s) (formed : WellFormed s) (event : TsEngineEvent)
    (env : Ambient) : WellFormed (s.handleEvent 0 event env) ↔
      keepsTabs s (.table (.event 0 event env)) = true := by
  have unnamed : 0 ∉ s.sessions.keys := fun listed => (formed.known 0 listed).1 rfl
  have fresh : s.stateOf 0 = .new 0 := by
    have absent : s.sessions.find 0 = none := by
      simpa using fun found => unnamed ((s.sessions.mem_keys 0).mpr found)
    simp [stateOf, absent]
  have fails : ∀ t, Wrote 0 s t → ¬ WellFormed t := fun t wrote after =>
    parallel.nonzero ((wellFormed_wrote parallel formed wrote).mp after)
  have handled : ¬ ((0 : ConnectionId) ≠ 0 ∧ s.rt.find 0 = none) := fun both => both.1 rfl
  simp only [handleEvent, if_neg handled]
  cases event with
  | connected data => exact iff_of_false (fails _ (wrote_handleConnected ..)) (by simp [keepsTabs])
  | connectionPhase phase =>
    have wrote := wrote_handleConnectionPhase s 0 phase (by rw [fresh]; rfl)
    exact iff_of_false (fails _ wrote) (by simp [keepsTabs])
  | connectFailed kind retryable =>
    exact iff_of_false (fails _ (wrote_handleConnectFailed ..)) (by simp [keepsTabs])
  | disconnected expected =>
    refine iff_of_true ?_ rfl
    rcases handleDisconnected_writes s 0 expected env with kept | ⟨runtime, -⟩
    · exact wellFormed_kept parallel formed kept
    · exact absurd runtime parallel.nonzero
  | error => exact iff_of_false (fails _ (wrote_handleError ..)) (by simp [keepsTabs])
  | rosterUpdated channels clients =>
    exact iff_of_false (fails _ (wrote_setSession ..)) (by simp [keepsTabs])
  | other => exact iff_of_false (fails _ (wrote_setSession ..)) (by simp [keepsTabs])

theorem wellFormed_handleEvent (parallel : Parallel s) (formed : WellFormed s) (cid : ConnectionId)
    (event : TsEngineEvent) (env : Ambient) : WellFormed (s.handleEvent cid event env) ↔
      keepsTabs s (.table (.event cid event env)) = true := by
  by_cases zero : cid = 0
  · subst zero
    exact handleEvent_zero parallel formed event env
  · have met : keepsTabs s (.table (.event cid event env)) = true := by
      cases event <;> simp [keepsTabs, zero]
    refine iff_of_true ?_ met
    by_cases removed : s.rt.find cid = none
    · have dropped : s.handleEvent cid event env = s := by
        unfold handleEvent
        exact if_pos ⟨zero, removed⟩
      rwa [dropped]
    · have runtime : cid ∈ s.rt.keys :=
        (s.rt.mem_keys cid).mpr (Option.isSome_iff_ne_none.mpr removed)
      rcases handleEvent_writes s cid event env with kept | wrote
      · exact wellFormed_kept parallel formed kept
      · exact (wellFormed_wrote parallel formed wrote).mpr runtime

/-- A session is written only with a runtime or not at all. -/
theorem wellFormed_write (parallel : Parallel s) (formed : WellFormed s) (wrote : Wrote cid s t) :
    WellFormed t ↔ (s.rt.find cid).isSome = true := by
  rw [wellFormed_wrote parallel formed wrote, s.rt.mem_keys]

theorem tended_closeSession (s : Notifier) (cid : ConnectionId) :
    Tended s (s.closeSession cid) := by
  unfold closeSession
  split
  · next runtime =>
    exact .inr ⟨cid, (s.rt.mem_keys cid).mpr runtime, (kept_cancelTimer ..).wrote
      (wrote_disconnect ..)⟩
  · exact .inl (.refl s)

/-- A connected session is in the map, so it has a runtime. -/
theorem tended_writeConnected (formed : WellFormed s) (cid : ConnectionId) :
    Tended s (s.writeConnected cid) := by
  unfold writeConnected
  split
  · next connected =>
    have listed : cid ∈ s.sessions.keys := by
      rw [s.sessions.mem_keys]
      cases found : s.sessions.find cid with
      | none => simp [stateOf, found, TsConnectionState.new] at connected
      | some _ => rfl
    exact .inr ⟨cid, (formed.known cid listed).2, wrote_setSession ..⟩
  · exact .inl (.refl s)

/-- What survives writing a session survives every step, if it survives opening, removing and
selecting one. -/
theorem holds_tabStep {holds : Notifier → Prop} {action : TabAction}
    (kept : ∀ s t, holds s → Kept s t → holds t)
    (wrote : ∀ s t cid, holds s → Wrote cid s t → holds t)
    (opened : ∀ call reply, action = .table (.completeConnect call reply) →
      holds (s.completeConnect call reply))
    (removed : ∀ cid, action = .table (.cancelConnect cid) → holds (s.cancelConnect cid))
    (selected : ∀ cid, action = .selectSession cid → holds (s.selectSession cid))
    (start : holds s) (taken : s.tabStep action = some t) : holds t := by
  have tended : ∀ s t, holds s → Tended s t → holds t := by
    rintro s t before (same | ⟨cid, -, written⟩)
    · exact kept s t before same
    · exact wrote s t cid before written
  cases action with
  | table action =>
    cases action with
    | connect request =>
      obtain rfl := Option.some.inj taken
      exact kept s _ start (kept_connect ..)
    | completeConnect call reply =>
      simp only [tabStep, step, Option.ite_none_right_eq_some, Option.some.injEq] at taken
      obtain ⟨-, rfl⟩ := taken
      exact opened call reply rfl
    | disconnect cid =>
      obtain rfl := Option.some.inj taken
      exact wrote s _ cid start (wrote_disconnect ..)
    | cancelConnect cid =>
      obtain rfl := Option.some.inj taken
      exact removed cid rfl
    | retryNow cid =>
      obtain rfl := Option.some.inj taken
      exact tended s _ start (tended_retryNow ..)
    | setAutoReconnect cid enabled =>
      obtain rfl := Option.some.inj taken
      exact tended s _ start (tended_setAutoReconnect ..)
    | loadReconnectPreference =>
      obtain rfl := Option.some.inj taken
      exact tended_loadReconnectPreference tended start
    | timer cid =>
      simp only [tabStep, step] at taken
      split at taken
      · cases taken
      · next found =>
        simp only [Option.map_eq_some_iff] at taken
        obtain ⟨timer, -, rfl⟩ := taken
        exact tended s _ start (tended_timerFired s found timer)
    | network status =>
      obtain rfl := Option.some.inj taken
      exact tended_onNetworkChanged tended status start
    | event cid event env =>
      obtain rfl := Option.some.inj taken
      rcases handleEvent_writes s cid event env with same | written
      · exact kept s _ start same
      · exact wrote s _ cid start written
  | selectSession cid =>
    obtain rfl := Option.some.inj taken
    exact selected cid rfl
  | closeSession cid =>
    obtain rfl := Option.some.inj taken
    exact tended s _ start (tended_closeSession ..)
  | writeSession cid =>
    obtain rfl := Option.some.inj taken
    exact wrote s _ cid start (wrote_setSession ..)
  | writeConnected cid =>
    obtain rfl := Option.some.inj taken
    unfold writeConnected
    split
    · exact wrote s _ cid start (wrote_setSession ..)
    · exact start

theorem parallel_step {action : TabAction} (parallel : Parallel s)
    (taken : s.tabStep action = some t) : Parallel t := by
  refine holds_tabStep (fun _ _ => Parallel.kept) (fun _ _ _ => Parallel.wrote)
    (fun call reply _ => parallel_completeConnect parallel call reply)
    (fun cid _ => parallel_cancelConnect parallel cid) (fun cid _ => ?_) parallel taken
  unfold selectSession
  split
  · exact ⟨parallel.same, parallel.nonzero⟩
  · exact parallel

theorem wellFormed_step {action : TabAction} (parallel : Parallel s) (formed : WellFormed s)
    (taken : s.tabStep action = some t) : WellFormed t ↔ keepsTabs s action = true := by
  have tended : ∀ t, Tended s t → WellFormed t := fun _ => wellFormed_tended parallel formed
  have both : ∀ s t, Parallel s ∧ WellFormed s → Tended s t → Parallel t ∧ WellFormed t :=
    fun s t holds kept => ⟨holds.1.tended kept, wellFormed_tended holds.1 holds.2 kept⟩
  cases action with
  | table action =>
    cases action with
    | connect request =>
      obtain rfl := Option.some.inj taken
      exact iff_of_true (wellFormed_kept parallel formed (kept_connect ..)) rfl
    | completeConnect call reply =>
      simp only [tabStep, step, Option.ite_none_right_eq_some, Option.some.injEq] at taken
      obtain ⟨-, rfl⟩ := taken
      exact iff_of_true (wellFormed_completeConnect parallel formed call reply) rfl
    | disconnect cid =>
      obtain rfl := Option.some.inj taken
      exact wellFormed_write parallel formed (wrote_disconnect ..)
    | cancelConnect cid =>
      obtain rfl := Option.some.inj taken
      exact wellFormed_cancelConnect parallel formed cid
    | retryNow cid =>
      obtain rfl := Option.some.inj taken
      exact iff_of_true (tended _ (tended_retryNow ..)) rfl
    | setAutoReconnect cid enabled =>
      obtain rfl := Option.some.inj taken
      exact iff_of_true (tended _ (tended_setAutoReconnect ..)) rfl
    | loadReconnectPreference =>
      obtain rfl := Option.some.inj taken
      exact iff_of_true (tended_loadReconnectPreference both ⟨parallel, formed⟩).2 rfl
    | timer cid =>
      simp only [tabStep, step] at taken
      split at taken
      · cases taken
      · next found =>
        simp only [Option.map_eq_some_iff] at taken
        obtain ⟨timer, -, rfl⟩ := taken
        exact iff_of_true (tended _ (tended_timerFired s found timer)) rfl
    | network status =>
      obtain rfl := Option.some.inj taken
      exact iff_of_true (tended_onNetworkChanged both status ⟨parallel, formed⟩).2 rfl
    | event cid event env =>
      obtain rfl := Option.some.inj taken
      exact wellFormed_handleEvent parallel formed cid event env
  | selectSession cid =>
    obtain rfl := Option.some.inj taken
    refine iff_of_true ?_ rfl
    unfold selectSession
    split
    · next listed =>
      exact { formed with selected := fun chosen same => Option.some.inj same ▸ listed }
    · exact formed
  | closeSession cid =>
    obtain rfl := Option.some.inj taken
    exact iff_of_true (tended _ (tended_closeSession ..)) rfl
  | writeSession cid =>
    obtain rfl := Option.some.inj taken
    exact wellFormed_write parallel formed (wrote_setSession ..)
  | writeConnected cid =>
    obtain rfl := Option.some.inj taken
    exact iff_of_true (tended _ (tended_writeConnected formed cid)) rfl

/-- The tabs are well formed in all states of a run if and only if every step of the run meets
the condition. -/
theorem tabs_well_formed {actions : List TabAction} (run : Run tabStep anyStep .build actions s) :
    (∀ past t, past <+: actions → Run tabStep anyStep .build past t → WellFormed t) ↔
    Run tabStep (fun t action => keepsTabs t action = true) .build actions s := by
  have initial : Parallel .build := ⟨rfl, List.not_mem_nil⟩
  refine run.always_iff Parallel initial ?_ (fun _ _ _ => parallel_step)
    fun _ _ _ => wellFormed_step
  refine initial.wellFormed_iff.mpr ⟨fun cid listed => ?_, fun cid chosen => ?_⟩
  · cases listed
  · cases chosen

def tabRequest : ConnectRequest := ⟨"a:9987", "me", none, none, none⟩

/-- The user connects to two servers. -/
def twoTabs : List TabAction :=
  [.table (.connect tabRequest), .table (.completeConnect ⟨0, tabRequest, .user, 0⟩ (some 1)),
    .table (.connect tabRequest), .table (.completeConnect ⟨1, tabRequest, .user, 1⟩ (some 2))]

/-- He selects the first tab and cancels the second. -/
def cancelledHistory : List TabAction :=
  twoTabs ++ [.selectSession 1, .table (.cancelConnect 2), .closeSession 2]

theorem tabs_well_formed_kept : ∃ s, Run tabStep anyStep .build cancelledHistory s ∧
    ∀ past t, past <+: cancelledHistory → Run tabStep anyStep .build past t → WellFormed t := by
  obtain ⟨s, run, -⟩ := reaches_of_guarded keepsTabs
    (show (exec (guarded keepsTabs tabStep) .build cancelledHistory).any
      (fun s => s.order == [1]) = true by decide +kernel)
  have plain : Run tabStep anyStep .build cancelledHistory s := run.weaken fun _ _ _ => trivial
  exact ⟨s, plain, (tabs_well_formed plain).mpr run⟩

/-- He cancels the one that is selected. -/
theorem tabs_go_wrong : ¬ ∀ (actions : List TabAction) (s : Notifier),
    Run tabStep anyStep .build actions s → WellFormed s := by
  intro formed
  obtain ⟨s, run, left⟩ := reaches_of_exec anyStep (fun _ _ _ => trivial)
    (show (exec tabStep .build (twoTabs ++ [.table (.cancelConnect 2)])).any
      (fun s => s.selectedId == some 2 && s.order == [1]) = true by decide +kernel)
  simp only [Bool.and_eq_true, beq_iff_eq] at left
  have listed := (formed _ s run).selected 2 left.1
  rw [left.2] at listed
  exact absurd listed (by decide)

/-- A diagnostic of the engine creates a tab without a server. -/
example : (exec tabStep .build
    (twoTabs ++ [.table (.event 0 .other ⟨0, ⟨0, le_rfl, zero_lt_one⟩⟩)])).any
    (fun s => s.order == [1, 2, 0] && s.rt.keys == [1, 2]) = true := by
  decide +kernel

end Nek0.Guarantees
