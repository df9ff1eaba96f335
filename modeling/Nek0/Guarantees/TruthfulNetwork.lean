import Nek0.Library.Run
import Nek0.Source.Connectivity

/-!
# What the app is told about the network

Each callback reports its own network. So the app is told the truth exactly if no callback speaks
about a network that cannot be used while another one can, and if two usable networks only report
one after the other where the device has changed its default network.
-/

namespace Nek0.Guarantees

open Nek0.Library Nek0.Source Nek0.Source.Connectivity

/-- A status of a callback says whether some validated network is up, and a status is taken for a
handover only if the default network has changed. -/
structure Truthful (r : NetworkReport) : Prop where
  available : ∀ truth, r.event.truth = some truth → r.event.status.available = truth
  handover : r.event.status.isHandoverFrom r.previous.status = true →
    r.event.active ≠ r.previous.active

/-- The network of a callback is up and validated. -/
def isUsable : NetworkCallback → Bool
  | .available _ caps => isValidated caps
  | .capabilitiesChanged _ caps => caps.validated
  | .lost _ => false

def networkOf : NetworkCallback → Network
  | .available network _ | .capabilitiesChanged network _ | .lost network => network

/-- A callback of a usable network does not come after a status of another usable one, unless the
default network has changed in between; any other callback comes while no network is validated. -/
def tellsTruth (s : Connectivity) : Action → Bool
  | .callback callback =>
    !s.listening ||
      if isUsable callback then
        !s.last.status.available || s.last.status.networkId = "" ||
          s.last.status.networkId = (networkOf callback).handle || s.activeNetwork ≠ s.last.active
      else !anyValidated (s.networksAfter callback)
  | _ => true

section Callbacks

variable {s t : Connectivity} {callback : NetworkCallback}

theorem reported_eq (callback : NetworkCallback) :
    (reported callback).available = isUsable callback ∧
      (reported callback).networkId = (networkOf callback).handle := by
  cases callback <;> simp [reported, statusOf, isUsable, networkOf, isValidated]

theorem anyValidated_iff {networks : LinkedMap Network (Option NetworkCapabilities)} :
    anyValidated networks = true ↔
      ∃ network caps, networks.find network = some caps ∧ isValidated caps = true := by
  simp only [anyValidated, List.any_eq_true, Option.any_eq_true, LinkedMap.mem_keys]
  constructor
  · rintro ⟨network, -, caps, found, valid⟩
    exact ⟨network, caps, found, valid⟩
  · rintro ⟨network, caps, found, valid⟩
    exact ⟨network, by simp [found], caps, found, valid⟩

/-- A usable network is one of those that are up. -/
theorem anyValidated_of_usable (usable : isUsable callback = true) :
    anyValidated (s.networksAfter callback) = true := by
  rw [anyValidated_iff]
  cases callback with
  | available network caps => exact ⟨network, caps, LinkedMap.find_insert_self .., usable⟩
  | capabilitiesChanged network caps =>
    exact ⟨network, some caps, LinkedMap.find_insert_self .., usable⟩
  | lost network => cases usable

/-- What the handler posts for a callback. -/
def eventOf (s : Connectivity) (callback : NetworkCallback) : NetworkEvent where
  status := reported callback
  active := s.activeNetwork
  truth := some (anyValidated (s.networksAfter callback))

theorem truthful_iff (s : Connectivity) (callback : NetworkCallback) (listens : s.listening = true) :
    Truthful ⟨eventOf s callback, s.last⟩ ↔ tellsTruth s (.callback callback) = true := by
  obtain ⟨available, networkId⟩ := reported_eq callback
  have named : (networkOf callback).handle ≠ "" := (networkOf callback).named
  have handover : (reported callback).isHandoverFrom s.last.status = true ↔
      isUsable callback = true ∧ s.last.status.available = true ∧
        s.last.status.networkId ≠ "" ∧ s.last.status.networkId ≠ (networkOf callback).handle := by
    simp only [NetworkStatus.isHandoverFrom, available, networkId, Bool.and_eq_true, bne_iff_ne]
    constructor
    · rintro ⟨⟨⟨⟨usable, before⟩, some⟩, -⟩, other⟩
      exact ⟨usable, before, some, other.symm⟩
    · rintro ⟨usable, before, some, other⟩
      exact ⟨⟨⟨⟨usable, before⟩, some⟩, named⟩, other.symm⟩
  have both : Truthful ⟨eventOf s callback, s.last⟩ ↔
      isUsable callback = anyValidated (s.networksAfter callback) ∧
        ((reported callback).isHandoverFrom s.last.status = true →
          s.activeNetwork ≠ s.last.active) := by
    constructor
    · exact fun truthful => ⟨available ▸ truthful.available _ rfl, truthful.handover⟩
    · rintro ⟨told, changed⟩
      refine ⟨fun truth same => ?_, changed⟩
      obtain rfl := Option.some.inj same
      exact available.trans told
  rw [both, handover]
  cases usable : isUsable callback with
  | false =>
    cases some : anyValidated (s.networksAfter callback) <;>
      simp [tellsTruth, listens, usable, some]
  | true =>
    have some := anyValidated_of_usable (s := s) usable
    simp only [tellsTruth, listens, usable, some, Bool.not_true, Bool.false_or, if_true,
      Bool.or_eq_true, Bool.not_eq_true', decide_eq_true_eq, true_and]
    constructor
    · intro changed
      by_contra none
      simp only [not_or, Bool.not_eq_false, not_not] at none
      obtain ⟨⟨⟨before, some⟩, other⟩, same⟩ := none
      exact changed ⟨before, some, other⟩ same
    · rintro (((off | none) | same) | changed) ⟨before, some, other⟩
      · exact absurd (off.symm.trans before) (by decide)
      · exact absurd none some
      · exact absurd same other
      · exact changed

end Callbacks

section Delivery

/-- The reports of events that follow each other. -/
def reportsOf (previous : NetworkEvent) : List NetworkEvent → List NetworkReport
  | [] => []
  | event :: events => ⟨event, previous⟩ :: reportsOf event events

theorem reportsOf_snoc (previous event : NetworkEvent) (events : List NetworkEvent) :
    reportsOf previous (events ++ [event]) =
      reportsOf previous events ++ [⟨event, events.getLast?.getD previous⟩] := by
  induction events generalizing previous with
  | nil => rfl
  | cons first events ih =>
    simp only [List.cons_append, reportsOf, ih, List.getLast?_cons, Option.getD_some]

/-- The app hears what was posted, in the same order. -/
structure Heard (s : Connectivity) : Prop where
  network : s.app.network = s.heard.status
  posted : s.posted = s.received ++ reportsOf s.heard s.queue
  last : s.last = s.queue.getLast?.getD s.heard
  silent : s.listening = false → s.last = .unknown

variable {s t : Connectivity}

/-- A loop over sessions does not touch the status. -/
theorem network_foldl {change : Notifier → ConnectionId → Notifier}
    (kept : ∀ a cid, (change a cid).network = a.network) (cids : List ConnectionId)
    (a : Notifier) : (cids.foldl change a).network = a.network := by
  induction cids generalizing a with
  | nil => rfl
  | cons cid cids ih => exact (ih _).trans (kept a cid)

theorem network_retryNow (a : Notifier) (cid : ConnectionId) :
    (a.retryNow cid).network = a.network := by
  unfold Notifier.retryNow
  split
  · rfl
  split <;> rfl

theorem network_onNetworkChanged (a : Notifier) (status : NetworkStatus) :
    (a.onNetworkChanged status).network = status := by
  unfold Notifier.onNetworkChanged
  dsimp only
  split
  · refine network_foldl (fun b cid => ?_) ..
    unfold Notifier.dropForHandover
    split <;> rfl
  split
  · refine network_foldl (fun b cid => ?_) ..
    unfold Notifier.stopCountdown
    split <;> rfl
  split
  · refine network_foldl (fun b cid => ?_) ..
    unfold Notifier.retryWaiting
    split
    · exact network_retryNow b cid
    · rfl
  · rfl

/-- Only a new status changes what the app knows of the network. -/
theorem network_step {a b : Notifier} {action : Notifier.Action}
    (other : ∀ status, action ≠ .network status) (taken : a.step action = some b) :
    b.network = a.network := by
  cases action with
  | connect request =>
    obtain rfl := Option.some.inj taken
    rfl
  | completeConnect call reply =>
    obtain ⟨-, rfl⟩ := Notifier.step_completeConnect taken
    rcases Notifier.completeConnect_cases a call reply with
      ⟨-, same⟩ | ⟨cid, -, -, -, -, -, -, same, -⟩
    · rw [same]
    · exact same
  | disconnect cid =>
    obtain rfl := Option.some.inj taken
    unfold Notifier.disconnect
    dsimp only
    split <;> rfl
  | cancelConnect cid =>
    obtain rfl := Option.some.inj taken
    rfl
  | retryNow cid =>
    obtain rfl := Option.some.inj taken
    exact network_retryNow a cid
  | setAutoReconnect cid enabled =>
    obtain rfl := Option.some.inj taken
    unfold Notifier.setAutoReconnect
    split
    · rfl
    · cases enabled <;> rfl
  | loadReconnectPreference =>
    obtain rfl := Option.some.inj taken
    refine network_foldl (fun b cid => ?_) ..
    split <;> rfl
  | timer cid =>
    obtain ⟨rt, timer, -, -, rfl⟩ := Notifier.step_timer taken
    unfold Notifier.timerFired
    dsimp only
    split <;> rfl
  | network status => exact absurd rfl (other status)
  | event cid event env =>
    obtain rfl := Option.some.inj taken
    exact (Notifier.only_handleEvent a cid event env).network

theorem heard_post (heard : Heard s) (listens : s.listening = true) (status : NetworkStatus)
    (truth : Option Bool) : Heard (s.post status truth) := by
  simp only [post, listens, if_true]
  refine ⟨heard.network, ?_, ?_, fun silent => Bool.noConfusion silent⟩
  · simp only [heard.posted, heard.last, reportsOf_snoc, List.append_assoc]
  · simp

/-- A change of the networks that nobody is told. -/
theorem Heard.same (heard : Heard s) (network : t.app.network = s.app.network)
    (queue : t.queue = s.queue) (same : t.heard = s.heard) (received : t.received = s.received)
    (last : t.last = s.last) (posted : t.posted = s.posted) (listening : t.listening = s.listening) :
    Heard t := by
  refine ⟨?_, ?_, ?_, ?_⟩
  · rw [network, same, heard.network]
  · rw [posted, received, same, queue, heard.posted]
  · rw [last, queue, same, heard.last]
  · rw [listening, last]
    exact heard.silent

theorem heard_onListen (heard : Heard s) : Heard s.onListen := by
  have listens : Heard { s with listening := true } :=
    ⟨heard.network, heard.posted, heard.last, fun silent => Bool.noConfusion silent⟩
  unfold onListen emitCurrentState
  split <;> exact heard_post listens rfl ..

theorem heard_deliver (heard : Heard s) (taken : s.deliver = some t) : Heard t := by
  unfold deliver at taken
  split at taken
  · cases taken
  next event queue waits =>
    obtain rfl := Option.some.inj taken
    have own : { s.heard with status := s.app.network } = s.heard := by rw [heard.network]
    refine ⟨network_onNetworkChanged .., ?_, ?_, heard.silent⟩
    · rw [own, heard.posted, waits, reportsOf, List.append_assoc]
      rfl
    · rw [heard.last, waits, List.getLast?_cons]
      rfl

theorem heard_callback (heard : Heard s) (callback : NetworkCallback) :
    Heard (s.callback callback) := by
  have changed : Heard { s with networks := s.networksAfter callback } :=
    heard.same rfl rfl rfl rfl rfl rfl rfl
  by_cases listens : s.listening = true
  · exact heard_post changed listens ..
  · have quiet : s.callback callback = { s with networks := s.networksAfter callback } := by
      simp [Connectivity.callback, post, listens]
    exact quiet ▸ changed

theorem appStep_cases {action : Notifier.Action} (taken : s.appStep action = some t) :
    ∃ app, (∀ status, action ≠ .network status) ∧ s.app.step action = some app ∧
      { s with app } = t := by
  unfold appStep at taken
  split at taken
  · cases taken
  next other =>
    obtain ⟨app, stepped, rfl⟩ := Option.map_eq_some_iff.mp taken
    exact ⟨app, other, stepped, rfl⟩

theorem heard_step {action : Action} (heard : Heard s) (taken : s.step action = some t) :
    Heard t := by
  cases action with
  | onListen =>
    simp only [step, Option.ite_none_left_eq_some, Option.some.injEq] at taken
    obtain ⟨-, rfl⟩ := taken
    exact heard_onListen heard
  | callback callback =>
    obtain rfl := Option.some.inj taken
    exact heard_callback heard callback
  | activate network =>
    obtain rfl := Option.some.inj taken
    exact heard.same rfl rfl rfl rfl rfl rfl rfl
  | deliver => exact heard_deliver heard taken
  | app action =>
    obtain ⟨app, other, stepped, rfl⟩ := appStep_cases taken
    exact heard.same (network_step other stepped) rfl rfl rfl rfl rfl rfl

/-- What one step posts is true exactly if the step meets the condition. -/
theorem posted_step {action : Action} (heard : Heard s) (taken : s.step action = some t) :
    (∀ r ∈ t.posted, Truthful r) ↔ (∀ r ∈ s.posted, Truthful r) ∧ tellsTruth s action = true := by
  have same : t.posted = s.posted → tellsTruth s action = true →
      ((∀ r ∈ t.posted, Truthful r) ↔ (∀ r ∈ s.posted, Truthful r) ∧ tellsTruth s action = true) := by
    intro posted met
    rw [posted, met]
    exact ⟨fun all => ⟨all, rfl⟩, And.left⟩
  cases action with
  | onListen =>
    simp only [step, Option.ite_none_left_eq_some, Option.some.injEq] at taken
    obtain ⟨silent, rfl⟩ := taken
    -- The first status follows none, so that it is no handover.
    have first : ∀ status, Truthful ⟨⟨status, s.activeNetwork, none⟩, s.last⟩ := by
      intro status
      rw [heard.silent (by simpa using silent)]
      refine ⟨fun _ told => (nomatch told), ?_⟩
      simp [NetworkStatus.isHandoverFrom, NetworkEvent.unknown, NetworkStatus.unknown]
    have posts : ∃ status,
        s.onListen.posted = s.posted ++ [⟨⟨status, s.activeNetwork, none⟩, s.last⟩] := by
      unfold onListen emitCurrentState
      split <;> exact ⟨_, rfl⟩
    obtain ⟨status, posts⟩ := posts
    rw [posts, List.forall_mem_append, List.forall_mem_singleton]
    exact ⟨fun all => ⟨all.1, rfl⟩, fun all => ⟨all.1, first status⟩⟩
  | callback callback =>
    obtain rfl := Option.some.inj taken
    by_cases listens : s.listening = true
    · have posts : (s.callback callback).posted = s.posted ++ [⟨eventOf s callback, s.last⟩] := by
        simp only [Connectivity.callback, post, listens, if_true]
        rfl
      rw [posts, List.forall_mem_append, List.forall_mem_singleton, truthful_iff s callback listens]
    · refine same ?_ ?_
      · simp [Connectivity.callback, post, listens]
      · simp [tellsTruth, listens]
  | activate network =>
    obtain rfl := Option.some.inj taken
    exact same rfl rfl
  | deliver =>
    simp only [step, deliver] at taken
    split at taken
    · cases taken
    · obtain rfl := Option.some.inj taken
      exact same rfl rfl
  | app action =>
    obtain ⟨app, -, -, rfl⟩ := appStep_cases taken
    exact same rfl rfl

end Delivery

/-- When everything that was posted has reached the app, it has been told the truth all along if
and only if every callback met the condition. -/
theorem network_truthful_iff {actions : List Action} {s : Connectivity}
    (run : Run step anyStep build actions s) (idle : s.queue = []) :
    (∀ r ∈ s.received, Truthful r) ↔
      Run step (fun t action => tellsTruth t action = true) build actions s := by
  have start : Heard build := ⟨rfl, rfl, rfl, fun _ => rfl⟩
  have heard : Heard s :=
    run.invariant Heard start fun _ _ _ heard _ taken => heard_step heard taken
  have all : s.posted = s.received := by simp [heard.posted, idle, reportsOf]
  rw [← all]
  exact run.holds_iff Heard start (fun _ listed => nomatch listed)
    (fun _ _ _ heard taken => heard_step heard taken)
    fun _ _ _ heard taken => posted_step heard taken

def homeWifi : Network := ⟨"100", by decide⟩

def mobileData : Network := ⟨"101", by decide⟩

def wifiCaps : NetworkCapabilities := ⟨true, false, false, false, true⟩

def mobileCaps : NetworkCapabilities := ⟨false, true, false, false, true⟩

/-- The device is on Wi-Fi. -/
def onWifi : List Action :=
  [.callback (.available homeWifi none), .callback (.capabilitiesChanged homeWifi wifiCaps),
    .activate (some homeWifi), .onListen, .deliver]

/-- Wi-Fi goes, the device changes to mobile data, and comes back. -/
def handovers : List Action :=
  onWifi ++ [.callback (.lost homeWifi), .activate (some mobileData),
    .callback (.available mobileData mobileCaps), .activate (some homeWifi),
    .callback (.available homeWifi wifiCaps), .deliver, .deliver, .deliver]

theorem network_truthful_handovers : ∃ s : Connectivity, Run step anyStep build handovers s ∧
    s.queue = [] ∧ s.received.length = 4 ∧
    ((∀ r ∈ s.received, Truthful r) ↔
      Run step (fun t action => tellsTruth t action = true) build handovers s) := by
  obtain ⟨s, run, shown⟩ := reaches_of_exec anyStep (fun _ _ _ => trivial)
    (show (exec step build handovers).any
      (fun s : Connectivity => s.queue = [] ∧ s.received.length = 4) = true by decide +kernel)
  obtain ⟨idle, count⟩ := of_decide_eq_true shown
  exact ⟨s, run, idle, count, network_truthful_iff run idle⟩

/-- Mobile data comes and goes beside Wi-Fi: the app takes the first for a handover and then
believes to be offline. -/
theorem second_network_misleads : ¬ ∀ (actions : List Action) (s : Connectivity),
    Run step anyStep build actions s → s.queue = [] → ∀ r ∈ s.received, Truthful r := by
  intro truthful
  obtain ⟨s, run, shown⟩ := reaches_of_exec anyStep (fun _ _ _ => trivial)
    (show (exec step build (onWifi ++ [.callback (.available mobileData mobileCaps), .deliver,
        .callback (.lost mobileData), .deliver])).any
      (fun s : Connectivity => s.queue = [] ∧
        (s.received.any fun r => r.event.status.isHandoverFrom r.previous.status &&
          r.event.active = r.previous.active) ∧
        s.received.any fun r => r.event.truth = some true && !r.event.status.available) = true by
        decide +kernel)
  obtain ⟨idle, -, offline⟩ := of_decide_eq_true shown
  obtain ⟨r, listed, wrong⟩ := List.any_eq_true.mp offline
  simp only [Bool.and_eq_true, decide_eq_true_eq, Bool.not_eq_true'] at wrong
  have told := (truthful _ s run idle r listed).available true wrong.1
  exact absurd (told.symm.trans wrong.2) (by decide)

end Nek0.Guarantees
