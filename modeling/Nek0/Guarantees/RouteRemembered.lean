import Nek0.Library.Run
import Nek0.Source.AudioRoute

/-!
# Requested audio routes

A route that the user has requested is to stay requested, and to be the one applied whenever
`startMic` has returned true while one of its devices is there. Leaving voice mode and the fallback
for an absent device write to the same field as the request.
-/

namespace Nek0.Guarantees

open Nek0.Library Nek0.Source.AudioRoute Nek0.Source.AudioRoute.VoiceAudio

/-- A device of the route is there. The automatic route needs none. -/
def routePresent (s : VoiceAudio) (route : Route) : Bool :=
  route == .auto || s.devices.any (· ∈ matchingDeviceTypes route)

/-- The platform plays to the route. -/
def routeApplied (modern : Bool) (s : VoiceAudio) (route : Route) : Bool :=
  if modern then
    if route = .auto then s.communicationDevice == none
    else s.communicationDevice.any (· ∈ matchingDeviceTypes route)
  else
    s.isBluetoothScoOn == (route == .bluetooth) && s.isSpeakerphoneOn == (route == .speaker)

/-- The last request is remembered, and applied where capture has just begun. -/
structure RouteRemembered (modern : Bool) (s : VoiceAudio) : Prop where
  remembered : ∀ route, s.wanted = some route → s.requestedRoute = route
  applied : s.started = true → ∀ route, s.wanted = some route → routePresent s route = true →
    routeApplied modern s route = true

/-- What keeps the request: no stop while a route is requested, and at every request and at every
start of capture a device of the route that the platform takes. -/
def keepsRoute (modern : Bool) (s : VoiceAudio) : Action → Bool
  | .setRoute route _ => routePresent s route
  | .startMic opened accepted =>
    s.wanted.all fun route =>
      if s.isRecording then !routePresent s route || routeApplied modern s route
      else
        !opened || route == .auto ||
          routePresent s route && (accepted || routeApplied modern s route)
  | .stopMic => s.wanted.all (· == .auto)
  | .devicesChanged _ => true

section Calls

variable {modern : Bool} {s t : VoiceAudio} {route : Route} {accepted : Bool}

theorem clearForcedRoute_frame (modern : Bool) (s : VoiceAudio) :
    (s.clearForcedRoute modern).requestedRoute = .auto ∧
      (s.clearForcedRoute modern).wanted = s.wanted ∧
      (s.clearForcedRoute modern).devices = s.devices := by
  unfold clearForcedRoute
  dsimp only
  split <;> exact ⟨rfl, rfl, rfl⟩

theorem routeApplied_clearForcedRoute (modern : Bool) (s : VoiceAudio) :
    routeApplied modern (s.clearForcedRoute modern) .auto = true := by
  cases modern <;> rfl

theorem routePresent_congr (same : t.devices = s.devices) :
    routePresent t route = routePresent s route := by
  rw [routePresent, same, routePresent]

theorem routePresent_iff (other : route ≠ .auto) :
    routePresent s route = true ↔ ∃ device, s.deviceOf route = some device := by
  rw [← Option.isSome_iff_exists, deviceOf, List.find?_isSome, routePresent,
    beq_eq_false_iff_ne.mpr other, Bool.false_or, List.any_eq_true]

theorem routeApplied_some {device : DeviceType} (other : route ≠ .auto)
    (found : s.deviceOf route = some device) :
    routeApplied true { s with communicationDevice := some device } route = true := by
  have matching := List.find?_some found
  rw [routeApplied, if_pos rfl, if_neg other]
  exact matching

theorem applyLegacyRoute_spec (s : VoiceAudio) (route : Route) :
    routeApplied false (s.applyLegacyRoute route) route = true ∧
      (s.applyLegacyRoute route).requestedRoute = s.requestedRoute ∧
      (s.applyLegacyRoute route).wanted = s.wanted ∧
      (s.applyLegacyRoute route).devices = s.devices := by
  cases route <;> exact ⟨rfl, rfl, rfl, rfl⟩

/-- The automatic route needs no device, an absent device turns the request into the automatic
route, and a device that is there is taken or refused. -/
theorem applyRoute_cases (modern : Bool) (s : VoiceAudio) (route : Route) (accepted : Bool) :
    let u := (s.applyRoute modern route accepted).1
    u.wanted = s.wanted ∧ u.devices = s.devices ∧
      (route = .auto ∧ u.requestedRoute = .auto ∧ routeApplied modern u .auto = true ∨
        route ≠ .auto ∧ routePresent s route = false ∧ u.requestedRoute = .auto ∨
        route ≠ .auto ∧ routePresent s route = true ∧ accepted = false ∧
          u = { s with requestedRoute := route } ∨
        route ≠ .auto ∧ routePresent s route = true ∧ accepted = true ∧
          u.requestedRoute = route ∧ routeApplied modern u route = true) := by
  have cleared := clearForcedRoute_frame modern { s with requestedRoute := route }
  unfold applyRoute
  dsimp only
  by_cases auto : route = .auto
  · subst auto
    rw [if_pos rfl]
    exact ⟨cleared.2.1, cleared.2.2, .inl ⟨rfl, cleared.1, routeApplied_clearForcedRoute ..⟩⟩
  rw [if_neg auto]
  cases found : ({ s with requestedRoute := route } : VoiceAudio).deviceOf route with
  | none =>
    have absent : routePresent s route = false := by
      rw [Bool.eq_false_iff, ne_eq, routePresent_iff auto]
      rintro ⟨device, there⟩
      exact Option.some_ne_none device (there.symm.trans found)
    exact ⟨cleared.2.1, cleared.2.2, .inr (.inl ⟨auto, absent, cleared.1⟩)⟩
  | some device =>
    have there : routePresent s route = true := (routePresent_iff auto).mpr ⟨device, found⟩
    cases accepted with
    | false => exact ⟨rfl, rfl, .inr (.inr (.inl ⟨auto, there, rfl, rfl⟩))⟩
    | true =>
      refine ⟨?_, ?_, .inr (.inr (.inr ⟨auto, there, rfl, ?_⟩))⟩ <;> cases modern
      · exact (applyLegacyRoute_spec _ route).2.2.1
      · rfl
      · exact (applyLegacyRoute_spec _ route).2.2.2
      · rfl
      · have spec := applyLegacyRoute_spec { s with requestedRoute := route } route
        exact ⟨spec.2.1, spec.1⟩
      · exact ⟨rfl, routeApplied_some auto found⟩

end Calls

section Steps

variable {modern : Bool} {s t : VoiceAudio} {route : Route} {accepted : Bool}

theorem requestedRoute_applyRoute_iff (modern : Bool) (s : VoiceAudio) (route : Route)
    (accepted : Bool) :
    (s.applyRoute modern route accepted).1.requestedRoute = route ↔
      routePresent s route = true := by
  obtain ⟨-, -, ⟨rfl, kept, -⟩ | ⟨other, absent, kept⟩ | ⟨-, there, -, same⟩ |
    ⟨-, there, -, kept, -⟩⟩ := applyRoute_cases modern s route accepted
  · exact iff_of_true kept rfl
  · rw [kept, absent]
    exact iff_of_false (Ne.symm other) Bool.false_ne_true
  · exact iff_of_true (congrArg requestedRoute same) there
  · exact iff_of_true kept there

/-- A device that is there is selected, unless the platform refuses and plays elsewhere. -/
theorem routeApplied_applyRoute_iff (there : routePresent s route = true) :
    routeApplied modern (s.applyRoute modern route accepted).1 route = true ↔
      (route == .auto || (accepted || routeApplied modern s route)) = true := by
  obtain ⟨-, -, ⟨rfl, -, plays⟩ | ⟨-, absent, -⟩ | ⟨other, -, rfl, same⟩ |
    ⟨-, -, rfl, -, plays⟩⟩ := applyRoute_cases modern s route accepted
  · exact iff_of_true plays rfl
  · exact absurd (there.symm.trans absent) (by decide)
  · rw [same, beq_eq_false_iff_ne.mpr other, Bool.false_or, Bool.false_or]
    exact Iff.rfl
  · rw [Bool.true_or, Bool.or_true]
    exact iff_of_true plays rfl

/-- A request is kept, and applied where it should be, exactly if a device is there and taken. -/
theorem applyRoute_keeps_iff (modern : Bool) (s : VoiceAudio) (route : Route) (accepted : Bool) :
    (s.applyRoute modern route accepted).1.requestedRoute = route ∧
        (routePresent (s.applyRoute modern route accepted).1 route = true →
          routeApplied modern (s.applyRoute modern route accepted).1 route = true) ↔
      (route == .auto ||
        routePresent s route && (accepted || routeApplied modern s route)) = true := by
  obtain ⟨-, devices, -⟩ := applyRoute_cases modern s route accepted
  rw [requestedRoute_applyRoute_iff, routePresent_congr devices]
  cases there : routePresent s route with
  | false =>
    have other : (route == .auto) = false := (Bool.or_eq_false_iff.mp there).1
    rw [other, Bool.false_or, Bool.false_and]
    exact iff_of_false (fun both => absurd both.1 Bool.false_ne_true) Bool.false_ne_true
  | true =>
    rw [Bool.true_and, ← routeApplied_applyRoute_iff there]
    exact (and_iff_right rfl).trans (forall_prop_of_true rfl)

/-- Where capture has not just begun, only the request counts. -/
theorem routeRemembered_idle_iff (idle : s.started = false) :
    RouteRemembered modern s ↔ ∀ route, s.wanted = some route → s.requestedRoute = route :=
  ⟨RouteRemembered.remembered, fun remembered =>
    ⟨remembered, fun started => absurd (idle.symm.trans started) (by decide)⟩⟩

theorem setRoute_step_iff (modern : Bool) (s : VoiceAudio) (route : Route) (accepted : Bool) :
    RouteRemembered modern
        { (s.applyRoute modern route accepted).1 with wanted := some route, started := false } ↔
      routePresent s route = true := by
  rw [routeRemembered_idle_iff rfl, ← requestedRoute_applyRoute_iff modern s route accepted]
  exact ⟨fun remembered => remembered route rfl, fun kept _ requested =>
    Option.some.inj requested ▸ kept⟩

theorem routeRemembered_some_iff (requested : s.wanted = some route) :
    RouteRemembered modern s ↔ s.requestedRoute = route ∧
      (s.started = true → routePresent s route = true → routeApplied modern s route = true) := by
  constructor
  · rintro ⟨remembered, applied⟩
    exact ⟨remembered route requested, fun started => applied started route requested⟩
  · rintro ⟨remembered, applied⟩
    refine ⟨fun other same => ?_, fun started other same => ?_⟩ <;>
      obtain rfl := Option.some.inj (requested.symm.trans same)
    · exact remembered
    · exact applied started

/-- A start of capture asserts the requested route once more, unless capture is on already. -/
theorem startMic_step_iff (remembers : RouteRemembered modern s) (opened accepted : Bool) :
    RouteRemembered modern { (s.startMic modern opened accepted).1 with
        started := (s.startMic modern opened accepted).2 } ↔
      keepsRoute modern s (.startMic opened accepted) = true := by
  have frame := applyRoute_cases modern s.startVoiceMode s.requestedRoute accepted
  rw [keepsRoute]
  cases requested : s.wanted with
  | none =>
    have unasked : (s.startMic modern opened accepted).1.wanted = none := by
      unfold startMic
      split
      · exact requested
      · split
        · exact requested
        · exact frame.1.trans requested
    refine iff_of_true ⟨fun _ asked => ?_, fun _ _ asked => ?_⟩ rfl <;>
      exact nomatch unasked.symm.trans asked
  | some route =>
    have same := remembers.remembered route requested
    rw [Option.all_some]
    by_cases recording : s.isRecording = true
    · have result : s.startMic modern opened accepted = (s, true) := if_pos recording
      rw [result, if_pos recording, Bool.or_eq_true, Bool.not_eq_true', ← Bool.not_eq_true,
        ← imp_iff_not_or]
      refine Iff.trans (routeRemembered_some_iff requested) ?_
      exact (and_iff_right same).trans (forall_prop_of_true rfl)
    · rw [if_neg recording]
      cases opened with
      | false =>
        have result : s.startMic modern false accepted = (s, false) := if_neg recording
        rw [result, routeRemembered_idle_iff rfl]
        exact iff_of_true remembers.remembered rfl
      | true =>
        have result : s.startMic modern true accepted =
            ({ (s.startVoiceMode.applyRoute modern route accepted).1 with isRecording := true },
              true) := same ▸ if_neg recording
        rw [same] at frame
        rw [result, Bool.not_true, Bool.false_or]
        refine Iff.trans (routeRemembered_some_iff (frame.1.trans requested)) ?_
        exact Iff.trans (and_congr_right fun _ => forall_prop_of_true rfl)
          (applyRoute_keeps_iff modern s.startVoiceMode route accepted)

theorem stopMic_step_iff (modern : Bool) (s : VoiceAudio) :
    RouteRemembered modern { s.stopMic modern with started := false } ↔
      s.wanted.all (· == .auto) = true := by
  obtain ⟨kept, wanted, -⟩ := clearForcedRoute_frame modern { s with isRecording := false }
  rw [routeRemembered_idle_iff rfl, Option.all_eq_true]
  have stopped : (s.stopMic modern).requestedRoute = .auto := kept
  have request : (s.stopMic modern).wanted = s.wanted := wanted
  simp only [stopped, request, beq_iff_eq]
  exact forall₂_congr fun _ _ => eq_comm

theorem routeRemembered_step_iff {action : Action} (remembers : RouteRemembered modern s)
    (taken : s.step modern action = some t) :
    RouteRemembered modern t ↔ keepsRoute modern s action = true := by
  cases action with
  | setRoute route accepted =>
    obtain rfl := Option.some.inj taken
    exact setRoute_step_iff modern s route accepted
  | startMic opened accepted =>
    obtain rfl := Option.some.inj taken
    exact startMic_step_iff remembers opened accepted
  | stopMic =>
    obtain rfl := Option.some.inj taken
    exact stopMic_step_iff modern s
  | devicesChanged devices =>
    obtain rfl := Option.some.inj taken
    exact iff_of_true ((routeRemembered_idle_iff rfl).mpr remembers.remembered) rfl

end Steps

/-- The request is remembered and applied through a run if and only if no stop comes while a
route is requested, and each request and each start finds a device that the platform takes. -/
theorem route_remembered_iff (modern : Bool) (actions : List Action) (s : VoiceAudio)
    (run : Run (step modern) anyStep start actions s) :
    (∀ before t, before <+: actions → Run (step modern) anyStep start before t →
        RouteRemembered modern t) ↔
      Run (step modern) (fun t action => keepsRoute modern t action = true) start actions s := by
  refine run.always_iff (fun _ => True) trivial ?_ (fun _ _ _ _ _ => trivial) ?_
  · exact (routeRemembered_idle_iff rfl).mpr fun _ requested => nomatch requested
  · exact fun _ _ _ _ remembers taken => routeRemembered_step_iff remembers taken

/-- A phone and a headset, which the user selects. -/
def headsetSelected : List Action :=
  [.devicesChanged [.builtinSpeaker, .bluetoothSco], .setRoute .bluetooth true]

theorem headset_kept : ∃ s, Run (step true) anyStep start
      (headsetSelected ++ [.startMic true true, .devicesChanged [.builtinSpeaker],
        .devicesChanged [.builtinSpeaker, .bluetoothSco]]) s ∧
    s.requestedRoute = .bluetooth ∧ RouteRemembered true s := by
  obtain ⟨s, run, requested⟩ := reaches_of_guarded (keepsRoute true) (show
    (exec (guarded (keepsRoute true) (step true)) start (headsetSelected ++
      [.startMic true true, .devicesChanged [.builtinSpeaker],
        .devicesChanged [.builtinSpeaker, .bluetoothSco]])).any (fun s =>
          s.requestedRoute == .bluetooth) = true by decide)
  have plain : Run (step true) anyStep start _ s := run.weaken fun _ _ _ => trivial
  have always := (route_remembered_iff true _ s plain).mpr run
  exact ⟨s, plain, beq_iff_eq.mp requested, always _ s List.prefix_rfl plain⟩

/-- Muting stops capture, and the next start plays to the automatic route. -/
theorem mute_discards_route : ∃ s, Run (step true) anyStep start
      (headsetSelected ++ [.startMic true true, .stopMic, .startMic true true]) s ∧
    s.started = true ∧ s.wanted = some .bluetooth ∧ routePresent s .bluetooth = true ∧
    routeApplied true s .bluetooth = false ∧ ¬RouteRemembered true s := by
  obtain ⟨s, run, reached⟩ := reaches_of_exec anyStep (fun _ _ _ => trivial) (show
    (exec (step true) start (headsetSelected ++
      [.startMic true true, .stopMic, .startMic true true])).any (fun s =>
        (s.started, s.wanted, routePresent s .bluetooth, routeApplied true s .bluetooth) ==
          (true, some .bluetooth, true, false)) = true by decide)
  simp only [beq_iff_eq, Prod.mk.injEq] at reached
  obtain ⟨started, wanted, there, elsewhere⟩ := reached
  refine ⟨s, run, started, wanted, there, elsewhere, fun remembers => ?_⟩
  exact absurd ((remembers.applied started _ wanted there).symm.trans elsewhere) (by decide)

end Nek0.Guarantees
