import Nek0.Library.Run
import Nek0.Source.NotificationApp

/-!
# The notification tells the truth

A refresh within 600 ms of the last one is dropped and not made up for, and some handlers that
change what is shown do not ask for one. So the service shows the state the app is in exactly as
long as every change ends with a refresh that is not dropped.
-/

namespace Nek0.Guarantees

open Nek0.Library Nek0.Source.Notification Nek0.Source.Notification.NotificationApp
open Nek0.Source (ConnectionId)
open Nek0.Source.Voice (VoiceApp)

/-- What the service should show: nothing when no session is connected. -/
def due (s : NotificationApp) : Option Content :=
  if s.connectedIds = [] then none else some s.content

/-- The service runs exactly if a session is connected, and shows the state of the app. -/
def TellsTruth (s : NotificationApp) : Prop := s.service = due s

/-- The action leaves what should be shown as it is, or ends with a refresh that is not dropped. -/
def shownInTime (s : NotificationApp) (action : NotificationApp.Action) : Bool :=
  (s.changed action).all fun t => due t = due s || s.refreshes action && !t.throttled

section Truth

variable {s t : NotificationApp} {action : NotificationApp.Action}

theorem service_refresh :
    s.refreshNotification.service = if s.throttled then s.service else due s := by
  rw [refreshNotification]
  split
  · rfl
  · by_cases idle : s.connectedIds = []
    · rw [due, if_pos idle]
      exact congrArg NotificationApp.service (if_pos idle)
    · rw [due, if_neg idle]
      exact congrArg NotificationApp.service (if_neg idle)

theorem due_refresh : due s.refreshNotification = due s := by
  have blind (started : Bool) (last : Int) (service : Option Content) :
      due { s with notificationStarted := started, lastNotification := last, service := service } =
        due s := rfl
  rw [refreshNotification]
  dsimp only
  repeat' split
  · rfl
  · exact blind ..
  · exact blind ..

/-- Handlers do not call the service themselves. -/
theorem service_changed (moved : s.changed action = some t) : t.service = s.service := by
  cases action with
  | tick now =>
    obtain rfl := Option.some.inj moved
    rfl
  | voice action =>
    simp only [changed, Option.ite_none_left_eq_some, Option.map_eq_some_iff] at moved
    obtain ⟨-, voice, -, rfl⟩ := moved
    rfl
  | connected cid data serverName =>
    simp only [changed] at moved
    split at moved <;> obtain rfl := Option.some.inj moved <;> rfl
  | voiceRead active =>
    simp only [changed, Option.ite_none_right_eq_some, Option.some.injEq] at moved
    obtain ⟨-, rfl⟩ := moved
    rfl

theorem tellsTruth_step_iff (truth : TellsTruth s) (taken : s.step action = some t) :
    TellsTruth t ↔ shownInTime s action = true := by
  obtain ⟨changed, moved, rfl⟩ := Option.map_eq_some_iff.mp taken
  have untouched : changed.service = due s := (service_changed moved).trans truth
  simp only [shownInTime, moved, Option.all_some, Bool.or_eq_true, Bool.and_eq_true,
    decide_eq_true_eq, Bool.not_eq_true']
  cases refreshes : s.refreshes action with
  | false =>
    simp only [Bool.false_eq_true, if_false, false_and, or_false]
    rw [TellsTruth, untouched, eq_comm]
  | true =>
    simp only [if_true, true_and]
    rw [TellsTruth, service_refresh, due_refresh]
    cases throttled : changed.throttled with
    | false => simp
    | true => simp [untouched, eq_comm]

end Truth

/-- In every run, the notification tells the truth at every moment exactly if every change of what
it shows is refreshed in time. -/
theorem notification_tells_truth_iff (actions : List NotificationApp.Action) (s : NotificationApp)
    (run : Run NotificationApp.step anyStep .build actions s) :
    (∀ earlier t, earlier <+: actions → Run NotificationApp.step anyStep .build earlier t →
      TellsTruth t) ↔
      Run NotificationApp.step (fun t action => shownInTime t action = true) .build actions s :=
  run.always_iff (fun _ => True) trivial rfl (fun _ _ _ _ _ => trivial)
    fun _ _ _ _ truth taken => tellsTruth_step_iff truth taken

/-- A session gets connected, is muted and unmuted at leisure and left. -/
def slowUser : List NotificationApp.Action :=
  [.tick 1000, .voice (.openSession none), .connected 1 ⟨some 5, "", 0, [], []⟩ "home", .tick 2000,
    .voice (.toggleInputMute 1), .tick 3000, .voice (.disconnect 1), .tick 4000,
    .voice (.event 1 (.disconnected true "" false))]

theorem slow_user_told_truth :
    ∃ s, Run NotificationApp.step anyStep .build slowUser s ∧ s.service = none ∧
      s.connectedIds = [] ∧ TellsTruth s := by
  obtain ⟨s, run, reached⟩ := reaches_of_guarded shownInTime (show
    (exec (guarded shownInTime NotificationApp.step) .build slowUser).any (fun s =>
      s.service = none && s.connectedIds = []) = true by
    decide +kernel)
  simp only [Bool.and_eq_true, decide_eq_true_eq] at reached
  have visited := run.weaken fun _ _ _ => trivial
  exact ⟨s, visited, reached.1, reached.2,
    (notification_tells_truth_iff slowUser s visited).mpr run slowUser s List.prefix_rfl visited⟩

/-- The user leaves the server, and it answers at once. -/
def quickUser : List NotificationApp.Action :=
  [.tick 1000, .voice (.openSession none), .connected 1 ⟨some 5, "", 0, [], []⟩ "home", .tick 2000,
    .voice (.disconnect 1), .tick 2050, .voice (.event 1 (.disconnected true "" false)),
    .tick 100000]

/-- The service and its wake lock stay for good. -/
theorem service_outlives_sessions :
    ∃ s, Run NotificationApp.step anyStep .build quickUser s ∧ s.connectedIds = [] ∧
      wakeLock s.service = true ∧ ¬ TellsTruth s := by
  obtain ⟨s, run, reached⟩ := reaches_of_exec anyStep (fun _ _ _ => trivial) (show
    (exec NotificationApp.step .build quickUser).any (fun s =>
      s.connectedIds = [] && wakeLock s.service) = true by
    decide +kernel)
  simp only [Bool.and_eq_true, decide_eq_true_eq] at reached
  refine ⟨s, run, reached.1, reached.2, fun truth => ?_⟩
  rw [TellsTruth, due, if_pos reached.1] at truth
  rw [truth] at reached
  cases reached.2

end Nek0.Guarantees
