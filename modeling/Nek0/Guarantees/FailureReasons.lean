import Nek0.Library.Run
import Nek0.Source.FailureReasons

/-!
# Whether the reason of a failure stays

The scheduler of reconnects, which runs in the same event as the failure, and almost every later
event update the session without the reason and so clear it. It stays only where no reconnect is
considered and nothing updates the session.
-/

namespace Nek0.Guarantees

open Nek0.Library Nek0.Source.FailureReasons

variable {χ κ : Type*}

structure Failure where
  text : String
  kind : String
  deriving DecidableEq, Repr

/-- The failure that an event reports. -/
def failure? : TsEngineEvent χ κ → Option Failure
  | .connectFailed kind message _ =>
    let kind := kind.getD "unknown"
    some ⟨connectErrorMessage kind (message.getD kind), kind⟩
  | .disconnected expected reason =>
    if expected.getD true then none else some ⟨reason.getD "", "connection_lost"⟩
  | _ => none

/-- The session has the text and the kind of the failure. -/
def Reports (failure : Failure) (s : Session χ κ) : Prop :=
  s.state.error = some failure.text ∧ s.state.connectErrorKind = some failure.kind

instance (failure : Failure) (s : Session χ κ) : Decidable (Reports failure s) :=
  inferInstanceAs (Decidable (_ ∧ _))

/-- There is a request to repeat, and the user lets it be repeated. -/
def retries (s : Session χ κ) : Bool := s.lastRequest ≠ none && s.autoReconnect

/-- No reconnect is considered at the failure, and a lost connection is not taken for a stale event,
or the session had the same reason already. -/
def reportsFailure (failure : Failure) (s : Session χ κ) : TsEngineEvent χ κ → Bool
  | .disconnected .. => if s.state.connecting then Reports failure s else !retries s
  | _ => !retries s

/-- The event does not update the session, or is the same failure again with no reconnect. -/
def leavesReason [DecidableEq χ] [DecidableEq κ] (failure : Failure) (s : Session χ κ) :
    Ambient × TsEngineEvent χ κ → Bool
  | (_, .fileList requestId) =>
    requestId.getD 0 ≠ 0 && some (requestId.getD 0) ≠ s.lastFileRequestId
  | (_, .fileInfo ok) => !ok.getD false
  | (_, .clientUpdated) => true
  | (_, .connectionPhase _) => s.state.connected
  | (_, .connectFailed kind message retryable) =>
    failure? (.connectFailed kind message retryable : TsEngineEvent χ κ) = some failure &&
      !retries s
  | (_, .disconnected expected reason) =>
    s.state.connecting ||
      failure? (.disconnected expected reason : TsEngineEvent χ κ) = some failure && !retries s
  | (_, .textMessage m) => Nek0.Source.Nicknames.App.isIgnored m
  | (_, .channelsUpdated channels clients) =>
    channels = s.state.channels && clients = s.state.clients
  | _ => false

variable {failure : Failure} {idOf : κ → Int} {env : Ambient} {s t : Session χ κ}

section Updates

/-- An update that does not carry the kind of a failure. -/
theorem not_reports_of_kind {st : TsConnectionState χ κ} (cleared : st.connectErrorKind = none) :
    ¬Reports failure (s.setState st) := by
  rintro ⟨-, kept⟩
  exact absurd (cleared.symm.trans kept) nofun

theorem retries_eq_false_iff :
    retries s = false ↔ (s.lastRequest = none || !s.autoReconnect) = true := by
  simp [retries, imp_iff_not_or]

/-- The scheduler leaves the reason alone exactly if it considers no reconnect. -/
theorem reports_maybeScheduleReconnect_iff {kind : String} {retryable : Bool} :
    Reports failure (s.maybeScheduleReconnect env kind retryable) ↔
      Reports failure s ∧ retries s = false := by
  rw [retries_eq_false_iff]
  unfold Session.maybeScheduleReconnect
  split
  next unconsidered => exact (and_iff_left unconsidered).symm
  next considered =>
    refine iff_of_false ?_ fun kept => considered kept.2
    dsimp only
    split
    · exact not_reports_of_kind rfl
    · split <;> exact not_reports_of_kind rfl

theorem reports_connectFailed_iff {kind message : Option String} {retryable : Option Bool} :
    Reports failure (s.handleConnectFailed env kind message retryable) ↔
      failure? (.connectFailed kind message retryable : TsEngineEvent χ κ) = some failure ∧
        retries s = false := by
  unfold Session.handleConnectFailed
  dsimp only
  rw [reports_maybeScheduleReconnect_iff]
  refine and_congr ?_ Iff.rfl
  obtain ⟨text, kind'⟩ := failure
  simp [Reports, Session.setState, failure?]

theorem reports_disconnected_iff {expected : Option Bool} {reason : Option String}
    (waits : s.state.connecting = false) :
    Reports failure (s.handleDisconnected env expected reason) ↔
      failure? (.disconnected expected reason : TsEngineEvent χ κ) = some failure ∧
        retries s = false := by
  simp only [Session.handleDisconnected, waits, Bool.false_eq_true, if_false, failure?]
  split
  next expected =>
    refine iff_of_false (not_reports_of_kind rfl) ?_
    rintro ⟨⟨⟩, -⟩
  next unexpected =>
    rw [reports_maybeScheduleReconnect_iff]
    refine and_congr ?_ Iff.rfl
    obtain ⟨text, kind'⟩ := failure
    simp [Reports, Session.setState]

end Updates

variable [DecidableEq χ] [DecidableEq κ]

/-- What the failure itself leaves. -/
theorem reports_failure_iff {event : TsEngineEvent χ κ} (failed : failure? event = some failure) :
    Reports failure (s.handleEvent idOf env event) ↔ reportsFailure failure s event = true := by
  cases event with
  | connectFailed kind message retryable =>
    refine reports_connectFailed_iff.trans ?_
    simp [reportsFailure, failed]
  | disconnected expected reason =>
    cases waits : s.state.connecting with
    | true => simp [Session.handleEvent, Session.handleDisconnected, reportsFailure, waits]
    | false =>
      refine (reports_disconnected_iff waits).trans ?_
      simp [reportsFailure, failed, waits]
  | _ => cases failed

/-- A later event leaves the reason exactly if it does not update the session. -/
theorem reports_handleEvent_iff (kept : Reports failure s) (event : TsEngineEvent χ κ) :
    Reports failure (s.handleEvent idOf env event) ↔
      leavesReason failure s (env, event) = true := by
  have update {st : TsConnectionState χ κ} {leaves : Prop} [Decidable leaves]
      (cleared : st.connectErrorKind = none) :
      Reports failure (if leaves then s else s.setState st) ↔ leaves := by
    split
    next leaves => exact iff_of_true kept leaves
    next writes => exact iff_of_false (not_reports_of_kind cleared) writes
  cases event with
  | fileList requestId =>
    rw [Session.handleEvent, update]
    · simp [leavesReason]
    · rfl
  | fileInfo ok =>
    rw [Session.handleEvent, update]
    · simp [leavesReason]
    · rfl
  | clientUpdated => exact iff_of_true kept rfl
  | connectionPhase phase =>
    rw [Session.handleEvent, update]
    · rfl
    · rfl
  | connectFailed kind message retryable =>
    refine reports_connectFailed_iff.trans ?_
    simp [leavesReason]
  | disconnected expected reason =>
    cases waits : s.state.connecting with
    | true =>
      refine iff_of_true ?_ (by simp [leavesReason, waits])
      simpa [Session.handleEvent, Session.handleDisconnected, waits] using kept
    | false =>
      refine (reports_disconnected_iff waits).trans ?_
      simp [leavesReason, waits]
  | textMessage m =>
    rw [Session.handleEvent, update]
    · rfl
    · rfl
  | channelsUpdated channels clients =>
    rw [Session.handleEvent, update]
    · simp [leavesReason]
    · rfl
  | error message =>
    refine iff_of_false ?_ (by simp [leavesReason])
    simp only [Session.handleEvent, Session.handleError]
    split <;> exact not_reports_of_kind rfl
  | update | commandError | clientJoined | clientLeft =>
    exact iff_of_false (not_reports_of_kind rfl) (by simp [leavesReason])

/-- After a failure and after every event that follows, the session has the text and the kind of
the failure if and only if no reconnect was considered and no event updated the session. -/
theorem failure_reason_stays_iff (idOf : κ → Int) (s t : Session χ κ) (env : Ambient)
    (event : TsEngineEvent χ κ) (failure : Failure) (failed : failure? event = some failure)
    (events : List (Ambient × TsEngineEvent χ κ))
    (run : Run (Session.step idOf) anyStep (s.handleEvent idOf env event) events t) :
    (∀ past u, past <+: events →
      Run (Session.step idOf) anyStep (s.handleEvent idOf env event) past u → Reports failure u) ↔
    reportsFailure failure s event = true ∧
      Run (Session.step idOf) (fun u next => leavesReason failure u next = true)
        (s.handleEvent idOf env event) events t := by
  rw [← reports_failure_iff failed]
  by_cases reported : Reports failure (s.handleEvent idOf env event)
  · rw [and_iff_right reported]
    refine run.always_iff (fun _ => True) trivial reported (fun _ _ _ _ _ => trivial) ?_
    intro u next v _ kept taken
    obtain rfl := Option.some.inj taken
    exact reports_handleEvent_iff kept next.2
  · refine iff_of_false (fun always => reported ?_) fun both => reported both.1
    exact always [] _ List.nil_prefix .start

/-- A session that is being connected. -/
def attempt (autoReconnect : Bool) : Session Nat Nat where
  state := { TsConnectionState.new with connecting := true, phase := .connecting }
  lastRequest := some ⟨"ts.example.org", "anna", none, none, none⟩
  autoReconnect := autoReconnect
  lastFileRequestId := none

def online : Ambient := ⟨0, ⟨0, le_refl 0, zero_lt_one⟩, true⟩

def timeout : TsEngineEvent Nat Nat := .connectFailed (some "timeout") (some "15 s") (some true)

def timedOut : Failure := ⟨"The server did not answer in time", "timeout"⟩

def afterwards : List (Ambient × TsEngineEvent Nat Nat) :=
  [(online, .clientUpdated), (online, .fileInfo (some false)), (online, .channelsUpdated [] [])]

theorem reason_without_reconnect : ∃ t,
    Run (Session.step Int.ofNat) anyStep ((attempt false).handleEvent Int.ofNat online timeout)
      afterwards t ∧ Reports timedOut t := by
  obtain ⟨t, run, -⟩ := reaches_of_guarded (leavesReason timedOut) (show
    (exec (guarded (leavesReason timedOut) (Session.step Int.ofNat))
      ((attempt false).handleEvent Int.ofNat online timeout) afterwards).any (fun _ => true) =
    true by decide +kernel)
  have plain : Run (Session.step Int.ofNat) anyStep
      ((attempt false).handleEvent Int.ofNat online timeout) afterwards t :=
    run.weaken fun _ _ _ => trivial
  have always := (failure_reason_stays_iff Int.ofNat (attempt false) t online timeout timedOut
    (by decide +kernel) afterwards plain).mpr ⟨by decide +kernel, run⟩
  exact ⟨t, plain, always afterwards t List.prefix_rfl plain⟩

/-- The scheduler clears the reason in the event that reports it. -/
theorem reason_cleared_by_scheduler : failure? timeout = some timedOut ∧
    ((attempt true).handleEvent Int.ofNat online timeout).state.phase = .reconnecting ∧
    ((attempt true).handleEvent Int.ofNat online timeout).state.error = none ∧
    ¬Reports timedOut ((attempt true).handleEvent Int.ofNat online timeout) := by
  decide +kernel

end Nek0.Guarantees
