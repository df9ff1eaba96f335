import Mathlib.Data.List.GetD
import Nek0.Library.Run
import Nek0.Source.NetworkStats

/-!
# The bandwidth of the last second

The ring holds the last sixty seconds, and the engine sums up all of it.
-/

namespace Nek0.Guarantees

open Nek0.Library Nek0.Source Nek0.Source.NetworkStats

/-- The bytes of some kinds in a second, as the library counts them. -/
def bytesIn (kinds : List PacketStat) (second : PacketStat → UInt32) : Nat :=
  (kinds.map fun kind => (second kind).toNat).sum

/-- The event tells what was received and sent in this second. -/
def Tells (event : NetworkStats) (second : PacketStat → UInt32) : Prop :=
  event.bandwidthIn = bytesIn IN_KINDS second ∧ event.bandwidthOut = bytesIn OUT_KINDS second

/-- Nothing was received or sent. -/
def hasNoBytes (second : PacketStat → UInt32) : Bool :=
  bytesIn IN_KINDS second == 0 && bytesIn OUT_KINDS second == 0

/-- The seconds that are completed, latest first, and nothing before them. -/
def past (seconds : List (PacketStat → UInt32)) (age : Nat) : PacketStat → UInt32 :=
  seconds.getD age fun _ => 0

theorem holds_past_step {r u : Resender} {action : Resender.Action}
    (holds : r.stats.lastSecondBytes.Holds (past r.seconds)) (taken : r.step action = some u) :
    u.stats.lastSecondBytes.Holds (past u.seconds) := by
  cases action with
  | count stat len =>
    obtain rfl := Option.some.inj taken
    exact holds
  | measure rttMs rttDevMs =>
    obtain rfl := Option.some.inj taken
    exact holds
  | completeSecond =>
    obtain rfl := Option.some.inj taken
    exact holds.push r.statsCounter rfl fun _ => rfl

/-- In every run the ring holds the last seconds. -/
theorem holds_past {actions : List Resender.Action} {r : Resender}
    (run : Run Resender.step anyStep .new actions r) :
    r.stats.lastSecondBytes.Holds (past r.seconds) :=
  run.invariant (fun r => r.stats.lastSecondBytes.Holds (past r.seconds))
    (SlotRing.holds_new fun _ => 0)
    fun _ _ _ holds _ taken => holds_past_step holds taken

theorem bandwidth_eq {stats : ConnectionStats} {history : Nat → PacketStat → UInt32}
    (holds : stats.lastSecondBytes.Holds history) (kinds : List PacketStat) :
    bandwidth stats kinds = ∑ age : Fin 60, bytesIn kinds (history age) := by
  rw [← holds.sum (bytesIn kinds), bandwidth, List.flatMap_def, List.sum_flatten, List.map_map,
    Fin.sum_univ_def]
  rfl

/-- The sum is that of the latest second exactly if the others add nothing. -/
theorem sum_eq_first_iff (f : (PacketStat → UInt32) → Nat) (nothing : f (fun _ => 0) = 0)
    (second : PacketStat → UInt32) (older : List (PacketStat → UInt32)) :
    ∑ age : Fin 60, f (past (second :: older) age) = f second ↔
      ∀ other ∈ older.take 59, f other = 0 := by
  rw [Fin.sum_univ_succ]
  have first : f (past (second :: older) (0 : Fin 60)) = f second := rfl
  have shifted (age : Fin 59) : past (second :: older) age.succ = past older age := rfl
  simp only [first, add_eq_left, Finset.sum_eq_zero_iff, Finset.mem_univ, forall_const, shifted]
  constructor
  · intro quiet other listed
    obtain ⟨age, short, rfl⟩ := List.mem_take_iff_getElem.mp listed
    rw [Nat.lt_min] at short
    have found := quiet ⟨age, short.1⟩
    rwa [past, List.getD_eq_getElem _ _ short.2] at found
  · intro quiet age
    by_cases known : age.val < older.length
    · rw [past, List.getD_eq_getElem _ _ known]
      exact quiet _ (List.mem_take_iff_getElem.mpr ⟨age, Nat.lt_min.mpr ⟨age.isLt, known⟩, rfl⟩)
    · rw [past, List.getD_eq_default _ _ (Nat.not_lt.mp known)]
      exact nothing

/-- In every run the event tells the bytes of the second that was completed last exactly if the
fifty-nine seconds before it were quiet. -/
theorem tells_last_second_iff {actions : List Resender.Action} {r : Resender}
    (run : Run Resender.step anyStep .new actions r) {second : PacketStat → UInt32}
    {older : List (PacketStat → UInt32)} (completed : r.seconds = second :: older)
    (s : JitterState) :
    Tells (networkStatsUpdated s r.stats).2 second ↔ (older.take 59).all hasNoBytes = true := by
  have holds := holds_past run
  rw [completed] at holds
  have received := sum_eq_first_iff (bytesIn IN_KINDS) rfl second older
  have sent := sum_eq_first_iff (bytesIn OUT_KINDS) rfl second older
  simp only [Tells, networkStatsUpdated, bandwidth_eq holds, received, sent, List.all_eq_true,
    hasNoBytes, Bool.and_eq_true, beq_iff_eq]
  exact ⟨fun both other listed => ⟨both.1 other listed, both.2 other listed⟩,
    fun both =>
      ⟨fun other listed => (both other listed).1, fun other listed => (both other listed).2⟩⟩

/-- A second with 100 bytes of voice, a minute ago, and one with 30 bytes of pings just now. -/
def quietMinute : List Resender.Action :=
  [.count .inSpeech 100, .completeSecond] ++ List.replicate 59 .completeSecond ++
    [.count .inKeepalive 30, .completeSecond]

theorem quiet_minute_is_told : ∃ r second older,
    Run Resender.step anyStep .new quietMinute r ∧ r.seconds = second :: older ∧
      older.length = 60 ∧ Tells (networkStatsUpdated ⟨0, 0⟩ r.stats).2 second ∧
      (networkStatsUpdated ⟨0, 0⟩ r.stats).2.bandwidthIn = 30 := by
  have computed : (exec Resender.step Resender.new quietMinute).any (fun r =>
      decide (r.seconds.length = 61) && (r.seconds.tail.take 59).all hasNoBytes &&
        decide ((networkStatsUpdated ⟨0, 0⟩ r.stats).2.bandwidthIn = 30)) = true := by
    decide +kernel
  obtain ⟨r, run, passed⟩ := reaches_of_exec anyStep (fun _ _ _ => trivial) computed
  simp only [Bool.and_eq_true, decide_eq_true_eq] at passed
  obtain ⟨⟨count, quiet⟩, told⟩ := passed
  obtain ⟨second, older, split⟩ := List.exists_cons_of_length_eq_add_one count
  rw [split] at count quiet
  refine ⟨r, second, older, run, split, Nat.succ.inj count, ?_, told⟩
  exact (tells_last_second_iff run split ⟨0, 0⟩).mpr quiet

/-- A second with 100 bytes of voice, and one with 30 bytes of pings behind it. -/
def firstSecond : Resender := (Resender.new.count .inSpeech 100).completeSecond

def secondSecond : Resender := (firstSecond.count .inKeepalive 30).completeSecond

/-- The first second is added to the second one. -/
theorem minute_is_told :
    Run Resender.step anyStep .new
        [.count .inSpeech 100, .completeSecond, .count .inKeepalive 30, .completeSecond]
        secondSecond ∧
      secondSecond.seconds.map (bytesIn IN_KINDS) = [30, 100] ∧
      (networkStatsUpdated ⟨0, 0⟩ secondSecond.stats).2.bandwidthIn = 130 ∧
      ¬Tells (networkStatsUpdated ⟨0, 0⟩ secondSecond.stats).2
        (firstSecond.count .inKeepalive 30).statsCounter := by
  refine ⟨.cons trivial rfl (.cons trivial rfl (.cons trivial rfl (.single trivial rfl))),
    by decide +kernel, by decide +kernel, fun tells => ?_⟩
  have received := tells.1
  revert received
  decide +kernel

end Nek0.Guarantees
