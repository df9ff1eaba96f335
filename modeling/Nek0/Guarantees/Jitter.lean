import Nek0.Source.NetworkStats

/-!
# Jitter in both directions

A round trip that is shorter than the one before it leaves the jitter as it was, so that the
jitter is the smoothed variation of the round trips only as long as that makes no difference.
-/

namespace Nek0.Guarantees

open Nek0.Source Nek0.Source.NetworkStats

/-- A session before its first sample. -/
def unmeasured : JitterState := ⟨0, 0⟩

/-- After the statistics of a session so far. -/
def jitterAfter (samples : List ConnectionStats) : JitterState :=
  samples.foldl (fun s stats => (networkStatsUpdated s stats).1) unmeasured

def absDiff (a b : UInt64) : UInt64 := if a ≤ b then b - a else a - b

def absDiffs : List UInt64 → List UInt64
  | [] | [_] => []
  | a :: b :: samples => absDiff a b :: absDiffs (b :: samples)

/-- The fold of the smoothing step over the differences of neighbours. -/
def smoothed (samples : List ConnectionStats) : UInt64 :=
  (absDiffs (samples.map (·.rttMs))).foldl smooth 0

/-- At every step the jitter is that of the differences so far. -/
def MeasuresBothWays (samples : List ConnectionStats) : Prop :=
  ∀ shorter, shorter <+: samples → (jitterAfter shorter).jitterMs = smoothed shorter

/-- The round trip is not shorter than the last one, or its difference would not change the
jitter. -/
def isSpared (s : JitterState) (rttMs : UInt64) : Bool :=
  s.lastRttMs ≤ rttMs || smooth s.jitterMs (s.lastRttMs - rttMs) == s.jitterMs

def allSpared (s : JitterState) : List ConnectionStats → Bool
  | [] => true
  | stats :: samples =>
    isSpared s stats.rttMs && allSpared (networkStatsUpdated s stats).1 samples

section Steps

variable {before samples : List ConnectionStats} {last stats : ConnectionStats}

theorem jitterAfter_concat (before : List ConnectionStats) (stats : ConnectionStats) :
    jitterAfter (before ++ [stats]) = updateJitter (jitterAfter before) stats.rttMs := by
  rw [jitterAfter, List.foldl_append]
  rfl

theorem allSpared_concat (s : JitterState) (before : List ConnectionStats)
    (stats : ConnectionStats) : allSpared s (before ++ [stats]) =
      (allSpared s before && isSpared
        (before.foldl (fun s stats => (networkStatsUpdated s stats).1) s) stats.rttMs) := by
  induction before generalizing s with
  | nil => simp [allSpared]
  | cons first before ih =>
    simp only [List.cons_append, allSpared, ih, List.foldl_cons, Bool.and_assoc]

theorem measures_concat_iff (before : List ConnectionStats) (stats : ConnectionStats) :
    MeasuresBothWays (before ++ [stats]) ↔ MeasuresBothWays before ∧
      (jitterAfter (before ++ [stats])).jitterMs = smoothed (before ++ [stats]) := by
  constructor
  · intro measures
    exact ⟨fun shorter first => measures shorter (first.trans (List.prefix_append _ _)),
      measures _ List.prefix_rfl⟩
  · rintro ⟨measures, last⟩ shorter first
    rcases List.prefix_concat_iff.mp first with rfl | first
    · exact last
    · exact measures shorter first

theorem absDiffs_concat (before : List UInt64) (last next : UInt64) :
    absDiffs (before ++ [last, next]) = absDiffs (before ++ [last]) ++ [absDiff last next] := by
  induction before using absDiffs.induct with
  | case1 => rfl
  | case2 a => rfl
  | case3 a b before ih =>
    simp only [List.cons_append, absDiffs] at ih ⊢
    rw [ih]

theorem absDiffs_take (samples : List UInt64) (n : Nat) :
    absDiffs (samples.take (n + 1)) = (absDiffs samples).take n := by
  induction samples using absDiffs.induct generalizing n with
  | case1 => simp [absDiffs]
  | case2 a => simp [absDiffs]
  | case3 a b samples ih =>
    cases n with
    | zero => rfl
    | succ n =>
      have rest := ih n
      rw [List.take_succ_cons] at rest
      rw [List.take_succ_cons, List.take_succ_cons, absDiffs, absDiffs, rest, List.take_succ_cons]

theorem smoothed_concat (before : List ConnectionStats) (last stats : ConnectionStats) :
    smoothed (before ++ [last] ++ [stats]) =
      smooth (smoothed (before ++ [last])) (absDiff last.rttMs stats.rttMs) := by
  have split : (before ++ [last] ++ [stats]).map (·.rttMs) =
      before.map (·.rttMs) ++ [last.rttMs, stats.rttMs] := by simp
  rw [smoothed, split, absDiffs_concat, List.foldl_append, smoothed, List.map_append]
  rfl

/-- Where the jitter was right, it stays so exactly if the round trip is spared. -/
theorem measured_concat_iff (positive : 0 < last.rttMs)
    (right : (jitterAfter (before ++ [last])).jitterMs = smoothed (before ++ [last])) :
    (jitterAfter (before ++ [last] ++ [stats])).jitterMs = smoothed (before ++ [last] ++ [stats]) ↔
      isSpared (jitterAfter (before ++ [last])) stats.rttMs = true := by
  have measured : (jitterAfter (before ++ [last])).lastRttMs = last.rttMs := by
    rw [jitterAfter_concat]
    rfl
  have known : last.rttMs ≠ 0 := UInt64.pos_iff_ne_zero.mp positive
  rw [jitterAfter_concat _ stats, smoothed_concat, ← right, updateJitter, isSpared, measured,
    absDiff]
  dsimp only
  by_cases longer : last.rttMs ≤ stats.rttMs
  · rw [if_pos ⟨known, longer⟩, if_pos longer, decide_eq_true longer, Bool.true_or]
    exact ⟨fun _ => rfl, fun _ => rfl⟩
  · rw [if_neg fun both => longer both.2, if_neg longer, decide_eq_false longer, Bool.false_or,
      beq_iff_eq]
    exact eq_comm

end Steps

theorem measures_iff_spared {samples : List ConnectionStats}
    (positive : ∀ stats ∈ samples, 0 < stats.rttMs) :
    MeasuresBothWays samples ↔ allSpared unmeasured samples = true := by
  induction samples using List.reverseRecOn with
  | nil =>
    refine ⟨fun _ => rfl, fun _ shorter first => ?_⟩
    obtain rfl := List.prefix_nil.mp first
    rfl
  | append_singleton before stats ih =>
    have measured := ih fun stats listed => positive stats (List.mem_append_left _ listed)
    rw [measures_concat_iff, allSpared_concat, Bool.and_eq_true, ← measured]
    refine and_congr_right fun measures => ?_
    rcases List.eq_nil_or_concat' before with rfl | ⟨before, last, rfl⟩
    · exact ⟨fun _ => rfl, fun _ => rfl⟩
    · have known := positive last (by simp)
      exact measured_concat_iff known (measures _ List.prefix_rfl)

/-- The jitter is the fold of the smoothing step over the differences of neighbours exactly if
every decrease is spared, and then it does not depend on the signs of the differences. -/
theorem jitter_measures_iff (samples : List ConnectionStats)
    (positive : ∀ stats ∈ samples, 0 < stats.rttMs) :
    (MeasuresBothWays samples ↔ allSpared unmeasured samples = true) ∧
      ∀ others : List ConnectionStats, (∀ stats ∈ others, 0 < stats.rttMs) →
        allSpared unmeasured samples = true → allSpared unmeasured others = true →
        absDiffs (samples.map (·.rttMs)) = absDiffs (others.map (·.rttMs)) →
        ∀ n, (jitterAfter (samples.take n)).jitterMs = (jitterAfter (others.take n)).jitterMs := by
  refine ⟨measures_iff_spared positive, fun others known spared spared' same n => ?_⟩
  rw [(measures_iff_spared positive).mpr spared _ (List.take_prefix n samples),
    (measures_iff_spared known).mpr spared' _ (List.take_prefix n others), smoothed, smoothed,
    List.map_take, List.map_take]
  cases n with
  | zero => rfl
  | succ n => rw [absDiffs_take, absDiffs_take, same]

/-- Statistics with a round trip time. -/
def sample (rttMs : UInt64) : ConnectionStats := { ConnectionStats.new with rttMs }

/-- Down by 20 ms after up by 20 ms, where it makes no difference. -/
theorem swing_is_measured :
    (jitterAfter [sample 30, sample 50, sample 30]).jitterMs =
      (jitterAfter [sample 30, sample 50, sample 70]).jitterMs :=
  (jitter_measures_iff [sample 30, sample 50, sample 30] (by simp [sample])).2
    [sample 30, sample 50, sample 70] (by simp [sample]) (by decide +kernel) (by decide +kernel)
    (by decide +kernel) 3

/-- Up by 20 ms counts, and down by 20 ms does not. -/
theorem decrease_is_ignored :
    absDiffs [10, 30] = absDiffs [30, 10] ∧
      (jitterAfter [sample 10, sample 30]).jitterMs = 20 ∧
      (jitterAfter [sample 30, sample 10]).jitterMs = 0 ∧
      ¬MeasuresBothWays [sample 30, sample 10] := by
  refine ⟨by decide +kernel, by decide +kernel, by decide +kernel, fun measures => ?_⟩
  have last := measures _ List.prefix_rfl
  revert last
  decide +kernel

end Nek0.Guarantees
