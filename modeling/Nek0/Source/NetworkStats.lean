import Mathlib.Data.UInt
import Nek0.Library.RoundToEven
import Nek0.Library.SlotRing

/-!
# Network statistics

The branch of `handle_control_item` for `NetworkStatsUpdated` in `native/src/api.rs`, with the
statistics that it reads: those of `Resender` in `local_tsclientlib/tsproto/src/resend.rs`, which
counts packets and closes a second at a time. Packet loss is not here. Numbers that do not fit
into the 53 bits of an `f64` are rounded as the source rounds them.
-/

namespace Nek0.Source

open Library

inductive PacketStat where
  | inControl
  | inKeepalive
  | inSpeech
  | outControl
  | outKeepalive
  | outSpeech
  deriving DecidableEq, Repr

structure ConnectionStats where
  /-- `rtt` and `rtt_dev` in milliseconds, as the engine reads them. -/
  rttMs : UInt64
  rttDevMs : UInt64
  totalPackets : PacketStat → UInt64
  totalBytes : PacketStat → UInt64
  /-- `last_second_bytes` with `next_second_index`. -/
  lastSecondBytes : SlotRing 60 (PacketStat → UInt32)

namespace ConnectionStats

def new : ConnectionStats where
  rttMs := 0
  rttDevMs := 0
  totalPackets := fun _ => 0
  totalBytes := fun _ => 0
  lastSecondBytes := .new fun _ => 0

end ConnectionStats

structure Resender where
  stats : ConnectionStats
  /-- `bytes` of the `stats_counter`: the second that is going on. -/
  statsCounter : PacketStat → UInt32
  /-- The counts of all completed seconds, latest first. -/
  seconds : List (PacketStat → UInt32)

namespace Resender

def new : Resender := ⟨.new, fun _ => 0, []⟩

/-- `handle_loss_incoming` and `handle_loss_outgoing` -/
def count (r : Resender) (stat : PacketStat) (len : UInt32) : Resender :=
  { r with
    statsCounter := Function.update r.statsCounter stat (r.statsCounter stat + len)
    stats := { r.stats with
      totalPackets := Function.update r.stats.totalPackets stat (r.stats.totalPackets stat + 1)
      totalBytes := Function.update r.stats.totalBytes stat
        (r.stats.totalBytes stat + len.toUInt64) } }

/-- `update_srtt` -/
def measure (r : Resender) (rttMs rttDevMs : UInt64) : Resender :=
  { r with stats := { r.stats with rttMs, rttDevMs } }

/-- The statistics timer of `poll_ping`. -/
def completeSecond (r : Resender) : Resender where
  stats := { r.stats with lastSecondBytes := r.stats.lastSecondBytes.push r.statsCounter }
  statsCounter := fun _ => 0
  seconds := r.statsCounter :: r.seconds

inductive Action where
  | count (stat : PacketStat) (len : UInt32)
  | measure (rttMs rttDevMs : UInt64)
  | completeSecond

def step (r : Resender) : Action → Option Resender
  | .count stat len => some (r.count stat len)
  | .measure rttMs rttDevMs => some (r.measure rttMs rttDevMs)
  | .completeSecond => some r.completeSecond

end Resender

/-- A `network_stats` event. -/
structure NetworkStats where
  rttMs : UInt64
  rttDeviationMs : UInt64
  jitterMs : UInt64
  bytesIn : UInt64
  bytesOut : UInt64
  packetsIn : UInt64
  packetsOut : UInt64
  bandwidthIn : Nat
  bandwidthOut : Nat
  deriving DecidableEq, Repr

/-- The part of `TsConnection` that measures jitter. -/
structure JitterState where
  lastRttMs : UInt64
  jitterMs : UInt64
  deriving DecidableEq, Repr

namespace NetworkStats

def IN_KINDS : List PacketStat := [.inControl, .inKeepalive, .inSpeech]

def OUT_KINDS : List PacketStat := [.outControl, .outKeepalive, .outSpeech]

/-- An `f64` that is cast to `u64`. -/
def saturate (n : Nat) : UInt64 := .ofNat (min n (2 ^ 64 - 1))

/-- `jitter_ms` after a difference of `delta`. The sum is computed in quarters. -/
def smooth (jitterMs delta : UInt64) : UInt64 :=
  let delta := roundToEven 53 delta.toNat
  if jitterMs = 0 then saturate delta
  else
    let old := roundToEven 53 jitterMs.toNat
    saturate (roundToEven 53 (old + roundToEven 53 (3 * delta)) / 4)

def updateJitter (s : JitterState) (rttMs : UInt64) : JitterState where
  jitterMs :=
    if s.lastRttMs ≠ 0 ∧ s.lastRttMs ≤ rttMs then smooth s.jitterMs (rttMs - s.lastRttMs)
    else s.jitterMs
  lastRttMs := rttMs

/-- The sum over all slots. It has at most 180 summands of 32 bits. -/
def bandwidth (stats : ConnectionStats) (kinds : List PacketStat) : Nat :=
  ((List.finRange 60).flatMap fun slot =>
    kinds.map fun kind => (stats.lastSecondBytes.cells slot kind).toNat).sum

/-- `NetworkStatsUpdated`, on a session that is in the map and statistics that can be had. -/
def networkStatsUpdated (s : JitterState) (stats : ConnectionStats) :
    JitterState × NetworkStats :=
  let s := updateJitter s stats.rttMs
  (s, {
    rttMs := stats.rttMs
    rttDeviationMs := stats.rttDevMs
    jitterMs := s.jitterMs
    bytesIn := (IN_KINDS.map stats.totalBytes).sum
    bytesOut := (OUT_KINDS.map stats.totalBytes).sum
    packetsIn := (IN_KINDS.map stats.totalPackets).sum
    packetsOut := (OUT_KINDS.map stats.totalPackets).sum
    bandwidthIn := bandwidth stats IN_KINDS
    bandwidthOut := bandwidth stats OUT_KINDS })

section Smoothing

variable {jitterMs delta : UInt64}

theorem saturate_toNat {n : Nat} (small : n < 2 ^ 64) : (saturate n).toNat = n := by
  rw [saturate, UInt64.toNat_ofNat', Nat.min_eq_left (Nat.le_sub_one_of_lt small),
    Nat.mod_eq_of_lt small]

/-- Below the limits of `f64`, a quarter of the old jitter and three of the difference. -/
theorem smooth_toNat (small : jitterMs.toNat < 2 ^ 51) (near : delta.toNat < 2 ^ 51) :
    (smooth jitterMs delta).toNat =
      if jitterMs = 0 then delta.toNat else (jitterMs.toNat + 3 * delta.toNat) / 4 := by
  have exact_delta : roundToEven 53 delta.toNat = delta.toNat := roundToEven_of_lt (by omega)
  have exact_old : roundToEven 53 jitterMs.toNat = jitterMs.toNat := roundToEven_of_lt (by omega)
  have exact_part : roundToEven 53 (3 * delta.toNat) = 3 * delta.toNat :=
    roundToEven_of_lt (by omega)
  have exact_sum : roundToEven 53 (jitterMs.toNat + 3 * delta.toNat) =
      jitterMs.toNat + 3 * delta.toNat := roundToEven_of_lt (by omega)
  unfold smooth
  dsimp only
  rw [exact_delta, exact_old, exact_part, exact_sum]
  split
  · exact saturate_toNat (by omega)
  · exact saturate_toNat (by omega)

end Smoothing

end NetworkStats

end Nek0.Source
