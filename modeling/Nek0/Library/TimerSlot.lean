import Mathlib.Data.List.Basic

/-!
# Timers behind one variable

A program that keeps its timer in one variable can cancel only the timer it armed last. Arming a
timer puts it into the variable; whatever was there and is still pending can no longer be
cancelled. A timer leaves the pending ones when it fires or is cancelled, and no timer is ever
pending twice.
-/

namespace Nek0.Library

/-- The timers that are pending, the one in the variable (it may have fired or been cancelled)
and the name of the next one. -/
structure TimerSlot where
  pending : List Nat
  held : Option Nat
  fresh : Nat
  deriving DecidableEq, Repr

namespace TimerSlot

def empty : TimerSlot := ⟨[], none, 0⟩

def cancel (t : TimerSlot) : TimerSlot :=
  { t with pending := t.pending.filter fun timer => t.held ≠ some timer }

def arm (t : TimerSlot) : TimerSlot := ⟨t.pending ++ [t.fresh], some t.fresh, t.fresh + 1⟩

def rearm (t : TimerSlot) : TimerSlot := t.cancel.arm

def fire (t : TimerSlot) (timer : Nat) : TimerSlot :=
  { t with pending := t.pending.filter fun other => other ≠ timer }

/-- No pending timer has been forgotten. -/
def Owned (t : TimerSlot) : Prop := ∀ timer ∈ t.pending, t.held = some timer

variable {t : TimerSlot}

theorem owned_empty : Owned empty := by
  intro timer pending
  cases pending

/-- A cancel leaves no owned timer. -/
theorem Owned.pending_cancel (owned : Owned t) : t.cancel.pending = [] := by
  rw [cancel, List.filter_eq_nil_iff]
  intro timer pending
  simp [owned timer pending]

theorem Owned.pending_rearm (owned : Owned t) : t.rearm.pending = [t.fresh] := by
  have idle := owned.pending_cancel
  simp only [rearm, arm, idle]
  rfl

theorem Owned.cancel (owned : Owned t) : Owned t.cancel := by
  intro timer pending
  rw [owned.pending_cancel] at pending
  cases pending

theorem Owned.fire (owned : Owned t) (timer : Nat) : Owned (t.fire timer) :=
  fun other pending => owned other (List.mem_of_mem_filter pending)

/-- An owned timer that fires was the last one pending. -/
theorem Owned.pending_fire {timer : Nat} (owned : Owned t) (pending : timer ∈ t.pending) :
    (t.fire timer).pending = [] := by
  rw [TimerSlot.fire, List.filter_eq_nil_iff]
  intro other listed
  have same := (owned other listed).symm.trans (owned timer pending)
  simp [Option.some.inj same]

theorem length_fire_le (timer : Nat) : (t.fire timer).pending.length ≤ t.pending.length :=
  List.length_filter_le ..

theorem owned_arm (idle : t.pending = []) : Owned t.arm := by
  intro timer pending
  simp only [arm, idle, List.nil_append, List.mem_singleton] at pending
  simp [arm, pending]

theorem Owned.rearm (owned : Owned t) : Owned t.rearm := owned_arm owned.pending_cancel

theorem cancel_cancel (t : TimerSlot) : t.cancel.cancel = t.cancel := by simp [TimerSlot.cancel]

theorem rearm_cancel (t : TimerSlot) : t.cancel.rearm = t.rearm := by
  rw [TimerSlot.rearm, TimerSlot.rearm, cancel_cancel]

/-- One more timer is the only one exactly if none was pending. -/
theorem arm_alone_iff : t.arm.pending.length ≤ 1 ↔ t.pending = [] := by
  rw [arm, List.length_append, List.length_singleton, ← List.length_eq_zero_iff]
  omega

/-- The timer was left alone, cancelled or armed anew. -/
inductive Reset (t : TimerSlot) : TimerSlot → Prop where
  | kept : Reset t t
  | cancelled : Reset t t.cancel
  | rearmed : Reset t t.rearm

theorem Reset.owned {u : TimerSlot} (reset : Reset t u) (owned : Owned t) : Owned u := by
  cases reset with
  | kept => exact owned
  | cancelled => exact owned.cancel
  | rearmed => exact owned.rearm

theorem Reset.alone {u : TimerSlot} (reset : Reset t u) (owned : Owned t)
    (alone : t.pending.length ≤ 1) : u.pending.length ≤ 1 := by
  cases reset with
  | kept => exact alone
  | cancelled => simp [owned.pending_cancel]
  | rearmed => simp [owned.pending_rearm]

end TimerSlot

end Nek0.Library
