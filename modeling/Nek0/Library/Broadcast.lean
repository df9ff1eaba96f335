/-!
# Broadcast

A value with copies that are made and reset while updates of all copies are under way. The copies
are promised the value if they agree with it or one of the updates will bring it. Promised copies
agree as soon as nothing is pending.
-/

namespace Nek0.Library

universe u v

/-- An update of all copies that was begun. -/
inductive Update (V : Type v) where
  /-- Copies what the source says when the update is done. -/
  | load
  | apply (value : V)
  /-- Sets the source as well. -/
  | store (value : V)

/-- What a member shows, and what it may be shown. -/
structure Broadcast (K : Type u) (V : Type v) where
  source : V
  members : List K
  copy : K → V
  pending : List (Update V)

namespace Update

variable {V : Type v}

/-- The copies agree with the source once this update is done. -/
def Brings (source : V) : Update V → Prop
  | load => True
  | apply value => value = source
  | store _ => True

instance [DecidableEq V] (source : V) : DecidablePred (Brings source) := fun update =>
  match update with
  | load => isTrue trivial
  | apply value => inferInstanceAs (Decidable (value = source))
  | store _ => isTrue trivial

end Update

namespace Broadcast

variable {K : Type u} {V : Type v} {b c : Broadcast K V}

def Agrees (b : Broadcast K V) : Prop := ∀ k ∈ b.members, b.copy k = b.source

def Coming (b : Broadcast K V) : Prop := ∃ update ∈ b.pending, update.Brings b.source

def Promised (b : Broadcast K V) : Prop := b.Agrees ∨ b.Coming

/-- A copy may have this value. -/
def Accepts (b : Broadcast K V) (value : V) : Prop := value = b.source ∨ b.Coming

instance [DecidableEq V] (b : Broadcast K V) : DecidablePred b.Accepts := fun value =>
  inferInstanceAs (Decidable (value = b.source ∨ ∃ update ∈ b.pending, update.Brings b.source))

theorem Promised.agrees (promised : b.Promised) (idle : b.pending = []) : b.Agrees := by
  rcases promised with agrees | ⟨update, listed, -⟩
  · exact agrees
  · rw [idle] at listed
    cases listed

theorem Coming.mono (coming : b.Coming) (source : c.source = b.source)
    (pending : ∀ update ∈ b.pending, update ∈ c.pending) : c.Coming := by
  obtain ⟨update, listed, brings⟩ := coming
  exact ⟨update, pending update listed, source ▸ brings⟩

theorem Accepts.mono {value : V} (accepts : b.Accepts value) (source : c.source = b.source)
    (pending : ∀ update ∈ b.pending, update ∈ c.pending) : c.Accepts value :=
  accepts.imp (fun same => same.trans source.symm) fun coming => coming.mono source pending

theorem Promised.accepts (promised : b.Promised) {k : K} (member : k ∈ b.members) :
    b.Accepts (b.copy k) :=
  promised.imp_left fun agrees => agrees k member

/-- The source stays, and no update is lost. Every copy that is made or changed must be accepted. -/
theorem Promised.extend (promised : b.Promised) (source : c.source = b.source)
    (pending : ∀ update ∈ b.pending, update ∈ c.pending)
    (members : ∀ k ∈ c.members, k ∈ b.members ∧ c.copy k = b.copy k ∨ b.Accepts (c.copy k)) :
    c.Promised := by
  by_cases coming : b.Coming
  · exact .inr (coming.mono source pending)
  · refine .inl fun k member => ?_
    rw [source]
    rcases members k member with ⟨before, same⟩ | shows | late
    · rw [same]
      exact (promised.accepts before).resolve_right coming
    · exact shows
    · exact absurd late coming

/-- An update is done: all members show what it brought. -/
theorem promised_of_done {value : V} (copy : ∀ k ∈ c.members, c.copy k = value)
    (right : c.members = [] ∨ c.Accepts value) : c.Promised := by
  rcases right with none | rfl | coming
  · refine .inl fun k member => ?_
    rw [none] at member
    cases member
  · exact .inl copy
  · exact .inr coming

end Broadcast

end Nek0.Library
