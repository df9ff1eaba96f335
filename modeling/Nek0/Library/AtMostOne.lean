import Mathlib.Data.Set.Basic

/-!
# At most one token

Each group that is watched holds at most one token, and tokens are passed on: a
step drops tokens, turns one token into another, or hands a token to a group that
held none. The rules here keep the bound through each of these.
-/

namespace Nek0.Library

variable {G T : Type*}

/-- Every watched group holds at most one token. -/
def AtMostOne (watched : Set G) (holds : G → T → Prop) : Prop :=
  ∀ group ∈ watched, ∀ first second, holds group first → holds group second → first = second

variable {watched : Set G} {holds later : G → T → Prop}

/-- Dropping tokens. -/
theorem AtMostOne.mono (unique : AtMostOne watched holds)
    (kept : ∀ group token, later group token → holds group token) : AtMostOne watched later :=
  fun group inside first second one other =>
    unique group inside first second (kept group first one) (kept group second other)

/-- A group whose only token may be `old` gives it up and gets `new`. -/
theorem AtMostOne.claim (unique : AtMostOne watched holds) {group : G} (old new : T)
    (only : group ∈ watched → ∀ token, holds group token → token = old)
    (passed : ∀ other token, later other token →
      token ≠ old ∧ holds other token ∨ other = group ∧ token = new) : AtMostOne watched later := by
  intro other inside first second one two
  rcases passed other first one with ⟨notOld₁, held₁⟩ | ⟨rfl, rfl⟩
  · rcases passed other second two with ⟨_, held₂⟩ | ⟨rfl, rfl⟩
    · exact unique other inside first second held₁ held₂
    · exact absurd (only inside first held₁) notOld₁
  · rcases passed other second two with ⟨notOld₂, held₂⟩ | ⟨_, rfl⟩
    · exact absurd (only inside second held₂) notOld₂
    · rfl

/-- The token `old` of a group becomes `new`. -/
theorem AtMostOne.pass (unique : AtMostOne watched holds) {group : G} (old new : T)
    (given : holds group old)
    (passed : ∀ other token, later other token →
      token ≠ old ∧ holds other token ∨ other = group ∧ token = new) : AtMostOne watched later :=
  unique.claim old new (fun inside token held => unique group inside token old held given) passed

/-- A group without a token gets one. -/
theorem AtMostOne.fresh (unique : AtMostOne watched holds) {group : G} {new : T}
    (none : ∀ token, ¬ holds group token)
    (passed : ∀ other token, later other token →
      holds other token ∨ other = group ∧ token = new) : AtMostOne watched later := by
  intro other inside first second one two
  rcases passed other first one with held₁ | ⟨rfl, rfl⟩
  · rcases passed other second two with held₂ | ⟨rfl, rfl⟩
    · exact unique other inside first second held₁ held₂
    · exact absurd held₁ (none first)
  · rcases passed other second two with held₂ | ⟨_, rfl⟩
    · exact absurd held₂ (none second)
    · rfl

end Nek0.Library
