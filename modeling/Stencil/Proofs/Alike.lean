import Stencil.Located
import Stencil.Proofs.Checked

/-!
# Results apart from positions

Two results are alike when they agree in everything but the byte positions at
which they fail: both succeed with related values, or both fail for the same
reason.
-/

namespace Stencil

namespace Located

variable {γ δ α β α' β' : Type} {related : α → β → Prop} {next : α' → β' → Prop}

/-- Results that agree apart from the positions of failures. -/
inductive Alike (related : α → β → Prop) :
    Except (Located γ) α → Except (Located γ) β → Prop
  | ok {first : α} {second : β} (here : related first second) :
      Alike related (.ok first) (.ok second)
  | error {first second : Located γ} (same : first.content = second.content) :
      Alike related (.error first) (.error second)

namespace Alike

variable {first : Except (Located γ) α} {second : Except (Located γ) β}

theorem bind {step : α → Except (Located γ) α'} {other : β → Except (Located γ) β'}
    (alike : Alike related first second)
    (later : ∀ left right, related left right → Alike next (step left) (other right)) :
    Alike next (first >>= step) (second >>= other) := by
  cases alike with
  | ok here => exact later _ _ here
  | error same => exact .error same

/-- Equal values are passed on, so what follows is alike for each of them. -/
theorem bind_eq {step : α → Except (Located γ) α'} {other : α → Except (Located γ) β'}
    {second : Except (Located γ) α} (alike : Alike Eq first second)
    (later : ∀ value, Alike next (step value) (other value)) :
    Alike next (first >>= step) (second >>= other) :=
  alike.bind fun left _ same => same ▸ later left

theorem map {change : α → α'} {other : β → β'} (alike : Alike related first second)
    (later : ∀ left right, related left right → next (change left) (other right)) :
    Alike next (first.map change) (second.map other) := by
  cases alike with
  | ok here => exact .ok (later _ _ here)
  | error same => exact .error same

theorem map_eq {second : Except (Located γ) α} (alike : Alike Eq first second)
    (change : α → α') : Alike Eq (first.map change) (second.map change) :=
  alike.map fun _ _ same => congrArg change same

/-- What failures are turned into may depend on their reasons only. -/
theorem mapError {change other : Located γ → Located δ} (alike : Alike related first second)
    (later : ∀ left right, left.content = right.content →
      (change left).content = (other right).content) :
    Alike related (first.mapError change) (second.mapError other) := by
  cases alike with
  | ok here => exact .ok here
  | error same => exact .error (later _ _ same)

theorem toOption_eq {second : Except (Located γ) α} (alike : Alike Eq first second) :
    first.toOption = second.toOption := by
  cases alike with
  | ok here => rw [here]
  | error same => rfl

end Alike

end Located

end Stencil
