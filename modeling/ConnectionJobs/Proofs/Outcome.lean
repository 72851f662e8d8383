/-!
# Outcomes of steps that can fail

Settings are loaded, and log lines are written, in steps each of which can fail, and the first failure is the outcome of
them all. So all steps together succeed exactly when each of them does, with what those before it gave.
-/

namespace ConnectionJobs

section

variable {ε α β : Type} {x : Except ε α} {f : α → Except ε β}

/-- **Two steps succeed** when the first does, and the second does with what the first gave. -/
theorem bind_eq_ok_iff {b : β} : (x >>= f) = .ok b ↔ ∃ a, x = .ok a ∧ f a = .ok b := by
  cases x with
  | error e => exact ⟨fun failed => (nomatch failed), fun ⟨_, failed, _⟩ => (nomatch failed)⟩
  | ok a =>
    constructor
    · exact fun answered => ⟨a, rfl, answered⟩
    · rintro ⟨_, ⟨⟩, answered⟩
      exact answered

theorem exists_bind_ok_iff : (∃ b, (x >>= f) = .ok b) ↔ ∃ a, x = .ok a ∧ ∃ b, f a = .ok b := by
  constructor
  · rintro ⟨b, answered⟩
    obtain ⟨a, first, second⟩ := bind_eq_ok_iff.mp answered
    exact ⟨a, first, b, second⟩
  · rintro ⟨a, first, b, second⟩
    exact ⟨b, bind_eq_ok_iff.mpr ⟨a, first, second⟩⟩

/-- **Two checks succeed** when both do. -/
theorem check_eq_ok_iff {x y : Except ε Unit} : (x >>= fun _ => y) = .ok () ↔ x = .ok () ∧ y = .ok () := by
  rw [bind_eq_ok_iff]
  exact ⟨fun ⟨_, both⟩ => both, fun both => ⟨(), both⟩⟩

end

end ConnectionJobs
