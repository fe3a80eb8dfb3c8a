/-
What a conversion reports.

Narrowing reports itself, unchecked widening reports itself once its assertion has passed,
and checked widening reports that it met another domain. So a conversion reports one event
at most, and never an error: it does not end the program, and an assertion that fails, or a
refusal for another reason than the identity, says nothing.
-/
import TaggedStatus.Proofs.Erasure.Unchecked
import TaggedStatus.Proofs.Session.Conversion

set_option autoImplicit false

namespace TaggedStatus

variable {S : Setting}

/-! ## What widening reports -/

namespace Code.Widenings

variable {w : Width} {x : Code S (.erased w)} {E : Domain S}
variable {unchecked checked : Outcome (Code S (.typed E))} {event : Event}

/-- The unchecked widening reports itself once its assertion has passed. -/
theorem mem_events_unchecked (h : Widenings x E unchecked checked) :
    event ∈ unchecked.events ↔ ¬ unchecked.FailsAssertion ∧ event = .widening E.name w := by
  cases h with
  | empty => exact iff_of_false List.not_mem_nil (fun hpassed => hpassed.1 ⟨_, _, rfl⟩)
  | foreign => exact iff_of_false List.not_mem_nil (fun hpassed => hpassed.1 ⟨_, _, rfl⟩)
  | misread | read =>
      rw [List.mem_singleton, iff_and_self]
      rintro - ⟨found, expected, hasserted⟩
      cases hasserted

/-- The checked widening reports that it was refused for the identity, and nothing else. -/
theorem mem_events_checked (h : Widenings x E unchecked checked) :
    event ∈ checked.events
      ↔ ∃ error, checked.Refuses error
          ∧ (∃ found name, error = .domainMismatch E.id E.name found name)
          ∧ event = .rejected error := by
  cases h with
  | foreign =>
      rw [List.mem_singleton]
      constructor
      · intro hevent
        exact ⟨_, rfl, ⟨_, _, rfl⟩, hevent⟩
      · rintro ⟨error, hrefused, -, hevent⟩
        cases hrefused
        exact hevent
  | empty | misread | read =>
      refine iff_of_false List.not_mem_nil ?_
      rintro ⟨error, hrefused, ⟨found, name, rfl⟩, -⟩
      cases hrefused

theorem length_events_le (h : Widenings x E unchecked checked) :
    unchecked.events.length ≤ 1 ∧ checked.events.length ≤ 1 := by
  cases h <;> simp

/-- Widening does not end the program. -/
theorem result_ne_aborted (h : Widenings x E unchecked checked) (violation : Violation) :
    unchecked.result ≠ .error (.aborted violation)
      ∧ checked.result ≠ .error (.aborted violation) := by
  cases h <;> exact ⟨nofun, nofun⟩

end Code.Widenings

namespace Session

/-! ## What a conversion reports -/

section KeepCode

variable {shape : Shape S} (o : Outcome (Code S shape))

@[simp] theorem events_keepCode : (keepCode o).events = o.events := by
  obtain ⟨events, reason | c⟩ := o
  · rfl
  · exact List.append_nil events

theorem result_keepCode_eq_error_iff {reason : Stop} :
    (keepCode o).result = .error reason ↔ o.result = .error reason := by
  obtain ⟨events, reason' | c⟩ := o
  · constructor <;> (rintro ⟨⟩; rfl)
  · constructor <;> rintro ⟨⟩

end KeepCode

/-- The events of a conversion, or none. -/
def reports : Option (Conversion S) → List Event
  | none => []
  | some conversion => conversion.perform.events

section Reports

variable {conversion? : Option (Conversion S)} {event : Event}

/-- **What a conversion reports**: that a typed code was narrowed, that an erased one was
widened unchecked and the assertion passed, or that a checked widening met a code of another
domain. -/
theorem mem_reports :
    event ∈ reports conversion?
      ↔ (∃ D w c fit, conversion? = some (.narrow D w c fit) ∧ event = .narrowing D.name w)
        ∨ (∃ w x E fit, conversion? = some (.widen w x E fit)
            ∧ ¬ (x.widen E fit).FailsAssertion ∧ event = .widening E.name w)
        ∨ ∃ w x E fit, conversion? = some (.tryWiden w x E fit)
            ∧ ∃ error, (x.tryWiden E fit).Refuses error
              ∧ (∃ found name, error = .domainMismatch E.id E.name found name)
              ∧ event = .rejected error := by
  constructor
  · intro hevent
    rcases conversion? with _ | ⟨D, w, c, fit⟩ | ⟨w, x, E, fit⟩ | ⟨w, x, E, fit⟩
    · cases hevent
    · exact .inl ⟨D, w, c, fit, rfl, List.mem_singleton.mp hevent⟩
    · rw [reports, Conversion.perform, events_keepCode,
        (x.widenings E fit).mem_events_unchecked] at hevent
      exact .inr (.inl ⟨w, x, E, fit, rfl, hevent⟩)
    · rw [reports, Conversion.perform, events_keepCode,
        (x.widenings E fit).mem_events_checked] at hevent
      exact .inr (.inr ⟨w, x, E, fit, rfl, hevent⟩)
  · rintro (⟨D, w, c, fit, rfl, hevent⟩ | ⟨w, x, E, fit, rfl, hevent⟩ | ⟨w, x, E, fit, rfl, hevent⟩)
    · exact List.mem_singleton.mpr hevent
    · rw [reports, Conversion.perform, events_keepCode, (x.widenings E fit).mem_events_unchecked]
      exact hevent
    · rw [reports, Conversion.perform, events_keepCode, (x.widenings E fit).mem_events_checked]
      exact hevent

theorem length_reports_le : (reports conversion?).length ≤ 1 := by
  rcases conversion? with _ | ⟨D, w, c, fit⟩ | ⟨w, x, E, fit⟩ | ⟨w, x, E, fit⟩
  · exact Nat.zero_le 1
  · exact Nat.le_refl 1
  · rw [reports, Conversion.perform, events_keepCode]
    exact (x.widenings E fit).length_events_le.1
  · rw [reports, Conversion.perform, events_keepCode]
    exact (x.widenings E fit).length_events_le.2

/-- Whatever a conversion reports, it is not an error. -/
theorem level_ne_error_of_mem_reports (h : event ∈ reports conversion?) :
    event.level ≠ .error := by
  rw [mem_reports] at h
  rcases h with ⟨D, w, c, fit, -, rfl⟩ | ⟨w, x, E, fit, -, -, rfl⟩
    | ⟨w, x, E, fit, -, error, -, -, rfl⟩
  · exact nofun
  · exact nofun
  · exact nofun

end Reports

/-- A conversion does not end the program. -/
theorem Conversion.result_perform_ne_aborted (conversion : Conversion S) (violation : Violation) :
    conversion.perform.result ≠ .error (.aborted violation) := by
  rcases conversion with ⟨D, w, c, fit⟩ | ⟨w, x, E, fit⟩ | ⟨w, x, E, fit⟩
  · exact nofun
  · rw [perform, ne_eq, result_keepCode_eq_error_iff]
    exact ((x.widenings E fit).result_ne_aborted violation).1
  · rw [perform, ne_eq, result_keepCode_eq_error_iff]
    exact ((x.widenings E fit).result_ne_aborted violation).2

/-- A conversion whose assertion fails has reported nothing. -/
theorem Conversion.reports_of_asserted {conversion : Conversion S} {found : Option DomainId}
    {expected : DomainId} (h : conversion.perform.result = .error (.asserted found expected)) :
    reports (some conversion) = [] := by
  rw [List.eq_nil_iff_forall_not_mem]
  intro event hevent
  -- Each of the events that there are goes with another end.
  rcases mem_reports.mp hevent with ⟨D, w, c, fit, hconversion, -⟩
    | ⟨w, x, E, fit, hconversion, hpassed, -⟩ | ⟨w, x, E, fit, hconversion, error, hrefused, -⟩
  · cases hconversion
    cases h
  · cases hconversion
    rw [perform, result_keepCode_eq_error_iff] at h
    exact hpassed ⟨found, expected, h⟩
  · cases hconversion
    rw [perform, result_keepCode_eq_error_iff, hrefused] at h
    cases h

end Session

end TaggedStatus
