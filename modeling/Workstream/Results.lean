/-!
# Results and failures

A chain of steps goes on from a result and stops at a failure, whatever is reported there. The
equations for a step that is known are for the simplifier, so that no proof has to look into
the chain itself.
-/

namespace Workstream

variable {Fault First Last : Type}

@[simp] theorem ok_bind (result : First) (next : First → Except Fault Last) :
    (Except.ok result >>= next) = next result := rfl

@[simp] theorem error_bind (fault : Fault) (next : First → Except Fault Last) :
    (Except.error fault >>= next) = .error fault := rfl

@[simp] theorem pure_eq_ok (result : First) : (pure result : Except Fault First) = .ok result := rfl

@[simp] theorem bind_ok (first : Except Fault First) : (first >>= Except.ok) = first := by
  cases first <;> rfl

@[simp] theorem ok_map (make : First → Last) (result : First) :
    (Except.ok result : Except Fault First).map make = .ok (make result) := rfl

@[simp] theorem error_map (make : First → Last) (fault : Fault) :
    (Except.error fault : Except Fault First).map make = .error fault := rfl

/-- One step after another succeeds when both of them do. -/
theorem bind_eq_ok_iff {first : Except Fault First} {second : First → Except Fault Last}
    {last : Last} :
    (first >>= second) = .ok last ↔ ∃ result, first = .ok result ∧ second result = .ok last := by
  cases first <;> simp

/-- What is made of a value is there when the value is. -/
theorem map_eq_ok_iff {first : Except Fault First} {make : First → Last} {last : Last} :
    first.map make = .ok last ↔ ∃ result, first = .ok result ∧ make result = last := by
  cases first <;> simp

/-- Nothing is done after a step that has failed. -/
theorem bind_eq_error {first : Except Fault First} {fault : Fault}
    (failed : first = .error fault) (second : First → Except Fault Last) :
    (first >>= second) = .error fault := by
  rw [failed, error_bind]

end Workstream
