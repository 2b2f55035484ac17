import DateShorthand.Fault

/-!
# Outcomes

What a computation that may fail returns, read off its pieces.
-/

namespace DateShorthand

variable {ε ε' α β : Type}

theorem ok_bind (a : α) (f : α → Except ε β) : (Except.ok a >>= f) = f a := rfl

theorem error_bind (e : ε) (f : α → Except ε β) : (Except.error e >>= f) = .error e := rfl

theorem bind_eq_ok_iff {x : Except ε α} {f : α → Except ε β} {b : β} :
    (x >>= f) = .ok b ↔ ∃ a, x = .ok a ∧ f a = .ok b := by
  cases x <;> simp [bind, Except.bind]

theorem bind_eq_error_iff {x : Except ε α} {f : α → Except ε β} {e : ε} :
    (x >>= f) = .error e ↔ x = .error e ∨ ∃ a, x = .ok a ∧ f a = .error e := by
  cases x <;> simp [bind, Except.bind]

theorem map_eq_ok_iff {x : Except ε α} {f : α → β} {b : β} :
    x.map f = .ok b ↔ ∃ a, x = .ok a ∧ f a = b := by
  cases x <;> simp [Except.map]

theorem map_eq_error_iff {x : Except ε α} {f : α → β} {e : ε} :
    x.map f = .error e ↔ x = .error e := by
  cases x <;> simp [Except.map]

theorem mapError_ok (a : α) (f : ε → ε') : (Except.ok a).mapError f = .ok a := rfl

theorem mapError_error (e : ε) (f : ε → ε') :
    (Except.error e : Except ε α).mapError f = .error (f e) := rfl

theorem mapError_eq_ok_iff {x : Except ε α} {f : ε → ε'} {a : α} :
    x.mapError f = .ok a ↔ x = .ok a := by
  cases x <;> simp [mapError_ok, mapError_error]

theorem mapError_eq_error_iff {x : Except ε α} {f : ε → ε'} {e : ε'} :
    x.mapError f = .error e ↔ ∃ e', x = .error e' ∧ f e' = e := by
  cases x <;> simp [mapError_ok, mapError_error]

theorem mapError_bind (x : Except ε α) (f : α → Except ε β) (g : ε → ε') :
    (x >>= f).mapError g = (do
      let a ← x.mapError g
      (f a).mapError g) := by
  cases x <;> rfl

theorem mapError_map (x : Except ε α) (f : α → β) (g : ε → ε') :
    (x.map f).mapError g = (x.mapError g).map f := by
  cases x <;> rfl

/-- What a stage makes of a changed value is seen in the whole, when the next stage follows the change. -/
theorem map_mapError_bind {x : Except ε α} {f : α → β} {g : ε → ε'} {γ : Type} {k : α → Except ε γ}
    {k' : β → Except ε' γ} (hk : ∀ a, k' (f a) = (k a).mapError g) :
    ((x.mapError g).map f >>= k') = (x >>= k).mapError g := by
  cases x with
  | error e => rfl
  | ok a => exact hk a

theorem exists_eq_error_iff {x : Except ε α} : (∃ e, x = .error e) ↔ ¬ ∃ a, x = .ok a := by
  cases x <;> simp

theorem CalendarFault.guard_eq_ok_iff {fragment : Text} {x : Except CalendarFault α} {a : α} :
    CalendarFault.guard fragment x = .ok a ↔ x = .ok a := by
  cases x <;> simp [CalendarFault.guard]

theorem CalendarFault.guard_eq_error_iff {fragment : Text} {x : Except CalendarFault α} {e : Failure} :
    CalendarFault.guard fragment x = .error e ↔
      e = .fault (.dateOutOfRange fragment) ∧ ∃ f, x = .error f := by
  cases x <;> simp [CalendarFault.guard, eq_comm]

/-! ## Escapes -/

/-- What comes out is neither a result nor a fault. -/
def Escapes (x : Except Failure α) : Prop := ∃ e, x = .error e ∧ ∀ f, e ≠ .fault f

theorem not_escapes_ok (a : α) : ¬ Escapes (.ok a) := by
  rintro ⟨e, h, -⟩
  simp at h

theorem not_escapes_fault (f : Fault) : ¬ Escapes (.error (.fault f) : Except Failure α) := by
  rintro ⟨e, h, hfault⟩
  rw [Except.error.injEq] at h
  exact hfault f h.symm

theorem escapes_bind_iff {x : Except Failure α} {f : α → Except Failure β} :
    Escapes (x >>= f) ↔ Escapes x ∨ ∃ a, x = .ok a ∧ Escapes (f a) := by
  cases x <;> simp [Escapes, bind, Except.bind]

theorem escapes_map_iff {x : Except Failure α} {f : α → β} : Escapes (x.map f) ↔ Escapes x := by
  cases x <;> simp [Escapes, Except.map]

theorem not_escapes_mapError {x : Except Fault α} : ¬ Escapes (x.mapError .fault) := by
  cases x with
  | error f => exact not_escapes_fault f
  | ok a => exact not_escapes_ok a

theorem not_escapes_guard {fragment : Text} {x : Except CalendarFault α} :
    ¬ Escapes (CalendarFault.guard fragment x) := by
  cases x with
  | error f => exact not_escapes_fault _
  | ok a => exact not_escapes_ok a

end DateShorthand
