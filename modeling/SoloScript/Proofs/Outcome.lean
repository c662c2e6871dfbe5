/-!
# When a computation that can fail succeeds

The operations of this library return `Except`.  These lemmas run a computation whose first part
is known, and take the run of a composed computation apart into runs of its parts.
-/

namespace SoloScript.Outcome

universe u v w

variable {ε : Type u} {ε' : Type v} {α β γ : Type w}

/-! ## Running known parts -/

@[simp] theorem pure_eq_ok (a : α) : (pure a : Except ε α) = .ok a := rfl

@[simp] theorem throw_eq_error (e : ε) : (throw e : Except ε α) = .error e := rfl

@[simp] theorem ok_bind (a : α) (f : α → Except ε β) : (Except.ok a >>= f) = f a := rfl

@[simp] theorem error_bind (e : ε) (f : α → Except ε β) : (Except.error e >>= f) = .error e := rfl

theorem map_bind (f : β → γ) (g : α → Except ε β) (x : Except ε α) :
    (x >>= g).map f = x >>= fun a ↦ (g a).map f := by
  cases x with
  | error e => rfl
  | ok a => rfl

/-! ## Parts of a known whole -/

theorem map_eq_ok_iff {f : α → β} {x : Except ε α} {b : β} :
    x.map f = .ok b ↔ ∃ a, x = .ok a ∧ f a = b := by
  cases x <;> simp [Except.map]

theorem bind_eq_ok_iff {f : α → Except ε β} {x : Except ε α} {b : β} :
    (x >>= f) = .ok b ↔ ∃ a, x = .ok a ∧ f a = .ok b := by
  cases x <;> simp [bind, Except.bind]

theorem bind_eq_error_iff {f : α → Except ε β} {x : Except ε α} {e : ε} :
    (x >>= f) = .error e ↔ x = .error e ∨ ∃ a, x = .ok a ∧ f a = .error e := by
  cases x <;> simp [bind, Except.bind]

theorem mapError_eq_ok_iff {f : ε → ε'} {x : Except ε α} {a : α} :
    x.mapError f = .ok a ↔ x = .ok a := by
  cases x with
  | error e => exact ⟨nofun, nofun⟩
  | ok found =>
    constructor
    · rintro ⟨⟩
      rfl
    · rintro ⟨⟩
      rfl

theorem map_eq_error_iff {f : α → β} {x : Except ε α} {e : ε} :
    x.map f = .error e ↔ x = .error e := by
  cases x <;> simp [Except.map]

theorem toOption_eq_some_iff {x : Except ε α} {a : α} : x.toOption = some a ↔ x = .ok a := by
  cases x <;> simp [Except.toOption]

/-! ## Lists of computations -/

/-- All computations of a list succeed exactly if there is a list of their values. -/
theorem exists_map_eq_map_ok_iff {f : α → Except ε β} {as : List α} :
    (∃ bs : List β, as.map f = bs.map .ok) ↔ ∀ a ∈ as, ∃ b, f a = .ok b := by
  constructor
  · rintro ⟨bs, same⟩ a mem
    have found : f a ∈ as.map f := List.mem_map_of_mem mem
    rw [same] at found
    obtain ⟨b, -, value⟩ := List.mem_map.1 found
    exact ⟨b, value.symm⟩
  · intro all
    induction as with
    | nil => exact ⟨[], rfl⟩
    | cons a as ih =>
      obtain ⟨⟨b, first⟩, others⟩ := List.forall_mem_cons.1 all
      obtain ⟨bs, same⟩ := ih others
      exact ⟨b :: bs, by rw [List.map_cons, List.map_cons, first, same]⟩

end SoloScript.Outcome
