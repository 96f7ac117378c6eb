/-
Computations that may fail, step by step: what the result of a sequence of
steps says of each of them.
-/
import SeriesQuery.Failure

namespace SeriesQuery

theorem bind_ok_iff {ε α β : Type} {x : Except ε α} {f : α → Except ε β} {b : β} :
    (x >>= f) = .ok b ↔ ∃ a, x = .ok a ∧ f a = .ok b := by
  cases x with
  | error e => simp [bind, Except.bind]
  | ok a => simp [bind, Except.bind]

@[simp] theorem ok_bind {ε α β : Type} (a : α) (f : α → Except ε β) :
    ((.ok a : Except ε α) >>= f) = f a := rfl

@[simp] theorem error_bind {ε α β : Type} (e : ε) (f : α → Except ε β) :
    ((.error e : Except ε α) >>= f) = .error e := rfl

/-- Naming a failure anew changes no result. -/
@[simp] theorem mapError_eq_ok {ε ε' α : Type} {f : ε → ε'} {x : Except ε α} {a : α} :
    x.mapError f = .ok a ↔ x = .ok a := by
  cases x with
  | error e => exact iff_of_false (fun h => by cases h) (fun h => by cases h)
  | ok b => exact ⟨fun h => by cases h; rfl, fun h => by cases h; rfl⟩

theorem map_eq_ok {ε α β : Type} {f : α → β} {x : Except ε α} {b : β} :
    x.map f = .ok b ↔ ∃ a, x = .ok a ∧ f a = b := by
  cases x with
  | error e => exact iff_of_false (fun h => by cases h) (fun ⟨_, h, _⟩ => by cases h)
  | ok a => exact ⟨fun h => ⟨a, rfl, Except.ok.inj h⟩, fun ⟨_, h, hb⟩ => by cases h; rw [← hb]; rfl⟩

/-- A failure of the one sort, or a result of the other. -/
def ComesTo {ε α : Type} (x : Except ε α) (bad : ε → Prop) (good : α → Prop) : Prop :=
  match x with
  | .ok a => good a
  | .error e => bad e

namespace ComesTo

variable {ε α β : Type} {x : Except ε α} {f : α → Except ε β} {bad : ε → Prop} {good : α → Prop}

theorem bind_of_eq {good' : β → Prop} (h : ComesTo x bad good)
    (hf : ∀ a, x = .ok a → good a → ComesTo (f a) bad good') : ComesTo (x >>= f) bad good' := by
  cases x with
  | error e => exact h
  | ok a => exact hf a rfl h

theorem bind {good' : β → Prop} (h : ComesTo x bad good)
    (hf : ∀ a, good a → ComesTo (f a) bad good') : ComesTo (x >>= f) bad good' :=
  h.bind_of_eq fun a _ => hf a

theorem mono {good' : α → Prop} (h : ComesTo x bad good) (hgood : ∀ a, good a → good' a) :
    ComesTo x bad good' := by
  cases x with
  | error e => exact h
  | ok a => exact hgood a h

theorem of_ok (h : ComesTo x bad good) {a : α} (ha : x = .ok a) : good a := by
  rw [ha] at h
  exact h

theorem of_error (h : ComesTo x bad good) {e : ε} (he : x = .error e) : bad e := by
  rw [he] at h
  exact h

theorem mapError {ε' : Type} {g : ε → ε'} {bad' : ε' → Prop} (h : ComesTo x bad good)
    (hbad : ∀ e, bad e → bad' (g e)) : ComesTo (x.mapError g) bad' good := by
  cases x with
  | error e => exact hbad e h
  | ok a => exact h

end ComesTo

end SeriesQuery
