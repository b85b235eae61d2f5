import Mathlib.Order.Defs.Unbundled
import Chip8.Proofs.Yields

/-!
# Two procedures side by side

Two procedures, each in a session of its own, agree if they have the same result and leave sessions
that are related. Procedures one after the other agree if the first ones do, and if the second ones
do from all related sessions on. What is printed and handed out is left open.

## Main definitions

* `Chip8.Procedure.Agree`

## Main results

* `Chip8.Procedure.Agree.bind`
-/

namespace Chip8.Procedure

variable {α β : Type} {R : Session → Session → Prop} {a b : Procedure α} {f g : α → Procedure β}
  {s t : Session}

/-- Performed in the sessions `s` and `t`, the procedures have the same result and leave related
sessions. -/
structure Agree (R : Session → Session → Prop) (a b : Procedure α) (s t : Session) : Prop where
  /-- The results are equal. -/
  result : (a s).result = (b t).result
  /-- The sessions afterwards are related. -/
  session : R (a s).session (b t).session

namespace Agree

theorem bind (h : Agree R a b s t) (hf : ∀ x s t, R s t → Agree R (f x) (g x) s t) :
    Agree R (a >>= f) (b >>= g) s t := by
  obtain ⟨hr, hs⟩ := h
  cases ha : (a s).result with
  | error e =>
    have hb : (b t).result = .error e := hr ▸ ha
    constructor
    · rw [bind_of_error ha, bind_of_error hb]
    · rw [bind_of_error ha, bind_of_error hb]
      exact hs
  | ok x =>
    have hb : (b t).result = .ok x := hr ▸ ha
    obtain ⟨hr', hs'⟩ := hf x _ _ hs
    constructor
    · rw [bind_of_ok ha, bind_of_ok hb]
      exact hr'
    · rw [bind_of_ok ha, bind_of_ok hb]
      exact hs'

theorem symm [Std.Symm R] (h : Agree R a b s t) : Agree R b a t s :=
  ⟨h.result.symm, Std.Symm.symm _ _ h.session⟩

theorem trans [IsTrans Session R] {c : Procedure α} {u : Session} (h : Agree R a b s t)
    (h' : Agree R b c t u) : Agree R a c s u :=
  ⟨h.result.trans h'.result, IsTrans.trans _ _ _ h.session h'.session⟩

theorem answer (h : Agree R a b s t) (answer : α → β) :
    Agree R (a >>= fun x => pure (answer x)) (b >>= fun x => pure (answer x)) s t :=
  h.bind fun _ _ _ h => ⟨rfl, h⟩

end Agree

theorem agree_of_yields {r : Except Error α} {s' t' : Session} {calls calls' : List DeviceCall}
    {pictures pictures' : List Delivery} (ha : a.Yields s r s' calls pictures)
    (hb : b.Yields t r t' calls' pictures') (h : R s' t') : Agree R a b s t where
  result := ha.result_eq.trans hb.result_eq.symm
  session := by rwa [ha.session_eq, hb.session_eq]

theorem agree_session_bind {f g : Session → Procedure β} (h : Agree R (f s) (g t) s t) :
    Agree R (session >>= f) (session >>= g) s t :=
  ⟨h.result, h.session⟩

/-! ### Procedures that leave the session as it is -/

section Steps

variable (h : R s t)

include h

theorem agree_pure (x : α) : Agree R (pure x) (pure x) s t := ⟨rfl, h⟩

theorem agree_fail (e : Error) : Agree R (fail e : Procedure α) (fail e) s t := ⟨rfl, h⟩

theorem agree_fail_bind (e : Error) (f g : α → Procedure β) :
    Agree R (fail e >>= f) (fail e >>= g) s t := ⟨rfl, h⟩

theorem agree_note (calls calls' : List DeviceCall) : Agree R (note calls) (note calls') s t :=
  ⟨rfl, h⟩

theorem agree_report (level : Level) (message : String) :
    Agree R (report level message) (report level message) s t := ⟨rfl, h⟩

theorem agree_ofExcept (x : Except Error α) : Agree R (ofExcept x) (ofExcept x) s t := by
  cases x with
  | error e => exact agree_fail h e
  | ok x => exact agree_pure h x

end Steps

end Chip8.Procedure
