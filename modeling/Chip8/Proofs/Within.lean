import Mathlib.Order.Defs.Unbundled
import Chip8.Session.Basic

/-!
# Relations that procedures keep to

A procedure keeps to a relation between sessions if it relates every session to the one that it
leaves, be it after a success or after a failure. Procedures one after the other keep to a preorder
to which each of them does.

## Main definitions

* `Chip8.Procedure.Within`

## Main results

* `Chip8.Procedure.Within.bind`
-/

namespace Chip8.Procedure

variable {α β : Type} {R : Session → Session → Prop} {a b : Procedure α} {f : α → Procedure β}

/-- The procedure relates every session to the one that it leaves. -/
def Within (R : Session → Session → Prop) (a : Procedure α) : Prop :=
  ∀ s, R s (a s).session

theorem within_update {g : Session → Session} (h : ∀ s, R s (g s)) : Within R (update g) :=
  h

theorem session_answer (a : Procedure α) (answer : α → β) (s : Session) :
    ((a >>= fun x => pure (answer x)) s).session = (a s).session := by
  cases hr : (a s).result with
  | error e => rw [bind_of_error hr]
  | ok x =>
    rw [bind_of_ok hr]
    rfl

theorem answer_result_eq_error_iff {a : Procedure α} {answer : α → β} {s : Session} {e : Error} :
    ((a >>= fun x => pure (answer x)) s).result = .error e ↔ (a s).result = .error e := by
  cases hr : (a s).result with
  | error e' => rw [bind_of_error hr, Except.error.injEq, Except.error.injEq]
  | ok x =>
    rw [bind_of_ok hr]
    exact ⟨nofun, nofun⟩

namespace Within

theorem mono {R' : Session → Session → Prop} (ha : Within R a) (h : ∀ s t, R s t → R' s t) :
    Within R' a :=
  fun s => h s _ (ha s)

theorem answer (ha : Within R a) (answer : α → β) :
    Within R (a >>= fun x => pure (answer x)) := by
  intro s
  rw [session_answer]
  exact ha s

theorem ite {p : Prop} [Decidable p] (ha : Within R a) (hb : Within R b) :
    Within R (if p then a else b) := by
  split
  · exact ha
  · exact hb

theorem bind [IsTrans Session R] (ha : Within R a) (hf : ∀ x, Within R (f x)) :
    Within R (a >>= f) := by
  intro s
  cases hr : (a s).result with
  | error e =>
    rw [bind_of_error hr]
    exact ha s
  | ok x =>
    rw [bind_of_ok hr]
    exact IsTrans.trans _ _ _ (ha s) (hf x (a s).session)

end Within

/-! ### Procedures that leave the session as it is -/

section Refl

variable [Std.Refl R]

theorem within_pure (x : α) : Within R (pure x : Procedure α) := fun s => Std.Refl.refl s

theorem within_fail (e : Error) : Within R (fail e : Procedure α) := fun s => Std.Refl.refl s

theorem within_fail_bind (e : Error) (f : α → Procedure β) : Within R (fail e >>= f) :=
  fun s => Std.Refl.refl s

theorem within_session : Within R session := fun s => Std.Refl.refl s

theorem within_note (calls : List DeviceCall) : Within R (note calls) := fun s => Std.Refl.refl s

theorem within_report (level : Level) (message : String) : Within R (report level message) :=
  fun s => Std.Refl.refl s

theorem within_ofExcept (x : Except Error α) : Within R (ofExcept x) := by
  cases x with
  | error e => exact within_fail e
  | ok x => exact within_pure x

end Refl

end Chip8.Procedure
