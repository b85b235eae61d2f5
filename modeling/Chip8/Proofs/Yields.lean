import Chip8.Session.Basic

/-!
# What procedures yield

A procedure yields a result, a session, calls of the devices and pictures for listeners. What it
prints is left open here, so that procedures that differ in their messages only yield the same.

## Main definitions

* `Chip8.Procedure.Yields`

## Main results

* `Chip8.Procedure.Yields.bind`, `Chip8.Procedure.Yields.bind_error` : what two procedures yield,
  one after the other.
* `Chip8.Procedure.Yields.haltingOnFault_error` : a fault sets the flag that the processor is
  halted.
-/

namespace Chip8

/-- The error is a fault of the machine. -/
def Error.isFault : Error → Bool
  | .fault _ => true
  | .misuse _ => false

/-- The session after an error, which halts the processor if it is a fault. -/
def Session.haltedBy (s : Session) (e : Error) : Session :=
  { s with halted := s.halted || e.isFault }

@[simp] theorem Session.haltedBy_fault (s : Session) (f : Fault) :
    s.haltedBy (.fault f) = { s with halted := true } := by
  simp [haltedBy, Error.isFault]

@[simp] theorem Session.haltedBy_misuse (s : Session) (m : Misuse) :
    s.haltedBy (.misuse m) = s := by
  simp [haltedBy, Error.isFault]

namespace Procedure

variable {α β : Type}

/-- Performed in the session `s`, the procedure has the result `r` and leaves the session `t`. It
makes the listed calls and hands out the listed pictures, and may print anything. -/
structure Yields (a : Procedure α) (s : Session) (r : Except Error α) (t : Session)
    (calls : List DeviceCall) (pictures : List Delivery := []) : Prop where
  /-- The result of the procedure. -/
  result_eq : (a s).result = r
  /-- The session afterwards. -/
  session_eq : (a s).session = t
  /-- The calls of the devices. -/
  calls_eq : (a s).transcript.calls = calls
  /-- The pictures that were handed out. -/
  pictures_eq : (a s).transcript.deliveries = pictures

theorem yields_congr {a b : Procedure α} {s s' t : Session} {r : Except Error α}
    {calls : List DeviceCall} {pictures : List Delivery} (h : a s = b s') :
    a.Yields s r t calls pictures ↔ b.Yields s' r t calls pictures := by
  constructor
  · rintro ⟨rfl, rfl, rfl, rfl⟩
    constructor <;> rw [h]
  · rintro ⟨rfl, rfl, rfl, rfl⟩
    constructor <;> rw [h]

theorem yields_self (a : Procedure α) (s : Session) :
    a.Yields s (a s).result (a s).session (a s).transcript.calls (a s).transcript.deliveries :=
  ⟨rfl, rfl, rfl, rfl⟩

/-! ### Steps of a procedure -/

section Steps

variable {s t : Session} {x : α} {r : Except Error β} {calls : List DeviceCall}
  {pictures : List Delivery}

theorem yields_pure (x : α) (s : Session) : Yields (pure x) s (.ok x) s [] :=
  ⟨rfl, rfl, rfl, rfl⟩

theorem yields_fail (e : Error) (s : Session) : (fail e : Procedure α).Yields s (.error e) s [] :=
  ⟨rfl, rfl, rfl, rfl⟩

theorem yields_update (f : Session → Session) (s : Session) :
    (update f).Yields s (.ok ()) (f s) [] :=
  ⟨rfl, rfl, rfl, rfl⟩

theorem yields_report (level : Level) (message : String) (s : Session) :
    (report level message).Yields s (.ok ()) s [] :=
  ⟨rfl, rfl, rfl, rfl⟩

theorem yields_bind_iff {a : Procedure α} {f : α → Procedure β} {u : Session}
    (h : a s = ⟨.ok x, t, {}⟩) :
    (a >>= f).Yields s r u calls pictures ↔ (f x).Yields t r u calls pictures :=
  yields_congr (by simp only [Bind.bind, Procedure.bind, h]; rfl)

theorem session_bind_apply (f : Session → Procedure β) (s : Session) :
    (session >>= f) s = f s s :=
  rfl

@[simp] theorem yields_session_bind {f : Session → Procedure β} :
    (session >>= f).Yields s r t calls pictures ↔ (f s).Yields s r t calls pictures :=
  yields_congr (session_bind_apply f s)

@[simp] theorem yields_update_bind {g : Session → Session} {f : Unit → Procedure β} :
    (update g >>= f).Yields s r t calls pictures ↔ (f ()).Yields (g s) r t calls pictures :=
  yields_congr rfl

@[simp] theorem yields_print_bind {l : List String} {f : Unit → Procedure β} :
    (print l >>= f).Yields s r t calls pictures ↔ (f ()).Yields s r t calls pictures :=
  ⟨fun h => ⟨h.1, h.2, h.3, h.4⟩, fun h => ⟨h.1, h.2, h.3, h.4⟩⟩

theorem yields_note_bind {l : List DeviceCall} {f : Unit → Procedure β}
    (h : (f ()).Yields s r t calls pictures) :
    (note l >>= f).Yields s r t (l ++ calls) pictures := by
  obtain ⟨rfl, rfl, rfl, rfl⟩ := h
  exact ⟨rfl, rfl, rfl, rfl⟩

@[simp] theorem yields_ofExcept_ok_bind {f : α → Procedure β} :
    (ofExcept (.ok x) >>= f).Yields s r t calls pictures ↔ (f x).Yields s r t calls pictures :=
  yields_congr rfl

end Steps

/-! ### One procedure after another -/

theorem exists_of_bind_ok {a : Procedure α} {f : α → Procedure β} {s : Session} {y : β}
    (h : ((a >>= f) s).result = .ok y) :
    ∃ x, (a s).result = .ok x ∧ (f x (a s).session).result = .ok y := by
  cases ha : (a s).result with
  | error e =>
    rw [bind_of_error ha] at h
    cases h
  | ok x =>
    rw [bind_of_ok ha] at h
    exact ⟨x, rfl, h⟩

namespace Yields

variable {a : Procedure α} {f : α → Procedure β} {s t u : Session} {x : α} {e : Error}
  {r : Except Error β} {c c' : List DeviceCall} {d d' : List Delivery}

theorem bind (h : a.Yields s (.ok x) t c d) (h' : (f x).Yields t r u c' d') :
    (a >>= f).Yields s r u (c ++ c') (d ++ d') := by
  have hb := bind_of_ok (f := f) h.result_eq
  obtain ⟨-, rfl, rfl, rfl⟩ := h
  obtain ⟨rfl, rfl, rfl, rfl⟩ := h'
  constructor <;> rw [hb] <;> rfl

theorem bind_error (h : a.Yields s (.error e) t c d) : (a >>= f).Yields s (.error e) t c d := by
  have hb := bind_of_error (f := f) h.result_eq
  obtain ⟨-, rfl, rfl, rfl⟩ := h
  constructor <;> rw [hb]

theorem andThen (h : a.Yields s (.ok x) t c) (h' : (f x).Yields t r u c' d') :
    (a >>= f).Yields s r u (c ++ c') d' :=
  h.bind h'

theorem silent_bind (h : a.Yields s (.ok x) t []) (h' : (f x).Yields t r u c' d') :
    (a >>= f).Yields s r u c' d' :=
  h.bind h'

theorem haltingOnFault (h : a.Yields s (.ok x) t c d) :
    a.haltingOnFault.Yields s (.ok x) t c d := by
  have hr := h.result_eq
  refine (yields_congr ?_).2 h
  simp only [Procedure.haltingOnFault, hr]

/-- A fault halts the processor, and a misuse does not. -/
theorem haltingOnFault_error (h : a.Yields s (.error e) t c d) :
    a.haltingOnFault.Yields s (.error e) (t.haltedBy e) c d := by
  have hr := h.result_eq
  cases e with
  | fault f =>
    obtain ⟨-, rfl, rfl, rfl⟩ := h
    rw [Session.haltedBy_fault]
    constructor <;> simp only [Procedure.haltingOnFault, hr]
    · rfl
    · exact List.append_nil _
    · exact List.append_nil _
  | misuse m =>
    rw [Session.haltedBy_misuse]
    refine (yields_congr ?_).2 h
    simp only [Procedure.haltingOnFault, hr]

end Yields

end Procedure

end Chip8
