import Mathlib.Data.List.Induction
import Chip8.Device.History

/-!
# The history of a keypad

What a keypad does is settled by the calls made so far. A key is down if it was last moved down. A
hook waits until a key goes down or another hook takes its place, so each hook that was installed
fires at most once, with the first key that goes down behind it.

## Main definitions

* `Chip8.KeypadCall.move?` : the move of the keys that a call makes.
* `Chip8.lastMove` : the last move of a history that concerns a key.
* `Chip8.PutsDown`, `Chip8.Waits`, `Chip8.Fires` : which call puts a key down, and which hook it
  fires.
* `Chip8.Keypad.Answers` : what a call does to a keypad.
* `Chip8.Keypad.Completes` : a call together with the answer of the host to the hook that it fires.

## Main results

* `Chip8.Keypad.keysFollow_after` : the keys after a history.
* `Chip8.Keypad.pending_after` : the hook after a history.
* `Chip8.Keypad.fired_eq_some_iff` : the hook that a call fires.
* `Chip8.Keypad.afterMoves_eq` : hosts that answer their hooks.
* `Chip8.Keypad.settled_by_history` : what a keypad does in any history.
-/

namespace Chip8

variable {α : Type} {keyMap : List (String × Int)} {history : List (KeypadCall α)}
  {c : KeypadCall α} {key : Int} {i j : Nat} {a : α}

/-! ### Moves of the keys -/

/-- A move of the keys. -/
inductive KeyMove where
  /-- A key goes down. -/
  | down (key : Int)
  /-- A key goes up. -/
  | up (key : Int)
  /-- All keys go up. -/
  | allUp
  deriving DecidableEq

namespace KeyMove

/-- The move concerns a key. -/
def Concerns (key : Int) : KeyMove → Prop
  | .down moved | .up moved => moved = key
  | .allUp => True

instance (key : Int) : DecidablePred (Concerns key)
  | .down moved | .up moved => inferInstanceAs (Decidable (moved = key))
  | .allUp => inferInstanceAs (Decidable True)

/-- The key that moves is one of the sixteen. -/
def IsPossible : KeyMove → Prop
  | .down key | .up key => 0 ≤ key ∧ key < keyCount
  | .allUp => True

instance : DecidablePred IsPossible
  | .down key | .up key => inferInstanceAs (Decidable (0 ≤ key ∧ key < keyCount))
  | .allUp => inferInstanceAs (Decidable True)

/-- The keys after a move. -/
def apply (keys : Keys) : KeyMove → Keys
  | .down key => keys.move key true
  | .up key => keys.move key false
  | .allUp => .allUp

theorem isDown_apply (keys : Keys) {m : KeyMove} (hm : m.IsPossible) (key : Int) :
    (m.apply keys).isDown key = if m.Concerns key then decide (m = .down key)
      else keys.isDown key := by
  cases m with
  | down moved =>
    rw [apply, Keys.isDown_move _ hm]
    by_cases h : moved = key
    · simp [Concerns, h]
    · simp [Concerns, h, Ne.symm h]
  | up moved =>
    rw [apply, Keys.isDown_move _ hm]
    by_cases h : moved = key
    · simp [Concerns, h]
    · simp [Concerns, h, Ne.symm h]
  | allUp => simp [apply, Keys.isDown_allUp, Concerns]

end KeyMove

namespace KeypadCall

/-- The call installs a hook. -/
def IsHook : KeypadCall α → Prop
  | .hook _ => True
  | _ => False

/-- The move that a call asks for. A host key that is mapped to no key asks for none. -/
def request? (keyMap : List (String × Int)) : KeypadCall α → Option KeyMove
  | .down key => some (.down key)
  | .up key => some (.up key)
  | .press hostKey => (keyMap.lookup (Text.lower hostKey)).map .down
  | .release hostKey => (keyMap.lookup (Text.lower hostKey)).map .up
  | .releaseAll => some .allUp
  | .hook _ => none

/-- The move that a call makes, which is the one that it asks for if that is possible. -/
def move? (keyMap : List (String × Int)) (c : KeypadCall α) : Option KeyMove :=
  (c.request? keyMap).filter fun m => m.IsPossible

theorem move?_eq_some_iff {m : KeyMove} :
    c.move? keyMap = some m ↔ c.request? keyMap = some m ∧ m.IsPossible := by
  rw [move?, Option.filter_eq_some_iff, decide_eq_true_iff]

theorem move?_of_request?_eq_none (h : c.request? keyMap = none) : c.move? keyMap = none := by
  rw [move?, h, Option.filter_none]

theorem move?_of_not_isPossible {m : KeyMove} (h : c.request? keyMap = some m)
    (hm : ¬m.IsPossible) : c.move? keyMap = none := by
  rw [move?, h, Option.filter_some_neg (by simpa using hm)]

theorem not_isHook_of_request? {m : KeyMove} (h : c.request? keyMap = some m) : ¬c.IsHook := by
  cases c with
  | hook => cases h
  | _ => exact id

end KeypadCall

/-! ### What a history settles -/

/-- The last move of a history that concerns a key. -/
def lastMove (keyMap : List (String × Int)) (history : List (KeypadCall α)) (key : Int) :
    Option KeyMove :=
  ((history.filterMap (·.move? keyMap)).filter fun m => m.Concerns key).getLast?

/-- The next call behind a history puts a key down that was up: it moves the key down, and the
last move of the key was another. -/
def PutsDown (keyMap : List (String × Int)) (history : List (KeypadCall α)) (c : KeypadCall α)
    (key : Int) : Prop :=
  c.move? keyMap = some (.down key) ∧ lastMove keyMap history key ≠ some (.down key)

/-- The hook that was installed by the call at place `i` still waits: no call behind it installed
another hook or put a key down. -/
def Waits (keyMap : List (String × Int)) (history : List (KeypadCall α)) (i : Nat) (a : α) : Prop :=
  history[i]? = some (.hook a) ∧
    ∀ j c, i < j → history[j]? = some c →
      ¬c.IsHook ∧ ∀ key, ¬PutsDown keyMap (history.take j) c key

/-- The call at place `j` puts a key down while the hook that was installed at place `i` waits. -/
def Fires (keyMap : List (String × Int)) (history : List (KeypadCall α)) (i j : Nat) (a : α)
    (key : Int) : Prop :=
  ∃ c, history[j]? = some c ∧ PutsDown keyMap (history.take j) c key ∧
    Waits keyMap (history.take j) i a

theorem lastMove_concat_of_none (h : c.move? keyMap = none) :
    lastMove keyMap (history ++ [c]) key = lastMove keyMap history key := by
  simp [lastMove, List.filterMap_append, h]

theorem lastMove_concat_of_some {m : KeyMove} (h : c.move? keyMap = some m) :
    lastMove keyMap (history ++ [c]) key =
      if m.Concerns key then some m else lastMove keyMap history key := by
  by_cases hm : m.Concerns key
  · simp [lastMove, List.filterMap_append, List.filter_append, h, hm]
  · simp [lastMove, List.filterMap_append, List.filter_append, h, hm]

theorem PutsDown.not_isHook (h : PutsDown keyMap history c key) : ¬c.IsHook :=
  KeypadCall.not_isHook_of_request? (KeypadCall.move?_eq_some_iff.1 h.1).1

theorem PutsDown.unique {key' : Int} (h : PutsDown keyMap history c key)
    (h' : PutsDown keyMap history c key') : key = key' :=
  KeyMove.down.inj (Option.some.inj (h.1.symm.trans h'.1))

theorem not_putsDown_of_move?_eq_none (h : c.move? keyMap = none) (key : Int) :
    ¬PutsDown keyMap history c key := by
  rintro ⟨hmove, -⟩
  cases h.symm.trans hmove

/-- A hook that waits behind one more call was just installed, or waited before, and the call
neither installs a hook nor puts a key down. -/
theorem waits_concat :
    Waits keyMap (history ++ [c]) i a ↔
      i = history.length ∧ c = .hook a ∨
        Waits keyMap history i a ∧ ¬c.IsHook ∧ ∀ key, ¬PutsDown keyMap history c key := by
  constructor
  · rintro ⟨hi, hsince⟩
    rcases Nat.lt_trichotomy i history.length with hlt | rfl | hgt
    · have hlast := hsince history.length c hlt List.getElem?_concat_length
      rw [List.take_left] at hlast
      rw [List.getElem?_append_left hlt] at hi
      refine .inr ⟨⟨hi, fun j d hij hj => ?_⟩, hlast⟩
      have hlen : j < history.length := (List.getElem?_eq_some_iff.1 hj).1
      have hd := hsince j d hij ((List.getElem?_append_left hlen).trans hj)
      rwa [List.take_append_of_le_length (Nat.le_of_lt hlen)] at hd
    · rw [List.getElem?_concat_length] at hi
      exact .inl ⟨rfl, Option.some.inj hi⟩
    · have hlen := (List.getElem?_eq_some_iff.1 hi).1
      rw [List.length_append, List.length_singleton] at hlen
      omega
  · rintro (⟨rfl, rfl⟩ | ⟨⟨hi, hsince⟩, hlast⟩)
    · refine ⟨List.getElem?_concat_length, fun j d hij hj => ?_⟩
      have hlen := (List.getElem?_eq_some_iff.1 hj).1
      rw [List.length_append, List.length_singleton] at hlen
      omega
    · have hlt : i < history.length := (List.getElem?_eq_some_iff.1 hi).1
      refine ⟨(List.getElem?_append_left hlt).trans hi, fun j d hij hj => ?_⟩
      rcases Nat.lt_or_ge j history.length with hlen | hge
      · rw [List.getElem?_append_left hlen] at hj
        rw [List.take_append_of_le_length (Nat.le_of_lt hlen)]
        exact hsince j d hij hj
      · -- No call but the new one lies behind the history.
        have hlen := (List.getElem?_eq_some_iff.1 hj).1
        rw [List.length_append, List.length_singleton] at hlen
        obtain rfl : j = history.length := by omega
        rw [List.getElem?_concat_length] at hj
        obtain rfl := Option.some.inj hj
        rwa [List.take_left]

theorem Waits.unique {i' : Nat} {a' : α} (h : Waits keyMap history i a)
    (h' : Waits keyMap history i' a') : i = i' ∧ a = a' := by
  rcases Nat.lt_trichotomy i i' with hlt | rfl | hgt
  · exact absurd trivial (h.2 i' _ hlt h'.1).1
  · exact ⟨rfl, KeypadCall.hook.inj (Option.some.inj (h.1.symm.trans h'.1))⟩
  · exact absurd trivial (h'.2 i _ hgt h.1).1

/-- A hook that waits between two calls has not been fired by the first. -/
theorem not_fires_of_waits {j' : Nat} {a' : α} (hlt : j < j')
    (h : Fires keyMap history i j a key) : ¬Waits keyMap (history.take j') i a' := by
  rintro ⟨-, hsince⟩
  obtain ⟨c, hc, hdown, hwaits, -⟩ := h
  have hij : i < j := by
    have hlen := (List.getElem?_eq_some_iff.1 hwaits).1
    rw [List.length_take] at hlen
    omega
  have hquiet := (hsince j c hij ((List.getElem?_take_of_lt hlt).trans hc)).2 key
  rw [List.take_take, Nat.min_eq_left (Nat.le_of_lt hlt)] at hquiet
  exact hquiet hdown

/-- **A hook fires at most once**, with one key. -/
theorem Fires.unique {j' : Nat} {a' : α} {key' : Int} (h : Fires keyMap history i j a key)
    (h' : Fires keyMap history i j' a' key') : j = j' ∧ a = a' ∧ key = key' := by
  rcases Nat.lt_trichotomy j j' with hlt | rfl | hgt
  · obtain ⟨_, -, -, hwaits⟩ := h'
    exact absurd hwaits (not_fires_of_waits hlt h)
  · obtain ⟨c, hc, hdown, hwaits⟩ := h
    obtain ⟨c', hc', hdown', hwaits'⟩ := h'
    obtain rfl := Option.some.inj (hc.symm.trans hc')
    exact ⟨rfl, (hwaits.unique hwaits').2, hdown.unique hdown'⟩
  · obtain ⟨_, -, -, hwaits⟩ := h
    exact absurd hwaits (not_fires_of_waits hgt h')

/-! ### What a call does -/

namespace Keypad

variable {k : Keypad α} {reply : KeypadReply α}

/-- What a call does to a keypad. -/
inductive Answers (k : Keypad α) (c : KeypadCall α) : KeypadReply α → Prop
  /-- It installs a hook. -/
  | hooked {a : α} (call : c = .hook a) : k.Answers c ⟨.ok true, k.hook a, none⟩
  /-- It puts a key down that was up. This fires the hook, which is gone. -/
  | pressed {key : Int} (move : c.move? k.keyMap = some (.down key))
      (up : k.keys.isDown key = false) :
      k.Answers c
        ⟨.ok true, { k with keys := k.keys.move key true, pending := none },
          k.pending.map fun a => (a, key)⟩
  /-- It moves a key down that was down. -/
  | held {key : Int} (move : c.move? k.keyMap = some (.down key))
      (down : k.keys.isDown key = true) : k.Answers c ⟨.ok true, k, none⟩
  /-- It moves a key up. -/
  | released {key : Int} (move : c.move? k.keyMap = some (.up key)) :
      k.Answers c ⟨.ok true, { k with keys := k.keys.move key false }, none⟩
  /-- It moves all keys up. -/
  | allReleased (call : c = .releaseAll) : k.Answers c ⟨.ok true, k.releaseAll, none⟩
  /-- Its host key is mapped to no key. -/
  | unmapped (request : c.request? k.keyMap = none) (noHook : ¬c.IsHook) :
      k.Answers c ⟨.ok false, k, none⟩
  /-- Its key is none of the sixteen. -/
  | refused {key : Int}
      (request : c.request? k.keyMap = some (.down key) ∨ c.request? k.keyMap = some (.up key))
      (noKey : ¬(0 ≤ key ∧ key < keyCount)) :
      k.Answers c ⟨.error (.misuse (.noSuchKey key)), k, none⟩

theorem answers_performDown (h : c.request? k.keyMap = some (.down key)) :
    k.Answers c (k.performDown key) := by
  rw [performDown, keyDown_eq]
  by_cases hkey : 0 ≤ key ∧ key < keyCount
  · have hmove := KeypadCall.move?_eq_some_iff.2 ⟨h, hkey⟩
    rw [if_pos hkey]
    cases hdown : k.keys.isDown key with
    | true => exact .held hmove hdown
    | false => exact .pressed hmove hdown
  · rw [if_neg hkey]
    exact .refused (.inl h) hkey

theorem answers_performUp (h : c.request? k.keyMap = some (.up key)) :
    k.Answers c (k.performUp key) := by
  rw [performUp, keyUp_eq]
  by_cases hkey : 0 ≤ key ∧ key < keyCount
  · rw [if_pos hkey]
    exact .released (KeypadCall.move?_eq_some_iff.2 ⟨h, hkey⟩)
  · rw [if_neg hkey]
    exact .refused (.inr h) hkey

/-- **What a call does**, for every call. -/
theorem answers_perform (k : Keypad α) (c : KeypadCall α) : k.Answers c (k.perform c) := by
  cases c with
  | down => exact answers_performDown rfl
  | up => exact answers_performUp rfl
  | press hostKey =>
    cases hkey : k.keyOf? hostKey with
    | none =>
      simp only [perform, hkey]
      exact .unmapped (congrArg (Option.map KeyMove.down) hkey) id
    | some key =>
      simp only [perform, hkey]
      exact answers_performDown (congrArg (Option.map KeyMove.down) hkey)
  | release hostKey =>
    cases hkey : k.keyOf? hostKey with
    | none =>
      simp only [perform, hkey]
      exact .unmapped (congrArg (Option.map KeyMove.up) hkey) id
    | some key =>
      simp only [perform, hkey]
      exact answers_performUp (congrArg (Option.map KeyMove.up) hkey)
  | releaseAll => exact .allReleased rfl
  | hook => exact .hooked rfl

theorem Answers.keyMap_eq (h : k.Answers c reply) : reply.keypad.keyMap = k.keyMap := by
  cases h <;> rfl

theorem Answers.move?_eq_none (h : k.Answers c reply) (hresult : reply.result ≠ .ok true) :
    c.move? k.keyMap = none := by
  cases h with
  | unmapped request => exact KeypadCall.move?_of_request?_eq_none request
  | refused request noKey =>
    rcases request with request | request
    · exact KeypadCall.move?_of_not_isPossible request noKey
    · exact KeypadCall.move?_of_not_isPossible request noKey
  | _ => exact absurd rfl hresult

/-! ### The keys and the hook after a history -/

/-- The keys are down that a history moved down last. -/
def KeysFollow (k : Keypad α) (history : List (KeypadCall α)) : Prop :=
  ∀ key, k.keys.isDown key = true ↔ lastMove k.keyMap history key = some (.down key)

theorem KeysFollow.perform (hk : k.KeysFollow history) (c : KeypadCall α) :
    (k.perform c).keypad.KeysFollow (history ++ [c]) := by
  intro key
  have hanswers := k.answers_perform c
  rw [hanswers.keyMap_eq]
  have hstill (hmove : c.move? k.keyMap = none) :
      k.keys.isDown key = true ↔
        lastMove k.keyMap (history ++ [c]) key = some (.down key) := by
    rw [lastMove_concat_of_none hmove]
    exact hk key
  have hmoved {m : KeyMove} {keys : Keys} (hmove : c.move? k.keyMap = some m)
      (hkeys : keys = m.apply k.keys) :
      keys.isDown key = true ↔
        lastMove k.keyMap (history ++ [c]) key = some (.down key) := by
    rw [hkeys, lastMove_concat_of_some hmove,
      KeyMove.isDown_apply _ (KeypadCall.move?_eq_some_iff.1 hmove).2]
    split
    · rw [decide_eq_true_iff, Option.some_inj]
    · exact hk key
  generalize k.perform c = reply at hanswers
  cases hanswers with
  | hooked call =>
    subst call
    exact hstill rfl
  | pressed move => exact hmoved move rfl
  | @held moved move down =>
    -- No key changes, but the call is now the last move of its key.
    rw [← hmoved move rfl, KeyMove.isDown_apply _ (KeypadCall.move?_eq_some_iff.1 move).2]
    by_cases hkey : moved = key
    · simp [KeyMove.Concerns, ← hkey, down]
    · simp [KeyMove.Concerns, hkey]
  | released move => exact hmoved move rfl
  | allReleased call =>
    subst call
    exact hmoved (m := .allUp) rfl rfl
  | unmapped request => exact hstill (KeypadCall.move?_of_request?_eq_none request)
  | refused request noKey =>
    exact hstill (Answers.move?_eq_none (.refused request noKey) (by simp))

/-- **The keys after a history** of a new keypad. A key is down if it was last moved down. -/
theorem keysFollow_after (keyMap : List (String × Int)) (history : List (KeypadCall α)) :
    (({ keyMap := keyMap } : Keypad α).after history).KeysFollow history := by
  induction history using List.reverseRecOn with
  | nil =>
    intro key
    simp [lastMove, Keys.isDown_allUp]
  | append_singleton history c ih =>
    rw [after_append]
    exact ih.perform c

theorem keyMap_after (k : Keypad α) (history : List (KeypadCall α)) :
    (k.after history).keyMap = k.keyMap := by
  induction history generalizing k with
  | nil => rfl
  | cons c history ih => rw [after_cons, ih, (k.answers_perform c).keyMap_eq]

/-- What a call has to do with the hook: it installs one, or it puts a key down, which fires the
hook that waits, or it leaves the hook as it is. -/
theorem KeysFollow.hook_cases (hk : k.KeysFollow history) (c : KeypadCall α) :
    (∃ a, c = .hook a ∧ (k.perform c).fired = none ∧ (k.perform c).keypad.pending = some a) ∨
      (∃ key, PutsDown k.keyMap history c key ∧
        (k.perform c).fired = k.pending.map (fun a => (a, key)) ∧
        (k.perform c).keypad.pending = none) ∨
      ¬c.IsHook ∧ (∀ key, ¬PutsDown k.keyMap history c key) ∧
        (k.perform c).fired = none ∧ (k.perform c).keypad.pending = k.pending := by
  have hanswers := k.answers_perform c
  generalize k.perform c = reply at hanswers
  cases hanswers with
  | @hooked a call => exact .inl ⟨a, call, rfl, rfl⟩
  | @pressed key move up =>
    refine .inr (.inl ⟨key, ⟨move, fun hlast => ?_⟩, rfl, rfl⟩)
    rw [(hk key).2 hlast] at up
    cases up
  | @held moved move down =>
    refine .inr (.inr ⟨?_, fun key hdown => hdown.2 ?_, rfl, rfl⟩)
    · exact KeypadCall.not_isHook_of_request? (KeypadCall.move?_eq_some_iff.1 move).1
    · obtain rfl := KeyMove.down.inj (Option.some.inj (move.symm.trans hdown.1))
      exact (hk _).1 down
  | released move =>
    refine .inr (.inr ⟨?_, fun key hdown => ?_, rfl, rfl⟩)
    · exact KeypadCall.not_isHook_of_request? (KeypadCall.move?_eq_some_iff.1 move).1
    · cases hdown.1.symm.trans move
  | allReleased call =>
    subst call
    refine .inr (.inr ⟨id, fun key hdown => ?_, rfl, rfl⟩)
    cases hdown.1
  | unmapped request noHook =>
    exact .inr (.inr ⟨noHook,
      not_putsDown_of_move?_eq_none (KeypadCall.move?_of_request?_eq_none request), rfl, rfl⟩)
  | refused request noKey =>
    have hmove := Answers.move?_eq_none (.refused request noKey) (by simp)
    refine .inr (.inr ⟨?_, not_putsDown_of_move?_eq_none hmove, rfl, rfl⟩)
    rcases request with request | request
    · exact KeypadCall.not_isHook_of_request? request
    · exact KeypadCall.not_isHook_of_request? request

/-- **The hook after a history** of a new keypad is the one that waits. -/
theorem pending_after (keyMap : List (String × Int)) (history : List (KeypadCall α)) (a : α) :
    (({ keyMap := keyMap } : Keypad α).after history).pending = some a ↔
      ∃ i, Waits keyMap history i a := by
  induction history using List.reverseRecOn with
  | nil => simp [Waits]
  | append_singleton history c ih =>
    have hkeys := keysFollow_after keyMap history
    have hcases := hkeys.hook_cases c
    rw [keyMap_after] at hcases
    rw [after_append, after_cons, after_nil]
    rcases hcases with ⟨b, rfl, -, hpending⟩ | ⟨key, hdown, -, hpending⟩ |
      ⟨hhook, hdown, -, hpending⟩
    · rw [hpending]
      constructor
      · rintro ⟨⟩
        exact ⟨history.length, waits_concat.2 (.inl ⟨rfl, rfl⟩)⟩
      · rintro ⟨i, hwaits⟩
        rcases waits_concat.1 hwaits with ⟨-, hcall⟩ | ⟨-, hhook, -⟩
        · rw [KeypadCall.hook.inj hcall]
        · exact absurd trivial hhook
    · rw [hpending]
      refine ⟨nofun, ?_⟩
      rintro ⟨i, hwaits⟩
      rcases waits_concat.1 hwaits with ⟨-, rfl⟩ | ⟨-, -, hquiet⟩
      · exact absurd trivial hdown.not_isHook
      · exact absurd hdown (hquiet key)
    · rw [hpending, ih]
      refine exists_congr fun i => ?_
      rw [waits_concat]
      constructor
      · exact fun hwaits => .inr ⟨hwaits, hhook, hdown⟩
      · rintro (⟨-, rfl⟩ | ⟨hwaits, -⟩)
        · exact absurd trivial hhook
        · exact hwaits

/-- **The hook that a call fires** behind a history of a new keypad is the one that waits, and the
key is the one that the call puts down. -/
theorem fired_eq_some_iff (keyMap : List (String × Int)) (history : List (KeypadCall α))
    (c : KeypadCall α) (a : α) (key : Int) :
    ((({ keyMap := keyMap } : Keypad α).after history).perform c).fired = some (a, key) ↔
      PutsDown keyMap history c key ∧ ∃ i, Waits keyMap history i a := by
  have hcases := (keysFollow_after keyMap history).hook_cases c
  rw [keyMap_after] at hcases
  rw [← pending_after]
  rcases hcases with ⟨b, rfl, hfired, -⟩ | ⟨down, hdown, hfired, -⟩ | ⟨-, hdown, hfired, -⟩
  · rw [hfired]
    exact ⟨nofun, fun h => absurd trivial h.1.not_isHook⟩
  · rw [hfired, Option.map_eq_some_iff]
    constructor
    · rintro ⟨b, hpending, ⟨⟩⟩
      exact ⟨hdown, hpending⟩
    · rintro ⟨hkey, hpending⟩
      exact ⟨a, hpending, by rw [hdown.unique hkey]⟩
  · rw [hfired]
    exact ⟨nofun, fun h => absurd h.1 (hdown key)⟩

/-! ### Hosts that answer -/

/-- What a host leaves that answers a fired hook: the calls of its answer come behind the call, and
an error is one of the call or of its answer. -/
structure Completes (reply : KeypadReply Reaction) (m : Move) : Prop where
  /-- The answer is carried out behind the call. -/
  keypad_eq : m.keypad = reply.keypad.after reply.answer
  /-- The answer fires nothing. -/
  fired_eq : m.fired = reply.fired.toList.map Prod.snd
  /-- The call was refused, or its answer was. -/
  result_eq_error_iff : ∀ e, m.result = .error e ↔ reply.result = .error e ∨
    ∃ c ∈ reply.answer, (reply.keypad.perform c).result = .error e

theorem completes_down (k : Keypad Reaction) (key : Int) :
    Completes (k.performDown key) (k.down key) := by
  unfold down performDown
  cases k.keyDown key with
  | error e => exact ⟨rfl, rfl, by simp [KeypadReply.answer]⟩
  | ok pressed =>
    obtain ⟨_ | reaction, pressed⟩ := pressed
    · exact ⟨rfl, rfl, by simp [KeypadReply.answer]⟩
    · cases reaction with
      | ignore => exact ⟨rfl, rfl, by simp [KeypadReply.answer, Reaction.calls, react]⟩
      | down key' =>
        simp only [react]
        cases h : pressed.keyDown key' <;> constructor <;>
          simp [KeypadReply.answer, Reaction.calls, perform, performDown, h, Except.map]
      | up key' =>
        simp only [react]
        cases h : pressed.keyUp key' <;> constructor <;>
          simp [KeypadReply.answer, Reaction.calls, perform, performUp, h]
      | hookAgain => exact ⟨rfl, rfl, by simp [KeypadReply.answer, Reaction.calls, perform, react]⟩

theorem completes_up (k : Keypad Reaction) (key : Int) :
    Completes (k.performUp key) (k.up key) := by
  unfold up performUp
  cases k.keyUp key <;> exact ⟨rfl, rfl, by simp [KeypadReply.answer]⟩

/-- **A call of a host that answers its hook** is the call and then those of the answer. -/
theorem completes_move (k : Keypad Reaction) (c : KeypadCall Reaction) :
    Completes (k.perform c) (k.move c) := by
  cases c with
  | down key => exact k.completes_down key
  | up key => exact k.completes_up key
  | press hostKey =>
    simp only [move, Keypad.press, perform]
    cases k.keyOf? hostKey with
    | none => exact ⟨rfl, rfl, by simp [KeypadReply.answer]⟩
    | some key => exact k.completes_down key
  | release hostKey =>
    simp only [move, Keypad.release, perform]
    cases k.keyOf? hostKey with
    | none => exact ⟨rfl, rfl, by simp [KeypadReply.answer]⟩
    | some key => exact k.completes_up key
  | releaseAll | hook => exact ⟨rfl, rfl, by simp [KeypadReply.answer, move, perform]⟩

/-- **Hosts that answer their hooks.** Their answers are calls like all others. -/
theorem afterMoves_eq (k : Keypad Reaction) (history : List (KeypadCall Reaction)) :
    k.afterMoves history = k.after (k.withAnswers history) := by
  induction history generalizing k with
  | nil => rfl
  | cons c history ih =>
    rw [withAnswers, after_append, after_cons, ← (k.completes_move c).keypad_eq]
    exact ih _

/-! ### The law -/

/-- A call names a key that is none of the sixteen. -/
def NamesNoKey (keyMap : List (String × Int)) (c : KeypadCall α) (key : Int) : Prop :=
  (c.request? keyMap = some (.down key) ∨ c.request? keyMap = some (.up key)) ∧
    ¬(0 ≤ key ∧ key < keyCount)

theorem NamesNoKey.move?_eq_none (h : NamesNoKey keyMap c key) : c.move? keyMap = none := by
  obtain ⟨request | request, noKey⟩ := h
  · exact KeypadCall.move?_of_not_isPossible request noKey
  · exact KeypadCall.move?_of_not_isPossible request noKey

theorem Answers.result_eq_error_iff (h : k.Answers c reply) {e : Error} :
    reply.result = .error e ↔
      ∃ key, NamesNoKey k.keyMap c key ∧ e = .misuse (.noSuchKey key) := by
  cases h with
  | hooked call =>
    subst call
    refine ⟨nofun, ?_⟩
    rintro ⟨key, ⟨request | request, -⟩, -⟩ <;> cases request
  | pressed move | held move | released move =>
    refine ⟨nofun, ?_⟩
    rintro ⟨key, hkey, -⟩
    cases hkey.move?_eq_none.symm.trans move
  | allReleased call =>
    subst call
    refine ⟨nofun, ?_⟩
    rintro ⟨key, ⟨request | request, -⟩, -⟩ <;> cases request
  | unmapped none =>
    refine ⟨nofun, ?_⟩
    rintro ⟨key, ⟨request | request, -⟩, -⟩ <;> cases none.symm.trans request
  | refused request noKey =>
    constructor
    · rintro ⟨⟩
      exact ⟨_, ⟨request, noKey⟩, rfl⟩
    · rintro ⟨key, ⟨request', -⟩, rfl⟩
      rcases request with request | request <;> rcases request' with request' | request' <;>
        cases request.symm.trans request' <;> rfl

theorem Answers.result_eq_false_iff (h : k.Answers c reply) :
    reply.result = .ok false ↔ c.request? k.keyMap = none ∧ ¬c.IsHook := by
  cases h with
  | hooked call =>
    subst call
    exact ⟨nofun, fun h => absurd trivial h.2⟩
  | pressed move | held move | released move =>
    have request := (KeypadCall.move?_eq_some_iff.1 move).1
    exact ⟨nofun, fun h => nomatch h.1.symm.trans request⟩
  | allReleased call =>
    subst call
    exact ⟨nofun, fun h => nomatch h.1⟩
  | unmapped request noHook => exact ⟨fun _ => ⟨request, noHook⟩, fun _ => rfl⟩
  | refused request =>
    refine ⟨nofun, fun h => ?_⟩
    rcases request with request | request <;> cases h.1.symm.trans request

theorem Answers.unchanged (h : k.Answers c reply) (hresult : reply.result ≠ .ok true) :
    reply.keypad = k ∧ reply.fired = none := by
  cases h with
  | unmapped | refused => exact ⟨rfl, rfl⟩
  | _ => exact absurd rfl hresult

/-- **What a keypad does in any history** of calls, refused ones included. A key is down exactly if
it was last moved down, and a number that names no key is never down. A call fires a hook exactly if
it puts a key down that was up while the hook waits, and the hook is told of this key. So a hook
fires at most once. A call that installs no hook and puts no key down neither fires nor removes the
hook. A call is refused exactly if it names a key that is none of the sixteen, and gives false
exactly if its host key is mapped to no key; both leave the keypad as it is. A host that answers its
hooks makes the calls of its answers behind those that fired the hooks. -/
theorem settled_by_history (keyMap : List (String × Int)) (history : List (KeypadCall α)) :
    let start : Keypad α := { keyMap := keyMap }
    (∀ key, (start.after history).keys.isDown key = true ↔
      lastMove keyMap history key = some (.down key)) ∧
    (∀ key : Int, ¬(0 ≤ key ∧ key < keyCount) → (start.after history).keys.isDown key = false) ∧
    (∀ j c a key, history[j]? = some c →
      (((start.after (history.take j)).perform c).fired = some (a, key) ↔
        ∃ i, Fires keyMap history i j a key)) ∧
    (∀ i j j' a a' key key', Fires keyMap history i j a key → Fires keyMap history i j' a' key' →
      j = j' ∧ a = a' ∧ key = key') ∧
    (∀ c, ¬c.IsHook → (∀ key, ¬PutsDown keyMap history c key) →
      ((start.after history).perform c).fired = none ∧
        ((start.after history).perform c).keypad.pending = (start.after history).pending) ∧
    (∀ c,
      (∀ e, ((start.after history).perform c).result = .error e ↔
        ∃ key, NamesNoKey keyMap c key ∧ e = .misuse (.noSuchKey key)) ∧
      (((start.after history).perform c).result = .ok false ↔
        c.request? keyMap = none ∧ ¬c.IsHook) ∧
      (((start.after history).perform c).result ≠ .ok true →
        ((start.after history).perform c).keypad = start.after history ∧
          ((start.after history).perform c).fired = none)) ∧
    ∀ (k : Keypad Reaction) (l : List (KeypadCall Reaction)),
      k.afterMoves l = k.after (k.withAnswers l) ∧ ∀ c, Completes (k.perform c) (k.move c) := by
  intro start
  have hkeys := keysFollow_after keyMap history
  have hmap : (start.after history).keyMap = keyMap := keyMap_after start history
  refine ⟨fun key => ?_, fun key hkey => Keys.isDown_eq_false _ hkey, ?_, ?_, ?_, ?_, ?_⟩
  · rw [hkeys key, hmap]
  · intro j c a key hc
    rw [fired_eq_some_iff]
    constructor
    · rintro ⟨hdown, i, hwaits⟩
      exact ⟨i, c, hc, hdown, hwaits⟩
    · rintro ⟨i, c', hc', hdown, hwaits⟩
      obtain rfl := Option.some.inj (hc.symm.trans hc')
      exact ⟨hdown, i, hwaits⟩
  · intro i j j' a a' key key' h h'
    exact h.unique h'
  · intro c hhook hquiet
    have hcases := hkeys.hook_cases c
    rw [hmap] at hcases
    rcases hcases with ⟨a, rfl, -⟩ | ⟨key, hdown, -⟩ | ⟨-, -, hsame⟩
    · exact absurd trivial hhook
    · exact absurd hdown (hquiet key)
    · exact hsame
  · intro c
    have hanswers := (start.after history).answers_perform c
    refine ⟨fun e => ?_, ?_, hanswers.unchanged⟩
    · rw [hanswers.result_eq_error_iff, hmap]
    · rw [hanswers.result_eq_false_iff, hmap]
  · exact fun k l => ⟨k.afterMoves_eq l, k.completes_move⟩

/-- A history in which a hook is fired by a host key, another does not hear a key that is held and
is replaced, and two calls move no key. -/
def heldKey : List (KeypadCall Nat) :=
  [.hook 0, .press "Q", .hook 1, .down 4, .hook 2, .up 16, .release "p", .down 5, .down 6]

/-- The third hook is fired by the first key that goes down behind it. -/
theorem settled_by_history_heldKey :
    heldKey[7]? = some (KeypadCall.down 5) ∧ (∃ i, Fires hostKeys heldKey i 7 2 5) ∧
      lastMove hostKeys heldKey 4 = some (.down 4) ∧
      ¬KeypadCall.IsHook (.up 16 : KeypadCall Nat) := by
  have hfired : ((({ keyMap := hostKeys } : Keypad Nat).after (heldKey.take 7)).perform
      (.down 5)).fired = some (2, 5) := by decide +kernel
  have hdown : (({ keyMap := hostKeys } : Keypad Nat).after heldKey).keys.isDown 4 = true := by
    decide +kernel
  obtain ⟨hkeys, -, hfires, -⟩ := settled_by_history hostKeys heldKey
  exact ⟨rfl, (hfires 7 _ 2 5 rfl).1 hfired, (hkeys 4).1 hdown, id⟩

end Keypad

end Chip8
