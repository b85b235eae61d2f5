import Chip8.Proofs.Footprint
import Chip8.Proofs.Within
import Chip8.Session.Command

/-!
# Loading

A program that fits is copied byte by byte to the program start, whether it is given as bytes or as
numbers, and nothing else changes. A load that fails changes nothing at all. Words that are loaded
with the high byte first are fetched again one by one, and decoding takes each of them apart into
digits that make it up.

## Main definitions

* `Chip8.Program.Gives` : the numbers that a program gives.
* `Chip8.Program.checked` : the bytes of a program that is accepted.
* `Chip8.Session.Loaded` : a session has numbers in memory from the program start on.
* `Chip8.bigEndian` : the bytes of words, the high byte first.
* `Chip8.Instruction.Composes` : the fields of an instruction make up an opcode.
* `Chip8.IsFileName` : a file can have the name.

## Main results

* `Chip8.Program.Gives.checked_eq` : which programs are accepted.
* `Chip8.Session.load_of_ok`, `Chip8.Session.load_of_error` : what a load does.
* `Chip8.Session.after_load_loadFont` : a program and the font may be loaded in either order.
* `Chip8.State.fetch_bigEndian` : words that were loaded are fetched.
* `Chip8.readRom_eq_ok_iff` : the files whose content is loaded.
* `Chip8.Session.load_exact` : the law of loading.
-/

namespace Chip8

/-- The program gives the listed numbers. -/
inductive Program.Gives : Program → List Int → Prop
  /-- Bytes are numbers. -/
  | raw (bytes : List UInt8) : Gives (.raw bytes) (bytes.map fun b => b.toNat)
  /-- The numbers themselves. -/
  | listed (l : List Int) : Gives (.listed (l.map .ofInt)) l

/-- The bytes of a program that fits above the program start. -/
def Program.checked (program : Program) : Except Error (List UInt8) := do
  let bytes ← program.bytes
  if maxProgramSize < bytes.length then throw (.fault (.programTooLarge bytes.length))
  else return bytes

/-- The session with bytes at the program start. -/
def Session.withProgram (s : Session) (bytes : List UInt8) : Session :=
  { s with state := { s.state with memory := s.state.memory.store programStart bytes } }

/-- The session `t` is the session `s` with numbers in memory from the program start on. -/
structure Session.Loaded (s : Session) (l : List Int) (t : Session) : Prop where
  /-- Only the memory may differ. -/
  session_eq : t = { s with state := { s.state with memory := t.state.memory } }
  /-- The numbers lie side by side. -/
  loaded : ∀ i (hi : i < l.length), ((t.state.memory.peek (programStart + i)).toNat : Int) = l[i]
  /-- Every other byte stays. -/
  kept : ∀ k, k < programStart ∨ programStart + l.length ≤ k →
    t.state.memory.peek k = s.state.memory.peek k

/-- The bytes of words, the high byte first. -/
def bigEndian (words : List UInt16) : List Int :=
  words.flatMap fun w => [w.toNat / 256, w.toNat % 256]

/-- The fields of the instruction are those of an opcode, which its four digits make up. -/
structure Instruction.Composes (i : Instruction) (opcode : Nat) : Prop where
  /-- The opcode is kept. -/
  raw_eq : i.raw = opcode
  /-- The four digits are hexadecimal. -/
  digits : ∀ d ∈ [i.family, i.x, i.y, i.n], 0 ≤ d ∧ d < 16
  /-- The digits make up the opcode. -/
  opcode_eq : 4096 * i.family + 256 * i.x + 16 * i.y + i.n = opcode
  /-- The last two digits make up the low byte. -/
  nn_eq : i.nn = 16 * i.y + i.n
  /-- The last three digits make up the address. -/
  nnn_eq : i.nnn = 256 * i.x + i.nn

/-- A file can have the name. -/
def IsFileName (name : String) : Prop :=
  '\x00' ∉ name.toList ∧ name ≠ "" ∧ nameTooLong name = false ∧ namedParts name ≠ []

variable {s : Session} {program : Program} {l : List Int} {bytes : List UInt8} {e : Error}

/-! ### Programs -/

theorem mapM_toInt_ofInt (l : List Int) : (l.map HostValue.ofInt).mapM HostValue.toInt = .ok l := by
  induction l with
  | nil => rfl
  | cons v l ih =>
    rw [List.map_cons, List.mapM_cons, ih]
    rfl

theorem toNat_ofInt_of_isByte {v : Int} (h : isByte v) : ((UInt8.ofInt v).toNat : Int) = v := by
  obtain ⟨hpos, hlt⟩ := isByte_iff.1 h
  obtain ⟨n, rfl⟩ := Int.eq_ofNat_of_zero_le hpos
  rw [ofInt_natCast, UInt8.toNat_ofNat_of_lt' (Int.ofNat_lt.1 hlt)]

theorem isByte_of_mem_map_toNat {v : Int} (h : v ∈ bytes.map fun b => (b.toNat : Int)) :
    isByte v := by
  obtain ⟨b, -, rfl⟩ := List.mem_map.1 h
  exact isByte_iff.2 ⟨Int.natCast_nonneg _, Int.ofNat_lt.2 b.toNat_lt⟩

namespace Program.Gives

theorem bytes_eq (h : program.Gives l) :
    program.bytes = if ∀ v ∈ l, isByte v then .ok (l.map UInt8.ofInt)
      else .error (.misuse .programByte) := by
  cases h with
  | raw bytes =>
    rw [if_pos fun v => isByte_of_mem_map_toNat, Program.bytes, List.map_map]
    refine congrArg Except.ok (List.map_id'' (fun b => ?_) bytes).symm
    exact (ofInt_natCast b.toNat).trans (UInt8.ofNat_toNat)
  | listed =>
    rw [Program.bytes, mapM_toInt_ofInt]
    simp only [bind, Except.bind, List.all_eq_true]
    rfl

/-- **Which programs are accepted.** -/
theorem checked_eq (h : program.Gives l) :
    program.checked =
      if ∀ v ∈ l, isByte v then
        if maxProgramSize < l.length then .error (.fault (.programTooLarge l.length))
        else .ok (l.map UInt8.ofInt)
      else .error (.misuse .programByte) := by
  rw [Program.checked, h.bytes_eq]
  split
  · change (if maxProgramSize < (l.map UInt8.ofInt).length then _ else _) = _
    rw [List.length_map]
    rfl
  · rfl

theorem checked_eq_ok_iff (h : program.Gives l) :
    program.checked = .ok bytes ↔
      (l.length ≤ maxProgramSize ∧ ∀ v ∈ l, isByte v) ∧ bytes = l.map UInt8.ofInt := by
  rw [h.checked_eq]
  split_ifs with hvalues hlarge
  · exact ⟨nofun, fun hfits => absurd hfits.1.1 (Nat.not_le.2 hlarge)⟩
  · rw [Except.ok.injEq]
    exact ⟨fun heq => ⟨⟨Nat.not_lt.1 hlarge, hvalues⟩, heq.symm⟩, fun heq => heq.2.symm⟩
  · exact ⟨nofun, fun hbytes => absurd hbytes.1.2 hvalues⟩

end Program.Gives

namespace Session

open Procedure

/-! ### Loads -/

/-- A program is checked before it is copied. -/
theorem load_eq (program : Program) :
    load program = (ofExcept program.checked >>= fun bytes => do
      update fun s => s.withProgram bytes
      report .info s!"Loaded program of {bytes.length} bytes at 0x200") := by
  unfold load Program.checked
  cases program.bytes with
  | error e => rfl
  | ok bytes =>
    -- Both sides make one check; here it comes before the first step of the procedure.
    refine (pure_bind bytes _).trans ?_
    change _ = (ofExcept (if maxProgramSize < bytes.length then _ else _) >>= _)
    by_cases hlarge : maxProgramSize < bytes.length
    · rw [if_pos hlarge, if_pos hlarge]
      rfl
    · rw [if_neg hlarge, if_neg hlarge]
      rfl

theorem load_of_ok (h : program.checked = .ok bytes) (s : Session) :
    (load program).Yields s (.ok ()) (s.withProgram bytes) [] := by
  rw [load_eq, h, yields_ofExcept_ok_bind, yields_update_bind]
  exact yields_report _ _ _

theorem load_of_error (h : program.checked = .error e) (s : Session) :
    load program s = ⟨.error e, s, {}⟩ := by
  rw [load_eq, h]
  rfl

/-- Whether a load succeeds is up to the program alone. -/
theorem load_result (program : Program) (s : Session) :
    (load program s).result = program.checked.map fun _ => () := by
  cases h : program.checked with
  | error e =>
    rw [load_of_error h]
    rfl
  | ok bytes => exact (load_of_ok h s).result_eq

theorem load_result_eq_ok_iff :
    (load program s).result = .ok () ↔ ∃ bytes, program.checked = .ok bytes := by
  rw [load_result]
  cases program.checked with
  | error e => exact ⟨nofun, nofun⟩
  | ok bytes => exact ⟨fun _ => ⟨bytes, rfl⟩, fun _ => rfl⟩

theorem load_session_of_error (h : (load program s).result = .error e) :
    (load program s).session = s := by
  cases hc : program.checked with
  | error e' => rw [load_of_error hc]
  | ok bytes => cases (load_of_ok hc s).result_eq.symm.trans h

theorem load_result_of_gives (hl : program.Gives l) :
    (load program s).result = .ok () ↔
      l.length ≤ maxProgramSize ∧ ∀ v ∈ l, 0 ≤ v ∧ v ≤ 255 := by
  have hrange (v : Int) : isByte v ↔ 0 ≤ v ∧ v ≤ 255 := by
    rw [isByte_iff]
    omega
  simp only [load_result_eq_ok_iff, hl.checked_eq_ok_iff, hrange, exists_and_left, exists_eq,
    and_true]

/-- **The numbers of a program lie in memory after a load.** -/
theorem loaded_load (hl : program.Gives l) (h : (load program s).result = .ok ()) :
    s.Loaded l (load program s).session := by
  obtain ⟨bytes, hbytes⟩ := load_result_eq_ok_iff.1 h
  rw [(load_of_ok hbytes s).session_eq]
  obtain ⟨⟨hfits, hvalues⟩, rfl⟩ := hl.checked_eq_ok_iff.1 hbytes
  refine ⟨rfl, fun i hi => ?_, fun k hk => Memory.peek_store_of_outside _ ?_⟩
  · have hi' : i < (l.map UInt8.ofInt).length := by rwa [List.length_map]
    have hend : programStart + i < memorySize := by
      have hroom : programStart + maxProgramSize = memorySize := rfl
      omega
    change (((s.state.memory.store programStart _).peek (programStart + i)).toNat : Int) = l[i]
    rw [Memory.peek_store_add _ hi' hend, List.getElem_map]
    exact toNat_ofInt_of_isByte (hvalues _ (List.getElem_mem hi))
  · rwa [List.length_map]

variable [Random.Generator]

/-- A program and the font may be loaded in either order. -/
theorem after_load_loadFont (program : Program) (s : Session) :
    s.after [.load program, .loadFont] = s.after [.loadFont, .load program] := by
  simp only [after, Command.perform, session_answer]
  cases h : program.checked with
  | error e => rw [load_of_error h, load_of_error h]
  | ok bytes =>
    -- The font ends in front of the program start.
    have hapart : fontStart + font.length ≤ programStart := by decide
    have hmemory : (s.state.memory.store fontStart font).store programStart bytes =
        (s.state.memory.store programStart bytes).store fontStart font :=
      Memory.store_comm _ hapart
    rw [(load_of_ok h _).session_eq, (load_of_ok h _).session_eq]
    simp only [loadFont, update, withProgram, State.withFont, Memory.withFont, hmemory]

end Session

/-! ### Words -/

theorem length_bigEndian (words : List UInt16) : (bigEndian words).length = 2 * words.length := by
  induction words with
  | nil => rfl
  | cons w words ih => exact congrArg (· + 2) ih

theorem isByte_of_mem_bigEndian {words : List UInt16} {v : Int} (h : v ∈ bigEndian words) :
    0 ≤ v ∧ v ≤ 255 := by
  obtain ⟨w, -, hv⟩ := List.mem_flatMap.1 h
  have hw := w.toNat_lt
  simp only [List.mem_cons, List.not_mem_nil, or_false] at hv
  omega

theorem getElem?_bigEndian {words : List UInt16} {i : Nat} (hi : i < words.length) :
    (bigEndian words)[2 * i]? = some (words[i].toNat / 256 : Int) ∧
      (bigEndian words)[2 * i + 1]? = some (words[i].toNat % 256 : Int) := by
  induction words generalizing i with
  | nil => cases hi
  | cons w words ih =>
    cases i with
    | zero => exact ⟨rfl, rfl⟩
    | succ i => exact ih (Nat.lt_of_succ_lt_succ hi)

/-- **Words that were loaded are fetched.** -/
theorem State.fetch_bigEndian {words : List UInt16} {s t : Session}
    (h : s.Loaded (bigEndian words) t) (hfits : words.length ≤ 1792) {u : State}
    (hmemory : u.memory = t.state.memory) {i : Nat} (hi : i < words.length)
    (hpc : u.pc.toNat = programStart + 2 * i) : u.fetch = .ok words[i].toNat := by
  obtain ⟨hfirst, hsecond⟩ := getElem?_bigEndian hi
  obtain ⟨hi₀, hfirst⟩ := List.getElem?_eq_some_iff.1 hfirst
  obtain ⟨hi₁, hsecond⟩ := List.getElem?_eq_some_iff.1 hsecond
  have hhigh := (h.loaded (2 * i) hi₀).trans hfirst
  have hlow := (h.loaded (2 * i + 1) hi₁).trans hsecond
  rw [← Nat.add_assoc] at hlow
  have hend : u.pc.toNat ≤ 4094 := by
    rw [hpc, programStart]
    omega
  rw [fetch_eq, if_pos hend, hmemory, hpc]
  refine congrArg Except.ok ?_
  omega

theorem Instruction.composes_ofOpcode {opcode : Nat} (ho : opcode < 65536) :
    (ofOpcode opcode).Composes opcode := by
  rw [ofOpcode_eq ho]
  constructor
  · rfl
  · intro d hd
    simp only [List.mem_cons, List.not_mem_nil, or_false] at hd
    omega
  all_goals
    simp only
    omega

/-! ### ROMs -/

/-- **The files whose content is loaded.** -/
theorem readRom_eq_ok_iff {name : String} {entry : RomEntry} :
    readRom name entry = .ok bytes ↔
      IsFileName name ∧ entry = .file bytes ∧ 0 < bytes.length ∧ bytes.length ≤ maxProgramSize := by
  constructor
  · intro h
    unfold readRom at h
    split_ifs at h with hnull hempty hlong hparts
    have hname : IsFileName name :=
      ⟨by simpa using hnull, by simpa using hempty, by simpa using hlong, by simpa using hparts⟩
    cases entry with
    | file content =>
      simp only at h
      split_ifs at h with hnone hlarge
      cases h
      exact ⟨hname, rfl, by simpa [List.length_pos_iff] using hnone, Nat.not_lt.1 hlarge⟩
    | directory => cases h
    | missing => cases h
  · rintro ⟨⟨hnull, hempty, hlong, hparts⟩, rfl, hpos, hfits⟩
    have hnone : bytes.isEmpty = false := by simpa [List.length_pos_iff] using hpos
    rw [readRom, if_neg (by simpa using hnull), if_neg (by simpa using hempty),
      if_neg (by simpa using hlong), if_neg (by simpa using hparts)]
    simp only [hnone, if_neg (Nat.not_lt.2 hfits)]
    rfl

namespace Session

theorem loadRom_of_ok {name : String} {entry : RomEntry} (h : readRom name entry = .ok bytes) :
    loadRom name entry = load (.raw bytes) := by
  rw [loadRom, h]
  exact pure_bind bytes _

theorem loadRom_of_error {name : String} {entry : RomEntry} (h : readRom name entry = .error e)
    (s : Session) : loadRom name entry s = ⟨.error e, s, {}⟩ := by
  rw [loadRom, h]
  rfl

/-- A ROM is loaded exactly if it is read: what is read fits. -/
theorem loadRom_result_eq_ok_iff {name : String} {entry : RomEntry} :
    (loadRom name entry s).result = .ok () ↔ ∃ content, readRom name entry = .ok content := by
  cases h : readRom name entry with
  | error e =>
    rw [loadRom_of_error h]
    exact ⟨nofun, nofun⟩
  | ok content =>
    have hfits : content.length ≤ maxProgramSize := (readRom_eq_ok_iff.1 h).2.2.2
    have hchecked : (Program.raw content).checked = .ok content := if_neg (Nat.not_lt.2 hfits)
    rw [loadRom_of_ok h, (load_of_ok hchecked s).result_eq]
    exact ⟨fun _ => ⟨content, rfl⟩, fun _ => rfl⟩

theorem loadRom_session_of_error {name : String} {entry : RomEntry}
    (h : (loadRom name entry s).result = .error e) : (loadRom name entry s).session = s := by
  cases hr : readRom name entry with
  | error e' => rw [loadRom_of_error hr]
  | ok content =>
    rw [loadRom_of_ok hr] at h ⊢
    exact load_session_of_error h

/-- **The law of loading.** Exactly the programs of bytes that fit are loaded, and nothing but their
bytes is written. The font may be installed before or after. Words are fetched as they were loaded,
and decoding takes each of them apart. The content of a ROM is loaded like any program. A load that
fails leaves the whole session as it was. -/
theorem load_exact [Random.Generator] (s : Session) :
    (∀ program l, Program.Gives program l →
      ((load program s).result = .ok () ↔
        l.length ≤ maxProgramSize ∧ ∀ v ∈ l, 0 ≤ v ∧ v ≤ 255) ∧
      ((load program s).result = .ok () → s.Loaded l (load program s).session)) ∧
    (∀ program, (load program (loadFont s).session).result = (load program s).result ∧
      s.after [.load program, .loadFont] = s.after [.loadFont, .load program]) ∧
    (∀ program words, Program.Gives program (bigEndian words) → words.length ≤ 1792 →
      (load program s).result = .ok () ∧
      ∀ u : State, u.memory = (load program s).session.state.memory →
        ∀ i (hi : i < words.length), u.pc.toNat = programStart + 2 * i →
          u.fetch = .ok words[i].toNat ∧
          ∃ j, decode (.ofInt words[i].toNat) = .ok j ∧ j.Composes words[i].toNat) ∧
    (∀ name entry, (loadRom name entry s).result = .ok () ↔ ∃ content,
      IsFileName name ∧ entry = .file content ∧
        0 < content.length ∧ content.length ≤ maxProgramSize) ∧
    (∀ name content, IsFileName name → 0 < content.length → content.length ≤ maxProgramSize →
      loadRom name (.file content) s = load (.raw content) s) ∧
    (∀ program e, (load program s).result = .error e → (load program s).session = s) ∧
    ∀ name entry e, (loadRom name entry s).result = .error e →
      (loadRom name entry s).session = s := by
  refine ⟨fun program l hl => ⟨load_result_of_gives hl, loaded_load hl⟩, fun program => ?_,
    fun program words hl hlength => ?_, fun name entry => ?_,
    fun name content hname hpos hfits => ?_, fun program e => load_session_of_error,
    fun name entry e => loadRom_session_of_error⟩
  · exact ⟨by rw [load_result, load_result], after_load_loadFont program s⟩
  · have hok : (load program s).result = .ok () := by
      refine (load_result_of_gives hl).2 ⟨?_, fun v => isByte_of_mem_bigEndian⟩
      rw [length_bigEndian]
      exact Nat.mul_le_mul_left 2 hlength
    refine ⟨hok, fun u hmemory i hi hpc => ⟨?_, ?_⟩⟩
    · exact State.fetch_bigEndian (loaded_load hl hok) hlength hmemory hi hpc
    · exact ⟨_, decode_natCast words[i].toNat_lt, Instruction.composes_ofOpcode words[i].toNat_lt⟩
  · simp only [loadRom_result_eq_ok_iff, readRom_eq_ok_iff]
  · rw [loadRom_of_ok (readRom_eq_ok_iff.2 ⟨hname, rfl, hpos, hfits⟩)]

theorem namedParts_a : namedParts "a" = ["a"] := by
  have hsplit : "a".splitOn "/" = ["a"] := by
    rw [String.splitOn, if_neg (by decide), String.splitOnAux, if_neg (by decide),
      if_neg (by decide), String.splitOnAux, if_pos (by decide)]
    decide
  rw [namedParts, hsplit]
  decide

theorem isFileName_a : IsFileName "a" := by
  have hlong : nameTooLong "a" = false := by
    rw [nameTooLong, namedParts_a]
    decide
  exact ⟨by decide, by decide, hlong, by rw [namedParts_a]; decide⟩

/-- Two instructions: `A202` and `D015`. -/
def twoWords : List UInt16 :=
  [0xA202, 0xD015]

/-- The bytes of two instructions as numbers. -/
def twoWordsProgram : Program :=
  .listed ((bigEndian twoWords).map .ofInt)

/-- Two words are loaded as numbers, and the second one is fetched and decoded. A number that is no
byte is refused, and so is an empty ROM. -/
theorem load_exact_twoWords :
    twoWordsProgram.Gives (bigEndian twoWords) ∧ twoWords.length ≤ 1792 ∧ IsFileName "a" ∧
      (ofProgram [] defaultSpeed).Loaded [0xA2, 0x02, 0xD0, 0x15]
        (load twoWordsProgram (ofProgram [] defaultSpeed)).session ∧
      (∃ u : State, u.pc = 514 ∧
        u.memory = (load twoWordsProgram (ofProgram [] defaultSpeed)).session.state.memory ∧
        u.fetch = .ok 0xD015 ∧
        ∃ j, decode (.ofInt (0xD015 : Nat)) = .ok j ∧ j.Composes 0xD015) ∧
      (∃ e, (load (.listed [.ofInt 1, .ofInt 256]) (ofProgram [] defaultSpeed)).result = .error e ∧
        (load (.listed [.ofInt 1, .ofInt 256]) (ofProgram [] defaultSpeed)).session =
          ofProgram [] defaultSpeed) ∧
      loadRom "a" (.file [0x12, 0x00]) (ofProgram [] defaultSpeed) =
        load (.raw [0x12, 0x00]) (ofProgram [] defaultSpeed) ∧
      (loadRom "a" (.file []) (ofProgram [] defaultSpeed)).result ≠ .ok () := by
  obtain ⟨hexact, -, hwords, hrom, hsame, herror, -⟩ := load_exact (ofProgram [] defaultSpeed)
  have hgives : twoWordsProgram.Gives (bigEndian twoWords) := .listed _
  have hlength : twoWords.length ≤ 1792 := by decide
  obtain ⟨hok, hfetch⟩ := hwords twoWordsProgram twoWords hgives hlength
  have hloaded := (hexact twoWordsProgram _ hgives).2 hok
  obtain ⟨u, hmemory, hpc⟩ : ∃ u : State,
      u.memory = (load twoWordsProgram (ofProgram [] defaultSpeed)).session.state.memory ∧
        u.pc = 514 :=
    ⟨{ (load twoWordsProgram (ofProgram [] defaultSpeed)).session.state with pc := 514 }, rfl, rfl⟩
  have hword := hfetch u hmemory 1 (by decide) (by rw [hpc]; rfl)
  have hsecond : twoWords[1].toNat = 0xD015 := by decide
  rw [hsecond] at hword
  have hrefused : (load (.listed [.ofInt 1, .ofInt 256]) (ofProgram [] defaultSpeed)).result =
      .error (.misuse .programByte) := rfl
  have hempty : ¬(loadRom "a" (.file []) (ofProgram [] defaultSpeed)).result = .ok () := by
    rw [hrom]
    rintro ⟨content, -, hfile, hpos, -⟩
    cases hfile
    exact Nat.lt_irrefl 0 hpos
  exact ⟨hgives, hlength, isFileName_a, hloaded, ⟨u, hpc, hmemory, hword⟩,
    ⟨_, hrefused, herror _ _ hrefused⟩, hsame "a" [0x12, 0x00] isFileName_a (by decide) (by decide),
    hempty⟩

end Session

end Chip8
