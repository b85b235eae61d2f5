import Mathlib.Tactic.IntervalCases
import Chip8.Proofs.Effect
import Chip8.Random.Threefry

/-!
# Reading the text of an instruction

The text of an instruction is found from tables of its own. They know exactly the instructions that
the execution knows: what is written as a data word is ignored with a warning.

The text of an opcode is read back, character by character, to the operation of the opcode. Only the
second register of a shift is lost, and a shift does not look at it. So opcodes with one text have
one effect.

## Main definitions

* `Chip8.Operation.assembly` : the text of an operation.
* `Chip8.Operation.ofAssembly?` : the operation that a text names.
* `Chip8.Operation.canonical` : an operation without the register that it ignores.

## Main results

* `Chip8.Instruction.assembly_eq` : the tables of the text agree with the dispatch of the execution.
* `Chip8.Operation.ofAssembly?_assembly` : the text of an opcode names its operation.
* `Chip8.assembly_eq_dataWord_iff_execute` : the data words are the instructions that are ignored.
* `Chip8.assembly_agrees_with_execution` : the text of an instruction determines its effect.
-/

namespace Chip8

/-! ### The text of an operation -/

/-- The name of an operation on two registers. -/
def BinaryOp.assembly : BinaryOp → String
  | .copy => "LD"
  | .or => "OR"
  | .and => "AND"
  | .xor => "XOR"
  | .add => "ADD"
  | .subtract => "SUB"
  | .shiftRight => "SHR"
  | .subtractFrom => "SUBN"
  | .shiftLeft => "SHL"

/-- The text of an operation. -/
def Operation.assembly : Operation → String
  | .clear => "CLS"
  | .ret => "RET"
  | .jump address => "JP " ++ addressOperand address
  | .call address => "CALL " ++ addressOperand address
  | .skipIfValue x value => "SE " ++ registerName x ++ ", " ++ byteOperand value
  | .skipUnlessValue x value => "SNE " ++ registerName x ++ ", " ++ byteOperand value
  | .skipIfEqual x y => "SE " ++ registerName x ++ ", " ++ registerName y
  | .skipUnlessEqual x y => "SNE " ++ registerName x ++ ", " ++ registerName y
  | .load x value => "LD " ++ registerName x ++ ", " ++ byteOperand value
  | .increase x value => "ADD " ++ registerName x ++ ", " ++ byteOperand value
  | .combine .shiftRight x _ => BinaryOp.shiftRight.assembly ++ " " ++ registerName x
  | .combine .shiftLeft x _ => BinaryOp.shiftLeft.assembly ++ " " ++ registerName x
  | .combine op x y => op.assembly ++ " " ++ registerName x ++ ", " ++ registerName y
  | .point address => "LD I, " ++ addressOperand address
  | .jumpBeyond address => "JP V0, " ++ addressOperand address
  | .random x mask => "RND " ++ registerName x ++ ", " ++ byteOperand mask
  | .draw x y height =>
    "DRW " ++ registerName x ++ ", " ++ registerName y ++ ", " ++ toString height
  | .skipIfKey x => "SKP " ++ registerName x
  | .skipUnlessKey x => "SKNP " ++ registerName x
  | .readDelay x => "LD " ++ registerName x ++ ", DT"
  | .awaitKey x => "LD " ++ registerName x ++ ", K"
  | .setDelay x => "LD DT, " ++ registerName x
  | .setSound x => "LD ST, " ++ registerName x
  | .shiftPoint x => "ADD I, " ++ registerName x
  | .pointAtGlyph x => "LD F, " ++ registerName x
  | .storeDecimal x => "LD B, " ++ registerName x
  | .storeRegisters x => "LD [I], " ++ registerName x
  | .loadRegisters x => "LD " ++ registerName x ++ ", [I]"

namespace Instruction

variable {i : Instruction} {op : Operation}

/-! ### The tables of the text and the dispatch of the execution -/

theorem lookup_systemTexts (i : Instruction) :
    systemTexts.lookup i.raw = i.systemOperation?.map Operation.assembly := by
  unfold systemOperation?
  split_ifs with hclear hret
  · rw [hclear]
    rfl
  · rw [hret]
    rfl
  · simp [systemTexts, List.lookup_eq_none_iff, hclear, hret]

theorem lookup_keyNames (i : Instruction) :
    (keyNames.lookup i.nn).map (· ++ registerName i.x) =
      i.keyOperation?.map Operation.assembly := by
  unfold keyOperation?
  split_ifs with hdown hup
  · rw [hdown]
    rfl
  · rw [hup]
    rfl
  · have hnone : keyNames.lookup i.nn = none := by
      simp [keyNames, List.lookup_eq_none_iff, hdown, hup]
    rw [hnone]
    rfl

theorem lookup_arithmeticNames (n : Int) :
    arithmeticNames.lookup n = (BinaryOp.ofDigit? n).map BinaryOp.assembly := by
  unfold BinaryOp.ofDigit?
  split_ifs
  case neg => simp [arithmeticNames, List.lookup_eq_none_iff, *]
  all_goals
    subst n
    rfl

/-- The second register is left out exactly for the two digits of the shifts. -/
theorem arithmeticText_assembly {op : BinaryOp} (h : BinaryOp.ofDigit? i.n = some op) :
    i.arithmeticText op.assembly = (Operation.combine op i.x i.y).assembly := by
  unfold BinaryOp.ofDigit? at h
  unfold arithmeticText
  split_ifs at h <;> cases h <;> simp [*, Operation.assembly]

theorem lookup_arithmeticTexts (i : Instruction) :
    (arithmeticNames.lookup i.n).map i.arithmeticText =
      ((BinaryOp.ofDigit? i.n).map fun op => Operation.combine op i.x i.y).map
        Operation.assembly := by
  rw [lookup_arithmeticNames]
  cases hop : BinaryOp.ofDigit? i.n with
  | none => rfl
  | some op => exact congrArg some (arithmeticText_assembly hop)

theorem lookup_miscellaneousFormats (i : Instruction) :
    (miscellaneousFormats.lookup i.nn).map i.miscellaneousText =
      i.miscellaneousOperation?.map Operation.assembly := by
  unfold miscellaneousOperation?
  split_ifs
  case neg =>
    have hnone : miscellaneousFormats.lookup i.nn = none := by
      simp [miscellaneousFormats, List.lookup_eq_none_iff, *]
    rw [hnone]
    rfl
  all_goals
    simp only [*]
    simp [miscellaneousFormats, List.lookup_cons, miscellaneousText, Operation.assembly]

/-- **The tables agree.** The text of an instruction is that of the operation that it means, and a
data word exactly where it means none, with whatever fields. -/
theorem assembly_eq (i : Instruction) :
    i.assembly = (i.operation?.map Operation.assembly).getD i.dataWord := by
  simp only [assembly, operation?, lookup_systemTexts, lookup_arithmeticTexts, lookup_keyNames,
    lookup_miscellaneousFormats, apply_ite (Option.map Operation.assembly),
    apply_ite (Option.getD · i.dataWord)]
  rfl

end Instruction

/-! ### Reading numerals -/

namespace Text

/-- The value of a digit, decimal or upper-case hexadecimal. -/
def digitValue (c : Char) : Nat :=
  if c.toNat < 0x41 then c.toNat - 0x30 else c.toNat - 0x37

/-- The number that a list of digits stands for, the most significant digit first. -/
def readDigits (base : Nat) (l : List Char) : Nat :=
  l.foldl (fun n c => base * n + digitValue c) 0

/-- The number of a hexadecimal numeral. -/
def readHex (l : List Char) : Nat :=
  readDigits 16 l

theorem digitValue_hexDigit {d : Nat} (hd : d < 16) : digitValue (hexDigit d) = d := by
  interval_cases d <;> rfl

theorem readHex_append_singleton (l : List Char) (c : Char) :
    readHex (l ++ [c]) = 16 * readHex l + digitValue c := by
  simp [readHex, readDigits]

theorem readHex_zeroFill (width : Nat) (l : List Char) :
    readHex (zeroFill width l) = readHex l := by
  suffices h : ∀ k, readHex (List.replicate k '0' ++ l) = readHex l from h _
  intro k
  induction k with
  | zero => rfl
  | succ k ih => exact ih

theorem readHex_hexDigits (n : Nat) : readHex (hexDigits n) = n := by
  induction n using hexDigits.induct with
  | case1 n hn =>
    rw [hexDigits, if_pos hn]
    simp [readHex, readDigits, digitValue_hexDigit hn]
  | case2 n hn ih =>
    rw [hexDigits, if_neg hn, readHex_append_singleton, ih,
      digitValue_hexDigit (Nat.mod_lt n (by omega))]
    omega

theorem readHex_hexChars (width n : Nat) : readHex (hexChars width n) = n := by
  rw [hexChars, if_neg (by omega), Int.natAbs_natCast, readHex_zeroFill, readHex_hexDigits]

end Text

/-! ### Reading operands -/

section Operands

open Text

theorem exists_toList_registerName {x : Int} (hx₀ : 0 ≤ x) (hx : x < 16) :
    ∃ c, (registerName x).toList = ['V', c] ∧ digitValue c = x := by
  lift x to Nat using hx₀
  have hx : x < 16 := by omega
  refine ⟨hexDigit x, ?_, by rw [digitValue_hexDigit hx]⟩
  simp [registerName, hex, hexChars, zeroFill, hexDigits, hx]

theorem exists_toList_byteOperand {value : Int} (hv : 0 ≤ value) :
    ∃ l, (byteOperand value).toList = '0' :: 'x' :: l ∧ readHex l = value := by
  lift value to Nat using hv
  exact ⟨hexChars 2 value, by simp [byteOperand, hex], by rw [readHex_hexChars]⟩

theorem exists_toList_addressOperand {address : Int} (ha : 0 ≤ address) :
    ∃ l, (addressOperand address).toList = '0' :: 'x' :: l ∧ readHex l = address := by
  lift address to Nat using ha
  exact ⟨hexChars 3 address, by simp [addressOperand, hex], by rw [readHex_hexChars]⟩

theorem readDigits_toString {height : Int} (h₀ : 0 ≤ height) (h : height < 16) :
    readDigits 10 (toString height).toList = height := by
  have hread : ∀ n : Nat, n < 16 → readDigits 10 (toString (n : Int)).toList = n := by decide
  lift height to Nat using h₀
  exact congrArg Nat.cast (hread height (by omega))

end Operands

/-! ### Reading operations -/

namespace Operation

open Text

/-- The operation with the given operands that is called `LD`. What is loaded is told by the form
of the operands. -/
def ofLoadOperands? : List Char → Option Operation
  | 'V' :: x :: ',' :: ' ' :: '0' :: 'x' :: l => some (.load (digitValue x) (readHex l))
  | ['V', x, ',', ' ', 'V', y] => some (.combine .copy (digitValue x) (digitValue y))
  | ['V', x, ',', ' ', 'D', 'T'] => some (.readDelay (digitValue x))
  | ['V', x, ',', ' ', 'K'] => some (.awaitKey (digitValue x))
  | ['V', x, ',', ' ', '[', 'I', ']'] => some (.loadRegisters (digitValue x))
  | 'I' :: ',' :: ' ' :: '0' :: 'x' :: l => some (.point (readHex l))
  | ['D', 'T', ',', ' ', 'V', x] => some (.setDelay (digitValue x))
  | ['S', 'T', ',', ' ', 'V', x] => some (.setSound (digitValue x))
  | ['F', ',', ' ', 'V', x] => some (.pointAtGlyph (digitValue x))
  | ['B', ',', ' ', 'V', x] => some (.storeDecimal (digitValue x))
  | ['[', 'I', ']', ',', ' ', 'V', x] => some (.storeRegisters (digitValue x))
  | _ => none

/-- The operation with the given operands that is called `ADD`. -/
def ofAddOperands? : List Char → Option Operation
  | 'V' :: x :: ',' :: ' ' :: '0' :: 'x' :: l => some (.increase (digitValue x) (readHex l))
  | ['V', x, ',', ' ', 'V', y] => some (.combine .add (digitValue x) (digitValue y))
  | ['I', ',', ' ', 'V', x] => some (.shiftPoint (digitValue x))
  | _ => none

/-- The comparison of a register with the second operand, which is a byte or another register. -/
def ofComparedOperands? (withValue withRegister : Int → Int → Operation) :
    List Char → Option Operation
  | 'V' :: x :: ',' :: ' ' :: '0' :: 'x' :: l => some (withValue (digitValue x) (readHex l))
  | ['V', x, ',', ' ', 'V', y] => some (withRegister (digitValue x) (digitValue y))
  | _ => none

/-- The operation on two registers with the given operands. The second operand of a shift is not
written, and the first stands in its place. -/
def ofRegisters? (op : BinaryOp) : List Char → Option Operation
  | ['V', x, ',', ' ', 'V', y] => some (.combine op (digitValue x) (digitValue y))
  | ['V', x] => some (.combine op (digitValue x) (digitValue x))
  | _ => none

/-- The operation that a text names, given by its characters. -/
def ofAssembly? : List Char → Option Operation
  | ['C', 'L', 'S'] => some .clear
  | ['R', 'E', 'T'] => some .ret
  | 'J' :: 'P' :: ' ' :: '0' :: 'x' :: l => some (.jump (readHex l))
  | 'J' :: 'P' :: ' ' :: 'V' :: '0' :: ',' :: ' ' :: '0' :: 'x' :: l =>
    some (.jumpBeyond (readHex l))
  | 'C' :: 'A' :: 'L' :: 'L' :: ' ' :: '0' :: 'x' :: l => some (.call (readHex l))
  | 'S' :: 'E' :: ' ' :: l => ofComparedOperands? .skipIfValue .skipIfEqual l
  | 'S' :: 'N' :: 'E' :: ' ' :: l => ofComparedOperands? .skipUnlessValue .skipUnlessEqual l
  | 'L' :: 'D' :: ' ' :: l => ofLoadOperands? l
  | 'A' :: 'D' :: 'D' :: ' ' :: l => ofAddOperands? l
  | 'O' :: 'R' :: ' ' :: l => ofRegisters? .or l
  | 'A' :: 'N' :: 'D' :: ' ' :: l => ofRegisters? .and l
  | 'X' :: 'O' :: 'R' :: ' ' :: l => ofRegisters? .xor l
  | 'S' :: 'U' :: 'B' :: ' ' :: l => ofRegisters? .subtract l
  | 'S' :: 'U' :: 'B' :: 'N' :: ' ' :: l => ofRegisters? .subtractFrom l
  | 'S' :: 'H' :: 'R' :: ' ' :: l => ofRegisters? .shiftRight l
  | 'S' :: 'H' :: 'L' :: ' ' :: l => ofRegisters? .shiftLeft l
  | 'R' :: 'N' :: 'D' :: ' ' :: 'V' :: x :: ',' :: ' ' :: '0' :: 'x' :: l =>
    some (.random (digitValue x) (readHex l))
  | 'D' :: 'R' :: 'W' :: ' ' :: 'V' :: x :: ',' :: ' ' :: 'V' :: y :: ',' :: ' ' :: l =>
    some (.draw (digitValue x) (digitValue y) (readDigits 10 l))
  | ['S', 'K', 'P', ' ', 'V', x] => some (.skipIfKey (digitValue x))
  | ['S', 'K', 'N', 'P', ' ', 'V', x] => some (.skipUnlessKey (digitValue x))
  | _ => none

/-- The operation with the register that a shift ignores replaced by the other one. -/
def canonical : Operation → Operation
  | .combine .shiftRight x _ => .combine .shiftRight x x
  | .combine .shiftLeft x _ => .combine .shiftLeft x x
  | op => op

/-- A shift does not look at its second register. -/
theorem run_canonical [Random.Generator] (op : Operation) (s : State) (grid : PixelGrid)
    (keys : Keys) :
    op.canonical.run s grid keys = op.run s grid keys := by
  unfold canonical
  split <;> rfl

/-- The operands of an operation, where they can be read back from its text: registers and the
height of a sprite are digits, and nothing is negative. -/
def IsWritable : Operation → Prop
  | .clear | .ret => True
  | .jump a | .call a | .point a | .jumpBeyond a => 0 ≤ a
  | .skipIfValue x v | .skipUnlessValue x v | .load x v | .increase x v | .random x v =>
    0 ≤ x ∧ x < 16 ∧ 0 ≤ v
  | .skipIfEqual x y | .skipUnlessEqual x y | .combine _ x y => 0 ≤ x ∧ x < 16 ∧ 0 ≤ y ∧ y < 16
  | .draw x y h => 0 ≤ x ∧ x < 16 ∧ 0 ≤ y ∧ y < 16 ∧ 0 ≤ h ∧ h < 16
  | .skipIfKey x | .skipUnlessKey x | .readDelay x | .awaitKey x | .setDelay x | .setSound x
  | .shiftPoint x | .pointAtGlyph x | .storeDecimal x | .storeRegisters x | .loadRegisters x =>
    0 ≤ x ∧ x < 16

/-- The operands of an opcode can be read back. -/
theorem isWritable_of_isMeantBy {op : Operation} {opcode : Nat}
    (h : op.IsMeantBy (.ofOpcode opcode)) : op.IsWritable := by
  cases op <;> simp only [IsMeantBy, Instruction.ofOpcode] at h <;> simp only [IsWritable] <;> omega

/-- **The text of an operation names the operation**, up to the register that a shift ignores. -/
theorem ofAssembly?_assembly {op : Operation} (h : op.IsWritable) :
    ofAssembly? op.assembly.toList = some op.canonical := by
  -- The name and the marks between the operands are fixed, so the reader is evaluated on them. What
  -- is left are the digits.
  cases op with
  | clear | ret => rfl
  | jump a | call a | point a | jumpBeyond a =>
    obtain ⟨l, hl, rfl⟩ := exists_toList_addressOperand h
    simp only [assembly, String.toList_append, hl]
    rfl
  | skipIfValue x v | skipUnlessValue x v | load x v | increase x v | random x v =>
    obtain ⟨hx₀, hx, hv⟩ := h
    obtain ⟨c, hc, rfl⟩ := exists_toList_registerName hx₀ hx
    obtain ⟨l, hl, rfl⟩ := exists_toList_byteOperand hv
    simp only [assembly, String.toList_append, hc, hl]
    rfl
  | skipIfEqual x y | skipUnlessEqual x y =>
    obtain ⟨hx₀, hx, hy₀, hy⟩ := h
    obtain ⟨c, hc, rfl⟩ := exists_toList_registerName hx₀ hx
    obtain ⟨d, hd, rfl⟩ := exists_toList_registerName hy₀ hy
    simp only [assembly, String.toList_append, hc, hd]
    rfl
  | combine op x y =>
    obtain ⟨hx₀, hx, hy₀, hy⟩ := h
    obtain ⟨c, hc, rfl⟩ := exists_toList_registerName hx₀ hx
    obtain ⟨d, hd, rfl⟩ := exists_toList_registerName hy₀ hy
    cases op <;> simp only [assembly, String.toList_append, hc, hd] <;> rfl
  | draw x y height =>
    obtain ⟨hx₀, hx, hy₀, hy, hh₀, hh⟩ := h
    obtain ⟨c, hc, rfl⟩ := exists_toList_registerName hx₀ hx
    obtain ⟨d, hd, rfl⟩ := exists_toList_registerName hy₀ hy
    simp only [assembly, String.toList_append, hc, hd]
    exact congrArg (fun n => some (Operation.draw _ _ n)) (readDigits_toString hh₀ hh)
  | skipIfKey x | skipUnlessKey x | readDelay x | awaitKey x | setDelay x | setSound x
  | shiftPoint x | pointAtGlyph x | storeDecimal x | storeRegisters x | loadRegisters x =>
    obtain ⟨hx₀, hx⟩ := h
    obtain ⟨c, hc, rfl⟩ := exists_toList_registerName hx₀ hx
    simp only [assembly, String.toList_append, hc]
    rfl

example : ofAssembly? "DRW VA, VB, 12".toList = some (.draw 10 11 12) := rfl

/-- No operation is written as a data word, with whatever operands. -/
theorem take_assembly_ne (op : Operation) : op.assembly.toList.take 2 ≠ ['D', 'W'] := by
  cases op with
  | combine op x y => cases op <;> simp [assembly, BinaryOp.assembly]
  | _ => simp [assembly]

end Operation

namespace Instruction

variable {i : Instruction} {op : Operation}

theorem assembly_of_none (h : i.operation? = none) : i.assembly = i.dataWord := by
  rw [assembly_eq, h]
  rfl

theorem assembly_of_some (h : i.operation? = some op) : i.assembly = op.assembly := by
  rw [assembly_eq, h]
  rfl

theorem operation?_eq_none_iff_take :
    i.operation? = none ↔ i.assembly.toList.take 2 = ['D', 'W'] := by
  cases ho : i.operation? with
  | none => simp [assembly_of_none ho, dataWord]
  | some op => simp [assembly_of_some ho, op.take_assembly_ne]

/-- The data words are the texts of the instructions that mean nothing. -/
theorem assembly_eq_dataWord_iff : i.assembly = i.dataWord ↔ i.operation? = none := by
  refine ⟨fun h => ?_, assembly_of_none⟩
  rw [operation?_eq_none_iff_take, h]
  simp [dataWord]

theorem eq_of_dataWord_eq {o o' : Nat}
    (h : (ofOpcode o).dataWord = (ofOpcode o').dataWord) : o = o' := by
  have hread (opcode : Nat) :
      Text.readHex ((ofOpcode opcode).dataWord.toList.drop 5) = opcode := by
    have hw : (ofOpcode opcode).dataWord.toList =
        'D' :: 'W' :: ' ' :: '0' :: 'x' :: Text.hexChars 4 (opcode : Int) := by
      simp [dataWord, Text.hex, ofOpcode]
    rw [hw]
    exact Text.readHex_hexChars 4 opcode
  rw [← hread o, h, hread o']

end Instruction

section Agreement

variable {s : State} {grid : PixelGrid} {keys : Keys}

section

variable [Random.Generator]

theorem Operation.warnings_run (op : Operation) : (op.run s grid keys).warnings = [] := by
  cases op with
  | draw x y height =>
    change (runDraw s grid x y height).warnings = []
    unfold runDraw
    cases s.memory.read s.index.toNat height <;> rfl
  | _ => rfl

theorem warnings_execute {i : Instruction} {op : Operation} (ho : i.operation? = some op) :
    (execute i s grid keys).warnings = [] := by
  unfold execute
  split
  · rw [ho]
    exact op.warnings_run
  · rfl

/-- The data words are the instructions that are ignored with a warning. -/
theorem assembly_eq_dataWord_iff_execute {i : Instruction} (hi : i.HasFamily) :
    i.assembly = i.dataWord ↔
      execute i s grid keys =
        { result := .ok s.advance, grid, warnings := [i.ignoredWarning s.advance.pc] } := by
  rw [Instruction.assembly_eq_dataWord_iff]
  cases ho : i.operation? with
  | none => simp [execute_of_hasFamily hi, ho]
  | some op =>
    refine iff_of_false nofun fun h => ?_
    have hw : (execute i s grid keys).warnings = [] := warnings_execute ho
    rw [h] at hw
    cases hw

theorem execute_eq_of_assembly_eq {o o' : Nat}
    (h : (Instruction.ofOpcode o).assembly = (Instruction.ofOpcode o').assembly) :
    execute (.ofOpcode o) s grid keys = execute (.ofOpcode o') s grid keys := by
  have hi := Instruction.hasFamily_ofOpcode
  have hnone : (Instruction.ofOpcode o).operation? = none ↔
      (Instruction.ofOpcode o').operation? = none := by
    rw [Instruction.operation?_eq_none_iff_take, h, Instruction.operation?_eq_none_iff_take]
  cases ho : (Instruction.ofOpcode o).operation? with
  | none =>
    obtain rfl : o = o' := Instruction.eq_of_dataWord_eq <| by
      rw [← Instruction.assembly_of_none ho, h, Instruction.assembly_of_none (hnone.1 ho)]
    rfl
  | some op =>
    obtain ⟨op', ho'⟩ := Option.ne_none_iff_exists'.1 (mt hnone.2 (by simp [ho]))
    have hw := Operation.isWritable_of_isMeantBy (Instruction.isMeantBy_of_operation? (hi o) ho)
    have hw' := Operation.isWritable_of_isMeantBy (Instruction.isMeantBy_of_operation? (hi o') ho')
    have hcanonical : op.canonical = op'.canonical := Option.some.inj <| by
      rw [← Operation.ofAssembly?_assembly hw, ← Operation.ofAssembly?_assembly hw',
        ← Instruction.assembly_of_some ho, h, Instruction.assembly_of_some ho']
    simp only [execute_of_hasFamily (hi _), ho, ho']
    rw [← op.run_canonical, hcanonical, op'.run_canonical]

/-- **The text of an instruction and its execution agree.** In each of the sixteen families, with
whatever operands, an instruction is written as a data word exactly if it only advances the program
counter and gives its one warning; no other gives any. And of two opcodes with one text each does
what the other does: the text loses only what no operation looks at. -/
theorem assembly_agrees_with_execution :
    (∀ i : Instruction, i.HasFamily → ∀ (s : State) (grid : PixelGrid) (keys : Keys),
      (i.assembly = i.dataWord ↔
        execute i s grid keys =
          { result := .ok { s with pc := s.pc + 2 }
            grid := grid
            calls := []
            warnings := [i.ignoredWarning (s.pc + 2)] }) ∧
      (i.assembly ≠ i.dataWord → (execute i s grid keys).warnings = [])) ∧
    ∀ o o' : Nat, (Instruction.ofOpcode o).assembly = (Instruction.ofOpcode o').assembly →
      ∀ (s : State) (grid : PixelGrid) (keys : Keys),
        execute (.ofOpcode o) s grid keys = execute (.ofOpcode o') s grid keys := by
  refine ⟨fun i hi s grid keys => ⟨assembly_eq_dataWord_iff_execute hi, fun h => ?_⟩,
    fun o o' h s grid keys => execute_eq_of_assembly_eq h⟩
  rw [ne_eq, Instruction.assembly_eq_dataWord_iff] at h
  obtain ⟨op, ho⟩ := Option.ne_none_iff_exists'.1 h
  exact warnings_execute ho

end

/-- An instruction of the arithmetic family with a code that is not in use and fields that belong to
no opcode. -/
def unassigned : Instruction where
  raw := -1
  family := 0x8
  x := -3
  y := 99
  n := 0x8
  nn := 0x165
  nnn := 7

/-- An unassigned code is a data word and is ignored, and the right shifts of `V1` have one text and
one effect, whatever their second register. -/
theorem unassigned_ignored_and_shifts_agree :
    unassigned.assembly = "DW 0x-001" ∧
      (execute unassigned (.initial ⟨0, 0⟩) (.dark 64 32) .allUp).warnings =
        [unassigned.ignoredWarning 514] ∧
      (Instruction.ofOpcode 0x8126).assembly = "SHR V1" ∧
      (execute (.ofOpcode 0x8126) (.initial ⟨0, 0⟩) (.dark 64 32) .allUp).warnings = [] ∧
      execute (.ofOpcode 0x8126) (.initial ⟨0, 0⟩) (.dark 64 32) .allUp =
        execute (.ofOpcode 0x8136) (.initial ⟨0, 0⟩) (.dark 64 32) .allUp := by
  obtain ⟨hignored, hagree⟩ := assembly_agrees_with_execution
  have hdata : unassigned.assembly = unassigned.dataWord := rfl
  have hshift : (Instruction.ofOpcode 0x8126).assembly = (Instruction.ofOpcode 0x8136).assembly :=
    rfl
  obtain ⟨hi, -⟩ := hignored unassigned ⟨by decide, by decide⟩ (.initial ⟨0, 0⟩)
    (.dark 64 32) .allUp
  obtain ⟨-, hs⟩ := hignored (.ofOpcode 0x8126) ⟨by decide, by decide⟩ (.initial ⟨0, 0⟩)
    (.dark 64 32) .allUp
  have hone : Text.hexDigits 1 = ['1'] := by simp [Text.hexDigits, Text.hexDigit]
  refine ⟨?_, by rw [hi.1 hdata]; rfl, ?_, hs (by decide), hagree 0x8126 0x8136 hshift _ _ _⟩
  · rw [hdata]
    simp [unassigned, Instruction.dataWord, Text.hex, Text.hexChars, Text.zeroFill, hone]
  · change "SHR " ++ ("V" ++ Text.hex 1 1) = "SHR V1"
    simp [Text.hex, Text.hexChars, Text.zeroFill, hone]

end Agreement

end Chip8
