import Chip8.Machine.Execute
import Chip8.Proofs.Bytes

/-!
# Registers and small steps

What the small steps of an execution do to a machine, as one update of its
components.  Registers are described as a function of their number, so that an
assignment names what every register is afterwards.
-/

namespace Chip8

/-! ## Registers -/

namespace Registers

/-- The registers with one of them replaced. -/
def assign (registers : Registers) (x : Register) (value : UInt8) : Registers :=
  Vector.ofFn fun y => if y = x then value else registers.get y

theorem eq_of_get {first second : Registers} (same : ∀ y, second.get y = first.get y) :
    second = first := by
  apply Vector.ext
  intro index bound
  exact same ⟨index, bound⟩

@[simp]
theorem get_mk (registers : Registers) {i : Nat} (bound : i < 16) :
    registers.get ⟨i, bound⟩ = registers[i] := rfl

theorem get_ofFn (f : Register → UInt8) (y : Register) : (Vector.ofFn f).get y = f y := by
  obtain ⟨i, bound⟩ := y
  rw [get_mk, Vector.getElem_ofFn]

theorem get_setIfInBounds (registers : Registers) (number : Nat) (value : UInt8) (y : Register) :
    (Vector.setIfInBounds registers number value).get y =
      if number = y then value else registers.get y := by
  obtain ⟨i, bound⟩ := y
  rw [get_mk, get_mk, Vector.getElem_setIfInBounds]

theorem setIfInBounds_eq_assign (registers : Registers) (x : Register) (value : UInt8) :
    Vector.setIfInBounds registers x value = registers.assign x value := by
  apply eq_of_get
  intro y
  rw [get_setIfInBounds, assign, get_ofFn]
  simp only [eq_comm, Fin.ext_iff]

end Registers

namespace Machine

variable {machine : Machine}

/-- Consecutive registers from a number on come from the list, the others stay. -/
theorem get_overwriteRegisters (registers : Registers) (number : Nat) (values : List UInt8)
    (y : Register) :
    (overwriteRegisters registers number values).get y =
      if number ≤ y ∧ y < number + values.length then values.getD (y - number) 0
      else registers.get y := by
  induction values generalizing registers number with
  | nil =>
      rw [overwriteRegisters, if_neg]
      simp only [List.length_nil]
      omega
  | cons value rest induction =>
      rw [overwriteRegisters, induction, Registers.get_setIfInBounds, List.length_cons]
      by_cases front : number = y
      · rw [if_neg (by omega), if_pos front, if_pos (by omega), front, Nat.sub_self]
        rfl
      · rw [if_neg front]
        by_cases inside : number + 1 ≤ y ∧ y < number + 1 + rest.length
        · rw [if_pos inside, if_pos (by omega)]
          have shift : (y : Nat) - number = y - (number + 1) + 1 := by omega
          rw [shift, List.getD_cons_succ]
        · rw [if_neg inside, if_neg (by omega)]

theorem registersThrough_eq (machine : Machine) (x : Register) :
    machine.registersThrough x =
      (List.range (x + 1)).map fun i => machine.register (Fin.ofNat 16 i) := by
  have bound := x.isLt
  refine List.ext_getElem ?_ fun i left right => ?_
  · simp only [registersThrough, List.length_take, Vector.length_toList, List.length_map,
      List.length_range]
    omega
  · have small : i < 16 := by
      rw [List.length_map, List.length_range] at right
      omega
    have number : Fin.ofNat 16 i = ⟨i, small⟩ := Fin.ext (Nat.mod_eq_of_lt small)
    rw [List.getElem_map, List.getElem_range, number]
    simp only [registersThrough, List.getElem_take, Vector.getElem_toList]
    rfl

/-! ## Small steps -/

theorem skipIf_eq (machine : Machine) (condition : Bool) :
    machine.skipIf condition =
      { machine with pc := if condition then machine.pc + 4 else machine.pc + 2 } := by
  cases condition with
  | false => rfl
  | true =>
      have twice : machine.pc + 2 + 2 = machine.pc + 4 := UInt16.add_assoc _ _ _
      simp only [skipIf, next, if_true, twice]

theorem next_setRegister (machine : Machine) (x : Register) (value : UInt8) :
    (machine.setRegister x value).next =
      { machine with registers := machine.registers.assign x value, pc := machine.pc + 2 } := by
  rw [next, setRegister, Registers.setIfInBounds_eq_assign]

theorem next_setFlag (machine : Machine) (flag : Bool) :
    (machine.setFlag flag).next =
      { machine with
        registers := machine.registers.assign 0xF (if flag then 1 else 0)
        pc := machine.pc + 2 } :=
  next_setRegister machine 0xF _

/-! ## Refusals -/

theorem isDown_of_lt {number : UInt8} (valid : number.toNat < 16) :
    machine.isDown number = .ok (machine.keys.get ⟨number.toNat, valid⟩) := by
  rw [isDown, key, dif_pos valid]
  rfl

theorem isDown_of_not_lt {number : UInt8} (invalid : ¬ number.toNat < 16) :
    machine.isDown number = .error (.noSuchKey number) := by
  rw [isDown, key, dif_neg invalid]
  rfl

theorem load_of_within {address : Nat} {data : List UInt8}
    (within : address + data.length ≤ machine.memory.size) :
    machine.load address data =
      .ok { machine with memory := ⟨Memory.overwrite machine.memory.bytes address data⟩ } := by
  rw [load, Memory.write_eq_ok within]
  rfl

theorem load_of_not_within {address : Nat} {data : List UInt8}
    (outside : ¬ address + data.length ≤ machine.memory.size) :
    machine.load address data =
      .error (.outsideMemory address data.length machine.memory.size) := by
  rw [load, Memory.write_eq_error outside]
  rfl

end Machine

end Chip8
