import Chip8.Proofs.Guards
import Chip8.Proofs.InstructionTable

/-!
# Instructions under guards

Every operation is performed once more with its partial steps under guards: each access
to the registers and the keys, each copy, and the sums and products that are computed in
a word without a check.  Two of these need something of the machine.  A glyph has an
address if the stride of the font is small, and a sprite can be drawn if the screen has
room for the index of a pixel.  Such a machine is roomy (`Machine.Roomy`), and on a roomy
machine no guard fails.
-/

namespace Chip8

/-- The screen has room for the index of every pixel, and the font for the address of
every glyph. -/
structure Machine.Roomy (machine : Machine) : Prop where
  pixels : machine.screen.pixels.size ≤ Guarded.sizes
  stride : machine.font.stride < 0x80000000000000

namespace Guarded

/-! ## Registers and keys -/

/-- Replace one of sixteen entries. -/
def assign {α : Type} (entries : Vector α 16) (number : Nat) (entry : α) :
    Option (Vector α 16) := do
  demand (number < 16)
  return entries.setIfInBounds number entry

/-- Replace consecutive ones of sixteen entries. -/
def assignAll {α : Type} (entries : Vector α 16) (number : Nat) : List α → Option (Vector α 16)
  | [] => some entries
  | entry :: rest => do assignAll (← assign entries number entry) (number + 1) rest

/-- The value of a register. -/
def register (machine : Machine) (x : Nat) : Option UInt8 :=
  machine.registers.toArray[x]?

/-- Put a byte into a register. -/
def setRegister (machine : Machine) (x : Nat) (value : UInt8) : Option Machine := do
  return { machine with registers := ← assign machine.registers x value }

/-- Put one or zero into the flag register. -/
def setFlag (machine : Machine) (flag : Bool) : Option Machine :=
  setRegister machine Machine.flagRegister (if flag then 1 else 0)

/-- The first registers, up to and including the given one. -/
def registersThrough (machine : Machine) (x : Nat) : Option (List UInt8) := do
  slice machine.registers.toArray 0 (← fit sizes (x + 1))

/-- Whether a key is down. -/
def isDown (machine : Machine) (number : UInt8) : Guarded Bool := do
  let key ← ofResult (Machine.key number)
  (machine.keys.toArray[key.val]? : Option Bool)

/-- Combine two registers into the first one. -/
def combine (machine : Machine) (op : Arithmetic) (x y : Nat) : Option Machine := do
  let first ← register machine x
  let second ← register machine y
  let combined ← setRegister machine x (op.result first second)
  match op.flag? first second with
  | some flag => setFlag combined flag
  | none => return combined

/-! ## Operations -/

/-- Write bytes into memory. -/
def load (machine : Machine) (address : Nat) (data : List UInt8) : Guarded Machine := do
  return { machine with memory := ← write machine.memory address data }

/-- The three decimal digits of a byte. -/
def decimalDigits (value : UInt8) : Option (List UInt8) := do
  let hundred ← divisor (100 : UInt8)
  let ten ← divisor (10 : UInt8)
  return [value / hundred, value / ten % ten, value % ten]

/-- The address of the glyph with the given number. -/
def glyphAddress (machine : Machine) (glyph : UInt8) : Option UInt16 := do
  let offset ← fit sizes (glyph.toNat * machine.font.stride)
  return UInt16.ofNat (← fit sizes (machine.font.address.toNat + offset))

/-- Perform an operation. -/
def perform (machine : Machine) : Operation → Guarded Machine
  | .clearScreen => return { machine with screen := machine.screen.clear }.next
  | .endSubroutine => do return (← machine.returnToCall).next
  | .jump target => return { machine with pc := UInt16.ofNat target }
  | .call target => return machine.callAt (UInt16.ofNat target)
  | .setIndex address => return { machine with index := UInt16.ofNat address }.next
  | .jumpOffset base => do
      let offset ← register machine 0
      return { machine with pc := UInt16.ofNat (← fit 0x10000 (base + offset.toNat)) }
  | .skipIfByte x kk => do return machine.skipIf ((← register machine x) = kk)
  | .skipUnlessByte x kk => do return machine.skipIf ((← register machine x) ≠ kk)
  | .skipIfEqual x y => do
      return machine.skipIf ((← register machine x) = (← register machine y))
  | .skipUnlessEqual x y => do
      return machine.skipIf ((← register machine x) ≠ (← register machine y))
  | .load x kk => do return (← setRegister machine x kk).next
  | .add x kk => do return (← setRegister machine x ((← register machine x) + kk)).next
  | .random x mask => do
      let drawn := { machine with generator := machine.generator.next }
      return (← setRegister drawn x (machine.generator.peek &&& mask)).next
  | .combine op x y => do return (← combine machine op x y).next
  | .skipIfKey x => do return machine.skipIf (← isDown machine (← register machine x))
  | .skipUnlessKey x => do return machine.skipIf (!(← isDown machine (← register machine x)))
  | .readDelay x => do return (← setRegister machine x machine.delay.value).next
  | .awaitKey x => return { machine with waiting := some x }
  | .setDelay x => do return (machine.setDelay (← register machine x)).next
  | .setSound x => do return (machine.setSound (← register machine x)).next
  | .addIndex x => do
      return { machine with index := machine.index + (← register machine x).toUInt16 }.next
  | .pointAtGlyph x => do
      return { machine with index := ← glyphAddress machine (← register machine x) }.next
  | .storeDecimal x => do
      let digits ← decimalDigits (← register machine x)
      return (← load machine machine.index.toNat digits).next
  | .storeRegisters x => do
      return (← load machine machine.index.toNat (← registersThrough machine x)).next
  | .loadRegisters x => do
      let length ← fit sizes (x + 1)
      let data ← read machine.memory machine.index.toNat length
      demand (data.length = length)
      return { machine with registers := ← assignAll machine.registers 0 data }.next
  | .draw x y n => do
      let (screen, collision) ← drawFrom machine.screen (← register machine x).toNat
        (← register machine y).toNat machine.memory.bytes machine.index.toNat n
      return (← setFlag { machine with screen } collision).next

/-- Fetch an operation and perform it. -/
def step (machine : Machine) : Guarded Machine := do
  let word ← word machine.memory machine.pc.toNat
  match Operation.ofWord? word with
  | some operation => perform machine operation
  | none => ofResult (.error (.unrecognized word machine.pc))

/-- Execute the instruction at the program counter. -/
def execute (machine : Machine) : Option Outcome := do
  match ← (step machine).run with
  | .ok after => return ⟨{ after with unhandled := false }, none⟩
  | .error fault => return ⟨{ machine with unhandled := fault.isUnrecognized }, some fault⟩

/-! ## Small steps -/

variable {machine : Machine}

theorem assign_eq {α : Type} (entries : Vector α 16) (x : Register) (entry : α) :
    assign entries x entry = some (entries.setIfInBounds x entry) := by
  rw [assign, demand_of x.isLt]
  rfl

theorem assignAll_eq (registers : Registers) {number : Nat} {values : List UInt8}
    (fits : number + values.length ≤ 16) :
    assignAll registers number values =
      some (Machine.overwriteRegisters registers number values) := by
  induction values generalizing registers number with
  | nil => rfl
  | cons value rest induction =>
      rw [List.length_cons] at fits
      rw [assignAll, assign, demand_of (by omega)]
      exact induction _ (by omega)

theorem register_eq (machine : Machine) (x : Register) :
    register machine x = some (machine.register x) := by
  rw [register, Array.getElem?_eq_getElem (by rw [Vector.size_toArray]; exact x.isLt)]
  rfl

theorem setRegister_eq (machine : Machine) (x : Register) (value : UInt8) :
    setRegister machine x value = some (machine.setRegister x value) := by
  rw [setRegister, assign_eq]
  rfl

theorem setFlag_eq (machine : Machine) (flag : Bool) :
    setFlag machine flag = some (machine.setFlag flag) :=
  setRegister_eq machine Machine.flagRegister _

theorem registersThrough_eq (machine : Machine) (x : Register) :
    registersThrough machine x = some (machine.registersThrough x) := by
  have bound := x.isLt
  have within : 0 + (x.val + 1) ≤ machine.registers.toArray.size := by
    rw [Vector.size_toArray]
    omega
  have sliced := slice_of_within within
  rw [Nat.zero_add] at sliced
  rw [registersThrough, fit_of_lt (by rw [sizes]; omega)]
  refine sliced.trans ?_
  show some _ = some (machine.registers.toArray.toList.take (x + 1))
  rw [Array.toList_extract, List.extract_eq_take_drop]
  rfl

theorem isDown_eq (machine : Machine) (number : UInt8) :
    isDown machine number = ofResult (machine.isDown number) := by
  by_cases valid : number.toNat < 16
  · have inside : number.toNat < machine.keys.toArray.size := by rwa [Vector.size_toArray]
    rw [Machine.isDown_of_lt valid, isDown, Machine.key, dif_pos valid, bind_ok,
      Array.getElem?_eq_getElem inside]
    rfl
  · rw [Machine.isDown_of_not_lt valid, isDown, Machine.key, dif_neg valid]
    rfl

theorem combine_eq (machine : Machine) (op : Arithmetic) (x y : Register) :
    combine machine op x y = some (machine.combine op x y) := by
  simp only [combine, register_eq, setRegister_eq, Option.bind_eq_bind, Option.bind_some]
  rw [Machine.combine]
  cases op.flag? (machine.register x) (machine.register y) with
  | none => rfl
  | some flag => exact setFlag_eq _ flag

theorem load_eq (machine : Machine) (address : Nat) (data : List UInt8) :
    load machine address data = ofResult (machine.load address data) := by
  rw [load, write_eq, Machine.load]
  cases machine.memory.write address data <;> rfl

theorem glyphAddress_eq (roomy : machine.Roomy) (glyph : UInt8) :
    glyphAddress machine glyph = some (machine.glyphAddress glyph) := by
  have number := glyph.toNat_lt
  have address := machine.font.address.toNat_lt
  have stride := roomy.stride
  have offset : glyph.toNat * machine.font.stride ≤ 255 * 0x80000000000000 :=
    Nat.mul_le_mul (by omega) (by omega)
  have fits : machine.font.address.toNat + glyph.toNat * machine.font.stride < sizes := by
    rw [sizes]
    omega
  rw [glyphAddress, fit_of_lt (by omega), Option.bind_eq_bind, Option.bind_some, fit_of_lt fits]
  rfl

theorem loadRegisters_eq (machine : Machine) (x : Register) :
    perform machine (.loadRegisters x) = ofResult (machine.perform (.loadRegisters x)) := by
  have bound := x.isLt
  rw [perform, Machine.perform, fit_of_lt (by rw [sizes]; omega), bind_some, read_eq]
  by_cases within : machine.index.toNat + (x + 1) ≤ machine.memory.size
  · rw [Memory.read_eq_ok within]
    generalize given : (List.range (x + 1)).map
      (fun offset => machine.memory.byteAt (machine.index.toNat + offset)) = data
    have length : data.length = x + 1 := by rw [← given, List.length_map, List.length_range]
    rw [bind_ok, demand_of length, assignAll_eq machine.registers (by omega)]
    rfl
  · rw [Memory.read_eq_error within]
    rfl

/-! ## Instructions -/

/-- On a roomy machine no guard of an operation fails. -/
theorem perform_eq (roomy : machine.Roomy) (operation : Operation) :
    perform machine operation = ofResult (machine.perform operation) := by
  cases operation with
  | clearScreen | jump target | call target | setIndex address | awaitKey x => rfl
  | endSubroutine =>
      rw [perform, Machine.perform]
      cases machine.returnToCall <;> rfl
  | jumpOffset base =>
      have below := base.isLt
      have offset := (machine.register 0).toNat_lt
      have first : register machine 0 = some (machine.register 0) := register_eq machine 0
      rw [perform, first, bind_some, fit_of_lt (by omega), Machine.perform, Machine.add_toUInt16,
        Machine.toNat_address]
      rfl
  | skipIfByte x kk | skipUnlessByte x kk | readDelay x | setDelay x | setSound x | addIndex x
  | skipIfEqual x y | skipUnlessEqual x y | load x kk | add x kk | random x mask | combine op x y =>
      simp only [perform, register_eq, setRegister_eq, combine_eq]
      rfl
  | skipIfKey x =>
      rw [perform, register_eq, bind_some, isDown_eq, Machine.perform]
      cases machine.isDown (machine.register x) <;> rfl
  | skipUnlessKey x =>
      rw [perform, register_eq, bind_some, isDown_eq, Machine.perform]
      cases machine.isDown (machine.register x) <;> rfl
  | pointAtGlyph x =>
      rw [perform, register_eq, bind_some, glyphAddress_eq roomy]
      rfl
  | storeDecimal x =>
      have digits : decimalDigits (machine.register x) =
          some (Machine.decimalDigits (machine.register x)) := rfl
      rw [perform, register_eq, bind_some, digits, bind_some, load_eq, Machine.perform]
      cases machine.load machine.index.toNat (Machine.decimalDigits (machine.register x)) <;> rfl
  | storeRegisters x =>
      rw [perform, registersThrough_eq, bind_some, load_eq, Machine.perform]
      cases machine.load machine.index.toNat (machine.registersThrough x) <;> rfl
  | loadRegisters x => exact loadRegisters_eq machine x
  | draw x y n =>
      have column := (machine.register x).toNat_lt
      have row := (machine.register y).toNat_lt
      have rows := n.isLt
      rw [perform, register_eq, bind_some, register_eq, bind_some,
        drawFrom_eq roomy.pixels _ _ (by rw [sizes]; omega) (by rw [sizes]; omega), Machine.perform]
      cases machine.screen.drawFrom (machine.register x).toNat (machine.register y).toNat
        machine.memory.bytes machine.index.toNat n with
      | error fault => rfl
      | ok drawn =>
          obtain ⟨screen, collision⟩ := drawn
          simp only [bind_ok, setFlag_eq]
          rfl

theorem step_eq (roomy : machine.Roomy) : step machine = ofResult machine.step := by
  rw [step, word_eq, Machine.step, Machine.fetch]
  cases machine.memory.word machine.pc.toNat with
  | error fault => rfl
  | ok word =>
      rw [bind_ok]
      simp only [bind, Except.bind]
      cases Operation.ofWord? word with
      | none => rfl
      | some operation => exact perform_eq roomy operation

/-- On a roomy machine no guard of an instruction fails. -/
theorem execute_eq (roomy : machine.Roomy) : execute machine = some machine.execute := by
  rw [execute, step_eq roomy, Machine.execute]
  cases machine.step <;> rfl

end Guarded

end Chip8
