import Chip8.Console.Keystream
import Chip8.Proofs.Failures
import Chip8.Proofs.Moves

/-!
# Random bytes

Where the random bytes come from is left open.  All that is asked of a source is that the
generator of a seed gives out one fixed stream of bytes.  One instruction takes the next byte
of its generator, also where it masks every bit of the byte, and nothing else that can happen
to a machine takes any (`Machine.generator_move`).

So the number of bytes taken is the number of these instructions that were executed.  The
instruction that comes after `k` others of its kind gets the byte with the number `k` of the
seed's stream, whatever else the machines with this seed have done
(`Machine.random_bytes_taken_in_order`).
-/

namespace Chip8

/-! ## Streams -/

namespace Generator

/-- The generator after a number of draws. -/
def after (generator : Generator) (count : Nat) : Generator :=
  { generator with drawn := generator.drawn + count }

theorem after_zero (generator : Generator) : generator.after 0 = generator :=
  rfl

theorem after_after (generator : Generator) (first second : Nat) :
    (generator.after first).after second = generator.after (first + second) := by
  rw [after, after, after, Nat.add_assoc]

/-- Some draws take as many bytes off the ones to come. -/
theorem bytes_after (generator : Generator) (count position : Nat) :
    (generator.after count).bytes position = generator.bytes (count + position) := by
  rw [bytes, bytes, after, Nat.add_assoc]

end Generator

/-- The generator of every seed gives out the bytes of the seed's stream. -/
def RandomSource.Follows (source : RandomSource) (stream : UInt64 → Nat → UInt8) : Prop :=
  ∀ seed position, (source.seeded seed).bytes position = stream seed position

namespace Machine

variable {machine after start : Machine} {word : UInt16} {x : Register} {mask : UInt8}

/-! ## Taking a byte -/

/-- Whether the instruction at the program counter takes a random byte. -/
def takesByte (machine : Machine) : Bool :=
  match machine.operation? with
  | some (.random ..) => true
  | _ => false

theorem takesByte_iff : machine.takesByte = true ↔
    ∃ word x mask, machine.memory.HoldsWord machine.pc.toNat word ∧
      word.toNat = 0xC000 + (x : Register) * 0x100 + (mask : UInt8).toNat := by
  rw [takesByte]
  constructor
  · intro taking
    split at taking
    · next x mask asked =>
        obtain ⟨word, held, number⟩ := operation?_eq_some_iff.mp asked
        exact ⟨word, x, mask, held, number⟩
    · cases taking
  · rintro ⟨word, x, mask, held, number⟩
    have asked : machine.operation? = some (.random x mask) :=
      operation?_eq_some_iff.mpr ⟨word, held, number⟩
    rw [asked]

/-- Taking a byte puts it into a register under a mask.  It never fails. -/
theorem execute_random (held : machine.memory.HoldsWord machine.pc.toNat word)
    (number : word.toNat = 0xC000 + x * 0x100 + mask.toNat) :
    machine.execute =
      ⟨{ machine with
          generator := machine.generator.after 1
          registers := machine.registers.assign x (machine.generator.bytes 0 &&& mask)
          pc := machine.pc + 2
          unhandled := false }, none⟩ :=
  (machine.execute_eq_iff_row _).mpr ⟨word, _, held, .random x mask number, rfl⟩

theorem generator_execute_random (held : machine.memory.HoldsWord machine.pc.toNat word)
    (number : word.toNat = 0xC000 + x * 0x100 + mask.toNat) :
    machine.execute.machine.generator = machine.generator.after 1 := by
  rw [execute_random held number]

theorem generator_of_row (row : Row machine word after)
    (other : ∀ x mask, word.toNat ≠ (Operation.random x mask).code) :
    after.generator = machine.generator := by
  cases row with
  | random x mask number => exact absurd number (other x mask)
  | _ => rfl

theorem generator_execute_of_not_takesByte (spared : machine.takesByte = false) :
    machine.execute.machine.generator = machine.generator := by
  rw [execute]
  cases stepped : machine.step with
  | error fault => rfl
  | ok after =>
      obtain ⟨word, held, row⟩ := step_eq_ok_iff.mp stepped
      have kept := generator_of_row row fun x mask number => by
        rw [takesByte_iff.mpr ⟨word, x, mask, held, number⟩] at spared
        cases spared
      exact kept

/-! ## Moves and runs -/

/-- The machine, if it takes a random byte in a move. -/
def taker (machine : Machine) (move : Move) : List Machine :=
  (machine.execution move).filter takesByte

/-- The machines that take a random byte in a run, one after another. -/
def takers (machine : Machine) (run : List Move) : List Machine :=
  (machine.executions run).filter takesByte

theorem takers_cons (machine : Machine) (move : Move) (rest : List Move) :
    machine.takers (move :: rest) = machine.taker move ++ (machine.move move).takers rest :=
  List.filter_append ..

/-- At most one machine takes a byte in a move, the one that moves. -/
theorem taker_eq (machine : Machine) (move : Move) :
    machine.taker move = [] ∨ machine.taker move = [machine] := by
  cases move with
  | execute =>
      cases taking : machine.takesByte with
      | true => exact Or.inr (List.filter_cons_of_pos taking)
      | false => exact Or.inl (List.filter_cons_of_neg (by simp [taking]))
  | _ => exact Or.inl rfl

theorem Touched.generator {kind : Request.Kind} (touched : machine.Touched kind after) :
    after.generator = machine.generator := by
  cases touched <;> rfl

/-- A move takes a byte if its machine is a taker, and leaves the generator alone if not. -/
theorem generator_move (machine : Machine) (move : Move) :
    (machine.move move).generator =
      machine.generator.after (machine.taker move).length := by
  cases move with
  | advance dt => exact machine.generator.after_zero.symm
  | awaken =>
      show (machine.move .awaken).generator = machine.generator.after 0
      rw [Generator.after_zero]
      rcases machine.move_awaken with same | ⟨registers, pc, woken⟩
      · rw [same]
      · rw [woken]
  | execute =>
      show machine.execute.machine.generator = _
      rw [taker, execution]
      cases taking : machine.takesByte with
      | true =>
          obtain ⟨word, x, mask, held, number⟩ := takesByte_iff.mp taking
          rw [generator_execute_random held number, List.filter_cons_of_pos taking]
          rfl
      | false =>
          rw [generator_execute_of_not_takesByte taking,
            List.filter_cons_of_neg (by simp [taking])]
          exact machine.generator.after_zero.symm
  | answer request direct =>
      show (machine.answer request).machine.generator = machine.generator.after 0
      rw [Generator.after_zero]
      exact (touched_answer direct).generator

/-- A run takes as many bytes as there are takers in it. -/
theorem generator_moveAll (machine : Machine) (run : List Move) :
    (machine.moveAll run).generator =
      machine.generator.after (machine.takers run).length := by
  induction run generalizing machine with
  | nil => exact machine.generator.after_zero.symm
  | cons move rest induction =>
      rw [moveAll_cons, induction, generator_move, takers_cons, List.length_append,
        Generator.after_after]

/-- Each taker finds the generator behind the bytes of the takers before it. -/
theorem generator_of_taker {run : List Move} {k : Nat}
    (taken : (machine.takers run)[k]? = some start) :
    start.generator = machine.generator.after k := by
  induction run generalizing machine k with
  | nil => cases taken
  | cons move rest induction =>
      rw [takers_cons] at taken
      rcases machine.taker_eq move with silent | taking
      · have still := machine.generator_move move
        rw [silent] at taken still
        rw [induction taken, still, List.length_nil, Generator.after_zero]
      · have advanced := machine.generator_move move
        rw [taking] at taken advanced
        cases k with
        | zero =>
            obtain rfl := Option.some.inj taken
            exact machine.generator.after_zero.symm
        | succ k =>
            rw [induction taken, advanced, List.length_singleton, Generator.after_after,
              Nat.add_comm]

/-! ## Histories -/

/-- The machines that take a random byte in a history, one after another. -/
def takersAll (machine : Machine) (requests : List Request) : List Machine :=
  ((machine.deedsAll requests).filterMap Deed.start?).filter takesByte

theorem takersAll_eq (machine : Machine) (requests : List Request) :
    machine.takersAll requests = machine.takers (machine.movesAll requests) := by
  rw [takersAll, takers, (machine.retraced_afterAll requests).starts]

/-- A machine that was built with a seed has all bytes of the seed's stream before it. -/
theorem generator_build {config : Config} {source : RandomSource}
    {stream : UInt64 → Nat → UInt8} {seed : UInt64} {booted : Machine}
    (follows : source.Follows stream) (seeded : config.seed = some seed)
    (built : build config source = .ok booted) (position : Nat) :
    booted.generator.bytes position = stream seed position := by
  obtain ⟨_, _, _, rfl⟩ := exists_unloaded_of_build built
  show (source.generator config.seed).bytes position = stream seed position
  rw [seeded]
  exact follows seed position

/-- Executing puts the byte of a stream with the given number into a register, under the mask
of the word at the program counter, and leaves the bytes behind it. -/
def Receives (start : Machine) (stream : Nat → UInt8) (k : Nat) : Prop :=
  ∃ word x mask generator, start.memory.HoldsWord start.pc.toNat word ∧
    word.toNat = 0xC000 + (x : Register) * 0x100 + (mask : UInt8).toNat ∧
    (∀ position, generator.bytes position = stream (k + 1 + position)) ∧
    start.execute =
      ⟨{ start with
          generator
          registers := start.registers.assign x (stream k &&& mask)
          pc := start.pc + 2
          unhandled := false }, none⟩

theorem receives_of_taker {stream : Nat → UInt8} {k : Nat} (taking : start.takesByte = true)
    (coming : ∀ position, start.generator.bytes position = stream (k + position)) :
    start.Receives stream k := by
  obtain ⟨word, x, mask, held, number⟩ := takesByte_iff.mp taking
  have given : start.generator.bytes 0 = stream k := coming 0
  refine ⟨word, x, mask, start.generator.after 1, held, number, fun position => ?_, ?_⟩
  · rw [Generator.bytes_after, coming, Nat.add_assoc]
  · rw [execute_random held number, given]

/-- The taker with the number `k` gets the byte with the number `k`, in every history of every
machine that was built with the seed. -/
theorem receives_of_history {config : Config} {source : RandomSource}
    {stream : UInt64 → Nat → UInt8} {seed : UInt64} {booted : Machine}
    (follows : source.Follows stream) (seeded : config.seed = some seed)
    (built : build config source = .ok booted) {requests : List Request} {k : Nat}
    (taken : (booted.takersAll requests)[k]? = some start) :
    start.generator.bytes 0 = stream seed k ∧ start.Receives (stream seed) k := by
  have taking := (List.mem_filter.mp (List.mem_of_getElem? taken)).2
  rw [takersAll_eq] at taken
  have coming (position : Nat) :
      start.generator.bytes position = stream seed (k + position) := by
    rw [generator_of_taker taken, Generator.bytes_after, generator_build follows seeded built]
  exact ⟨coming 0, receives_of_taker taking coming⟩

/-- The machines that take random bytes in a history get the bytes of the seed's stream in their
order, one each, whatever the stream is.  No other move of any machine touches the generator.  So
the takers with one number get the same byte in all histories of all machines that were built
with the same seed. -/
theorem random_bytes_taken_in_order (stream : UInt64 → Nat → UInt8) :
    (∀ (source : RandomSource) (config : Config) (seed : UInt64) (booted : Machine),
      source.Follows stream → config.seed = some seed → build config source = .ok booted →
      ∀ requests : List Request,
        (∀ position, (booted.afterAll requests).generator.bytes position =
          stream seed ((booted.takersAll requests).length + position)) ∧
        ∀ (k : Nat) (start : Machine),
          (booted.takersAll requests)[k]? = some start → start.Receives (stream seed) k) ∧
    (∀ (machine : Machine) (move : Move),
      (move = .execute → ¬ ∃ word x mask, machine.memory.HoldsWord machine.pc.toNat word ∧
        word.toNat = 0xC000 + (x : Register) * 0x100 + (mask : UInt8).toNat) →
        (machine.move move).generator = machine.generator) ∧
    ∀ (firstSource secondSource : RandomSource) (firstConfig secondConfig : Config) (seed : UInt64)
      (first second : Machine), firstSource.Follows stream → secondSource.Follows stream →
      firstConfig.seed = some seed → build firstConfig firstSource = .ok first →
      secondConfig.seed = some seed → build secondConfig secondSource = .ok second →
      ∀ (firstRequests secondRequests : List Request) (k : Nat) (start other : Machine),
        (first.takersAll firstRequests)[k]? = some start →
        (second.takersAll secondRequests)[k]? = some other →
          start.generator.bytes 0 = stream seed k ∧ other.generator.bytes 0 = stream seed k := by
  refine ⟨?_, ?_, ?_⟩
  · intro source config seed booted follows seeded built requests
    refine ⟨fun position => ?_,
      fun k start taken => (receives_of_history follows seeded built taken).2⟩
    rw [← (booted.retraced_afterAll requests).ends, generator_moveAll, ← takersAll_eq,
      Generator.bytes_after, generator_build follows seeded built]
  · intro machine move spared
    have silent : machine.taker move = [] := by
      cases move with
      | execute =>
          refine List.filter_cons_of_neg ?_
          rw [takesByte_iff]
          exact spared rfl
      | _ => rfl
    rw [generator_move, silent]
    exact machine.generator.after_zero
  · intro firstSource secondSource firstConfig secondConfig seed first second follows follows'
      seeded built seeded' built' firstRequests secondRequests k start other taken taken'
    exact ⟨(receives_of_history follows seeded built taken).1,
      (receives_of_history follows' seeded' built' taken').1⟩

/-- A byte is taken under a mask without bits, and a fault comes before the next one.  A machine
with another program gets the same second byte of the same keystream. -/
theorem second_byte_of_seed :
    ∃ first second : Machine, ∃ firstRequests secondRequests : List Request,
      ∃ start other : Machine,
      firstRequests = [.loadProgram ⟨[0xC0, 0x00, 0xFF, 0xFF], none⟩, .execute, .execute,
        .load 0x52 [0xC3, 0x0F], .execute] ∧
      secondRequests = [.loadProgram ⟨[0xC5, 0xFF, 0x12, 0x00], none⟩, .execute, .press 1,
        .execute, .load 0x200 [0xC1, 0xF0], .execute] ∧
      (Keystream.source 0).Follows Keystream.byte ∧ (Keystream.source 1).Follows Keystream.byte ∧
      boot { width := 8, height := 1, memorySize := 0x60, start := 0x50, seed := some 7 } 0 =
        .ok first ∧
      boot { memorySize := 0x210, start := 0x100, seed := some 7 } 1 = .ok second ∧
      first.faults firstRequests = [.unrecognized 0xFFFF 0x52] ∧
      (first.takersAll firstRequests)[1]? = some start ∧
      (second.takersAll secondRequests)[1]? = some other ∧
      start.Receives (Keystream.byte 7) 1 ∧ other.Receives (Keystream.byte 7) 1 ∧
      start.generator.bytes 0 = Keystream.byte 7 1 ∧
      other.generator.bytes 0 = Keystream.byte 7 1 := by
  let firstRequests : List Request :=
    [.loadProgram ⟨[0xC0, 0x00, 0xFF, 0xFF], none⟩, .execute, .execute,
      .load 0x52 [0xC3, 0x0F], .execute]
  let secondRequests : List Request :=
    [.loadProgram ⟨[0xC5, 0xFF, 0x12, 0x00], none⟩, .execute, .press 1,
      .execute, .load 0x200 [0xC1, 0xF0], .execute]
  have firstMade :
      ((boot { width := 8, height := 1, memorySize := 0x60, start := 0x50, seed := some 7 } 0).map
        fun first =>
          decide (first.faults firstRequests = [.unrecognized 0xFFFF 0x52]) &&
            decide ((first.takersAll firstRequests).length = 2)).toOption = some true := by
    decide +kernel
  have secondMade :
      ((boot { memorySize := 0x210, start := 0x100, seed := some 7 } 1).map fun second =>
        decide ((second.takersAll secondRequests).length = 2)).toOption = some true := by
    decide +kernel
  obtain ⟨first, built, firstMade⟩ := exists_ok_of_map firstMade
  obtain ⟨second, built', secondMade⟩ := exists_ok_of_map secondMade
  simp only [Bool.and_eq_true, decide_eq_true_eq] at firstMade secondMade
  obtain ⟨faults, count⟩ := firstMade
  have taken : (first.takersAll firstRequests)[1]? = some _ :=
    List.getElem?_eq_getElem (by rw [count]; decide)
  have taken' : (second.takersAll secondRequests)[1]? = some _ :=
    List.getElem?_eq_getElem (by rw [secondMade]; decide)
  have follows (entropy : UInt64) : (Keystream.source entropy).Follows Keystream.byte :=
    fun seed position => congrArg (Keystream.byte seed) (Nat.zero_add position)
  obtain ⟨inOrder, _, alike⟩ := random_bytes_taken_in_order Keystream.byte
  exact ⟨first, second, firstRequests, secondRequests, _, _, rfl, rfl, follows 0, follows 1, built,
    built', faults, taken, taken',
    (inOrder _ _ 7 first (follows 0) rfl built firstRequests).2 1 _ taken,
    (inOrder _ _ 7 second (follows 1) rfl built' secondRequests).2 1 _ taken',
    alike _ _ _ _ 7 first second (follows 0) (follows 1) rfl built rfl built' _ _ 1 _ _
      taken taken'⟩

end Machine

end Chip8
