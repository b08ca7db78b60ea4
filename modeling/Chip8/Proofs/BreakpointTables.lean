import Chip8.Console.Keystream
import Chip8.Proofs.Histories
import Mathlib.Data.List.Nodup
import Mathlib.Tactic.Tauto

/-!
# Breakpoint tables

The table of breakpoints is a map from addresses that is kept in ascending order.  No address
comes twice, so looking an address up finds the one breakpoint that is listed there.  Adding a
breakpoint and removing one each change what is listed at a single address.

Nothing else that can be asked of a machine touches the table, whether it is granted or not.
So after any history a breakpoint is listed exactly if it was added and its address was not
used for another breakpoint or a removal since (`Machine.mem_breakpoints_afterAll`).
-/

namespace Chip8

/-! ## Tables -/

namespace Breakpoints

variable {table : Breakpoints} {added found other : Breakpoint} {address : UInt16}

theorem nodup_addresses (table : Breakpoints) : (table.entries.map (·.address)).Nodup := by
  rw [List.Nodup, List.pairwise_map]
  exact table.ascending.imp fun before => UInt16.ne_of_lt before

/-- No two breakpoints are listed at one address. -/
theorem eq_of_address (first : found ∈ table.entries) (second : other ∈ table.entries)
    (same : found.address = other.address) : found = other :=
  List.inj_on_of_nodup_map table.nodup_addresses first second same

theorem mem_of_get? (success : table.get? address = some found) :
    found ∈ table.entries ∧ found.address = address := by
  rw [get?] at success
  have there := List.find?_some success
  exact ⟨List.mem_of_find?_eq_some success, of_decide_eq_true there⟩

theorem get?_eq_none_iff :
    table.get? address = none ↔ ∀ entry ∈ table.entries, entry.address ≠ address := by
  simp [get?]

/-- Looking an address up finds the breakpoint that is listed there. -/
theorem get?_eq_some_iff :
    table.get? address = some found ↔ found ∈ table.entries ∧ found.address = address := by
  constructor
  · exact mem_of_get?
  · rintro ⟨listed, rfl⟩
    cases looked : table.get? found.address with
    | none => exact absurd rfl (get?_eq_none_iff.mp looked found listed)
    | some given =>
        obtain ⟨there, same⟩ := mem_of_get? looked
        rw [eq_of_address there listed same]

/-- A breakpoint is listed after an addition if it is the one that was added, or if it was
listed before at another address. -/
theorem mem_insertEntry_iff {entries : List Breakpoint}
    (ascending : entries.Pairwise (·.address < ·.address)) :
    found ∈ insertEntry added entries ↔
      found = added ∨ found ∈ entries ∧ found.address ≠ added.address := by
  induction entries with
  | nil => simp [insertEntry]
  | cons entry rest induction =>
      obtain ⟨first, tail⟩ := List.pairwise_cons.mp ascending
      simp only [insertEntry]
      split
      · next before =>
          -- every entry that was there comes behind the added one
          have behind : ∀ listed ∈ entry :: rest, listed.address ≠ added.address := by
            intro listed among
            rcases List.mem_cons.mp among with rfl | later
            · exact (UInt16.ne_of_lt before).symm
            · exact (UInt16.ne_of_lt (UInt16.lt_trans before (first listed later))).symm
          rw [List.mem_cons]
          exact or_congr_right (iff_self_and.mpr (behind found))
      · split
        · next after =>
            have kept : found = entry → found.address ≠ added.address := by
              rintro rfl
              exact UInt16.ne_of_lt after
            rw [List.mem_cons, List.mem_cons, induction tail, or_and_right,
              and_iff_left_of_imp kept]
            exact or_left_comm
        · next notBefore notAfter =>
            have same : entry.address = added.address :=
              UInt16.le_antisymm (UInt16.not_lt.mp notBefore) (UInt16.not_lt.mp notAfter)
            have replaced : ¬ (found = entry ∧ found.address ≠ added.address) := by
              rintro ⟨rfl, other⟩
              exact other same
            have kept : found ∈ rest → found.address ≠ added.address := fun later =>
              same ▸ (UInt16.ne_of_lt (first found later)).symm
            rw [List.mem_cons, List.mem_cons, or_and_right, eq_false replaced, false_or,
              and_iff_left_of_imp kept]

theorem mem_insert :
    found ∈ (table.insert added).entries ↔
      found = added ∨ found ∈ table.entries ∧ found.address ≠ added.address :=
  mem_insertEntry_iff table.ascending

theorem mem_erase :
    found ∈ (table.erase address).entries ↔ found ∈ table.entries ∧ found.address ≠ address := by
  rw [erase, List.mem_filter, decide_eq_true_eq]

end Breakpoints

/-! ## Requests -/

/-- The address at which a request adds or removes a breakpoint. -/
def Request.marks? : Request → Option UInt16
  | .addBreakpoint breakpoint => some breakpoint.address
  | .removeBreakpoint address => some address
  | _ => none

/-- The breakpoint was added, and no later request was about its address. -/
def Request.Leaves (requests : List Request) (breakpoint : Breakpoint) : Prop :=
  ∃ earlier later, requests = earlier ++ .addBreakpoint breakpoint :: later ∧
    ∀ request ∈ later, request.marks? ≠ some breakpoint.address

theorem Request.leaves_cons {request : Request} {rest : List Request} {breakpoint : Breakpoint} :
    Leaves (request :: rest) breakpoint ↔
      Leaves rest breakpoint ∨ request = .addBreakpoint breakpoint ∧
        ∀ later ∈ rest, later.marks? ≠ some breakpoint.address := by
  constructor
  · rintro ⟨earlier, later, joined, since⟩
    cases earlier with
    | nil =>
        cases joined
        exact Or.inr ⟨rfl, since⟩
    | cons first earlier =>
        cases joined
        exact Or.inl ⟨earlier, later, rfl, since⟩
  · rintro (⟨earlier, later, rfl, since⟩ | ⟨rfl, since⟩)
    · exact ⟨request :: earlier, later, rfl, since⟩
    · exact ⟨[], rest, rfl, since⟩

namespace Machine

variable {machine after : Machine} {breakpoint : Breakpoint} {request : Request}

theorem Touched.breakpoints {kind : Request.Kind} (touched : machine.Touched kind after)
    (staying : kind ≠ .marking) : after.breakpoints = machine.breakpoints := by
  cases touched with
  | marked breakpoints => exact absurd rfl staying
  | _ => rfl

/-- No request that is about another thing changes the table. -/
theorem breakpoints_answer (machine : Machine) (other : request.marks? = none) :
    (machine.answer request).machine.breakpoints = machine.breakpoints := by
  cases running : request.runs with
  | true => exact (machine.sameFixtures_answer running).breakpoints
  | false =>
      refine (touched_answer running).breakpoints ?_
      cases request with
      | addBreakpoint _ | removeBreakpoint _ => cases other
      | _ => nofun

/-- A breakpoint is listed after a request that added it, and after a request that was not about
its address if it was listed before. -/
theorem mem_breakpoints_answer :
    breakpoint ∈ (machine.answer request).machine.breakpoints.entries ↔
      request = .addBreakpoint breakpoint ∨
        breakpoint ∈ machine.breakpoints.entries ∧ request.marks? ≠ some breakpoint.address := by
  cases marked : request.marks? with
  | none =>
      rw [machine.breakpoints_answer marked]
      have other : request ≠ .addBreakpoint breakpoint := by
        rintro rfl
        cases marked
      simp [other]
  | some address =>
      cases request with
      | addBreakpoint added =>
          cases marked
          show breakpoint ∈ (machine.breakpoints.insert added).entries ↔ _
          rw [Breakpoints.mem_insert]
          simp [eq_comm]
      | removeBreakpoint removed =>
          cases marked
          show breakpoint ∈ (machine.breakpoints.erase address).entries ↔ _
          rw [Breakpoints.mem_erase]
          simp [eq_comm]
      | _ => cases marked

/-- A history lists the breakpoints that it leaves behind and those from before it whose
addresses it was not about. -/
theorem mem_breakpoints_afterAll (requests : List Request) :
    breakpoint ∈ (machine.afterAll requests).breakpoints.entries ↔
      Request.Leaves requests breakpoint ∨
        breakpoint ∈ machine.breakpoints.entries ∧
          ∀ request ∈ requests, request.marks? ≠ some breakpoint.address := by
  induction requests generalizing machine with
  | nil => simp [Request.Leaves]
  | cons request rest induction =>
      rw [afterAll_cons, induction, mem_breakpoints_answer, Request.leaves_cons,
        List.forall_mem_cons]
      tauto

theorem breakpoints_build {config : Config} {source : RandomSource} {booted : Machine}
    (built : build config source = .ok booted) : booted.breakpoints = Breakpoints.empty := by
  obtain ⟨_, _, _, rfl⟩ := exists_unloaded_of_build built
  rfl

/-! ## Tables and histories -/

/-- The table lists the breakpoints that a history leaves behind, one for an address and in
ascending order.  Adding a breakpoint replaces the one at its address.  Taking out the breakpoint
at an address gives back the one that is listed there, if there is one, and leaves those at other
addresses.  A machine is at a breakpoint exactly if that is listed for its program counter.
Nothing but adding and removing changes the table. -/
theorem breakpoints_follow_history :
    (∀ (config : Config) (source : RandomSource) (booted : Machine),
      build config source = .ok booted → ∀ requests : List Request,
        ((booted.afterAll requests).breakpoints.entries.map (·.address)).Pairwise (· < ·) ∧
        ((booted.afterAll requests).breakpoints.entries.map (·.address)).Nodup ∧
        ∀ breakpoint, breakpoint ∈ (booted.afterAll requests).breakpoints.entries ↔
          Request.Leaves requests breakpoint) ∧
    (∀ (machine : Machine) (added found : Breakpoint),
      found ∈ (machine.addBreakpoint added).breakpoints.entries ↔
        found = added ∨ found ∈ machine.breakpoints.entries ∧ found.address ≠ added.address) ∧
    (∀ (machine : Machine) (address : UInt16),
      (machine.answer (.removeBreakpoint address)).machine =
        (machine.takeBreakpoint address).2 ∧
      (∀ taken, (machine.takeBreakpoint address).1 = some taken ↔
        taken ∈ machine.breakpoints.entries ∧ taken.address = address) ∧
      ((machine.takeBreakpoint address).1 = none ↔
        ∀ listed ∈ machine.breakpoints.entries, listed.address ≠ address) ∧
      ∀ found, found ∈ (machine.takeBreakpoint address).2.breakpoints.entries ↔
        found ∈ machine.breakpoints.entries ∧ found.address ≠ address) ∧
    (∀ (machine : Machine) (breakpoint : Breakpoint),
      machine.breakpointHere? = some breakpoint ↔
        breakpoint ∈ machine.breakpoints.entries ∧ breakpoint.address = machine.pc) ∧
    ∀ (machine : Machine) (request : Request), request.marks? = none →
      (machine.answer request).machine.breakpoints = machine.breakpoints := by
  refine ⟨?_, fun machine added found => Breakpoints.mem_insert, fun machine address =>
    ⟨rfl, fun _ => Breakpoints.get?_eq_some_iff, Breakpoints.get?_eq_none_iff,
      fun _ => Breakpoints.mem_erase⟩, fun _ _ => Breakpoints.get?_eq_some_iff,
    fun machine _ => machine.breakpoints_answer⟩
  intro config source booted built requests
  refine ⟨List.pairwise_map.mpr (Breakpoints.ascending _), Breakpoints.nodup_addresses _,
    fun breakpoint => ?_⟩
  rw [mem_breakpoints_afterAll, breakpoints_build built]
  simp [Breakpoints.empty]

/-- A breakpoint is listed under its new name, also after another one was removed and a key was
pressed.  It is not listed under its old name any more. -/
theorem renamed_breakpoint_listed :
    ∃ booted : Machine, ∃ requests : List Request,
      boot { width := 8, height := 1, memorySize := 0x60, start := 0x50 } 0 = .ok booted ∧
      requests = [.addBreakpoint ⟨0x50, "old"⟩, .addBreakpoint ⟨0x40, "low"⟩, .execute,
        .addBreakpoint ⟨0x50, "new"⟩, .removeBreakpoint 0x40] ∧
      ⟨0x50, "new"⟩ ∈ (booted.afterAll requests).breakpoints.entries ∧
      ⟨0x50, "old"⟩ ∉ (booted.afterAll requests).breakpoints.entries ∧
      (Request.press 3).marks? = none ∧
      ((booted.afterAll requests).answer (.press 3)).machine.breakpoints =
        (booted.afterAll requests).breakpoints := by
  have made : ((boot { width := 8, height := 1, memorySize := 0x60, start := 0x50 } 0).map
      fun booted => decide (booted.pc = 0x50)).toOption = some true := by
    decide +kernel
  obtain ⟨booted, built, _⟩ := exists_ok_of_map made
  obtain ⟨follows, _, _, _, others⟩ := breakpoints_follow_history
  obtain ⟨_, _, listed⟩ := follows _ _ booted built
    [.addBreakpoint ⟨0x50, "old"⟩, .addBreakpoint ⟨0x40, "low"⟩, .execute,
      .addBreakpoint ⟨0x50, "new"⟩, .removeBreakpoint 0x40]
  have new := (listed ⟨0x50, "new"⟩).mpr
    ⟨[.addBreakpoint ⟨0x50, "old"⟩, .addBreakpoint ⟨0x40, "low"⟩, .execute],
      [.removeBreakpoint 0x40], rfl, by decide⟩
  refine ⟨booted, _, built, rfl, new, fun old => ?_, rfl, others _ (.press 3) rfl⟩
  exact absurd (congrArg Breakpoint.name (Breakpoints.eq_of_address old new rfl)) (by decide)

end Machine

end Chip8
