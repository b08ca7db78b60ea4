import Chip8.Console.Keystream
import Chip8.Proofs.Histories
import Mathlib.Data.List.Induction

/-!
# Held keys

The count of a key says for how many more frames it is held.  It is the number of frames
of a strike less the age of the latest strike, and zero once that is used up.  So right
after a batch the keys are down that were struck in one of the latest batches, and only
those.  What a player or the program did to the machine in between plays no part, because
every batch puts all sixteen keys down or up anew.
-/

namespace Chip8.KeyHold

variable {hold : KeyHold} {batch : Batch}

/-! ## Counts -/

/-- The batch strikes the key. -/
def Strikes (batch : Batch) (key : Nibble) : Prop :=
  Control.key (UInt8.ofNat key) ∈ batch

instance (batch : Batch) (key : Nibble) : Decidable (Strikes batch key) :=
  inferInstanceAs (Decidable (_ ∈ batch))

/-- A hold is determined by its frames and its counts. -/
theorem eq_of_get {first second : KeyHold} (frames : second.frames = first.frames)
    (counts : ∀ key, second.remaining.get key = first.remaining.get key) : second = first := by
  have remaining : second.remaining = first.remaining :=
    Vector.ext fun index bound => counts ⟨index, bound⟩
  cases first
  cases second
  simp only at frames remaining
  rw [frames, remaining]

theorem get_age (hold : KeyHold) (key : Nibble) :
    hold.age.remaining.get key = hold.remaining.get key - 1 := by
  obtain ⟨index, bound⟩ := key
  exact Vector.getElem_map _ bound

/-- Only a control for the key itself sets the key's count. -/
theorem get_strike (hold : KeyHold) (control : Control) (key : Nibble) :
    (hold.strike control).remaining.get key =
      if control = .key (UInt8.ofNat key) then hold.frames else hold.remaining.get key := by
  cases control with
  | key number =>
      obtain ⟨index, bound⟩ := key
      have named : Control.key number = .key (UInt8.ofNat index) ↔ number.toNat = index := by
        rw [Control.key.injEq, ← UInt8.toNat_inj, UInt8.toNat_ofNat']
        omega
      rw [if_congr named rfl rfl]
      exact Vector.getElem_setIfInBounds bound
  | quit | pause | step => rfl

theorem frames_strike (hold : KeyHold) (control : Control) :
    (hold.strike control).frames = hold.frames := by
  cases control <;> rfl

theorem frames_strikes (hold : KeyHold) (batch : Batch) :
    (batch.foldl strike hold).frames = hold.frames := by
  induction batch generalizing hold with
  | nil => rfl
  | cons control rest induction => rw [List.foldl_cons, induction, frames_strike]

theorem get_strikes (hold : KeyHold) (batch : Batch) (key : Nibble) :
    (batch.foldl strike hold).remaining.get key =
      if Strikes batch key then hold.frames else hold.remaining.get key := by
  induction batch generalizing hold with
  | nil => rfl
  | cons control rest induction =>
      have front : Strikes (control :: rest) key ↔
          control = .key (UInt8.ofNat key) ∨ Strikes rest key := by
        rw [Strikes, List.mem_cons, eq_comm, Strikes]
      rw [List.foldl_cons, induction, frames_strike, get_strike, if_congr front rfl rfl]
      by_cases later : Strikes rest key
      · rw [if_pos later, if_pos (.inr later)]
      · rw [if_neg later, if_congr (or_iff_left later) rfl rfl]

theorem frames_update (hold : KeyHold) (batch : Batch) :
    (hold.update batch).frames = hold.frames :=
  hold.age.frames_strikes batch

/-- A batch sets the counts of the keys that it strikes and lowers all others by one. -/
theorem get_update (hold : KeyHold) (batch : Batch) (key : Nibble) :
    (hold.update batch).remaining.get key =
      if Strikes batch key then hold.frames else hold.remaining.get key - 1 := by
  rw [update, get_strikes, get_age]
  rfl

/-- Batches that strike the same keys have the same effect. -/
theorem update_congr (hold : KeyHold) {first second : Batch}
    (same : ∀ key, Strikes first key ↔ Strikes second key) :
    hold.update first = hold.update second := by
  apply eq_of_get
  · rw [frames_update, frames_update]
  · intro key
    rw [get_update, get_update, if_congr (same key) rfl rfl]

/-! ## Counts after many batches -/

/-- The hold behind some batches, the first one first. -/
def updateAll (hold : KeyHold) (batches : List Batch) : KeyHold :=
  batches.foldl update hold

theorem updateAll_append (hold : KeyHold) (batches : List Batch) (batch : Batch) :
    hold.updateAll (batches ++ [batch]) = (hold.updateAll batches).update batch :=
  List.foldl_append

theorem frames_updateAll (hold : KeyHold) (batches : List Batch) :
    (hold.updateAll batches).frames = hold.frames := by
  induction batches using List.reverseRecOn with
  | nil => rfl
  | append_singleton batches batch induction =>
      rw [updateAll_append, frames_update, induction]

/-- The `s`-th of the batches strikes the key. -/
def StrikesAt (batches : List Batch) (s : Nat) (key : Nibble) : Prop :=
  ∃ batch, batches[s]? = some batch ∧ Strikes batch key

theorem StrikesAt.lt {batches : List Batch} {s : Nat} {key : Nibble}
    (strikes : StrikesAt batches s key) : s < batches.length := by
  obtain ⟨batch, found, _⟩ := strikes
  exact (List.getElem?_eq_some_iff.mp found).1

theorem strikesAt_append {batches : List Batch} {batch : Batch} {s : Nat} {key : Nibble} :
    StrikesAt (batches ++ [batch]) s key ↔
      StrikesAt batches s key ∨ s = batches.length ∧ Strikes batch key := by
  constructor
  · rintro ⟨found, at_s, strikes⟩
    rw [List.getElem?_append] at at_s
    split at at_s
    · exact .inl ⟨found, at_s, strikes⟩
    · obtain rfl := List.mem_singleton.mp (List.mem_of_getElem? at_s)
      have last : s - batches.length < 1 := (List.getElem?_eq_some_iff.mp at_s).1
      exact .inr ⟨by omega, strikes⟩
  · rintro (strikes | ⟨rfl, strikes⟩)
    · have bound := strikes.lt
      obtain ⟨found, at_s, struck⟩ := strikes
      rw [← List.getElem?_append_left bound] at at_s
      exact ⟨found, at_s, struck⟩
    · exact ⟨batch, List.getElem?_concat_length, strikes⟩

/-- A count exceeds a number of frames exactly if some strike still counts when that many
more frames have passed. -/
theorem lt_count_iff (frames : Nat) (batches : List Batch) (key : Nibble) (spare : Nat) :
    spare < ((ofFrames frames).updateAll batches).remaining.get key ↔
      ∃ s, StrikesAt batches s key ∧ batches.length + spare ≤ s + frames := by
  induction batches using List.reverseRecOn generalizing spare with
  | nil =>
      obtain ⟨index, bound⟩ := key
      have unstruck : ((ofFrames frames).updateAll []).remaining.get ⟨index, bound⟩ = 0 :=
        Vector.getElem_replicate bound
      rw [unstruck]
      constructor
      · exact fun impossible => absurd impossible (Nat.not_lt_zero spare)
      · rintro ⟨s, strikes, _⟩
        exact absurd strikes.lt (Nat.not_lt_zero s)
  | append_singleton batches batch induction =>
      have earlier := induction (spare + 1)
      rw [updateAll_append, get_update, frames_updateAll, List.length_append, List.length_singleton]
      by_cases struck : Strikes batch key
      · rw [if_pos struck]
        show spare < frames ↔ _
        constructor
        · intro left
          exact ⟨batches.length, strikesAt_append.mpr (.inr ⟨rfl, struck⟩), by omega⟩
        · rintro ⟨s, strikes, late⟩
          have bound := strikes.lt
          rw [List.length_append, List.length_singleton] at bound
          omega
      · -- without a strike the age of every earlier one grows by one frame
        rw [if_neg struck]
        constructor
        · intro left
          obtain ⟨s, strikes, late⟩ := earlier.mp (by omega)
          exact ⟨s, strikesAt_append.mpr (.inl strikes), by omega⟩
        · rintro ⟨s, strikes, late⟩
          rcases strikesAt_append.mp strikes with before | ⟨_, now⟩
          · have left := earlier.mpr ⟨s, before, by omega⟩
            omega
          · exact absurd now struck

/-! ## Keys on the machine -/

/-- Put a key down if it is held, and up otherwise. -/
def settleKey (hold : KeyHold) (machine : Machine) (key : Nibble) : Except Fault Machine :=
  if 0 < hold.remaining.get key then machine.press (UInt8.ofNat key)
  else machine.release (UInt8.ofNat key)

/-- Put one key after another down or up, as they are held. -/
def settle (hold : KeyHold) (machine : Machine) : List Nibble → Except Fault Machine
  | [] => .ok machine
  | key :: rest => do hold.settle (← hold.settleKey machine key) rest

/-- Update the counts for a batch, and then put every key down or up. -/
def hear (hold : KeyHold) (machine : Machine) (batch : Batch) :
    Except Fault (KeyHold × Machine) := do
  let hold := hold.update batch
  return (hold, ← hold.settle machine (List.finRange 16))

theorem settleKey_eq (hold : KeyHold) (machine : Machine) (key : Nibble) :
    hold.settleKey machine key =
      .ok { machine with
        keys := machine.keys.setIfInBounds key (0 < hold.remaining.get key) } := by
  have number : (UInt8.ofNat key).toNat = key := by
    rw [UInt8.toNat_ofNat']
    omega
  have named : Machine.key (UInt8.ofNat key) = .ok key := by
    rw [Machine.key, dif_pos (by omega)]
    simp only [number]
  by_cases held : 0 < hold.remaining.get key
  · rw [settleKey, if_pos held, decide_eq_true held, Machine.press, Machine.setKey, named]
    rfl
  · rw [settleKey, if_neg held, decide_eq_false held, Machine.release, Machine.setKey, named]
    rfl

theorem get_setKey (keys : Keypad) (first key : Nibble) (down : Bool) :
    (keys.setIfInBounds first down).get key = if key = first then down else keys.get key := by
  obtain ⟨index, bound⟩ := key
  have same : first.val = index ↔ (⟨index, bound⟩ : Nibble) = first := by
    rw [eq_comm, Fin.ext_iff]
  exact (Vector.getElem_setIfInBounds bound).trans (if_congr same rfl rfl)

/-- The keys of the list come to be as they are held, and nothing else changes. -/
theorem settle_eq (hold : KeyHold) (machine : Machine) (list : List Nibble) :
    ∃ keys, hold.settle machine list = .ok { machine with keys } ∧
      ∀ key, (key ∈ list → keys.get key = decide (0 < hold.remaining.get key)) ∧
        (key ∉ list → keys.get key = machine.keys.get key) := by
  induction list generalizing machine with
  | nil => exact ⟨machine.keys, rfl, fun key => ⟨nofun, fun _ => rfl⟩⟩
  | cons first rest induction =>
      obtain ⟨keys, settled, others⟩ := induction
        { machine with keys := machine.keys.setIfInBounds first (0 < hold.remaining.get first) }
      refine ⟨keys, ?_, fun key => ?_⟩
      · rw [settle, settleKey_eq]
        exact settled
      · obtain ⟨later, never⟩ := others key
        by_cases again : key ∈ rest
        · exact ⟨fun _ => later again, fun absent => absurd (List.mem_cons_of_mem _ again) absent⟩
        · have kept := (never again).trans (get_setKey _ _ _ _)
          constructor
          · intro among
            have now : key = first := (List.mem_cons.mp among).resolve_right again
            rw [kept, if_pos now, now]
          · intro absent
            exact kept.trans (if_neg fun now => absent (List.mem_cons.mpr (.inl now)))

/-- Pressing and releasing the keys one by one leaves exactly the held keys down. -/
theorem settle_finRange (hold : KeyHold) (machine : Machine) :
    hold.settle machine (List.finRange 16) = .ok (hold.holdOn machine) := by
  obtain ⟨keys, settled, all⟩ := hold.settle_eq machine (List.finRange 16)
  have same : keys = hold.keypad := by
    apply Vector.ext
    intro index bound
    rw [keypad, Vector.getElem_map]
    exact (all ⟨index, bound⟩).1 (List.mem_finRange _)
  rw [settled, same]
  rfl

theorem hear_eq (hold : KeyHold) (machine : Machine) (batch : Batch) :
    hold.hear machine batch = .ok (hold.update batch, (hold.update batch).holdOn machine) := by
  rw [hear, settle_finRange]
  rfl

/-! ## Histories with batches -/

/-- What is asked of a machine up to a batch, and the batch. -/
structure Round where
  /-- The requests before the batch. -/
  requests : List Request
  /-- The batch. -/
  batch : Batch

/-- The hold and the machine behind some rounds. -/
def play (hold : KeyHold) (machine : Machine) : List Round → Except Fault (KeyHold × Machine)
  | [] => .ok (hold, machine)
  | round :: rest => do
      let (hold, machine) ← hold.hear (machine.afterAll round.requests) round.batch
      hold.play machine rest

/-- No round fails, and the counts are those of the batches alone. -/
theorem play_eq (hold : KeyHold) (machine : Machine) (rounds : List Round) :
    ∃ after, hold.play machine rounds = .ok (hold.updateAll (rounds.map Round.batch), after) := by
  induction rounds generalizing hold machine with
  | nil => exact ⟨machine, rfl⟩
  | cons round rest induction =>
      rw [play, hear_eq]
      exact induction _ _

theorem play_append {machine between : Machine} {after : KeyHold} {rounds : List Round}
    (played : hold.play machine rounds = .ok (after, between)) (round : Round) :
    hold.play machine (rounds ++ [round]) =
      .ok (after.update round.batch,
        (after.update round.batch).holdOn (between.afterAll round.requests)) := by
  induction rounds generalizing hold machine with
  | nil =>
      cases played
      rw [List.nil_append, play, hear_eq]
      rfl
  | cons first rest induction =>
      rw [play, hear_eq] at played
      rw [List.cons_append, play, hear_eq]
      exact induction played

theorem strikesAt_take {rounds : List Round} {t : Fin rounds.length} {s : Nat} {key : Nibble} :
    StrikesAt ((rounds.take (t + 1)).map Round.batch) s key ↔
      ∃ bound : s < rounds.length, s ≤ t ∧ Strikes (rounds.get ⟨s, bound⟩).batch key := by
  rw [StrikesAt, List.getElem?_map, List.getElem?_take]
  constructor
  · rintro ⟨batch, found, strikes⟩
    obtain ⟨round, at_s, rfl⟩ := Option.map_eq_some_iff.mp found
    split at at_s
    · obtain ⟨bound, rfl⟩ := List.getElem?_eq_some_iff.mp at_s
      exact ⟨bound, by omega, strikes⟩
    · cases at_s
  · rintro ⟨bound, early, strikes⟩
    refine ⟨_, ?_, strikes⟩
    rw [if_pos (by omega), List.getElem?_eq_getElem bound]
    rfl

theorem get_keypad (hold : KeyHold) (key : Nibble) :
    hold.keypad.get key = decide (0 < hold.remaining.get key) := by
  obtain ⟨index, bound⟩ := key
  exact Vector.getElem_map _ bound

/-- Right after a batch exactly those keys are down that one of the latest batches struck,
as many batches as a strike counts for.  No batch fails, and a batch changes nothing but
the keys.  Only the keys that it strikes matter, in whatever order and however often, and
a control for anything else has no effect on them. -/
theorem down_iff_struck_lately (frames : Nat) :
    (∀ (machine : Machine) (rounds : List Round) (t : Fin rounds.length),
      ∃ hold between keys,
        (ofFrames frames).play machine (rounds.take t) = .ok (hold, between) ∧
        (ofFrames frames).play machine (rounds.take (t + 1)) =
          .ok (hold.update (rounds.get t).batch,
            { between.afterAll (rounds.get t).requests with keys }) ∧
        ∀ key, keys.get key = true ↔ ∃ s : Fin rounds.length,
          s ≤ t ∧ t.val - s.val < frames ∧ Strikes (rounds.get s).batch key) ∧
    ∀ (hold : KeyHold) (first second : Batch),
      (∀ key, Strikes first key ↔ Strikes second key) →
        hold.update first = hold.update second := by
  refine ⟨fun machine rounds t => ?_, fun hold _ _ => hold.update_congr⟩
  obtain ⟨between, played⟩ := (ofFrames frames).play_eq machine (rounds.take t)
  have further := play_append played (rounds.get t)
  have joined : rounds.take t ++ [rounds.get t] = rounds.take (t + 1) :=
    List.take_append_getElem t.isLt
  rw [joined] at further
  refine ⟨_, between, _, played, further, fun key => ?_⟩
  have counts : ((ofFrames frames).updateAll ((rounds.take t).map Round.batch)).update
      (rounds.get t).batch =
        (ofFrames frames).updateAll ((rounds.take (t + 1)).map Round.batch) := by
    rw [← joined, List.map_append]
    exact (updateAll_append _ _ _).symm
  rw [get_keypad, decide_eq_true_iff, counts, lt_count_iff, List.length_map,
    List.length_take_of_le t.isLt]
  constructor
  · rintro ⟨s, strikes, late⟩
    obtain ⟨bound, early, struck⟩ := strikesAt_take.mp strikes
    exact ⟨⟨s, bound⟩, early, show t.val - s < frames by omega, struck⟩
  · rintro ⟨s, early, late, struck⟩
    have before : s.val ≤ t.val := early
    exact ⟨s, strikesAt_take.mpr ⟨s.isLt, early, struck⟩, by omega⟩

/-- A strike that counts for two batches keeps a key down that is released on the machine,
and lets go of it one batch later although it is pressed there.  Controls that are no keys
and a second strike in the same batch play no part. -/
theorem struck_key_let_go :
    ∃ (machine : Machine) (rounds : List Round),
      Machine.boot Config.standard 0 = .ok machine ∧
      rounds = [⟨[], [.key 10, .quit, .key 10]⟩, ⟨[.release 10, .execute], [.key 200]⟩,
        ⟨[.press 10], [.step]⟩] ∧
      (∃ hold after, (ofFrames 2).play machine (rounds.take 2) = .ok (hold, after) ∧
        after.keys.get 10 = true) ∧
      (∃ hold after, (ofFrames 2).play machine rounds = .ok (hold, after) ∧
        after.keys.get 10 = false) ∧
      (ofFrames 2).update [.key 10, .quit, .key 10] = (ofFrames 2).update [.key 10] := by
  have boots : ((Machine.boot Config.standard 0).map fun _ => true).toOption = some true := by
    decide +kernel
  obtain ⟨machine, built, _⟩ := exists_ok_of_map boots
  let rounds : List Round := [⟨[], [.key 10, .quit, .key 10]⟩,
    ⟨[.release 10, .execute], [.key 200]⟩, ⟨[.press 10], [.step]⟩]
  obtain ⟨law, same⟩ := down_iff_struck_lately 2
  obtain ⟨_, _, keys, _, played, down⟩ := law machine rounds 1
  obtain ⟨_, _, keys', _, played', down'⟩ := law machine rounds 2
  have late : ∃ s : Fin 3, s ≤ 1 ∧ 1 - s.val < 2 ∧ Strikes (rounds.get s).batch 10 :=
    ⟨0, by decide, by decide, by decide⟩
  have past : ¬ ∃ s : Fin 3, s ≤ 2 ∧ 2 - s.val < 2 ∧ Strikes (rounds.get s).batch 10 := by decide
  exact ⟨machine, rounds, built, rfl, ⟨_, _, played, (down 10).mpr late⟩,
    ⟨_, _, played', Bool.eq_false_iff.mpr fun held => past ((down' 10).mp held)⟩,
    same _ _ _ (by decide)⟩

end Chip8.KeyHold
