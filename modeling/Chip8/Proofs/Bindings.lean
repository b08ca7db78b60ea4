import Chip8.Console.KeyBindings
import Mathlib.Data.List.Induction

/-!
# Last bindings

Bindings are made one after another, and a key keeps the control that was bound to it last.
A key is a character up to the case of ASCII letters: a capital letter is folded to the small
one, and every other character stands for itself.

Folding happens twice, when a binding is made and when a character is looked up.  So a binding
is found from both cases of its letter, whichever of them it was made for, and it hides the
earlier bindings of both (`KeyBindings.get?_ofList_concat`).
-/

namespace Chip8

/-! ## Folding -/

/-- A capital letter of ASCII and its small letter. -/
structure CasePair (capital small : Char) : Prop where
  /-- The letter is not before the first capital. -/
  first : 'A' ≤ capital
  /-- The letter is not behind the last capital. -/
  last : capital ≤ 'Z'
  /-- The small letters come in the same order as the capitals. -/
  distance : small.toNat = capital.toNat + 32

/-- The second character is what the first one is folded to. -/
inductive Folds : Char → Char → Prop where
  /-- A capital letter is folded to its small letter. -/
  | capital {capital small : Char} (pair : CasePair capital small) : Folds capital small
  /-- Every other character is left alone. -/
  | other {c : Char} (notCapital : ¬ ('A' ≤ c ∧ c ≤ 'Z')) : Folds c c

/-- Two characters are folded to the same one. -/
def SameKey (c d : Char) : Prop :=
  ∃ folded, Folds c folded ∧ Folds d folded

section Folding

variable {c d first second capital small : Char}

theorem folds_foldCase (c : Char) : Folds c (foldCase c) := by
  by_cases within : 'A' ≤ c ∧ c ≤ 'Z'
  · have raised : (foldCase c).val = c.val + 32 := congrArg Char.val (dif_pos within)
    have bound : c.val.toNat ≤ 90 := UInt32.le_iff_toNat_le.mp within.2
    have room : c.val.toNat + 32 < 2 ^ 32 := by omega
    refine Folds.capital ⟨within.1, within.2, ?_⟩
    show (foldCase c).val.toNat = c.val.toNat + 32
    rw [raised, UInt32.toNat_add]
    exact Nat.mod_eq_of_lt room
  · have kept : foldCase c = c := dif_neg within
    rw [kept]
    exact Folds.other within

/-- A character is folded to one character only. -/
theorem Folds.unique (one : Folds c first) (other : Folds c second) : first = second := by
  cases one with
  | capital pair =>
      cases other with
      | capital otherPair =>
          exact Char.toNat_inj.mp (pair.distance.trans otherPair.distance.symm)
      | other notCapital => exact absurd ⟨pair.first, pair.last⟩ notCapital
  | other notCapital =>
      cases other with
      | capital pair => exact absurd ⟨pair.first, pair.last⟩ notCapital
      | other _ => rfl

theorem sameKey_iff : SameKey c d ↔ foldCase c = foldCase d := by
  constructor
  · rintro ⟨folded, one, other⟩
    rw [(folds_foldCase c).unique one, (folds_foldCase d).unique other]
  · intro same
    exact ⟨foldCase c, folds_foldCase c, same ▸ folds_foldCase d⟩

instance (c d : Char) : Decidable (SameKey c d) :=
  decidable_of_iff (foldCase c = foldCase d) sameKey_iff.symm

/-- The small letter of a capital one is no capital letter. -/
theorem CasePair.folds_small (pair : CasePair capital small) : Folds small small := by
  refine Folds.other fun ⟨_, last⟩ => ?_
  have low : 65 ≤ capital.toNat := UInt32.le_iff_toNat_le.mp pair.first
  have high : small.toNat ≤ 90 := UInt32.le_iff_toNat_le.mp last
  have distance := pair.distance
  omega

theorem CasePair.sameKey (pair : CasePair capital small) : SameKey capital small :=
  ⟨small, Folds.capital pair, pair.folds_small⟩

/-- Only the two cases of a letter are one key. -/
theorem sameKey_iff_cases : SameKey c d ↔ c = d ∨ CasePair c d ∨ CasePair d c := by
  constructor
  · rintro ⟨folded, one, other⟩
    cases one with
    | capital pair =>
        cases other with
        | capital otherPair =>
            -- no two capitals share their small letter
            have equal : c.toNat + 32 = d.toNat + 32 :=
              pair.distance.symm.trans otherPair.distance
            exact Or.inl (Char.toNat_inj.mp (Nat.add_right_cancel equal))
        | other _ => exact Or.inr (Or.inl pair)
    | other _ =>
        cases other with
        | capital pair => exact Or.inr (Or.inr pair)
        | other _ => exact Or.inl rfl
  · rintro (rfl | pair | pair)
    · exact sameKey_iff.mpr rfl
    · exact pair.sameKey
    · obtain ⟨folded, one, other⟩ := pair.sameKey
      exact ⟨folded, other, one⟩

end Folding

/-! ## Bindings in their order -/

namespace KeyBindings

variable {entries : List (Char × Control)} {c d : Char} {control given : Control}

/-- The last of the bindings of a key gives this control. -/
def LastGives (entries : List (Char × Control)) (c : Char) (control : Control) : Prop :=
  ∃ earlier found later, entries = earlier ++ (found, control) :: later ∧ SameKey found c ∧
    ∀ entry ∈ later, ¬ SameKey entry.1 c

/-- The last binding of a key is the one made at the end, if that is a binding of the key. -/
theorem lastGives_concat :
    LastGives (entries ++ [(d, given)]) c control ↔
      SameKey d c ∧ given = control ∨ ¬ SameKey d c ∧ LastGives entries c control := by
  constructor
  · rintro ⟨earlier, found, later, joined, same, since⟩
    -- either nothing comes later, or what was made at the end is the last that does
    rcases List.eq_nil_or_concat later with rfl | ⟨later, last, rfl⟩
    · obtain ⟨_, made⟩ := List.append_singleton_inj.mp joined
      cases made
      exact Or.inl ⟨same, rfl⟩
    · rw [List.concat_eq_append] at joined since
      rw [← List.cons_append, ← List.append_assoc, List.append_singleton_inj] at joined
      obtain ⟨parted, made⟩ := joined
      cases made
      obtain ⟨before, atEnd⟩ := List.forall_mem_append.mp since
      exact Or.inr ⟨atEnd _ List.mem_cons_self, earlier, found, later, parted, same, before⟩
  · rintro (⟨same, rfl⟩ | ⟨other, earlier, found, later, rfl, same, since⟩)
    · exact ⟨entries, d, [], rfl, same, nofun⟩
    · refine ⟨earlier, found, later ++ [(d, given)], by simp, same, ?_⟩
      exact List.forall_mem_append.mpr ⟨since, List.forall_mem_singleton.mpr other⟩

/-! ## Looking up -/

/-- A binding counts for the characters of its key and leaves all others as they were. -/
theorem get?_bind (bindings : KeyBindings) (d : Char) (control : Control) (c : Char) :
    (bindings.bind d control).get? c =
      if SameKey d c then some control else bindings.get? c := by
  rw [get?, bind, List.lookup_cons]
  by_cases same : SameKey d c
  · rw [if_pos same, sameKey_iff.mp same, beq_self_eq_true]
  · have different : foldCase c ≠ foldCase d := fun equal => same (sameKey_iff.mpr equal.symm)
    rw [if_neg same, beq_false_of_ne different]
    rfl

theorem get?_ofList_concat (entries : List (Char × Control)) (d : Char) (control : Control)
    (c : Char) :
    (ofList (entries ++ [(d, control)])).get? c =
      if SameKey d c then some control else (ofList entries).get? c := by
  rw [ofList, List.foldl_append, ← ofList]
  exact get?_bind (ofList entries) d control c

/-- A character is looked up by its key. -/
theorem get?_of_sameKey (bindings : KeyBindings) (same : SameKey c d) :
    bindings.get? c = bindings.get? d := by
  rw [get?, get?, sameKey_iff.mp same]

theorem get?_ofList_eq_some_iff :
    (ofList entries).get? c = some control ↔ LastGives entries c control := by
  induction entries using List.reverseRecOn with
  | nil => simp [ofList, empty, get?, LastGives]
  | append_singleton entries entry induction =>
      obtain ⟨d, given⟩ := entry
      rw [get?_ofList_concat, lastGives_concat, ← induction]
      by_cases same : SameKey d c <;> simp [same]

theorem get?_ofList_eq_none_iff :
    (ofList entries).get? c = none ↔ ∀ entry ∈ entries, ¬ SameKey entry.1 c := by
  induction entries using List.reverseRecOn with
  | nil => simp [ofList, empty, get?]
  | append_singleton entries entry induction =>
      obtain ⟨d, given⟩ := entry
      rw [get?_ofList_concat, List.forall_mem_append, List.forall_mem_singleton, ← induction]
      by_cases same : SameKey d c <;> simp [same]

/-- A character stands for the control of the last binding of its key, and for nothing if the
key has no binding.  Both cases of an ASCII letter are one key, and no other characters are.  So
they stand for the same control, and one more binding counts for the characters of its key
only. -/
theorem last_binding_counts :
    (∀ (entries : List (Char × Control)) (c : Char),
      (∀ control, (ofList entries).get? c = some control ↔ LastGives entries c control) ∧
      ((ofList entries).get? c = none ↔ ∀ entry ∈ entries, ¬ SameKey entry.1 c)) ∧
    (∀ c d : Char, SameKey c d ↔ c = d ∨ CasePair c d ∨ CasePair d c) ∧
    (∀ (entries : List (Char × Control)) (capital small : Char), CasePair capital small →
      (ofList entries).get? capital = (ofList entries).get? small) ∧
    ∀ (entries : List (Char × Control)) (d : Char) (control : Control) (c : Char),
      (ofList (entries ++ [(d, control)])).get? c =
        if SameKey d c then some control else (ofList entries).get? c := by
  refine ⟨fun entries c => ⟨fun control => ?_, ?_⟩, fun c d => sameKey_iff_cases, ?_, ?_⟩
  · exact get?_ofList_eq_some_iff
  · exact get?_ofList_eq_none_iff
  · intro entries capital small pair
    exact (ofList entries).get?_of_sameKey pair.sameKey
  · exact get?_ofList_concat

/-- A letter that is bound in both cases keeps its last control.  A letter outside ASCII has
two keys, so binding the small one again leaves the capital one alone. -/
theorem rebound_letter_keeps_last_control :
    let entries : List (Char × Control) := [('p', .pause), ('É', .key 3), ('P', .quit)]
    CasePair 'P' 'p' ∧ (ofList entries).get? 'P' = (ofList entries).get? 'p' ∧
    (ofList entries).get? 'p' = some .quit ∧ (ofList entries).get? 'é' = none ∧
    (ofList (entries ++ [('é', .step)])).get? 'é' = some .step ∧
    (ofList (entries ++ [('é', .step)])).get? 'É' = (ofList entries).get? 'É' := by
  intro entries
  obtain ⟨looked, _, letters, added⟩ := last_binding_counts
  have pair : CasePair 'P' 'p' := ⟨by decide, by decide, by decide⟩
  refine ⟨pair, letters entries 'P' 'p' pair, ?_, ?_, ?_, ?_⟩
  · exact ((looked entries 'p').1 .quit).mpr
      ⟨[('p', .pause), ('É', .key 3)], 'P', [], rfl, by decide, nofun⟩
  · exact (looked entries 'é').2.mpr (by decide)
  · exact (added entries 'é' .step 'é').trans (if_pos (by decide))
  · exact (added entries 'é' .step 'É').trans (if_neg (by decide))

end KeyBindings

end Chip8
