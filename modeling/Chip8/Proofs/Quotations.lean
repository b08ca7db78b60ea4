import Chip8.Proofs.Numerals
import Chip8.Text.Quoted

/-!
# Quotations

A quotation puts a text between two quotation marks.  Each character of the text has a piece of
the quotation that stands for it, and the pieces follow one another in the order of the text.
A quotation mark and a backslash get a backslash, four controls are written by letter, other
hidden characters by number, and every visible one is its own piece.

The pieces need no marks between them.  What a quotation begins with tells which character comes
first and where its piece ends (`leading?_append`), and no piece begins with a quotation mark.
So a quotation tells its text and where it ends, whatever stands behind it.
-/

namespace Chip8.Text

/-! ## Pieces -/

/-- The piece of a quotation that stands for a character.  A number has small hexadecimal digits
and no zero in front of them. -/
inductive StandsFor : List Char → Char → Prop where
  | quotationMark : StandsFor ['\\', '"'] '"'
  | backslash : StandsFor ['\\', '\\'] '\\'
  | tab : StandsFor ['\\', 't'] '\t'
  | lineFeed : StandsFor ['\\', 'n'] '\n'
  | carriageReturn : StandsFor ['\\', 'r'] '\r'
  | null : StandsFor ['\\', '0'] '\x00'
  | visible (c : Char) (other : c ≠ '"' ∧ c ≠ '\\') (seen : isVisible c = true) : StandsFor [c] c
  | hidden (c : Char) (digits : List Char) (unlettered : c ∉ ['\t', '\n', '\r', '\x00'])
      (unseen : isVisible c = false) (number : Numeral.Worth 16 digits c.toNat)
      (small : ∀ digit ∈ digits, ¬ ('A' ≤ digit ∧ digit ≤ 'F'))
      (least : digits.head? ≠ some '0') :
      StandsFor (['\\', 'u', '\x7b'] ++ digits ++ ['\x7d']) c

/-- A quotation mark, a piece for each character of the text, and a quotation mark. -/
def Quotes (text quotation : String) : Prop :=
  ∃ pieces, List.Forall₂ StandsFor pieces text.toList ∧
    quotation.toList = '"' :: (pieces.flatten ++ ['"'])

/-- Of the characters below 128, those from the blank to the tilde are visible. -/
theorem isVisible_iff_of_lt {c : Char} (low : c.toNat < 0x80) :
    isVisible c = true ↔ 0x20 ≤ c.toNat ∧ c.toNat < 0x7F := by
  have parts : hiddenRanges.toList =
      [(0x0, 0x1F), (0x7F, 0xA0)] ++ hiddenRanges.toList.drop 2 := rfl
  -- the table ascends, so what follows the first two ranges is out of reach
  have beyond : ∀ range ∈ hiddenRanges.toList.drop 2, 0x80 ≤ range.1 := by decide +kernel
  have unlisted : (hiddenRanges.toList.drop 2).any
      (fun range => range.1 ≤ c.toNat && c.toNat ≤ range.2) = false := by
    simp only [List.any_eq_false, Bool.and_eq_true, decide_eq_true_eq]
    intro range among
    have start := beyond range among
    omega
  rw [isVisible, ← Array.any_toList, parts, List.any_append, unlisted]
  simp
  omega

/-! ## Numbers -/

theorem exists_digitChar_of_mem_small {n : Nat} {c : Char} (among : c ∈ Hex.small n) :
    ∃ d < 16, c = Nat.digitChar d := by
  induction n using Nat.strong_induction_on with
  | _ n induction =>
      rw [Hex.small] at among
      by_cases low : n < 16
      · rw [Nat.toDigits_of_lt_base low] at among
        exact ⟨n, low, List.mem_singleton.mp among⟩
      · have shorter : n / 16 < n := by omega
        rw [Nat.toDigits_of_base_le (by decide) (Nat.not_lt.mp low)] at among
        rcases List.mem_append.mp among with before | last
        · exact induction (n / 16) shorter before
        · exact ⟨n % 16, Nat.mod_lt n (by decide), List.mem_singleton.mp last⟩

theorem not_capital_of_mem_small {n : Nat} {c : Char} (among : c ∈ Hex.small n) :
    ¬ ('A' ≤ c ∧ c ≤ 'F') := by
  obtain ⟨d, low, rfl⟩ := exists_digitChar_of_mem_small among
  interval_cases d <;> decide

theorem head?_small_ne_zero {n : Nat} (positive : 0 < n) : (Hex.small n).head? ≠ some '0' := by
  induction n using Nat.strong_induction_on with
  | _ n induction =>
      rw [Hex.small]
      by_cases low : n < 16
      · rw [Nat.toDigits_of_lt_base low]
        interval_cases n <;> decide
      · have shorter : n / 16 < n := by omega
        have left : 0 < n / 16 := by omega
        rw [Nat.toDigits_of_base_le (by decide) (Nat.not_lt.mp low),
          List.head?_append_of_ne_nil _ Nat.toDigits_ne_nil]
        exact induction (n / 16) shorter left

/-! ## Writing -/

theorem standsFor_quote (c : Char) : StandsFor (quote c) c := by
  rw [quote]
  split_ifs with mark backslash tab lineFeed carriageReturn null seen
  · rw [mark]
    exact .quotationMark
  · rw [backslash]
    exact .backslash
  · rw [tab]
    exact .tab
  · rw [lineFeed]
    exact .lineFeed
  · rw [carriageReturn]
    exact .carriageReturn
  · rw [null]
    exact .null
  · exact .visible c ⟨mark, backslash⟩ seen
  · have positive : 0 < c.toNat := Nat.pos_of_ne_zero fun zero => null (Char.toNat_inj.mp zero)
    exact .hidden c _ (by simp [tab, lineFeed, carriageReturn, null]) (Bool.eq_false_iff.mpr seen)
      (Numeral.worth_small c.toNat) (fun _ => not_capital_of_mem_small)
      (head?_small_ne_zero positive)

theorem quotes_quoted (text : String) : Quotes text (quoted text) := by
  refine ⟨text.toList.map quote, ?_, ?_⟩
  · rw [List.forall₂_map_left_iff]
    exact List.forall₂_same.mpr fun c _ => standsFor_quote c
  · simp [quoted, List.flatMap_def]

/-! ## Reading -/

/-- The character that a quotation begins with and what stands behind its piece, unless the
quotation is at its end. -/
def leading? : List Char → Option (Char × List Char)
  | [] => none
  | '"' :: _ => none
  | ['\\'] => none
  | '\\' :: letter :: rest =>
      match letter with
      | 't' => some ('\t', rest)
      | 'n' => some ('\n', rest)
      | 'r' => some ('\r', rest)
      | '0' => some ('\x00', rest)
      | 'u' =>
          match Numeral.read 16 0x10FFFF ((rest.drop 1).takeWhile (· ≠ '\x7d')) with
          | .ok number =>
              some (Char.ofNat number, ((rest.drop 1).dropWhile (· ≠ '\x7d')).drop 1)
          | .error _ => none
      | other => some (other, rest)
  | c :: rest => some (c, rest)

/-- A quotation begins with the piece of its first character, whatever follows. -/
theorem leading?_append {piece : List Char} {c : Char} (stands : StandsFor piece c)
    (rest : List Char) : leading? (piece ++ rest) = some (c, rest) := by
  cases stands with
  | visible c other seen =>
      show leading? (c :: rest) = _
      unfold leading?
      split
      · next same => cases same
      · next same => exact absurd (List.cons.inj same).1 other.1
      · next same => exact absurd (List.cons.inj same).1 other.2
      · next same => exact absurd (List.cons.inj same).1 other.2
      · next same =>
          obtain ⟨rfl, rfl⟩ := List.cons.inj same
          rfl
  | hidden c digits unlettered unseen number small least =>
      have bare : ∀ digit ∈ digits, decide (digit ≠ '\x7d') = true := by
        intro digit among
        rw [decide_eq_true_eq]
        rintro rfl
        cases number.isSome_digit? '\x7d' among
      have taken : (digits ++ '\x7d' :: rest).takeWhile (· ≠ '\x7d') = digits := by
        rw [List.takeWhile_append_of_pos bare, List.takeWhile_cons_of_neg (by decide),
          List.append_nil]
      have dropped : (digits ++ '\x7d' :: rest).dropWhile (· ≠ '\x7d') = '\x7d' :: rest := by
        rw [List.dropWhile_append_of_pos bare, List.dropWhile_cons_of_neg (by decide)]
      have present : digits ≠ [] := by
        rintro rfl
        have null : c = '\x00' := Char.toNat_inj.mp number.eq_zero
        exact unlettered (by simp [null])
      have within : c.toNat ≤ 0x10FFFF := by
        rcases c.valid with low | ⟨_, high⟩
        · exact Nat.le_of_lt (Nat.lt_trans low (by decide))
        · exact Nat.le_of_lt_succ high
      have found : Numeral.read 16 0x10FFFF digits = .ok c.toNat :=
        Numeral.read_of_worth number present within (Or.inl rfl)
      have joined : ['\\', 'u', '\x7b'] ++ digits ++ ['\x7d'] ++ rest =
          '\\' :: 'u' :: '\x7b' :: (digits ++ '\x7d' :: rest) := by simp
      rw [joined]
      simp only [leading?, List.drop_succ_cons, List.drop_zero, taken, dropped, found,
        Char.ofNat_toNat]
  | _ => rfl

/-- The pieces of a text and a quotation mark tell the text and what stands behind them. -/
theorem flatten_inj {pieces others : List (List Char)} {text other behind behind' : List Char}
    (stand : List.Forall₂ StandsFor pieces text) (stand' : List.Forall₂ StandsFor others other)
    (same : pieces.flatten ++ '"' :: behind = others.flatten ++ '"' :: behind') :
    text = other ∧ behind = behind' := by
  have first := congrArg leading? same
  induction stand generalizing others other with
  | nil =>
      cases stand' with
      | nil => exact ⟨rfl, (List.cons.inj same).2⟩
      | cons begins _ =>
          rw [List.flatten_cons, List.append_assoc, leading?_append begins] at first
          cases first
  | cons begins _ induction =>
      rw [List.flatten_cons, List.append_assoc, leading?_append begins] at first
      cases stand' with
      | nil => cases first
      | cons begins' more =>
          rw [List.flatten_cons, List.append_assoc, leading?_append begins'] at first
          obtain ⟨rfl, rest⟩ := Prod.mk.inj (Option.some.inj first)
          obtain ⟨rfl, rfl⟩ := induction more rest (congrArg leading? rest)
          exact ⟨rfl, rfl⟩

/-- A quotation in front of anything tells its text and where it ends. -/
theorem Quotes.inj {text other quotation quotation' behind behind' : String}
    (quotes : Quotes text quotation) (quotes' : Quotes other quotation')
    (same : quotation ++ behind = quotation' ++ behind') :
    text = other ∧ behind = behind' := by
  obtain ⟨pieces, stand, spelled⟩ := quotes
  obtain ⟨others, stand', spelled'⟩ := quotes'
  have characters := congrArg String.toList same
  rw [String.toList_append, String.toList_append, spelled, spelled'] at characters
  simp only [List.cons_append, List.append_assoc, List.nil_append, List.cons.injEq,
    true_and] at characters
  obtain ⟨texts, rests⟩ := flatten_inj stand stand' characters
  exact ⟨String.toList_inj.mp texts, String.toList_inj.mp rests⟩

end Chip8.Text
