import FeatureFlags.Json.Printer
import FeatureFlags.Json.Reader

/-!
# Tokens that are read back

The text of an integer and the text of a string, followed by anything that does not belong to
them, are taken apart into what they were written from.  A number ends where neither a digit nor
a point nor an exponent follows; a string ends at its closing quote, so nothing needs to be known
of what follows that.

An escape may stand for half of a character, and then what comes behind it matters.  The printer
writes no such escape: it uses numbered ones only for characters below a blank.

## Main definitions

* `NumberText.ofInt`, `StringText.ofString` — an integer and a string as they are written.
* `Json.EndsNumber` — what may follow a number.

## Main results

* `Json.scanNumber?_toString`, `Json.scanString?_quoteChars` — the tokens are taken apart as they
  were written.
* `NumberText.value?_ofInt`, `StringText.value?_ofString` — and mean what they were written from.
-/

namespace FeatureFlags

open Json (digitValue)

/-! ### Digits -/

namespace Json

/-- Only the number zero is written with a zero in front. -/
theorem eq_zero_of_head?_toDigits {n : Nat} (h : (Nat.toDigits 10 n).head? = some '0') :
    n = 0 := by
  induction n using Nat.strongRecOn with
  | ind n ih =>
    rw [Nat.toDigits_eq_if (by decide)] at h
    split at h
    · exact Nat.digitChar_eq_zero.mp (Option.some.inj h)
    · rw [List.head?_append, List.head?_eq_some_head Nat.toDigits_ne_nil, Option.some_or] at h
      have hfront : n / 10 = 0 :=
        ih (n / 10) (by omega) ((List.head?_eq_some_head Nat.toDigits_ne_nil).trans h)
      omega

/-- The digits of a number stand for it. -/
theorem ofDigits_toDigits (n : Nat) :
    NumberText.ofDigits ((Nat.toDigits 10 n).map digitValue) = n := by
  have hstep : (fun (m : Nat) (c : Char) => m * 10 + digitValue c) =
      fun m c => 10 * m + (c.toNat - '0'.toNat) := by
    funext m c
    rw [digitValue, Nat.mul_comm]
  rw [NumberText.ofDigits, List.foldl_map, hstep, ← Nat.ofDigitChars_eq_foldl,
    Nat.ofDigitChars_ten_toDigits]

theorem digitValue_eq_zero {c : Char} (hdigit : c.isDigit = true) (h : digitValue c = 0) :
    c = '0' := by
  have hlower := (Char.isDigit_iff_toNat.mp hdigit).1
  rw [digitValue] at h
  exact Char.toNat_inj.mp (by omega)

theorem isDigit_of_mem_toDigits {n : Nat} {c : Char} (h : c ∈ Nat.toDigits 10 n) :
    c.isDigit = true :=
  Nat.isDigit_of_mem_toDigits (by decide) (by decide) h

/-! ### Numbers -/

/-- What may follow a number: nothing that the number could go on with. -/
def EndsNumber (rest : List Char) : Prop :=
  ∀ c ∈ rest.head?, c.isDigit = false ∧ c ≠ '.' ∧ c ≠ 'e' ∧ c ≠ 'E'

theorem endsNumber_nil : EndsNumber [] := fun _ h => absurd h (Option.not_mem_none _)

theorem endsNumber_cons {c : Char} {rest : List Char} (h : c ∈ [',', ']', '\x7d']) :
    EndsNumber (c :: rest) := by
  intro d hd
  rw [← Option.some.inj hd]
  simp only [List.mem_cons, List.not_mem_nil, or_false] at h
  rcases h with rfl | rfl | rfl <;> decide

/-- The sign at the front of a number. -/
def scanSign : List Char → Bool × List Char
  | '-' :: rest => (true, rest)
  | cs => (false, cs)

/-- The digits before the point: at least one, and no zero in front of others. -/
def scanWhole? (cs : List Char) : Option (List Nat × List Char) :=
  match scanDigits cs with
  | ([], _) => none
  | (0 :: _ :: _, _) => none
  | (digits, rest) => some (digits, rest)

/-- The parts of a number are scanned one after the other. -/
theorem scanNumber?_eq (cs : List Char) :
    scanNumber? cs =
      (scanWhole? (scanSign cs).2).bind fun (whole, cs') =>
        (scanFraction? cs').bind fun (fraction, cs') =>
          (scanExponent? cs').bind fun (exponent, cs') =>
            some (⟨(scanSign cs).1, whole, fraction, exponent⟩, cs') := by
  unfold scanNumber?
  split
  next negative cs' heq =>
    have hsign : scanSign cs = (negative, cs') := heq
    rw [hsign, scanWhole?]
    dsimp only
    rcases scanDigits cs' with ⟨_ | ⟨_ | d, _ | ⟨e, more⟩⟩, rest⟩ <;> rfl

variable {rest : List Char}

/-- Digits are scanned up to the first character that is none. -/
theorem scanDigits_append {digits : List Char} (hdigits : ∀ c ∈ digits, c.isDigit = true)
    (hrest : EndsNumber rest) : scanDigits (digits ++ rest) = (digits.map digitValue, rest) := by
  have hstop : rest.takeWhile Char.isDigit = [] ∧ rest.dropWhile Char.isDigit = rest := by
    cases rest with
    | nil => exact ⟨rfl, rfl⟩
    | cons c cs =>
      have hc := (hrest c rfl).1
      simp [hc]
  rw [scanDigits, List.takeWhile_append_of_pos hdigits, List.dropWhile_append_of_pos hdigits,
    hstop.1, hstop.2, List.append_nil]

/-- Digits have no sign in front. -/
theorem scanSign_toDigits (n : Nat) (cs : List Char) :
    scanSign (Nat.toDigits 10 n ++ cs) = (false, Nat.toDigits 10 n ++ cs) := by
  obtain ⟨first, digits, hn⟩ := List.exists_cons_of_ne_nil (Nat.toDigits_ne_nil (n := n) (b := 10))
  have hdigit : first.isDigit = true := isDigit_of_mem_toDigits (hn ▸ List.mem_cons_self)
  rw [hn, List.cons_append]
  unfold scanSign
  split
  next heq =>
    rw [(List.cons.inj heq).1] at hdigit
    exact absurd hdigit (by decide)
  next => rfl

/-- The digits of a number are a token of their own. -/
theorem scanWhole?_toDigits (n : Nat) (hrest : EndsNumber rest) :
    scanWhole? (Nat.toDigits 10 n ++ rest) =
      some ((Nat.toDigits 10 n).map digitValue, rest) := by
  have hdigits : ∀ c ∈ Nat.toDigits 10 n, c.isDigit = true := fun c h => isDigit_of_mem_toDigits h
  rw [scanWhole?, scanDigits_append hdigits hrest]
  split
  next heq =>
    have hnil := List.map_eq_nil_iff.mp (Prod.mk.inj heq).1
    exact absurd hnil Nat.toDigits_ne_nil
  next heq =>
    -- two digits with a zero in front would be those of zero, which has one
    obtain ⟨first, digits, hn, hzero, hmore⟩ := List.map_eq_cons_iff.mp (Prod.mk.inj heq).1
    have hfirst : first = '0' := digitValue_eq_zero (hdigits first (hn ▸ List.mem_cons_self)) hzero
    have hn0 : n = 0 := eq_zero_of_head?_toDigits (by rw [hn, hfirst]; rfl)
    rw [hn0, Nat.toDigits_zero, List.cons.injEq] at hn
    rw [← hn.2] at hmore
    exact absurd hmore (List.cons_ne_nil _ _).symm
  next heq => rw [heq]

theorem scanFraction?_of_endsNumber (hrest : EndsNumber rest) :
    scanFraction? rest = some (none, rest) := by
  cases rest with
  | nil => rfl
  | cons c cs =>
    obtain ⟨-, hpoint, -, -⟩ := hrest c rfl
    unfold scanFraction?
    split
    next heq => exact absurd (List.cons.inj heq).1 hpoint
    next => rfl

theorem scanExponent?_of_endsNumber (hrest : EndsNumber rest) :
    scanExponent? rest = some (none, rest) := by
  cases rest with
  | nil => rfl
  | cons c cs =>
    obtain ⟨-, -, hlower, hupper⟩ := hrest c rfl
    unfold scanExponent?
    exact if_neg (not_or.mpr ⟨hlower, hupper⟩)

end Json

/-- An integer as it is written. -/
def NumberText.ofInt (i : Int) : NumberText where
  negative := decide (i < 0)
  whole := (Nat.toDigits 10 i.natAbs).map digitValue
  fraction := none
  exponent := none

/-- The text of an integer: a minus if it is negative, and the digits of its distance from
zero. -/
theorem Json.toList_toString_int (i : Int) :
    (toString i).toList = (if i < 0 then ['-'] else []) ++ Nat.toDigits 10 i.natAbs := by
  rw [Int.toString_eq_repr, Int.repr_eq_if]
  by_cases hneg : i < 0
  · have habs : (-i).toNat = i.natAbs := by omega
    rw [if_neg (by omega), if_pos hneg, String.toList_append, Nat.toList_repr, habs]
    rfl
  · have habs : i.toNat = i.natAbs := by omega
    rw [if_pos (by omega), if_neg hneg, Nat.toList_repr, habs]
    rfl

/-- **The text of an integer is taken apart into its sign and its digits.** -/
theorem Json.scanNumber?_toString (i : Int) {rest : List Char} (hrest : EndsNumber rest) :
    scanNumber? ((toString i).toList ++ rest) = some (.ofInt i, rest) := by
  have hsign : scanSign ((toString i).toList ++ rest) =
      (decide (i < 0), Nat.toDigits 10 i.natAbs ++ rest) := by
    rw [toList_toString_int, List.append_assoc]
    by_cases hneg : i < 0
    · rw [if_pos hneg, decide_eq_true hneg]
      rfl
    · rw [if_neg hneg, decide_eq_false hneg, List.nil_append]
      exact scanSign_toDigits _ _
  rw [scanNumber?_eq, hsign, scanWhole?_toDigits _ hrest, Option.bind_some]
  dsimp only
  rw [scanFraction?_of_endsNumber hrest, Option.bind_some]
  dsimp only
  rw [scanExponent?_of_endsNumber hrest]
  rfl

/-- What is meant by the text of an integer is the integer. -/
theorem NumberText.value?_ofInt (i : Json.Integer) : (ofInt i.val).value? = some (.integer i) := by
  have hdigits : ofDigits (ofInt i.val).whole = i.val.natAbs := Json.ofDigits_toDigits _
  have hsigned : (if (ofInt i.val).negative then -(i.val.natAbs : Int) else i.val.natAbs) =
      i.val := by
    by_cases hneg : i.val < 0
    · have hminus : (ofInt i.val).negative = true := decide_eq_true hneg
      rw [if_pos hminus]
      omega
    · have hminus : (ofInt i.val).negative = false := decide_eq_false hneg
      rw [hminus, if_neg Bool.false_ne_true]
      omega
  have hrange : Json.Integer.ofInt? i.val = some i := dif_pos ⟨i.lower, i.upper⟩
  have hplain : (ofInt i.val).fraction.isNone ∧ (ofInt i.val).exponent.isNone ∧
      ¬((ofInt i.val).negative ∧ i.val.natAbs = 0) := by
    refine ⟨rfl, rfl, fun h => ?_⟩
    have hneg : i.val < 0 := of_decide_eq_true h.1
    omega
  rw [value?, hdigits, hsigned, if_pos hplain, hrange]

/-! ### Strings -/

/-- A character as it is written inside a string: by a numbered escape if it is below a blank and
has no short escape. -/
def StringPiece.ofChar (c : Char) : StringPiece :=
  if c.toNat < 32 ∧ c ∉ ['\x08', '\x0c', '\n', '\r', '\t'] then .unit c.toNat else .char c

/-- A string as it is written. -/
def StringText.ofString (s : String) : StringText := s.toList.map StringPiece.ofChar

namespace Json

/-- The two digits of a numbered escape below a blank stand for its character. -/
theorem hexUnit?_hexDigit : ∀ n < 32,
    hexUnit? '0' '0' (hexDigit (n / 16)) (hexDigit (n % 16)) = some n := by
  decide

/-- A short escape is one piece. -/
theorem scanString?_shortEscape {e c : Char} (he : shortEscape? e = some c) (cs : List Char) :
    scanString? ('\\' :: e :: cs) =
      (scanString? cs).map fun (t, rest) => (.char c :: t, rest) := by
  have hu : e ≠ 'u' := by
    rintro rfl
    exact absurd he (Option.some_ne_none c).symm
  rw [scanString?, he]
  · cases scanString? cs <;> rfl
  · exact fun _ _ _ _ _ heq _ => hu heq

/-- A numbered escape is one piece. -/
theorem scanString?_unit {a b c d : Char} {n : Nat} (hn : hexUnit? a b c d = some n)
    (cs : List Char) :
    scanString? ('\\' :: 'u' :: a :: b :: c :: d :: cs) =
      (scanString? cs).map fun (t, rest) => (.unit n :: t, rest) := by
  rw [scanString?, hn]
  cases scanString? cs <;> rfl

/-- A character that stands for itself is one piece. -/
theorem scanString?_self {c : Char} (hquote : c ≠ '"') (hbackslash : c ≠ '\\')
    (hprintable : ¬c.toNat < 32) (cs : List Char) :
    scanString? (c :: cs) = (scanString? cs).map fun (t, rest) => (.char c :: t, rest) := by
  rw [scanString?, if_neg (not_or.mpr ⟨hprintable, hbackslash⟩)]
  · cases scanString? cs <;> rfl
  · exact hquote
  · exact fun _ _ _ _ _ heq _ => hbackslash heq
  · exact fun _ _ heq _ => hbackslash heq

/-- **A character is taken apart as it was written**, whatever follows. -/
theorem scanString?_quoteChar (c : Char) (cs : List Char) :
    scanString? (quoteChar c ++ cs) =
      (scanString? cs).map fun (t, rest) => (.ofChar c :: t, rest) := by
  unfold quoteChar
  -- the seven characters that have a short escape
  iterate 7
    split
    next h => subst h; exact scanString?_shortEscape rfl cs
  split
  next h =>
    have hpiece : StringPiece.ofChar c = .unit c.toNat := if_pos ⟨h, by simp_all⟩
    rw [hpiece]
    exact scanString?_unit (hexUnit?_hexDigit _ h) cs
  next h =>
    have hpiece : StringPiece.ofChar c = .char c := if_neg fun hc => h hc.1
    rw [hpiece]
    exact scanString?_self (by assumption) (by assumption) h cs

/-- **A string is taken apart as it was written**, whatever follows its closing quote. -/
theorem scanString?_quoteChars (s rest : List Char) :
    scanString? (s.flatMap quoteChar ++ '"' :: rest) = some (s.map .ofChar, rest) := by
  induction s with
  | nil => rfl
  | cons c s ih =>
    rw [List.flatMap_cons, List.append_assoc, scanString?_quoteChar, ih]
    rfl

end Json

namespace StringText

/-- An escape of a whole character stands for it, whatever follows. -/
theorem chars?_unit_cons {n : Nat} (hn : n < 0xD800) (t : StringText) :
    chars? (.unit n :: t) = (chars? t).map (Char.ofNat n :: ·) := by
  match t with
  | [] => simp [chars?, hn]
  | .unit m :: rest => rw [chars?, if_pos (.inl hn)]
  | .char c :: rest => simp [chars?, hn, Function.comp_def]

theorem chars?_map_ofChar (s : List Char) : chars? (s.map StringPiece.ofChar) = some s := by
  induction s with
  | nil => rfl
  | cons c s ih =>
    rw [List.map_cons, StringPiece.ofChar]
    split
    next h => rw [chars?_unit_cons (by omega), ih, Char.ofNat_toNat]; rfl
    next => rw [chars?, ih]; rfl

/-- **What is meant by the text of a string is the string.** -/
@[simp] theorem value?_ofString (s : String) : (ofString s).value? = some s := by
  rw [value?, ofString, chars?_map_ofChar, Option.map_some, String.ofList_toList]

end StringText

end FeatureFlags
