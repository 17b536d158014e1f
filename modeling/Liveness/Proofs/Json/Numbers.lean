import Liveness.Json.Parser
import Liveness.Json.Printer
import Liveness.Proofs.Text.Digit

namespace Liveness.Json

open Text (isAsciiDigit asciiDigit?)

/-- What may follow a value: nothing, or a character that closes or separates. -/
def Closes (rest : List Char) : Prop :=
  ∀ c ∈ rest.head?, c = ',' ∨ c = ']' ∨ c = '\x7d'

def NoDigit (rest : List Char) : Prop := ∀ c ∈ rest.head?, isAsciiDigit c = false

theorem Closes.noDigit {rest : List Char} (closes : Closes rest) : NoDigit rest := by
  intro c first
  rcases closes c first with rfl | rfl | rfl <;> rfl

theorem noDigit_cons {c : Char} (h : isAsciiDigit c = false) (rest : List Char) :
    NoDigit (c :: rest) := by
  simpa [NoDigit] using h

/-! ## Digits -/

theorem span_loop_append {digits rest : List Char} (all : ∀ c ∈ digits, isAsciiDigit c = true)
    (stop : NoDigit rest) (read : List Char) :
    List.span.loop isAsciiDigit (digits ++ rest) read = (read.reverse ++ digits, rest) := by
  induction digits generalizing read with
  | nil =>
      cases rest with
      | nil => simp [List.span.loop]
      | cons c rest => simp [List.span.loop, stop c rfl]
  | cons c digits ih =>
      have digit := all c (by simp)
      have tail := ih (fun d member => all d (by simp [member])) (c :: read)
      simp [List.span.loop, digit, tail]

theorem spanDigits_append {digits rest : List Char} (all : ∀ c ∈ digits, isAsciiDigit c = true)
    (stop : NoDigit rest) : spanDigits (digits ++ rest) = (digits, rest) :=
  span_loop_append all stop []

structure IsWhole (digits : List Char) : Prop where
  nonempty : digits ≠ []
  all : ∀ c ∈ digits, isAsciiDigit c = true
  front : digits = ['0'] ∨ digits.head? ≠ some '0'

theorem isWhole_toDigits (n : Nat) : IsWhole (Nat.toDigits 10 n) where
  nonempty := Nat.toDigits_ne_nil
  all := Text.isAsciiDigit_of_mem_toDigits n
  front := by
    rcases Nat.eq_zero_or_pos n with rfl | positive
    · exact .inl rfl
    · exact .inr (Text.head?_toDigits_ne_zero positive)

theorem readWhole?_append {digits rest : List Char} (whole : IsWhole digits) (stop : NoDigit rest) :
    readWhole? (digits ++ rest) = some (digits, rest) := by
  rcases whole.front with rfl | front
  · rfl
  · cases digits with
    | nil => exact absurd rfl whole.nonempty
    | cons c digits =>
        have nonzero : c ≠ '0' := fun zero => front (by rw [zero]; rfl)
        have span := spanDigits_append whole.all stop
        rw [List.cons_append] at span ⊢
        rw [readWhole?.eq_2 _ (fun _ begins => nonzero (List.cons.inj begins).1), span]
        rfl

theorem Closes.head?_ne {rest : List Char} (closes : Closes rest) {c : Char} (comma : c ≠ ',')
    (bracket : c ≠ ']') (brace : c ≠ '\x7d') : rest.head? ≠ some c := by
  intro first
  rcases closes c first with h | h | h
  · exact comma h
  · exact bracket h
  · exact brace h

theorem readFraction_none {rest : List Char} (h : rest.head? ≠ some '.') :
    readFraction rest = ([], rest) := by
  cases rest with
  | nil => rfl
  | cons c rest =>
      rw [readFraction.eq_2]
      rintro more begins
      obtain ⟨rfl, -⟩ := List.cons.inj begins
      exact h rfl

theorem readExponent_none {rest : List Char} (e : rest.head? ≠ some 'e')
    (upper : rest.head? ≠ some 'E') : readExponent rest = (none, rest) := by
  cases rest with
  | nil => rfl
  | cons c rest =>
      have other : ¬ (c = 'e' ∨ c = 'E') := by
        rintro (rfl | rfl)
        · exact e rfl
        · exact upper rfl
      simp [readExponent, other]

/-! ## Whole numbers -/

def signText (negative : Bool) : List Char := if negative then ['-'] else []

theorem IsWhole.head?_ne {digits : List Char} (whole : IsWhole digits) (rest : List Char) {c : Char}
    (other : isAsciiDigit c = false) : (digits ++ rest).head? ≠ some c := by
  cases digits with
  | nil => exact absurd rfl whole.nonempty
  | cons d digits =>
      intro first
      obtain rfl : d = c := by simpa using first
      simp [whole.all d (by simp)] at other

def readMagnitude (negative : Bool) (unread : Nat) (body : List Char) :
    Except Halt (Json × List Char) :=
  match readWhole? body with
  | none => .error (.expectedValue, unread)
  | some (whole, rest) =>
    let (fraction, rest) := readFraction rest
    let (exponent, rest) := readExponent rest
    if fraction.isEmpty ∧ exponent.isNone then
      if Text.digitLimit < whole.length then
        .error (.longInteger (.tooManyDigits whole.length), unread)
      else
        let n : Int := digitValue whole
        .ok (.integer (if negative then -n else n), rest)
    else
      let digits := digitValue (whole ++ fraction)
      .ok (.float (.ofDecimal negative digits (exponent.getD 0 - fraction.length)), rest)

theorem readNumber_sign (negative : Bool) {body : List Char} (unsigned : body.head? ≠ some '-') :
    readNumber (signText negative ++ body) =
      readMagnitude negative (signText negative ++ body).length body := by
  cases negative with
  | true => rfl
  | false =>
      cases body with
      | nil => rfl
      | cons c body =>
          have plain : c ≠ '-' := fun h => unsigned (by rw [h]; rfl)
          simp only [signText, List.nil_append, Bool.false_eq_true, if_false]
          unfold readNumber
          split
          · rename_i begins
            split at begins
            · rename_i first
              exact absurd (List.cons.inj first).1 plain
            · obtain ⟨rfl, rfl⟩ := Prod.mk.inj begins
              rfl

theorem readNumber_integer (negative : Bool) {n : Nat} (short : n < 10 ^ Text.digitLimit)
    {rest : List Char} (closes : Closes rest) :
    readNumber (signText negative ++ (Nat.toDigits 10 n ++ rest)) =
      .ok (.integer (if negative then -(n : Int) else n), rest) := by
  have whole := isWhole_toDigits n
  have length : ¬ Text.digitLimit < (Nat.toDigits 10 n).length := by
    rw [Nat.not_lt, Nat.length_toDigits_le_iff (by omega) (by decide)]
    exact short
  have fraction := readFraction_none
    (closes.head?_ne (c := '.') (by decide) (by decide) (by decide))
  have exponent := readExponent_none
    (closes.head?_ne (c := 'e') (by decide) (by decide) (by decide))
    (closes.head?_ne (c := 'E') (by decide) (by decide) (by decide))
  have value : digitValue (Nat.toDigits 10 n) = n := Text.ofDigits_toDigits n
  rw [readNumber_sign negative (whole.head?_ne rest rfl), readMagnitude]
  simp only [readWhole?_append whole closes.noDigit, fraction, exponent, List.isEmpty_nil,
    Option.isNone_none, and_self, if_true, length, if_false, value]

theorem toList_toString (n : Int) :
    (toString n).toList = signText (n < 0) ++ Nat.toDigits 10 n.natAbs := by
  cases n with
  | ofNat m => exact Nat.toList_repr
  | negSucc m =>
      simp only [signText, Int.negSucc_lt_zero, decide_true, if_true]
      change ("-" ++ Nat.repr (m + 1)).toList = _
      rw [String.toList_append, Nat.toList_repr]
      rfl

theorem readNumber_toString {n : Int} (short : n.natAbs < 10 ^ Text.digitLimit) {rest : List Char}
    (closes : Closes rest) : readNumber ((toString n).toList ++ rest) = .ok (.integer n, rest) := by
  rw [toList_toString, List.append_assoc, readNumber_integer _ short closes]
  congr 3
  split
  next negative =>
      have below : n < 0 := by simpa using negative
      omega
  next other =>
      have above : ¬ n < 0 := by simpa using other
      omega

/-! ## Floats -/

def fractionText (digits : List Char) : List Char := if digits.isEmpty then [] else '.' :: digits

def exponentText : Option (Bool × List Char) → List Char
  | none => []
  | some (down, digits) => 'e' :: (if down then '-' else '+') :: digits

def exponentValue : Option (Bool × List Char) → Option Int
  | none => none
  | some (down, digits) => some (if down then -(digitValue digits : Int) else digitValue digits)

/-- The parts of the text of a float: it has a fraction or an exponent. -/
structure FloatParts where
  negative : Bool
  whole : List Char
  fraction : List Char
  exponent : Option (Bool × List Char)
  isWhole : IsWhole whole
  fraction_all : ∀ c ∈ fraction, isAsciiDigit c = true
  exponent_all : ∀ e ∈ exponent, e.2 ≠ [] ∧ ∀ c ∈ e.2, isAsciiDigit c = true
  isFloat : fraction ≠ [] ∨ exponent.isSome

def FloatParts.chars (parts : FloatParts) : List Char :=
  signText parts.negative ++
    (parts.whole ++ (fractionText parts.fraction ++ exponentText parts.exponent))

def FloatParts.value (parts : FloatParts) : Numeric.Binary64 :=
  .ofDecimal parts.negative (digitValue (parts.whole ++ parts.fraction))
    ((exponentValue parts.exponent).getD 0 - parts.fraction.length)

theorem readFraction_text {digits rest : List Char} (all : ∀ c ∈ digits, isAsciiDigit c = true)
    (stop : NoDigit rest) (point : rest.head? ≠ some '.') :
    readFraction (fractionText digits ++ rest) = (digits, rest) := by
  cases digits with
  | nil => exact readFraction_none point
  | cons d digits =>
      have span := spanDigits_append all stop
      simp only [fractionText, List.isEmpty_cons, Bool.false_eq_true, if_false, List.cons_append]
      rw [readFraction, ← List.cons_append, span]
      rfl

theorem readExponent_text {exponent : Option (Bool × List Char)} {rest : List Char}
    (all : ∀ e ∈ exponent, e.2 ≠ [] ∧ ∀ c ∈ e.2, isAsciiDigit c = true) (closes : Closes rest) :
    readExponent (exponentText exponent ++ rest) = (exponentValue exponent, rest) := by
  cases exponent with
  | none =>
      apply readExponent_none
      · exact closes.head?_ne (by decide) (by decide) (by decide)
      · exact closes.head?_ne (by decide) (by decide) (by decide)
  | some e =>
      obtain ⟨down, digits⟩ := e
      obtain ⟨nonempty, digitsAll⟩ := all (down, digits) rfl
      have span := spanDigits_append digitsAll closes.noDigit
      cases down <;>
        simp [exponentText, exponentValue, readExponent, Text.splitSign, span, nonempty]

theorem head?_exponentText_append (exponent : Option (Bool × List Char)) {rest : List Char}
    {c : Char} (e : c ≠ 'e') (first : (exponentText exponent ++ rest).head? = some c) :
    rest.head? = some c := by
  cases exponent with
  | none => exact first
  | some exponent =>
      simp only [exponentText, List.cons_append, List.head?_cons, Option.some.injEq] at first
      exact absurd first.symm e

theorem readNumber_float (parts : FloatParts) {rest : List Char} (closes : Closes rest) :
    readNumber (parts.chars ++ rest) = .ok (.float parts.value, rest) := by
  have noDigit : NoDigit (exponentText parts.exponent ++ rest) := by
    intro c first
    by_cases e : c = 'e'
    · rw [e]
      rfl
    · exact closes.noDigit c (head?_exponentText_append _ e first)
  have noPoint : (exponentText parts.exponent ++ rest).head? ≠ some '.' := fun first =>
    closes.head?_ne (by decide) (by decide) (by decide)
      (head?_exponentText_append _ (by decide) first)
  have stop : NoDigit (fractionText parts.fraction ++ (exponentText parts.exponent ++ rest)) := by
    cases parts.fraction with
    | nil => exact noDigit
    | cons d digits => exact noDigit_cons rfl _
  have exponent := readExponent_text parts.exponent_all closes
  have float : ¬ (parts.fraction.isEmpty ∧ (exponentValue parts.exponent).isNone) := by
    rcases parts.isFloat with fraction | some
    · simp [fraction]
    · obtain ⟨e, written⟩ := Option.isSome_iff_exists.mp some
      simp [written, exponentValue]
  rw [FloatParts.chars, List.append_assoc, List.append_assoc, List.append_assoc,
    readNumber_sign _ (parts.isWhole.head?_ne _ rfl), readMagnitude,
    readWhole?_append parts.isWhole stop]
  simp only [readFraction_text parts.fraction_all noDigit noPoint, exponent, float, if_false]
  rfl

end Liveness.Json
