import Liveness.Proofs.Text.Digit
import Liveness.Text.Integer

namespace Liveness.Text

/-! ## Trimming -/

section Trimming

variable {drop : Char → Bool} {before text after : List Char} {c : Char}

theorem mem_dropWhile (listed : c ∈ text) (kept : drop c = false) : c ∈ text.dropWhile drop := by
  rw [← List.takeWhile_append_dropWhile (p := drop) (l := text), List.mem_append] at listed
  rcases listed with front | back
  · rw [List.mem_takeWhile_imp front] at kept
    cases kept
  · exact back

theorem mem_trimBoth (listed : c ∈ text) (kept : drop c = false) : c ∈ trimBoth drop text := by
  rw [trimBoth, List.mem_reverse]
  exact mem_dropWhile (List.mem_reverse.2 (mem_dropWhile listed kept)) kept

theorem dropWhile_append_of_kept (dropped : ∀ c ∈ before, drop c = true)
    (kept : ∀ c ∈ text, drop c = false) : (before ++ text).dropWhile drop = text := by
  rw [List.dropWhile_append_of_pos dropped]
  cases text with
  | nil => rfl
  | cons c text => rw [List.dropWhile_cons_of_neg (by simp [kept])]

theorem trimBoth_append (dropped : ∀ c ∈ before, drop c = true) (kept : ∀ c ∈ text, drop c = false)
    (dropped' : ∀ c ∈ after, drop c = true) : trimBoth drop (before ++ text ++ after) = text := by
  have back : ∀ c ∈ after.reverse, drop c = true := fun c member =>
    dropped' c (List.mem_reverse.1 member)
  have middle : ∀ c ∈ text.reverse, drop c = false := fun c member =>
    kept c (List.mem_reverse.1 member)
  rw [trimBoth, List.append_assoc, List.dropWhile_append_of_pos dropped]
  cases text with
  | nil =>
      rw [List.nil_append, List.dropWhile_eq_nil_iff.2 dropped']
      rfl
  | cons c text =>
      rw [List.cons_append, List.dropWhile_cons_of_neg (by simp [kept]), ← List.cons_append,
        List.reverse_append, dropWhile_append_of_kept back middle, List.reverse_reverse]

theorem trimBoth_eq_self (kept : ∀ c ∈ text, drop c = false) : trimBoth drop text = text := by
  have whole := trimBoth_append (List.forall_mem_nil fun c => drop c = true) kept
    (List.forall_mem_nil _)
  rwa [List.nil_append, List.append_nil] at whole

end Trimming

/-! ## Numerals -/

/-- A decimal numeral of a number; zeros may stand in front. -/
structure IsNumeral (text : String) (n : Nat) : Prop where
  content : text.toList ≠ []
  digits : ∀ c ∈ text.toList, isAsciiDigit c = true
  value : ofDigits 10 (text.toList.filterMap asciiDigit?) = n

theorem isNumeral_toString (n : Nat) : IsNumeral (toString n) n := by
  have digits : (toString n).toList = Nat.toDigits 10 n := Nat.toList_repr
  refine ⟨?_, ?_, ?_⟩ <;> rw [digits]
  · exact Nat.toDigits_ne_nil
  · exact isAsciiDigit_of_mem_toDigits n
  · exact ofDigits_toDigits n

theorem length_filterMap_asciiDigit? {cs : List Char} (digits : ∀ c ∈ cs, isAsciiDigit c = true) :
    (cs.filterMap asciiDigit?).length = cs.length := by
  rw [List.length_filterMap_eq_countP, List.countP_eq_length]
  exact digits

theorem exists_of_isAsciiDigit {c : Char} (digit : isAsciiDigit c = true) :
    ∃ d, asciiDigit? c = some d ∧ decimalDigit? c = some d ∧ isBlank c = false ∧
      isAsciiBlank c = false ∧ c ≠ '-' ∧ c ≠ '+' ∧ c ≠ '_' := by
  obtain ⟨d, small, rfl⟩ := exists_digitChar_of_isAsciiDigit digit
  have table : ∀ d < 10, isBlank (Nat.digitChar d) = false ∧
      isAsciiBlank (Nat.digitChar d) = false ∧ Nat.digitChar d ≠ '-' ∧ Nat.digitChar d ≠ '+' ∧
        Nat.digitChar d ≠ '_' := by
    decide
  exact ⟨d, asciiDigit?_digitChar small, decimalDigit?_digitChar small, table d small⟩

theorem digitsWithUnderscores_of_digits {cs : List Char} (content : cs ≠ [])
    (digits : ∀ c ∈ cs, isAsciiDigit c = true) :
    digitsWithUnderscores decimalDigit? cs = some (cs.filterMap asciiDigit?) := by
  induction cs with
  | nil => exact absurd rfl content
  | cons c cs ih =>
      obtain ⟨first, others⟩ := List.forall_mem_cons.1 digits
      obtain ⟨d, ascii, decimal, -⟩ := exists_of_isAsciiDigit first
      cases cs with
      | nil => simp [digitsWithUnderscores, ascii, decimal]
      | cons c' cs =>
          obtain ⟨-, -, -, -, -, -, -, plain⟩ :=
            exists_of_isAsciiDigit (others c' List.mem_cons_self)
          rw [digitsWithUnderscores, decimal, ih (List.cons_ne_nil _ _) others,
            List.filterMap_cons_some ascii]
          · rfl
          · exact List.cons_ne_nil c' cs
          · rintro _ same
            exact plain (List.cons.inj same).1

variable {text : String} {n : Nat}

theorem IsNumeral.body (numeral : IsNumeral text n) :
    splitSign (trimNumber text.toList) = (false, text.toList) := by
  have trimmed : trimNumber text.toList = text.toList := by
    apply trimBoth_eq_self
    intro c member
    obtain ⟨-, -, -, plain, plain', -⟩ := exists_of_isAsciiDigit (numeral.digits c member)
    rw [plain, plain', Bool.and_false, Bool.or_false]
  rw [trimmed]
  cases chars : text.toList with
  | nil => exact absurd chars numeral.content
  | cons c cs =>
      have digit := numeral.digits c (by rw [chars]; exact List.mem_cons_self)
      obtain ⟨-, -, -, -, -, minus, plus, -⟩ := exists_of_isAsciiDigit digit
      rw [splitSign]
      · rintro _ same
        exact minus (List.cons.inj same).1
      · rintro _ same
        exact plus (List.cons.inj same).1

theorem readInteger_of_isNumeral (numeral : IsNumeral text n)
    (short : text.toList.length ≤ digitLimit) : readInteger text = .ok n := by
  rw [readInteger, numeral.body]
  simp only [digitsWithUnderscores_of_digits numeral.content numeral.digits,
    length_filterMap_asciiDigit? numeral.digits, if_neg short.not_gt, numeral.value]
  rfl

theorem readInteger_of_long (numeral : IsNumeral text n)
    (long : digitLimit < text.toList.length) :
    readInteger text = .error (.tooManyDigits text.toList.length) := by
  rw [readInteger, numeral.body]
  simp only [digitsWithUnderscores_of_digits numeral.content numeral.digits,
    length_filterMap_asciiDigit? numeral.digits, if_pos long]

/-! ## Other texts -/

theorem digitsWithUnderscores_eq_none {digit? : Char → Option Nat} {cs : List Char} {c : Char}
    (listed : c ∈ cs) (other : digit? c = none) (mark : c ≠ '_') :
    digitsWithUnderscores digit? cs = none := by
  fun_induction digitsWithUnderscores digit? cs with
  | case1 => cases listed
  | case2 c' =>
      obtain rfl := List.mem_singleton.1 listed
      rw [other]
      rfl
  | case3 c' rest ih =>
      rcases List.mem_cons.1 listed with rfl | listed
      · rw [other]
        rfl
      · rw [ih ((List.mem_cons.1 listed).resolve_left mark)]
        cases digit? c' <;> rfl
  | case4 c' rest single marked ih =>
      rcases List.mem_cons.1 listed with rfl | listed
      · rw [other]
        rfl
      · rw [ih listed]
        cases digit? c' <;> rfl

theorem exists_readInteger_eq_error {c : Char} (listed : c ∈ text.toList)
    (other : decimalDigit? c = none) (plain : isBlank c = false ∧ isAsciiBlank c = false)
    (unsigned : c ≠ '-' ∧ c ≠ '+' ∧ c ≠ '_') : ∃ fault, readInteger text = .error fault := by
  have trimmed : c ∈ trimNumber text.toList :=
    mem_trimBoth listed (by rw [plain.1, plain.2, Bool.and_false, Bool.or_false])
  have body : c ∈ (splitSign (trimNumber text.toList)).2 := by
    rw [splitSign.eq_def]
    split
    next rest same =>
        rw [same] at trimmed
        exact (List.mem_cons.1 trimmed).resolve_left unsigned.1
    next rest same =>
        rw [same] at trimmed
        exact (List.mem_cons.1 trimmed).resolve_left unsigned.2.1
    next => exact trimmed
  rw [readInteger]
  simp only [digitsWithUnderscores_eq_none body other unsigned.2.2]
  exact ⟨_, rfl⟩

/-! ## Writing -/

theorem writeInteger_of_short {n : Int} (short : n.natAbs < 10 ^ digitLimit) :
    writeInteger n = .ok (toString n) := by
  rw [writeInteger, Nat.pow_eq, if_neg short.not_ge]

theorem writeInteger_of_long {n : Int} (long : 10 ^ digitLimit ≤ n.natAbs) :
    writeInteger n = .error .tooLongToWrite := by
  rw [writeInteger, Nat.pow_eq, if_pos long]

end Liveness.Text
