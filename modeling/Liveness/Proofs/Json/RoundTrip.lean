import Liveness.Proofs.Json.FloatText
import Liveness.Proofs.Json.Strings

/-!
Stored JSON can always be read: `parse_render`. What is read is the value that was written, unless a
float was rounded or a name given twice in one object.
-/

namespace Liveness.Json

open Text (isAsciiDigit)

/-! ## Texts of values -/

section

variable (style : Style)

@[simp]
theorem renderChars_null : Json.null.renderChars style = "null".toList := rfl

@[simp]
theorem renderChars_bool (b : Bool) :
    (Json.bool b).renderChars style = if b then "true".toList else "false".toList := rfl

@[simp]
theorem renderChars_integer (n : Int) :
    (Json.integer n).renderChars style = (toString n).toList := rfl

@[simp]
theorem renderChars_float (x : Numeric.Binary64) :
    (Json.float x).renderChars style = (floatText x).toList := rfl

@[simp]
theorem renderChars_text (s : String) :
    (Json.text s).renderChars style = stringText style.asciiOnly s.toList := rfl

@[simp]
theorem renderChars_array (items : List Json) :
    (Json.array items).renderChars style = '[' :: renderItems style items ++ [']'] := rfl

@[simp]
theorem renderChars_object (members : List (String × Json)) :
    (Json.object members).renderChars style = '\x7b' :: renderMembers style members ++ ['\x7d'] :=
  rfl

end

/-! ## How texts begin -/

def BeginsNumber (text : List Char) : Prop :=
  ∃ d rest, isAsciiDigit d = true ∧ (text = d :: rest ∨ text = '-' :: d :: rest)

theorem beginsNumber_sign (negative : Bool) {whole : List Char} (isWhole : IsWhole whole)
    (rest : List Char) : BeginsNumber (signText negative ++ (whole ++ rest)) := by
  cases whole with
  | nil => exact absurd rfl isWhole.nonempty
  | cons d whole =>
      refine ⟨d, whole ++ rest, isWhole.all d (by simp), ?_⟩
      cases negative
      · exact .inl rfl
      · exact .inr rfl

theorem readWord?_number {text : List Char} (begins : BeginsNumber text) :
    readWord? text = none := by
  obtain ⟨d, rest, digit, rfl | rfl⟩ := begins
  · have other : d ≠ 'n' ∧ d ≠ 't' ∧ d ≠ 'f' ∧ d ≠ 'N' ∧ d ≠ 'I' ∧ d ≠ '-' := by
      refine ⟨?_, ?_, ?_, ?_, ?_, ?_⟩ <;> (rintro rfl; cases digit)
    simp [readWord?, words, afterWord?, other, Ne.symm]
  · have other : d ≠ 'I' := by
      rintro rfl
      cases digit
    simp [readWord?, words, afterWord?, other, Ne.symm]

theorem readValue_plain (steps : Nat) {text : List Char} (quote : text.head? ≠ some '"')
    (brace : text.head? ≠ some '\x7b') (bracket : text.head? ≠ some '[') :
    readValue (steps + 1) text = match readWord? text with
      | some found => .ok found
      | none => readNumber text := by
  apply readValue.eq_5 text steps
  · rintro rest rfl
    exact quote rfl
  · rintro rest rfl
    exact brace rfl
  · rintro rest rfl
    exact bracket rfl

theorem readValue_number (steps : Nat) {text : List Char} (begins : BeginsNumber text) :
    readValue (steps + 1) text = readNumber text := by
  have none := readWord?_number begins
  have first (c : Char) (other : isAsciiDigit c = false) (minus : c ≠ '-') :
      text.head? ≠ some c := by
    obtain ⟨d, rest, digit, rfl | rfl⟩ := begins
    · rintro h
      obtain rfl : d = c := by simpa using h
      rw [digit] at other
      cases other
    · rintro h
      exact minus (by simpa using h.symm)
  rw [readValue_plain steps (first _ rfl (by decide)) (first _ rfl (by decide))
    (first _ rfl (by decide)), none]

def Begins (c : Char) : Prop := isSpace c = false ∧ c ≠ ']' ∧ c ≠ '\ufeff'

instance (c : Char) : Decidable (Begins c) :=
  inferInstanceAs (Decidable (isSpace c = false ∧ c ≠ ']' ∧ c ≠ '\ufeff'))

theorem begins_of_number {text : List Char} (number : BeginsNumber text) :
    ∃ c cs, text = c :: cs ∧ Begins c := by
  obtain ⟨d, rest, digit, rfl | rfl⟩ := number
  · refine ⟨d, rest, rfl, ?_, ?_, ?_⟩
    · simp only [isSpace, decide_eq_false_iff_not]
      rintro (rfl | rfl | rfl | rfl) <;> cases digit
    · rintro rfl
      cases digit
    · rintro rfl
      cases digit
  · exact ⟨'-', _, rfl, by decide⟩

theorem beginsNumber_integer (n : Int) (rest : List Char) :
    BeginsNumber ((toString n).toList ++ rest) := by
  rw [toList_toString, List.append_assoc]
  exact beginsNumber_sign _ (isWhole_toDigits _) rest

theorem beginsNumber_parts (parts : FloatParts) (rest : List Char) :
    BeginsNumber (parts.chars ++ rest) := by
  rw [FloatParts.chars, List.append_assoc, List.append_assoc]
  exact beginsNumber_sign _ parts.isWhole _

theorem renderChars_begins (value : Json) :
    ∃ c cs, value.renderChars Style.stored = c :: cs ∧ Begins c := by
  cases value with
  | null => exact ⟨'n', _, rfl, by decide⟩
  | bool b => cases b <;> exact ⟨_, _, rfl, by decide⟩
  | integer n =>
      rw [renderChars_integer, ← List.append_nil (toString n).toList]
      exact begins_of_number (beginsNumber_integer n [])
  | float x =>
      cases x with
      | finite negative mantissa exponent =>
          obtain ⟨parts, written⟩ := floatText_eq_chars negative mantissa exponent
          rw [renderChars_float, written, ← List.append_nil parts.chars]
          exact begins_of_number (beginsNumber_parts parts [])
      | infinite negative => cases negative <;> exact ⟨_, _, rfl, by decide⟩
      | notANumber => exact ⟨'N', _, rfl, by decide⟩
  | text s => exact ⟨'"', _, rfl, by decide⟩
  | array items => exact ⟨'[', _, rfl, by decide⟩
  | object members => exact ⟨'\x7b', _, rfl, by decide⟩

/-! ## Values without parts -/

def Reads (value found : Json) : Prop :=
  ∀ steps rest, (value.renderChars Style.stored).length ≤ steps → Closes rest →
    readValue steps (value.renderChars Style.stored ++ rest) = .ok (found, rest)

theorem Reads.of_succ {value found : Json} (h : ∀ steps rest, Closes rest →
    readValue (steps + 1) (value.renderChars Style.stored ++ rest) = .ok (found, rest)) :
    Reads value found := by
  intro steps rest enough closes
  obtain ⟨c, cs, text, -⟩ := renderChars_begins value
  rw [text, List.length_cons] at enough
  obtain ⟨steps, rfl⟩ := Nat.exists_eq_add_of_le' (show 1 ≤ steps by omega)
  exact h steps rest closes

theorem reads_null : Reads .null .null := by
  apply Reads.of_succ
  intro steps rest _
  rw [readValue_plain] <;> simp [readWord?, words, afterWord?]

theorem reads_bool (b : Bool) : Reads (.bool b) (.bool b) := by
  apply Reads.of_succ
  intro steps rest _
  cases b <;> rw [readValue_plain] <;> simp [readWord?, words, afterWord?]

theorem reads_integer {n : Int} (short : (integer n).exceedsDigits = false) :
    Reads (.integer n) (.integer n) := by
  rw [exceedsDigits, decide_eq_false_iff_not, Nat.not_le] at short
  -- the bound is far too great to be computed
  have small : n.natAbs < 10 ^ Text.digitLimit := by
    generalize Text.digitLimit = limit at short ⊢
    exact short
  apply Reads.of_succ
  intro steps rest closes
  rw [renderChars_integer, readValue_number steps (beginsNumber_integer n rest),
    readNumber_toString small closes]

theorem reads_text (s : String) : Reads (.text s) (.text s) := by
  apply Reads.of_succ
  intro steps rest _
  rw [renderChars_text, stringText, List.cons_append, List.cons_append, List.append_assoc,
    List.singleton_append, readValue.eq_2]
  change Except.map _ (readString _ (s.toList.flatMap (escapeChar true) ++ '"' :: rest)) = _
  rw [readString_escaped]
  simp [Except.map]

theorem reads_float (x : Numeric.Binary64) : ∃ y, Reads (.float x) (.float y) := by
  cases x with
  | finite negative mantissa exponent =>
      obtain ⟨parts, written⟩ := floatText_eq_chars negative mantissa exponent
      refine ⟨parts.value, Reads.of_succ ?_⟩
      intro steps rest closes
      rw [renderChars_float, written, readValue_number steps (beginsNumber_parts parts rest),
        readNumber_float parts closes]
  | infinite negative =>
      refine ⟨.infinite negative, Reads.of_succ ?_⟩
      intro steps rest _
      cases negative <;> rw [readValue_plain] <;>
        simp [floatText, readWord?, words, afterWord?]
  | notANumber =>
      refine ⟨.notANumber, Reads.of_succ ?_⟩
      intro steps rest _
      rw [readValue_plain] <;> simp [floatText, readWord?, words, afterWord?]

/-! ## Plain values -/

mutual

/-- A value without floats in which no object gives a name twice. -/
def isPlain : Json → Bool
  | float _ => false
  | array items => allPlain items
  | object members => (members.map (·.1)).Nodup && allMembersPlain members
  | _ => true

def allPlain : List Json → Bool
  | [] => true
  | item :: rest => item.isPlain && allPlain rest

def allMembersPlain : List (String × Json) → Bool
  | [] => true
  | (_, value) :: rest => value.isPlain && allMembersPlain rest

end

theorem putMember_fresh {name : String} {done : List (String × Json)}
    (fresh : name ∉ done.map (·.1)) (value : Json) :
    putMember name value done = done ++ [(name, value)] := by
  induction done with
  | nil => rfl
  | cons member done ih =>
      obtain ⟨other, old⟩ := member
      rw [List.map_cons, List.mem_cons, not_or] at fresh
      rw [putMember, if_neg (Ne.symm fresh.1), ih fresh.2, List.cons_append]

def putMembers (members done : List (String × Json)) : List (String × Json) :=
  members.foldl (fun done member => putMember member.1 member.2 done) done

theorem putMembers_fresh {members done : List (String × Json)}
    (distinct : ((done ++ members).map (·.1)).Nodup) :
    putMembers members done = done ++ members := by
  induction members generalizing done with
  | nil => exact (List.append_nil done).symm
  | cons member members ih =>
      have fresh : member.1 ∉ done.map (·.1) := by
        rw [List.map_append, List.map_cons] at distinct
        intro old
        exact (List.nodup_append.1 distinct).2.2 _ old _ (List.mem_cons_self ..) rfl
      rw [putMembers, List.foldl_cons, putMember_fresh fresh]
      change putMembers members (done ++ [member]) = _
      rw [ih (by simpa using distinct), List.append_assoc, List.singleton_append]

/-! ## Values with parts -/

theorem skipSpace_begins {c : Char} (begins : Begins c) (rest : List Char) :
    skipSpace (c :: rest) = c :: rest := by
  simp [skipSpace, begins.1]

theorem skipSpace_value (value : Json) (rest : List Char) :
    skipSpace (value.renderChars Style.stored ++ rest) =
      value.renderChars Style.stored ++ rest := by
  obtain ⟨c, cs, text, begins⟩ := renderChars_begins value
  rw [text, List.cons_append, skipSpace_begins begins]

theorem renderItems_cons (item next : Json) (items : List Json) :
    renderItems Style.stored (item :: next :: items) =
      item.renderChars Style.stored ++ ',' :: ' ' :: renderItems Style.stored (next :: items) := by
  simp [renderItems, Style.stored]

theorem renderItems_begins (item : Json) (items : List Json) :
    ∃ c cs, renderItems Style.stored (item :: items) = c :: cs ∧ Begins c := by
  obtain ⟨c, cs, text, begins⟩ := renderChars_begins item
  cases items with
  | nil => exact ⟨c, cs, by rw [renderItems, text], begins⟩
  | cons next items =>
      rw [renderItems_cons, text, List.cons_append]
      exact ⟨c, _, rfl, begins⟩

theorem renderMember (name : String) (value : Json) :
    renderMembers Style.stored [(name, value)] =
      '"' :: (name.toList.flatMap (escapeChar true) ++
        '"' :: ':' :: ' ' :: value.renderChars Style.stored) := by
  simp [renderMembers, stringText, Style.stored]

theorem renderMembers_cons (member next : String × Json) (members : List (String × Json)) :
    renderMembers Style.stored (member :: next :: members) =
      renderMembers Style.stored [member] ++
        ',' :: ' ' :: renderMembers Style.stored (next :: members) := by
  simp [renderMembers, stringText, Style.stored]

theorem renderMembers_begins (member : String × Json) (members : List (String × Json)) :
    ∃ cs, renderMembers Style.stored (member :: members) = '"' :: cs := by
  obtain ⟨name, value⟩ := member
  cases members with
  | nil => exact ⟨_, renderMember name value⟩
  | cons next members =>
      rw [renderMembers_cons, renderMember]
      exact ⟨_, rfl⟩

theorem skipSpace_closes {rest : List Char} {c : Char} (closes : Closes (c :: rest)) :
    skipSpace (c :: rest) = c :: rest := by
  have plain : isSpace c = false := by
    rcases closes c rfl with rfl | rfl | rfl <;> rfl
  simp [skipSpace, plain]

/-- Items are read behind those already `done`, up to the bracket. -/
def ReadsItems (items found : List Json) : Prop :=
  ∀ steps done rest, (renderItems Style.stored items).length < steps →
    readItems steps done (renderItems Style.stored items ++ ']' :: rest) =
      .ok (.array (done.reverse ++ found), rest)

def ReadsMembers (members found : List (String × Json)) : Prop :=
  ∀ steps done rest, (renderMembers Style.stored members).length < steps →
    readMembers steps done (renderMembers Style.stored members ++ '\x7d' :: rest) =
      .ok (.object (putMembers found done), rest)

theorem readsItems_singleton {item found : Json} (reads : Reads item found) :
    ReadsItems [item] [found] := by
  intro steps done rest enough
  rw [renderItems] at enough ⊢
  obtain ⟨steps, rfl⟩ := Nat.exists_eq_add_of_lt enough
  have closes : Closes (']' :: rest) := by simp [Closes]
  rw [readItems.eq_2, reads _ _ (by omega) closes]
  simp [skipSpace_closes closes]

theorem readsItems_cons {item next found : Json} {items founds : List Json}
    (reads : Reads item found) (tail : ReadsItems (next :: items) founds) :
    ReadsItems (item :: next :: items) (found :: founds) := by
  intro steps done rest enough
  rw [renderItems_cons, List.length_append, List.length_cons, List.length_cons] at enough
  obtain ⟨steps, rfl⟩ := Nat.exists_eq_add_of_lt (Nat.zero_lt_of_lt enough)
  have closes (more : List Char) : Closes (',' :: more) := by simp [Closes]
  have blank (more : List Char) :
      skipSpace (' ' :: (renderItems Style.stored (next :: items) ++ more)) =
        renderItems Style.stored (next :: items) ++ more := by
    obtain ⟨c, cs, text, begins⟩ := renderItems_begins next items
    rw [text, List.cons_append]
    exact skipSpace_begins begins (cs ++ more)
  rw [renderItems_cons, List.append_assoc, List.cons_append, List.cons_append, readItems.eq_2,
    reads _ _ (by omega) (closes _)]
  simp only [skipSpace_closes (closes _), blank]
  rw [tail _ _ _ (by omega), List.reverse_cons, List.append_assoc, List.singleton_append]

theorem reads_array_nil : Reads (.array []) (.array []) := by
  apply Reads.of_succ
  intro steps rest _
  simp [renderItems, readValue, skipSpace, isSpace]

theorem reads_array {item : Json} {items founds : List Json}
    (reads : ReadsItems (item :: items) founds) :
    Reads (.array (item :: items)) (.array founds) := by
  intro steps rest enough _
  rw [renderChars_array, List.cons_append, List.length_cons, List.length_append] at enough
  obtain ⟨steps, rfl⟩ := Nat.exists_eq_add_of_lt (Nat.zero_lt_of_lt enough)
  have inner := reads steps [] rest (by simp at enough; omega)
  obtain ⟨c, cs, text, begins⟩ := renderItems_begins item items
  rw [renderChars_array, List.cons_append, List.cons_append, List.append_assoc,
    List.singleton_append]
  rw [text, List.cons_append] at inner ⊢
  rw [Nat.zero_add, readValue.eq_4, skipSpace_begins begins]
  split
  next more found =>
      rw [List.cons.injEq] at found
      exact absurd found.1 begins.2.1
  next => exact inner

theorem skipSpace_colon (rest : List Char) : skipSpace (':' :: rest) = ':' :: rest := by
  simp [skipSpace, isSpace]

section
variable {value found : Json} (reads : Reads value found) (name : String) {steps : Nat}
  (enough : (value.renderChars Style.stored).length ≤ steps) (done : List (String × Json))
  (rest : List Char)
include reads enough

theorem readMembers_last :
    readMembers (steps + 1) done (renderMembers Style.stored [(name, value)] ++ '\x7d' :: rest) =
      .ok (.object (putMember name found done), rest) := by
  have closes : Closes ('\x7d' :: rest) := by simp [Closes]
  have blank : skipSpace (' ' :: (value.renderChars Style.stored ++ '\x7d' :: rest)) =
      value.renderChars Style.stored ++ '\x7d' :: rest := skipSpace_value value _
  rw [renderMember]
  simp only [List.cons_append, List.append_assoc, readMembers.eq_2, readString_escaped,
    skipSpace_colon, blank, reads steps _ enough closes, String.ofList_toList,
    skipSpace_closes closes]

theorem readMembers_next :
    readMembers (steps + 1) done (renderMembers Style.stored [(name, value)] ++ ',' :: rest) =
      readMembers steps (putMember name found done) (skipSpace rest) := by
  have closes : Closes (',' :: rest) := by simp [Closes]
  have blank : skipSpace (' ' :: (value.renderChars Style.stored ++ ',' :: rest)) =
      value.renderChars Style.stored ++ ',' :: rest := skipSpace_value value _
  rw [renderMember]
  simp only [List.cons_append, List.append_assoc, readMembers.eq_2, readString_escaped,
    skipSpace_colon, blank, reads steps _ enough closes, String.ofList_toList,
    skipSpace_closes closes]

end

theorem readsMembers_singleton {value found : Json} (reads : Reads value found) (name : String) :
    ReadsMembers [(name, value)] [(name, found)] := by
  intro steps done rest enough
  have short : (value.renderChars Style.stored).length + 1 ≤ steps := by
    simp only [renderMember, List.length_cons, List.length_append] at enough
    omega
  obtain ⟨steps, rfl⟩ := Nat.exists_eq_add_of_le' (Nat.le_of_add_left_le short)
  exact readMembers_last reads name (by omega) done rest

theorem readsMembers_cons {value found : Json} {next : String × Json}
    {members founds : List (String × Json)} (reads : Reads value found) (name : String)
    (tail : ReadsMembers (next :: members) founds) :
    ReadsMembers ((name, value) :: next :: members) ((name, found) :: founds) := by
  intro steps done rest enough
  have short : (value.renderChars Style.stored).length +
      (renderMembers Style.stored (next :: members)).length + 1 < steps := by
    simp only [renderMembers_cons, renderMember, List.length_cons, List.length_append] at enough
    omega
  obtain ⟨steps, rfl⟩ := Nat.exists_eq_add_of_lt (Nat.zero_lt_of_lt short)
  have blank (more : List Char) :
      skipSpace (' ' :: (renderMembers Style.stored (next :: members) ++ more)) =
        renderMembers Style.stored (next :: members) ++ more := by
    obtain ⟨cs, text⟩ := renderMembers_begins next members
    rw [text, List.cons_append]
    rfl
  rw [renderMembers_cons, List.append_assoc, List.cons_append, List.cons_append,
    readMembers_next reads name (by omega), blank]
  exact tail _ _ _ (by omega)

theorem reads_object_nil : Reads (.object []) (.object []) := by
  apply Reads.of_succ
  intro steps rest _
  simp [renderMembers, readValue, skipSpace, isSpace]

theorem reads_object {member : String × Json} {members founds : List (String × Json)}
    (reads : ReadsMembers (member :: members) founds) :
    Reads (.object (member :: members)) (.object (putMembers founds [])) := by
  intro steps rest enough _
  rw [renderChars_object, List.cons_append, List.length_cons, List.length_append] at enough
  obtain ⟨steps, rfl⟩ := Nat.exists_eq_add_of_lt (Nat.zero_lt_of_lt enough)
  have inner := reads steps [] rest (by simp at enough; omega)
  obtain ⟨cs, text⟩ := renderMembers_begins member members
  rw [renderChars_object, List.cons_append, List.cons_append, List.append_assoc,
    List.singleton_append]
  rw [text, List.cons_append] at inner ⊢
  rw [Nat.zero_add, readValue.eq_3, skipSpace_begins (by decide)]
  exact inner

/-! ## Any value -/

def IsReadable (value : Json) : Prop :=
  value.exceedsDigits = false →
    ∃ found, Reads value found ∧ (value.isPlain = true → found = value)

def AreReadable (items : List Json) : Prop :=
  items ≠ [] → anyExceeds items = false →
    ∃ founds, ReadsItems items founds ∧ (allPlain items = true → founds = items)

def AreReadableMembers (members : List (String × Json)) : Prop :=
  members ≠ [] → anyMemberExceeds members = false →
    ∃ founds, ReadsMembers members founds ∧ (allMembersPlain members = true → founds = members)

theorem AreReadable.array {items : List Json} (readable : AreReadable items) :
    IsReadable (.array items) := by
  intro short
  rw [exceedsDigits] at short
  cases items with
  | nil => exact ⟨_, reads_array_nil, fun _ => rfl⟩
  | cons item items =>
      obtain ⟨founds, reads, plain⟩ := readable (List.cons_ne_nil _ _) short
      refine ⟨_, reads_array reads, fun all => ?_⟩
      rw [plain all]

theorem AreReadableMembers.object {members : List (String × Json)}
    (readable : AreReadableMembers members) : IsReadable (.object members) := by
  intro short
  rw [exceedsDigits] at short
  cases members with
  | nil => exact ⟨_, reads_object_nil, fun _ => rfl⟩
  | cons member members =>
      obtain ⟨founds, reads, plain⟩ := readable (List.cons_ne_nil _ _) short
      refine ⟨_, reads_object reads, fun all => ?_⟩
      rw [isPlain, Bool.and_eq_true, decide_eq_true_eq] at all
      rw [plain all.2, putMembers_fresh all.1, List.nil_append]

theorem IsReadable.cons {item : Json} {items : List Json} (first : IsReadable item)
    (others : AreReadable items) : AreReadable (item :: items) := by
  intro _ short
  rw [anyExceeds, Bool.or_eq_false_iff] at short
  obtain ⟨found, reads, plain⟩ := first short.1
  cases items with
  | nil =>
      refine ⟨_, readsItems_singleton reads, fun all => ?_⟩
      rw [allPlain, Bool.and_eq_true] at all
      rw [plain all.1]
  | cons next items =>
      obtain ⟨founds, tail, plains⟩ := others (List.cons_ne_nil _ _) short.2
      refine ⟨_, readsItems_cons reads tail, fun all => ?_⟩
      rw [allPlain, Bool.and_eq_true] at all
      rw [plain all.1, plains all.2]

theorem IsReadable.consMember {value : Json} (first : IsReadable value) (name : String)
    {members : List (String × Json)} (others : AreReadableMembers members) :
    AreReadableMembers ((name, value) :: members) := by
  intro _ short
  rw [anyMemberExceeds, Bool.or_eq_false_iff] at short
  obtain ⟨found, reads, plain⟩ := first short.1
  cases members with
  | nil =>
      refine ⟨_, readsMembers_singleton reads name, fun all => ?_⟩
      rw [allMembersPlain, Bool.and_eq_true] at all
      rw [plain all.1]
  | cons next members =>
      obtain ⟨founds, tail, plains⟩ := others (List.cons_ne_nil _ _) short.2
      refine ⟨_, readsMembers_cons reads name tail, fun all => ?_⟩
      rw [allMembersPlain, Bool.and_eq_true] at all
      rw [plain all.1, plains all.2]

mutual

theorem isReadable : ∀ value : Json, IsReadable value
  | .null => fun _ => ⟨_, reads_null, fun _ => rfl⟩
  | .bool b => fun _ => ⟨_, reads_bool b, fun _ => rfl⟩
  | .integer _ => fun short => ⟨_, reads_integer short, fun _ => rfl⟩
  | .float x => fun _ => (reads_float x).elim fun _ reads => ⟨_, reads, nofun⟩
  | .text s => fun _ => ⟨_, reads_text s, fun _ => rfl⟩
  | .array items => (areReadable items).array
  | .object members => (areReadableMembers members).object

theorem areReadable : ∀ items : List Json, AreReadable items
  | [] => fun nonempty => absurd rfl nonempty
  | item :: items => (isReadable item).cons (areReadable items)

theorem areReadableMembers : ∀ members : List (String × Json), AreReadableMembers members
  | [] => fun nonempty => absurd rfl nonempty
  | (name, value) :: members => (isReadable value).consMember name (areReadableMembers members)

end

/-- What was written is read, and read as it was unless it was rounded or named twice. -/
theorem parse_render {value : Json} (short : value.exceedsDigits = false) :
    ∃ found, parse (value.render Style.stored) = .ok found ∧
      (value.isPlain = true → found = value) := by
  obtain ⟨found, reads, plain⟩ := isReadable value short
  refine ⟨found, ?_, plain⟩
  obtain ⟨c, cs, text, begins⟩ := renderChars_begins value
  have whole := reads (2 * (value.renderChars Style.stored).length + 2) [] (by omega)
    (by simp [Closes])
  rw [List.append_nil, text] at whole
  rw [parse, render, String.toList_ofList, text, parseChars]
  · rw [skipSpace_begins begins, whole]
    rfl
  · rintro rest mark
    rw [List.cons.injEq] at mark
    exact begins.2.2 mark.1

end Liveness.Json
