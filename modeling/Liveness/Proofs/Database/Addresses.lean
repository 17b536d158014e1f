import Liveness.Proofs.Database.Paths
import Liveness.Proofs.Text.Utf8
import Mathlib

/-!
What an address names when a path stands in it as it is (`parseAddress_readOnly`): a text without
`%` escapes, `?` and `#` names the file of that text and keeps the mode that follows it. After two
slashes comes a host, and only this machine may be it (`parseAddress_localhost`,
`exists_parseAddress_refused`).
-/

namespace Liveness.Database

def StartsEscape (text : List Char) : Prop :=
  ∃ a b rest, text = '%' :: a :: b :: rest ∧
    (Text.hexDigit? a).isSome ∧ (Text.hexDigit? b).isSome

/-- A `%` with two hexadecimal digits behind it, anywhere in a text. -/
def HasEscape (text : List Char) : Prop :=
  ∃ a b, ['%', a, b] <:+: text ∧ (Text.hexDigit? a).isSome ∧ (Text.hexDigit? b).isSome

theorem startsEscape_iff {text : List Char} :
    StartsEscape text ↔ text.head? = some '%' ∧ (text[1]?.bind Text.hexDigit?).isSome ∧
      (text[2]?.bind Text.hexDigit?).isSome := by
  constructor
  · rintro ⟨a, b, rest, rfl, high, low⟩
    exact ⟨rfl, high, low⟩
  · rintro ⟨percent, high, low⟩
    match text with
    | [] => exact nomatch percent
    | [_] => exact nomatch high
    | [_, _] => exact nomatch low
    | c :: a :: b :: rest =>
        cases percent
        exact ⟨a, b, rest, rfl, high, low⟩

instance (text : List Char) : Decidable (StartsEscape text) :=
  decidable_of_iff _ startsEscape_iff.symm

theorem hasEscape_iff {text : List Char} :
    HasEscape text ↔ ∃ rest ∈ text.tails, StartsEscape rest := by
  constructor
  · rintro ⟨a, b, ⟨front, back, rfl⟩, high, low⟩
    refine ⟨['%', a, b] ++ back, ?_, a, b, back, rfl, high, low⟩
    rw [List.mem_tails, List.append_assoc]
    exact List.suffix_append _ _
  · rintro ⟨rest, mem, starts⟩
    obtain ⟨a, b, back, rfl, high, low⟩ := starts
    have ahead : ['%', a, b] <+: ['%', a, b] ++ back := List.prefix_append ..
    exact ⟨a, b, ahead.isInfix.trans ((List.mem_tails _ _).1 mem).isInfix, high, low⟩

instance (text : List Char) : Decidable (HasEscape text) :=
  decidable_of_iff _ hasEscape_iff.symm

def verbatim (c : Char) : List AddressToken :=
  if c.toNat < 0x80 then [.mark c] else (Text.utf8Bytes c).map .byte

theorem HasEscape.mono {text larger : List Char} (escape : HasEscape text)
    (inside : text <:+: larger) : HasEscape larger := by
  obtain ⟨a, b, infix', high, low⟩ := escape
  exact ⟨a, b, infix'.trans inside, high, low⟩

theorem tokens_escape {a b : Char} {high low : Nat} (first : Text.hexDigit? a = some high)
    (second : Text.hexDigit? b = some low) (rest : List Char) :
    tokens ('%' :: a :: b :: rest) = .byte (16 * high + low).toUInt8 :: tokens rest := by
  rw [tokens.eq_3, first, second]

theorem tokens_plain {c : Char} {rest : List Char} (noHash : c ≠ '#')
    (plain : ¬ StartsEscape (c :: rest)) : tokens (c :: rest) = verbatim c ++ tokens rest := by
  rw [tokens.eq_def]
  split
  next nil => exact absurd nil (List.cons_ne_nil c rest)
  next hash => exact absurd (List.cons.inj hash).1 noHash
  next a b later percent =>
      obtain ⟨rfl, rfl⟩ := List.cons.inj percent
      split
      next high low first second =>
          exact absurd ⟨a, b, later, rfl, by simp [first], by simp [second]⟩ plain
      next => rfl
  next other =>
      obtain ⟨rfl, rfl⟩ := List.cons.inj other
      simp only [verbatim]
      split <;> rfl

theorem address_induction {motive : List Char → Prop} (nil : motive [])
    (escape : ∀ a b rest high low, Text.hexDigit? a = some high → Text.hexDigit? b = some low →
      motive rest → motive ('%' :: a :: b :: rest))
    (plain : ∀ c rest, ¬ StartsEscape (c :: rest) → motive rest → motive (c :: rest))
    (text : List Char) : motive text := by
  induction h : text.length using Nat.strongRecOn generalizing text with
  | ind n ih =>
      cases text with
      | nil => exact nil
      | cons c rest =>
          by_cases starts : StartsEscape (c :: rest)
          · obtain ⟨a, b, rest', same, high, low⟩ := starts
            obtain ⟨high, first⟩ := Option.isSome_iff_exists.1 high
            obtain ⟨low, second⟩ := Option.isSome_iff_exists.1 low
            rw [same] at h ⊢
            exact escape a b rest' high low first second
              (ih rest'.length (by simp at h; omega) rest' rfl)
          · exact plain c rest starts (ih rest.length (by simp at h; omega) rest rfl)

theorem not_startsEscape_append {c : Char} {text rest : List Char} (noPercent : c ≠ '%')
    (noDigit : Text.hexDigit? c = none) (plain : ¬ StartsEscape text) :
    ¬ StartsEscape (text ++ c :: rest) := by
  have noDigit' : (Text.hexDigit? c).isSome ≠ true := by simp [noDigit]
  rintro ⟨a, b, later, same, high, low⟩
  match text with
  | [] => exact noPercent (List.cons.inj same).1
  | [_] =>
      obtain ⟨-, rfl, -⟩ : _ ∧ c = a ∧ rest = b :: later := by simpa using same
      exact noDigit' high
  | [_, _] =>
      obtain ⟨-, -, rfl, -⟩ : _ ∧ _ ∧ c = b ∧ rest = later := by simpa using same
      exact noDigit' low
  | d :: d' :: d'' :: text =>
      obtain ⟨rfl, rfl, rfl, -⟩ : d = '%' ∧ d' = a ∧ d'' = b ∧ text ++ c :: rest = later := by
        simpa using same
      exact plain ⟨d', d'', text, rfl, high, low⟩

theorem tokens_append {c : Char} {text : List Char} (noPercent : c ≠ '%')
    (noDigit : Text.hexDigit? c = none) (noHash : '#' ∉ text) (rest : List Char) :
    tokens (text ++ c :: rest) = tokens text ++ tokens (c :: rest) := by
  induction text using address_induction with
  | nil => rfl
  | escape a b text high low first second ih =>
      rw [tokens_escape first second, List.cons_append, List.cons_append, List.cons_append,
        tokens_escape first second, ih (by simp_all), List.cons_append]
  | plain d text plain ih =>
      rw [List.mem_cons, not_or] at noHash
      have other : d ≠ '#' := Ne.symm noHash.1
      have plain' : ¬ StartsEscape (d :: text ++ c :: rest) :=
        not_startsEscape_append noPercent noDigit plain
      rw [List.cons_append] at plain' ⊢
      rw [tokens_plain other plain, tokens_plain other plain', ih noHash.2, List.append_assoc]

theorem mark_notMem_verbatim {mark c : Char} (other : c ≠ mark) : .mark mark ∉ verbatim c := by
  rw [verbatim]
  split
  next => simpa using Ne.symm other
  next => simp

theorem mark_notMem_tokens {mark : Char} {text : List Char} (noHash : '#' ∉ text)
    (absent : mark ∉ text) : .mark mark ∉ tokens text := by
  induction text using address_induction with
  | nil => exact List.not_mem_nil
  | escape a b text high low first second ih =>
      rw [tokens_escape first second, List.mem_cons, not_or]
      exact ⟨AddressToken.noConfusion, ih (by simp_all) (by simp_all)⟩
  | plain c text plain ih =>
      rw [List.mem_cons, not_or] at noHash absent
      rw [tokens_plain (Ne.symm noHash.1) plain, List.mem_append, not_or]
      exact ⟨mark_notMem_verbatim (Ne.symm absent.1), ih noHash.2 absent.2⟩

theorem tokens_eq_flatMap {text : List Char} (noHash : '#' ∉ text) (plain : ¬ HasEscape text) :
    tokens text = text.flatMap verbatim := by
  induction text with
  | nil => rfl
  | cons c text ih =>
      rw [List.mem_cons, not_or] at noHash
      rw [tokens_plain (Ne.symm noHash.1) fun starts =>
          plain (hasEscape_iff.2 ⟨_, (List.mem_tails _ _).2 List.suffix_rfl, starts⟩),
        ih noHash.2 fun escape => plain (escape.mono (List.suffix_cons c text).isInfix),
        List.flatMap_cons]

def AddressToken.toByte : AddressToken → UInt8
  | .byte b => b
  | .mark c => c.toNat.toUInt8

theorem map_toByte_verbatim (c : Char) :
    (verbatim c).map AddressToken.toByte = Text.utf8Bytes c := by
  rw [verbatim]
  split
  next ascii =>
      rw [List.map_singleton, Text.utf8Bytes]
      simp only [ascii, if_true, AddressToken.toByte]
  next =>
      rw [List.map_map]
      exact List.map_id _

theorem partBytes_verbatim {text : List Char} (noZero : '\x00' ∉ text) :
    partBytes (text.flatMap verbatim) = Text.utf8Encode text := by
  have bytes : (text.flatMap verbatim).map AddressToken.toByte = Text.utf8Encode text := by
    rw [List.map_flatMap, Text.utf8Encode]
    simp only [map_toByte_verbatim]
  have nonzero : ∀ b ∈ Text.utf8Encode text, b ≠ 0 := by
    rintro b mem rfl
    obtain ⟨c, inText, mem⟩ := List.mem_flatMap.1 mem
    exact Text.zero_notMem_utf8Bytes (fun zero => noZero (zero ▸ inText)) mem
  change ((text.flatMap verbatim).map AddressToken.toByte).takeWhile (· ≠ 0) = _
  rw [bytes]
  exact List.takeWhile_eq_self_iff.2 fun b mem => by simpa using nonzero b mem

theorem cut_eq_of_notMem {mark : Char} {ts rest : List AddressToken}
    (absent : .mark mark ∉ ts) : cut mark (ts ++ .mark mark :: rest) = (ts, rest) := by
  have before : ∀ t ∈ ts, decide (t ≠ .mark mark) = true := fun t mem =>
    decide_eq_true fun same => absent (same ▸ mem)
  rw [cut, List.span_eq_takeWhile_dropWhile, List.takeWhile_append_of_pos before,
    List.dropWhile_append_of_pos before, List.takeWhile_cons_of_neg (by simp),
    List.dropWhile_cons_of_neg (by simp), List.append_nil]
  rfl

def readOnlyOption : List Char := ['m', 'o', 'd', 'e', '=', 'r', 'o']

theorem options_readOnlyOption : options (tokens readOnlyOption) = [("mode", "ro")] := by
  decide +kernel

/-- An address without a host: the file is named before the `?`, and the mode chosen behind it. -/
theorem parseAddress_eq {text : List Char} (noHost : ¬ ['/', '/'] <+: text)
    {file query : List AddressToken} (parts : cut '?' (tokens text) = (file, query))
    {mode : AccessMode} (chosen : modeOf .create (options query) = .ok mode)
    (noVfs : ∀ option ∈ options query, option.1 ≠ "vfs") :
    parseAddress text = (Text.utf8Decode? (partBytes file)).elim (.error .unableToOpen)
      fun name => .ok ⟨name, mode⟩ := by
  have noVfs' : (options query).reverse.find? (fun option => option.1 = "vfs") = none :=
    List.find?_eq_none.2 fun option mem => by simpa using noVfs option (List.mem_reverse.1 mem)
  rw [parseAddress]
  · simp only [bind, Except.bind, pure, Except.pure, parts, chosen, noVfs']
    cases Text.utf8Decode? (partBytes file) <;> rfl
  · rintro rest rfl
    exact noHost (List.prefix_append ['/', '/'] rest)

theorem tokens_question (rest : List Char) : tokens ('?' :: rest) = .mark '?' :: tokens rest := by
  refine tokens_plain (by decide) ?_
  rintro ⟨a, b, later, same, -⟩
  exact absurd (List.cons.inj same).1 (by decide)

theorem not_host {text rest : List Char} {c : Char} (noHost : ¬ ['/', '/'] <+: text)
    (other : c ≠ '/') : ¬ ['/', '/'] <+: text ++ c :: rest := by
  intro host
  match text with
  | [] => exact other (List.cons_prefix_cons.1 host).1.symm
  | [_] => exact other (List.cons_prefix_cons.1 (List.cons_prefix_cons.1 host).2).1.symm
  | d :: e :: text =>
      obtain ⟨rfl, second⟩ := List.cons_prefix_cons.1 host
      obtain ⟨rfl, -⟩ := List.cons_prefix_cons.1 second
      exact noHost (List.prefix_append ['/', '/'] text)

theorem parseAddress_readOnly {text : List Char} (noHost : ¬ ['/', '/'] <+: text)
    (noHash : '#' ∉ text) (noQuestion : '?' ∉ text) :
    parseAddress (text ++ '?' :: readOnlyOption) =
      (Text.utf8Decode? (partBytes (tokens text))).elim (.error .unableToOpen)
        fun name => .ok ⟨name, .readOnly⟩ := by
  have parts : cut '?' (tokens (text ++ '?' :: readOnlyOption)) =
      (tokens text, tokens readOnlyOption) := by
    rw [tokens_append (by decide) (by decide) noHash, tokens_question]
    exact cut_eq_of_notMem (mark_notMem_tokens noHash noQuestion)
  refine parseAddress_eq (not_host noHost (by decide)) parts ?chosen ?noVfs
  case chosen =>
      rw [options_readOnlyOption]
      rfl
  case noVfs =>
      rw [options_readOnlyOption]
      decide

theorem parseAddress_verbatim {text : List Char} (noHost : ¬ ['/', '/'] <+: text)
    (noZero : '\x00' ∉ text) (noHash : '#' ∉ text) (noQuestion : '?' ∉ text)
    (noEscape : ¬ HasEscape text) :
    parseAddress (text ++ '?' :: readOnlyOption) = .ok ⟨text, .readOnly⟩ := by
  rw [parseAddress_readOnly noHost noHash noQuestion, tokens_eq_flatMap noHash noEscape,
    partBytes_verbatim noZero, Text.utf8Decode?_utf8Encode]
  rfl

/-! ## Addresses with a host -/

def IsLocal (host : List Char) : Prop := host = [] ∨ host = "localhost".toList

instance (host : List Char) : Decidable (IsLocal host) :=
  inferInstanceAs (Decidable (_ ∨ _))

theorem span_host {host rest : List Char} (whole : '/' ∉ host)
    (ends : rest = [] ∨ rest.head? = some '/') : (host ++ rest).takeWhile (· ≠ '/') = host ∧
      (host ++ rest).dropWhile (· ≠ '/') = rest := by
  have before : ∀ c ∈ host, decide (c ≠ '/') = true := fun c mem =>
    decide_eq_true fun same => whole (same ▸ mem)
  rw [List.takeWhile_append_of_pos before, List.dropWhile_append_of_pos before]
  rcases ends with rfl | slash
  · exact ⟨List.append_nil host, rfl⟩
  · obtain ⟨after, rfl⟩ := List.head?_eq_some_iff.1 slash
    rw [List.takeWhile_cons_of_neg (by simp), List.dropWhile_cons_of_neg (by simp)]
    exact ⟨List.append_nil host, rfl⟩

theorem parseAddress_localHost {host rest : List Char} (whole : '/' ∉ host) (isLocal : IsLocal host)
    (noHost : ¬ ['/', '/'] <+: '/' :: rest) :
    parseAddress ('/' :: '/' :: (host ++ '/' :: rest)) = parseAddress ('/' :: rest) := by
  obtain ⟨named, left⟩ := span_host whole (.inr rfl : '/' :: rest = [] ∨ _)
  have allowed : host.isEmpty = true ∨ host = "localhost".toList := by
    rwa [List.isEmpty_iff]
  rw [parseAddress, parseAddress]
  · simp only [named, left, if_pos allowed]
  · rintro after same
    exact noHost (same ▸ List.prefix_append ['/', '/'] after)

theorem parseAddress_otherHost {host rest : List Char} (whole : '/' ∉ host) (other : ¬ IsLocal host)
    (ends : rest = [] ∨ rest.head? = some '/') :
    parseAddress ('/' :: '/' :: (host ++ rest)) = .error (.badAuthority (String.ofList host)) := by
  have refused : ¬ (host.isEmpty = true ∨ host = "localhost".toList) := by
    rwa [List.isEmpty_iff]
  rw [parseAddress]
  simp only [(span_host whole ends).1, if_neg refused]
  rfl

/-- A host with nothing but options behind it takes these for a part of its name. -/
theorem exists_parseAddress_hostOnly {host : List Char} (whole : '/' ∉ host) : ∃ name,
    parseAddress ('/' :: '/' :: (host ++ '?' :: readOnlyOption)) = .error (.badAuthority name) := by
  have whole' : '/' ∉ host ++ '?' :: readOnlyOption := by
    rw [List.mem_append, not_or]
    exact ⟨whole, by decide⟩
  have other : ¬ IsLocal (host ++ '?' :: readOnlyOption) := by
    rintro (none | same)
    · exact List.cons_ne_nil _ _ (List.append_eq_nil_iff.1 none).2
    · have question : '?' ∈ "localhost".toList :=
        same ▸ List.mem_append_right host List.mem_cons_self
      exact absurd question (by decide)
  have refused := parseAddress_otherHost whole' other (.inl rfl)
  rw [List.append_nil] at refused
  exact ⟨_, refused⟩

variable {path : String}

theorem parseAddress_localhost (host : NamesHost path.toList) {rest : List (List Char)}
    (some : rest ≠ []) (parts : cleanParts path.toList = "localhost".toList :: rest) :
    parseAddress ((cleanPath path).toList ++ '?' :: readOnlyOption) =
      parseAddress ('/' :: ['/'].intercalate rest ++ '?' :: readOnlyOption) := by
  have clean := areClean_cleanParts path.toList
  rw [parts] at clean
  obtain ⟨⟨-, whole⟩, tail⟩ := List.forall_mem_cons.1 clean
  have noHost : ¬ ['/', '/'] <+: '/' :: ['/'].intercalate rest ++ '?' :: readOnlyOption :=
    not_host (not_prefix_rooted (isRelative_intercalate tail)) (by decide)
  obtain ⟨second, later, rfl⟩ := List.exists_cons_of_ne_nil some
  rw [host.toList_cleanPath, parts, List.intercalate_cons_cons, List.cons_append, List.cons_append,
    List.append_assoc, List.append_assoc, List.singleton_append]
  exact parseAddress_localHost whole (.inr rfl) noHost

theorem exists_parseAddress_refused (host : NamesHost path.toList)
    (other : ∀ rest, rest ≠ [] → cleanParts path.toList ≠ "localhost".toList :: rest) : ∃ name,
    parseAddress ((cleanPath path).toList ++ '?' :: readOnlyOption) =
      .error (.badAuthority name) := by
  have clean := areClean_cleanParts path.toList
  rw [host.toList_cleanPath]
  match parts : cleanParts path.toList with
  | [] => exact exists_parseAddress_hostOnly List.not_mem_nil
  | [first] =>
      rw [parts] at clean
      rw [List.intercalate_singleton]
      exact exists_parseAddress_hostOnly (clean first List.mem_cons_self).2
  | first :: second :: rest =>
      rw [parts] at clean
      obtain ⟨⟨content, -⟩, whole⟩ := clean first List.mem_cons_self
      have foreign : ¬ IsLocal first := by
        rintro (none | same)
        · exact content none
        · exact other (second :: rest) (List.cons_ne_nil _ _) (parts.trans (same ▸ rfl))
      rw [List.intercalate_cons_cons, List.cons_append, List.cons_append, List.append_assoc,
        List.append_assoc, List.singleton_append]
      exact ⟨_, parseAddress_otherHost whole foreign (.inr rfl)⟩

theorem mode_of_parseAddress (noHash : '#' ∉ path.toList)
    (noQuestion : '?' ∉ path.toList) {address : Address}
    (named : parseAddress ((cleanPath path).toList ++ '?' :: readOnlyOption) = .ok address) :
    address.mode = .readOnly := by
  have noHash' := notMem_cleanPath (by decide) (by decide) noHash
  have noQuestion' := notMem_cleanPath (by decide) (by decide) noQuestion
  have readOnly {text : List Char} (noHost : ¬ ['/', '/'] <+: text)
      (inside : text ⊆ (cleanPath path).toList)
      (named : parseAddress (text ++ '?' :: readOnlyOption) = .ok address) :
      address.mode = .readOnly := by
    rw [parseAddress_readOnly noHost (fun mem => noHash' (inside mem))
      fun mem => noQuestion' (inside mem)] at named
    cases decoded : Text.utf8Decode? (partBytes (tokens text)) with
    | none =>
        rw [decoded] at named
        cases named
    | some name =>
        rw [decoded] at named
        cases named
        rfl
  by_cases host : NamesHost path.toList
  · by_cases home : ∃ rest, rest ≠ [] ∧ cleanParts path.toList = "localhost".toList :: rest
    · obtain ⟨rest, some, parts⟩ := home
      have clean := areClean_cleanParts path.toList
      rw [parts] at clean
      rw [parseAddress_localhost host some parts] at named
      refine readOnly (not_prefix_rooted (isRelative_intercalate (List.forall_mem_cons.1 clean).2))
        ?_ named
      obtain ⟨second, later, rfl⟩ := List.exists_cons_of_ne_nil some
      rw [host.toList_cleanPath, parts, List.intercalate_cons_cons, List.append_assoc]
      exact fun c mem => List.mem_cons_of_mem _ (List.mem_cons_of_mem _
        (List.mem_append_right _ mem))
    · obtain ⟨name, refused⟩ := exists_parseAddress_refused host fun rest some parts =>
        home ⟨rest, some, parts⟩
      rw [refused] at named
      cases named
  · exact readOnly (not_prefix_cleanPath host) (List.Subset.refl _) named

end Liveness.Database
