import Liveness.Proofs.Text.Integer
import Liveness.Reachability.Cache

namespace Liveness.Reachability

open Numeric (Number)
open Text (IsNumeral digitLimit)

structure IsHostName (host : String) : Prop where
  content : host ≠ ""
  colonless : ':' ∉ host.toList
  bare : ∀ c ∈ host.toList, isBracket c = false

structure IsAddress (address : String) : Prop where
  colons : 2 ≤ address.toList.count ':'
  bare : ∀ c ∈ address.toList, isBracket c = false

/-! ## The last colon -/

section Splitting

variable {mark : Char} {before after text : List Char}

theorem splitLast?_append (absent : mark ∉ after) :
    splitLast? mark (before ++ mark :: after) = some (before, after) := by
  have others : ∀ c ∈ after.reverse, decide (c ≠ mark) = true := by
    rintro c member
    rw [decide_eq_true_eq]
    rintro rfl
    exact absent (List.mem_reverse.1 member)
  have reversed : (before ++ mark :: after).reverse = after.reverse ++ mark :: before.reverse := by
    simp
  have back : (after.reverse ++ mark :: before.reverse).dropWhile (· ≠ mark) =
      mark :: before.reverse := by
    rw [List.dropWhile_append_of_pos others, List.dropWhile_cons_of_neg (by simp)]
  have front : (after.reverse ++ mark :: before.reverse).takeWhile (· ≠ mark) = after.reverse := by
    rw [List.takeWhile_append_of_pos others, List.takeWhile_cons_of_neg (by simp), List.append_nil]
  simp only [splitLast?, reversed, back, front, List.reverse_reverse]

theorem splitLast?_eq_none (absent : mark ∉ text) : splitLast? mark text = none := by
  have nothing : text.reverse.dropWhile (· ≠ mark) = [] := by
    rw [List.dropWhile_eq_nil_iff]
    rintro c member
    rw [decide_eq_true_eq]
    rintro rfl
    exact absent (List.mem_reverse.1 member)
  simp only [splitLast?, nothing]

theorem exists_last_of_mem (listed : mark ∈ text) :
    ∃ before after, text = before ++ mark :: after ∧ mark ∉ after := by
  obtain ⟨after, before, split, absent⟩ :=
    List.eq_append_cons_of_mem (List.mem_reverse.2 listed)
  refine ⟨before.reverse, after.reverse, ?_, fun member => absent (List.mem_reverse.1 member)⟩
  rw [← List.reverse_reverse text, split]
  simp

end Splitting

/-! ## Endpoints -/

variable {host address numeral : String} {port : Nat} {timeout : Number}

theorem parseEndpoint_port {text : String} {before after : List Char}
    (endpoint : text.toList = before ++ ':' :: after) (absent : ':' ∉ after) :
    parseEndpoint text = (Text.readInteger (String.ofList after)).map fun number =>
      (String.ofList (Text.trimBoth isBracket before), number) := by
  rw [parseEndpoint, endpoint, splitLast?_append absent]
  rfl

theorem colon_notMem_of_isNumeral (written : IsNumeral numeral port) : ':' ∉ numeral.toList := by
  intro member
  have digit := written.digits ':' member
  revert digit
  decide

theorem parseEndpoint_of_bare (opening closing : List Char) {text : String}
    (written : IsNumeral numeral port) (bare : ∀ c ∈ host.toList, isBracket c = false)
    (opens : ∀ c ∈ opening, isBracket c = true) (closes : ∀ c ∈ closing, isBracket c = true)
    (endpoint : text.toList = opening ++ host.toList ++ closing ++ ':' :: numeral.toList) :
    parseEndpoint text = (Text.readInteger numeral).map fun number => (host, number) := by
  rw [parseEndpoint_port endpoint (colon_notMem_of_isNumeral written),
    Text.trimBoth_append opens bare closes, String.ofList_toList, String.ofList_toList]

theorem parseEndpoint_name (named : IsHostName host) :
    parseEndpoint host = .ok (host, defaultCachePort) := by
  rw [parseEndpoint, splitLast?_eq_none named.colonless]

theorem exists_parseEndpoint_bracketed (addressed : IsAddress address) :
    ∃ fault, parseEndpoint ("[" ++ address ++ "]") = .error fault := by
  have listed : ':' ∈ address.toList :=
    List.count_pos_iff.1 (Nat.lt_of_lt_of_le Nat.zero_lt_two addressed.colons)
  obtain ⟨before, after, split, absent⟩ := exists_last_of_mem listed
  have endpoint : ("[" ++ address ++ "]").toList = '[' :: before ++ ':' :: (after ++ [']']) := by
    simp [String.toList_append, split]
  have absent' : ':' ∉ after ++ [']'] := by simpa using absent
  have bracket : ']' ∈ (String.ofList (after ++ [']'])).toList := by simp
  obtain ⟨fault, unread⟩ := Text.exists_readInteger_eq_error bracket (by decide) (by decide)
    (by decide)
  refine ⟨fault, ?_⟩
  rw [parseEndpoint_port endpoint absent', unread]
  rfl

/-- A host name has the usual port unless it comes with one; an address in brackets must come with
one. A port is read from any decimal numeral of a length that numbers may have. -/
theorem ofEndpoint_written (named : IsHostName host) (addressed : IsAddress address)
    (written : IsNumeral numeral port) (timeout : Number) :
    CacheCheck.ofEndpoint host timeout = .ok ⟨host, 6379, timeout⟩ ∧
    (numeral.toList.length ≤ digitLimit →
      CacheCheck.ofEndpoint (host ++ ":" ++ numeral) timeout = .ok ⟨host, port, timeout⟩ ∧
      CacheCheck.ofEndpoint ("[" ++ address ++ "]:" ++ numeral) timeout =
        .ok ⟨address, port, timeout⟩) ∧
    (digitLimit < numeral.toList.length →
      CacheCheck.ofEndpoint (host ++ ":" ++ numeral) timeout =
        .error (.tooManyDigits numeral.toList.length) ∧
      CacheCheck.ofEndpoint ("[" ++ address ++ "]:" ++ numeral) timeout =
        .error (.tooManyDigits numeral.toList.length)) ∧
    ∃ fault, CacheCheck.ofEndpoint ("[" ++ address ++ "]") timeout = .error fault := by
  have plain : parseEndpoint (host ++ ":" ++ numeral) =
      (Text.readInteger numeral).map fun number => (host, number) :=
    parseEndpoint_of_bare [] [] written named.bare (List.forall_mem_nil _) (List.forall_mem_nil _)
      (by simp [String.toList_append])
  have bracketed : parseEndpoint ("[" ++ address ++ "]:" ++ numeral) =
      (Text.readInteger numeral).map fun number => (address, number) :=
    parseEndpoint_of_bare ['['] [']'] written addressed.bare
      (by simp [isBracket]) (by simp [isBracket]) (by simp [String.toList_append])
  simp only [CacheCheck.ofEndpoint, plain, bracketed, parseEndpoint_name named]
  refine ⟨rfl, fun short => ?_, fun long => ?_, ?_⟩
  · rw [Text.readInteger_of_isNumeral written short]
    exact ⟨rfl, rfl⟩
  · rw [Text.readInteger_of_long written long]
    exact ⟨rfl, rfl⟩
  · obtain ⟨fault, unread⟩ := exists_parseEndpoint_bracketed addressed
    rw [unread]
    exact ⟨fault, rfl⟩

theorem ofEndpoint_written_zoned :
    IsHostName "cache.internal" ∧ IsAddress "fe80::1%eth0" ∧ IsNumeral "06380" 6380 ∧
      CacheCheck.ofEndpoint "cache.internal" (.whole 30) =
        .ok ⟨"cache.internal", 6379, .whole 30⟩ ∧
      CacheCheck.ofEndpoint ("cache.internal:" ++ toString 6380) (.whole 30) =
        .ok ⟨"cache.internal", 6380, .whole 30⟩ ∧
      CacheCheck.ofEndpoint "[fe80::1%eth0]:06380" (.whole 30) =
        .ok ⟨"fe80::1%eth0", 6380, .whole 30⟩ := by
  have named : IsHostName "cache.internal" := ⟨by decide, by decide, by simp [isBracket]⟩
  have addressed : IsAddress "fe80::1%eth0" := ⟨by decide, by simp [isBracket]⟩
  have written : IsNumeral "06380" 6380 :=
    ⟨by decide, by simp [Text.isAsciiDigit, Text.asciiDigit?], by decide⟩
  obtain ⟨alone, ports, -⟩ := ofEndpoint_written named addressed written (.whole 30)
  obtain ⟨-, ports', -⟩ :=
    ofEndpoint_written named addressed (Text.isNumeral_toString 6380) (.whole 30)
  exact ⟨named, addressed, written, alone, (ports' (by decide)).1, (ports (by decide)).2⟩

/-- The loopback address in brackets: the port is looked for in the address. -/
theorem no_check_of_bare_address : IsAddress "::1" ∧
    CacheCheck.ofEndpoint "[::1]" (.whole 30) = .error (.notInteger 10 "1]") ∧
    Text.IntegerFault.message (.notInteger 10 "1]") =
      "invalid literal for int() with base 10: '1]'" := by
  refine ⟨⟨by decide, by simp [isBracket]⟩, ?_, by decide +kernel⟩
  cbv

end Liveness.Reachability
