import Liveness.Console.Terminal
import Mathlib

namespace Liveness.Console

inductive IsPlain : String → Prop
  | text {text : String} (unmarked : '[' ∉ text.toList) : IsPlain text
  | colored {color text : String} (known : color ∈ ["green", "red"])
    (unmarked : '[' ∉ text.toList) : IsPlain (colored color text)

/-- What every console library is documented to do with markup: it shows what has none but colors.
-/
structure Renderer.ShowsPlain (renderer : Renderer) : Prop where
  table : ∀ title headings rows, IsPlain title → (∀ heading ∈ headings, IsPlain heading) →
    (∀ row ∈ rows, ∀ cell ∈ row, IsPlain cell) → (renderer.table title headings rows).isOk = true

namespace Markup

variable {opened : List String} {text inner tail : List Char}

/-! ## Texts of pieces -/

theorem isOk_map {ε α β : Type} (f : α → β) (x : Except ε α) : (x.map f).isOk = x.isOk := by
  cases x <;> rfl

theorem isOk_plain (opened : List String) (text : List Char) (pieces : List Piece) :
    (plainText opened (.plain text :: pieces)).isOk = (plainText opened pieces).isOk :=
  isOk_map _ _

theorem isOk_literal (opened : List String) (text : List Char) (pieces : List Piece) :
    (plainText opened (.literal text :: pieces)).isOk = (plainText opened pieces).isOk :=
  isOk_map _ _

theorem isOk_addPlain (opened : List String) (text : List Char) (pieces : List Piece) :
    (plainText opened (addPlain text pieces)).isOk = (plainText opened pieces).isOk := by
  have alone (pieces : List Piece) :
      (plainText opened (if text.isEmpty then pieces else .plain text :: pieces)).isOk =
        (plainText opened pieces).isOk := by
    split
    next => rfl
    next => exact isOk_plain ..
  match pieces with
  | .plain more :: rest => exact (isOk_plain ..).trans (isOk_plain ..).symm
  | [] => exact alone []
  | .literal more :: rest => exact alone (.literal more :: rest)
  | .tag position tag :: rest => exact alone (.tag position tag :: rest)

/-! ## Colors -/

structure IsColor (color : List Char) : Prop where
  opens : ∀ rest, takeTag? (color ++ ']' :: rest) = some (color, rest)
  named : (tagOf color).name = color
  noSlash : ∀ name, color ≠ '/' :: name
  closes : takeTag? ('/' :: color ++ [']']) = some ('/' :: color, [])
  closing : (tagOf ('/' :: color)).name = '/' :: color
  trimmed : Text.trimBoth Text.isBlank color = color
  content : color ≠ []
  style : Style.normalize color = .ok (String.ofList color)

theorem isColor_of_mem {color : String} (known : color ∈ ["green", "red"]) :
    IsColor color.toList := by
  simp only [List.mem_cons, List.not_mem_nil, or_false] at known
  rcases known with rfl | rfl
  · exact ⟨fun _ => rfl, by decide, nofun, by decide, by decide, by decide, nofun,
      by decide +kernel⟩
  · exact ⟨fun _ => rfl, by decide, nofun, by decide, by decide, by decide, nofun,
      by decide +kernel⟩

variable {color : List Char}

theorem plainText_opening (isColor : IsColor color) (position : Nat) (rest : List Piece) :
    plainText opened (.tag position (tagOf color) :: rest) =
      plainText (String.ofList color :: opened) rest := by
  rw [plainText.eq_def]
  simp only [isColor.named]
  split
  next slash => exact absurd rfl (isColor.noSlash _)
  next => rw [isColor.style]

theorem plainText_closing (isColor : IsColor color) (position : Nat) (rest : List Piece) :
    plainText (String.ofList color :: opened) (.tag position (tagOf ('/' :: color)) :: rest) =
      plainText opened rest := by
  rw [plainText.eq_def]
  simp only [isColor.closing, isColor.trimmed, List.isEmpty_iff, isColor.content, if_false,
    isColor.style, closeStyle?, if_true]

/-! ## Pieces -/

theorem pieces_slashes {slashes : List Char} (all : ∀ c ∈ slashes, c = '\\')
    (opened : List String) (position steps : Nat) :
    (plainText opened (pieces position steps slashes)).isOk := by
  cases steps with
  | zero => rfl
  | succ steps =>
      cases slashes with
      | nil => rfl
      | cons c slashes =>
          have whole : (c :: slashes).takeWhile (· = '\\') = c :: slashes :=
            List.takeWhile_eq_self_iff.2 fun c mem => decide_eq_true (all c mem)
          rw [pieces]
          · simp only [whole, List.drop_length]
            rfl
          · exact List.cons_ne_nil c slashes

section Step

variable {slashes : List Char} {c : Char} (all : ∀ c ∈ slashes, c = '\\') (other : c ≠ '\\')

include all other

theorem takeWhile_slashes : (slashes ++ c :: inner).takeWhile (· = '\\') = slashes := by
  rw [List.takeWhile_append_of_pos fun c mem => decide_eq_true (all c mem),
    List.takeWhile_cons_of_neg (by simpa using other), List.append_nil]

theorem isOk_pieces_plain (position steps : Nat) (opened : List String)
    (untagged : (if c = '[' then takeTag? inner else none) = none) :
    (plainText opened (pieces position (steps + 1) (slashes ++ c :: inner))).isOk =
      (plainText opened (pieces (position + slashes.length + 1) steps inner)).isOk := by
  -- One step over a text: past a character, or past a tag.
  rw [pieces]
  · simp only [takeWhile_slashes all other, List.drop_left, untagged]
    exact isOk_addPlain ..
  · simp

theorem isOk_pieces_tag (position steps : Nat) (opened : List String) {tag after : List Char}
    (tagged : (if c = '[' then takeTag? inner else none) = some (tag, after)) :
    let later := pieces (position + slashes.length + tag.length + 2) steps after
    (plainText opened (pieces position (steps + 1) (slashes ++ c :: inner))).isOk =
      if slashes.length % 2 = 1 then (plainText opened later).isOk
      else (plainText opened (.tag (position + slashes.length) (tagOf tag) :: later)).isOk := by
  rw [pieces]
  · simp only [takeWhile_slashes all other, List.drop_left, tagged]
    split <;> split <;> simp only [List.nil_append, List.singleton_append, isOk_literal]
  · simp

end Step

def Follows (opened : List String) (tail : List Char) : Prop :=
  tail = [] ∨ ∃ color, IsColor color ∧ opened = [String.ofList color] ∧
    tail = '[' :: ('/' :: color ++ [']'])

theorem isOk_pieces (position steps : Nat) (unmarked : '[' ∉ text)
    (follows : Follows opened tail) :
    (plainText opened (pieces position steps (text ++ tail))).isOk := by
  induction steps generalizing position text with
  | zero => rfl
  | succ steps ih =>
      have whole := List.takeWhile_append_dropWhile (p := fun c => decide (c = '\\')) (l := text)
      have all : ∀ c ∈ text.takeWhile (· = '\\'), c = '\\' := fun c mem => by
        simpa using List.mem_takeWhile_imp mem
      have other : ∀ c ∈ (text.dropWhile (· = '\\')).head?, c ≠ '\\' := by
        intro c head
        have stops := List.head?_dropWhile_not (fun c => decide (c = '\\')) text
        rw [Option.mem_def.1 head] at stops
        exact of_decide_eq_false stops
      generalize text.takeWhile (· = '\\') = slashes at whole all
      generalize text.dropWhile (· = '\\') = rest at whole other
      subst whole
      cases rest with
      | nil =>
          rw [List.append_nil]
          rcases follows with rfl | ⟨color, isColor, rfl, rfl⟩
          · rw [List.append_nil]
            exact pieces_slashes all ..
          · have tagged : (if '[' = '[' then takeTag? ('/' :: color ++ [']']) else none) =
                some ('/' :: color, []) := by
              rw [if_pos rfl, isColor.closes]
            rw [isOk_pieces_tag all (by decide) position steps _ tagged]
            split
            next => exact pieces_slashes (List.forall_mem_nil _) ..
            next =>
                rw [plainText_closing isColor]
                exact pieces_slashes (List.forall_mem_nil _) ..
      | cons c inner =>
          have unbracketed : c ≠ '[' := by
            rintro rfl
            exact unmarked (List.mem_append_right _ List.mem_cons_self)
          rw [List.append_assoc, List.cons_append,
            isOk_pieces_plain all (other c rfl) position steps opened (if_neg unbracketed)]
          exact ih _ fun bracket => unmarked (List.mem_append_right _ (.tail _ bracket))

theorem isOk_toPlain_iff (markup : String) : (toPlain markup).isOk =
    (plainText [] (pieces 0 markup.toList.length markup.toList)).isOk :=
  isOk_map _ _

theorem isOk_toPlain {cell : String} (isPlain : IsPlain cell) : (toPlain cell).isOk := by
  rw [isOk_toPlain_iff]
  cases isPlain with
  | text unmarked =>
      have read := isOk_pieces 0 cell.toList.length unmarked (.inl rfl : Follows [] [])
      rwa [List.append_nil] at read
  | @colored color text known unmarked =>
      have isColor := isColor_of_mem known
      have written : (colored color text).toList =
          '[' :: (color.toList ++
            ']' :: (text.toList ++ '[' :: ('/' :: color.toList ++ [']']))) := by
        have same : colored color text = "[" ++ color ++ "]" ++ text ++ "[/" ++ color ++ "]" := rfl
        simp [same, String.toList_append]
      have tagged : (if '[' = '[' then takeTag? (color.toList ++
          ']' :: (text.toList ++ '[' :: ('/' :: color.toList ++ [']']))) else none) =
            some (color.toList, text.toList ++ '[' :: ('/' :: color.toList ++ [']'])) := by
        rw [if_pos rfl, isColor.opens]
      rw [written, List.length_cons,
        ← List.nil_append ('[' :: (color.toList ++ ']' :: _)),
        isOk_pieces_tag (List.forall_mem_nil _) (by decide) 0 _ [] tagged, if_neg (by decide),
        plainText_opening isColor]
      exact isOk_pieces _ _ unmarked (.inr ⟨_, isColor, rfl, rfl⟩)

end Markup

theorem isOk_mapM {α β : Type} {f : α → Except Failure β} {items : List α}
    (each : ∀ item ∈ items, (f item).isOk = true) : (items.mapM f).isOk = true := by
  induction items with
  | nil => rfl
  | cons item items ih =>
      rw [List.forall_mem_cons] at each
      rw [List.mapM_cons]
      cases first : f item with
      | error failure =>
          rw [first] at each
          cases each.1
      | ok value =>
          have rest := ih each.2
          cases others : items.mapM f with
          | error failure =>
              rw [others] at rest
              cases rest
          | ok values => rfl

theorem isOk_plain {cell : String} (isPlain : IsPlain cell) : (plain cell).isOk = true := by
  have read := Markup.isOk_toPlain isPlain
  rw [plain]
  cases shown : Markup.toPlain cell with
  | error fault =>
      rw [shown] at read
      cases read
  | ok text => rfl

/-- The terminal shows plain texts, as every renderer does. -/
theorem terminal_showsPlain (width : Nat) : (terminal width).ShowsPlain where
  table title headings rows _ _ each := by
    have columns : (plainColumns headings.length rows).isOk = true := by
      refine isOk_mapM fun index _ => isOk_mapM fun row listed => isOk_plain ?_
      cases found : row[index]? with
      | none => exact .text (by simp)
      | some cell => exact each row listed cell (List.mem_of_getElem? found)
    cases read : plainColumns headings.length rows with
    | error failure =>
        rw [read] at columns
        cases columns
    | ok cells =>
        simp only [terminal, read]
        rfl

end Liveness.Console
