import Liveness.Proofs.Outcome
import Liveness.Proofs.Text.Integer
import Liveness.Yaml.Values

namespace Liveness

namespace Yaml

open Relation (ReflTransGen)
open Text (digitLimit)

/-! ## Scalars -/

def Scalar.IsTooLong : Scalar → Prop
  | .integer n => 10 ^ digitLimit ≤ n.natAbs
  | _ => False

def tooLong : Failure := .of .value Text.IntegerFault.tooLongToWrite.message

theorem Scalar.shown_eq_error_iff {x : Scalar} {failure : Failure} :
    x.shown = .error failure ↔ x.IsTooLong ∧ failure = tooLong := by
  cases x
  case integer n =>
    rw [shown, IsTooLong]
    by_cases long : 10 ^ digitLimit ≤ n.natAbs
    · rw [Text.writeInteger_of_long long]
      simp [Except.mapError, long, tooLong, eq_comm]
    · rw [Text.writeInteger_of_short (not_le.1 long)]
      simp [Except.mapError, long]
  all_goals simp [shown, IsTooLong]

theorem Scalar.toText_eq_error_iff {x : Scalar} {failure : Failure} :
    x.toText = .error failure ↔ x.IsTooLong ∧ failure = tooLong := by
  cases x
  case integer n =>
    have same : (integer n).toText = (integer n).shown := rfl
    rw [same, shown_eq_error_iff]
  all_goals simp [toText, shown, IsTooLong]

theorem isOk_iff_of_error {α : Type} {told : Except Failure α} {long : Prop}
    (failed : ∀ failure, told = .error failure ↔ long ∧ failure = tooLong) :
    told.isOk = true ↔ ¬ long := by
  cases told with
  | ok a => simpa [Except.isOk, Except.toBool] using failed tooLong
  | error failure => simpa [Except.isOk, Except.toBool] using ((failed failure).1 rfl).1

theorem Scalar.isOk_shown_iff {x : Scalar} : x.shown.isOk = true ↔ ¬ x.IsTooLong :=
  isOk_iff_of_error fun _ => shown_eq_error_iff

/-! ## Nodes -/

def Value.parts : Value → List Nat
  | .scalar _ | .set _ => []
  | .list items => items
  | .pairs entries => entries.flatMap fun entry => [entry.1, entry.2]
  | .map entries => entries.map Prod.snd

def Value.scalars : Value → List Scalar
  | .scalar x => [x]
  | .list _ | .pairs _ => []
  | .map entries => entries.map Prod.fst
  | .set members => members

namespace Values

variable {v : Values} {n m fuel : Nat} {within : List Nat} {value : Value} {x : Scalar}

def IsPart (v : Values) (n m : Nat) : Prop := ∃ value, v.value? n = some value ∧ m ∈ value.parts

def Holds (v : Values) (n : Nat) (x : Scalar) : Prop :=
  ∃ m value, ReflTransGen v.IsPart n m ∧ v.value? m = some value ∧ x ∈ value.scalars

theorem Holds.here (found : v.value? n = some value) (mem : x ∈ value.scalars) : v.Holds n x :=
  ⟨n, value, .refl, found, mem⟩

theorem Holds.part (found : v.value? n = some value) (mem : m ∈ value.parts)
    (holds : v.Holds m x) : v.Holds n x := by
  obtain ⟨k, other, path, found', mem'⟩ := holds
  exact ⟨k, other, .head ⟨value, found, mem⟩ path, found', mem'⟩

theorem holds_of_shown_eq_error {failure : Failure}
    (failed : v.shown fuel within n = .error failure) :
    failure = tooLong ∧ ∃ x, v.Holds n x ∧ x.IsTooLong := by
  induction fuel generalizing within n failure with
  | zero => cases failed
  | succ fuel ih =>
      have part {value : Value} {m : Nat} {failure : Failure} (found : v.value? n = some value)
          (mem : m ∈ value.parts) (failed : v.shown fuel (n :: within) m = .error failure) :
          failure = tooLong ∧ ∃ x, v.Holds n x ∧ x.IsTooLong := by
        obtain ⟨rfl, x, holds, long⟩ := ih failed
        exact ⟨rfl, x, .part found mem holds, long⟩
      have here {value : Value} {x : Scalar} {failure : Failure} (found : v.value? n = some value)
          (mem : x ∈ value.scalars) (failed : x.shown = .error failure) :
          failure = tooLong ∧ ∃ x, v.Holds n x ∧ x.IsTooLong := by
        obtain ⟨long, rfl⟩ := Scalar.shown_eq_error_iff.1 failed
        exact ⟨rfl, x, .here found mem, long⟩
      unfold shown at failed
      split at failed
      next => cases failed
      next x found => exact here found (List.mem_singleton_self x) failed
      next items found =>
          split at failed
          next => cases failed
          next =>
              obtain ⟨item, mem, failed⟩ :=
                exists_of_mapM_eq_error (bind_pure_eq_error.1 failed)
              exact part found mem failed
      next entries found =>
          split at failed
          next => cases failed
          next =>
              obtain ⟨⟨key, item⟩, mem, failed⟩ :=
                exists_of_mapM_eq_error (bind_pure_eq_error.1 failed)
              rcases bind_eq_error.1 failed with failed | ⟨_, _, failed⟩
              · exact part found (List.mem_flatMap.2 ⟨_, mem, by simp⟩) failed
              · exact part found (List.mem_flatMap.2 ⟨_, mem, by simp⟩)
                  (bind_pure_eq_error.1 failed)
      next entries found =>
          split at failed
          next => cases failed
          next =>
              obtain ⟨⟨key, item⟩, mem, failed⟩ :=
                exists_of_mapM_eq_error (bind_pure_eq_error.1 failed)
              rcases bind_eq_error.1 failed with failed | ⟨_, _, failed⟩
              · exact here found (List.mem_map_of_mem mem) failed
              · exact part found (List.mem_map_of_mem mem) (bind_pure_eq_error.1 failed)
      next members found =>
          split at failed
          next => cases failed
          next =>
              obtain ⟨x, mem, failed⟩ := exists_of_mapM_eq_error (bind_pure_eq_error.1 failed)
              exact here found mem failed

theorem isOk_of_shown (found : v.value? n = some value) (fresh : n ∉ within)
    (ok : (v.shown (fuel + 1) within n).isOk = true) :
    (∀ x ∈ value.scalars, x.shown.isOk = true) ∧
      ∀ m ∈ value.parts, (v.shown fuel (n :: within) m).isOk = true := by
  obtain ⟨text, told⟩ := exists_of_isOk ok
  unfold shown at told
  rw [found] at told
  cases value with
  | scalar x =>
      refine ⟨fun y mem => ?_, fun m mem => absurd mem List.not_mem_nil⟩
      rw [List.mem_singleton.1 mem]
      exact isOk_of_eq_ok told
  | list items =>
      simp only [List.contains_iff_mem, fresh, if_false] at told
      obtain ⟨parts, done, -⟩ := bind_eq_ok.1 told
      exact ⟨fun x mem => absurd mem List.not_mem_nil, isOk_mapM_iff.1 (isOk_of_eq_ok done)⟩
  | pairs entries =>
      simp only [List.contains_iff_mem, fresh, if_false] at told
      obtain ⟨parts, done, -⟩ := bind_eq_ok.1 told
      refine ⟨fun x mem => absurd mem List.not_mem_nil, fun m mem => ?_⟩
      obtain ⟨⟨key, item⟩, listed, mem⟩ := List.mem_flatMap.1 mem
      obtain ⟨part, done⟩ := exists_of_isOk (isOk_mapM_iff.1 (isOk_of_eq_ok done) _ listed)
      obtain ⟨first, told, done⟩ := bind_eq_ok.1 done
      obtain ⟨second, told', -⟩ := bind_eq_ok.1 done
      simp only [List.mem_cons, List.not_mem_nil, or_false] at mem
      rcases mem with rfl | rfl
      · exact isOk_of_eq_ok told
      · exact isOk_of_eq_ok told'
  | map entries =>
      simp only [List.contains_iff_mem, fresh, if_false] at told
      obtain ⟨parts, done, -⟩ := bind_eq_ok.1 told
      have each (entry : Scalar × Nat) (listed : entry ∈ entries) :
          entry.1.shown.isOk = true ∧ (v.shown fuel (n :: within) entry.2).isOk = true := by
        obtain ⟨part, done⟩ := exists_of_isOk (isOk_mapM_iff.1 (isOk_of_eq_ok done) _ listed)
        obtain ⟨first, told, done⟩ := bind_eq_ok.1 done
        obtain ⟨second, told', -⟩ := bind_eq_ok.1 done
        exact ⟨isOk_of_eq_ok told, isOk_of_eq_ok told'⟩
      constructor
      · intro x mem
        obtain ⟨entry, listed, rfl⟩ := List.mem_map.1 mem
        exact (each entry listed).1
      · intro m mem
        obtain ⟨entry, listed, rfl⟩ := List.mem_map.1 mem
        exact (each entry listed).2
  | set members =>
      refine ⟨?_, fun m mem => absurd mem List.not_mem_nil⟩
      dsimp only at told
      split at told
      next none =>
          rw [List.isEmpty_iff.1 none]
          exact List.forall_mem_nil _
      next =>
          obtain ⟨parts, done, -⟩ := bind_eq_ok.1 told
          exact isOk_mapM_iff.1 (isOk_of_eq_ok done)

theorem leave {r : Nat → Nat → Prop} (path : ReflTransGen r n m) :
    m = n ∨ ∃ k, r n k ∧ k ≠ n ∧ ReflTransGen (fun a b => r a b ∧ b ≠ n) k m := by
  induction path with
  | refl => exact .inl rfl
  | @tail a b _ step ih =>
      by_cases back : b = n
      · exact .inl back
      · rcases ih with rfl | ⟨k, first, other, path⟩
        · exact .inr ⟨b, step, back, .refl⟩
        · exact .inr ⟨k, first, other, .tail path ⟨step, back⟩⟩

/-- The nodes that are being told are all different, so that there is fuel for all the others. What
a path leads to that keeps clear of them is told too. -/
theorem isOk_of_path (distinct : within.Nodup) (inside : ∀ k ∈ within, k < v.nodes.size)
    (enough : v.nodes.size < fuel + within.length) (fresh : n ∉ within)
    (ok : (v.shown fuel within n).isOk = true)
    (path : ReflTransGen (fun a b => v.IsPart a b ∧ b ∉ within) n m)
    (found : v.value? m = some value) (mem : x ∈ value.scalars) : x.shown.isOk = true := by
  induction fuel generalizing within n with
  | zero =>
      have few := distinct.length_le_of_subset fun k mem => List.mem_range.2 (inside k mem)
      rw [List.length_range] at few
      omega
  | succ fuel ih =>
      rcases leave path with rfl | ⟨k, ⟨⟨start, foundStart, part⟩, apart⟩, other, path⟩
      · exact (isOk_of_shown found fresh ok).1 x mem
      · have within' : n < v.nodes.size := by
          by_contra outside
          rw [value?, Array.getElem?_eq_none (not_lt.1 outside)] at foundStart
          cases foundStart
        refine ih (List.nodup_cons.2 ⟨fresh, distinct⟩)
          (List.forall_mem_cons.2 ⟨within', inside⟩) ?_ ?_
          ((isOk_of_shown foundStart fresh ok).2 k part) ?_
        · rw [List.length_cons]
          omega
        · rw [List.mem_cons, not_or]
          exact ⟨other, apart⟩
        · refine ReflTransGen.mono (fun a b step => ⟨step.1.1, ?_⟩) _ _ path
          rw [List.mem_cons, not_or]
          exact ⟨step.2, step.1.2⟩

theorem shown_eq_error_iff {failure : Failure} : v.shown v.fuel [] n = .error failure ↔
    (∃ x, v.Holds n x ∧ x.IsTooLong) ∧ failure = tooLong := by
  constructor
  · exact fun failed => (holds_of_shown_eq_error failed).symm
  · rintro ⟨⟨x, ⟨m, value, path, found, mem⟩, long⟩, rfl⟩
    cases told : v.shown v.fuel [] n with
    | error failure => rw [(holds_of_shown_eq_error told).1]
    | ok text =>
        have clear : ReflTransGen (fun a b => v.IsPart a b ∧ b ∉ []) n m :=
          ReflTransGen.mono (fun a b step => ⟨step, List.not_mem_nil⟩) _ _ path
        have ok := isOk_of_path List.nodup_nil (List.forall_mem_nil _) (Nat.lt_succ_self _)
          List.not_mem_nil (isOk_of_eq_ok told) clear found mem
        exact absurd long (Scalar.isOk_shown_iff.1 ok)

/-! ## Items of lists -/

theorem holds_scalar_iff {y : Scalar} (found : v.value? n = some (.scalar y)) :
    v.Holds n x ↔ x = y := by
  constructor
  · rintro ⟨m, value, path, found', mem⟩
    rcases path.cases_head with rfl | ⟨k, ⟨value, found', part⟩, -⟩
    · rw [found] at found'
      cases found'
      exact List.mem_singleton.1 mem
    · rw [found] at found'
      cases found'
      exact absurd part List.not_mem_nil
  · rintro rfl
    exact .here found (List.mem_singleton_self x)

theorem textOf_eq_error_iff {failure : Failure} : v.textOf n = .error failure ↔
    (∃ x, v.Holds n x ∧ x.IsTooLong) ∧ failure = tooLong := by
  unfold textOf
  split
  next y found => simp only [holds_scalar_iff found, Scalar.toText_eq_error_iff, exists_eq_left]
  next => exact shown_eq_error_iff

end Values

def Item.nodes : Item → List Nat
  | .node n => [n]
  | .pair key value => [key, value]

/-- A whole number of too many digits stands somewhere in the item. -/
def Values.IsUntold (v : Values) (item : Item) : Prop :=
  ∃ n ∈ item.nodes, ∃ x, v.Holds n x ∧ x.IsTooLong

theorem Values.itemText_eq_error_iff {v : Values} {item : Item} {failure : Failure} :
    v.itemText item = .error failure ↔ v.IsUntold item ∧ failure = tooLong := by
  cases item with
  | node n =>
      rw [itemText, textOf_eq_error_iff]
      simp [IsUntold, Item.nodes]
  | pair key value =>
      rw [itemText, bind_eq_error]
      simp only [bind_pure_eq_error, shown_eq_error_iff, IsUntold, Item.nodes, List.mem_cons,
        List.not_mem_nil, or_false, exists_eq_or_imp, exists_eq_left]
      constructor
      · rintro (⟨found, rfl⟩ | ⟨_, _, found, rfl⟩)
        · exact ⟨.inl found, rfl⟩
        · exact ⟨.inr found, rfl⟩
      · rintro ⟨found | found, rfl⟩
        · exact .inl ⟨found, rfl⟩
        · cases told : v.shown v.fuel [] key with
          | ok text => exact .inr ⟨text, rfl, found, rfl⟩
          | error failure => exact .inl ⟨(shown_eq_error_iff.1 told).1, rfl⟩

theorem Values.isOk_itemText_iff {v : Values} {item : Item} :
    (v.itemText item).isOk = true ↔ ¬ v.IsUntold item :=
  isOk_iff_of_error fun _ => itemText_eq_error_iff

end Yaml

end Liveness
