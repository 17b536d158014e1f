import Liveness.Fleet.Registry
import Mathlib

namespace Liveness.Fleet

/-- The names at the places that are chosen, by the name there and those before it. -/
def namesWhere (chosen : String → List String → Bool) (names : List String) : List String :=
  (names.zipIdx.filter fun entry => chosen entry.1 (names.take entry.2)).map Prod.fst

def firstOnes (names : List String) : List String :=
  namesWhere (fun name before => name ∉ before) names

def laterOnes (names : List String) : List String :=
  namesWhere (fun name before => name ∈ before) names

theorem namesWhere_cons (chosen : String → List String → Bool) (name : String)
    (names : List String) : namesWhere chosen (name :: names) =
      (if chosen name [] then [name] else []) ++
        namesWhere (fun other before => chosen other (name :: before)) names := by
  rw [namesWhere, List.zipIdx_cons, List.zipIdx_succ, List.filter_cons, List.filter_map, namesWhere]
  split
  next here => simp_all [Function.comp_def]
  next passed => simp_all [Function.comp_def]

theorem namesWhere_sublist (chosen : String → List String → Bool) (names : List String) :
    (namesWhere chosen names).Sublist names := by
  have places := (List.filter_sublist (l := names.zipIdx)
    (p := fun entry => chosen entry.1 (names.take entry.2))).map Prod.fst
  rwa [List.zipIdx_map_fst] at places

theorem length_namesWhere_add (chosen : String → List String → Bool) (names : List String) :
    (namesWhere chosen names).length +
      (namesWhere (fun name before => !chosen name before) names).length = names.length := by
  have parts := List.length_eq_countP_add_countP (l := names.zipIdx)
    (fun entry => chosen entry.1 (names.take entry.2))
  rw [List.length_zipIdx, List.countP_eq_length_filter, List.countP_eq_length_filter] at parts
  simpa [namesWhere] using parts.symm

theorem splitRepeats_eq (seen names : List String) : splitRepeats seen names =
    (namesWhere (fun name before => name ∉ seen ++ before) names,
      namesWhere (fun name before => name ∈ seen ++ before) names) := by
  induction names generalizing seen with
  | nil => rfl
  | cons name names ih =>
      rw [splitRepeats, namesWhere_cons, namesWhere_cons]
      split
      next known =>
          have same (other : String) (before : List String) :
              other ∈ seen ++ name :: before ↔ other ∈ seen ++ before := by
            simp only [List.mem_append, List.mem_cons]
            exact or_congr_right' fun unseen =>
              or_iff_right fun again => unseen (again ▸ known)
          simp only [ih, same]
          simp [known]
      next fresh =>
          have same (other : String) (before : List String) :
              other ∈ (name :: seen) ++ before ↔ other ∈ seen ++ name :: before := by
            simp only [List.cons_append, List.mem_cons, List.mem_append]
            exact or_left_comm
          simp only [ih, same]
          simp [fresh]

theorem uniqueServices_eq (names : List String) :
    uniqueServices names = (firstOnes names, (laterOnes names).map repeatWarning) := by
  rw [uniqueServices, splitRepeats_eq]
  rfl

/-! ## Names where they stand first -/

theorem filter_namesWhere (chosen : String → List String → Bool) (keep : String → Bool)
    (names : List String) : (namesWhere chosen names).filter keep =
      namesWhere (fun name before => keep name && chosen name before) names := by
  rw [namesWhere, List.filter_map, List.filter_filter, namesWhere]
  rfl

theorem firstOnes_cons (name : String) (names : List String) :
    firstOnes (name :: names) = name :: (firstOnes names).filter (· ≠ name) := by
  rw [firstOnes, namesWhere_cons, firstOnes, filter_namesWhere]
  simp

theorem mem_firstOnes {name : String} {names : List String} :
    name ∈ firstOnes names ↔ name ∈ names := by
  induction names with
  | nil => rfl
  | cons first names ih =>
      rw [firstOnes_cons, List.mem_cons, List.mem_cons, List.mem_filter, ih, decide_eq_true_eq]
      exact or_congr_right' fun other => and_iff_left other

theorem nodup_firstOnes (names : List String) : (firstOnes names).Nodup := by
  induction names with
  | nil => exact List.nodup_nil
  | cons name names ih =>
      rw [firstOnes_cons, List.nodup_cons]
      exact ⟨fun again => by simp at again, ih.filter _⟩

theorem firstOnes_of_nodup {names : List String} (distinct : names.Nodup) :
    firstOnes names = names := by
  have sub : (firstOnes names).Sublist names := namesWhere_sublist _ names
  exact sub.eq_of_length_le (distinct.length_le_of_subset fun name => mem_firstOnes.2)

theorem firstOnes_append (names more : List String) :
    firstOnes (names ++ more) = firstOnes names ++ (firstOnes more).filter (· ∉ names) := by
  induction names with
  | nil => simp [firstOnes, namesWhere]
  | cons name names ih =>
      rw [List.cons_append, firstOnes_cons, ih, List.filter_append, List.filter_filter,
        firstOnes_cons, List.cons_append]
      simp

theorem length_firstOnes_add (names : List String) :
    (firstOnes names).length + (laterOnes names).length = names.length := by
  have parts := length_namesWhere_add (fun name before => name ∉ before) names
  simpa [firstOnes, laterOnes] using parts

theorem laterOnes_of_nodup {names : List String} (distinct : names.Nodup) :
    laterOnes names = [] := by
  have parts := length_firstOnes_add names
  rw [firstOnes_of_nodup distinct] at parts
  exact List.length_eq_zero_iff.1 (Nat.left_eq_add.1 parts.symm)

/-- What is kept, and what is warned of. -/
theorem uniqueServices_places (names : List String) :
    let (kept, warnings) := uniqueServices names
    kept = firstOnes names ∧ kept.Nodup ∧ (∀ name, name ∈ kept ↔ name ∈ names) ∧
      kept.Sublist names ∧ warnings = (laterOnes names).map repeatWarning ∧
      kept.length + warnings.length = names.length ∧ uniqueServices kept = (kept, []) ∧
      ∀ more, (uniqueServices (names ++ more)).1 =
        kept ++ (uniqueServices more).1.filter (· ∉ names) := by
  rw [uniqueServices_eq]
  refine ⟨rfl, nodup_firstOnes names, fun name => mem_firstOnes, namesWhere_sublist _ names, rfl,
    ?_, ?_, fun more => ?_⟩
  · rw [List.length_map]
    exact length_firstOnes_add names
  · rw [uniqueServices_eq, firstOnes_of_nodup (nodup_firstOnes names),
      laterOnes_of_nodup (nodup_firstOnes names), List.map_nil]
  · rw [uniqueServices_eq, uniqueServices_eq]
    exact firstOnes_append names more

example : uniqueServices ["b", "a", "b", "c", "a"] =
    (["b", "a", "c"], [repeatWarning "b", repeatWarning "a"]) := by decide

end Liveness.Fleet
