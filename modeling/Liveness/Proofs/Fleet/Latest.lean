import Liveness.Proofs.Fleet.Aggregation
import Liveness.Proofs.Fleet.Repeats

namespace Liveness.Fleet

open Store (StatusRecord)

def replayStep (states : String → Option String) (record : StatusRecord) : String → Option String :=
  Function.update states record.name (some record.status)

/-- The states of all names after records that come one by one, the oldest first. -/
def replay (records : List StatusRecord) : String → Option String :=
  records.foldl replayStep fun _ => none

theorem replay_reverse_cons (record : StatusRecord) (older : List StatusRecord) :
    replay (record :: older).reverse = replayStep (replay older.reverse) record := by
  rw [replay, List.reverse_cons, List.foldl_append, replay]
  rfl

theorem lookup_latestStatuses_eq_find? (records : List StatusRecord) (name : String) :
    (latestStatuses records).lookup name =
      (records.find? fun record => record.name = name).map (·.status) := by
  rw [lookup_latestStatuses, List.find?_map, Option.map_map]
  rfl

theorem replay_reverse (records : List StatusRecord) (name : String) :
    replay records.reverse name =
      (records.find? fun record => record.name = name).map (·.status) := by
  induction records with
  | nil => rfl
  | cons record records ih =>
      rw [replay_reverse_cons, replayStep, List.find?_cons]
      by_cases same : record.name = name
      · simp [same]
      · simp [same, Function.update_of_ne (Ne.symm same), ih]

/-! ## Entries in the order of first records -/

theorem isSome_lookup_iff (latest : List (String × String)) (name : String) :
    (latest.lookup name).isSome ↔ name ∈ latest.map Prod.fst := by
  induction latest with
  | nil => simp
  | cons entry latest ih =>
      rw [List.lookup_cons, List.map_cons, List.mem_cons, ← ih]
      by_cases same : name = entry.1
      · simp [same]
      · simp [same, beq_false_of_ne same]

variable {latest : List (String × String)} {record : String × String}

theorem keepFirst_of_mem (known : record.1 ∈ latest.map Prod.fst) :
    keepFirst latest record = latest := by
  rw [keepFirst, if_pos ((isSome_lookup_iff latest record.1).2 known)]

theorem keepFirst_of_notMem (fresh : record.1 ∉ latest.map Prod.fst) :
    keepFirst latest record = latest ++ [record] := by
  rw [keepFirst, if_neg fun known => fresh ((isSome_lookup_iff latest record.1).1 known)]

theorem mem_map_fst_filter (latest : List (String × String)) (keep : String → Bool)
    (name : String) :
    name ∈ (latest.filter fun entry => keep entry.1).map Prod.fst ↔
      name ∈ latest.map Prod.fst ∧ keep name = true := by
  rw [← List.mem_filter, List.filter_map]
  rfl

theorem latestOf_concat (records : List (String × String)) (record : String × String) :
    latestOf (records ++ [record]) = keepFirst (latestOf records) record := by
  rw [latestOf, List.foldl_append]
  rfl

theorem foldl_keepFirst (latest records : List (String × String)) :
    records.foldl keepFirst latest =
      latest ++ (latestOf records).filter fun entry => entry.1 ∉ latest.map Prod.fst := by
  induction records using List.reverseRecOn with
  | nil => simp [latestOf]
  | append_singleton records record ih =>
      rw [List.foldl_append, ih, List.foldl_cons, List.foldl_nil, latestOf_concat]
      by_cases known : record.1 ∈ latest.map Prod.fst
      · rw [keepFirst_of_mem (by simp [known])]
        by_cases again : record.1 ∈ (latestOf records).map Prod.fst
        · rw [keepFirst_of_mem again]
        · rw [keepFirst_of_notMem again, List.filter_append]
          simp [known]
      · have same (entries : List (String × String)) : record.1 ∈ latest.map Prod.fst ++
            (entries.filter fun entry => entry.1 ∉ latest.map Prod.fst).map Prod.fst ↔
              record.1 ∈ entries.map Prod.fst := by
          rw [List.mem_append, mem_map_fst_filter entries fun name => name ∉ latest.map Prod.fst]
          simp [known]
        by_cases again : record.1 ∈ (latestOf records).map Prod.fst
        · rw [keepFirst_of_mem again, keepFirst_of_mem]
          rwa [List.map_append, same]
        · rw [keepFirst_of_notMem again, keepFirst_of_notMem, List.filter_append, List.append_assoc]
          · simp [known]
          · rwa [List.map_append, same]

theorem latestOf_append (records older : List (String × String)) : latestOf (records ++ older) =
    latestOf records ++
      (latestOf older).filter fun entry => entry.1 ∉ (latestOf records).map Prod.fst := by
  rw [← foldl_keepFirst, latestOf, List.foldl_append]
  rfl

theorem latestOf_cons (record : String × String) (records : List (String × String)) :
    latestOf (record :: records) =
      record :: (latestOf records).filter fun entry => entry.1 ≠ record.1 := by
  have first := latestOf_append [record] records
  simpa [latestOf, keepFirst] using first

theorem map_fst_latestOf (records : List (String × String)) :
    (latestOf records).map Prod.fst = firstOnes (records.map Prod.fst) := by
  induction records with
  | nil => rfl
  | cons record records ih =>
      rw [latestOf_cons, List.map_cons, List.map_cons, firstOnes_cons, ← ih, List.filter_map]
      rfl

theorem map_fst_latestStatuses (records : List StatusRecord) :
    (latestStatuses records).map Prod.fst = firstOnes (records.map (·.name)) := by
  rw [latestStatuses, map_fst_latestOf, List.map_map]
  rfl

/-- The latest statuses are those of the first records, in their order; and they are what a replay
of all records ends with. -/
theorem latestStatuses_replay (records : List StatusRecord) :
    (latestStatuses records).map Prod.fst = firstOnes (records.map (·.name)) ∧
      ((latestStatuses records).map Prod.fst).Nodup ∧
      (∀ name, name ∈ (latestStatuses records).map Prod.fst ↔
        ∃ record ∈ records, record.name = name) ∧
      (∀ name, (latestStatuses records).lookup name =
        (records.find? fun record => record.name = name).map (·.status)) ∧
      (∀ name, (latestStatuses records).lookup name = replay records.reverse name) ∧
      ∀ older, latestStatuses (records ++ older) = latestStatuses records ++
        (latestStatuses older).filter fun entry => entry.1 ∉ records.map (·.name) := by
  refine ⟨map_fst_latestStatuses records, ?_, fun name => ?_,
    lookup_latestStatuses_eq_find? records, fun name => ?_, fun older => ?_⟩
  · rw [map_fst_latestStatuses]
    exact nodup_firstOnes _
  · rw [map_fst_latestStatuses, mem_firstOnes, List.mem_map]
  · rw [lookup_latestStatuses_eq_find?, replay_reverse]
  · have keys (name : String) : name ∈ (latestStatuses records).map Prod.fst ↔
        name ∈ records.map (·.name) := by
      rw [map_fst_latestStatuses, mem_firstOnes]
    simp only [← keys]
    rw [latestStatuses, List.map_append, latestOf_append]
    rfl

end Liveness.Fleet
