import Liveness.Proofs.Store.Log

namespace Liveness.Store

theorem key_le_key_iff {α : Type} {key : α → Nat} {entries : List α}
    (increasing : entries.Pairwise fun a b => key a < key b) {a b : α × Nat}
    (ha : a ∈ entries.zipIdx) (hb : b ∈ entries.zipIdx) : key b.1 ≤ key a.1 ↔ b.2 ≤ a.2 := by
  obtain ⟨a, i⟩ := a
  obtain ⟨b, j⟩ := b
  obtain ⟨hi, rfl⟩ := List.getElem?_eq_some_iff.1 (List.mk_mem_zipIdx_iff_getElem?.1 ha)
  obtain ⟨hj, rfl⟩ := List.getElem?_eq_some_iff.1 (List.mk_mem_zipIdx_iff_getElem?.1 hb)
  rw [List.pairwise_iff_getElem] at increasing
  rcases Nat.lt_trichotomy i j with before | rfl | behind
  · have := increasing i j hi hj before
    simp only
    omega
  · simp
  · have := increasing j i hj hi behind
    simp only
    omega

namespace Log

open Time (Instant)

theorem newerFirst_iff {a b : Posting × Nat} : newerFirst a b = true ↔
    b.1.instant.micros < a.1.instant.micros ∨ b.1.instant = a.1.instant ∧ b.2 ≤ a.2 := by
  simp [newerFirst]

theorem newerFirst_total (a b : Posting × Nat) : (newerFirst a b || newerFirst b a) = true := by
  rw [Bool.or_eq_true, newerFirst_iff, newerFirst_iff]
  rcases Int.lt_trichotomy a.1.instant.micros b.1.instant.micros with before | same | behind
  · exact .inr (.inl before)
  · have instant : a.1.instant = b.1.instant := Instant.ext same
    rcases Nat.le_total b.2 a.2 with le | le
    · exact .inl (.inr ⟨instant.symm, le⟩)
    · exact .inr (.inr ⟨instant, le⟩)
  · exact .inl (.inl behind)

theorem newerFirst_trans (a b c : Posting × Nat) (ab : newerFirst a b = true)
    (bc : newerFirst b c = true) : newerFirst a c = true := by
  rw [newerFirst_iff] at *
  rcases ab with ab | ⟨same, ab⟩
  · rcases bc with bc | ⟨same, -⟩
    · exact .inl (bc.trans ab)
    · exact .inl (same ▸ ab)
  · rcases bc with bc | ⟨same', bc⟩
    · exact .inl (same ▸ bc)
    · exact .inr ⟨same'.trans same, bc.trans ab⟩

theorem newerFirst_antisymm {a b : Posting × Nat} (ab : newerFirst a b = true)
    (ba : newerFirst b a = true) : a.2 = b.2 := by
  rw [newerFirst_iff] at ab ba
  rcases ab with ab | ⟨same, ab⟩
  · rcases ba with ba | ⟨same, -⟩
    · omega
    · rw [same] at ab
      omega
  · rcases ba with ba | ⟨-, ba⟩
    · rw [same] at ba
      omega
    · omega

/-- Of the postings of some kind, the one with the latest time, and at one time the last. -/
def IsNewest (log : Log) (kind : Posting → Prop) (posting : Posting) : Prop :=
  kind posting ∧ ∃ place, (posting, place) ∈ log.zipIdx ∧
    ∀ other ∈ log.zipIdx, kind other.1 → newerFirst (posting, place) other = true

variable {log : Log} {kind : Posting → Prop} {since : Instant} {posting : Posting}

theorem IsNewest.mem (newest : log.IsNewest kind posting) : posting ∈ log := by
  obtain ⟨-, place, member, -⟩ := newest
  exact List.mem_of_getElem? (List.mk_mem_zipIdx_iff_getElem?.1 member)

theorem IsNewest.unique {other : Posting} (newest : log.IsNewest kind posting)
    (newest' : log.IsNewest kind other) : posting = other := by
  obtain ⟨isKind, place, member, first⟩ := newest
  obtain ⟨isKind', place', member', first'⟩ := newest'
  have places : place = place' :=
    newerFirst_antisymm (first _ member' isKind') (first' _ member isKind)
  subst places
  have found := List.mk_mem_zipIdx_iff_getElem?.1 member
  rw [List.mk_mem_zipIdx_iff_getElem?.1 member'] at found
  exact (Option.some.inj found).symm

theorem IsNewest.of_recent
    (newest : log.IsNewest (fun p => kind p ∧ since.micros < p.instant.micros) posting) :
    log.IsNewest kind posting := by
  obtain ⟨⟨isKind, recent⟩, place, member, first⟩ := newest
  refine ⟨isKind, place, member, fun other member' isKind' => ?_⟩
  by_cases recent' : since.micros < other.1.instant.micros
  · exact first other member' ⟨isKind', recent'⟩
  · rw [newerFirst_iff]
    left
    simp only
    omega

theorem mem_recent : posting ∈ log.recent since ↔
    posting ∈ log ∧ since.micros < posting.instant.micros := by
  simp only [recent, List.mem_map, List.mem_mergeSort, List.mem_filter, decide_eq_true_eq]
  constructor
  · rintro ⟨entry, ⟨member, later⟩, rfl⟩
    exact ⟨List.mem_of_getElem? (List.mem_zipIdx_iff_getElem?.1 member), later⟩
  · rintro ⟨member, later⟩
    obtain ⟨place, found⟩ := List.mem_iff_getElem?.1 member
    exact ⟨(posting, place), ⟨List.mk_mem_zipIdx_iff_getElem?.2 found, later⟩, rfl⟩

theorem isNewest_of_find? [DecidablePred kind]
    (found : (log.recent since).find? (fun p => kind p) = some posting) :
    log.IsNewest (fun p => kind p ∧ since.micros < p.instant.micros) posting := by
  rw [recent, List.find?_map, Option.map_eq_some_iff] at found
  obtain ⟨⟨posting, place⟩, found, rfl⟩ := found
  have sorted := List.pairwise_mergeSort newerFirst_trans newerFirst_total
    (log.zipIdx.filter fun entry => since.micros < entry.1.instant.micros)
  have member := List.mem_of_find?_eq_some found
  obtain ⟨isKind, before, behind, split, others⟩ := List.find?_eq_some_iff_append.1 found
  rw [List.mem_mergeSort, List.mem_filter, decide_eq_true_eq] at member
  simp only [Function.comp_apply, decide_eq_true_eq] at isKind
  refine ⟨⟨isKind, member.2⟩, place, member.1, fun other member' isKind' => ?_⟩
  have listed : other ∈ before ++ (posting, place) :: behind := by
    rw [← split, List.mem_mergeSort, List.mem_filter, decide_eq_true_eq]
    exact ⟨member', isKind'.2⟩
  rw [split, List.pairwise_append, List.pairwise_cons] at sorted
  rcases List.mem_append.1 listed with earlier | later
  · have notKind := others other earlier
    simp [isKind'.1] at notKind
  · rcases List.mem_cons.1 later with rfl | later
    · simpa using newerFirst_total (posting, place) (posting, place)
    · exact sorted.2.1.1 other later

theorem isNewest_of_getLast? [DecidablePred kind]
    (ordered : (log.filter fun p => kind p).Pairwise fun a b =>
      a.instant.micros ≤ b.instant.micros)
    (last : (log.filter fun p => kind p).getLast? = some posting) : log.IsNewest kind posting := by
  rw [List.getLast?_eq_head?_reverse, ← List.filter_reverse, List.head?_filter] at last
  obtain ⟨isKind, behind, before, split, others⟩ := List.find?_eq_some_iff_append.1 last
  have parts : log = before.reverse ++ posting :: behind.reverse := by
    rw [← List.reverse_reverse log, split]
    simp
  have grows : ∀ other ∈ before.reverse, kind other →
      other.instant.micros ≤ posting.instant.micros := by
    intro other member isKind'
    rw [parts, List.filter_append, List.filter_cons, if_pos isKind, List.pairwise_append] at ordered
    exact ordered.2.2 other (List.mem_filter.2 ⟨member, decide_eq_true isKind'⟩) posting
      (List.mem_cons_self ..)
  refine ⟨of_decide_eq_true isKind, before.length, ?_, fun ⟨other, place⟩ member isKind' => ?_⟩
  · rw [List.mk_mem_zipIdx_iff_getElem?, parts]
    simp
  · rw [List.mk_mem_zipIdx_iff_getElem?, parts] at member
    rw [newerFirst_iff]
    rcases Nat.lt_trichotomy place before.length with earlier | rfl | later
    · rw [List.getElem?_append_left (by simpa using earlier)] at member
      rcases (grows other (List.mem_of_getElem? member) isKind').lt_or_eq with less | same
      · exact .inl less
      · exact .inr ⟨Instant.ext same, earlier.le⟩
    · rw [List.getElem?_append_right (by simp)] at member
      simp only [List.length_reverse, Nat.sub_self, List.getElem?_cons_zero] at member
      obtain rfl := Option.some.inj member
      exact .inr ⟨rfl, le_rfl⟩
    · have member' : other ∈ behind := by
        rw [List.getElem?_append_right (by simpa using later.le), List.length_reverse,
          List.getElem?_cons, if_neg (by omega)] at member
        exact List.mem_reverse.1 (List.mem_of_getElem? member)
      have notKind := others other member'
      simp [isKind'] at notKind

/-! ## What is recent -/

def descending (log : Log) : List Posting := (log.zipIdx.mergeSort newerFirst).map (·.1)

theorem map_mergeSort_eq_descending {entries : List (Posting × Nat)}
    (increasing : entries.Pairwise fun a b => a.2 < b.2) :
    (entries.mergeSort newerFirst).map (·.1) = descending (entries.map (·.1)) := by
  let newer (a b : (Posting × Nat) × Nat) : Bool := newerFirst a.1 b.1
  have own : (entries.zipIdx.mergeSort newer).map (·.1) = entries.mergeSort newerFirst := by
    rw [List.map_mergeSort (s := newerFirst) (fun _ _ _ _ => rfl), List.zipIdx_map_fst]
  have placed : (entries.zipIdx.mergeSort newer).map (fun entry => (entry.1.1, entry.2)) =
      (entries.map (·.1)).zipIdx.mergeSort newerFirst := by
    rw [List.zipIdx_map]
    apply List.map_mergeSort
    intro a ha b hb
    have places := key_le_key_iff increasing ha hb
    simp only [newer, newerFirst, places]
  rw [descending, ← own, ← placed, List.map_map, List.map_map]
  rfl

theorem recent_eq_descending (log : Log) (since : Instant) : log.recent since =
    descending (log.filter fun posting => since.micros < posting.instant.micros) := by
  have increasing : log.zipIdx.Pairwise fun a b => a.2 < b.2 := by
    rw [← List.pairwise_map (f := Prod.snd) (R := (· < ·)), List.zipIdx_map_snd]
    exact List.pairwise_lt_range'
  rw [recent, map_mergeSort_eq_descending (increasing.filter _)]
  congr 1
  conv_rhs => rw [← List.zipIdx_map_fst 0 log, List.filter_map]
  rfl

theorem recent_congr {log log' : Log}
    (same : (log.filter fun posting => since.micros < posting.instant.micros) =
      log'.filter fun posting => since.micros < posting.instant.micros) :
    log.recent since = log'.recent since := by
  rw [recent_eq_descending, same, recent_eq_descending]

end Log

end Liveness.Store
