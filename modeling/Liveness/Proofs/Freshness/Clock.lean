import Liveness.Freshness.Clock
import Mathlib

namespace Liveness

theorem Time.Moment.since_of_aware {later earlier : Moment} (aware : later.offset.isSome)
    (aware' : earlier.offset.isSome) :
    later.since earlier = .ok ⟨later.utcMicros - earlier.utcMicros⟩ := by
  rw [since, if_pos (aware.trans aware'.symm)]

namespace Freshness.Clock

open Time (Moment)

variable {clock : Clock}

def afterReads (clock : Clock) (count : Nat) : Clock := (fun c => c.read.2)^[count] clock

def reading (clock : Clock) (count : Nat) : Moment := (clock.afterReads count).next

def IsAware (clock : Clock) : Prop := ∀ m ∈ clock.next :: clock.later, m.offset.isSome

instance (clock : Clock) : Decidable clock.IsAware :=
  inferInstanceAs (Decidable (∀ m ∈ clock.next :: clock.later, m.offset.isSome))

@[simp]
theorem read_fst : clock.read.1 = clock.next := by
  rw [read]
  split <;> rfl

theorem IsAware.next (aware : clock.IsAware) : clock.next.offset.isSome :=
  aware _ List.mem_cons_self

theorem IsAware.read (aware : clock.IsAware) : clock.read.2.IsAware := by
  rw [Clock.read]
  split
  next => exact aware
  next m rest later =>
      intro m' member
      exact aware m' (List.mem_cons_of_mem _ (later ▸ member))

theorem IsAware.afterReads (aware : clock.IsAware) (count : Nat) :
    (clock.afterReads count).IsAware := by
  induction count generalizing clock with
  | zero => exact aware
  | succ count ih => exact ih aware.read

def stopped (now : Moment) : Clock := ⟨now, []⟩

@[simp]
theorem read_stopped (now : Moment) : (stopped now).read.2 = stopped now := rfl

theorem isAware_stopped {now : Moment} (aware : now.offset.isSome) : (stopped now).IsAware := by
  simpa [IsAware, stopped] using aware

end Freshness.Clock

end Liveness
