import Liveness.Freshness.Primary
import Liveness.Proofs.Freshness.Clock
import Liveness.Proofs.Time.WallTime

namespace Liveness.Freshness

open Time (Duration Moment TimeFault)

def PrimaryReadings.AreTimed (readings : PrimaryReadings) (chain : Chain) : Prop :=
  ∀ quantity n, readings quantity = .ok n → ∃ began, quantity.time chain n = .ok began

namespace PrimaryCheck

variable {check : PrimaryCheck} {readings : PrimaryReadings} {clock : Clock} {now : Moment}
  {quantity : PrimaryQuantity} {quantities rest : List PrimaryQuantity}

/-! ## One quantity -/

/-- So long ago did the slot or epoch begin whose number is read. -/
def HasAge (check : PrimaryCheck) (readings : PrimaryReadings) (quantity : PrimaryQuantity)
    (now : Moment) (age : Duration) : Prop :=
  ∃ n began, readings quantity = .ok n ∧ quantity.time check.chain n = .ok began ∧
    age = ⟨now.utcMicros - began.micros⟩

def IsFresh (check : PrimaryCheck) (readings : PrimaryReadings) (quantity : PrimaryQuantity)
    (now : Moment) : Prop :=
  ∃ age, check.HasAge readings quantity now age ∧ age.micros ≤ check.threshold.micros

def IsStale (check : PrimaryCheck) (readings : PrimaryReadings) (quantity : PrimaryQuantity)
    (now : Moment) (age : Duration) : Prop :=
  check.HasAge readings quantity now age ∧ check.threshold.micros < age.micros

def IsUntimed (check : PrimaryCheck) (readings : PrimaryReadings) (quantity : PrimaryQuantity)
    (fault : TimeFault) : Prop :=
  ∃ n, readings quantity = .ok n ∧ quantity.time check.chain n = .error fault

theorem finding_cases (check : PrimaryCheck) (readings : PrimaryReadings)
    (quantity : PrimaryQuantity) (now : Moment) :
    (∃ failure, readings quantity = .error failure) ∨
    (∃ fault, check.IsUntimed readings quantity fault) ∨
    (∃ age, check.IsStale readings quantity now age) ∨
    check.IsFresh readings quantity now := by
  cases read : readings quantity with
  | error failure => exact .inl ⟨failure, rfl⟩
  | ok n =>
      cases time : quantity.time check.chain n with
      | error fault => exact .inr (.inl ⟨fault, n, read, time⟩)
      | ok began =>
          have has : check.HasAge readings quantity now ⟨now.utcMicros - began.micros⟩ :=
            ⟨n, began, read, time, rfl⟩
          rcases lt_or_ge check.threshold.micros (now.utcMicros - began.micros) with old | young
          · exact .inr (.inr (.inl ⟨_, has, old⟩))
          · exact .inr (.inr (.inr ⟨_, has, young⟩))

/-! ## One step of a run -/

theorem age_eq_ok (aware : now.offset.isSome) {n : Int} {began : Time.Instant}
    (time : quantity.time check.chain n = .ok began) :
    check.age quantity n now = .ok ⟨now.utcMicros - began.micros⟩ := by
  rw [age, time]
  change (now.since (Moment.ofInstant began)).mapError TimeFault.toFailure = _
  rw [Moment.since_of_aware aware rfl, Moment.utcMicros_ofInstant]
  rfl

theorem age_eq_error {n : Int} {fault : TimeFault}
    (time : quantity.time check.chain n = .error fault) :
    check.age quantity n now = .error fault.toFailure := by
  rw [age, time]
  rfl

theorem runFrom_unreadable {failure : Failure} (unread : readings quantity = .error failure) :
    check.runFrom readings clock (quantity :: rest) =
      ⟨.ok (.error s!"could not retrieve {quantity.label}: {failure.text}"), [.read quantity],
        clock⟩ := by
  rw [runFrom, unread]

theorem runFrom_untimed {fault : TimeFault} (untimed : check.IsUntimed readings quantity fault) :
    check.runFrom readings clock (quantity :: rest) =
      ⟨.error fault.toFailure, [.read quantity, .clock], clock.read.2⟩ := by
  obtain ⟨n, read, time⟩ := untimed
  simp only [runFrom, read, age_eq_error time]

theorem runFrom_stale {age : Duration} (aware : clock.IsAware)
    (stale : check.IsStale readings quantity clock.next age) :
    check.runFrom readings clock (quantity :: rest) =
      ⟨.ok (.error (check.staleMessage quantity age)), [.read quantity, .clock], clock.read.2⟩ := by
  obtain ⟨⟨n, began, read, time, rfl⟩, old⟩ := stale
  simp only [runFrom, read, Clock.read_fst, age_eq_ok aware.next time, if_pos old]

theorem runFrom_fresh (aware : clock.IsAware)
    (fresh : check.IsFresh readings quantity clock.next) :
    check.runFrom readings clock (quantity :: rest) =
      { check.runFrom readings clock.read.2 rest with
        calls :=
          [.read quantity, .clock] ++ (check.runFrom readings clock.read.2 rest).calls } := by
  obtain ⟨age, ⟨n, began, read, time, rfl⟩, young⟩ := fresh
  simp only [runFrom, read, Clock.read_fst, age_eq_ok aware.next time, if_neg young.not_gt]

/-! ## A whole run -/

/-- Each of the quantities is fresh at the reading of the clock that follows its own read. -/
def AreFresh (check : PrimaryCheck) (readings : PrimaryReadings) (clock : Clock)
    (quantities : List PrimaryQuantity) : Prop :=
  ∀ i quantity, quantities[i]? = some quantity →
    check.IsFresh readings quantity (clock.reading i)

def asked (quantities : List PrimaryQuantity) : List PrimaryCall :=
  quantities.flatMap fun quantity => [.read quantity, .clock]

theorem areFresh_nil : check.AreFresh readings clock [] := fun _ _ none => nomatch none

theorem areFresh_cons : check.AreFresh readings clock (quantity :: rest) ↔
    check.IsFresh readings quantity clock.next ∧ check.AreFresh readings clock.read.2 rest := by
  constructor
  · intro fresh
    exact ⟨fresh 0 quantity rfl, fun i other place => fresh (i + 1) other place⟩
  · rintro ⟨first, others⟩ i other place
    cases i with
    | zero =>
        cases place
        exact first
    | succ i => exact others i other place

theorem runFrom_append (aware : clock.IsAware) (fresh : check.AreFresh readings clock quantities) :
    check.runFrom readings clock (quantities ++ rest) =
      { check.runFrom readings (clock.afterReads quantities.length) rest with
        calls := asked quantities ++
          (check.runFrom readings (clock.afterReads quantities.length) rest).calls } := by
  induction quantities generalizing clock with
  | nil => rfl
  | cons quantity quantities ih =>
      obtain ⟨first, others⟩ := areFresh_cons.1 fresh
      rw [List.cons_append, runFrom_fresh aware first, ih aware.read others]
      rfl

theorem runFrom_of_fresh (aware : clock.IsAware)
    (fresh : check.AreFresh readings clock quantities) :
    check.runFrom readings clock quantities =
      ⟨.ok .healthy, asked quantities, clock.afterReads quantities.length⟩ := by
  have whole : check.runFrom readings clock (quantities ++ []) = _ := runFrom_append aware fresh
  rwa [List.append_nil, runFrom, List.append_nil] at whole

section Ends

variable {before : List PrimaryQuantity} (aware : clock.IsAware)
  (fresh : check.AreFresh readings clock before)
include aware fresh

theorem runFrom_ends_unreadable {failure : Failure} (unread : readings quantity = .error failure) :
    check.runFrom readings clock (before ++ quantity :: rest) =
      ⟨.ok (.error s!"could not retrieve {quantity.label}: {failure.text}"),
        asked before ++ [.read quantity], clock.afterReads before.length⟩ := by
  rw [runFrom_append aware fresh, runFrom_unreadable unread]

theorem runFrom_ends_untimed {fault : TimeFault}
    (untimed : check.IsUntimed readings quantity fault) :
    check.runFrom readings clock (before ++ quantity :: rest) =
      ⟨.error fault.toFailure, asked before ++ [.read quantity, .clock],
        (clock.afterReads before.length).read.2⟩ := by
  rw [runFrom_append aware fresh, runFrom_untimed untimed]

theorem runFrom_ends_stale {age : Duration}
    (stale : check.IsStale readings quantity (clock.reading before.length) age) :
    check.runFrom readings clock (before ++ quantity :: rest) =
      ⟨.ok (.error (check.staleMessage quantity age)), asked before ++ [.read quantity, .clock],
        (clock.afterReads before.length).read.2⟩ := by
  rw [runFrom_append aware fresh, runFrom_stale (aware.afterReads _) stale]

end Ends

theorem exists_first_unfresh (unfresh : ¬ check.AreFresh readings clock quantities) :
    ∃ before quantity rest, quantities = before ++ quantity :: rest ∧
      check.AreFresh readings clock before ∧
      ((∃ failure, readings quantity = .error failure) ∨
        (∃ fault, check.IsUntimed readings quantity fault) ∨
        ∃ age, check.IsStale readings quantity (clock.reading before.length) age) := by
  induction quantities generalizing clock with
  | nil => exact absurd areFresh_nil unfresh
  | cons quantity quantities ih =>
      rcases check.finding_cases readings quantity clock.next with
        unread | untimed | stale | first
      · exact ⟨[], quantity, quantities, rfl, areFresh_nil, .inl unread⟩
      · exact ⟨[], quantity, quantities, rfl, areFresh_nil, .inr (.inl untimed)⟩
      · exact ⟨[], quantity, quantities, rfl, areFresh_nil, .inr (.inr stale)⟩
      · obtain ⟨before, other, rest, rfl, fresh, ends⟩ :=
          ih fun others => unfresh (areFresh_cons.2 ⟨first, others⟩)
        exact ⟨quantity :: before, other, rest, rfl, areFresh_cons.2 ⟨first, fresh⟩, ends⟩

theorem verdict_cases (aware : clock.IsAware) :
    (check.AreFresh readings clock quantities ∧
      (check.runFrom readings clock quantities).verdict = .ok .healthy) ∨
    ∃ before quantity rest, quantities = before ++ quantity :: rest ∧
      check.AreFresh readings clock before ∧
      ((∃ failure, readings quantity = .error failure ∧
          (check.runFrom readings clock quantities).verdict =
            .ok (.error s!"could not retrieve {quantity.label}: {failure.text}")) ∨
        (∃ fault, check.IsUntimed readings quantity fault ∧
          (check.runFrom readings clock quantities).verdict = .error fault.toFailure) ∨
        ∃ age, check.IsStale readings quantity (clock.reading before.length) age ∧
          (check.runFrom readings clock quantities).verdict =
            .ok (.error (check.staleMessage quantity age))) := by
  rcases Classical.em (check.AreFresh readings clock quantities) with fresh | unfresh
  · exact .inl ⟨fresh, by rw [runFrom_of_fresh aware fresh]⟩
  · obtain ⟨before, quantity, rest, rfl, fresh, ends⟩ := exists_first_unfresh unfresh
    refine .inr ⟨before, quantity, rest, rfl, fresh, ?_⟩
    rcases ends with ⟨failure, unread⟩ | ⟨fault, untimed⟩ | ⟨age, stale⟩
    · exact .inl ⟨failure, unread, by rw [runFrom_ends_unreadable aware fresh unread]⟩
    · exact .inr (.inl ⟨fault, untimed, by rw [runFrom_ends_untimed aware fresh untimed]⟩)
    · exact .inr (.inr ⟨age, stale, by rw [runFrom_ends_stale aware fresh stale]⟩)

theorem verdict_eq_healthy_iff (aware : clock.IsAware) :
    (check.runFrom readings clock quantities).verdict = .ok .healthy ↔
      check.AreFresh readings clock quantities := by
  refine ⟨fun healthy => ?_, fun fresh => by rw [runFrom_of_fresh aware fresh]⟩
  rcases verdict_cases aware with ⟨fresh, -⟩ | ⟨before, quantity, rest, -, -, ends⟩
  · exact fresh
  · rcases ends with ⟨failure, -, verdict⟩ | ⟨fault, -, verdict⟩ | ⟨age, -, verdict⟩ <;>
      cases verdict.symm.trans healthy

theorem verdict_eq_error_iff (aware : clock.IsAware) {failure : Failure} :
    (check.runFrom readings clock quantities).verdict = .error failure ↔
      ∃ before quantity rest fault, quantities = before ++ quantity :: rest ∧
        check.AreFresh readings clock before ∧ check.IsUntimed readings quantity fault ∧
        fault.toFailure = failure := by
  constructor
  · intro failed
    rcases verdict_cases aware with ⟨-, verdict⟩ | ⟨before, quantity, rest, split, fresh, ends⟩
    · cases verdict.symm.trans failed
    · rcases ends with ⟨_, -, verdict⟩ | ⟨fault, untimed, verdict⟩ | ⟨_, -, verdict⟩
      · cases verdict.symm.trans failed
      · exact ⟨before, quantity, rest, fault, split, fresh, untimed,
          Except.error.inj (verdict.symm.trans failed)⟩
      · cases verdict.symm.trans failed
  · rintro ⟨before, quantity, rest, fault, rfl, fresh, untimed, rfl⟩
    rw [runFrom_ends_untimed aware fresh untimed]

/-! ## The verdict -/

/-- The verdict is healthy when all three quantities are fresh. Otherwise there is a first one that
is not: the verdict is about that one, and nothing is asked for after it. -/
theorem first_unfresh_decides (check : PrimaryCheck) (readings : PrimaryReadings) (clock : Clock)
    (timed : readings.AreTimed check.chain) (aware : clock.IsAware) :
    let outcome := check.run readings clock
    let order : List PrimaryQuantity := [.attestationSlot, .blockSlot, .epoch]
    (outcome.verdict = .ok .healthy ↔ check.AreFresh readings clock order) ∧
    (check.AreFresh readings clock order → outcome.calls =
      [.read .attestationSlot, .clock, .read .blockSlot, .clock, .read .epoch, .clock]) ∧
    (∀ before quantity rest, order = before ++ quantity :: rest →
      check.AreFresh readings clock before →
      (∀ failure, readings quantity = .error failure →
        outcome.verdict = .ok (.error s!"could not retrieve {quantity.label}: {failure.text}") ∧
        outcome.calls = asked before ++ [.read quantity]) ∧
      ∀ age, check.IsStale readings quantity (clock.reading before.length) age →
        outcome.verdict = .ok (.error
          s!"{quantity.label} is older than {check.threshold.minutesText}: {age.ageText}") ∧
        outcome.calls = asked before ++ [.read quantity, .clock]) ∧
    (check.AreFresh readings clock order ∨ ∃ before quantity rest,
      order = before ++ quantity :: rest ∧ check.AreFresh readings clock before ∧
      ((∃ failure, readings quantity = .error failure) ∨
        ∃ age, check.IsStale readings quantity (clock.reading before.length) age)) := by
  intro outcome order
  refine ⟨verdict_eq_healthy_iff aware, fun fresh => ?_, ?_, ?_⟩
  · exact congrArg (·.calls) (runFrom_of_fresh aware fresh)
  · intro before quantity rest split fresh
    have whole : outcome = check.runFrom readings clock (before ++ quantity :: rest) :=
      congrArg (check.runFrom readings clock) split
    refine ⟨fun failure unread => ?_, fun age stale => ?_⟩
    · rw [whole, runFrom_ends_unreadable aware fresh unread]
      exact ⟨rfl, rfl⟩
    · rw [whole, runFrom_ends_stale aware fresh stale]
      exact ⟨rfl, rfl⟩
  · rcases Classical.em (check.AreFresh readings clock order) with fresh | unfresh
    · exact .inl fresh
    · obtain ⟨before, quantity, rest, split, fresh, ends⟩ := exists_first_unfresh unfresh
      refine .inr ⟨before, quantity, rest, split, fresh, ?_⟩
      rcases ends with unread | ⟨fault, n, read, time⟩ | stale
      · exact .inl unread
      · obtain ⟨began, time'⟩ := timed quantity n read
        cases time'.symm.trans time
      · exact .inr stale

theorem first_unfresh_decides_movingClock :
    let check : PrimaryCheck := { chain := ⟨0, 12, 32⟩ }
    let clock : Clock := ⟨.ofInstant ⟨10000000000, by decide, by decide⟩,
      [.ofInstant ⟨10100000000, by decide, by decide⟩]⟩
    let readings : PrimaryReadings := fun
      | .attestationSlot => .ok 800
      | .blockSlot => .ok 766
      | .epoch => .error (.of .runtime "connection reset")
    readings.AreTimed check.chain ∧ clock.IsAware ∧
      (check.run readings clock).verdict =
        .ok (.error "max slot in blocks table is older than 15 minutes: 15m8s") ∧
      (check.run readings clock).calls =
        [.read .attestationSlot, .clock, .read .blockSlot, .clock] := by
  intro check clock readings
  have slot : PrimaryQuantity.time check.chain .attestationSlot 800 =
      .ok ⟨9600000000, by decide, by decide⟩ := by decide +kernel
  have block : PrimaryQuantity.time check.chain .blockSlot 766 =
      .ok ⟨9192000000, by decide, by decide⟩ := by decide +kernel
  have timed : readings.AreTimed check.chain := by
    rintro (_ | _ | _) n read
    · cases read
      exact ⟨_, slot⟩
    · cases read
      exact ⟨_, block⟩
    · cases read
  have aware : clock.IsAware := by decide
  have fresh : check.AreFresh readings clock [.attestationSlot] :=
    areFresh_cons.2 ⟨⟨⟨400000000⟩, ⟨800, _, rfl, slot, by decide⟩, by decide⟩, areFresh_nil⟩
  have stale : check.IsStale readings .blockSlot (clock.reading 1) ⟨908000000⟩ :=
    ⟨⟨766, _, rfl, block, by decide⟩, by decide⟩
  obtain ⟨-, -, ends, -⟩ := first_unfresh_decides check readings clock timed aware
  obtain ⟨verdict, calls⟩ := (ends [.attestationSlot] .blockSlot [.epoch] rfl fresh).2 _ stale
  exact ⟨timed, aware, verdict.trans (by decide +kernel), calls⟩

end PrimaryCheck

end Liveness.Freshness
