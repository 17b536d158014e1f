import Liveness.Freshness.Secondary
import Liveness.Proofs.Freshness.Clock
import Liveness.Proofs.Text.Integer

namespace Liveness

open Text (digitLimit writeInteger)

namespace Freshness.SecondaryCheck

open Time (Duration Moment)

/-! ## The index -/

theorem lagVerdict_eq_ok {lag : Int} {verdict : Verdict} : lagVerdict lag = .ok verdict ↔
    ∃ text, writeInteger lag = .ok text ∧ Verdict.error (lagMessage text) = verdict := by
  unfold lagVerdict
  generalize writeInteger lag = written
  cases written <;> simp

def untoldLag : Failure := .of .value Text.IntegerFault.tooLongToWrite.message

theorem lagVerdict_of_short {lag : Int} (short : lag.natAbs < 10 ^ digitLimit) :
    lagVerdict lag = .ok (.error (lagMessage (toString lag))) :=
  lagVerdict_eq_ok.2 ⟨_, Text.writeInteger_of_short short, rfl⟩

theorem lagVerdict_of_long {lag : Int} (long : 10 ^ digitLimit ≤ lag.natAbs) :
    lagVerdict lag = .error untoldLag := by
  unfold lagVerdict
  rw [Text.writeInteger_of_long long]
  rfl

theorem lagVerdict_ne_healthy (lag : Int) : lagVerdict lag ≠ .ok .healthy := by
  intro healthy
  obtain ⟨text, -, same⟩ := lagVerdict_eq_ok.1 healthy
  cases same

theorem lagVerdict_eq_error {lag : Int} {failure : Failure} :
    lagVerdict lag = .error failure ↔ 10 ^ digitLimit ≤ lag.natAbs ∧ untoldLag = failure := by
  rcases lt_or_ge lag.natAbs (10 ^ digitLimit) with short | long
  · simp only [lagVerdict_of_short short, short.not_ge, false_and, reduceCtorEq]
  · simp only [lagVerdict_of_long long, long, true_and, Except.error.injEq]

variable {check : SecondaryCheck} {readings : SecondaryReadings} {clock : Clock}
  {number indexed : Int} {time : Moment}

theorem indexVerdict_of_lagging (lags : indexed < number - check.maxLag) :
    check.indexVerdict number (.ok indexed) = lagVerdict (number - indexed) := by
  unfold indexVerdict
  exact if_pos lags

theorem indexVerdict_of_keepingUp (keepsUp : number - check.maxLag ≤ indexed) :
    check.indexVerdict number (.ok indexed) = .ok .healthy := by
  unfold indexVerdict
  exact if_neg keepsUp.not_gt

theorem indexVerdict_eq_healthy_iff {read : Except Failure Int} :
    check.indexVerdict number read = .ok .healthy ↔
      ∃ indexed, read = .ok indexed ∧ number - check.maxLag ≤ indexed := by
  constructor
  · intro healthy
    cases read with
    | error failure => cases healthy
    | ok indexed =>
        refine ⟨indexed, rfl, ?_⟩
        by_contra behind
        rw [indexVerdict_of_lagging (not_le.1 behind)] at healthy
        exact lagVerdict_ne_healthy _ healthy
  · rintro ⟨indexed, rfl, keepsUp⟩
    exact indexVerdict_of_keepingUp keepsUp

theorem indexVerdict_eq_error_iff {read : Except Failure Int} {failure : Failure} :
    check.indexVerdict number read = .error failure ↔
      ∃ indexed, read = .ok indexed ∧ indexed < number - check.maxLag ∧
        10 ^ digitLimit ≤ (number - indexed).natAbs ∧ untoldLag = failure := by
  constructor
  · intro failed
    cases read with
    | error failure' => cases failed
    | ok indexed =>
        rcases lt_or_ge indexed (number - check.maxLag) with lags | keepsUp
        · rw [indexVerdict_of_lagging lags] at failed
          exact ⟨indexed, rfl, lags, lagVerdict_eq_error.1 failed⟩
        · rw [indexVerdict_of_keepingUp keepsUp] at failed
          cases failed
  · rintro ⟨indexed, rfl, lags, untold⟩
    rw [indexVerdict_of_lagging lags]
    exact lagVerdict_eq_error.2 untold

/-! ## The canonical chain -/

theorem run_of_unreadable {failure : Failure} (unread : readings.canonical = .error failure) :
    check.run readings clock =
      ⟨.ok (.error ("could not retrieve latest block from the blocks table: " ++ failure.text)),
        [.canonicalBlock], clock⟩ := by
  rw [run, unread]

section Read

variable (aware : clock.IsAware) (aware' : time.offset.isSome)
  (read : readings.canonical = .ok (number, time))
include aware aware' read

theorem run_of_stale
    (stale : check.threshold.micros < clock.next.utcMicros - time.utcMicros) :
    check.run readings clock =
      ⟨.ok (.error (check.staleMessage ⟨clock.next.utcMicros - time.utcMicros⟩)),
        [.canonicalBlock, .clock], clock.read.2⟩ := by
  simp only [run, read, Clock.read_fst, Moment.since_of_aware aware.next aware', if_pos stale]

theorem run_of_fresh
    (fresh : clock.next.utcMicros - time.utcMicros ≤ check.threshold.micros) :
    check.run readings clock =
      ⟨check.indexVerdict number readings.indexed, [.canonicalBlock, .clock, .indexedNumber],
        clock.read.2⟩ := by
  simp only [run, read, Clock.read_fst, Moment.since_of_aware aware.next aware',
    if_neg fresh.not_gt]

end Read

section Verdict

variable (aware : clock.IsAware)
  (aware' : ∀ number time, readings.canonical = .ok (number, time) → time.offset.isSome)
include aware aware'

theorem verdict_cases :
    (∃ failure, readings.canonical = .error failure ∧ (check.run readings clock).verdict =
      .ok (.error ("could not retrieve latest block from the blocks table: " ++ failure.text))) ∨
    ∃ number time, readings.canonical = .ok (number, time) ∧
      (check.threshold.micros < clock.next.utcMicros - time.utcMicros ∧
        (check.run readings clock).verdict =
          .ok (.error (check.staleMessage ⟨clock.next.utcMicros - time.utcMicros⟩)) ∨
      clock.next.utcMicros - time.utcMicros ≤ check.threshold.micros ∧
        (check.run readings clock).verdict = check.indexVerdict number readings.indexed) := by
  cases read : readings.canonical with
  | error failure => exact .inl ⟨failure, rfl, by rw [run_of_unreadable read]⟩
  | ok block =>
      obtain ⟨number, time⟩ := block
      have aware' := aware' number time read
      refine .inr ⟨number, time, rfl, ?_⟩
      rcases lt_or_ge check.threshold.micros (clock.next.utcMicros - time.utcMicros) with
        stale | fresh
      · exact .inl ⟨stale, by rw [run_of_stale aware aware' read stale]⟩
      · exact .inr ⟨fresh, by rw [run_of_fresh aware aware' read fresh]⟩

theorem verdict_eq_iff {outcome : Except Failure Verdict}
    (other : ∀ message, outcome ≠ .ok (.error message)) :
    (check.run readings clock).verdict = outcome ↔ ∃ number time,
      readings.canonical = .ok (number, time) ∧
        clock.next.utcMicros - time.utcMicros ≤ check.threshold.micros ∧
        check.indexVerdict number readings.indexed = outcome := by
  constructor
  · intro judged
    rcases verdict_cases aware aware' with ⟨_, -, verdict⟩ | ⟨number, time, read, ends⟩
    · exact absurd (judged.symm.trans verdict) (other _)
    · rcases ends with ⟨-, verdict⟩ | ⟨fresh, verdict⟩
      · exact absurd (judged.symm.trans verdict) (other _)
      · exact ⟨number, time, read, fresh, verdict.symm.trans judged⟩
  · rintro ⟨number, time, read, fresh, judged⟩
    rw [run_of_fresh aware (aware' number time read) read fresh]
    exact judged

theorem verdict_eq_healthy_iff :
    (check.run readings clock).verdict = .ok .healthy ↔ ∃ number time indexed,
      readings.canonical = .ok (number, time) ∧
        clock.next.utcMicros - time.utcMicros ≤ check.threshold.micros ∧
        readings.indexed = .ok indexed ∧ number - check.maxLag ≤ indexed := by
  rw [verdict_eq_iff aware aware' (by rintro message ⟨⟩)]
  simp only [indexVerdict_eq_healthy_iff, exists_and_left]

theorem verdict_eq_error_iff {failure : Failure} :
    (check.run readings clock).verdict = .error failure ↔ ∃ number time indexed,
      readings.canonical = .ok (number, time) ∧
        clock.next.utcMicros - time.utcMicros ≤ check.threshold.micros ∧
        readings.indexed = .ok indexed ∧ indexed < number - check.maxLag ∧
        10 ^ digitLimit ≤ (number - indexed).natAbs ∧ untoldLag = failure := by
  rw [verdict_eq_iff aware aware' (by rintro message ⟨⟩)]
  simp only [indexVerdict_eq_error_iff, exists_and_left]

end Verdict

/-! ## The verdict -/

/-- A lag that is told is the number of blocks by which the index is behind, and is greater than the
lag that is allowed. -/
theorem index_read_when_fresh (check : SecondaryCheck) (readings : SecondaryReadings)
    (clock : Clock) (aware : clock.IsAware)
    (aware' : ∀ number time, readings.canonical = .ok (number, time) → time.offset.isSome) :
    let outcome := check.run readings clock
    (outcome.verdict = .ok .healthy ↔ ∃ number time indexed,
      readings.canonical = .ok (number, time) ∧
        clock.next.utcMicros - time.utcMicros ≤ check.threshold.micros ∧
        readings.indexed = .ok indexed ∧ number - check.maxLag ≤ indexed) ∧
    (∀ failure, readings.canonical = .error failure →
      outcome.verdict = .ok (.error
        ("could not retrieve latest block from the blocks table: " ++ failure.text)) ∧
      outcome.calls = [.canonicalBlock]) ∧
    (∀ number time, readings.canonical = .ok (number, time) →
      check.threshold.micros < clock.next.utcMicros - time.utcMicros →
      outcome.verdict =
        .ok (.error (check.staleMessage ⟨clock.next.utcMicros - time.utcMicros⟩)) ∧
      outcome.calls = [.canonicalBlock, .clock]) ∧
    ∀ number time, readings.canonical = .ok (number, time) →
      clock.next.utcMicros - time.utcMicros ≤ check.threshold.micros →
      outcome.calls = [.canonicalBlock, .clock, .indexedNumber] ∧
      (∀ failure, readings.indexed = .error failure → outcome.verdict = .ok (.error
        ("could not retrieve latest block number from the data table: " ++ failure.text))) ∧
      ∀ indexed, readings.indexed = .ok indexed → indexed < number - check.maxLag →
        check.maxLag < number - indexed ∧
        ((number - indexed).natAbs < 10 ^ digitLimit →
          outcome.verdict = .ok (.error (lagMessage (toString (number - indexed))))) ∧
        (10 ^ digitLimit ≤ (number - indexed).natAbs → outcome.verdict = .error untoldLag) := by
  intro outcome
  refine ⟨verdict_eq_healthy_iff aware aware', fun failure unread => ?_,
    fun number time read stale => ?_, fun number time read fresh => ?_⟩
  · rw [show outcome = _ from run_of_unreadable unread]
    exact ⟨rfl, rfl⟩
  · rw [show outcome = _ from run_of_stale aware (aware' number time read) read stale]
    exact ⟨rfl, rfl⟩
  · rw [show outcome = _ from run_of_fresh aware (aware' number time read) read fresh]
    refine ⟨rfl, fun failure unread => ?_, fun indexed found lags => ?_⟩
    · rw [unread]
      rfl
    · rw [found, indexVerdict_of_lagging lags]
      dsimp only
      exact ⟨by omega, lagVerdict_of_short, lagVerdict_of_long⟩

theorem index_read_when_fresh_oneTooFar :
    let check : SecondaryCheck := {}
    let clock : Clock := .stopped ⟨⟨13600000000, by decide, by decide⟩, some 3600⟩
    let readings : SecondaryReadings :=
      ⟨.ok (1000, ⟨⟨2020000000, by decide, by decide⟩, some (-7200)⟩), .ok 967⟩
    clock.IsAware ∧ (∀ number time, readings.canonical = .ok (number, time) → time.offset.isSome) ∧
      (check.run readings clock).verdict = .ok (.error
        "data table is lagging behind the blocks table by 33 blocks (check eth1 indexer)") ∧
      (check.run readings clock).calls = [.canonicalBlock, .clock, .indexedNumber] := by
  intro check clock readings
  have aware : clock.IsAware := by decide
  have aware' : ∀ number time, readings.canonical = .ok (number, time) → time.offset.isSome := by
    rintro number time ⟨⟩
    rfl
  obtain ⟨-, -, -, fresh⟩ := index_read_when_fresh check readings clock aware aware'
  obtain ⟨calls, -, lags⟩ := fresh 1000 _ rfl (by decide)
  obtain ⟨-, told, -⟩ := lags 967 rfl (by decide)
  have short : ((1000 : Int) - 967).natAbs < 10 ^ digitLimit := by
    have digits : 10 ^ 2 ≤ 10 ^ digitLimit := Nat.pow_le_pow_right (by decide) (by decide)
    omega
  exact ⟨aware, aware', told short, calls⟩

/-- A lag of one digit too many. -/
theorem no_verdict_on_long_lag :
    let number : Int := 10 ^ digitLimit - 1
    (-1 < number - ({} : SecondaryCheck).maxLag) ∧
      (({} : SecondaryCheck).run ⟨.ok (number, default), .ok (-1)⟩ (.stopped default)).verdict =
        .error (.of .value ("Exceeds the limit (4300 digits) for integer string conversion; " ++
          "use sys.set_int_max_str_digits() to increase the limit")) := by
  intro number
  have digits : (10 : Int) ^ 2 ≤ 10 ^ digitLimit :=
    pow_le_pow_right₀ (by decide) (by decide)
  have lags : -1 < number - ({} : SecondaryCheck).maxLag := by
    dsimp only [number]
    omega
  have long : 10 ^ digitLimit ≤ (number - -1).natAbs := by
    have ten : (10 : Int).natAbs = 10 := rfl
    rw [Int.sub_neg, Int.sub_add_cancel, Int.natAbs_pow, ten]
  refine ⟨lags, ?_⟩
  -- Only the two bounds are needed; the number itself must not be computed.
  clear_value number
  rw [run_of_fresh (Clock.isAware_stopped rfl) rfl rfl (by decide), indexVerdict_of_lagging lags,
    lagVerdict_of_long long]
  decide

end Freshness.SecondaryCheck

end Liveness
