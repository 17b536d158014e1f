import Liveness.Proofs.Chain.SlotTimes
import Liveness.Proofs.Freshness.Primary

namespace Liveness

open Time (Duration Instant Moment)

/-! ## The running slot -/

namespace Chain

/-- The slot that is running at a moment: so many whole slots have passed since genesis. -/
def slotAt (chain : Chain) (now : Moment) : Int :=
  (now.utcMicros - chain.genesis * 1000000).fdiv (chain.secondsPerSlot * 1000000)

variable {chain : Chain} {now : Moment} {slot : Int}

theorem slotAt_bounds (slots : 0 < chain.secondsPerSlot) (now : Moment) :
    chain.slotSeconds (chain.slotAt now) * 1000000 ≤ now.utcMicros ∧
      now.utcMicros < chain.slotSeconds (chain.slotAt now + 1) * 1000000 := by
  obtain ⟨least, greatest⟩ :=
    epoch_bounds (n := chain.secondsPerSlot * 1000000) (by omega)
      (now.utcMicros - chain.genesis * 1000000)
  rw [← slotAt, ← Int.mul_assoc] at least greatest
  simp only [slotSeconds, Int.add_mul]
  simp only [Int.add_mul] at least greatest
  omega

theorem slotSeconds_mono (slots : 0 < chain.secondsPerSlot) {a b : Int} (h : a ≤ b) :
    chain.slotSeconds a ≤ chain.slotSeconds b :=
  not_lt.1 fun less => h.not_gt ((slotSeconds_lt_iff slots).1 less)

theorem since_slot_lt (slots : 0 < chain.secondsPerSlot)
    (within : chain.slotAt now < slot + chain.slotsPerEpoch) :
    now.utcMicros - chain.slotSeconds slot * 1000000 <
      chain.secondsPerSlot * chain.slotsPerEpoch * 1000000 := by
  have running := (slotAt_bounds slots now).2
  have next : chain.slotSeconds (chain.slotAt now + 1) ≤
      chain.slotSeconds (slot + chain.slotsPerEpoch) := slotSeconds_mono slots within
  have length : chain.slotSeconds (slot + chain.slotsPerEpoch) =
      chain.slotSeconds slot + chain.secondsPerSlot * chain.slotsPerEpoch := by
    simp only [slotSeconds]
    ring
  omega

theorem exists_slotTime_of_le {start : Instant} (slots : 0 < chain.secondsPerSlot)
    (genesis : chain.slotTime 0 = .ok start) (nonneg : 0 ≤ slot) {t : Instant}
    (instant : now.toInstant = .ok t) (begun : slot ≤ chain.slotAt now) :
    ∃ began, chain.slotTime slot = .ok began := by
  have first := micros_of_slotTime genesis
  have last := Moment.micros_of_toInstant instant
  have after := slotSeconds_mono slots nonneg
  have before := slotSeconds_mono slots begun
  have running := (slotAt_bounds slots now).1
  have least := start.least_le
  have greatest := t.le_greatest
  obtain ⟨began, found⟩ : ∃ began,
      Instant.ofMicros? (chain.slotSeconds slot * 1000000) = some began :=
    Instant.exists_ofMicros?_iff.2 (by omega)
  exact ⟨began, Instant.ofSeconds_eq_ok.2 found⟩

end Chain

namespace Freshness

/-! ## What the store holds -/

def PrimaryQuantity.firstSlot (chain : Chain) : PrimaryQuantity → Int → Int
  | .attestationSlot, n | .blockSlot, n => n
  | .epoch, n => n * chain.slotsPerEpoch

theorem PrimaryQuantity.time_eq (chain : Chain) (quantity : PrimaryQuantity) (n : Int) :
    quantity.time chain n = chain.slotTime (quantity.firstSlot chain n) := by
  cases quantity <;> rfl

theorem PrimaryQuantity.firstSlot_mono {chain : Chain} (epochs : 0 < chain.slotsPerEpoch)
    (quantity : PrimaryQuantity) {a b : Int} (h : a ≤ b) :
    quantity.firstSlot chain a ≤ quantity.firstSlot chain b := by
  cases quantity with
  | epoch => exact Int.mul_le_mul_of_nonneg_right h epochs.le
  | _ => exact h

def PrimaryReadings.upToDate (chain : Chain) (now : Moment) : PrimaryReadings
  | .attestationSlot | .blockSlot => .ok (chain.slotAt now)
  | .epoch => .ok ((chain.slotAt now).fdiv chain.slotsPerEpoch)

variable {chain : Chain} {now later : Moment} {quantity : PrimaryQuantity} {n : Int}

theorem PrimaryReadings.upToDate_slot (epochs : 0 < chain.slotsPerEpoch)
    (read : upToDate chain now quantity = .ok n) :
    quantity.firstSlot chain n ≤ chain.slotAt now ∧
      chain.slotAt now < quantity.firstSlot chain n + chain.slotsPerEpoch := by
  cases quantity with
  | epoch =>
      cases read
      have bounds := Chain.epoch_bounds epochs (chain.slotAt now)
      rwa [Int.add_mul, Int.one_mul] at bounds
  | _ =>
      cases read
      exact ⟨le_rfl, Int.lt_add_of_pos_right _ epochs⟩

theorem PrimaryReadings.upToDate_areTimed {start t : Instant} (slots : 0 < chain.secondsPerSlot)
    (epochs : 0 < chain.slotsPerEpoch) (genesis : chain.slotTime 0 = .ok start)
    (instant : now.toInstant = .ok t) (started : chain.genesis * 1000000 ≤ now.utcMicros) :
    (upToDate chain now).AreTimed chain := by
  intro quantity n read
  rw [PrimaryQuantity.time_eq]
  have nonneg : 0 ≤ chain.slotAt now :=
    Int.fdiv_nonneg (Int.sub_nonneg_of_le started) (by omega)
  refine Chain.exists_slotTime_of_le slots genesis ?_ instant (upToDate_slot epochs read).1
  cases quantity with
  | epoch =>
      cases read
      exact Int.mul_nonneg (Int.fdiv_nonneg nonneg epochs.le) epochs.le
  | _ =>
      cases read
      exact nonneg

namespace PrimaryCheck

variable {check : PrimaryCheck} {readings raised : PrimaryReadings}
  {quantities : List PrimaryQuantity} {age : Duration}

theorem areFresh_stopped : check.AreFresh readings (.stopped now) quantities ↔
    ∀ quantity ∈ quantities, check.IsFresh readings quantity now := by
  induction quantities with
  | nil => simp [areFresh_nil]
  | cons quantity quantities ih =>
      rw [areFresh_cons, Clock.read_stopped, ih, List.forall_mem_cons]
      rfl

theorem isFresh_upToDate (slots : 0 < check.chain.secondsPerSlot)
    (epochs : 0 < check.chain.slotsPerEpoch)
    (length : check.chain.secondsPerSlot * check.chain.slotsPerEpoch * 1000000 ≤
      check.threshold.micros)
    (timed : (PrimaryReadings.upToDate check.chain now).AreTimed check.chain)
    (quantity : PrimaryQuantity) :
    check.IsFresh (.upToDate check.chain now) quantity now := by
  obtain ⟨n, read⟩ : ∃ n, PrimaryReadings.upToDate check.chain now quantity = .ok n := by
    cases quantity <;> exact ⟨_, rfl⟩
  obtain ⟨began, time⟩ := timed quantity n read
  refine ⟨_, ⟨n, began, read, time, rfl⟩, ?_⟩
  have young := Chain.since_slot_lt slots (PrimaryReadings.upToDate_slot epochs read).2
  rw [PrimaryQuantity.time_eq] at time
  have micros := Chain.micros_of_slotTime time
  dsimp only
  omega

/-! ## As time goes by -/

theorem HasAge.at_later (has : check.HasAge readings quantity now age) (later : Moment) :
    check.HasAge readings quantity later ⟨age.micros + (later.utcMicros - now.utcMicros)⟩ := by
  obtain ⟨n, began, read, time, rfl⟩ := has
  refine ⟨n, began, read, time, ?_⟩
  rw [Duration.mk.injEq]
  dsimp only
  omega

theorem IsStale.at_later (stale : check.IsStale readings quantity now age)
    (order : now.utcMicros ≤ later.utcMicros) :
    ∃ age', check.IsStale readings quantity later age' := by
  obtain ⟨has, old⟩ := stale
  exact ⟨_, has.at_later later, by dsimp only; omega⟩

theorem unhealthy_of_stale (aware : now.offset.isSome)
    (stale : check.IsStale readings quantity now age) (rest : List PrimaryQuantity) :
    ∃ verdict, (check.runFrom readings (.stopped now) (quantity :: rest)).verdict = .ok verdict ∧
      verdict.ok = false := by
  rw [runFrom_stale (Clock.isAware_stopped aware) stale]
  exact ⟨_, rfl, rfl⟩

theorem unhealthy_later {verdict : Verdict} (aware : now.offset.isSome)
    (aware' : later.offset.isSome) (order : now.utcMicros ≤ later.utcMicros)
    (judged : (check.runFrom readings (.stopped now) quantities).verdict = .ok verdict)
    (unhealthy : verdict.ok = false) :
    ∃ verdict', (check.runFrom readings (.stopped later) quantities).verdict = .ok verdict' ∧
      verdict'.ok = false := by
  induction quantities with
  | nil =>
      cases judged
      cases unhealthy
  | cons quantity quantities ih =>
      rcases check.finding_cases readings quantity now with
        ⟨failure, unread⟩ | ⟨fault, untimed⟩ | ⟨age, stale⟩ | fresh
      · rw [runFrom_unreadable unread]
        exact ⟨_, rfl, rfl⟩
      · rw [runFrom_untimed untimed] at judged
        cases judged
      · obtain ⟨age', stale'⟩ := stale.at_later order
        exact unhealthy_of_stale aware' stale' quantities
      · rw [runFrom_fresh (Clock.isAware_stopped aware) fresh] at judged
        -- What was fresh is read again, and has either become stale or is still fresh.
        obtain ⟨age, has, -⟩ := fresh
        have has' := has.at_later later
        rcases lt_or_ge check.threshold.micros
          (age.micros + (later.utcMicros - now.utcMicros)) with old | young
        · exact unhealthy_of_stale aware' ⟨has', old⟩ quantities
        · rw [runFrom_fresh (Clock.isAware_stopped aware') ⟨_, has', young⟩]
          exact ih judged

/-! ## As numbers are raised -/

theorem IsFresh.raise (slots : 0 < check.chain.secondsPerSlot)
    (epochs : 0 < check.chain.slotsPerEpoch) (fresh : check.IsFresh readings quantity now)
    (timed : raised.AreTimed check.chain)
    (higher : ∀ n, readings quantity = .ok n → ∃ n', raised quantity = .ok n' ∧ n ≤ n') :
    check.IsFresh raised quantity now := by
  obtain ⟨_, ⟨n, began, read, time, rfl⟩, young⟩ := fresh
  obtain ⟨n', read', order⟩ := higher n read
  obtain ⟨began', time'⟩ := timed quantity n' read'
  refine ⟨_, ⟨n', began', read', time', rfl⟩, ?_⟩
  rw [PrimaryQuantity.time_eq] at time time'
  have micros := Chain.micros_of_slotTime time
  have micros' := Chain.micros_of_slotTime time'
  have seconds := Chain.slotSeconds_mono slots (quantity.firstSlot_mono epochs order)
  dsimp only at young ⊢
  omega

/-! ## The verdict -/

/-- A store that holds the running slot and its epoch is healthy when an epoch is not longer than
the threshold. A verdict that is unhealthy stays so as time goes by, and one that is healthy stays
so when numbers are raised. -/
theorem verdict_follows_chain (check : PrimaryCheck) (slots : 0 < check.chain.secondsPerSlot)
    (epochs : 0 < check.chain.slotsPerEpoch) :
    (∀ now : Moment, now.offset.isSome → check.chain.genesis * 1000000 ≤ now.utcMicros →
      check.chain.secondsPerSlot * check.chain.slotsPerEpoch * 1000000 ≤ check.threshold.micros →
      ((PrimaryReadings.upToDate check.chain now).AreTimed check.chain →
        (check.run (.upToDate check.chain now) (.stopped now)).verdict = .ok .healthy) ∧
      ((∃ start, check.chain.slotTime 0 = .ok start) → (∃ t, now.toInstant = .ok t) →
        (PrimaryReadings.upToDate check.chain now).AreTimed check.chain)) ∧
    (∀ (readings : PrimaryReadings) (now later : Moment) (verdict : Verdict),
      now.offset.isSome → later.offset.isSome → now.utcMicros ≤ later.utcMicros →
      (check.run readings (.stopped now)).verdict = .ok verdict → verdict.ok = false →
      ∃ verdict', (check.run readings (.stopped later)).verdict = .ok verdict' ∧
        verdict'.ok = false) ∧
    (∀ (readings raised : PrimaryReadings) (now : Moment), now.offset.isSome →
      (∀ quantity n, readings quantity = .ok n → ∃ n', raised quantity = .ok n' ∧ n ≤ n') →
      raised.AreTimed check.chain →
      (check.run readings (.stopped now)).verdict = .ok .healthy →
      (check.run raised (.stopped now)).verdict = .ok .healthy) := by
  refine ⟨fun now aware started length => ⟨fun timed => ?_, ?_⟩, ?_, ?_⟩
  · refine (verdict_eq_healthy_iff (Clock.isAware_stopped aware)).2 (areFresh_stopped.2 ?_)
    exact fun quantity _ => isFresh_upToDate slots epochs length timed quantity
  · rintro ⟨start, genesis⟩ ⟨t, instant⟩
    exact PrimaryReadings.upToDate_areTimed slots epochs genesis instant started
  · intro readings now later verdict aware aware' order judged unhealthy
    exact unhealthy_later aware aware' order judged unhealthy
  · intro readings raised now aware higher timed healthy
    have aware := Clock.isAware_stopped aware
    have fresh := areFresh_stopped.1 ((verdict_eq_healthy_iff aware).1 healthy)
    refine (verdict_eq_healthy_iff aware).2 (areFresh_stopped.2 fun quantity listed => ?_)
    exact (fresh quantity listed).raise slots epochs timed (higher quantity)

theorem verdict_follows_chain_shortEpochs :
    let check : PrimaryCheck := { chain := ⟨0, 12, 32⟩ }
    let now : Moment := .ofInstant ⟨10000500000, by decide, by decide⟩
    let later : Moment := ⟨⟨20000000000, by decide, by decide⟩, some 3600⟩
    let raised : PrimaryReadings := fun
      | .attestationSlot | .blockSlot => .ok 840
      | .epoch => .ok 27
    (check.run (.upToDate check.chain now) (.stopped now)).verdict = .ok .healthy ∧
      (check.run raised (.stopped now)).verdict = .ok .healthy ∧
      (check.run (fun _ => .ok 0) (.stopped now)).verdict =
        .ok (.error "max attestation slot is older than 15 minutes: 2h46m40s") ∧
      ∃ verdict, (check.run (fun _ => .ok 0) (.stopped later)).verdict = .ok verdict ∧
        verdict.ok = false := by
  intro check now later raised
  obtain ⟨follows, stays, raises⟩ := verdict_follows_chain check (by decide) (by decide)
  have aware : now.offset.isSome := rfl
  obtain ⟨healthy, timed⟩ := follows now aware (by decide) (by decide)
  have healthy := healthy (timed ⟨⟨0, by decide, by decide⟩, by decide +kernel⟩ ⟨_, rfl⟩)
  have stale : (check.run (fun _ => .ok 0) (.stopped now)).verdict =
      .ok (.error "max attestation slot is older than 15 minutes: 2h46m40s") := by
    decide +kernel
  refine ⟨healthy, raises _ raised now aware ?_ ?_ healthy, stale,
    stays _ now later _ aware rfl (by decide) stale rfl⟩
  · rintro (_ | _ | _) n read
    all_goals
      cases read
      exact ⟨_, rfl, by decide⟩
  · rintro (_ | _ | _) n read
    · cases read
      exact ⟨⟨10080000000, by decide, by decide⟩, by decide +kernel⟩
    · cases read
      exact ⟨⟨10080000000, by decide, by decide⟩, by decide +kernel⟩
    · cases read
      exact ⟨⟨10368000000, by decide, by decide⟩, by decide +kernel⟩

end PrimaryCheck

end Freshness

end Liveness
