import Liveness.Proofs.Fleet.Aggregation
import Liveness.Proofs.Scheduler.Reporting
import Liveness.Proofs.Scheduler.Verdicts

/-!
Rows: what the reports of a run leave in the status table. The rows of a probe stand in the order of
its iterations and of their times, and the newest one tells its last verdict (`rows_tell_reports`).
-/

namespace Liveness.Scheduler

open Database (Cell)
open Fleet (latestStatuses)
open Store (Log Posting Represents Reporter)
open Time (Instant Moment)

def handed (turns : List Turn) : List (String × Bool) :=
  (turns.flatMap (·.effects)).filterMap Effect.handed?

/-- The statuses that turns handed over and whose reports do not fail. -/
def filed (turns : List Turn) : List String := ((handed turns).filter (·.2)).map (·.1)

theorem filed_append (turns more : List Turn) :
    filed (turns ++ more) = filed turns ++ filed more := by
  rw [filed, handed, List.flatMap_append, List.filterMap_append, List.filter_append,
    List.map_append]
  rfl

theorem filed_flatten (iterations : List (List Turn)) :
    filed iterations.flatten = iterations.flatMap filed := by
  induction iterations with
  | nil => rfl
  | cons turns iterations ih =>
      rw [List.flatten_cons, filed_append, ih, List.flatMap_cons]

theorem filed_filter {turns : List Turn} {chosen : Turn → Bool}
    (others : ∀ turn ∈ turns, chosen turn = false → turn.effects.filterMap Effect.handed? = []) :
    filed (turns.filter chosen) = filed turns := by
  induction turns with
  | nil => rfl
  | cons turn turns ih =>
      obtain ⟨other, others⟩ := List.forall_mem_cons.1 others
      rw [List.filter_cons]
      split
      next => rw [← List.singleton_append, filed_append, ih others, ← filed_append]; rfl
      next unchosen =>
          have nothing : filed [turn] = [] := by
            rw [filed, handed, List.flatMap_singleton, other (Bool.eq_false_iff.2 unchosen)]
            rfl
          rw [ih others, ← List.singleton_append, filed_append, nothing, List.nil_append]

theorem account_reports (turns : List Turn) :
    (account turns).reports = (handed turns).map (·.1) := by
  have told (effects : List Effect) (before : Account) :
      (effects.foldl Account.observe before).reports =
        before.reports ++ (effects.filterMap Effect.handed?).map (·.1) := by
    induction effects generalizing before with
    | nil => simp
    | cons effect effects ih =>
        rw [List.foldl_cons, ih, List.filterMap_cons]
        cases effect <;> simp [Account.observe, Effect.handed?]
  induction turns using List.reverseRecOn with
  | nil => rfl
  | append_singleton turns turn ih =>
      rw [account_concat, told, ih, handed, handed, List.flatMap_append, List.filterMap_append,
        List.flatMap_singleton, List.map_append]

theorem account_filed (turns : List Turn) : (account turns).filed = filed turns := by
  have told (effects : List Effect) (before : Account) :
      (effects.foldl Account.observe before).filed =
        before.filed ++ ((effects.filterMap Effect.handed?).filter (·.2)).map (·.1) := by
    induction effects generalizing before with
    | nil => simp
    | cons effect effects ih =>
        rw [List.foldl_cons, ih, List.filterMap_cons]
        cases effect with
        | reported status accepted =>
            cases accepted <;> simp [Account.observe, Effect.handed?]
        | _ => simp [Account.observe, Effect.handed?]
  induction turns using List.reverseRecOn with
  | nil => rfl
  | append_singleton turns turn ih =>
      rw [account_concat, told, ih, filed_append, filed, filed, handed, handed,
        List.flatMap_singleton]

theorem sublist_filed (turns : List Turn) : (filed turns).Sublist (account turns).reports := by
  rw [account_reports]
  exact List.filter_sublist.map _

theorem Fate.filed {moves : List Move} {lane : Lane} {runner : Runner} {turns : List Turn}
    (fate : Fate moves lane runner turns) :
    filed turns = [] ∨ ∃ verdict, filed turns = [verdict.status] ∧
      (account turns).reports = [verdict.status] ∧
        ∀ result ∈ (account turns).results, result = .ok verdict := by
  have told := sublist_filed turns
  cases fate with
  | waits started =>
      rw [started] at told
      exact .inl (List.sublist_nil.1 told)
  | fails unreported ended cause =>
      rw [unreported] at told
      exact .inl (List.sublist_nil.1 told)
  | @concludes checks verdict provenance outcomes comes =>
      rcases comes.reported with reported | ⟨-, unreported⟩
      · rw [reported, List.sublist_singleton] at told
        refine told.imp_right fun filed => ⟨verdict, filed, reported, fun result member => ?_⟩
        rcases comes.returned with returned | ⟨unended, -⟩ | ⟨unfiled, -⟩
        · rw [returned] at member
          exact List.mem_singleton.1 member
        · rw [unended] at member
          cases member
        · rw [account_filed, filed] at unfiled
          cases unfiled
      · rw [unreported] at told
        exact .inl (List.sublist_nil.1 told)

/-! ## What the log tells of it -/

def Act.reading? : Act → Option Moment
  | .read _ reading => some reading
  | _ => none

def readings (acts : List Act) : List Moment := acts.filterMap Act.reading?

theorem readings_concat (acts : List Act) (act : Act) :
    readings (acts ++ [act]) = readings acts ++ act.reading?.toList := by
  rw [readings, List.filterMap_append, List.filterMap_cons]
  cases act.reading? <;> rfl

def IsTimely (reading : Moment) : Prop := ∃ t, reading.toInstant = .ok t ∧ t.HasFourDigitYear

namespace Reporting

/-- The statuses of a probe that are yet to be filed. -/
def due (underWay : List Report) (name : String) : List String :=
  (underWay.filter fun report => report.name = name ∧ report.accepted).map (·.status)

/-- What is filed and what is due of a probe is what was handed over, in order; rows of a probe
have times that grow, and a report that has read the clock is as late as any of them. -/
structure Files (past : List Moment) (reporting : Reporting) (log : Log) : Prop where
  fits : Cell.fitsInteger reporting.scheduler.reporter.pid = true
  represents : Represents reporting.store log
  told : ∀ name, (log.filter (·.name = name)).map (·.status) ++ due reporting.underWay name =
    filed (reporting.history.filter (·.probe.name = name))
  dated : ∀ posting ∈ log, ∃ reading ∈ past, posting.instant.micros = reading.utcMicros
  taken : ∀ report ∈ reporting.underWay, ∀ reading ∈ report.reading, reading ∈ past
  ordered : ∀ name, (log.filter (·.name = name)).Pairwise fun a b =>
    a.instant.micros ≤ b.instant.micros
  later : ∀ report ∈ reporting.underWay, ∀ reading ∈ report.reading, ∀ posting ∈ log,
    posting.name = report.name → posting.instant.micros ≤ reading.utcMicros

theorem due_append (underWay more : List Report) (name : String) :
    due (underWay ++ more) name = due underWay name ++ due more name := by
  rw [due, List.filter_append, List.map_append, due, due]

theorem due_map {change : Report → Report} (keeps : ∀ report, (change report).name = report.name ∧
    (change report).status = report.status ∧ (change report).accepted = report.accepted)
    (underWay : List Report) (name : String) :
    due (underWay.map change) name = due underWay name := by
  rw [due, List.filter_map, List.map_map, due]
  have chosen : ((fun report : Report => decide (report.name = name ∧ report.accepted)) ∘ change) =
      fun report => decide (report.name = name ∧ report.accepted) := by
    funext report
    rw [Function.comp_apply, (keeps report).1, (keeps report).2.2]
  rw [chosen]
  exact List.map_congr_left fun report _ => (keeps report).2.1

theorem due_reports (turn : Turn) (name : String) :
    due turn.reports name = filed ([turn].filter (·.probe.name = name)) := by
  by_cases named : turn.probe.name = name
  · rw [List.filter_cons_of_pos (by simpa using named), List.filter_nil, filed, handed,
      List.flatMap_singleton, due, Turn.reports, List.filter_map, List.map_map]
    congr 1
    apply List.filter_congr
    simp [named]
  · rw [List.filter_cons_of_neg (by simpa using named), List.filter_nil, due, Turn.reports,
      List.filter_eq_nil_iff.2]
    · rfl
    · intro report member
      obtain ⟨handed, -, rfl⟩ := List.mem_map.1 member
      simp [named]

theorem due_flatMap_reports (turns : List Turn) (name : String) :
    due (turns.flatMap Turn.reports) name = filed (turns.filter (·.probe.name = name)) := by
  induction turns with
  | nil => rfl
  | cons turn turns ih =>
      rw [List.flatMap_cons, due_append, ih, due_reports, ← filed_append, ← List.filter_append,
        List.singleton_append]

namespace Files

variable {past : List Moment} {reporting : Reporting} {log : Log} {name : String}
  {report : Report} {reading : Moment}

theorem move (files : Files past reporting log) (next : Move) :
    Files past (reporting.move next) log := by
  have unread : ∀ report ∈ (reporting.scheduler.move next).2.flatMap Turn.reports,
      report.reading = none := by
    intro report member
    obtain ⟨turn, -, member⟩ := List.mem_flatMap.1 member
    obtain ⟨handed, -, rfl⟩ := List.mem_map.1 member
    rfl
  refine ⟨?_, files.represents, fun name => ?_, files.dated, ?_, files.ordered, ?_⟩
  · rw [Reporting.move, reporter_move]
    exact files.fits
  · rw [Reporting.move, due_append, ← List.append_assoc, files.told, due_flatMap_reports,
      List.filter_append, filed_append]
  · refine List.forall_mem_append.2 ⟨files.taken, fun report member reading read => ?_⟩
    rw [unread report member] at read
    cases read
  · refine List.forall_mem_append.2 ⟨files.later, fun report member reading read => ?_⟩
    rw [unread report member] at read
    cases read

theorem read (files : Files past reporting log)
    (latest : ∀ earlier ∈ past, earlier.utcMicros ≤ reading.utcMicros) (name : String) :
    Files (past ++ [reading]) (reporting.read name reading) log := by
  have changed {report : Report} (member : report ∈ (reporting.read name reading).underWay)
      {moment : Moment} (read : moment ∈ report.reading) :
      moment = reading ∨ ∃ old ∈ reporting.underWay, old.name = report.name ∧
        moment ∈ old.reading := by
    obtain ⟨old, member', rfl⟩ := List.mem_map.1 member
    split at read
    next => exact .inl (Option.mem_some_iff.1 read).symm
    next unchanged =>
        refine .inr ⟨old, member', ?_, read⟩
        rw [if_neg unchanged]
  refine ⟨files.fits, files.represents, fun name' => ?_, ?_, ?_, files.ordered, ?_⟩
  · rw [Reporting.read, due_map]
    · exact files.told name'
    · intro report
      split <;> exact ⟨rfl, rfl, rfl⟩
  · intro posting member
    obtain ⟨earlier, known, same⟩ := files.dated posting member
    exact ⟨earlier, List.mem_append_left _ known, same⟩
  · intro report member moment read
    rcases changed member read with rfl | ⟨old, member', -, read'⟩
    · exact List.mem_append_right _ (List.mem_singleton_self _)
    · exact List.mem_append_left _ (files.taken old member' moment read')
  · intro report member moment read posting listed named
    rcases changed member read with rfl | ⟨old, member', same, read'⟩
    · obtain ⟨earlier, known, same⟩ := files.dated posting listed
      rw [same]
      exact latest earlier known
    · exact files.later old member' moment read' posting listed (named.trans same.symm)

theorem due_of_mem (orderly : reporting.Orderly) (member : report ∈ reporting.underWay) :
    due reporting.underWay report.name = if report.accepted then [report.status] else [] := by
  have only := filter_key_eq_singleton orderly.names member
  have chosen : (reporting.underWay.filter fun other => other.name = report.name ∧ other.accepted) =
      (reporting.underWay.filter fun other => other.name = report.name).filter (·.accepted) := by
    rw [List.filter_filter]
    apply List.filter_congr
    simp [and_comm]
  rw [due, chosen, only]
  cases accepted : report.accepted <;> simp [accepted]

theorem due_without (reporting : Reporting) (name name' : String) :
    due (reporting.without name).underWay name' =
      if name' = name then [] else due reporting.underWay name' := by
  rw [due, Reporting.without, List.filter_filter, due]
  split
  next same =>
      rw [List.filter_eq_nil_iff.2]
      · rfl
      · intro report _
        simp only [same, Bool.and_eq_true, decide_eq_true_eq, not_and]
        exact fun own different => different own.1
  next other =>
      congr 1
      apply List.filter_congr
      intro report _
      by_cases named : report.name = name'
      · simp [named, other]
      · simp [named]

theorem without (files : Files past reporting log) (nothing : due reporting.underWay name = []) :
    Files past (reporting.without name) log where
  fits := files.fits
  represents := files.represents
  told name' := by
    have told := files.told name'
    rw [due_without]
    split
    next same =>
        rw [same, nothing] at told
        rw [same]
        exact told
    next => exact told
  dated := files.dated
  taken report member := files.taken report (List.mem_filter.1 member).1
  ordered := files.ordered
  later report member := files.later report (List.mem_filter.1 member).1

theorem filter_name_concat (log : Log) (posting : Posting) (name : String) :
    (log ++ [posting]).filter (·.name = name) =
      log.filter (·.name = name) ++ if posting.name = name then [posting] else [] := by
  rw [List.filter_append]
  split
  next same => rw [List.filter_cons_of_pos (by simpa using same), List.filter_nil]
  next other => rw [List.filter_cons_of_neg (by simpa using other), List.filter_nil]

theorem file (files : Files past reporting log) (orderly : reporting.Orderly)
    (member : report ∈ reporting.underWay) (accepted : report.accepted = true)
    (read : report.reading = some reading) (timely : IsTimely reading) :
    ∃ posting, Files past ((reporting.without report.name).file report reading)
      (log ++ [posting]) := by
  obtain ⟨t, time, year⟩ := timely
  let reporter := reporting.scheduler.reporter
  let posting : Posting := ⟨report.name, report.status, t, reporter.executableName,
    reporter.version, .integer reporter.pid⟩
  have posts : (reporter.submission (some report.name) (some report.status) reading
      .null).posting? = some posting :=
    Store.posting?_eq_some.2 ⟨_, _, t, rfl, rfl, time, files.fits, rfl, rfl⟩
  have stamped : Store.HasFourDigitYear (reporter.submission (some report.name)
      (some report.status) reading .null).reportedAt := by
    intro t' time'
    rw [show t' = t from Except.ok.inj (time'.symm.trans time)]
    exact year
  have instant : posting.instant.micros = reading.utcMicros := Moment.micros_of_toInstant time
  have taken := files.taken report member reading (Option.mem_def.2 read)
  refine ⟨posting, files.fits, ?_, fun name => ?_, ?_, ?_, fun name => ?_, ?_⟩
  · have stored := (Store.step_insert files.represents stamped).2
    rw [Log.step, posts] at stored
    exact stored
  · have told := files.told name
    have remains : due ((reporting.without report.name).file report reading).underWay name =
        if name = report.name then [] else due reporting.underWay name :=
      due_without reporting report.name name
    rw [remains, filter_name_concat]
    by_cases same : report.name = name
    · subst same
      rw [due_of_mem orderly member, if_pos accepted] at told
      rw [if_pos rfl, if_pos rfl, List.map_append, List.append_nil]
      exact told
    · rw [if_neg same, if_neg (Ne.symm same), List.append_nil]
      exact told
  · refine List.forall_mem_append.2 ⟨files.dated, List.forall_mem_singleton.2 ?_⟩
    exact ⟨reading, taken, instant⟩
  · exact fun other member' => files.taken other (List.mem_filter.1 member').1
  · rw [filter_name_concat]
    split
    next same =>
        subst same
        rw [List.pairwise_append]
        refine ⟨files.ordered _, List.pairwise_singleton .., fun earlier old _ new => ?_⟩
        obtain ⟨old, named⟩ := List.mem_filter.1 old
        rw [List.mem_singleton.1 new, instant]
        exact files.later report member reading read earlier old (of_decide_eq_true named)
    next =>
        rw [List.append_nil]
        exact files.ordered name
  · intro other member' moment read' earlier listed named
    obtain ⟨old, different⟩ := List.mem_filter.1 member'
    rcases List.mem_append.1 listed with listed | new
    · exact files.later other old moment read' earlier listed named
    · rw [List.mem_singleton.1 new] at named
      exact absurd named.symm (of_decide_eq_true different)

theorem finish (files : Files past reporting log) (orderly : reporting.Orderly)
    (timely : ∀ reading ∈ past, IsTimely reading) (name : String) :
    ∃ log, Files past (reporting.finish name) log := by
  rw [Reporting.finish]
  split
  next => exact ⟨log, files⟩
  next report found =>
      have member := List.mem_of_find?_eq_some found
      have named : report.name = name := by simpa using List.find?_some found
      subst named
      split
      next accepted =>
          split
          next => exact ⟨log, files⟩
          next reading read =>
              have known := files.taken report member reading (Option.mem_def.2 read)
              obtain ⟨posting, files⟩ :=
                files.file orderly member accepted read (timely reading known)
              exact ⟨_, files⟩
      next failed => exact ⟨log, files.without (by rw [due_of_mem orderly member, if_neg failed])⟩

theorem step (files : Files past reporting log) (orderly : reporting.Orderly) (act : Act)
    (timely : ∀ reading ∈ past, IsTimely reading)
    (latest : ∀ reading ∈ act.reading?, ∀ earlier ∈ past, earlier.utcMicros ≤ reading.utcMicros) :
    ∃ log, Files (past ++ act.reading?.toList) (reporting.step act) log := by
  cases act with
  | move next =>
      have unread : past ++ (Act.move next).reading?.toList = past := List.append_nil past
      rw [unread, Reporting.step]
      split
      next => exact ⟨log, files⟩
      next => exact ⟨log, files.move next⟩
  | read name reading => exact ⟨log, files.read (latest reading rfl) name⟩
  | finish name =>
      have unread : past ++ (Act.finish name).reading?.toList = past := List.append_nil past
      rw [unread]
      exact files.finish orderly timely name

end Files

section Runs

variable {lanes : List Lane} {origin : Instant} {reporter : Reporter} {scheduler : Scheduler}
  {acts : List Act}

theorem exists_files (made : ofLanes lanes origin reporter = .ok scheduler)
    (fresh : ∀ lane ∈ lanes, lane.IsFresh) (fits : Cell.fitsInteger reporter.pid = true)
    (untriggered : ∀ names, .move (.trigger names) ∉ acts)
    (timely : ∀ reading ∈ readings acts, IsTimely reading)
    (steady : (readings acts).Pairwise fun a b => a.utcMicros ≤ b.utcMicros) :
    (run scheduler acts).Orderly ∧ ∃ log, Files (readings acts) (run scheduler acts) log := by
  induction acts using List.reverseRecOn with
  | nil =>
      have sound := isSound_of_ofLanes made fresh
      obtain ⟨-, rfl⟩ := ofLanes_eq_ok made
      refine ⟨⟨sound, rfl, .nil, by simp [run], by simp [run]⟩, [], ?_⟩
      exact ⟨fits, Store.represents_empty, fun _ => rfl, by simp, by simp [run], fun _ => .nil,
        by simp [run]⟩
  | append_singleton acts act ih =>
      rw [readings_concat] at timely steady ⊢
      obtain ⟨steady, -, latest⟩ := List.pairwise_append.1 steady
      obtain ⟨timely, -⟩ := List.forall_mem_append.1 timely
      obtain ⟨orderly, log, files⟩ := ih (fun names member =>
        untriggered names (List.mem_append_left _ member)) timely steady
      rw [run_concat]
      refine ⟨orderly.step ?_, files.step orderly act timely fun reading read earlier known =>
        latest earlier known reading (Option.mem_toList.2 read)⟩
      rintro names rfl
      exact untriggered names (List.mem_append_right _ (List.mem_singleton_self _))

theorem exists_moves (scheduler : Scheduler) (acts : List Act) : ∃ moves,
    scheduler.run moves = ((run scheduler acts).scheduler, (run scheduler acts).history) := by
  induction acts using List.reverseRecOn with
  | nil => exact ⟨[], rfl⟩
  | append_singleton acts act ih =>
      obtain ⟨moves, same⟩ := ih
      rw [run_concat]
      cases act with
      | move next =>
          rw [step]
          split
          next => exact ⟨moves, same⟩
          next =>
              refine ⟨moves ++ [next], ?_⟩
              rw [Scheduler.run_concat, same]
              rfl
      | read name reading => exact ⟨moves, same⟩
      | finish name =>
          refine ⟨moves, ?_⟩
          rw [same, step, finish]
          split
          next => rfl
          next =>
              split
              next => split <;> rfl
              next => rfl

theorem Orderly.filed_history {reporting : Reporting} (orderly : reporting.Orderly)
    (name : String) :
    filed (reporting.history.filter (·.probe.name = name)) =
      (courses name .loop reporting.history).reverse.flatMap filed := by
  have own : reporting.history.filter (Turn.isOf name .loop) =
      (reporting.history.filter (·.probe.name = name)).filter fun turn =>
        turn.actor = some .loop ∧ turn.effects ≠ [] := by
    rw [List.filter_filter]
    apply List.filter_congr
    intro turn _
    rw [Turn.isOf, Bool.decide_and, Bool.and_comm]
  rw [← filed_flatten, flatten_courses, own]
  symm
  apply filed_filter
  intro turn member unchosen
  rcases orderly.loops turn (List.mem_filter.1 member).1 with acts | nothing
  · have empty : turn.effects = [] := by simpa [acts] using unchosen
    rw [empty, List.filterMap_nil]
  · exact nothing

/-- Whenever no report is under way, the rows of a probe tell the verdicts of those of its
iterations whose reports did not fail, in their order, and the last of these verdicts is what the
newest row tells, however many reports have one time. The time that is looked back to must have a
year of four digits, too: the text of an earlier one stands behind those of the rows. A row is the
one that the program appends for a report in virtual time. -/
theorem rows_tell_reports (made : ofLanes lanes origin reporter = .ok scheduler)
    (fresh : ∀ lane ∈ lanes, lane.IsFresh) (fits : Cell.fitsInteger reporter.pid = true)
    (untriggered : ∀ names, .move (.trigger names) ∉ acts)
    (timely : ∀ reading ∈ readings acts, IsTimely reading)
    (steady : (readings acts).Pairwise fun a b => a.utcMicros ≤ b.utcMicros)
    (idle : (run scheduler acts).underWay = []) :
    (∃ table, (run scheduler acts).store.table = some table ∧
      ∀ lane ∈ (run scheduler acts).scheduler.lanes,
        let iterations := (courses lane.probe.name .loop (run scheduler acts).history).reverse
        (table.rows.filter (·.name = lane.probe.name)).map (·.status) = iterations.flatMap filed ∧
        (∀ turns ∈ iterations, filed turns = [] ∨ ∃ verdict, filed turns = [verdict.status] ∧
          (account turns).reports = [verdict.status] ∧
            ∀ result ∈ (account turns).results, result = .ok verdict) ∧
        ∀ since t, since.toInstant = .ok t → t.HasFourDigitYear →
          (∀ reading ∈ readings acts, t.micros < reading.utcMicros) →
          ∃ records, (run scheduler acts).store.recent since = .ok records ∧
            (latestStatuses records).lookup lane.probe.name =
              (iterations.flatMap filed).getLast?) ∧
    ∀ report time t, instantAfter (run scheduler acts).scheduler.origin time = .ok t →
      ((run scheduler acts).file report (.ofInstant t)).store =
        ({ (run scheduler acts).scheduler with store := (run scheduler acts).store }.recordReport
          ⟨time, some report.name, .reported report.status true⟩).store := by
  obtain ⟨orderly, log, files⟩ := exists_files made fresh fits untriggered timely steady
  obtain ⟨table, opened, rows⟩ := files.represents.exists_rows
  have told (name : String) : (log.filter (·.name = name)).map (·.status) =
      (courses name .loop (run scheduler acts).history).reverse.flatMap filed := by
    rw [← orderly.filed_history, ← files.told, idle, due, List.filter_nil, List.map_nil,
      List.append_nil]
  refine ⟨⟨table, opened, fun lane listed => ⟨?_, fun turns member => ?_, ?_⟩⟩,
    fun report _ _ stamped => store_file _ report stamped⟩
  · rw [rows, told]
  · obtain ⟨moves, same⟩ := exists_moves scheduler acts
    have listed' : lane ∈ (scheduler.run moves).1.lanes := by rwa [same]
    have member' : turns ∈ courses lane.probe.name .loop (scheduler.run moves).2 := by
      rw [same]
      exact List.mem_reverse.1 member
    exact (fate made fresh listed' member').filed
  · intro since t time year before
    obtain ⟨records, found, read⟩ := files.represents.exists_recent time year
    have recent : ∀ posting ∈ log, t.micros < posting.instant.micros := by
      intro posting member
      obtain ⟨reading, known, same⟩ := files.dated posting member
      rw [same]
      exact before reading known
    refine ⟨records, found, ?_⟩
    rw [Fleet.lookup_latestStatuses_of_ordered read recent (files.ordered _), told]

end Runs

def countedLanes : List Lane :=
  [{ probe := { name := "cache" }
     script :=
      { check := fun n => { outcome := [.ok .healthy, .error (.of .connection "refused")].getD n
                                          (.error (.of .runtime "pool is empty")) }
        reportFault := fun n _ => if n = 1 then some (.of .runtime "store is gone") else none } },
   { probe := { name := "node" }
     script := { check := fun _ => { outcome := .ok .healthy } } }]

def countedScheduler : Scheduler := { lanes := countedLanes, origin := default }

def iterate (name : String) (call : Nat) (acts : List Act) : List Act :=
  [.move (.fire name (.begins .loop)), .move (.fire name (.checkEnds call))] ++ acts ++
    [.move (.fire name (.reportEnds .loop))]

def countedActs : List Act :=
  .move .start ::
    iterate "cache" 0 ([.read "cache" Store.noon] ++
      iterate "node" 0 [.read "node" Store.noon, .finish "node"] ++ [.finish "cache"]) ++
    iterate "cache" 1 [.finish "cache"] ++
    iterate "cache" 2 [.read "cache" Store.noon, .finish "cache"]

def latestOfCounted (since : Moment) : Option (Option String) :=
  ((run countedScheduler countedActs).store.recent since).toOption.map fun records =>
    (latestStatuses records).lookup "cache"

theorem ofLanes_countedLanes : ofLanes countedLanes default {} = .ok countedScheduler := by cbv

theorem isFresh_of_mem_countedLanes {lane : Lane} (listed : lane ∈ countedLanes) :
    lane.IsFresh := by
  simp only [countedLanes, List.mem_cons, List.not_mem_nil, or_false] at listed
  rcases listed with rfl | rfl <;> exact ⟨rfl, rfl, rfl⟩

theorem untriggered_countedActs (names : List String) : .move (.trigger names) ∉ countedActs := by
  simp [countedActs, iterate]

theorem readings_countedActs :
    readings countedActs = [↑Store.noon, ↑Store.noon, ↑Store.noon] := rfl

theorem isTimely_of_mem_countedActs {reading : Moment} (read : reading ∈ readings countedActs) :
    IsTimely reading := by
  have noon : IsTimely Store.noon := ⟨Store.noon, rfl, by decide +kernel⟩
  rw [readings_countedActs] at read
  simp only [List.mem_cons, List.not_mem_nil, or_false, or_self] at read
  exact read ▸ noon

theorem steady_countedActs :
    (readings countedActs).Pairwise fun a b => a.utcMicros ≤ b.utcMicros := by
  simp [readings_countedActs]

theorem idle_countedActs : (run countedScheduler countedActs).underWay = [] := by
  rw [← List.length_eq_zero_iff]
  decide +kernel

theorem filed_countedActs :
    (courses "cache" .loop (run countedScheduler countedActs).history).reverse.map filed =
      [["OK"], [], ["RuntimeError: pool is empty"]] := by
  decide +kernel

theorem rows_tell_reports_countedActs :
    ofLanes countedLanes default {} = .ok countedScheduler ∧
      (∀ lane ∈ countedLanes, lane.IsFresh) ∧
      Cell.fitsInteger ({ } : Reporter).pid = true ∧
      (∀ names, .move (.trigger names) ∉ countedActs) ∧
      (∀ reading ∈ readings countedActs, IsTimely reading) ∧
      (readings countedActs).Pairwise (fun a b => a.utcMicros ≤ b.utcMicros) ∧
      (run countedScheduler countedActs).underWay = [] ∧
      (courses "cache" .loop (run countedScheduler countedActs).history).reverse.map filed =
        [["OK"], [], ["RuntimeError: pool is empty"]] ∧
      ((run countedScheduler countedActs).store.table.map fun table =>
        (table.rows.filter (·.name = "cache")).map (·.status)) =
          some ["OK", "RuntimeError: pool is empty"] ∧
      latestOfCounted Store.tenOClock = some (some "RuntimeError: pool is empty") := by
  have fresh : ∀ lane ∈ countedLanes, lane.IsFresh := fun _ => isFresh_of_mem_countedLanes
  have fits : Cell.fitsInteger ({ } : Reporter).pid = true := by decide +kernel
  have timely : ∀ reading ∈ readings countedActs, IsTimely reading := fun _ =>
    isTimely_of_mem_countedActs
  refine ⟨ofLanes_countedLanes, fresh, fits, untriggered_countedActs, timely, steady_countedActs,
    idle_countedActs, filed_countedActs, ?_⟩
  obtain ⟨⟨table, opened, told⟩, -⟩ := rows_tell_reports ofLanes_countedLanes fresh fits
    untriggered_countedActs timely steady_countedActs idle_countedActs
  obtain ⟨lane, listed, named⟩ : ∃ lane ∈ (run countedScheduler countedActs).scheduler.lanes,
      lane.probe.name = "cache" := by
    decide +kernel
  obtain ⟨rows, -, newest⟩ := told lane listed
  have before : ∀ reading ∈ readings countedActs, Store.tenOClock.micros < reading.utcMicros := by
    rw [readings_countedActs]
    decide +kernel
  obtain ⟨records, found, latest⟩ :=
    newest Store.tenOClock Store.tenOClock rfl (by decide +kernel) before
  rw [named, List.flatMap_def, filed_countedActs] at rows latest
  refine ⟨?_, ?_⟩
  · rw [opened, Option.map_some, rows]
    rfl
  · rw [latestOfCounted, found, Except.toOption, Option.map_some, latest]
    rfl

def earlyTime : Instant := ⟨-30641760000000000, by decide, by decide⟩

/-- After a time whose year has three digits no row is found, though all are later. -/
theorem recent_misses_early_time :
    (∀ names, .move (.trigger names) ∉ countedActs) ∧
      (∀ reading ∈ readings countedActs, IsTimely reading) ∧
      (readings countedActs).Pairwise (fun a b => a.utcMicros ≤ b.utcMicros) ∧
      (run countedScheduler countedActs).underWay = [] ∧
      (∀ reading ∈ readings countedActs, earlyTime.micros < reading.utcMicros) ∧
      (courses "cache" .loop (run countedScheduler countedActs).history).reverse.map filed =
        [["OK"], [], ["RuntimeError: pool is empty"]] ∧
      latestOfCounted earlyTime = some none := by
  refine ⟨untriggered_countedActs, fun _ => isTimely_of_mem_countedActs, steady_countedActs,
    idle_countedActs, ?_, filed_countedActs, by decide +kernel⟩
  rw [readings_countedActs]
  decide +kernel

end Reporting

end Liveness.Scheduler
