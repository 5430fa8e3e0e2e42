import Toolpath.Job.Run
import Toolpath.Proofs.Job.Composed

/-!
# The stages of a job

A job goes through four stages: the program, the position, the feed and the sink. It stops at the
first one that fails, so the sink is handed nothing or, once, all commands of the report that a run
to the end would give. What is reported is the failure of that first stage.
-/

namespace Toolpath

/-- What is reported for a failure of another side: itself if its cause is known, and otherwise the
cause that is made of its message. -/
structure Failure.Reported (cause : String → Fault) (f e : Failure) : Prop where
  known : ∀ c, f = .fault c → e = f
  other : (∀ c, f ≠ .fault c) → e = .fault (cause f.message)

theorem Failure.reported_iff {cause : String → Fault} {f e : Failure} :
    f.Reported cause e ↔ e = f.wrap cause := by
  constructor
  · intro h
    cases f with
    | fault c => exact h.known c rfl
    | io reason => exact h.other (by simp)
    | other text => exact h.other (by simp)
  · rintro rfl
    cases f with
    | fault c => exact ⟨fun _ _ ↦ rfl, fun h ↦ absurd rfl (h c)⟩
    | io reason => exact ⟨by simp, fun _ ↦ rfl⟩
    | other text => exact ⟨by simp, fun _ ↦ rfl⟩

/-! ## Before the sink -/

namespace Job

/-- The stages before the sink succeed and lead to this report. -/
structure Prepares (j : Job) (report : Report) : Prop where
  program : ∃ text, j.program = .ok text ∧ report.frame = Frame.ofProgram text
  position : j.position = .ok report.start
  composed : compose j.settings report.frame report.start j.feedText =
    .ok (report.feed, report.commands)

theorem Prepares.unique {j : Job} {r t : Report} (hr : j.Prepares r) (ht : j.Prepares t) :
    r = t := by
  obtain ⟨⟨text, htext, hframe⟩, hstart, hcomposed⟩ := hr
  obtain ⟨⟨text', htext', hframe'⟩, hstart', hcomposed'⟩ := ht
  obtain rfl := Except.ok.inj (htext.symm.trans htext')
  have hstarts := Except.ok.inj (hstart.symm.trans hstart')
  have hframes := hframe.trans hframe'.symm
  rw [hframes, hstarts] at hcomposed
  obtain ⟨hfeeds, hcommands⟩ := Prod.mk.inj (Except.ok.inj (hcomposed.symm.trans hcomposed'))
  cases r
  cases t
  simp_all

/-- The first stage before the sink that fails, and what is reported for it. -/
inductive FailsEarly (j : Job) : Failure → Prop where
  | program {f : Failure} (h : j.program = .error f) : FailsEarly j f
  | position {text : String} {f e : Failure} (hprogram : j.program = .ok text)
      (h : j.position = .error f) (hreport : f.Reported .positionUnavailable e) : FailsEarly j e
  | feed {text : String} {start : Point} (hprogram : j.program = .ok text)
      (hposition : j.position = .ok start) (h : ¬FeedAccepted (trimmed j.feedText)) :
      FailsEarly j (.fault (.invalidFeedRate (trimmed j.feedText)))

theorem prepare_cases (j : Job) :
    (∃ report, j.Prepares report ∧ j.prepare.2 = .ok report) ∨
      (∃ e, j.FailsEarly e ∧ j.prepare.2 = .error e) := by
  unfold prepare
  cases hprogram : j.program with
  | error f => exact Or.inr ⟨f, .program hprogram, rfl⟩
  | ok text =>
      cases hposition : j.position with
      | error f => exact Or.inr ⟨_, .position hprogram hposition (Failure.reported_iff.mpr rfl), rfl⟩
      | ok start =>
          dsimp only
          cases hcomposed : compose j.settings (Frame.ofProgram text) start j.feedText with
          | error e =>
              obtain ⟨hrefused, rfl⟩ := compose_eq_error_iff.mp hcomposed
              exact Or.inr ⟨_, .feed hprogram hposition hrefused, rfl⟩
          | ok composed =>
              exact Or.inl ⟨⟨Frame.ofProgram text, start, composed.1, composed.2⟩,
                ⟨⟨text, hprogram, rfl⟩, hposition, hcomposed⟩, rfl⟩

theorem Prepares.not_failsEarly {j : Job} {report : Report} (h : j.Prepares report)
    (e : Failure) : ¬j.FailsEarly e := by
  obtain ⟨⟨text, hprogram, -⟩, hposition, hcomposed⟩ := h
  rintro (h | ⟨-, h, -⟩ | ⟨-, -, h⟩)
  · rw [hprogram] at h
    cases h
  · rw [hposition] at h
    cases h
  · rw [compose_eq_error_iff.mpr ⟨h, rfl⟩] at hcomposed
    cases hcomposed

theorem FailsEarly.unique {j : Job} {e e' : Failure} (h : j.FailsEarly e) (h' : j.FailsEarly e') :
    e = e' := by
  cases h with
  | program h =>
      cases h' with
      | program h' => exact Except.error.inj (h.symm.trans h')
      | position hprogram => simp [h] at hprogram
      | feed hprogram => simp [h] at hprogram
  | position hprogram h hreport =>
      cases h' with
      | program h' => simp [h'] at hprogram
      | position _ h' hreport' =>
          obtain rfl := Except.error.inj (h.symm.trans h')
          rw [Failure.reported_iff.mp hreport, Failure.reported_iff.mp hreport']
      | feed _ hposition => simp [h] at hposition
  | feed hprogram hposition =>
      cases h' with
      | program h' => simp [h'] at hprogram
      | position _ h' => simp [h'] at hposition
      | feed => rfl

theorem prepare_eq_ok_iff {j : Job} {report : Report} :
    j.prepare.2 = .ok report ↔ j.Prepares report := by
  rcases prepare_cases j with ⟨r, hr, h⟩ | ⟨e, he, h⟩
  · rw [h, Except.ok.injEq]
    exact ⟨fun heq ↦ heq ▸ hr, hr.unique⟩
  · rw [h]
    exact ⟨fun heq ↦ (by cases heq), fun hr ↦ absurd he (hr.not_failsEarly e)⟩

theorem exists_prepares_iff {j : Job} : (∃ report, j.Prepares report) ↔
    (∃ text, j.program = .ok text) ∧ (∃ start, j.position = .ok start) ∧
      FeedAccepted (trimmed j.feedText) := by
  constructor
  · rintro ⟨report, ⟨text, hprogram, -⟩, hposition, hcomposed⟩
    exact ⟨⟨text, hprogram⟩, ⟨_, hposition⟩,
      (feedAccepted_iff_exists_compose _ _ _).mpr ⟨_, hcomposed⟩⟩
  · rintro ⟨⟨text, hprogram⟩, ⟨start, hposition⟩, hfeed⟩
    obtain ⟨⟨feed, commands⟩, hcomposed⟩ :=
      (feedAccepted_iff_exists_compose j.settings (Frame.ofProgram text) start).mp hfeed
    exact ⟨⟨Frame.ofProgram text, start, feed, commands⟩, ⟨text, hprogram, rfl⟩, hposition,
      hcomposed⟩

/-- What is reported before the sink: the survey, the missing movement, and last the feed of the report
beside the one that was entered. -/
theorem Prepares.events {j : Job} {report : Report} (h : j.Prepares report) :
    ∃ text entered, j.program = .ok text ∧
      enteredFeed j.settings (trimmed j.feedText) = .ok entered ∧
      j.prepare.1 = (surveyEvents text).map .survey ++
        (if report.frame.isDegenerate then [.noMovement] else []) ++
        [.converted entered j.settings.feedUnit report.feed] := by
  obtain ⟨⟨text, hprogram, hframe⟩, hposition, hcomposed⟩ := h
  obtain ⟨entered, hentered, hfeed, -⟩ := compose_eq_ok_iff.mp hcomposed
  refine ⟨text, entered, hprogram, hentered, ?_⟩
  unfold prepare
  rw [hprogram, hposition]
  dsimp only
  rw [← hframe, hcomposed, JobEvent.ofFeed, hentered, hfeed]

/-- A feed that is refused is not reported. -/
theorem FailsEarly.converted_notMem {j : Job} {e : Failure} (h : j.FailsEarly e) (entered : Binary64)
    (unit : FeedUnit) (feed : Binary64) : .converted entered unit feed ∉ j.prepare.1 := by
  unfold prepare
  cases h with
  | program h => simp [h]
  | position hprogram h => simp [hprogram, h]
  | feed hprogram hposition h =>
      have hrefused := enteredFeed_eq_error_iff (s := j.settings).mpr ⟨h, rfl⟩
      simp [hprogram, hposition, compose, JobEvent.ofFeed, hrefused]

example : (JobEvent.converted 100 .inchesPerMinute 2540).message =
    "Feed 100 in/min becomes 2540.0 for program units" := by
  decide +kernel

end Job

/-! ## At the sink -/

/-- The sink that also keeps what it is handed, one batch for each time. -/
def Sink.logging {σ : Type} (sink : Sink σ) : Sink (σ × List (List String)) where
  execute commands state :=
    let (left, result) := sink.execute commands state.1
    ((left, state.2 ++ [commands]), result)

namespace Job

variable {σ : Type}

theorem run_of_prepare_eq_error {j : Job} {e : Failure} (h : j.prepare.2 = .error e)
    (sink : Sink σ) (state : σ) :
    (j.run sink state).sink = state ∧ (j.run sink state).result = .error e := by
  unfold run
  generalize j.prepare = prepared at h
  obtain ⟨events, result⟩ := prepared
  obtain rfl : result = .error e := h
  exact ⟨rfl, rfl⟩

theorem run_of_prepare_eq_ok {j : Job} {report : Report} (h : j.prepare.2 = .ok report)
    (sink : Sink σ) (state : σ) :
    (j.run sink state).sink = (sink.execute report.commands state).1 ∧
      (j.run sink state).result = match (sink.execute report.commands state).2 with
        | .ok () => .ok report
        | .error f => .error (f.wrap .execution) := by
  unfold run
  generalize j.prepare = prepared at h
  obtain ⟨events, result⟩ := prepared
  obtain rfl : result = .ok report := h
  dsimp only
  split
  next hexecute => simp [hexecute]
  next hexecute => simp [hexecute]

/-- The first stage that fails, and what is reported for it. -/
inductive FailsFirst (j : Job) (sink : Sink σ) (state : σ) : Failure → Prop where
  | early {e : Failure} (h : j.FailsEarly e) : FailsFirst j sink state e
  | sink {report : Report} {f e : Failure} (hprepares : j.Prepares report)
      (h : (sink.execute report.commands state).2 = .error f) (hreport : f.Reported .execution e) :
      FailsFirst j sink state e

theorem Prepares.failsFirst_iff {j : Job} {report : Report} (h : j.Prepares report)
    {sink : Sink σ} {state : σ} {e : Failure} : j.FailsFirst sink state e ↔
      ∃ f, (sink.execute report.commands state).2 = .error f ∧ e = f.wrap .execution := by
  constructor
  · rintro (hearly | ⟨hprepares, hexecute, hreport⟩)
    · exact absurd hearly (h.not_failsEarly e)
    · rw [hprepares.unique h] at hexecute
      exact ⟨_, hexecute, Failure.reported_iff.mp hreport⟩
  · rintro ⟨f, hexecute, rfl⟩
    exact .sink h hexecute (Failure.reported_iff.mpr rfl)

theorem FailsEarly.failsFirst_iff {j : Job} {f : Failure} (h : j.FailsEarly f)
    {sink : Sink σ} {state : σ} {e : Failure} : j.FailsFirst sink state e ↔ e = f := by
  constructor
  · rintro (hearly | ⟨hprepares, -, -⟩)
    · exact hearly.unique h
    · exact absurd h (hprepares.not_failsEarly f)
  · rintro rfl
    exact .early h

theorem result_eq_ok_iff {j : Job} {sink : Sink σ} {state : σ} {report : Report} :
    (j.run sink state).result = .ok report ↔
      j.Prepares report ∧ (sink.execute report.commands state).2 = .ok () := by
  rcases prepare_cases j with ⟨r, hr, hprepare⟩ | ⟨f, hf, hprepare⟩
  · rw [(run_of_prepare_eq_ok hprepare sink state).2]
    constructor
    · intro h
      split at h
      next hexecute =>
        obtain rfl := Except.ok.inj h
        exact ⟨hr, hexecute⟩
      next => cases h
    · rintro ⟨hreport, hexecute⟩
      obtain rfl := hreport.unique hr
      rw [hexecute]
  · rw [(run_of_prepare_eq_error hprepare sink state).2]
    exact ⟨fun h ↦ (by cases h), fun h ↦ absurd hf (h.1.not_failsEarly f)⟩

theorem result_eq_error_iff {j : Job} {sink : Sink σ} {state : σ} {e : Failure} :
    (j.run sink state).result = .error e ↔ j.FailsFirst sink state e := by
  rcases prepare_cases j with ⟨r, hr, hprepare⟩ | ⟨f, hf, hprepare⟩
  · rw [(run_of_prepare_eq_ok hprepare sink state).2, hr.failsFirst_iff]
    cases (sink.execute r.commands state).2 <;> simp [eq_comm]
  · rw [(run_of_prepare_eq_error hprepare sink state).2, hf.failsFirst_iff, Except.error.injEq]
    exact eq_comm

theorem run_logging (j : Job) (sink : Sink σ) (state : σ) (log : List (List String)) :
    (j.run sink.logging (state, log)).sink.1 = (j.run sink state).sink ∧
      (j.run sink.logging (state, log)).result = (j.run sink state).result := by
  rcases prepare_cases j with ⟨r, -, hprepare⟩ | ⟨f, -, hprepare⟩
  · obtain ⟨hsink, hresult⟩ := run_of_prepare_eq_ok hprepare sink state
    obtain ⟨hlogged, hresult'⟩ := run_of_prepare_eq_ok hprepare sink.logging (state, log)
    rw [hsink, hresult, hlogged, hresult']
    exact ⟨rfl, rfl⟩
  · obtain ⟨hsink, hresult⟩ := run_of_prepare_eq_error hprepare sink state
    obtain ⟨hlogged, hresult'⟩ := run_of_prepare_eq_error hprepare sink.logging (state, log)
    rw [hsink, hresult, hlogged, hresult']
    exact ⟨rfl, rfl⟩

end Job

end Toolpath
