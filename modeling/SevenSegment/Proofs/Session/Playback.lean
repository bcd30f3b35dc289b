import SevenSegment.Proofs.Session.Trace

namespace SevenSegment.Line

structure Playback where
  left : List Call

-- A call that the record does not go on with is answered as by a line on its own.
instance : Gpio Playback where
  configure _ _ lines :=
    match lines.left with
    | .configure _ _ answer :: left => (answer, ⟨left⟩)
    | _ => (.ok (), lines)
  read _ lines :=
    match lines.left with
    | .read _ answer :: left => (answer, ⟨left⟩)
    | _ => (.ok true, lines)

variable {σ : Type} [Gpio σ]

-- An operation that made some calls comes to the same over a playback of them, whatever is left of
-- the playback then.
def Replays {α β : Type} (before : List Call) (first : α × β × Recorded σ)
    (again : Recorded Playback → α × β × Recorded Playback) : Prop :=
  ∃ made, first.2.2.calls = before ++ made ∧
    ∀ left said, again ⟨⟨made ++ left⟩, said⟩ = (first.1, first.2.1, ⟨⟨left⟩, said ++ made⟩)

theorem Pin.follow_replays (path : List Role) (pin : Pin) (record : Recorded σ) :
    Replays record.calls (follow path pin record) (follow path pin) := by
  induction path generalizing pin record with
  | nil => exact ⟨[], by simp [follow], by simp [follow]⟩
  | cons role path ih =>
      cases hanswer : (Gpio.configure pin.line role record.lines).1 with
      | error error =>
          exact ⟨[.configure pin.line role (.error error)],
            by simp only [follow, Gpio.configure, hanswer],
            fun left said => by
              simp only [follow, Gpio.configure, hanswer, List.singleton_append]⟩
      | ok =>
          obtain ⟨made, hmade, hagain⟩ := ih { pin with role }
            ⟨(Gpio.configure pin.line role record.lines).2,
              record.calls ++ [.configure pin.line role (.ok ())]⟩
          refine ⟨.configure pin.line role (.ok ()) :: made, ?_, fun left said => ?_⟩
          · simp only [follow, Gpio.configure, hanswer, hmade, List.append_assoc,
              List.singleton_append]
          · simp only [follow, Gpio.configure, hanswer, List.cons_append, hagain,
              List.append_assoc, List.nil_append]

omit [Gpio σ] in
-- What an operation does after another one, it does again after the other one was played back.
theorem Replays.trans {α β γ δ : Type} {before made : List Call} {first : α × β × Recorded σ}
    {second : γ × δ × Recorded σ} {next again : Recorded Playback → γ × δ × Recorded Playback}
    (hsecond : Replays first.2.2.calls second next) (hmade : first.2.2.calls = before ++ made)
    (hagain : ∀ left said, again ⟨⟨made ++ left⟩, said⟩ = next ⟨⟨left⟩, said ++ made⟩) :
    Replays before second again := by
  obtain ⟨more, hmore, hnext⟩ := hsecond
  refine ⟨made ++ more, by rw [hmore, hmade, List.append_assoc], fun left said => ?_⟩
  rw [List.append_assoc, hagain, hnext, List.append_assoc]

theorem Pin.release_replays (pin : Pin) (record : Recorded σ) :
    Replays record.calls (pin.release record) pin.release := by
  obtain ⟨made, hmade, hagain⟩ := follow_replays (pin.role.path .released) pin record
  generalize hentered : follow (pin.role.path .released) pin record = entered at hmade hagain
  obtain ⟨done, pin', after⟩ := entered
  cases done with
  | error error =>
      have hrelease : pin.release record = (.error error, pin', after) := by
        simp only [release, enter, hentered]
      rw [hrelease]
      exact ⟨made, hmade, fun left said => by simp only [release, enter, hagain]⟩
  | ok =>
      have hrelease : pin.release record =
          ((Gpio.read pin'.line after).1, pin', (Gpio.read pin'.line after).2) := by
        simp only [release, enter, hentered]
      have hread : Replays after.calls
          ((Gpio.read pin'.line after).1, pin', (Gpio.read pin'.line after).2)
          (fun lines => ((Gpio.read pin'.line lines).1, pin', (Gpio.read pin'.line lines).2)) :=
        ⟨[.read pin'.line (Gpio.read pin'.line after.lines).1], rfl, fun _ _ => rfl⟩
      rw [hrelease]
      exact hread.trans hmade fun left said => by simp only [release, enter, hagain]

theorem Link.release_replays (link : Link) (wire : Wire) (record : Recorded σ) :
    Replays record.calls (link.release wire record) (link.release wire) := by
  obtain ⟨made, hmade, hagain⟩ := (link.pin wire).release_replays record
  exact ⟨made, hmade, fun left said => by simp only [release, hagain]⟩

theorem Link.pullLow_replays (link : Link) (wire : Wire) (record : Recorded σ) :
    Replays record.calls (link.pullLow wire record) (link.pullLow wire) := by
  obtain ⟨made, hmade, hagain⟩ :=
    Pin.follow_replays ((link.pin wire).role.path .low) (link.pin wire) record
  exact ⟨made, hmade, fun left said => by
    simp only [pullLow, Pin.pullLow, Pin.enter, hagain]⟩

theorem Link.perform_replays (link : Link) (move : Move) (record : Recorded σ) :
    Replays record.calls (link.perform move record) (link.perform move) := by
  cases move with
  | release wire => exact link.release_replays wire record
  | pullLow wire =>
      obtain ⟨made, hmade, hagain⟩ := link.pullLow_replays wire record
      exact ⟨made, hmade, fun left said => by simp only [perform, hagain]⟩
  | probe =>
      obtain ⟨made, hmade, hagain⟩ := link.release_replays .clock record
      generalize hclock : link.release .clock record = clock at hmade hagain
      obtain ⟨level, link', after⟩ := clock
      rcases level with error | up
      · have hprobe : link.perform .probe record = (.error error, link', after) := by
          simp only [perform, hclock]
        rw [hprobe]
        exact ⟨made, hmade, fun left said => by simp only [perform, hagain]⟩
      cases up with
      | false =>
          have hprobe : link.perform .probe record = (.ok false, link', after) := by
            simp only [perform, hclock]
          rw [hprobe]
          exact ⟨made, hmade, fun left said => by simp only [perform, hagain]⟩
      | true =>
          have hprobe : link.perform .probe record = link'.release .data after := by
            simp only [perform, hclock]
          rw [hprobe]
          exact (link'.release_replays .data after).trans hmade fun left said => by
            simp only [perform, hagain]

end SevenSegment.Line

namespace SevenSegment.Session

open Line (Call Gpio Link Playback Recorded)
open Panel (Payload)

variable {σ : Type} [Gpio σ]

theorem step_replays (session : Session) (resetPulses : UInt8) (link : Link) (lines : σ)
    (left said : List Call) :
    let step := session.step resetPulses link (⟨lines, []⟩ : Recorded σ)
    session.step resetPulses link (⟨⟨step.lines.calls ++ left⟩, said⟩ : Recorded Playback) =
      ⟨step.session, step.link, ⟨⟨left⟩, said ++ step.lines.calls⟩, step.progress, step.notes⟩ := by
  intro step
  cases hmove : session.move? with
  | none =>
      have hstep : step = ⟨session, link, ⟨lines, []⟩, .trapped .payloadOverrun,
          [.step session.stage]⟩ := by simp only [step, Session.step, hmove]
      rw [hstep]
      simp only [Session.step, hmove, List.nil_append, List.append_nil]
  | some move =>
      obtain ⟨made, hmade, hagain⟩ := link.perform_replays move (⟨lines, []⟩ : Recorded σ)
      have hcalls : step.lines.calls = made := by
        simpa only [step, Session.step, hmove, List.nil_append] using hmade
      rw [hcalls]
      simp only [step, Session.step, hmove, hagain]

-- A session that sends a payload by itself, on lines that answer as this record tells.
def bare (payload : Payload) (resetPulses : UInt8) (link : Link) (calls : List Call) (count : Nat) :
    Run (Recorded Playback) :=
  sending payload resetPulses link ⟨⟨calls⟩, []⟩ count

section Shadows

variable (payload : Payload) (resetPulses : UInt8) (start : Link)

-- A session elsewhere has made the calls of a record, and the bare one over that record stands
-- where it does. What is left of the playback then is for the steps to come.
def Shadows (calls : List Call) (count : Nat) (session : Session) (link : Link)
    (progress : Progress) : Prop :=
  ∃ stages notes, stages.size = count ∧ ∀ left,
    bare payload resetPulses start (calls ++ left) count =
      ⟨session, link, ⟨⟨left⟩, calls⟩, stages, progress, notes⟩

theorem shadows_load : Shadows payload resetPulses start [] 0 (load payload) start .active :=
  ⟨#[], #[], rfl, fun _ => rfl⟩

variable {payload resetPulses start}

theorem Shadows.step {calls : List Call} {count : Nat} {session : Session} {link : Link}
    (h : Shadows payload resetPulses start calls count session link .active) (lines : σ) :
    let step := session.step resetPulses link (⟨lines, []⟩ : Recorded σ)
    Shadows payload resetPulses start (calls ++ step.lines.calls) (count + 1) step.session
      step.link step.progress := by
  intro step
  obtain ⟨stages, notes, hsize, hbare⟩ := h
  refine ⟨stages.push session.stage, notes ++ step.notes, by simp [hsize], fun left => ?_⟩
  have hbefore := hbare (step.lines.calls ++ left)
  rw [bare] at hbefore
  rw [bare, sending_succ, List.append_assoc, hbefore, if_pos rfl, Run.step,
    session.step_replays resetPulses link lines left calls]

end Shadows

end SevenSegment.Session
