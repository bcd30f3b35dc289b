import SevenSegment.Proofs.Line.Moves
import SevenSegment.Proofs.Session.Word

namespace SevenSegment.Session

open Line (Alike Call Gpio LineId Link LineError Move Recorded Tells sampled)
open Panel (Payload)

-- The fault that an answer means in this stage.
def Stage.fault? (stage : Stage) (up : Bool) : Option Fault :=
  match stage with
  | .resetVerify => if up then none else some .busStuck
  | .bitDrive | .stopDataRelease => if up then none else some .dataHeld
  | .bitClockRelease | .ackClockRelease | .stopClockRelease => if up then none else some .clockHeld
  | .ackSample => if up then some .nack else none
  | _ => none

-- The same, told from the calls that the stage made on its lines.
def Stage.violation? (stage : Stage) (link : Link) (calls : List Call) : Option Fault :=
  if calls.any Call.failed then some .pin
  else
    match stage with
    | .resetVerify =>
      if sampled link.clock.line false calls || sampled link.data.line false calls then
        some .busStuck
      else none
    | .bitDrive | .stopDataRelease =>
      if sampled link.data.line false calls then some .dataHeld else none
    | .bitClockRelease | .ackClockRelease | .stopClockRelease =>
      if sampled link.clock.line false calls then some .clockHeld else none
    | .ackSample => if sampled link.data.line true calls then some .nack else none
    | _ => none

theorem settle_of_fault {session : Session} (resetPulses : UInt8) {up : Bool} {fault : Fault}
    (h : session.stage.fault? up = some fault) :
    session.settle resetPulses up = .error fault := by
  obtain ⟨payload, bits, pulses, stage⟩ := session
  cases stage <;> cases up <;> cases h <;> rfl

theorem settle_of_fine {session : Session} {resetPulses : UInt8} {up : Bool} (busy : Bool)
    (h : session.stage.fault? up = none) (hidle : session.stage = .idle → up = !busy) :
    session.settle resetPulses up = session.settle resetPulses (session.stage.expects busy) := by
  obtain ⟨payload, bits, pulses, stage⟩ := session
  cases stage with
  | idle => rw [hidle rfl]; rfl
  | _ => cases up <;> first | rfl | cases h

@[simp]
theorem countBit_stage (session : Session) : session.countBit.stage = session.stage := by
  unfold countBit
  split <;> rfl

theorem move?_eq_none_iff (session : Session) :
    session.move? = none ↔ session.stage = .bitDrive ∧ Payload.totalBits ≤ session.bits := by
  obtain ⟨payload, bits, pulses, stage⟩ := session
  have hbit := payload.bit?_isSome_iff bits
  cases stage <;> simp [move?]
  simp only [Option.isSome_iff_ne_none, ne_eq] at hbit
  rw [← Nat.not_lt, ← hbit, Classical.not_not]

theorem Walk.payload_eq {resetPulses : UInt8} {busy : Bool} {first last : Session}
    {codes : List Nat} (h : Walk resetPulses busy first codes last) :
    last.payload = first.payload := by
  induction h with
  | nil => rfl
  | cons hsettle _ ih => rw [ih, payload_of_settle hsettle]

variable {σ : Type} [Gpio σ]

namespace Run

-- The calls that the next step makes on the lines.
def calls (run : Run σ) (resetPulses : UInt8) : List Call :=
  (run.session.step resetPulses run.link (⟨run.lines, []⟩ : Recorded σ)).lines.calls

def violation? (run : Run σ) (resetPulses : UInt8) : Option Fault :=
  run.session.stage.violation? run.link (run.calls resetPulses)

-- Whether the next step samples a wire low.
def samplesLow (run : Run σ) (resetPulses : UInt8) : Bool :=
  sampled run.link.clock.line false (run.calls resetPulses) ||
    sampled run.link.data.line false (run.calls resetPulses)

def codes (run : Run σ) : List Nat := run.stages.toList.map Stage.code

theorem codes_step (run : Run σ) (resetPulses : UInt8) :
    (run.step resetPulses).codes = run.codes ++ [run.session.stage.code] := by
  simp [codes, step]

theorem extend_succ (resetPulses : UInt8) (count : Nat) (run : Run σ) :
    run.extend resetPulses (fun _ => false) (count + 1) =
      if (run.extend resetPulses (fun _ => false) count).progress = .active then
        (run.extend resetPulses (fun _ => false) count).step resetPulses
      else run.extend resetPulses (fun _ => false) count := by
  induction count generalizing run with
  | zero => by_cases h : run.progress = .active <;> simp [extend, h]
  | succ count ih =>
      rw [extend]
      by_cases h : run.progress = .active
      · simp only [h, ne_eq, not_true_eq_false, Bool.false_eq_true, and_false, or_self, if_false]
        rw [ih]
        simp only [extend, h, ne_eq, not_true_eq_false, Bool.false_eq_true, and_false, or_self,
          if_false]
      · simp [extend, h]

-- The calls of a step tell its answer as far as the session looks at it.
theorem violation?_eq (run : Run σ) (resetPulses : UInt8) {move : Move}
    (hmove : run.session.move? = some move) :
    run.violation? resetPulses =
      match (run.link.perform move run.lines).1 with
      | .error _ => some .pin
      | .ok up => run.session.stage.fault? up := by
  obtain ⟨made, hmade, htells⟩ := run.link.perform_tells move (⟨run.lines, []⟩ : Recorded σ)
  obtain ⟨hanswer, -, -⟩ := Recorded.alike_lines.perform run.link move (fun _ => trivial)
    (rfl : (⟨run.lines, []⟩ : Recorded σ).lines = run.lines)
  have hcalls : run.calls resetPulses = made := by
    simpa only [calls, Session.step, hmove, List.nil_append] using hmade
  rw [hanswer] at htells
  simp only [violation?, hcalls]
  generalize (run.link.perform move run.lines).1 = answer at htells
  cases answer with
  | error error =>
      obtain ⟨call, hmem, hfailed⟩ := htells
      simp only [Stage.violation?, if_pos (List.any_eq_true.mpr ⟨call, hmem, hfailed⟩)]
  | ok up =>
      obtain ⟨hfailed, hsamples⟩ := htells
      simp only [Stage.violation?, hfailed, Bool.false_eq_true, if_false]
      cases hstage : run.session.stage
      case bitDrive =>
          simp only [move?, hstage, Option.map_eq_some_iff] at hmove
          obtain ⟨bit, -, rfl⟩ := hmove
          cases bit <;> cases up <;> simp_all [Move.Samples, Stage.fault?, Link.pin]
      all_goals
        simp only [move?, hstage, Option.some.injEq] at hmove
        subst hmove
        cases up <;> simp_all [Move.Samples, Stage.fault?, Link.pin]

-- A step that drives a bit leaves the clock alone, and the data wire where the bit puts it.
theorem step_drives {run : Run σ} {bit : Bool}
    (hmove : run.session.move? = some (if bit then .release .data else .pullLow .data))
    (resetPulses : UInt8) :
    (run.step resetPulses).link.clock = run.link.clock ∧
      (run.violation? resetPulses ≠ some .pin →
        (run.step resetPulses).link.data.role = if bit then .released else .low) := by
  have hviolation := run.violation?_eq resetPulses hmove
  simp only [step, Session.step, hmove]
  constructor
  · cases bit <;> rfl
  · intro hpin
    cases hanswer : (run.link.perform (if bit then .release .data else .pullLow .data)
        run.lines).1 with
    | error error =>
        rw [hanswer] at hviolation
        exact absurd hviolation hpin
    | ok up =>
        have hmoved := Link.moved_of_ok hanswer
        cases bit with
        | false =>
            simp only [Bool.false_eq_true, if_false, Link.Moved] at hmoved ⊢
            rw [hmoved]
            rfl
        | true =>
            simp only [if_true, Link.Moved] at hmoved ⊢
            rw [hmoved]
            rfl

-- A probe samples a wire low just when it does not find both up.
theorem samplesLow_eq (run : Run σ) (resetPulses : UInt8) (hmove : run.session.move? = some .probe)
    {up : Bool} (hanswer : (run.link.perform .probe run.lines).1 = .ok up) :
    run.samplesLow resetPulses = !up := by
  obtain ⟨made, hmade, htells⟩ := run.link.perform_tells .probe (⟨run.lines, []⟩ : Recorded σ)
  obtain ⟨hsame, -, -⟩ := Recorded.alike_lines.perform run.link .probe (fun _ => trivial)
    (rfl : (⟨run.lines, []⟩ : Recorded σ).lines = run.lines)
  have hcalls : run.calls resetPulses = made := by
    simpa only [calls, Session.step, hmove, List.nil_append] using hmade
  rw [hsame, hanswer] at htells
  rw [samplesLow, hcalls]
  exact htells.2

-- A step of a session that has such a walk before it: either its calls show a fault, which ends
-- the session, or it takes the walk's first stage.
theorem step_cases {run : Run σ} {resetPulses : UInt8} {busy : Bool} {code : Nat}
    {rest : List Nat} {last : Session}
    (hwalk : Walk resetPulses busy run.session (code :: rest) last)
    (hbits : run.session.stage = .bitDrive → run.session.bits < Payload.totalBits)
    (hbusy : run.session.stage = .idle → run.samplesLow resetPulses = busy) :
    (∃ fault, run.violation? resetPulses = some fault ∧
      (run.step resetPulses).progress = .complete (.failed fault)) ∨
    (run.violation? resetPulses = none ∧
      Walk resetPulses busy (run.step resetPulses).session rest last ∧
      (run.step resetPulses).progress =
        if (run.step resetPulses).session.stage = .idle then .complete .sent else .active) := by
  obtain ⟨move, hmove⟩ : ∃ move, run.session.move? = some move := by
    apply Option.ne_none_iff_exists'.mp
    intro hnone
    obtain ⟨hstage, hover⟩ := (move?_eq_none_iff _).mp hnone
    exact absurd (hbits hstage) (Nat.not_lt.mpr hover)
  have hviolation := run.violation?_eq resetPulses hmove
  simp only [step, Session.step, hmove]
  cases hanswer : (run.link.perform move run.lines).1 with
  | error error =>
      rw [hanswer] at hviolation
      exact .inl ⟨.pin, hviolation, rfl⟩
  | ok up =>
      rw [hanswer] at hviolation
      simp only at hviolation
      cases hfault : run.session.stage.fault? up with
      | some fault =>
          refine .inl ⟨fault, hviolation.trans hfault, ?_⟩
          have hsettle := settle_of_fault resetPulses
            ((congrArg (Stage.fault? · up) run.session.countBit_stage).trans hfault)
          simp only [react, hsettle, abort]
      | none =>
          refine .inr ⟨hviolation.trans hfault, ?_⟩
          cases hwalk with
          | cons hexpected hrest =>
              rename_i next
              have hup : run.session.stage = .idle → up = !busy := by
                intro hidle
                have hprobe : move = .probe := by
                  simpa [move?, hidle] using hmove.symm
                subst hprobe
                rw [← hbusy hidle, run.samplesLow_eq resetPulses hmove hanswer, Bool.not_not]
              have hsettle : run.session.countBit.settle resetPulses up = .ok next := by
                rw [settle_of_fine busy (by simpa using hfault) (by simpa using hup)]
                simpa using hexpected
              simp only [react, hsettle]
              exact ⟨hrest, trivial⟩

end Run

-- A payload on its way, after so many steps or at its end.
def sending (payload : Payload) (resetPulses : UInt8) (link : Link) (lines : σ) (count : Nat) :
    Run σ :=
  (load payload).run resetPulses link lines count fun _ => false

theorem sending_succ (payload : Payload) (resetPulses : UInt8) (link : Link) (lines : σ)
    (count : Nat) :
    sending payload resetPulses link lines (count + 1) =
      if (sending payload resetPulses link lines count).progress = .active then
        (sending payload resetPulses link lines count).step resetPulses
      else sending payload resetPulses link lines count :=
  Run.extend_succ resetPulses count { session := load payload, link, lines }

theorem sending_sameLines (payload : Payload) (resetPulses : UInt8) (link : Link) (lines : σ)
    (count : Nat) : (sending payload resetPulses link lines count).link.SameLines link := by
  induction count with
  | zero => exact fun _ => rfl
  | succ count ih =>
      rw [sending_succ]
      split
      · exact (step_sameLines _ _ _ _).trans ih
      · exact ih

theorem sending_payload (payload : Payload) (resetPulses : UInt8) (link : Link) (lines : σ)
    (count : Nat) : (sending payload resetPulses link lines count).session.payload = payload := by
  induction count with
  | zero => rfl
  | succ count ih =>
      rw [sending_succ]
      split
      · exact (step_payload _ _ _ _).trans ih
      · exact ih

-- Two runs that differ at most in their lines, and there only as the relation allows.
structure Run.Agree {τ : Type} (related : σ → τ → Prop) (first : Run σ) (second : Run τ) : Prop where
  session : first.session = second.session
  link : first.link = second.link
  progress : first.progress = second.progress
  lines : related first.lines second.lines

theorem sending_agree {τ : Type} [Gpio τ] {on : LineId → Prop} {related : σ → τ → Prop}
    (alike : Alike on related) (payload : Payload) (resetPulses : UInt8) (link : Link)
    (hon : ∀ wire, on (link.pin wire).line) {first : σ} {second : τ} (h : related first second)
    (count : Nat) :
    (sending payload resetPulses link first count).Agree related
      (sending payload resetPulses link second count) := by
  induction count with
  | zero => exact ⟨rfl, rfl, rfl, h⟩
  | succ count ih =>
      have hsame := sending_sameLines payload resetPulses link first count
      rw [sending_succ, sending_succ]
      generalize sending payload resetPulses link first count = one at ih hsame
      generalize sending payload resetPulses link second count = two at ih
      rw [← ih.progress]
      split
      · obtain ⟨hsession, hlink, hprogress, -, hlines⟩ := step_agree alike one.session resetPulses
          one.link (fun wire => hsame wire ▸ hon wire) ih.lines
        simp only [Run.step, ← ih.session, ← ih.link]
        exact ⟨hsession, hlink, hprogress, hlines⟩
      · exact ih

-- The word a payload spells: a bus that is found busy is reset first.
def spelled (payload : Payload) (resetPulses : UInt8) (link : Link) (lines : σ) : List Nat :=
  word resetPulses ((sending payload resetPulses link lines 0).samplesLow resetPulses)

theorem zero_notMem_tail_word (resetPulses : UInt8) (busy : Bool) :
    0 ∉ (word resetPulses busy).tail := by
  have hpayload : 0 ∉ payloadCodes := by decide
  have hreset : 0 ∉ resetCodes resetPulses := by
    simp only [resetCodes, List.mem_append, List.mem_flatten, List.mem_replicate]
    rintro (⟨codes, ⟨-, rfl⟩, hmem⟩ | hmem)
    · exact absurd hmem (by decide)
    · exact absurd hmem (by decide)
  cases busy <;> simp [word, hpayload, hreset]

section Course

variable (payload : Payload) (resetPulses : UInt8) (link : Link) (lines : σ)

-- Where a payload stands after so many steps.
inductive Course (count : Nat) : Prop where
  | underWay (rest : List Nat) :
      (sending payload resetPulses link lines count).progress = .active →
      Walk resetPulses ((sending payload resetPulses link lines 0).samplesLow resetPulses)
        (sending payload resetPulses link lines count).session rest
        ⟨payload, Payload.totalBits, 0, .idle⟩ →
      rest ≠ [] →
      (sending payload resetPulses link lines count).codes ++ rest =
        spelled payload resetPulses link lines →
      (sending payload resetPulses link lines count).codes.length = count →
      (∀ earlier < count,
        (sending payload resetPulses link lines earlier).violation? resetPulses = none) →
      Course count
  | sent :
      (sending payload resetPulses link lines count).progress = .complete .sent →
      (sending payload resetPulses link lines count).codes =
        spelled payload resetPulses link lines →
      (spelled payload resetPulses link lines).length ≤ count →
      (∀ earlier < (spelled payload resetPulses link lines).length,
        (sending payload resetPulses link lines earlier).violation? resetPulses = none) →
      Course count
  | failed (fault : Fault) (last : Nat) :
      (sending payload resetPulses link lines count).progress = .complete (.failed fault) →
      (sending payload resetPulses link lines count).codes =
        (spelled payload resetPulses link lines).take (last + 1) →
      last < count →
      last < (spelled payload resetPulses link lines).length →
      (sending payload resetPulses link lines last).violation? resetPulses = some fault →
      (∀ earlier < last,
        (sending payload resetPulses link lines earlier).violation? resetPulses = none) →
      Course count

variable {payload resetPulses link lines}

-- Bits are driven in order, and each stage that drives one is on the word.
theorem Course.bits_eq {count : Nat} {rest : List Nat}
    (hwalk : Walk resetPulses ((sending payload resetPulses link lines 0).samplesLow resetPulses)
      (sending payload resetPulses link lines count).session rest
      ⟨payload, Payload.totalBits, 0, .idle⟩)
    (hcodes : (sending payload resetPulses link lines count).codes ++ rest =
      spelled payload resetPulses link lines) :
    (sending payload resetPulses link lines count).session.driven =
      (sending payload resetPulses link lines count).codes.count 31 := by
  have hall := (walk_word resetPulses
    ((sending payload resetPulses link lines 0).samplesLow resetPulses) payload).driven_eq
  have hrest := hwalk.driven_eq
  have hcount := congrArg (List.count 31) hcodes
  rw [List.count_append] at hcount
  have hload : (load payload).driven = 0 := rfl
  simp only [spelled] at hcount
  omega

theorem bits_lt_of_walk {busy : Bool} {session : Session} {rest : List Nat}
    (hwalk : Walk resetPulses busy session rest ⟨payload, Payload.totalBits, 0, .idle⟩)
    (hne : rest ≠ []) (hstage : session.stage = .bitDrive) :
    session.bits < Payload.totalBits := by
  have hdriven := hwalk.driven_eq
  cases hwalk with
  | nil => exact absurd rfl hne
  | cons _ _ =>
      have hfinal : driven ⟨payload, Payload.totalBits, 0, .idle⟩ = Payload.totalBits := rfl
      have hnow : session.driven = session.bits := by simp [driven, hstage]
      rw [List.count_cons, hstage] at hdriven
      simp only [Stage.code, beq_self_eq_true, if_true] at hdriven
      omega

-- The first stage is the only one with code 0, so a session under way is idle only at its start.
theorem Course.eq_zero_of_idle {count : Nat} {rest : List Nat}
    (hcodes : (sending payload resetPulses link lines count).codes ++ 0 :: rest =
      spelled payload resetPulses link lines)
    (hlength : (sending payload resetPulses link lines count).codes.length = count) :
    count = 0 := by
  have htail := zero_notMem_tail_word resetPulses
    ((sending payload resetPulses link lines 0).samplesLow resetPulses)
  rw [show word _ _ = _ from hcodes.symm] at htail
  cases hdone : (sending payload resetPulses link lines count).codes with
  | nil => simpa [hdone] using hlength.symm
  | cons code done => simp [hdone] at htail

-- One more step of a session that is under way.
theorem Course.next {count code : Nat} {rest : List Nat}
    (hactive : (sending payload resetPulses link lines count).progress = .active)
    (hwalk : Walk resetPulses ((sending payload resetPulses link lines 0).samplesLow resetPulses)
      (sending payload resetPulses link lines count).session (code :: rest)
      ⟨payload, Payload.totalBits, 0, .idle⟩)
    (hcodes : (sending payload resetPulses link lines count).codes ++ code :: rest =
      spelled payload resetPulses link lines)
    (hlength : (sending payload resetPulses link lines count).codes.length = count)
    (hfine : ∀ earlier < count,
      (sending payload resetPulses link lines earlier).violation? resetPulses = none) :
    Course payload resetPulses link lines (count + 1) := by
  have hnext : sending payload resetPulses link lines (count + 1) =
      (sending payload resetPulses link lines count).step resetPulses := by
    rw [sending_succ, if_pos hactive]
  have hdone : (sending payload resetPulses link lines (count + 1)).codes =
      (sending payload resetPulses link lines count).codes ++ [code] := by
    rw [hnext, Run.codes_step, hwalk.head_code]
  have hlong : count < (spelled payload resetPulses link lines).length := by
    rw [← hcodes, List.length_append, List.length_cons]
    omega
  have hbusy : (sending payload resetPulses link lines count).session.stage = .idle →
      (sending payload resetPulses link lines count).samplesLow resetPulses =
        (sending payload resetPulses link lines 0).samplesLow resetPulses := by
    intro hidle
    obtain rfl : Stage.idle.code = code := hidle ▸ hwalk.head_code
    rw [eq_zero_of_idle hcodes hlength]
  rcases Run.step_cases hwalk (bits_lt_of_walk hwalk (by simp)) hbusy with
    ⟨fault, hfault, hprogress⟩ | ⟨hnone, hrest, hprogress⟩
  · refine .failed fault count (hnext ▸ hprogress) ?_ (by omega) hlong hfault hfine
    rw [hdone, ← hcodes, List.take_append, List.take_of_length_le (by omega), hlength]
    simp
  · have hfine' : ∀ earlier < count + 1,
        (sending payload resetPulses link lines earlier).violation? resetPulses = none := by
      intro earlier h
      rcases Nat.lt_succ_iff_lt_or_eq.mp h with h | rfl
      · exact hfine earlier h
      · exact hnone
    have hcodes' : (sending payload resetPulses link lines (count + 1)).codes ++ rest =
        spelled payload resetPulses link lines := by
      rw [hdone, List.append_assoc]
      exact hcodes
    have hlength' : (sending payload resetPulses link lines (count + 1)).codes.length = count + 1 :=
      by simp [hdone, hlength]
    rw [← hnext] at hrest hprogress
    cases rest with
    | nil =>
        rw [List.append_nil] at hcodes'
        rw [hrest.eq_of_nil] at hprogress
        exact .sent hprogress hcodes' (by simp [← hcodes', hlength'])
          (by simpa [← hcodes', hlength'] using hfine')
    | cons code' rest =>
        -- another stage is to come, and it is not the idle one
        have hstage : (sending payload resetPulses link lines (count + 1)).session.stage ≠ .idle := by
          intro hidle
          obtain rfl : Stage.idle.code = code' := hidle ▸ hrest.head_code
          exact absurd (eq_zero_of_idle hcodes' hlength') (by omega)
        rw [if_neg hstage] at hprogress
        exact .underWay _ hprogress hrest (by simp) hcodes' hlength' hfine'

theorem course (count : Nat) : Course payload resetPulses link lines count := by
  induction count with
  | zero =>
      exact .underWay _ rfl (walk_word _ _ payload) (by simp [word]) rfl rfl (by simp)
  | succ count ih =>
      have hnext := sending_succ payload resetPulses link lines count
      cases ih with
      | underWay rest hactive hwalk hne hcodes hlength hfine =>
          obtain ⟨code, rest, rfl⟩ := List.exists_cons_of_ne_nil hne
          exact .next hactive hwalk hcodes hlength hfine
      | sent hsent hcodes hlong hfine =>
          rw [if_neg (by simp [hsent])] at hnext
          exact .sent (hnext ▸ hsent) (hnext ▸ hcodes) (by omega) hfine
      | failed fault last hfailed hcodes hlast hlong hfault hfine =>
          rw [if_neg (by simp [hfailed])] at hnext
          exact .failed fault last (hnext ▸ hfailed) (hnext ▸ hcodes) (by omega) hlong hfault hfine

-- No session takes more steps than its word is long.
theorem exists_outcome {count : Nat}
    (h : (spelled payload resetPulses link lines).length ≤ count) :
    ∃ outcome, (sending payload resetPulses link lines count).progress = .complete outcome := by
  have hcourse : Course payload resetPulses link lines count := course count
  cases hcourse with
  | underWay rest _ _ hne hcodes hlength =>
      have hall := congrArg List.length hcodes
      rw [List.length_append, hlength] at hall
      exact absurd (List.length_pos_iff.mpr hne) (by omega)
  | sent hsent => exact ⟨_, hsent⟩
  | failed _ _ hfailed => exact ⟨_, hfailed⟩

end Course

-- A session spells its word stage by stage and drives the bits of its payload in order. It is
-- sent once the whole word is done, unless an answer is amiss: then it ends right there.
theorem sending_spells_word (payload : Payload) (resetPulses : UInt8) (link : Link) (lines : σ) :
    let run := sending payload resetPulses link lines
    let spelled := word resetPulses ((run 0).samplesLow resetPulses)
    (∀ count, (run count).codes <+: spelled) ∧
    (∀ count, (run count).progress = .active → (run count).session.stage = .bitDrive →
      ∃ bit, payload.bit? ((run count).codes.count 31) = some bit ∧
        (run count).session.move? = some (if bit then .release .data else .pullLow .data) ∧
        (run (count + 1)).link.clock = (run count).link.clock ∧
        ((run count).violation? resetPulses ≠ some .pin →
          (run (count + 1)).link.data.role = if bit then .released else .low)) ∧
    (∀ count, (run count).progress = .complete .sent ↔
      (run count).codes = spelled ∧
        ∀ step < spelled.length, (run step).violation? resetPulses = none) ∧
    (∀ count fault, (run count).progress = .complete (.failed fault) ↔
      ∃ last < spelled.length, last < count ∧ (run count).codes = spelled.take (last + 1) ∧
        (run last).violation? resetPulses = some fault ∧
        ∀ step < last, (run step).violation? resetPulses = none) ∧
    ∀ count, spelled.length ≤ count → ∃ outcome, (run count).progress = .complete outcome := by
  intro run spelled
  have hcourse : ∀ count, Course payload resetPulses link lines count := course
  refine ⟨?_, ?_, ?_, ?_, ?_⟩
  · intro count
    cases hcourse count with
    | underWay rest _ _ _ hcodes => exact ⟨rest, hcodes⟩
    | sent _ hcodes => exact hcodes ▸ List.prefix_rfl
    | failed _ last _ hcodes => exact hcodes ▸ List.take_prefix _ _
  · intro count hactive hstage
    cases hcourse count with
    | underWay rest _ hwalk hne hcodes =>
        have hbits := Course.bits_eq hwalk hcodes
        have hpayload : payload = (run count).session.payload := hwalk.payload_eq
        rw [driven, if_neg (by rw [hstage]; simp)] at hbits
        obtain ⟨bit, hbit⟩ := Option.isSome_iff_exists.mp
          ((payload.bit?_isSome_iff _).mpr (bits_lt_of_walk hwalk hne hstage))
        have hmove : (run count).session.move? =
            some (if bit then .release .data else .pullLow .data) := by
          rw [move?, hstage, ← hpayload, hbit]
          rfl
        have hnext : run (count + 1) = (run count).step resetPulses := by
          simp only [run, sending_succ, if_pos hactive]
        obtain ⟨hclock, hdata⟩ := Run.step_drives hmove resetPulses
        exact ⟨bit, hbits ▸ hbit, hmove, hnext ▸ hclock, hnext ▸ hdata⟩
    | sent hsent => exact absurd (hactive.symm.trans hsent) (by simp)
    | failed _ _ hfailed => exact absurd (hactive.symm.trans hfailed) (by simp)
  · intro count
    cases hcourse count with
    | underWay rest hactive _ hne hcodes =>
        refine iff_of_false (by rw [hactive]; simp) ?_
        rintro ⟨hall, -⟩
        exact hne (List.append_right_eq_self.mp ((hcodes.trans hall.symm)))
    | sent hsent hcodes _ hfine => exact iff_of_true hsent ⟨hcodes, hfine⟩
    | failed fault last hfailed _ _ hlong hfault =>
        refine iff_of_false (by rw [hfailed]; simp) ?_
        rintro ⟨-, hfine⟩
        exact absurd (hfault.symm.trans (hfine last hlong)) (by simp)
  · intro count fault
    cases hcourse count with
    | underWay rest hactive _ _ _ _ hfine =>
        refine iff_of_false (by rw [hactive]; simp) ?_
        rintro ⟨last, -, hlast, -, hfault, -⟩
        exact absurd (hfault.symm.trans (hfine last hlast)) (by simp)
    | sent hsent _ _ hfine =>
        refine iff_of_false (by rw [hsent]; simp) ?_
        rintro ⟨last, hlong, -, -, hfault, -⟩
        exact absurd (hfault.symm.trans (hfine last hlong)) (by simp)
    | failed fault' last hfailed hcodes hlast hlong hfault hfine =>
        constructor
        · intro h
          obtain rfl : fault' = fault := by simpa using hfailed.symm.trans h
          exact ⟨last, hlong, hlast, hcodes, hfault, hfine⟩
        · rintro ⟨last', -, -, -, hfault', hfine'⟩
          obtain rfl : last = last' := by
            rcases Nat.lt_trichotomy last last' with h | h | h
            · exact absurd (hfault.symm.trans (hfine' last h)) (by simp)
            · exact h
            · exact absurd (hfault'.symm.trans (hfine last' h)) (by simp)
          obtain rfl : fault' = fault := by simpa using hfault.symm.trans hfault'
          exact hfailed
  · exact fun count hlong => exists_outcome hlong

end SevenSegment.Session
