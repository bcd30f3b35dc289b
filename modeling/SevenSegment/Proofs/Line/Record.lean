import SevenSegment.Proofs.Line.Alike

namespace SevenSegment.Line

inductive Call where
  | configure (line : LineId) (role : Role) (answer : Except LineError Unit)
  | read (line : LineId) (answer : Except LineError Bool)

namespace Call

def failed : Call → Bool
  | .configure _ _ (.error _) | .read _ (.error _) => true
  | .configure _ _ (.ok ()) | .read _ (.ok _) => false

-- Whether the call sampled this level on this line.
def samples (line : LineId) (level : Bool) : Call → Bool
  | .read other (.ok found) => line == other && level == found
  | _ => false

def line : Call → LineId
  | .configure line .. | .read line _ => line

-- A role that the hardware accepted for this line.
def Accepts (line : LineId) (call : Call) : Prop := ∃ role, call = .configure line role (.ok ())

end Call

structure Recorded (σ : Type) where
  lines : σ
  calls : List Call := []

variable {σ : Type} [Gpio σ]

instance : Gpio (Recorded σ) where
  configure line role record :=
    let (answer, lines) := Gpio.configure line role record.lines
    (answer, ⟨lines, record.calls ++ [.configure line role answer]⟩)
  read line record :=
    let (answer, lines) := Gpio.read line record.lines
    (answer, ⟨lines, record.calls ++ [.read line answer]⟩)

namespace Recorded

-- The second record is the end of the first one.
def Extends (before : List Call) (first second : Recorded σ) : Prop :=
  first.lines = second.lines ∧ first.calls = before ++ second.calls

theorem alike_extends (before : List Call) :
    Alike (fun _ => True) (Extends before : Recorded σ → Recorded σ → Prop) where
  configure line role first second _ h := by
    obtain ⟨hlines, hcalls⟩ := h
    simp only [Gpio.configure, hlines, hcalls, Extends, List.append_assoc, and_self]
  read line first second _ h := by
    obtain ⟨hlines, hcalls⟩ := h
    simp only [Gpio.read, hlines, hcalls, Extends, List.append_assoc, and_self]

-- Calls on some lines alone leave a record that tells of no other lines.
theorem alike_within (on : LineId → Prop) :
    Alike on (fun first second : Recorded σ =>
      first = second ∧ ∀ call ∈ first.calls, on call.line) where
  configure line role first second hline h := by
    obtain ⟨rfl, hcalls⟩ := h
    refine ⟨rfl, rfl, fun call hmem => ?_⟩
    rcases List.mem_append.mp hmem with hmem | hmem
    · exact hcalls call hmem
    · obtain rfl := List.mem_singleton.mp hmem
      exact hline
  read line first second hline h := by
    obtain ⟨rfl, hcalls⟩ := h
    refine ⟨rfl, rfl, fun call hmem => ?_⟩
    rcases List.mem_append.mp hmem with hmem | hmem
    · exact hcalls call hmem
    · obtain rfl := List.mem_singleton.mp hmem
      exact hline

-- Writing the calls down changes none of them.
theorem alike_lines :
    Alike (fun _ => True) (fun (record : Recorded σ) (lines : σ) => record.lines = lines) where
  configure line role first second _ h := by subst h; exact ⟨rfl, rfl⟩
  read line first second _ h := by subst h; exact ⟨rfl, rfl⟩

end Recorded

-- What the calls of an operation tell when it answers an error, and when it does not.
def Tells {α : Type} (answer : Except LineError α) (calls : List Call) (good : α → Prop) : Prop :=
  match answer with
  | .error _ => ∃ call ∈ calls, call.failed
  | .ok value => good value

theorem Pin.follow_tells (path : List Role) (pin : Pin) (record : Recorded σ) :
    ∃ made, (follow path pin record).2.2.calls = record.calls ++ made ∧
      Tells (follow path pin record).1 made fun () => ∀ call ∈ made, call.Accepts pin.line := by
  induction path generalizing pin record with
  | nil => exact ⟨[], by simp [follow], by simp [follow, Tells]⟩
  | cons role path ih =>
      simp only [follow]
      generalize hcall : Gpio.configure pin.line role record = called
      obtain ⟨done, after⟩ := called
      have hcalls : after.calls = record.calls ++ [.configure pin.line role done] := by
        have h := congrArg (fun called => called.2.calls) hcall
        have hdone : (Gpio.configure pin.line role record.lines).1 = done := congrArg Prod.fst hcall
        simpa only [Gpio.configure, hdone] using h.symm
      cases done with
      | error error => exact ⟨_, hcalls, by simp [Tells, Call.failed]⟩
      | ok =>
          obtain ⟨made, hmade, htells⟩ := ih { pin with role } after
          refine ⟨.configure pin.line role (.ok ()) :: made, by simp [hmade, hcalls], ?_⟩
          revert htells
          simp only [Tells]
          split
          · rintro ⟨call, hmem, hfailed⟩
            exact ⟨call, List.mem_cons_of_mem _ hmem, hfailed⟩
          · intro hall call hmem
            rcases List.mem_cons.mp hmem with rfl | hmem
            · exact ⟨role, rfl⟩
            · exact hall call hmem

-- A sample comes last, after the roles that lead to it.
theorem Pin.release_tells (pin : Pin) (record : Recorded σ) :
    ∃ made, (pin.release record).2.2.calls = record.calls ++ made ∧
      Tells (pin.release record).1 made fun level => ∃ roles,
        made = roles ++ [.read pin.line (.ok level)] ∧ ∀ call ∈ roles, call.Accepts pin.line := by
  obtain ⟨made, hmade, htells⟩ := follow_tells (pin.role.path .released) pin record
  have hline := pin.enter_line .released record
  simp only [release, enter] at hline ⊢
  generalize follow (pin.role.path .released) pin record = entered at hmade htells hline
  obtain ⟨done, pin', after⟩ := entered
  cases done with
  | error error => exact ⟨made, hmade, htells⟩
  | ok =>
      simp only at hline hmade htells
      refine ⟨made ++ [.read pin'.line (Gpio.read pin'.line after.lines).1], ?_, ?_⟩
      · simp only [Gpio.read, hmade, List.append_assoc]
      · simp only [Gpio.read]
        cases (Gpio.read pin'.line after.lines).1 with
        | error error => exact ⟨.read pin'.line (.error error), by simp, rfl⟩
        | ok level => exact ⟨made, by rw [hline], htells⟩

-- Whether one of the calls sampled this level on this line.
def sampled (line : LineId) (level : Bool) (calls : List Call) : Bool :=
  calls.any fun call => call.samples line level

theorem sampled_append (line : LineId) (level : Bool) (calls more : List Call) :
    sampled line level (calls ++ more) = (sampled line level calls || sampled line level more) :=
  List.any_append

theorem sampled_of_accepts {other : LineId} {calls : List Call}
    (h : ∀ call ∈ calls, call.Accepts other) (line : LineId) (level : Bool) :
    sampled line level calls = false := by
  apply List.any_eq_false.mpr
  intro call hmem
  obtain ⟨role, rfl⟩ := h call hmem
  simp [Call.samples]

theorem not_failed_of_accepts {other : LineId} {calls : List Call}
    (h : ∀ call ∈ calls, call.Accepts other) : calls.any Call.failed = false := by
  apply List.any_eq_false.mpr
  intro call hmem
  obtain ⟨role, rfl⟩ := h call hmem
  simp [Call.failed]

theorem Link.release_tells (link : Link) (wire : Wire) (record : Recorded σ) :
    ∃ made, (link.release wire record).2.2.calls = record.calls ++ made ∧
      Tells (link.release wire record).1 made fun up => made.any Call.failed = false ∧
        ∀ line level, sampled line level made =
          (line == (link.pin wire).line && level == up) := by
  obtain ⟨made, hmade, htells⟩ := (link.pin wire).release_tells record
  refine ⟨made, hmade, ?_⟩
  simp only [release]
  revert htells
  simp only [Tells]
  split
  · exact id
  · rename_i up _
    rintro ⟨roles, rfl, haccepts⟩
    constructor
    · simp [not_failed_of_accepts haccepts, Call.failed]
    · intro line level
      rw [sampled_append, sampled_of_accepts haccepts, Bool.false_or]
      simp [sampled, Call.samples]

theorem Link.pullLow_tells (link : Link) (wire : Wire) (record : Recorded σ) :
    ∃ made, (link.pullLow wire record).2.2.calls = record.calls ++ made ∧
      Tells (link.pullLow wire record).1 made fun () => made.any Call.failed = false ∧
        ∀ line level, sampled line level made = false := by
  obtain ⟨made, hmade, htells⟩ :=
    Pin.follow_tells ((link.pin wire).role.path .low) (link.pin wire) record
  refine ⟨made, hmade, ?_⟩
  simp only [pullLow, Pin.pullLow, Pin.enter]
  revert htells
  simp only [Tells]
  split
  · exact id
  · exact fun haccepts => ⟨not_failed_of_accepts haccepts, sampled_of_accepts haccepts⟩

-- What a move that succeeds samples. A probe gives up as soon as it finds a wire low.
def Move.Samples (link : Link) (calls : List Call) (up : Bool) : Move → Prop
  | .release wire => ∀ line level,
      sampled line level calls = (line == (link.pin wire).line && level == up)
  | .pullLow _ => up = true ∧ ∀ line level, sampled line level calls = false
  | .probe =>
      (sampled link.clock.line false calls || sampled link.data.line false calls) = !up

theorem Link.perform_tells (link : Link) (move : Move) (record : Recorded σ) :
    ∃ made, (link.perform move record).2.2.calls = record.calls ++ made ∧
      Tells (link.perform move record).1 made fun up =>
        made.any Call.failed = false ∧ move.Samples link made up := by
  cases move with
  | release wire => exact link.release_tells wire record
  | pullLow wire =>
      obtain ⟨made, hmade, htells⟩ := link.pullLow_tells wire record
      refine ⟨made, hmade, ?_⟩
      simp only [perform]
      cases hdone : (link.pullLow wire record).1 with
      | error error =>
          rw [hdone] at htells
          exact htells
      | ok =>
          rw [hdone] at htells
          exact ⟨htells.1, rfl, htells.2⟩
  | probe =>
      obtain ⟨made, hmade, htells⟩ := link.release_tells .clock record
      have hsame := link.release_sameLines .clock record .data
      simp only [perform]
      generalize link.release .clock record = clock at hmade htells hsame
      obtain ⟨level, link', after⟩ := clock
      simp only at hmade hsame
      cases level with
      | error error => exact ⟨made, hmade, htells⟩
      | ok up =>
          obtain ⟨hfailed, hsampled⟩ := htells
          cases up with
          | false =>
              refine ⟨made, hmade, hfailed, ?_⟩
              simp [Move.Samples, hsampled, pin]
          | true =>
              obtain ⟨more, hmore, hthen⟩ := link'.release_tells .data after
              refine ⟨made ++ more, by simp only [hmore, hmade, List.append_assoc], ?_⟩
              simp only [pin] at hsame
              cases hdata : (link'.release .data after).1 with
              | error error =>
                  rw [hdata] at hthen
                  obtain ⟨call, hmem, hbad⟩ := hthen
                  exact ⟨call, List.mem_append_right _ hmem, hbad⟩
              | ok up =>
                  rw [hdata] at hthen
                  obtain ⟨hfailed', hsampled'⟩ := hthen
                  refine ⟨by simp only [List.any_append, hfailed, hfailed', Bool.or_false], ?_⟩
                  simp only [Move.Samples, sampled_append, hsampled, hsampled', pin, hsame]
                  cases up <;> simp

end SevenSegment.Line
