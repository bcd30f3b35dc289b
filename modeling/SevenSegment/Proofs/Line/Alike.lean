import SevenSegment.Session.Run

namespace SevenSegment.Line

variable {σ τ : Type} [Gpio σ] [Gpio τ]

-- On these lines both sides answer alike, and no call on them breaks the relation.
structure Alike (on : LineId → Prop) (related : σ → τ → Prop) : Prop where
  configure : ∀ (line : LineId) (role : Role) (first : σ) (second : τ), on line →
    related first second →
    (Gpio.configure line role first).1 = (Gpio.configure line role second).1 ∧
      related (Gpio.configure line role first).2 (Gpio.configure line role second).2
  read : ∀ (line : LineId) (first : σ) (second : τ), on line → related first second →
    (Gpio.read line first).1 = (Gpio.read line second).1 ∧
      related (Gpio.read line first).2 (Gpio.read line second).2

-- Two results that differ at most in their lines, and there only as the relation allows.
def Agree {α β : Type} (related : σ → τ → Prop) (first : α × β × σ) (second : α × β × τ) : Prop :=
  first.1 = second.1 ∧ first.2.1 = second.2.1 ∧ related first.2.2 second.2.2

-- A walk through roles never changes which line a pin is on.
theorem Pin.follow_line (path : List Role) (pin : Pin) (lines : σ) :
    (Pin.follow path pin lines).2.1.line = pin.line := by
  induction path generalizing pin lines with
  | nil => rfl
  | cons role path ih =>
      simp only [follow]
      split
      · rfl
      · exact ih _ _

@[simp]
theorem Pin.enter_line (role : Role) (pin : Pin) (lines : σ) :
    (pin.enter role lines).2.1.line = pin.line :=
  follow_line _ _ _

@[simp]
theorem Pin.release_line (pin : Pin) (lines : σ) : (pin.release lines).2.1.line = pin.line := by
  have h := pin.enter_line .released lines
  unfold release
  split <;> simp_all

@[simp]
theorem Pin.pullLow_line (pin : Pin) (lines : σ) : (pin.pullLow lines).2.1.line = pin.line :=
  enter_line _ _ _

@[simp]
theorem Pin.reset_line (pin : Pin) (lines : σ) : (pin.reset lines).2.1.line = pin.line :=
  enter_line _ _ _

-- Two links to the same lines, whatever the roles of their pins.
def Link.SameLines (first second : Link) : Prop :=
  ∀ wire, (first.pin wire).line = (second.pin wire).line

theorem Link.SameLines.trans {first second third : Link} (h : first.SameLines second)
    (h' : second.SameLines third) : first.SameLines third :=
  fun wire => (h wire).trans (h' wire)

theorem Link.pin_setPin (link : Link) (wire : Wire) (pin : Pin) :
    (link.setPin wire pin).pin wire = pin := by
  cases wire <;> rfl

theorem Link.pin_setPin_of_ne (link : Link) {wire other : Wire} (pin : Pin) (h : other ≠ wire) :
    (link.setPin wire pin).pin other = link.pin other := by
  match wire, other with
  | .clock, .clock | .data, .data => exact absurd rfl h
  | .clock, .data | .data, .clock => rfl

theorem Link.sameLines_setPin (link : Link) (wire : Wire) (pin : Pin)
    (h : pin.line = (link.pin wire).line) : (link.setPin wire pin).SameLines link := by
  intro other
  match wire, other with
  | .clock, .clock | .data, .data => exact h
  | .clock, .data | .data, .clock => rfl

theorem Link.release_sameLines (link : Link) (wire : Wire) (lines : σ) :
    (link.release wire lines).2.1.SameLines link :=
  link.sameLines_setPin wire _ (Pin.release_line _ _)

theorem Link.perform_sameLines (link : Link) (move : Move) (lines : σ) :
    (link.perform move lines).2.1.SameLines link := by
  cases move with
  | release wire => exact link.release_sameLines wire lines
  | pullLow wire => exact link.sameLines_setPin wire _ (Pin.pullLow_line _ _)
  | probe =>
      have hclock := link.release_sameLines .clock lines
      simp only [perform]
      split
      · rename_i heq
        rw [heq] at hclock
        exact (release_sameLines _ _ _).trans hclock
      · exact hclock

namespace Alike

variable {on : LineId → Prop} {related : σ → τ → Prop}

theorem follow (alike : Alike on related) (path : List Role) (pin : Pin) (hon : on pin.line)
    {first : σ} {second : τ} (h : related first second) :
    Agree related (Pin.follow path pin first) (Pin.follow path pin second) := by
  induction path generalizing pin first second with
  | nil => exact ⟨rfl, rfl, h⟩
  | cons role path ih =>
      obtain ⟨hdone, hlines⟩ := alike.configure pin.line role first second hon h
      simp only [Pin.follow]
      generalize Gpio.configure pin.line role first = one at hdone hlines
      generalize Gpio.configure pin.line role second = two at hdone hlines
      obtain ⟨done, one⟩ := one
      obtain ⟨done', two⟩ := two
      obtain rfl : done = done' := hdone
      cases done with
      | error error => exact ⟨rfl, rfl, hlines⟩
      | ok => exact ih { pin with role } hon hlines

theorem pinRelease (alike : Alike on related) (pin : Pin) (hon : on pin.line)
    {first : σ} {second : τ} (h : related first second) :
    Agree related (pin.release first) (pin.release second) := by
  have henter := alike.follow (pin.role.path .released) pin hon h
  have hline := pin.enter_line .released first
  simp only [Pin.release, Pin.enter] at hline ⊢
  generalize Pin.follow (pin.role.path .released) pin first = one at henter hline
  generalize Pin.follow (pin.role.path .released) pin second = two at henter
  obtain ⟨done, pin', one⟩ := one
  obtain ⟨done', pin'', two⟩ := two
  obtain ⟨rfl, rfl, hlines⟩ := henter
  cases done with
  | error error => exact ⟨rfl, rfl, hlines⟩
  | ok =>
      obtain ⟨hlevel, hread⟩ := alike.read pin'.line one two (hline ▸ hon) hlines
      exact ⟨hlevel, rfl, hread⟩

theorem release (alike : Alike on related) (link : Link) (wire : Wire)
    (hon : on (link.pin wire).line) {first : σ} {second : τ} (h : related first second) :
    Agree related (link.release wire first) (link.release wire second) := by
  obtain ⟨hlevel, hpin, hlines⟩ := alike.pinRelease (link.pin wire) hon h
  exact ⟨hlevel, congrArg (link.setPin wire) hpin, hlines⟩

theorem pullLow (alike : Alike on related) (link : Link) (wire : Wire)
    (hon : on (link.pin wire).line) {first : σ} {second : τ} (h : related first second) :
    Agree related (link.pullLow wire first) (link.pullLow wire second) := by
  obtain ⟨hdone, hpin, hlines⟩ := alike.follow _ (link.pin wire) hon h
  exact ⟨hdone, congrArg (link.setPin wire) hpin, hlines⟩

theorem perform (alike : Alike on related) (link : Link) (move : Move)
    (hon : ∀ wire, on (link.pin wire).line) {first : σ} {second : τ} (h : related first second) :
    Agree related (link.perform move first) (link.perform move second) := by
  cases move with
  | release wire => exact alike.release link wire (hon wire) h
  | pullLow wire =>
      obtain ⟨hdone, hlink, hlines⟩ := alike.pullLow link wire (hon wire) h
      exact ⟨by simp only [Link.perform, hdone], hlink, hlines⟩
  | probe =>
      have hclock := alike.release link .clock (hon .clock) h
      have hsame := link.release_sameLines .clock first
      simp only [Link.perform]
      generalize link.release .clock first = one at hclock hsame
      generalize link.release .clock second = two at hclock
      obtain ⟨level, link', one⟩ := one
      obtain ⟨level', link'', two⟩ := two
      obtain ⟨rfl, rfl, hlines⟩ := hclock
      cases level with
      | error error => exact ⟨rfl, rfl, hlines⟩
      | ok up =>
          cases up with
          | false => exact ⟨rfl, rfl, hlines⟩
          | true => exact alike.release link' .data ((hsame .data).symm ▸ hon .data) hlines

end Alike

end SevenSegment.Line

namespace SevenSegment.Session

open Line (Gpio LineId Link Alike Agree)

variable {σ τ : Type} [Gpio σ] [Gpio τ]

theorem step_sameLines (session : Session) (resetPulses : UInt8) (link : Link) (lines : σ) :
    (session.step resetPulses link lines).link.SameLines link := by
  unfold step
  split
  · exact fun _ => rfl
  · exact link.perform_sameLines _ lines

-- One step over either side, compared field by field.
structure Step.Agree (related : σ → τ → Prop) (first : Step σ) (second : Step τ) : Prop where
  session : first.session = second.session
  link : first.link = second.link
  progress : first.progress = second.progress
  notes : first.notes = second.notes
  lines : related first.lines second.lines

theorem step_agree {on : LineId → Prop} {related : σ → τ → Prop} (alike : Alike on related)
    (session : Session) (resetPulses : UInt8) (link : Link)
    (hon : ∀ wire, on (link.pin wire).line) {first : σ} {second : τ} (h : related first second) :
    (session.step resetPulses link first).Agree related (session.step resetPulses link second) := by
  unfold step
  split
  · exact ⟨rfl, rfl, rfl, rfl, h⟩
  · rename_i move _
    obtain ⟨hanswer, hlink, hlines⟩ := alike.perform link move hon h
    exact ⟨by simp only [hanswer], hlink, by simp only [hanswer], by simp only [hanswer], hlines⟩

end SevenSegment.Session
