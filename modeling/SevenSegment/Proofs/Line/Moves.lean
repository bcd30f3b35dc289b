import SevenSegment.Proofs.Line.Record

namespace SevenSegment.Line

variable {σ : Type} [Gpio σ]

-- The wires that a move operates, and the role it takes them to.
def Move.Operates (wire : Wire) : Move → Prop
  | .release other | .pullLow other => other = wire
  | .probe => True

def Move.target : Move → Role
  | .release _ | .probe => .released
  | .pullLow _ => .low

theorem Role.getLastD_path (source target : Role) :
    (source.path target).getLastD source = target := by
  cases source <;> cases target <;> rfl

-- A way to another role leads through inert alone.
theorem Role.mem_path {role source target : Role} (h : role ∈ source.path target) :
    source ≠ target ∧ (role = .inert ∨ role = target) := by
  cases source <;> cases target <;> simp [path] at h <;> simp [h]

theorem Pin.follow_role {path : List Role} {pin : Pin} {lines : σ}
    (h : (follow path pin lines).1 = .ok ()) :
    (follow path pin lines).2.1 = { pin with role := path.getLastD pin.role } := by
  induction path generalizing pin lines with
  | nil => rfl
  | cons role path ih =>
      simp only [follow] at h ⊢
      split at h
      · cases h
      · rw [ih h, List.getLastD_cons]

theorem Pin.enter_of_ok {role : Role} {pin : Pin} {lines : σ} (h : (pin.enter role lines).1 = .ok ()) :
    (pin.enter role lines).2.1 = { pin with role } := by
  rw [enter, follow_role h, Role.getLastD_path]

theorem Pin.release_of_ok {pin : Pin} {lines : σ} {level : Bool}
    (h : (pin.release lines).1 = .ok level) :
    (pin.release lines).2.1 = { pin with role := .released } := by
  have henter : (pin.enter .released lines).1 = .ok () → _ := Pin.enter_of_ok
  unfold release at h ⊢
  split
  · rename_i heq
    simp [heq] at h
  · rename_i heq
    rw [heq] at henter
    exact henter rfl

namespace Link

theorem release_of_ok {link : Link} {wire : Wire} {lines : σ} {level : Bool}
    (h : (link.release wire lines).1 = .ok level) :
    (link.release wire lines).2.1 =
      link.setPin wire { link.pin wire with role := .released } :=
  congrArg (link.setPin wire) (Pin.release_of_ok h)

theorem pullLow_of_ok {link : Link} {wire : Wire} {lines : σ} {up : Bool}
    (h : (link.perform (.pullLow wire) lines).1 = .ok up) :
    (link.perform (.pullLow wire) lines).2.1 =
      link.setPin wire { link.pin wire with role := .low } := by
  have henter : ((link.pin wire).enter .low lines).1 = .ok () := by
    cases hdone : ((link.pin wire).enter .low lines).1 with
    | error error => simp [perform, pullLow, Pin.pullLow, hdone, Except.map] at h
    | ok => rfl
  exact congrArg (link.setPin wire) (Pin.enter_of_ok henter)

-- A probe that gives up at the clock leaves the data pin alone.
theorem probe_of_ok {link : Link} {lines : σ} {up : Bool}
    (h : (link.perform .probe lines).1 = .ok up) :
    (link.perform .probe lines).2.1.clock.role = .released ∧
      (up = true → (link.perform .probe lines).2.1.data.role = .released) := by
  have hclock : ∀ level, (link.release .clock lines).1 = .ok level → _ := fun _ => release_of_ok
  simp only [perform] at h ⊢
  generalize link.release .clock lines = clock at h hclock
  obtain ⟨level, link', lines'⟩ := clock
  cases level with
  | error error => cases h
  | ok level =>
      have hlink := hclock level rfl
      simp only at hlink
      subst hlink
      cases level with
      | false =>
          cases h
          exact ⟨rfl, by simp⟩
      | true =>
          simp only at h ⊢
          rw [release_of_ok h]
          exact ⟨rfl, fun _ => rfl⟩

-- The link after a move that succeeded.
def Moved (link after : Link) (up : Bool) : Move → Prop
  | .release wire => after = link.setPin wire { link.pin wire with role := .released }
  | .pullLow wire => after = link.setPin wire { link.pin wire with role := .low }
  | .probe => after.clock.role = .released ∧ (up = true → after.data.role = .released)

theorem moved_of_ok {link : Link} {move : Move} {lines : σ} {up : Bool}
    (h : (link.perform move lines).1 = .ok up) : link.Moved (link.perform move lines).2.1 up move := by
  cases move with
  | release wire => exact release_of_ok h
  | pullLow wire => exact pullLow_of_ok h
  | probe => exact probe_of_ok h

end Link

theorem Pin.follow_made {path : List Role} {pin : Pin} {record : Recorded σ} {call : Call}
    (h : call ∈ (follow path pin record).2.2.calls) :
    call ∈ record.calls ∨ ∃ role ∈ path, ∃ answer, call = .configure pin.line role answer := by
  induction path generalizing pin record with
  | nil => exact .inl h
  | cons role path ih =>
      have hconfigured : ∀ {answer : Except LineError Unit} {after : Recorded σ},
          Gpio.configure pin.line role record = (answer, after) → call ∈ after.calls →
          call ∈ record.calls ∨ call = .configure pin.line role answer := by
        intro answer after heq hmem
        cases heq
        simpa using hmem
      simp only [follow] at h
      split at h
      · rename_i error after heq
        rcases hconfigured heq h with h | rfl
        · exact .inl h
        · exact .inr ⟨role, List.mem_cons_self, _, rfl⟩
      · rename_i after heq
        rcases ih h with h | ⟨other, hother, answer, rfl⟩
        · rcases hconfigured heq h with h | rfl
          · exact .inl h
          · exact .inr ⟨role, List.mem_cons_self, _, rfl⟩
        · exact .inr ⟨other, List.mem_cons_of_mem _ hother, answer, rfl⟩

section Reconfigured

variable {line : LineId} {role : Role} {answer : Except LineError Unit}

theorem Pin.reconfigured_of_release {pin : Pin} {record : Recorded σ}
    (h : .configure line role answer ∈ (pin.release record).2.2.calls) :
    .configure line role answer ∈ record.calls ∨
      line = pin.line ∧ role ∈ pin.role.path .released := by
  have hmade : .configure line role answer ∈ (pin.enter .released record).2.2.calls →
      .configure line role answer ∈ record.calls ∨
        line = pin.line ∧ role ∈ pin.role.path .released := by
    intro hmem
    rcases follow_made hmem with hmem | ⟨other, hother, answer, heq⟩
    · exact .inl hmem
    · cases heq
      exact .inr ⟨rfl, hother⟩
  unfold release at h
  split at h
  · rename_i heq
    rw [heq] at hmade
    exact hmade h
  · rename_i heq
    rw [heq] at hmade
    exact hmade (by simpa [Gpio.read] using h)

-- A move reconfigures no wire but those it operates, and takes them straight to its target.
theorem Link.reconfigured_of_perform {link : Link} {move : Move} {record : Recorded σ}
    (h : .configure line role answer ∈ (link.perform move record).2.2.calls) :
    .configure line role answer ∈ record.calls ∨
      ∃ wire, move.Operates wire ∧ line = (link.pin wire).line ∧
        role ∈ (link.pin wire).role.path move.target := by
  cases move with
  | release wire =>
      rcases Pin.reconfigured_of_release h with h | h
      · exact .inl h
      · exact .inr ⟨wire, rfl, h⟩
  | pullLow wire =>
      rcases Pin.follow_made h with h | ⟨other, hother, answer, heq⟩
      · exact .inl h
      · cases heq
        exact .inr ⟨wire, rfl, rfl, hother⟩
  | probe =>
      have hclock : .configure line role answer ∈ (link.release .clock record).2.2.calls →
          .configure line role answer ∈ record.calls ∨
            ∃ wire, Move.probe.Operates wire ∧ line = (link.pin wire).line ∧
              role ∈ (link.pin wire).role.path Move.probe.target := by
        intro h
        rcases Pin.reconfigured_of_release h with h | h
        · exact .inl h
        · exact .inr ⟨.clock, trivial, h⟩
      have hsame : (link.release .clock record).2.1.pin .data = link.pin .data := rfl
      simp only [perform] at h
      generalize link.release .clock record = clock at h hclock hsame
      obtain ⟨level, link', record'⟩ := clock
      split at h
      · rename_i heq
        cases heq
        rcases Pin.reconfigured_of_release h with h | h
        · exact hclock h
        · simp only at hsame
          rw [hsame] at h
          exact .inr ⟨.data, trivial, h⟩
      · exact hclock h

end Reconfigured

end SevenSegment.Line
