import Mathlib.Data.List.Chain
import Mathlib.Logic.Function.Basic
import SevenSegment.Proofs.Line.Record

namespace SevenSegment.Line

variable {σ : Type} [Gpio σ]

inductive Touch where
  | release
  | pullLow
  | reset
  deriving DecidableEq

namespace Touch

def role : Touch → Role
  | .release => .released
  | .pullLow => .low
  | .reset => .inert

-- The answer is for whoever asked. The pin stays as it is left, whether the touch succeeded or not.
def perform (touch : Touch) (pin : Pin) (lines : σ) : Pin × σ :=
  match touch with
  | .release => (pin.release lines).2
  | .pullLow => (pin.pullLow lines).2
  | .reset => (pin.reset lines).2

-- All touches put the pin into a role, and a release may sample the line then.
theorem perform_cases (touch : Touch) (pin : Pin) (lines : σ) :
    touch.perform pin lines = (pin.enter touch.role lines).2 ∨
      touch.perform pin lines = ((pin.enter touch.role lines).2.1,
        (Gpio.read pin.line (pin.enter touch.role lines).2.2).2) := by
  cases touch with
  | pullLow => exact .inl rfl
  | reset => exact .inl rfl
  | release =>
      have hline := pin.enter_line .released lines
      simp only [perform, role, Pin.release]
      split
      · rename_i heq
        exact .inl (by rw [heq])
      · rename_i heq
        rw [heq] at hline ⊢
        exact .inr (by rw [hline])

end Touch

theorem Pin.follow_keeps (kept : σ → Prop) {pin : Pin}
    (hconfigure : ∀ role lines, kept lines → kept (Gpio.configure pin.line role lines).2)
    (path : List Role) {lines : σ} (h : kept lines) : kept (follow path pin lines).2.2 := by
  induction path generalizing pin lines with
  | nil => exact h
  | cons role path ih =>
      have hfirst := hconfigure role lines h
      simp only [follow]
      split
      · rename_i heq
        rwa [heq] at hfirst
      · rename_i heq
        rw [heq] at hfirst
        exact @ih { pin with role } hconfigure _ hfirst

theorem Touch.perform_keeps (kept : σ → Prop) {pin : Pin}
    (hconfigure : ∀ role lines, kept lines → kept (Gpio.configure pin.line role lines).2)
    (hread : ∀ lines, kept lines → kept (Gpio.read pin.line lines).2)
    (touch : Touch) {lines : σ} (h : kept lines) : kept (touch.perform pin lines).2 := by
  have henter : kept (pin.enter touch.role lines).2.2 :=
    Pin.follow_keeps kept hconfigure _ h
  rcases touch.perform_cases pin lines with heq | heq
  · rw [heq]
    exact henter
  · rw [heq]
    exact hread _ henter

-- The roles that the hardware accepted for a line, in order.
def Call.accepted? (line : LineId) : Call → Option Role
  | .configure other role (.ok ()) => if other = line then some role else none
  | _ => none

def accepted (line : LineId) (calls : List Call) : List Role :=
  calls.filterMap (Call.accepted? line)

section Accepted

variable {line : LineId} {calls : List Call}

@[simp]
theorem accepted_concat_read (other : LineId) (answer : Except LineError Bool) :
    accepted line (calls ++ [.read other answer]) = accepted line calls := by
  simp [accepted, Call.accepted?]

@[simp]
theorem accepted_concat_error (other : LineId) (role : Role) (error : LineError) :
    accepted line (calls ++ [.configure other role (.error error)]) = accepted line calls := by
  simp [accepted, Call.accepted?]

@[simp]
theorem accepted_concat_ok (role : Role) :
    accepted line (calls ++ [.configure line role (.ok ())]) = accepted line calls ++ [role] := by
  simp [accepted, Call.accepted?]

theorem accepted_concat_of_ne {other : LineId} (hne : other ≠ line) (role : Role)
    (answer : Except LineError Unit) :
    accepted line (calls ++ [.configure other role answer]) = accepted line calls := by
  rcases answer with error | -
  · exact accepted_concat_error other role error
  · simp [accepted, Call.accepted?, hne]

end Accepted

-- A line goes to inert from any other role, and to any other role from inert alone.
def Alternates (roles : List Role) : Prop :=
  (Role.inert :: roles).IsChain fun first second => first = .inert ↔ second ≠ .inert

theorem Role.isChain_path (source target : Role) :
    (source :: source.path target).IsChain fun first second => first = .inert ↔ second ≠ .inert := by
  cases source <;> cases target <;> decide

theorem Alternates.concat {roles : List Role} (h : Alternates roles) {role : Role}
    (hlast : roles.getLastD .inert = .inert ↔ role ≠ .inert) : Alternates (roles ++ [role]) := by
  rw [Alternates, ← List.cons_append, List.isChain_append]
  refine ⟨h, List.isChain_singleton role, fun first hfirst second hsecond => ?_⟩
  rw [List.getLast?_cons, Option.mem_some_iff] at hfirst
  rw [List.head?_cons, Option.mem_some_iff] at hsecond
  rwa [← hfirst, ← hsecond, ← List.getLastD_eq_getLast?]

structure Pin.Told (pin : Pin) (calls : List Call) : Prop where
  last : pin.role = (accepted pin.line calls).getLastD .inert
  alternates : Alternates (accepted pin.line calls)

theorem Pin.Told.role_eq_iff {pin : Pin} {calls : List Call} (h : pin.Told calls) (role : Role) :
    pin.role = role ↔ (accepted pin.line calls).getLast? = some role ∨
      role = .inert ∧ accepted pin.line calls = [] := by
  rw [h.last, List.getLastD_eq_getLast?]
  cases hlast : (accepted pin.line calls).getLast? with
  | none => simp [List.getLast?_eq_none_iff.mp hlast, eq_comm]
  | some last =>
      have hne : accepted pin.line calls ≠ [] := fun hnil => by simp [hnil] at hlast
      simp [hne]

theorem Pin.Told.follow {pin : Pin} {record : Recorded σ} (h : pin.Told record.calls)
    {path : List Role}
    (hpath : (pin.role :: path).IsChain fun first second => first = .inert ↔ second ≠ .inert) :
    (follow path pin record).2.1.Told (follow path pin record).2.2.calls := by
  induction path generalizing pin record with
  | nil => exact h
  | cons role path ih =>
      obtain ⟨hfirst, hpath⟩ := List.isChain_cons_cons.mp hpath
      simp only [Pin.follow, Gpio.configure]
      cases hanswer : (Gpio.configure pin.line role record.lines).1 with
      | error error => exact ⟨by simpa using h.last, by simpa using h.alternates⟩
      | ok done =>
          cases done
          refine @ih { pin with role } _ ⟨by simp, ?_⟩ hpath
          rw [accepted_concat_ok]
          exact h.alternates.concat (h.last ▸ hfirst)

theorem Pin.Told.perform {pin : Pin} {record : Recorded σ} (h : pin.Told record.calls)
    (touch : Touch) :
    (touch.perform pin record).1.Told (touch.perform pin record).2.calls := by
  have henter : (pin.enter touch.role record).2.1.Told (pin.enter touch.role record).2.2.calls :=
    h.follow (pin.role.isChain_path touch.role)
  rcases touch.perform_cases pin record with heq | heq
  · rw [heq]
    exact henter
  · rw [heq]
    exact ⟨by simpa [Gpio.read] using henter.last, by simpa [Gpio.read] using henter.alternates⟩

theorem Touch.perform_of_role {touch : Touch} {pin : Pin} (h : pin.role = touch.role)
    (record : Recorded σ) :
    ∃ made, (touch.perform pin record).2.calls = record.calls ++ made ∧
      ∀ call ∈ made, ∃ answer, call = .read pin.line answer := by
  have henter : pin.enter touch.role record = (.ok (), pin, record) := h ▸ pin.enter_role record
  rcases touch.perform_cases pin record with heq | heq
  · rw [heq, henter]
    exact ⟨[], (List.append_nil _).symm, by simp⟩
  · rw [heq, henter]
    exact ⟨[.read pin.line _], rfl, fun call hmem => ⟨_, List.mem_singleton.mp hmem⟩⟩

theorem Pin.perform_line (pin : Pin) (touch : Touch) (lines : σ) :
    (touch.perform pin lines).1.line = pin.line := by
  cases touch with
  | release => exact pin.release_line lines
  | pullLow => exact pin.pullLow_line lines
  | reset => exact pin.reset_line lines

-- The pins of all lines, one on each line, and what they have done.
structure Board (σ : Type) where
  record : Recorded σ
  roles : LineId → Role := fun _ => .inert

inductive Deed (σ : Type) where
  | touch (line : LineId) (touch : Touch)
  -- Something happens at the far ends, or calls begin to fail or cease to.
  | meanwhile (change : σ → σ)

namespace Board

def pin (board : Board σ) (line : LineId) : Pin := ⟨line, board.roles line⟩

def act (board : Board σ) : Deed σ → Board σ
  | .touch line touch =>
    let (pin, record) := touch.perform (board.pin line) board.record
    ⟨record, Function.update board.roles line pin.role⟩
  | .meanwhile change =>
    { board with record := { board.record with lines := change board.record.lines } }

def after (lines : σ) (deeds : List (Deed σ)) : Board σ := deeds.foldl act { record := ⟨lines, []⟩ }

theorem after_keeps (kept : Board σ → Prop) {lines : σ} {deeds : List (Deed σ)}
    (hstart : kept { record := ⟨lines, []⟩ })
    (hact : ∀ board, ∀ deed ∈ deeds, kept board → kept (board.act deed)) :
    kept (after lines deeds) :=
  deeds.foldlRecOn act hstart fun board h deed hmem => hact board deed hmem h

section Told

variable {board : Board σ}

-- A touch reaches no line but its own, and the record tells so.
theorem told_act (h : ∀ line, (board.pin line).Told board.record.calls) (deed : Deed σ)
    (line : LineId) : ((board.act deed).pin line).Told (board.act deed).record.calls := by
  cases deed with
  | meanwhile change => exact h line
  | touch touched touch =>
      by_cases hline : line = touched
      · subst hline
        have hpin : (board.act (.touch line touch)).pin line =
            (touch.perform (board.pin line) board.record).1 := by
          have hsame : (touch.perform (board.pin line) board.record).1.line = line :=
            Pin.perform_line _ _ _
          simp only [act, pin, Function.update_self] at hsame ⊢
          rw [Pin.mk.injEq]
          exact ⟨hsame.symm, rfl⟩
        rw [hpin]
        exact (h line).perform touch
      · have hcalls : accepted line (board.act (.touch touched touch)).record.calls =
            accepted line board.record.calls :=
          touch.perform_keeps
            (fun record : Recorded σ =>
              accepted line record.calls = accepted line board.record.calls)
            (fun role record hkept => (accepted_concat_of_ne (Ne.symm hline) role _).trans hkept)
            (fun record hkept => (accepted_concat_read _ _).trans hkept) rfl
        have hpin : (board.act (.touch touched touch)).pin line = board.pin line := by
          simp only [act, pin, Function.update_of_ne hline]
        rw [hpin]
        exact ⟨hcalls ▸ (h line).last, hcalls ▸ (h line).alternates⟩

theorem told_after (lines : σ) (deeds : List (Deed σ)) (line : LineId) :
    ((after lines deeds).pin line).Told (after lines deeds).record.calls := by
  have hstart : ∀ other, (⟨other, .inert⟩ : Pin).Told [] := fun other =>
    ⟨rfl, List.isChain_singleton Role.inert⟩
  exact after_keeps (fun board : Board σ => ∀ line, (board.pin line).Told board.record.calls)
    hstart (fun _ deed _ h => told_act h deed) line

end Told

end Board

def Role.isLow (role : Role) : Bool := role = .low

-- The level that is left after some roles were accepted, pulled low or not.
def shows (was : Bool) (roles : List Role) : Bool := (roles.getLast?.map Role.isLow).getD was

theorem Pin.Told.shows_eq {pin : Pin} {calls : List Call} (h : pin.Told calls) {was : Bool}
    (hwas : accepted pin.line calls ≠ [] ∨ was = false) :
    shows was (accepted pin.line calls) = pin.role.isLow := by
  rw [h.last, List.getLastD_eq_getLast?, shows]
  cases hlast : (accepted pin.line calls).getLast? with
  | none =>
      rw [hwas.resolve_left (not_not_intro (List.getLast?_eq_none_iff.mp hlast))]
      rfl
  | some last => rfl

-- A view of the far ends of some lines: whether a line is pulled low there, if it is there at all.
-- A role that is accepted sets it, and no other call changes it.
structure Latches (on : LineId → Prop) (low? : LineId → σ → Option Bool) : Prop where
  accepts {line : LineId} {role : Role} {lines : σ} : on line →
    (Gpio.configure line role lines).1 = .ok () →
    low? line (Gpio.configure line role lines).2 = (low? line lines).map fun _ => role.isLow
  refuses {line : LineId} {role : Role} {lines : σ} {error : LineError} : on line →
    (Gpio.configure line role lines).1 = .error error →
    low? line (Gpio.configure line role lines).2 = low? line lines
  others {line other : LineId} {role : Role} {lines : σ} : on line → on other → other ≠ line →
    low? other (Gpio.configure line role lines).2 = low? other lines
  read {line other : LineId} {lines : σ} : on line → on other →
    low? other (Gpio.read line lines).2 = low? other lines

namespace Latches

variable {on : LineId → Prop} {low? : LineId → σ → Option Bool}

def Shown (on : LineId → Prop) (low? : LineId → σ → Option Bool) (start : σ) (record : Recorded σ) :
    Prop :=
  ∀ line, on line → low? line record.lines =
    (low? line start).map fun was => shows was (accepted line record.calls)

variable {start : σ} {record : Recorded σ}

theorem shown_configure (latches : Latches on low?) (h : Shown on low? start record)
    {line : LineId} (hline : on line) (role : Role) :
    Shown on low? start (Gpio.configure line role record).2 := by
  intro other hother
  have hbefore := h other hother
  simp only [Gpio.configure]
  by_cases hsame : other = line
  · subst hsame
    cases hanswer : (Gpio.configure other role record.lines).1 with
    | error error => rw [latches.refuses hother hanswer, accepted_concat_error, hbefore]
    | ok done =>
        cases done
        rw [latches.accepts hother hanswer, hbefore, accepted_concat_ok, Option.map_map]
        simp [Function.comp_def, shows]
  · rw [latches.others hline hother hsame, accepted_concat_of_ne (Ne.symm hsame), hbefore]

theorem shown_read (latches : Latches on low?) (h : Shown on low? start record)
    {line : LineId} (hline : on line) : Shown on low? start (Gpio.read line record).2 := by
  intro other hother
  simp only [Gpio.read]
  rw [latches.read hline hother, accepted_concat_read, h other hother]

-- Pins are on these lines alone, and nobody else pulls at the far ends as the driver does.
def Fair (on : LineId → Prop) (low? : LineId → σ → Option Bool) : Deed σ → Prop
  | .touch line _ => on line
  | .meanwhile change => ∀ line lines, on line → low? line (change lines) = low? line lines

theorem shown_act (latches : Latches on low?) {board : Board σ}
    (h : Shown on low? start board.record) {deed : Deed σ} (hfair : Fair on low? deed) :
    Shown on low? start (board.act deed).record := by
  cases deed with
  | meanwhile change => exact fun line hline => (hfair line _ hline).trans (h line hline)
  | touch line touch =>
      have hline : on (board.pin line).line := hfair
      exact touch.perform_keeps (Shown on low? start)
        (fun role _ hkept => latches.shown_configure hkept hline role)
        (fun _ hkept => latches.shown_read hkept hline) h

-- The far ends agree with the record, after however many failures.
theorem low?_after (latches : Latches on low?) (lines : σ) {deeds : List (Deed σ)}
    (hfair : ∀ deed ∈ deeds, Fair on low? deed) (line : LineId) (hline : on line) :
    low? line (Board.after lines deeds).record.lines = (low? line lines).map fun was =>
      shows was (accepted line (Board.after lines deeds).record.calls) := by
  have hshown : Shown on low? lines (Board.after lines deeds).record := by
    refine Board.after_keeps (fun board => Shown on low? lines board.record) (fun other _ => ?_)
      fun board deed hmem h => latches.shown_act h (hfair deed hmem)
    exact Option.map_id'.symm
  exact hshown line hline

end Latches

end SevenSegment.Line
