import Mathlib.Data.List.Induction
import SevenSegment.Proofs.Driver.Devices
import SevenSegment.Proofs.Driver.Invariant

namespace SevenSegment

namespace Line

variable {σ : Type} [Gpio σ]

-- The hardware may refuse to pull a line low, but not to leave it alone.
def Call.Obliging : Call → Prop
  | .configure _ role (.error _) => role = .low
  | _ => True

instance (call : Call) : Decidable call.Obliging :=
  match call with
  | .configure _ role (.error _) => inferInstanceAs (Decidable (role = .low))
  | .configure _ _ (.ok _) | .read _ _ => inferInstanceAs (Decidable True)

theorem Pin.follow_of_obliging {path : List Role} (hpath : .low ∉ path) {pin : Pin}
    {record : Recorded σ} (h : ∀ call ∈ (follow path pin record).2.2.calls, call.Obliging) :
    (follow path pin record).1 = .ok () := by
  induction path generalizing pin record with
  | nil => rfl
  | cons role path ih =>
      obtain ⟨hrole, hrest⟩ := not_or.mp (List.mem_cons.not.mp hpath)
      simp only [follow, Gpio.configure] at h ⊢
      cases hanswer : (Gpio.configure pin.line role record.lines).1 with
      | error error =>
          simp only [hanswer] at h
          have hlow : Call.Obliging (.configure pin.line role (.error error)) :=
            h _ (List.mem_append_right _ List.mem_cons_self)
          exact absurd hlow.symm hrole
      | ok =>
          simp only [hanswer] at h ⊢
          exact ih hrest h

-- A pin that was to be released is, even if its level could not be read.
theorem Pin.release_of_obliging {pin : Pin} {record : Recorded σ}
    (h : ∀ call ∈ (pin.release record).2.2.calls, call.Obliging) :
    (pin.release record).2.1.role = .released := by
  have hlow : .low ∉ pin.role.path .released := fun hmem => by simpa using (Role.mem_path hmem).2
  have hentered : (∀ call ∈ (pin.enter .released record).2.2.calls, call.Obliging) →
      (pin.enter .released record).1 = .ok () := follow_of_obliging hlow
  have hpin : (pin.enter .released record).1 = .ok () → _ := enter_of_ok
  unfold release at h ⊢
  split at h
  · rename_i heq
    rw [heq] at hentered
    exact absurd (hentered h) (by simp)
  · rename_i heq
    rw [heq] at hpin
    exact congrArg Pin.role (hpin rfl)

-- A pin that is refused a role on its way stays where it got to.
theorem Pin.follow_of_error {path : List Role} {pin : Pin} {lines : σ} {error : LineError}
    (h : (follow path pin lines).1 = .error error) :
    (follow path pin lines).2.1.role ∈ (pin.role :: path).dropLast := by
  induction path generalizing pin lines with
  | nil => cases h
  | cons role path ih =>
      rw [List.dropLast_cons_of_ne_nil (List.cons_ne_nil role path)]
      simp only [follow] at h ⊢
      split at h
      · exact List.mem_cons_self
      · exact List.mem_cons_of_mem _ (ih h)

theorem Pin.pullLow_of_error {pin : Pin} {lines : σ} {error : LineError}
    (h : (pin.pullLow lines).1 = .error error) : (pin.pullLow lines).2.1.role ≠ .low := by
  have hstays := follow_of_error h
  intro hlow
  simp only [pullLow, enter] at hlow
  rw [hlow] at hstays
  obtain ⟨line, role⟩ := pin
  cases role <;> simp [Role.path] at hstays

namespace Link

-- A move that fails leaves one of the wires not pulled low, the one it was about.
theorem perform_of_error {link : Link} {move : Move} {record : Recorded σ} {error : LineError}
    (herror : (link.perform move record).1 = .error error)
    (h : ∀ call ∈ (link.perform move record).2.2.calls, call.Obliging) :
    ∃ wire, ((link.perform move record).2.1.pin wire).role ≠ .low := by
  cases move with
  | release wire =>
      have hreleased := Pin.release_of_obliging h
      exact ⟨wire, by simp [perform, release, pin_setPin, hreleased]⟩
  | pullLow wire =>
      have hfailed : ((link.pin wire).pullLow record).1 = .error error := by
        simp only [perform, pullLow] at herror
        cases hdone : ((link.pin wire).pullLow record).1 with
        | error => simpa [hdone, Except.map] using herror
        | ok => simp [hdone, Except.map] at herror
      refine ⟨wire, ?_⟩
      simp only [perform, pullLow, pin_setPin]
      exact Pin.pullLow_of_error hfailed
  | probe =>
      simp only [perform] at h ⊢
      split at h
      · have hreleased := Pin.release_of_obliging h
        exact ⟨.data, by simp [release, pin_setPin, hreleased]⟩
      · have hreleased : (link.clock.release record).2.1.role = .released :=
          Pin.release_of_obliging h
        exact ⟨.clock, by simp [release, pin, setPin, hreleased]⟩

theorem up_of_pullLow {link : Link} {wire : Wire} {lines : σ} {up : Bool}
    (h : (link.perform (.pullLow wire) lines).1 = .ok up) : up = true := by
  simp only [perform] at h
  cases hdone : (link.pullLow wire lines).1 with
  | error error => simp [hdone, Except.map] at h
  | ok =>
      rw [hdone] at h
      exact (Except.ok.inj h).symm

-- A probe lets go of wires and never takes one.
theorem probe_keeps_released {link : Link} (hdata : link.data.role = .released) (lines : σ) :
    (link.perform .probe lines).2.1.data.role = .released := by
  have hkeeps : ∀ lines : σ, (link.data.release lines).2.1 = link.data := by
    intro lines
    simp [Pin.release, Pin.enter, hdata, Pin.follow]
  have hclock : ∀ lines : σ, (link.release .clock lines).2.1.data = link.data := fun _ => rfl
  simp only [perform]
  split
  · rename_i link' after heq
    have hsame : link'.data = link.data := by simpa [heq] using hclock lines
    simp [release, pin, setPin, hsame, hkeeps, hdata]
  · rw [hclock, hdata]

end Link

end Line

namespace Session

open Line (Call Gpio Link Move Recorded)

-- How a session that ended this way leaves its pins.
def Outcome.Leaves (link : Link) : Outcome → Prop
  | .sent | .failed .busStuck | .failed .nack =>
    link.clock.role = .released ∧ link.data.role = .released
  | .failed .clockHeld => link.clock.role = .released
  | .failed .dataHeld => link.data.role = .released
  | .failed .pin => ∃ wire, (link.pin wire).role ≠ .low

section Settle

variable {σ : Type} [Gpio σ] {session : Session} {link : Link} {lines : σ} {resetPulses : UInt8}
  {move : Move} {up : Bool}

theorem Fits.leaves_of_fault (h : session.Fits link) (hmove : session.move? = some move)
    (hanswer : (link.perform move lines).1 = .ok up) {fault : Fault}
    (hsettle : session.countBit.settle resetPulses up = .error fault) :
    (Outcome.failed fault).Leaves (link.perform move lines).2.1 := by
  have hmoved := Link.moved_of_ok hanswer
  obtain ⟨payload, bits, pulses, stage⟩ := session
  cases stage with
  | idle | resetClockLow | resetDataLow | resetClockRelease | resetDataRelease | startDataLow
  | startClockLow | bitClockLow | ackClockLow | ackDataRelease | ackHoldClock | ackHoldData
  | stopClockLow | stopDataLow => cases hsettle
  | resetVerify =>
      cases hmove
      cases up <;> cases hsettle
      exact ⟨hmoved.1, Link.probe_keeps_released h.2.2 lines⟩
  | bitDrive =>
      obtain ⟨bit, -, rfl⟩ := Option.map_eq_some_iff.mp hmove
      cases bit with
      | false =>
          obtain rfl := Link.up_of_pullLow hanswer
          cases hsettle
      | true =>
          cases up <;> cases hsettle
          simp only [if_true, Link.Moved] at hmoved ⊢
          simp only [Outcome.Leaves, hmoved, Link.setPin]
  | bitClockRelease | ackClockRelease | stopClockRelease =>
      cases hmove
      cases up <;> cases hsettle
      simp only [Link.Moved] at hmoved
      simp only [Outcome.Leaves, hmoved, Link.setPin]
  | ackSample =>
      cases hmove
      cases up <;> cases hsettle
      simp only [Link.Moved] at hmoved
      simp only [Outcome.Leaves, hmoved, Link.setPin, h.2.2.2.1, and_self]
  | stopDataRelease =>
      cases hmove
      cases up <;> cases hsettle
      simp only [Link.Moved] at hmoved
      simp only [Outcome.Leaves, hmoved, Link.setPin]

theorem Fits.leaves_of_idle (h : session.Fits link) (hmove : session.move? = some move)
    (hanswer : (link.perform move lines).1 = .ok up) {next : Session}
    (hsettle : session.countBit.settle resetPulses up = .ok next) (hidle : next.stage = .idle) :
    Outcome.sent.Leaves (link.perform move lines).2.1 := by
  have hmoved := Link.moved_of_ok hanswer
  have hlast := stage_of_settle hsettle hidle
  obtain ⟨payload, bits, pulses, stage⟩ := session
  obtain rfl : stage = .stopDataRelease := hlast
  cases hmove
  simp only [Link.Moved] at hmoved
  simp only [Outcome.Leaves, hmoved, Link.setPin, h.2.1, and_self]

end Settle

variable {session : Session} {resetPulses : UInt8} {link : Link}

-- Lines that only ever refuse to be pulled low are left by a session as its outcome tells.
theorem OnTrack.leaves {σ : Type} [Gpio σ] (h : session.OnTrack resetPulses link)
    {record : Recorded σ} {outcome : Outcome}
    (hobliging : ∀ call ∈ (session.step resetPulses link record).lines.calls, call.Obliging)
    (hcomplete : (session.step resetPulses link record).progress = .complete outcome) :
    outcome.Leaves (session.step resetPulses link record).link := by
  obtain ⟨move, hmove⟩ := Option.isSome_iff_exists.mp h.move?_isSome
  simp only [Session.step, hmove] at hobliging hcomplete ⊢
  cases hanswer : (link.perform move record).1 with
  | error error =>
      simp only [hanswer, react, abort, Progress.complete.injEq] at hcomplete
      subst hcomplete
      exact Link.perform_of_error hanswer hobliging
  | ok up =>
      simp only [hanswer, react] at hcomplete
      cases hsettle : session.countBit.settle resetPulses up with
      | error fault =>
          simp only [hsettle, abort, Progress.complete.injEq] at hcomplete
          subst hcomplete
          exact h.fits.leaves_of_fault hmove hanswer hsettle
      | ok next =>
          simp only [hsettle] at hcomplete
          split at hcomplete
          · rename_i hidle
            cases hcomplete
            exact h.fits.leaves_of_idle hmove hanswer hsettle hidle
          · cases hcomplete

end Session

namespace Driver

open Line (Call Gpio LineError LineId Move Recorded Role Wire)
open Session (Outcome)

-- The pins of a device while it is not in the middle of a session.
def Device.Rests (device : Device) : Prop :=
  match device.lastOutcome with
  | none => device.link.clock.role = .inert ∧ device.link.data.role = .inert
  | some outcome => outcome.Leaves device.link

namespace History

variable {σ : Type} [Gpio σ]

theorem after_concat (capacity : Nat) (config : Config) (lines : σ) (requests : List Request)
    (request : Request) :
    after capacity config lines (requests ++ [request]) =
      (after capacity config lines requests).serve request := by
  simp [after]

def AllOnTrack (history : History σ) : Prop :=
  ∀ device ∈ history.registry.devices,
    device.session.OnTrack history.registry.config.resetPulses device.link

theorem allOnTrack_after (capacity : Nat) (config : Config) (lines : σ) (requests : List Request) :
    (after capacity config lines requests).AllOnTrack := by
  rw [AllOnTrack, config_after]
  exact onTrack_after capacity config lines requests

-- The session of this device ends so with its next move.
structure EndsSession (history : History σ) (device : Device) (move : Move) (outcome : Outcome) :
    Prop where
  mem : device ∈ history.registry.devices
  admitted : history.registry.lock.Admits device.oid
  moves : device.session.move? = some move
  complete : (device.session.step history.registry.config.resetPulses device.link
    (⟨history.lines, []⟩ : Recorded σ)).progress = .complete outcome

-- The wires of a device are as a session left them. The callback that ended it made one move on
-- them and freed the bus, and the device has made no call since.
def LeftBySession (before now : History σ) (device : Device) (outcome : Outcome) : Prop :=
  ∃ old move since,
    let made := old.link.perform move (⟨before.lines, []⟩ : Recorded σ)
    old.oid = device.oid ∧ before.EndsSession old move outcome ∧ device.link = made.2.1 ∧
    (before.serve (.tick device.oid)).registry.lock.holder = none ∧
    now.calls =
      before.calls ++ made.2.2.calls.map (fun call => (.device device.oid, call)) ++ since ∧
    ∀ entry ∈ since, entry.1 ≠ .device device.oid

theorem LeftBySession.keep {before now next : History σ} {device device' : Device}
    {outcome : Outcome} (h : before.LeftBySession now device outcome)
    (hoid : device'.oid = device.oid) (hlink : device'.link = device.link)
    {more : List (Author × Call)} (hcalls : next.calls = now.calls ++ more)
    (hmore : ∀ entry ∈ more, entry.1 ≠ .device device.oid) :
    before.LeftBySession next device' outcome := by
  obtain ⟨old, move, since, hold, hends, hleft, hfreed, hmade, hsince⟩ := h
  rw [← hoid] at hold hfreed hmade hsince hmore
  refine ⟨old, move, since ++ more, hold, hends, hlink.trans hleft, hfreed, ?_, ?_⟩
  · rw [hcalls, hmade, List.append_assoc _ since]
  · intro entry hmem
    rcases List.mem_append.mp hmem with hmem | hmem
    · exact hsince entry hmem
    · exact hmore entry hmem

-- The callback that ends a session leaves its device just so.
theorem EndsSession.leftBySession {history : History σ} {device : Device} {move : Move}
    {outcome : Outcome} (h : history.EndsSession device move outcome)
    {ended : Device.Tick (Recorded σ)} (hoid : ended.device.oid = device.oid)
    (hlink : ended.device.link = (device.session.step history.registry.config.resetPulses
      device.link (⟨history.lines, []⟩ : Recorded σ)).link)
    (hlines : ended.lines = (device.session.step history.registry.config.resetPulses
      device.link (⟨history.lines, []⟩ : Recorded σ)).lines)
    (hfreed : (history.serve (.tick device.oid)).registry.lock.holder = none)
    (hmade : (history.serve (.tick device.oid)).calls =
      history.calls ++ ended.lines.calls.map fun call => (.device device.oid, call)) :
    history.LeftBySession (history.serve (.tick device.oid)) ended.device outcome := by
  simp only [Session.step, h.moves] at hlink hlines
  refine ⟨device, move, [], hoid.symm, h, hlink, hoid ▸ hfreed, ?_, by simp⟩
  rw [hmade, hlines, hoid, List.append_nil]

-- A device that has had no session yet has not touched its wires, and any other one has them as its
-- last session left them.
def AsLastLeft (capacity : Nat) (config : Config) (lines : σ) (requests : List Request)
    (device : Device) : Prop :=
  match device.lastOutcome with
  | none => device.link.clock.role = .inert ∧ device.link.data.role = .inert
  | some outcome => ∃ earlier later, requests = earlier ++ .tick device.oid :: later ∧
      (after capacity config lines earlier).LeftBySession (after capacity config lines requests)
        device outcome

section AsLastLeft

variable {capacity : Nat} {config : Config} {lines : σ} {requests : List Request}

theorem AsLastLeft.keep {device device' : Device} {request : Request}
    (h : AsLastLeft capacity config lines requests device) (hoid : device'.oid = device.oid)
    (hlink : device'.link = device.link) (houtcome : device'.lastOutcome = device.lastOutcome)
    {more : List (Author × Call)}
    (hcalls : ((after capacity config lines requests).serve request).calls =
      (after capacity config lines requests).calls ++ more)
    (hmore : ∀ entry ∈ more, entry.1 ≠ .device device.oid) :
    AsLastLeft capacity config lines (requests ++ [request]) device' := by
  unfold AsLastLeft at h ⊢
  rw [houtcome]
  split
  · rename_i hlast
    rw [hlast] at h
    rw [hlink]
    exact h
  · rename_i outcome hlast
    rw [hlast] at h
    obtain ⟨earlier, later, hsplit, hleft⟩ := h
    refine ⟨earlier, later ++ [request], ?_, ?_⟩
    · rw [hoid, hsplit, List.append_assoc, List.cons_append]
    · rw [after_concat]
      exact hleft.keep hoid hlink hcalls hmore

theorem AsLastLeft.rest {device device' : Device} {request : Request}
    (h : AsLastLeft capacity config lines requests device) (hoid : device'.oid = device.oid)
    (hlink : device'.link = device.link) (houtcome : device'.lastOutcome = device.lastOutcome)
    (hcalls : ((after capacity config lines requests).serve request).calls =
      (after capacity config lines requests).calls) :
    AsLastLeft capacity config lines (requests ++ [request]) device' :=
  h.keep hoid hlink houtcome (hcalls.trans (List.append_nil _).symm) (by simp)

theorem asLastLeft_tick (oid : UInt8)
    (h : ∀ device ∈ (after capacity config lines requests).registry.devices,
      device.session.stage = .idle → AsLastLeft capacity config lines requests device) :
    ∀ device ∈ ((after capacity config lines requests).serve (.tick oid)).registry.devices,
      device.session.stage = .idle →
        AsLastLeft capacity config lines (requests ++ [.tick oid]) device := by
  have htrack := allOnTrack_after capacity config lines requests
  intro device hmem hidle
  rcases (after capacity config lines requests).tick_noted oid with
    hsame | ⟨old, ticked, rfl, hold, hticked, hregistry, hmade⟩
  · rw [hsame] at hmem
    exact (h device hmem hidle).rest rfl rfl rfl (by rw [hsame])
  have hoid := Device.ticked_oid hticked
  rw [hregistry] at hmem
  rcases Registry.mem_put hmem with rfl | ⟨hother, hne⟩
  · cases hticked with
    | rests timer _ _ _ hdevice _ hlines =>
        rw [hdevice] at hidle ⊢
        refine (h old hold hidle).rest rfl rfl rfl ?_
        rw [hmade, hlines, List.map_nil, List.append_nil]
    | steps timer _ _ hactive _ _ hdevice _ _ =>
        rw [hdevice] at hidle
        exact absurd hidle (Session.stage_of_active hactive)
    | ends outcome _ hadmits hcomplete _ hdevice hlock hlines =>
        obtain ⟨move, hmove⟩ :=
          Option.isSome_iff_exists.mp (htrack old hold).move?_isSome
        have hlast : ticked.device.lastOutcome = some outcome := by rw [hdevice]
        have hlink := congrArg Device.link hdevice
        have hfreed : ((after capacity config lines requests).serve
            (.tick old.oid)).registry.lock.holder = none := by
          rw [hregistry, hlock]
          rfl
        have hends : EndsSession _ old move outcome := ⟨hold, hadmits, hmove, hcomplete⟩
        have hleft := hends.leftBySession hoid hlink hlines hfreed hmade
        simp only [AsLastLeft, hlast]
        exact ⟨requests, [], by rw [hoid], by rwa [after_concat]⟩
    | traps trap _ _ htrapped _ _ _ =>
        exact absurd htrapped ((htrack old hold).not_trapped _ trap)
  · refine (h device hother hidle).keep rfl rfl rfl hmade fun entry hentry => ?_
    obtain ⟨call, -, rfl⟩ := List.mem_map.mp hentry
    exact fun hauthor => hne ((Author.device.inj hauthor).symm.trans hoid.symm)

theorem asLastLeft_after (hrunning : .shutdown ∉ requests) :
    ∀ device ∈ (after capacity config lines requests).registry.devices,
      device.session.stage = .idle → AsLastLeft capacity config lines requests device := by
  induction requests using List.reverseRecOn with
  | nil => simp [after, Registry.new]
  | append_singleton requests request ih =>
      simp only [List.mem_append, List.mem_singleton, not_or] at hrunning
      have h := ih hrunning.1
      have hsound := (sound_after capacity config lines requests).registry
      rw [after_concat]
      cases request with
      | configure known oid clock data =>
          intro device hmem hidle
          simp only [serve] at hmem
          rcases (after capacity config lines requests).registry.configure_cases known oid clock
            data with hsame | ⟨-, -, -, hadded⟩
          · rw [hsame] at hmem
            exact (h device hmem hidle).rest rfl rfl rfl rfl
          · rw [hadded] at hmem
            rcases List.mem_append.mp hmem with hmem | hmem
            · exact (h device hmem hidle).rest rfl rfl rfl rfl
            · obtain rfl := List.mem_singleton.mp hmem
              exact ⟨rfl, rfl⟩
      | send oid bytes now =>
          intro device hmem hidle
          simp only [serve] at hmem
          rcases hsound.send_cases oid bytes now with
            ⟨-, hsame⟩ | ⟨-, old, hold, -, hfree, payload, -, hput⟩
          · rw [hsame] at hmem
            exact (h device hmem hidle).rest rfl rfl rfl rfl
          · rw [hput] at hmem
            rcases Registry.mem_put hmem with rfl | ⟨hmem, -⟩
            · have hrests := h old hold ((hsound.devices old hold).stage_of_free hfree)
              exact hrests.rest rfl rfl rfl rfl
            · exact (h device hmem hidle).rest rfl rfl rfl rfl
      | tick oid => exact asLastLeft_tick oid h
      | nextAlarm => exact fun device hmem hidle => (h device hmem hidle).rest rfl rfl rfl rfl
      | shutdown => exact absurd rfl hrunning.2

end AsLastLeft

-- Lines that only ever refuse to be pulled low are left as the outcome tells.
theorem LeftBySession.leaves {before now : History σ} {device : Device} {outcome : Outcome}
    (h : before.LeftBySession now device outcome) (htrack : before.AllOnTrack)
    (hobliging : ∀ entry ∈ now.calls, entry.2.Obliging) : outcome.Leaves device.link := by
  obtain ⟨old, move, since, -, hends, hleft, -, hmade, -⟩ := h
  have hcomplete := hends.complete
  have hlink : (old.session.step before.registry.config.resetPulses old.link
      (⟨before.lines, []⟩ : Recorded σ)).link = device.link := by
    simp only [Session.step, hends.moves, hleft]
  rw [← hlink]
  refine (htrack old hends.mem).leaves (fun call hcall => ?_) hcomplete
  simp only [Session.step, hends.moves] at hcall
  refine hobliging (.device device.oid, call) ?_
  rw [hmade]
  exact List.mem_append_left _ (List.mem_append_right _ (List.mem_map_of_mem hcall))

-- A device that does not hold the bus has not touched its wires yet, or they are as the last move
-- of its last session left them. If that was sent, found the bus stuck or got no acknowledgement,
-- both wires are released, and otherwise at least one of them is not pulled low.
theorem rests_off_the_bus (capacity : Nat) (config : Config) (lines : σ) (requests : List Request)
    (hrunning : .shutdown ∉ requests)
    (hobliging : ∀ entry ∈ (after capacity config lines requests).calls, entry.2.Obliging) :
    let history := after capacity config lines requests
    ∀ device ∈ history.registry.devices, history.registry.lock.holder ≠ some device.oid →
      device.Rests ∧ ∀ outcome, device.lastOutcome = some outcome →
        ∃ earlier later, requests = earlier ++ .tick device.oid :: later ∧
          (after capacity config lines earlier).LeftBySession history device outcome := by
  intro history device hmem hheld
  have hsound : history.registry.Sound := (sound_after capacity config lines requests).registry
  have hrests := asLastLeft_after hrunning device hmem
    ((hsound.devices device hmem).stage_of_not_held hheld)
  unfold AsLastLeft at hrests
  unfold Device.Rests
  cases hlast : device.lastOutcome with
  | none =>
      rw [hlast] at hrests
      exact ⟨hrests, by simp⟩
  | some outcome =>
      rw [hlast] at hrests
      obtain ⟨earlier, later, hsplit, hleft⟩ := hrests
      refine ⟨hleft.leaves (allOnTrack_after capacity config lines earlier) hobliging, ?_⟩
      intro last hsame
      obtain rfl := Option.some.inj hsame
      exact ⟨earlier, later, hsplit, hleft⟩

end History

-- Lines that take any role. Reads are answered from a list, and then by a high level.
structure Scripted where
  answers : List (Except LineError Bool)

instance : Gpio Scripted where
  configure _ _ lines := (.ok (), lines)
  read _ lines :=
    match lines.answers with
    | [] => (.ok true, lines)
    | answer :: answers => (answer, ⟨answers⟩)

namespace History

-- A device that is to send nine times the same byte takes this many steps.
def partway (byte : UInt8) (steps : Nat) : List Request :=
  .configure (fun _ => true) 0 0 1 :: .send 0 (List.replicate 9 byte) ⟨0⟩ ::
    List.replicate steps (.tick 0)

theorem shutdown_notMem_partway (byte : UInt8) (steps : Nat) :
    .shutdown ∉ partway byte steps := by
  simp [partway, List.mem_replicate]

-- The bus is found free, and then a read is answered so.
def interrupted (byte : UInt8) (steps : Nat) (answer : Except LineError Bool) : History Scripted :=
  after 1 {} ⟨[.ok true, .ok true, answer]⟩ (partway byte steps)

theorem rests_off_the_bus_interrupted :
    ∃ device ∈ (interrupted 0x00 6 (.ok false)).registry.devices,
      device.lastOutcome = some (.failed .clockHeld) ∧ device.Rests ∧
        ∃ earlier later, partway 0x00 6 = earlier ++ .tick device.oid :: later ∧
          (after 1 {} ⟨[.ok true, .ok true, .ok false]⟩ earlier).LeftBySession
            (interrupted 0x00 6 (.ok false)) device (.failed .clockHeld) := by
  have hobliging : ∀ entry ∈ (interrupted 0x00 6 (.ok false)).calls, entry.2.Obliging := by
    decide +kernel
  have hdevice : ∃ device ∈ (interrupted 0x00 6 (.ok false)).registry.devices,
      device.lastOutcome = some (.failed .clockHeld) ∧
        (interrupted 0x00 6 (.ok false)).registry.lock.holder ≠ some device.oid := by
    decide +kernel
  obtain ⟨device, hmem, houtcome, hheld⟩ := hdevice
  simp only [interrupted] at hobliging hmem hheld ⊢
  obtain ⟨hrests, hleft⟩ := rests_off_the_bus _ _ _ _ (shutdown_notMem_partway 0x00 6) hobliging
    device hmem hheld
  exact ⟨device, hmem, houtcome, hrests, hleft _ houtcome⟩

-- Nobody holds the bus, and still a wire is pulled low.
def LeftLow (history : History Scripted) (fault : Session.Fault) (wire : Wire) : Prop :=
  (∀ entry ∈ history.calls, entry.2.Obliging) ∧ history.registry.lock.holder = none ∧
    ∃ device ∈ history.registry.devices,
      device.lastOutcome = some (.failed fault) ∧ (device.link.pin wire).role = .low

instance (history : History Scripted) (fault : Session.Fault) (wire : Wire) :
    Decidable (history.LeftLow fault wire) :=
  inferInstanceAs (Decidable (_ ∧ _))

-- Every fault that need not leave both wires alone, and each wire it can leave low.
theorem left_low_by_faults :
    (∀ byte steps, .shutdown ∉ partway byte steps) ∧
    (interrupted 0x00 6 (.ok false)).LeftLow .clockHeld .data ∧
    (interrupted 0xFF 5 (.ok false)).LeftLow .dataHeld .clock ∧
    (interrupted 0x00 6 (.error ⟨"Read"⟩)).LeftLow .pin .data ∧
    (interrupted 0xFF 5 (.error ⟨"Read"⟩)).LeftLow .pin .clock := by
  refine ⟨shutdown_notMem_partway, ?_, ?_, ?_, ?_⟩ <;> decide +kernel

end History

end Driver

end SevenSegment
