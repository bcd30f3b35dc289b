import Mathlib.Data.List.Chain
import SevenSegment.Proofs.Driver.Alike
import SevenSegment.Proofs.Driver.History

namespace SevenSegment

open Line (Call Gpio Link LineId Recorded)
open Panel (Payload)

variable {σ : Type} [Gpio σ]

namespace Session

-- A run that is recorded makes the calls of its next step as if nothing had been recorded yet.
theorem sending_succ_recorded {payload : Payload} {resetPulses : UInt8} {link : Link}
    {record : Recorded σ} {count : Nat} {run : Run (Recorded σ)}
    (hrun : sending payload resetPulses link record count = run) (hactive : run.progress = .active) :
    let after := run.session.step resetPulses run.link (⟨run.lines.lines, []⟩ : Recorded σ)
    let next := sending payload resetPulses link record (count + 1)
    next.session = after.session ∧ next.link = after.link ∧ next.progress = after.progress ∧
      next.lines.lines = after.lines.lines ∧
      next.lines.calls = run.lines.calls ++ after.lines.calls := by
  intro after next
  have hnext : next = run.step resetPulses := by
    simp only [next, sending_succ, hrun, if_pos hactive]
  obtain ⟨hsession, hlink, hprogress, -, hlines, hcalls⟩ :=
    run.session.step_agree (Recorded.alike_extends run.lines.calls) resetPulses run.link
      (fun _ => trivial)
      (show Recorded.Extends run.lines.calls run.lines (⟨run.lines.lines, []⟩ : Recorded σ) from
        ⟨rfl, (List.append_nil _).symm⟩)
  rw [hnext]
  exact ⟨hsession, hlink, hprogress, hlines, hcalls⟩

-- A session never leaves its two lines.
theorem sending_within (payload : Payload) (resetPulses : UInt8) (link : Link) (lines : σ)
    (count : Nat) :
    (sending payload resetPulses link (⟨lines, []⟩ : Recorded σ) count).link.SameLines link ∧
      ∀ call ∈ (sending payload resetPulses link (⟨lines, []⟩ : Recorded σ) count).lines.calls,
        ∃ wire, call.line = (link.pin wire).line := by
  induction count with
  | zero => exact ⟨fun _ => rfl, by simp [sending, Session.run, Run.extend]⟩
  | succ count ih =>
      obtain ⟨hsame, hcalls⟩ := ih
      rw [sending_succ]
      split
      · have hwithin := (sending payload resetPulses link (⟨lines, []⟩ : Recorded σ)
            count).session.step_agree
          (Recorded.alike_within fun line => ∃ wire, line = (link.pin wire).line) resetPulses
          (sending payload resetPulses link (⟨lines, []⟩ : Recorded σ) count).link
          (fun wire => ⟨wire, hsame wire⟩) ⟨rfl, hcalls⟩
        exact ⟨(step_sameLines _ _ _ _).trans hsame, hwithin.lines.2⟩
      · exact ⟨hsame, hcalls⟩

theorem sending_progress (payload : Payload) (resetPulses : UInt8) (link : Link) (lines : σ)
    (count : Nat) :
    (sending payload resetPulses link lines count).progress = .active ∨
      ∃ outcome, (sending payload resetPulses link lines count).progress = .complete outcome := by
  have hcourse : Course payload resetPulses link lines count := course count
  cases hcourse with
  | underWay _ hactive => exact .inl hactive
  | sent hsent => exact .inr ⟨_, hsent⟩
  | failed _ _ hfailed => exact .inr ⟨_, hfailed⟩

end Session

namespace Driver

open Session (sending sending_progress sending_succ_recorded sending_within)
open Time (Instant)

-- Calls that belong together: those of a session up to some step, or those of a shutdown.
inductive Block (σ : Type) where
  | session (oid : UInt8) (payload : Payload) (link : Link) (lines : σ) (steps : Nat)
  | shutDown (devices : List Device) (lines : σ)

namespace Block

def event : Block σ → Event σ
  | .session oid payload link lines _ => .acquired ⟨oid, link, some payload⟩ lines
  | .shutDown devices lines => .shutDown devices lines

def calls (resetPulses : UInt8) : Block σ → List (Author × Call)
  | .session oid payload link lines steps =>
    (sending payload resetPulses link (⟨lines, []⟩ : Recorded σ) steps).lines.calls.map
      fun call => (.device oid, call)
  | .shutDown devices lines =>
    (Registry.shutdownAll devices (⟨lines, []⟩ : Recorded σ)).lines.calls.map
      fun call => (.shutdown, call)

-- Whether the session got to its end.
def Complete (resetPulses : UInt8) : Block σ → Prop
  | .session _ payload link lines steps => ∃ outcome,
      (sending payload resetPulses link (⟨lines, []⟩ : Recorded σ) steps).progress =
        .complete outcome
  | .shutDown .. => True

def IsShutdown : Block σ → Prop
  | .session .. => False
  | .shutDown .. => True

-- Each session but the last one gets to its end, unless a shutdown cuts it off.
def Serial (resetPulses : UInt8) (blocks : List (Block σ)) : Prop :=
  blocks.IsChain fun block next => block.Complete resetPulses ∨ next.IsShutdown

theorem serial_concat {resetPulses : UInt8} {blocks : List (Block σ)} {next : Block σ} :
    Serial resetPulses (blocks ++ [next]) ↔ Serial resetPulses blocks ∧
      ∀ block ∈ blocks.getLast?, block.Complete resetPulses ∨ next.IsShutdown := by
  simp [Serial, List.isChain_append]

end Block

-- A device whose session is under way as in this run.
structure Device.At (device : Device) (lines : σ) (run : Session.Run (Recorded σ)) : Prop where
  active : run.progress = .active
  session : device.session = run.session
  link : device.link = run.link
  lines : lines = run.lines.lines

namespace History

-- The blocks of a history. Whoever holds the bus is where the last one has got to.
structure Told (history : History σ) (blocks : List (Block σ)) : Prop where
  calls : history.calls = blocks.flatMap (Block.calls history.registry.config.resetPulses)
  events : blocks.map Block.event = history.events
  serial : Block.Serial history.registry.config.resetPulses blocks

inductive LastBlockHolds (history : History σ) (blocks : List (Block σ)) : Prop where
  | free : history.registry.lock.holder = none →
      (∀ block ∈ blocks.getLast?, block.Complete history.registry.config.resetPulses) →
      LastBlockHolds history blocks
  | held (device : Device) (front : List (Block σ)) (payload : Payload) (link : Link) (lines : σ)
      (steps : Nat) :
      history.registry.lock.holder = some device.oid → device ∈ history.registry.devices →
      blocks = front ++ [.session device.oid payload link lines steps] →
      device.At history.lines
        (sending payload history.registry.config.resetPulses link ⟨lines, []⟩ steps) →
      LastBlockHolds history blocks

variable {history : History σ} {blocks : List (Block σ)} {oid : UInt8}

omit [Gpio σ] in
theorem acquired_of_holder {holder : UInt8} (h : history.registry.lock.holder = some holder)
    (oid : UInt8) : history.acquired oid = [] := by
  unfold acquired
  split <;> simp [h]

-- A device that may go on has a block that ends where it stands, even if it is yet to begin.
theorem LastBlockHolds.block (h : history.LastBlockHolds blocks) (hsound : history.Sound)
    (htold : history.Told blocks) {device : Device} (hmem : device ∈ history.registry.devices)
    (hbusy : device.isBusy = true) (hholder : history.registry.lock.Admits device.oid) :
    ∃ (front : List (Block σ)) (payload : Payload) (link : Link) (lines : σ) (steps : Nat),
      let blocks := front ++ [.session device.oid payload link lines steps]
      history.calls = blocks.flatMap (Block.calls history.registry.config.resetPulses) ∧
        blocks.map Block.event = history.events ++ history.acquired device.oid ∧
        Block.Serial history.registry.config.resetPulses blocks ∧
        device.At history.lines
          (sending payload history.registry.config.resetPulses link ⟨lines, []⟩ steps) := by
  cases h with
  | free hfree hcomplete =>
      have hdevice := hsound.registry.devices device hmem
      have hstage := hdevice.stage_of_not_held (by rw [hfree]; simp)
      have hacquired : history.acquired device.oid =
          [.acquired ⟨device.oid, device.link, some device.session.payload⟩ history.lines] := by
        simp only [acquired, hsound.registry.device?_eq hmem, hbusy, hfree, and_self, if_true,
          sendingOf, hsound.latest device hmem hbusy]
      refine ⟨blocks, device.session.payload, device.link, history.lines, 0, ?_, ?_, ?_,
        ⟨rfl, hdevice.loaded hbusy hstage, rfl, rfl⟩⟩
      · rw [List.flatMap_append, ← htold.calls]
        exact (List.append_nil _).symm
      · rw [List.map_append, htold.events, hacquired]
        rfl
      · exact Block.serial_concat.mpr ⟨htold.serial, fun block hlast => .inl (hcomplete block hlast)⟩
  | held other front payload link lines steps hheld hother hblocks hat =>
      have hoid : other.oid = device.oid := by
        rcases hholder with hholder | hholder
        · simp [hholder] at hheld
        · simpa [hholder, eq_comm] using hheld
      obtain rfl := hsound.registry.eq_of_oid hother hmem hoid
      refine ⟨front, payload, link, lines, steps, hblocks ▸ htold.calls, ?_, hblocks ▸ htold.serial,
        hat⟩
      rw [acquired_of_holder hheld, List.append_nil, ← hblocks, htold.events]

-- What happens beside the device that holds the bus does not matter.
theorem LastBlockHolds.of_kept (h : history.LastBlockHolds blocks) {next : History σ}
    (hlock : next.registry.lock = history.registry.lock)
    (hconfig : next.registry.config = history.registry.config) (hlines : next.lines = history.lines)
    (hdevices : ∀ device ∈ history.registry.devices,
      history.registry.lock.holder = some device.oid →
      ∃ device' ∈ next.registry.devices, device'.oid = device.oid ∧
        device'.session = device.session ∧ device'.link = device.link) :
    next.LastBlockHolds blocks := by
  cases h with
  | free hfree hcomplete => exact .free (hlock ▸ hfree) (hconfig ▸ hcomplete)
  | held device front payload link lines steps hheld hmem hblocks hat =>
      obtain ⟨device', hmem', hoid, hsession, hlink⟩ := hdevices device hmem hheld
      refine .held device' front payload link lines steps (by rw [hlock, hoid, hheld]) hmem'
        (by rw [hoid, hblocks]) ?_
      rw [hconfig]
      exact ⟨hat.active, hsession.trans hat.session, hlink.trans hat.link, hlines.trans hat.lines⟩

omit [Gpio σ] in
theorem acquired_of_rests {device : Device} (hfound : history.registry.device? oid = some device)
    (hrests : device.isBusy = true → ∃ holder, history.registry.lock.holder = some holder ∧
      holder ≠ device.oid) : history.acquired oid = [] := by
  simp only [acquired, hfound]
  split
  · rename_i h
    obtain ⟨holder, hheld, -⟩ := hrests h.1
    exact absurd (h.2.symm.trans hheld) (by simp)
  · rfl

-- A callback that gets to step its session adds that step to the last block.
theorem LastBlockHolds.step (h : history.LastBlockHolds blocks) (hsound : history.Sound)
    (htold : history.Told blocks) {device : Device} (hmem : device ∈ history.registry.devices)
    (hbusy : device.isBusy = true) (hholder : history.registry.lock.Admits device.oid)
    (hlines : (history.registry.tick device.oid (⟨history.lines, []⟩ : Recorded σ)).lines =
      (device.session.step history.registry.config.resetPulses device.link
        (⟨history.lines, []⟩ : Recorded σ)).lines) :
    ∃ (front : List (Block σ)) (payload : Payload) (link : Link) (lines : σ) (steps : Nat),
      let step := device.session.step history.registry.config.resetPulses device.link
        (⟨history.lines, []⟩ : Recorded σ)
      let run := sending payload history.registry.config.resetPulses link
        (⟨lines, []⟩ : Recorded σ) steps
      (history.serve (.tick device.oid)).Told
          (front ++ [.session device.oid payload link lines steps]) ∧
        run.session = step.session ∧ run.link = step.link ∧ run.progress = step.progress ∧
        run.lines.lines = step.lines.lines := by
  obtain ⟨front, payload, link, lines, steps, hcalls, hevents, hserial, hat⟩ :=
    h.block hsound htold hmem hbusy hholder
  have hnext := sending_succ_recorded (Eq.refl (sending payload history.registry.config.resetPulses
    link (⟨lines, []⟩ : Recorded σ) steps)) hat.active
  rw [← hat.session, ← hat.link, ← hat.lines] at hnext
  obtain ⟨hsession, hlink, hprogress, hlines', hcalls'⟩ := hnext
  refine ⟨front, payload, link, lines, steps + 1, ⟨?_, ?_, ?_⟩, hsession, hlink, hprogress, hlines'⟩
  · rw [history.config_serve]
    simp only [serve, hlines, hcalls, List.flatMap_append, List.flatMap_singleton, Block.calls,
      hcalls', List.map_append, List.append_assoc]
  · rw [List.map_append] at hevents ⊢
    exact hevents
  · rw [history.config_serve]
    rw [Block.serial_concat] at hserial ⊢
    exact hserial

theorem LastBlockHolds.tick (h : history.LastBlockHolds blocks) (hsound : history.Sound)
    (htold : history.Told blocks) (oid : UInt8) :
    ∃ blocks, (history.serve (.tick oid)).Told blocks ∧
      (history.serve (.tick oid)).LastBlockHolds blocks := by
  obtain ⟨hrecord, hrecord'⟩ := history.registry.tick_recorded oid history.lines
  rcases history.registry.tick_cases oid (⟨history.lines, []⟩ : Recorded σ) with
    ⟨hnone, -, -⟩ | ⟨device, after, hfound, hticked, htick⟩
  · rw [serve_tick_of_none hnone]
    exact ⟨blocks, htold, h⟩
  · obtain ⟨hmem, rfl⟩ := Registry.mem_of_device? hfound
    have hlines := congrArg Registry.Tick.lines htick
    have hregistry : (history.serve (.tick device.oid)).registry =
        { history.registry.put after.device with lock := after.lock } :=
      hrecord.symm.trans (congrArg Registry.Tick.registry htick)
    have hstate : (history.serve (.tick device.oid)).lines = after.lines.lines :=
      hrecord'.symm.trans (congrArg Recorded.lines hlines)
    have hsame := Device.ticked_oid hticked
    have hself := Registry.mem_put_self hmem hsame.symm
    cases hticked with
    | rests timer hrests _ _ hdevice hlock hrest =>
        refine ⟨blocks, ⟨?_, ?_, ?_⟩, ?_⟩
        · rw [history.config_serve]
          simp only [serve, htick, hrest, List.map_nil, List.append_nil, htold.calls]
        · simp only [serve, acquired_of_rests hfound hrests, List.append_nil, htold.events]
        · rw [history.config_serve]
          exact htold.serial
        · refine h.of_kept ?_ (history.config_serve _) ?_ fun other hother _ => ?_
          · rw [hregistry, hlock]
          · rw [hstate, hrest]
          · rw [hregistry]
            by_cases hoid : other.oid = device.oid
            · obtain rfl := hsound.registry.eq_of_oid hother hmem hoid
              exact ⟨after.device, hself, by rw [hdevice], by rw [hdevice], by rw [hdevice]⟩
            · exact ⟨other, Registry.mem_put_of_ne hother (hsame ▸ hoid), rfl, rfl, rfl⟩
    | steps timer hbusy hholder hactive _ _ hdevice hlock hstep =>
        obtain ⟨front, payload, link, lines, steps, htold', hsession, hlink, hprogress, hlines'⟩ :=
          h.step hsound htold hmem hbusy hholder (hlines.trans hstep)
        refine ⟨_, htold', .held after.device front payload link lines steps ?_ ?_ ?_ ?_⟩
        · rw [hregistry, hlock, hdevice]
        · rw [hregistry]
          exact hself
        · rw [hdevice]
        · rw [history.config_serve]
          exact ⟨hprogress.trans hactive, by rw [hdevice, hsession], by rw [hdevice, hlink],
            by rw [hstate, hstep, hlines']⟩
    | ends outcome hbusy hholder hcomplete _ hdevice hlock hstep =>
        obtain ⟨front, payload, link, lines, steps, htold', -, -, hprogress, -⟩ :=
          h.step hsound htold hmem hbusy hholder (hlines.trans hstep)
        refine ⟨_, htold', .free (by rw [hregistry, hlock]; rfl) ?_⟩
        simp only [List.getLast?_concat, Option.mem_def, Option.some.injEq, forall_eq']
        rw [history.config_serve]
        exact ⟨outcome, hprogress.trans hcomplete⟩
    | traps trap hbusy hholder htrapped hdevice hlock hstep =>
        obtain ⟨front, payload, link, lines, steps, -, -, -, hprogress, -⟩ :=
          h.step hsound htold hmem hbusy hholder (hlines.trans hstep)
        rcases sending_progress payload history.registry.config.resetPulses link
          (⟨lines, []⟩ : Recorded σ) steps with hactive | ⟨outcome, hcomplete⟩
        · exact absurd (hactive.symm.trans (hprogress.trans htrapped)) (by simp)
        · exact absurd (hcomplete.symm.trans (hprogress.trans htrapped)) (by simp)

theorem Told.of_same (h : history.Told blocks) {next : History σ}
    (hconfig : next.registry.config = history.registry.config)
    (hcalls : next.calls = history.calls) (hevents : next.events = history.events) :
    next.Told blocks :=
  ⟨by rw [hcalls, hconfig, h.calls], by rw [hevents, h.events], hconfig ▸ h.serial⟩

theorem LastBlockHolds.configure (h : history.LastBlockHolds blocks) (known : LineId → Bool)
    (oid : UInt8) (clock data : LineId) :
    (history.serve (.configure known oid clock data)).LastBlockHolds blocks := by
  rcases history.registry.configure_cases known oid clock data with hsame | ⟨-, -, -, hnew⟩
  · exact h.of_kept (congrArg Registry.lock hsame) (congrArg Registry.config hsame) rfl
      fun device hmem _ => ⟨device, by simpa only [serve, hsame] using hmem, rfl, rfl, rfl⟩
  · exact h.of_kept (by simp only [serve, hnew]) (by simp only [serve, hnew]) rfl
      fun device hmem _ =>
        ⟨device, by simpa only [serve, hnew] using List.mem_append_left _ hmem, rfl, rfl, rfl⟩

-- The device that holds the bus is armed, so no payload is queued for it.
theorem LastBlockHolds.send (h : history.LastBlockHolds blocks) (hsound : history.Sound)
    (oid : UInt8) (bytes : List UInt8) (now : Instant) :
    (history.serve (.send oid bytes now)).LastBlockHolds blocks := by
  rcases hsound.registry.send_cases oid bytes now with
    ⟨-, hsame⟩ | ⟨-, device, hmem, -, hfree, payload, -, hput⟩
  · exact h.of_kept (congrArg Registry.lock hsame) (congrArg Registry.config hsame) rfl
      fun device hmem _ => ⟨device, by simpa only [serve, hsame] using hmem, rfl, rfl, rfl⟩
  · refine h.of_kept (by simp only [serve, hput]; rfl) (by simp only [serve, hput]; rfl) rfl
      fun other hother hheld => ?_
    have hbusy : other.isBusy = true :=
      have hother := hsound.registry.devices other hother
      hother.isBusy_of_stage (hother.holds.mpr hheld)
    have hne : other.oid ≠ device.oid := by
      intro hoid
      obtain rfl := hsound.registry.eq_of_oid hother hmem hoid
      simp [hfree] at hbusy
    refine ⟨other, ?_, rfl, rfl, rfl⟩
    simp only [serve, hput]
    exact Registry.mem_put_of_ne hother hne

theorem Told.shutdown (h : history.Told blocks) :
    ∃ blocks, (history.serve .shutdown).Told blocks ∧
      (history.serve .shutdown).LastBlockHolds blocks := by
  refine ⟨blocks ++ [.shutDown history.registry.devices history.lines], ⟨?_, ?_, ?_⟩, ?_⟩
  · simp only [serve, Registry.shutdown, List.flatMap_append, List.flatMap_singleton, Block.calls,
      h.calls]
  · rw [List.map_append, h.events]
    rfl
  · exact Block.serial_concat.mpr ⟨h.serial, fun _ _ => .inr trivial⟩
  · refine .free rfl ?_
    simp only [List.getLast?_concat, Option.mem_def, Option.some.injEq, forall_eq']
    trivial

def InBlocks (config : Config) (history : History σ) : Prop :=
  history.registry.config = config ∧ history.Sound ∧
    ∃ blocks, history.Told blocks ∧ history.LastBlockHolds blocks

theorem InBlocks.serve {config : Config} (h : history.InBlocks config) (request : Request) :
    (history.serve request).InBlocks config := by
  obtain ⟨hconfig, hsound, blocks, htold, hlastBlock⟩ := h
  refine ⟨(history.config_serve request).trans hconfig, hsound.serve request, ?_⟩
  cases request with
  | configure known oid clock data =>
      exact ⟨blocks, htold.of_same (history.config_serve _) rfl rfl, hlastBlock.configure ..⟩
  | send oid bytes now =>
      exact ⟨blocks, htold.of_same (history.config_serve _) rfl rfl, hlastBlock.send hsound ..⟩
  | tick oid => exact hlastBlock.tick hsound htold oid
  | nextAlarm => exact ⟨blocks, htold, hlastBlock⟩
  | shutdown => exact htold.shutdown

theorem inBlocks_after (capacity : Nat) (config : Config) (lines : σ) (requests : List Request) :
    (after capacity config lines requests).InBlocks config := by
  apply after_keeps (InBlocks config)
  · exact ⟨rfl, sound_start capacity config lines, [], ⟨rfl, rfl, List.isChain_nil⟩,
      .free rfl (by simp)⟩
  · exact fun history h request _ => h.serve request

-- The calls of a whole history are those of its sessions, one after the other in the order in
-- which they got the bus, with shutdowns in between. Each is what the payload that was queued last
-- for its device would do alone on the device's two lines.
theorem calls_of_blocks (capacity : Nat) (config : Config) (lines : σ) (requests : List Request) :
    let history := after capacity config lines requests
    ∃ blocks : List (Block σ),
      history.calls = blocks.flatMap (Block.calls config.resetPulses) ∧
      blocks.map Block.event = history.events ∧
      Block.Serial config.resetPulses blocks ∧
      ∀ oid payload link lines steps, .session oid payload link lines steps ∈ blocks →
        ∀ call ∈ Block.calls config.resetPulses (.session oid payload link lines steps),
          call.1 = .device oid ∧ ∃ wire, call.2.line = (link.pin wire).line := by
  intro history
  obtain ⟨hconfig, -, blocks, htold, -⟩ := inBlocks_after capacity config lines requests
  refine ⟨blocks, hconfig ▸ htold.calls, htold.events, hconfig ▸ htold.serial, ?_⟩
  intro oid payload link lines steps _ call hmem
  obtain ⟨made, hmade, rfl⟩ := List.mem_map.mp hmem
  exact ⟨rfl, (sending_within payload _ link lines steps).2 made hmade⟩

end History

end Driver

end SevenSegment
