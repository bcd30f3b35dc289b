import SevenSegment.Proofs.Driver.Alike
import SevenSegment.Proofs.Driver.History
import SevenSegment.Proofs.Session.Roles

namespace SevenSegment

open Line (Call Gpio Link LineId Recorded)
open Time (Instant)

variable {σ : Type} [Gpio σ]

namespace Session

variable {session : Session} {resetPulses : UInt8} {link : Link}

-- A session that agrees with its pins and has not counted more pulses than a bus reset has.
structure OnTrack (session : Session) (resetPulses : UInt8) (link : Link) : Prop where
  fits : session.Fits link
  pulses : session.pulses < max 1 resetPulses.toNat

theorem OnTrack.load (payload : Panel.Payload) (resetPulses : UInt8) (link : Link) :
    (load payload).OnTrack resetPulses link :=
  ⟨rfl, Nat.lt_of_lt_of_le Nat.zero_lt_one (Nat.le_max_left _ _)⟩

theorem OnTrack.empty (resetPulses : UInt8) (link : Link) : empty.OnTrack resetPulses link :=
  .load .zero resetPulses link

-- The last pulse of a bus reset is counted back to none.
theorem pulses_of_settle {next : Session} {up : Bool}
    (h : session.countBit.settle resetPulses up = .ok next)
    (hpulses : session.pulses < max 1 resetPulses.toNat) :
    next.pulses < max 1 resetPulses.toNat := by
  rcases pulses_le_of_settle h with hle | hlt <;> omega

theorem pulses_of_active {lines : σ}
    (hactive : (session.step resetPulses link lines).progress = .active)
    (hpulses : session.pulses < max 1 resetPulses.toNat) :
    (session.step resetPulses link lines).session.pulses < max 1 resetPulses.toNat := by
  obtain ⟨-, up, hsettle⟩ := (hactive ▸ session.step_becomes resetPulses link lines).of_active
  exact pulses_of_settle hsettle hpulses

-- A session on its track always has a move to make.
theorem OnTrack.move?_isSome (h : session.OnTrack resetPulses link) : session.move?.isSome := by
  rw [Option.isSome_iff_ne_none, ne_eq, move?_eq_none_iff]
  rintro ⟨hstage, hover⟩
  exact absurd (h.fits.bits_lt hstage) (Nat.not_lt.mpr hover)

theorem OnTrack.countBit_le (h : session.OnTrack resetPulses link) :
    session.countBit.bits ≤ 72 := by
  obtain ⟨payload, bits, pulses, stage⟩ := session
  have hfits := h.fits
  cases stage <;> simp only [Fits, Panel.Payload.endsTransfer_iff] at hfits <;>
    simp only [countBit, reduceCtorEq, if_false, if_true] <;> omega

-- It stays on its track until it ends.
theorem OnTrack.step (h : session.OnTrack resetPulses link) (lines : σ) :
    (session.step resetPulses link lines).progress = .active ∧
        (session.step resetPulses link lines).session.OnTrack resetPulses
          (session.step resetPulses link lines).link ∨
      ∃ outcome, (session.step resetPulses link lines).progress = .complete outcome := by
  obtain ⟨run, rfl, rfl, rfl⟩ : ∃ run : Run σ,
      run.session = session ∧ run.link = link ∧ run.lines = lines :=
    ⟨{ session, link, lines }, rfl, rfl, rfl⟩
  rcases h.fits.step resetPulses with ⟨hactive, hfits, -⟩ | ⟨hended, hidle⟩
  · exact .inl ⟨hactive, hfits, pulses_of_active hactive h.pulses⟩
  · right
    cases hprogress : (run.session.step resetPulses run.link run.lines).progress with
    | active => exact absurd hprogress hended
    | complete outcome => exact ⟨outcome, rfl⟩
    | trapped trap => exact absurd hidle (stage_of_trapped hprogress)

theorem OnTrack.not_trapped (h : session.OnTrack resetPulses link) (lines : σ) (trap : Trap) :
    (session.step resetPulses link lines).progress ≠ .trapped trap := by
  rcases h.step lines with ⟨hactive, -⟩ | ⟨outcome, hcomplete⟩
  · simp [hactive]
  · simp [hcomplete]

end Session

namespace Driver

theorem Device.ticked_onTrack {device : Device} {lock : Lock} {config : Config} {lines : σ}
    {after : Tick σ} (hticked : device.Ticked lock config lines after)
    (h : device.session.OnTrack config.resetPulses device.link) :
    after.device.session.OnTrack config.resetPulses after.device.link := by
  cases hticked with
  | rests timer _ _ _ hdevice _ _ =>
      rw [hdevice]
      exact h
  | steps timer _ _ hactive _ _ hdevice _ _ =>
      rw [hdevice]
      rcases h.step lines with ⟨-, hnext⟩ | ⟨outcome, hcomplete⟩
      · exact hnext
      · exact absurd (hactive.symm.trans hcomplete) (by simp)
  | ends outcome _ _ _ _ hdevice _ _ =>
      rw [hdevice]
      exact .empty _ _
  | traps trap _ _ htrapped _ _ _ => exact absurd htrapped (h.not_trapped lines trap)

theorem Registry.exists_of_mem_shutdownAll {devices : List Device} {lines : σ} {device : Device}
    (h : device ∈ (shutdownAll devices lines).devices) :
    ∃ (old : Device) (lines : σ), device = (old.shutdown lines).device := by
  induction devices generalizing lines with
  | nil => cases h
  | cons first devices ih =>
      rcases List.mem_cons.mp h with rfl | h
      · exact ⟨first, lines, rfl⟩
      · exact ih h

namespace History

variable {history : History σ}

-- A callback, with the calls it makes on the lines.
theorem tick_noted (history : History σ) (oid : UInt8) :
    history.serve (.tick oid) = history ∨
      ∃ (device : Device) (after : Device.Tick (Recorded σ)),
        device.oid = oid ∧ device ∈ history.registry.devices ∧
        device.Ticked history.registry.lock history.registry.config
          (⟨history.lines, []⟩ : Recorded σ) after ∧
        (history.serve (.tick oid)).registry =
          { history.registry.put after.device with lock := after.lock } ∧
        (history.serve (.tick oid)).calls =
          history.calls ++ after.lines.calls.map fun call => (.device oid, call) := by
  rcases history.registry.tick_cases oid (⟨history.lines, []⟩ : Recorded σ) with
    ⟨hnone, -, -⟩ | ⟨device, after, hfound, hticked, htick⟩
  · exact .inl (serve_tick_of_none hnone)
  · obtain ⟨hrecord, -⟩ := history.registry.tick_recorded oid history.lines
    obtain ⟨hmem, hoid⟩ := Registry.mem_of_device? hfound
    refine .inr ⟨device, after, hoid, hmem, hticked, ?_, ?_⟩
    · exact hrecord.symm.trans (congrArg Registry.Tick.registry htick)
    · simp only [serve, htick]

-- What holds of a new device and is kept by all that can happen to one holds of every device, as
-- long as the lines answer no call but as allowed.
theorem devices_after (allowed : Call → Prop) (kept : Device → Prop) {capacity : Nat}
    {config : Config} {lines : σ} {requests : List Request}
    (hnew : ∀ oid clock data, kept (.new oid clock data))
    (hqueued : ∀ (device : Device) payload wake, device.session.stage = .idle → kept device →
      kept (device.queued payload wake))
    (hticked : ∀ (device : Device) lock (lines : σ) (after : Device.Tick (Recorded σ)),
      device.Ticked lock config (⟨lines, []⟩ : Recorded σ) after →
      (∀ call ∈ after.lines.calls, allowed call) → kept device → kept after.device)
    (hshutdown : .shutdown ∈ requests → ∀ (device : Device) (lines : σ),
      kept (device.shutdown lines).device)
    (hcalls : ∀ entry ∈ (after capacity config lines requests).calls, allowed entry.2) :
    ∀ device ∈ (after capacity config lines requests).registry.devices, kept device := by
  refine (after_keeps (fun history => history.Sound ∧ history.registry.config = config ∧
    ((∀ entry ∈ history.calls, allowed entry.2) →
      ∀ device ∈ history.registry.devices, kept device)) ?_ ?_).2.2 hcalls
  · exact ⟨sound_start capacity config lines, rfl, by simp [Registry.new]⟩
  rintro history ⟨hsound, hconfig, h⟩ request hrequest
  refine ⟨hsound.serve request, (history.config_serve request).trans hconfig, ?_⟩
  cases request with
  | configure known oid clock data =>
      intro hcalls device hmem
      simp only [serve] at hcalls hmem
      rcases history.registry.configure_cases known oid clock data with hsame | ⟨-, -, -, hadded⟩
      · exact h hcalls device (hsame ▸ hmem)
      · rw [hadded] at hmem
        rcases List.mem_append.mp hmem with hmem | hmem
        · exact h hcalls device hmem
        · obtain rfl := List.mem_singleton.mp hmem
          exact hnew oid clock data
  | send oid bytes now =>
      intro hcalls device hmem
      simp only [serve] at hcalls hmem
      rcases hsound.registry.send_cases oid bytes now with
        ⟨-, hsame⟩ | ⟨-, old, hold, -, hfree, payload, -, hput⟩
      · exact h hcalls device (hsame ▸ hmem)
      · rw [hput] at hmem
        rcases Registry.mem_put hmem with rfl | ⟨hmem, -⟩
        · have hidle := (hsound.registry.devices old hold).stage_of_free hfree
          exact hqueued old payload _ hidle (h hcalls old hold)
        · exact h hcalls device hmem
  | tick oid =>
      intro hcalls device hmem
      rcases history.tick_noted oid with hsame | ⟨old, after, -, hold, hcalled, hregistry, hmade⟩
      · exact h (hsame ▸ hcalls) device (hsame ▸ hmem)
      · rw [hmade] at hcalls
        rw [hregistry] at hmem
        have hbefore := h fun entry hentry => hcalls entry (List.mem_append_left _ hentry)
        rcases Registry.mem_put hmem with rfl | ⟨hmem, -⟩
        · refine hticked old _ _ after (hconfig ▸ hcalled) (fun call hcall => ?_) (hbefore old hold)
          exact hcalls (.device oid, call)
            (List.mem_append_right _ (List.mem_map_of_mem hcall))
        · exact hbefore device hmem
  | nextAlarm => exact h
  | shutdown =>
      intro _ device hmem
      obtain ⟨old, lines, rfl⟩ := Registry.exists_of_mem_shutdownAll hmem
      exact hshutdown hrequest old lines

end History

-- Every session is on its track at any time, and none ever asks for a bit that is not there.
theorem History.onTrack_after (capacity : Nat) (config : Config) (lines : σ)
    (requests : List Request) :
    ∀ device ∈ (after capacity config lines requests).registry.devices,
      device.session.OnTrack config.resetPulses device.link := by
  apply devices_after (fun _ => True)
    (fun device => device.session.OnTrack config.resetPulses device.link)
  · exact fun _ _ _ => .empty _ _
  · exact fun _ payload _ _ _ => .load payload _ _
  · exact fun _ _ _ _ hticked _ h => Device.ticked_onTrack hticked h
  · exact fun _ _ _ => .empty _ _
  · exact fun _ _ => trivial

end Driver

end SevenSegment
