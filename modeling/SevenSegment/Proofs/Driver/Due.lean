import SevenSegment.Proofs.Driver.History

namespace SevenSegment.Session

open Line (Gpio Link)
open Panel (Payload)

-- The steps of the longest session there is, one that finds the bus busy.
def longest (resetPulses : UInt8) : Nat := 278 + 4 * max 1 resetPulses.toNat

theorem length_word_le (resetPulses : UInt8) (busy : Bool) :
    (word resetPulses busy).length ≤ longest resetPulses := by
  rw [length_word, longest]
  split <;> omega

-- A session that ends within so many steps, whatever the wires answer.
inductive Due (resetPulses : UInt8) (session : Session) (steps : Nat) : Prop where
  | loaded : session = .load session.payload → longest resetPulses ≤ steps →
      Due resetPulses session steps
  | underWay (busy : Bool) (codes : List Nat) : session.stage ≠ .idle →
      Walk resetPulses busy session codes ⟨session.payload, Payload.totalBits, 0, .idle⟩ →
      codes.length ≤ steps → Due resetPulses session steps

variable {resetPulses : UInt8} {session : Session} {steps : Nat}

theorem Due.mono (h : session.Due resetPulses steps) {more : Nat} (hle : steps ≤ more) :
    session.Due resetPulses more := by
  cases h with
  | loaded hload hlong => exact .loaded hload (Nat.le_trans hlong hle)
  | underWay busy codes hstage hwalk hlength =>
      exact .underWay busy codes hstage hwalk (Nat.le_trans hlength hle)

-- There is a walk to the end that agrees with what a session in its first stage finds on the bus.
theorem Due.walk (h : session.Due resetPulses steps) (found : Bool) :
    ∃ busy code rest, (session.stage = .idle → found = busy) ∧
      Walk resetPulses busy session (code :: rest) ⟨session.payload, Payload.totalBits, 0, .idle⟩ ∧
      rest.length < steps := by
  cases h with
  | loaded hload hlong =>
      have hwalk := walk_word resetPulses found session.payload
      have hlength := length_word_le resetPulses found
      rw [← hload] at hwalk
      cases hword : word resetPulses found with
      | nil => exact absurd hword (by simp [word])
      | cons code rest =>
          rw [hword] at hwalk hlength
          rw [List.length_cons] at hlength
          exact ⟨found, code, rest, fun _ => rfl, hwalk, by omega⟩
  | underWay busy codes hstage hwalk hlength =>
      cases codes with
      | nil =>
          rw [hwalk.eq_of_nil] at hstage
          exact absurd rfl hstage
      | cons code rest =>
          exact ⟨busy, code, rest, fun hidle => absurd hidle hstage, hwalk, hlength⟩

theorem Due.pos (h : session.Due resetPulses steps) : 0 < steps := by
  obtain ⟨-, -, rest, -, -, hlength⟩ := h.walk true
  omega

-- A step ends the session or brings it nearer to its end.
theorem Due.step {σ : Type} [Gpio σ] (h : session.Due resetPulses steps) (link : Link) (lines : σ) :
    (∃ outcome, (session.step resetPulses link lines).progress = .complete outcome) ∨
      (session.step resetPulses link lines).progress = .active ∧
        ∃ fewer < steps, (session.step resetPulses link lines).session.Due resetPulses fewer := by
  obtain ⟨run, rfl, rfl, rfl⟩ : ∃ run : Run σ,
      run.session = session ∧ run.link = link ∧ run.lines = lines :=
    ⟨{ session, link, lines }, rfl, rfl, rfl⟩
  obtain ⟨busy, code, rest, hbusy, hwalk, hlength⟩ := h.walk (run.samplesLow resetPulses)
  rcases Run.step_cases hwalk (bits_lt_of_walk hwalk (List.cons_ne_nil code rest)) hbusy with
    ⟨fault, -, hfailed⟩ | ⟨-, hrest, hprogress⟩
  · exact .inl ⟨.failed fault, hfailed⟩
  · by_cases hidle : (run.step resetPulses).session.stage = .idle
    · exact .inl ⟨.sent, hprogress.trans (if_pos hidle)⟩
    · refine .inr ⟨hprogress.trans (if_neg hidle), rest.length, hlength, ?_⟩
      have hpayload := run.session.step_payload resetPulses run.link run.lines
      exact .underWay busy rest hidle (hpayload.symm ▸ hrest) (Nat.le_refl _)

end SevenSegment.Session

namespace SevenSegment.Driver

open Line (Gpio)

variable {σ : Type} [Gpio σ]

-- Every session under way ends within so many steps of its own device.
def Registry.Due (registry : Registry) (steps : UInt8 → Nat) : Prop :=
  ∀ device ∈ registry.devices, device.isBusy = true →
    device.session.Due registry.config.resetPulses (steps device.oid)

theorem Device.ticked_due {device : Device} {lock : Lock} {config : Config} {lines : σ}
    {after : Tick σ} (hticked : device.Ticked lock config lines after) {steps : Nat}
    (h : device.isBusy = true → device.session.Due config.resetPulses steps)
    (hbusy : after.device.isBusy = true) : after.device.session.Due config.resetPulses steps := by
  obtain ⟨-, hwas⟩ := ticked_payload hticked hbusy
  have hdue := h hwas
  cases hticked with
  | rests timer _ _ _ hdevice _ _ =>
      rw [hdevice]
      exact hdue
  | steps timer _ _ hactive _ _ hdevice _ _ =>
      rw [hdevice]
      rcases hdue.step device.link lines with ⟨outcome, hends⟩ | ⟨-, fewer, hfewer, hnext⟩
      · exact absurd (hactive.symm.trans hends) (by simp)
      · exact hnext.mono (Nat.le_of_lt hfewer)
  | ends outcome _ _ _ _ hdevice _ _ =>
      rw [hdevice] at hbusy
      exact absurd hbusy (by simp [isBusy, Time.Timer.isArmed, Time.Timer.idle])
  | traps trap _ _ htrapped _ _ _ =>
      rcases hdue.step device.link lines with ⟨outcome, hends⟩ | ⟨hactive, -⟩
      · exact absurd (htrapped.symm.trans hends) (by simp)
      · exact absurd (htrapped.symm.trans hactive) (by simp)

namespace History

variable {history : History σ}

-- A registry never has a session that takes longer than the longest one.
def Due (history : History σ) : Prop :=
  history.registry.Due fun _ => Session.longest history.registry.config.resetPulses

theorem Sound.due_serve (h : history.Sound) (hdue : history.Due) (request : Request) :
    (history.serve request).Due := by
  simp only [Due, config_serve]
  intro device hmem hbusy
  rw [config_serve]
  cases request with
  | configure known oid clock data =>
      simp only [History.serve] at hmem
      rcases history.registry.configure_cases known oid clock data with hsame | ⟨-, -, -, hnew⟩
      · exact hdue device (hsame ▸ hmem) hbusy
      · rw [hnew] at hmem
        rcases List.mem_append.mp hmem with hmem | hmem
        · exact hdue device hmem hbusy
        · obtain rfl := List.mem_singleton.mp hmem
          cases hbusy
  | send oid bytes now =>
      simp only [History.serve] at hmem
      rcases h.registry.send_cases oid bytes now with
        ⟨-, hsame⟩ | ⟨-, old, -, -, -, payload, -, hput⟩
      · exact hdue device (hsame ▸ hmem) hbusy
      · rw [hput] at hmem
        rcases Registry.mem_put hmem with rfl | ⟨hmem, -⟩
        · exact .loaded rfl (Nat.le_refl _)
        · exact hdue device hmem hbusy
  | tick oid =>
      rcases history.tick_called oid with hsame | ⟨old, after, rfl, hcalled⟩
      · exact hdue device (hsame ▸ hmem) hbusy
      · rw [hcalled.registry] at hmem
        rcases Registry.mem_put hmem with rfl | ⟨hmem, -⟩
        · exact Device.ticked_due hcalled.ticked (hdue old hcalled.mem) hbusy
        · exact hdue device hmem hbusy
  | nextAlarm => exact hdue device hmem hbusy
  | shutdown =>
      obtain ⟨-, hcleared⟩ := Registry.shutdownAll_devices history.registry.devices history.lines
      exact absurd ((hcleared device hmem).2.symm.trans hbusy) (by simp)

theorem due_after (capacity : Nat) (config : Config) (lines : σ) (requests : List Request) :
    (after capacity config lines requests).Sound ∧ (after capacity config lines requests).Due :=
  after_keeps (fun history => history.Sound ∧ history.Due)
    ⟨sound_start capacity config lines, by simp [Due, Registry.Due, Registry.new]⟩
    fun _ h request _ => ⟨h.1.serve request, h.1.due_serve h.2 request⟩

end History

end SevenSegment.Driver
