import Servo.Proofs.Controller.Drive

/-!
# One tick of a controller

A tick of a configured controller is one of three things: the joint is not found
(`Active.step_of_missing`), the clock is paused (`Active.step_of_paused`), or the joint is
driven (`Active.step_of_running`).  `step_frame` says what a tick may change: a tick that
writes no command changes nothing, and one that does changes the records of its joint only.
-/

namespace Servo

namespace Controller

/-! ### Looking the joint up -/

namespace Active

/-- The joint that a controller has after a lookup in a store. -/
def found? (a : Active) (s : Store) : Option Entity :=
  (a.resolver.resolve (s.jointNamed? a.model)).handle

/-- The controller once it has a given joint. -/
def withJoint (a : Active) (joint : Option Entity) : Active :=
  { a with resolver := { a.resolver with handle := joint } }

theorem found?_of_resolved {a : Active} {joint : Entity} (h : a.resolver.handle = some joint)
    (s : Store) :
  a.found? s = some joint
  := by
  rw [found?, Resolver.resolve, Resolver.query?, Resolver.isResolved, h, Option.isSome_some,
    if_pos rfl]
  apply h

/-- A joint that has not been found is looked up by its name. -/
theorem found?_of_unresolved {a : Active} (h : a.resolver.handle = none) (s : Store) :
  a.found? s = s.jointNamed? a.model a.resolver.name
  := by
  rw [found?, Resolver.resolve, Resolver.query?, Resolver.isResolved, h, Option.isSome_none,
    if_neg (by simp)]

/-- A lookup changes nothing but the joint. -/
theorem resolve_eq (a : Active) (s : Store) :
  a.resolver.resolve (s.jointNamed? a.model) = { a.resolver with handle := a.found? s }
  := by
  cases h : a.resolver.handle with
  | none =>
    rw [found?_of_unresolved h, Resolver.resolve, Resolver.query?, Resolver.isResolved, h,
      Option.isSome_none, if_neg (by simp)]
  | some joint =>
    rw [found?_of_resolved h, Resolver.resolve, Resolver.query?, Resolver.isResolved, h,
      Option.isSome_some, if_pos rfl, ← h]

/-! ### The three kinds of ticks -/

/-- Without a joint a tick does nothing. -/
theorem step_of_missing {a : Active} {s : Store} (h : a.found? s = none) (tick : Tick Float)
    (b : Inboxes) :
  (a.step tick b s).controller = a
    ∧ (a.step tick b s).store = s
    ∧ (a.step tick b s).outcome = .unresolved
  := by
  have hnone : a.resolver.handle = none := by
    cases hr : a.resolver.handle with
    | none => rfl
    | some joint => rw [found?_of_resolved hr] at h; cases h
  rw [step, resolve_eq, h]
  refine ⟨?_, rfl, rfl⟩
  show { a with resolver := { a.resolver with handle := none } } = a
  rw [← hnone]

/-- While the clock is paused a tick only finds the joint. -/
theorem step_of_paused {a : Active} {s : Store} {joint : Entity} (h : a.found? s = some joint)
    {tick : Tick Float} (hpaused : tick.paused = true) (b : Inboxes) :
  (a.step tick b s).controller = a.withJoint (some joint)
    ∧ (a.step tick b s).store = s
    ∧ (a.step tick b s).outcome = .paused
  := by
  rw [step, resolve_eq, h]
  simp only [hpaused, if_true, and_self, and_true]
  rfl

/-- Otherwise the joint is driven towards the set-point in the inbox. -/
theorem step_of_running {a : Active} {s : Store} {joint : Entity} (h : a.found? s = some joint)
    {tick : Tick Float} (hrunning : tick.paused = false) (b : Inboxes) :
  (a.step tick b s).controller
      = { a.withJoint (some joint) with
          actuation := (a.actuation.drive s joint (b.read a.inbox) tick.dt).controller }
    ∧ (a.step tick b s).store = (a.actuation.drive s joint (b.read a.inbox) tick.dt).store
    ∧ (a.step tick b s).outcome = (a.actuation.drive s joint (b.read a.inbox) tick.dt).outcome
  := by
  rw [step, resolve_eq, h]
  simp only [hrunning, Bool.false_eq_true, if_false, and_self, and_true]
  rfl

/-- After a tick a controller has the joint that it found. -/
theorem handle_step (a : Active) (tick : Tick Float) (b : Inboxes) (s : Store) :
  (a.step tick b s).controller.resolver = { a.resolver with handle := a.found? s }
  := by
  cases h : a.found? s with
  | none =>
    rw [← h, ← resolve_eq]
    simp only [step, resolve_eq, h]
  | some joint =>
    cases hp : tick.paused with
    | true => rw [(step_of_paused h hp b).1]; rfl
    | false => rw [(step_of_running h hp b).1]; rfl

/-- A tick changes neither the model, the inbox, the topic nor the subscription. -/
theorem wiring_step (a : Active) (tick : Tick Float) (b : Inboxes) (s : Store) :
  (a.step tick b s).controller.model = a.model
    ∧ (a.step tick b s).controller.inbox = a.inbox
    ∧ (a.step tick b s).controller.topic = a.topic
    ∧ (a.step tick b s).controller.subscribed = a.subscribed
  := by
  cases h : a.found? s with
  | none => rw [(step_of_missing h tick b).1]; exact ⟨rfl, rfl, rfl, rfl⟩
  | some joint =>
    cases hp : tick.paused with
    | true => rw [(step_of_paused h hp b).1]; exact ⟨rfl, rfl, rfl, rfl⟩
    | false => rw [(step_of_running h hp b).1]; exact ⟨rfl, rfl, rfl, rfl⟩

end Active

/-! ### What a tick may change -/

/-- The store `t` is the store `s` after the command `v` was written to a joint, which
also gets a velocity record, if it has none. -/
structure CommandWritten (s t : Store) (joint : Entity) (q : Quantity) (v : Float) : Prop where
  has : s.has joint = true
  allocator : t.allocator = s.allocator
  entities : t.entities = s.entities
  /-- Nothing changes for other entities. -/
  other : ∀ e, e ≠ joint → t.records? e = s.records? e
  /-- Of the joint only the velocity and the command change. -/
  record : ∀ a, a ≠ .axes .velocity → a ≠ .axes q → t.get? joint a = s.get? joint a
  velocity : t.get? joint (.axes .velocity) = some ((s.get? joint (.axes .velocity)).getD [0])
  command : t.get? joint (.axes q) = some (v :: ((s.get? joint (.axes q)).getD []).tail)

/-- Writing a command besides making a velocity record is what `CommandWritten` says. -/
theorem commandWritten_adjust {s : Store} {joint : Entity} {r : Records}
    (h : s.records? joint = some r) {q : Quantity} (hq : q ≠ .velocity) (v : Float) :
  CommandWritten s (s.adjust joint fun _ => (withVelocityRecord r).setAxis q v) joint q v
  := by
  have hget : ∀ a, s.get? joint a = r.get? a := Store.get?_eq_of_records? h
  have hrecords : (s.adjust joint fun _ => (withVelocityRecord r).setAxis q v).records? joint
      = some ((withVelocityRecord r).setAxis q v) := by
    rw [Store.records?_adjust_self, h, Option.map_some]
  have hne : Attribute.axes q ≠ .axes .velocity := by
    intro hqv
    cases hqv
    apply hq rfl
  constructor
  case has => rw [Store.has, h, Option.isSome_some]
  case allocator => rfl
  case entities => apply Store.entities_adjust
  case other =>
    intro e he
    apply Store.records?_adjust_of_ne he
  case record =>
    intro a hv hc
    rw [Store.get?_eq_of_records? hrecords, Records.get?_setAxis_of_ne hc,
      get?_withVelocityRecord_of_ne hv, hget]
  case velocity =>
    rw [Store.get?_eq_of_records? hrecords, Records.get?_setAxis_of_ne hne.symm,
      get?_withVelocityRecord, hget]
  case command =>
    rw [Store.get?_eq_of_records? hrecords, Records.get?_setAxis_self, Axes.setFirst_eq,
      get?_withVelocityRecord_of_ne hne, hget]

/-- Driving a joint is one of four things: the joint is not in the store, it is told the
set-point, its velocity record is empty, or a force is applied to it. -/
theorem drive_cases (a : Actuation) (s : Store) (joint : Entity) (target dt : Float) :
  (s.has joint = false ∧ (a.drive s joint target dt).controller = a
      ∧ (a.drive s joint target dt).store = s
      ∧ (a.drive s joint target dt).outcome = .storeFault)
    ∨ (a = .velocity ∧ (a.drive s joint target dt).controller = a
      ∧ CommandWritten s (a.drive s joint target dt).store joint .velocityCommand target
      ∧ (a.drive s joint target dt).outcome = .velocity target)
    ∨ (∃ g, a = .force g ∧ s.get? joint (.axes .velocity) = some []
      ∧ (a.drive s joint target dt).controller = a
      ∧ (a.drive s joint target dt).store = s
      ∧ (a.drive s joint target dt).outcome = .storeFault)
    ∨ (∃ g observed, a = .force g
      ∧ ((s.get? joint (.axes .velocity)).getD [0]).head? = some observed
      ∧ (a.drive s joint target dt).controller = .force (g.update (observed - target) dt)
      ∧ CommandWritten s (a.drive s joint target dt).store joint .forceCommand
          (g.update (observed - target) dt).state.output
      ∧ (a.drive s joint target dt).outcome
          = .force (g.update (observed - target) dt).state.output)
  := by
  cases h : s.records? joint with
  | none =>
    left
    have hhas := Store.records?_eq_none_iff.1 h
    exact ⟨hhas, drive_of_not_has hhas a target dt⟩
  | some r =>
    right
    obtain ⟨hcontroller, hstore, houtcome⟩ := drive_of_records? h a target dt
    have hget := Store.get?_eq_of_records? h (.axes .velocity)
    rw [hcontroller, hstore, houtcome, hget]
    cases a with
    | velocity =>
      left
      exact ⟨rfl, rfl, commandWritten_adjust (q := .velocityCommand) h (by decide) target, rfl⟩
    | force g =>
      right
      have haxis : (withVelocityRecord r).axis? .velocity
          = ((r.get? (.axes .velocity)).getD [0]).head? := by
        rw [Records.axis?, get?_withVelocityRecord]
        rfl
      rw [Actuation.driven, haxis]
      cases hv : ((r.get? (.axes .velocity)).getD [0]).head? with
      | none =>
        left
        have hempty : r.get? (.axes .velocity) = some [] := by
          cases hr : r.get? (.axes .velocity) with
          | none => simp [hr] at hv
          | some axes => rw [hr, Option.getD_some, List.head?_eq_none_iff] at hv; rw [hv]
        exact ⟨g, rfl, hempty, rfl, Store.adjust_eq_self h rfl, rfl⟩
      | some observed =>
        right
        exact ⟨g, observed, rfl, rfl, rfl,
          commandWritten_adjust (q := .forceCommand) h (by decide) _, rfl⟩

/-- The controller after it drove its joint in a tick. -/
def Active.afterDrive (a : Active) (joint : Entity) (actuation : Actuation) : Active :=
  { a.withJoint (some joint) with actuation := actuation }

/-- A tick is one of four things: the controller is disabled, its joint is not found, the
clock is paused, or the joint is driven. -/
theorem step_cases (c : Controller) (tick : Tick Float) (b : Inboxes) (s : Store) :
  (c = .disabled ∧ (c.step tick b s).controller = c ∧ (c.step tick b s).store = s
      ∧ (c.step tick b s).outcome = .disabled)
    ∨ (∃ a, c = .enabled a ∧ a.found? s = none ∧ (c.step tick b s).controller = c
      ∧ (c.step tick b s).store = s ∧ (c.step tick b s).outcome = .unresolved)
    ∨ (∃ a joint, c = .enabled a ∧ a.found? s = some joint ∧ tick.paused = true
      ∧ (c.step tick b s).controller = .enabled (a.withJoint (some joint))
      ∧ (c.step tick b s).store = s ∧ (c.step tick b s).outcome = .paused)
    ∨ (∃ a joint, c = .enabled a ∧ a.found? s = some joint ∧ tick.paused = false
      ∧ (c.step tick b s).controller = .enabled (a.afterDrive joint
          (a.actuation.drive s joint (b.read a.inbox) tick.dt).controller)
      ∧ (c.step tick b s).store = (a.actuation.drive s joint (b.read a.inbox) tick.dt).store
      ∧ (c.step tick b s).outcome
          = (a.actuation.drive s joint (b.read a.inbox) tick.dt).outcome)
  := by
  cases c with
  | disabled =>
    left
    exact ⟨rfl, rfl, rfl, rfl⟩
  | enabled a =>
    right
    cases hfound : a.found? s with
    | none =>
      left
      obtain ⟨hcontroller, hstore, houtcome⟩ := Active.step_of_missing hfound tick b
      use a, rfl, hfound, congrArg Controller.enabled hcontroller, hstore, houtcome
    | some joint =>
      right
      cases hpaused : tick.paused with
      | true =>
        left
        obtain ⟨hcontroller, hstore, houtcome⟩ := Active.step_of_paused hfound hpaused b
        exact ⟨a, joint, rfl, hfound, rfl, congrArg Controller.enabled hcontroller, hstore,
          houtcome⟩
      | false =>
        right
        obtain ⟨hcontroller, hstore, houtcome⟩ := Active.step_of_running hfound hpaused b
        exact ⟨a, joint, rfl, hfound, rfl, congrArg Controller.enabled hcontroller, hstore,
          houtcome⟩

/-! ### What a tick notes -/

/-- Whether an event notes that a joint cannot be driven. -/
def isFault : Log.Event → Bool
  | .recordRefused .. | .recordEmpty .. | .commandRefused .. => true
  | _ => false

/-- Driving a joint notes only that it cannot be driven. -/
theorem isFault_of_mem_events_drive {a : Actuation} {s : Store} {joint : Entity}
    {target dt : Float} :
    ∀ x ∈ (a.drive s joint target dt).events,
  isFault x = true
  := by
  have hwrite : ∀ (a : Actuation) (s : Store) (q : Quantity) (v : Float) (o : Outcome),
      ∀ x ∈ (writeCommand a s joint q v o).events, isFault x = true := by
    intro a s q v o
    rw [writeCommand]
    split
    · intro x hx
      cases hx
    · exact List.forall_mem_singleton.2 rfl
  rw [Actuation.drive]
  split
  · exact List.forall_mem_singleton.2 rfl
  · split
    · apply hwrite
    · split
      · exact List.forall_mem_singleton.2 rfl
      · apply hwrite

/-- A tick notes whether time jumped back, what became of looking the joint up, and then only
that the joint cannot be driven. -/
theorem Active.events_step (a : Active) (tick : Tick Float) (b : Inboxes) (s : Store) :
  ∃ faults, (a.step tick b s).events
      = (if tick.isRewind then [.rewound tick.dt] else [])
        ++ lookupEvents a.resolver { a.resolver with handle := a.found? s } ++ faults
    ∧ ∀ x ∈ faults, isFault x = true
  := by
  rw [step, resolve_eq]
  split
  · exact ⟨[], (List.append_nil _).symm, nofun⟩
  · split
    · exact ⟨[], (List.append_nil _).symm, nofun⟩
    · exact ⟨_, rfl, isFault_of_mem_events_drive⟩

/-- Whether an event notes that time jumped back, what became of looking a joint up, or that a
joint cannot be driven. -/
def isNote : Log.Event → Bool
  | .rewound _ | .resolved .. | .unresolved _ => true
  | x => isFault x

/-- A tick of a controller makes no other notes. -/
theorem isNote_of_mem_events_step {c : Controller} {tick : Tick Float} {b : Inboxes} {s : Store}
    {x : Log.Event} (hx : x ∈ (c.step tick b s).events) :
  isNote x = true
  := by
  cases c with
  | disabled => cases hx
  | enabled a =>
    obtain ⟨faults, hevents, hfaults⟩ := a.events_step tick b s
    rw [step, hevents, List.mem_append, List.mem_append] at hx
    rcases hx with (hrewound | hlookup) | hfault
    · split at hrewound
      · rw [List.mem_singleton.1 hrewound]
        rfl
      · cases hrewound
    · rw [lookupEvents] at hlookup
      split at hlookup
      · rw [List.mem_singleton.1 hlookup]
        rfl
      · split at hlookup
        · cases hlookup
        · rw [List.mem_singleton.1 hlookup]
          rfl
    · have hfault := hfaults x hfault
      cases x <;> first | rfl | cases hfault

/-! ### What a tick keeps -/

theorem inbox?_step (c : Controller) (tick : Tick Float) (b : Inboxes) (s : Store) :
  (c.step tick b s).controller.inbox? = c.inbox?
  := by
  cases c with
  | disabled => rfl
  | enabled a => apply congrArg some (a.wiring_step tick b s).2.1

/-- Driving a joint keeps the way in which it is driven. -/
theorem mode_drive (a : Actuation) (s : Store) (joint : Entity) (target dt : Float) :
  (a.drive s joint target dt).controller.mode = a.mode
  := by
  rcases drive_cases a s joint target dt with ⟨-, h, -⟩ | ⟨-, h, -⟩ | ⟨g, -, -, h, -⟩ |
    ⟨g, observed, rfl, -, h, -⟩
  · rw [h]
  · rw [h]
  · rw [h]
  · rw [h]
    rfl

/-- A tick keeps the mode of a controller. -/
theorem mode?_step (c : Controller) (tick : Tick Float) (b : Inboxes) (s : Store) :
  (c.step tick b s).controller.mode? = c.mode?
  := by
  rcases step_cases c tick b s with ⟨-, h, -⟩ | ⟨a, -, -, h, -⟩ | ⟨a, joint, rfl, -, -, h, -⟩ |
    ⟨a, joint, rfl, -, -, h, -⟩
  · rw [h]
  · rw [h]
  · rw [h]
    rfl
  · rw [h]
    apply congrArg some (mode_drive _ _ _ _ _)

/-- While the clock is paused a tick keeps the store. -/
theorem store_step_of_paused {tick : Tick Float} (h : tick.paused = true) (c : Controller)
    (b : Inboxes) (s : Store) :
  (c.step tick b s).store = s
  := by
  rcases step_cases c tick b s with ⟨-, -, hs, -⟩ | ⟨a, -, -, -, hs, -⟩ |
    ⟨a, joint, -, -, -, -, hs, -⟩ | ⟨a, joint, -, -, hrunning, -⟩
  · apply hs
  · apply hs
  · apply hs
  · rw [h] at hrunning
    cases hrunning

/-- A tick that writes no command changes neither the store nor the regulator. -/
theorem step_of_quiet {c : Controller} {tick : Tick Float} {b : Inboxes} {s : Store}
    (h : (c.step tick b s).outcome ∈ [Outcome.disabled, .unresolved, .paused, .storeFault]) :
  (c.step tick b s).store = s ∧ (c.step tick b s).controller.regulator? = c.regulator?
  := by
  rcases step_cases c tick b s with ⟨-, hc, hs, -⟩ | ⟨a, -, -, hc, hs, -⟩ |
    ⟨a, joint, rfl, -, -, hc, hs, -⟩ | ⟨a, joint, rfl, -, -, hc, hs, ho⟩
  · use hs, congrArg regulator? hc
  · use hs, congrArg regulator? hc
  · rw [hc]
    exact ⟨hs, rfl⟩
  · rw [ho] at h
    rw [hc, hs]
    rcases drive_cases a.actuation s joint (b.read a.inbox) tick.dt with
      ⟨-, hd, hds, -⟩ | ⟨-, -, -, hdo⟩ | ⟨g, -, -, hd, hds, -⟩ | ⟨g, observed, -, -, -, -, hdo⟩
    · rw [hd, hds]
      exact ⟨rfl, rfl⟩
    · simp [hdo] at h
    · rw [hd, hds]
      exact ⟨rfl, rfl⟩
    · simp [hdo] at h

/-- A controller tells a velocity only in velocity mode; it is the set-point, and it is
written to the joint. -/
theorem step_of_velocity {c : Controller} {tick : Tick Float} {b : Inboxes} {s : Store}
    {v : Float} (h : (c.step tick b s).outcome = .velocity v) :
  c.mode? = some .velocity ∧ c.inbox?.map b.read = some v
    ∧ ∃ joint, (c.step tick b s).controller.joint? = some joint
      ∧ CommandWritten s (c.step tick b s).store joint .velocityCommand v
  := by
  rcases step_cases c tick b s with ⟨-, -, -, ho⟩ | ⟨a, -, -, -, -, ho⟩ |
    ⟨a, joint, -, -, -, -, -, ho⟩ | ⟨a, joint, rfl, -, -, hc, hs, ho⟩
  · rw [ho] at h; cases h
  · rw [ho] at h; cases h
  · rw [ho] at h; cases h
  · rw [ho] at h
    rw [hc, hs]
    rcases drive_cases a.actuation s joint (b.read a.inbox) tick.dt with
      ⟨-, -, -, hdo⟩ | ⟨ha, -, hw, hdo⟩ | ⟨g, -, -, -, -, hdo⟩ | ⟨g, observed, -, -, -, -, hdo⟩
    · rw [hdo] at h; cases h
    · rw [hdo] at h
      cases h
      exact ⟨congrArg (some ∘ Actuation.mode) ha, rfl, joint, rfl, hw⟩
    · rw [hdo] at h; cases h
    · rw [hdo] at h; cases h

/-- A controller applies a force only in force mode; it is what the regulator makes of the
error of the velocity, and it is written to the joint. -/
theorem step_of_force {c : Controller} {tick : Tick Float} {b : Inboxes} {s : Store}
    {f : Float} (h : (c.step tick b s).outcome = .force f) :
  c.mode? = some .force
    ∧ ∃ joint g target observed, (c.step tick b s).controller.joint? = some joint
      ∧ c.regulator? = some g ∧ c.inbox?.map b.read = some target
      ∧ ((s.get? joint (.axes .velocity)).getD [0]).head? = some observed
      ∧ (c.step tick b s).controller.regulator? = some (g.update (observed - target) tick.dt)
      ∧ f = (g.update (observed - target) tick.dt).state.output
      ∧ CommandWritten s (c.step tick b s).store joint .forceCommand f
  := by
  rcases step_cases c tick b s with ⟨-, -, -, ho⟩ | ⟨a, -, -, -, -, ho⟩ |
    ⟨a, joint, -, -, -, -, -, ho⟩ | ⟨a, joint, rfl, -, -, hc, hs, ho⟩
  · rw [ho] at h; cases h
  · rw [ho] at h; cases h
  · rw [ho] at h; cases h
  · rw [ho] at h
    rw [hc, hs]
    rcases drive_cases a.actuation s joint (b.read a.inbox) tick.dt with
      ⟨-, -, -, hdo⟩ | ⟨-, -, -, hdo⟩ | ⟨g, -, -, -, -, hdo⟩ | ⟨g, observed, ha, hv, hd, hw, hdo⟩
    · rw [hdo] at h; cases h
    · rw [hdo] at h; cases h
    · rw [hdo] at h; cases h
    · rw [hdo] at h
      cases h
      exact ⟨congrArg (some ∘ Actuation.mode) ha, joint, g, b.read a.inbox, observed, rfl,
        congrArg Actuation.regulator? ha, rfl, hv, congrArg Actuation.regulator? hd, rfl, hw⟩

/-- A joint that was found is not driven exactly if it is not in the store any more, or if
it is driven by forces and its velocity record is empty. -/
theorem step_storeFault_iff {c : Controller} {tick : Tick Float} {b : Inboxes} {s : Store}
    {joint : Entity} (hrunning : tick.paused = false)
    (hjoint : (c.step tick b s).controller.joint? = some joint) :
  (c.step tick b s).outcome = .storeFault ↔
    s.has joint = false
      ∨ (c.mode? = some .force ∧ s.get? joint (.axes .velocity) = some [])
  := by
  rcases step_cases c tick b s with ⟨rfl, -⟩ | ⟨a, rfl, hfound, hc, -⟩ |
    ⟨a, joint, -, -, hpaused, -⟩ | ⟨a, joint, rfl, hfound, -, hc, -, ho⟩
  · cases hjoint
  · have hnone : a.resolver.handle = some joint := by rw [hc] at hjoint; exact hjoint
    rw [Active.found?_of_resolved hnone] at hfound
    cases hfound
  · rw [hrunning] at hpaused
    cases hpaused
  · rw [hc] at hjoint
    cases hjoint
    rw [ho]
    rcases drive_cases a.actuation s joint (b.read a.inbox) tick.dt with
      ⟨hhas, -, -, hdo⟩ | ⟨ha, -, hw, hdo⟩ | ⟨g, ha, hv, -, -, hdo⟩ |
      ⟨g, observed, ha, hv, -, hw, hdo⟩
    · rw [hdo]
      simp [hhas]
    · rw [hdo]
      simp [hw.has, mode?, active?, ha, Actuation.mode]
    · rw [hdo]
      simp [hv, mode?, active?, ha, Actuation.mode]
    · have hne : s.get? joint (.axes .velocity) ≠ some [] := by
        intro hempty
        simp [hempty] at hv
      rw [hdo]
      simp [hw.has, hne]

/-- A tick writes a command or changes nothing.  Without a command the store and the
regulator are what they were.  A velocity that is told is the set-point, a force is what the
regulator makes of the error of the velocity, and either changes the records of the joint
only.  A joint that was found is not driven exactly if it is not in the store any more, or
if it is driven by forces and its velocity record is empty. -/
theorem step_frame (c : Controller) (tick : Tick Float) (b : Inboxes) (s : Store) :
  (c.step tick b s).controller.inbox? = c.inbox?
    ∧ (c.step tick b s).controller.mode? = c.mode?
    ∧ ((c.step tick b s).outcome ∈ [Outcome.disabled, .unresolved, .paused, .storeFault] →
        (c.step tick b s).store = s
          ∧ (c.step tick b s).controller.regulator? = c.regulator?)
    ∧ (∀ v, (c.step tick b s).outcome = .velocity v →
        c.mode? = some .velocity ∧ c.inbox?.map b.read = some v
          ∧ ∃ joint, (c.step tick b s).controller.joint? = some joint
            ∧ CommandWritten s (c.step tick b s).store joint .velocityCommand v)
    ∧ (∀ f, (c.step tick b s).outcome = .force f →
        c.mode? = some .force
          ∧ ∃ joint g target observed, (c.step tick b s).controller.joint? = some joint
            ∧ c.regulator? = some g ∧ c.inbox?.map b.read = some target
            ∧ ((s.get? joint (.axes .velocity)).getD [0]).head? = some observed
            ∧ (c.step tick b s).controller.regulator?
                = some (g.update (observed - target) tick.dt)
            ∧ f = (g.update (observed - target) tick.dt).state.output
            ∧ CommandWritten s (c.step tick b s).store joint .forceCommand f)
    ∧ (∀ joint, tick.paused = false → (c.step tick b s).controller.joint? = some joint →
        ((c.step tick b s).outcome = .storeFault ↔
          s.has joint = false
            ∨ (c.mode? = some .force ∧ s.get? joint (.axes .velocity) = some [])))
  := by
  refine ⟨inbox?_step c tick b s, mode?_step c tick b s, ?_, ?_, ?_, ?_⟩
  · apply step_of_quiet
  · intro v
    apply step_of_velocity
  · intro f
    apply step_of_force
  · intro joint
    apply step_storeFault_iff

end Controller

end Servo
