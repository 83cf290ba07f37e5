import Servo.Proofs.Simulation.Accounts
import Servo.Proofs.Simulation.Structure
import Servo.Proofs.Topic.Spelling
import Servo.Proofs.Text.Separator

/-!
# Topics derived from names

A controller without a topic of its own listens to one that is derived from the names of its model
and its joint.  `Config.defaultTopic_eq_iff` says when two such topics are the same, and
`derived_topics_apart` what a publication on one of them does to the controllers of a world: it
reaches those of the same joint, and those of others whose names run into the names of this one.
-/

namespace Servo

namespace Controller.Config

/-! ### Derived topics -/

/-- The topic that is derived from the names `m` and `j` is also derived from `m'` and `j'`, of
which the first goes on with what the name `j` begins with. -/
def RunsInto (m j m' j' : String) : Prop :=
  (∃ x, m' = m ++ "/joint/" ++ x ∧ j = x ++ "/joint/" ++ j')
    ∨ (m' = m ++ "/joint" ∧ j = "joint/" ++ j')

/-- Names run into each other only if the end of the word between them is in the name of the joint,
and its beginning in the longer name of a model. -/
theorem RunsInto.occurs {m j m' j' : String} (h : RunsInto m j m' j') :
  Text.Occurs "/joint" m' ∧ Text.Occurs "joint/" j
  := by
  have hword : "/joint/" = "/joint" ++ "/" ∧ "/joint/" = "/" ++ "joint/" := ⟨rfl, rfl⟩
  rcases h with ⟨x, rfl, rfl⟩ | ⟨rfl, rfl⟩
  · constructor
    · use m, "/" ++ x
      rw [hword.1]
      simp only [String.append_assoc]
    · use x ++ "/", j'
      rw [hword.2]
      simp only [String.append_assoc]
  · constructor
    · use m, ""
      rw [String.append_empty]
    · use "", j'
      rw [String.empty_append]

/-- Names do not run into each other if the beginning of the word between them is in no name of a
model, or its end in no name of a joint. -/
theorem not_runsInto {m j m' j' : String}
    (h : (¬ Text.Occurs "/joint" m ∧ ¬ Text.Occurs "/joint" m')
      ∨ (¬ Text.Occurs "joint/" j ∧ ¬ Text.Occurs "joint/" j')) :
  ¬ (RunsInto m j m' j' ∨ RunsInto m' j' m j)
  := by
  rintro (hruns | hruns)
  · obtain ⟨hmodel, hjoint⟩ := hruns.occurs
    rcases h with h | h
    · apply h.2 hmodel
    · apply h.1 hjoint
  · obtain ⟨hmodel, hjoint⟩ := hruns.occurs
    rcases h with h | h
    · apply h.1 hmodel
    · apply h.2 hjoint

/-- The word between the names overlaps with itself in a single slash. -/
theorem overlap_joint {u v x : String} (hu : u ≠ "") (hx : x ≠ "") (hux : "/joint/" = u ++ x)
    (hxv : "/joint/" = x ++ v) :
  u = "/joint" ∧ v = "joint/"
  := by
  have hslash : ∀ k < 7, k ≠ 0 →
      "/joint/".toList.take k = "/joint/".toList.drop (7 - k) → k = 1 := by decide
  have hu := String.length_eq_zero_iff.not.2 hu
  have hx := String.length_eq_zero_iff.not.2 hx
  have hlength : 7 = u.length + x.length := by
    rw [← String.length_append, ← hux]
    rfl
  have htake : "/joint/".toList.take x.length = x.toList := by
    rw [hxv, String.toList_append, ← String.length_toList, List.take_left]
  have hdrop : "/joint/".toList.drop u.length = x.toList := by
    rw [hux, String.toList_append, ← String.length_toList, List.drop_left]
  have hwhole : 7 - x.length = u.length := by omega
  have hone : x.length = 1 := by
    apply hslash _ (by omega) hx
    rw [htake, hwhole, hdrop]
  constructor
  · apply String.toList_inj.1
    calc u.toList = "/joint/".toList.take u.length := by
          rw [hux, String.toList_append, ← String.length_toList, List.take_left]
      _ = "/joint".toList := by
          rw [← hwhole, hone]
          rfl
  · apply String.toList_inj.1
    calc v.toList = "/joint/".toList.drop x.length := by
          rw [hxv, String.toList_append, ← String.length_toList, List.drop_left]
      _ = "joint/".toList := by
          rw [hone]
          rfl

/-- The word between the names stands further on in two ways. -/
theorem shifts_joint_iff {m j m' j' : String} :
  Text.Shifts "/joint/" m j m' j' ↔ RunsInto m j m' j'
  := by
  rw [Text.shifts_iff (by decide), RunsInto]
  apply or_congr_right
  constructor
  · rintro ⟨u, v, x, hu, hx, hux, hxv, hm, hj⟩
    obtain ⟨rfl, rfl⟩ := overlap_joint hu hx hux hxv
    exact ⟨hm, hj⟩
  · rintro ⟨hm, hj⟩
    exact ⟨"/joint", "joint/", "/", by decide, by decide, rfl, rfl, hm, hj⟩

/-- Two derived topics are the same only if the names are, or if they run into each other. -/
theorem defaultTopic_eq_iff {m j m' j' : String} :
  defaultTopic m j = defaultTopic m' j'
    ↔ (m = m' ∧ j = j') ∨ RunsInto m j m' j' ∨ RunsInto m' j' m j
  := by
  have hparts : ∀ m j, defaultTopic m j = "/model/" ++ (m ++ "/joint/" ++ j) ++ "/cmd_vel" := by
    intro m j
    simp only [defaultTopic, String.append_assoc]
  rw [hparts, hparts, String.append_left_inj, String.append_right_inj, ← shifts_joint_iff,
    ← shifts_joint_iff, ← Text.joined_eq_iff]

/-- A derived topic is called just as it is written. -/
theorem ofString_defaultTopic {m j : String} {t : Topic}
    (h : Topic.ofString (defaultTopic m j) = .ok t) :
  t.name = defaultTopic m j
  := by
  obtain ⟨-, rfl⟩ := Topic.ofString_eq_ok_iff.1 h
  apply Topic.rooted_of_head
  simp [defaultTopic]

end Controller.Config

open Controller

/-- The plugin of a slot drives the joint `joint` and gives no topic of its own, and the topic that
is derived from the names is `t`. -/
structure World.Slot.Relies (x : World.Slot) (joint : String) (t : Topic) : Prop where
  config : ∃ c, Config.ofParams x.plugin.params = .ok c ∧ c.topic = none ∧ c.joint = joint
  topic : Topic.ofString (Config.defaultTopic x.model.name joint) = .ok t

/-- A delivery changes no subscription. -/
theorem Network.Listens.deliver {n : Network} {i : Inbox} {text : String} (h : n.Listens i text)
    (t : Topic) (v : Float) :
  (n.deliver t v).Listens i text
  := by
  constructor
  case known =>
    rw [size_deliver]
    apply h.known
  case subscribed => apply h.subscribed

namespace Simulation

/-! ### Controllers and their topics -/

/-- Whatever is done with a simulation, an inbox listens to the same text. -/
theorem Reaches.listens {x y : Simulation} (h : x.Reaches y) {i : Inbox} {text : String}
    (hx : x.network.Listens i text) :
  y.network.Listens i text
  := by
  induction h with
  | refl => apply hx
  | step _ dt ih => apply ih
  | setPaused _ paused ih => apply ih
  | seek _ time ih => apply ih
  | @publish y _ topic v p hp ih =>
    cases ht : Topic.ofString topic with
    | ok t =>
      obtain ⟨p', hp', hnetwork⟩ := Network.publish_of_ok ht y.network v
      rw [hp'] at hp
      cases hp
      simp only [hnetwork]
      apply ih.deliver
    | error e =>
      rw [Network.publish, ht] at hp
      cases hp

/-- What is published on the topic that a text names is delivered. -/
theorem publish_of_topic (sim : Simulation) {text : String} {t : Topic}
    (h : Topic.ofString text = .ok t) (v : Float) :
  ∃ reached events, sim.publish text v
    = .ok (reached, { sim with network := sim.network.deliver t v }, events)
  := by
  obtain ⟨p, hp, hnetwork⟩ := Network.publish_of_ok h sim.network v
  refine ⟨p.reached, p.events, ?_⟩
  rw [publish, hp, ← hnetwork]
  rfl

/-- The slots of a world are the first systems of what is built, in order, and this stays so
whatever is done with it: a plugin whose parameters give a configuration is a controller that drives
the joint and follows the topic. -/
theorem controller_of_slot {w : World} {b : Built} (hb : ofWorld w = .ok b) {y : Simulation}
    (hy : b.simulation.Reaches y) {i : Nat} {x : World.Slot} (hx : w.slots[i]? = some x)
    {c : Config} (hc : Config.ofParams x.plugin.params = .ok c) :
  ∃ a, y.systems[i]? = some (.controller (.enabled a)) ∧ a.resolver.name = c.joint
    ∧ a.Follows y.network (c.topicFor x.model.name)
  := by
  obtain ⟨fates, hsystems, -, hfates⟩ := fates_of_ofWorld hb
  obtain ⟨hlength, hsettles⟩ := List.forall₂_iff_get.1 hfates
  obtain ⟨hi, rfl⟩ := List.getElem?_eq_some_iff.1 hx
  obtain ⟨owner, hconfigured⟩ := hsettles i hi (hlength ▸ hi)
  obtain ⟨⟨a, ha, hname, -, hfollows⟩, -⟩ := hconfigured.enabled hc
  have hcontrollers : b.simulation.systems
      = (fates.map (·.controller)).map .controller ++ [.dynamics (dynamicsOf w.physics)] := by
    rw [hsystems, List.map_map]
    rfl
  obtain ⟨cs, hreached, hduties⟩ := hy.duties hcontrollers
  have hduty : (cs.map duty?)[i]? = some (duty? (.enabled a)) := by
    rw [hduties, List.getElem?_map, List.getElem?_map, List.getElem?_eq_getElem (hlength ▸ hi),
      Option.map_some, Option.map_some, ← ha]
    rfl
  rw [List.getElem?_map] at hduty
  obtain ⟨controller, hcontroller, hduty⟩ := Option.map_eq_some_iff.1 hduty
  cases controller with
  | disabled => cases hduty
  | enabled a' =>
    simp only [duty?, active?, Option.map_some, Option.some.injEq, Duty.mk.injEq] at hduty
    obtain ⟨-, hjoint, -, hinbox, htopic, hsubscribed⟩ := hduty
    refine ⟨a', ?_, ?_, ?_⟩
    · have hlt : i < (cs.map System.controller).length := by
        rw [List.length_map]
        apply (List.getElem?_eq_some_iff.1 hcontroller).1
      rw [hreached, List.getElem?_append_left hlt, List.getElem?_map, hcontroller]
      rfl
    · rw [hjoint, hname]
    · constructor
      case named =>
        intro t ht
        rw [htopic, hsubscribed]
        apply hfollows.named t ht
      case unnamed =>
        intro e he
        rw [htopic, hsubscribed]
        apply hfollows.unnamed e he
      case listens =>
        rw [hinbox]
        apply hy.listens hfollows.listens

/-- A plugin that relies on its derived topic is a controller that is subscribed to it. -/
theorem follows_of_relies {w : World} {b : Built} (hb : ofWorld w = .ok b) {y : Simulation}
    (hy : b.simulation.Reaches y) {i : Nat} {x : World.Slot} (hx : w.slots[i]? = some x)
    {joint : String} {t : Topic} (hrelies : x.Relies joint t) :
  ∃ a, y.systems[i]? = some (.controller (.enabled a))
    ∧ a.Follows y.network (Config.defaultTopic x.model.name joint)
  := by
  obtain ⟨c, hc, htopic, rfl⟩ := hrelies.config
  obtain ⟨a, ha, -, hfollows⟩ := controller_of_slot hb hy hx hc
  rw [Config.topicFor, htopic] at hfollows
  exact ⟨a, ha, hfollows⟩

/-- The derived topics of two controllers of a valid world are the same exactly if the controllers
are of the same joint, or their names run into each other, which they do not unless `/joint` is in
the name of a model and `joint/` in that of a joint.  Whatever was done with the simulation of the
world, what is published on the topic of the first one becomes the set-point of the second one in
these cases, and in no other case is the set-point of the second one changed. -/
theorem derived_topics_apart {w : World} (hw : w.fault? = none) :
  (Entity.capacity < w.size ∧ ofWorld w = .error (.store .exhausted))
    ∨ ∃ b, ofWorld w = .ok b ∧ ∀ y, b.simulation.Reaches y →
      ∀ (i i' : Nat) (x x' : World.Slot), w.slots[i]? = some x → w.slots[i']? = some x' →
      ∀ (j j' : String) (t t' : Topic), x.Relies j t → x'.Relies j' t' →
      ∃ a a', y.systems[i]? = some (.controller (.enabled a))
        ∧ y.systems[i']? = some (.controller (.enabled a'))
        ∧ (a.topic = t.name ∧ a.subscribed = true)
        ∧ (a'.topic = t'.name ∧ a'.subscribed = true)
        ∧ (a.topic = a'.topic ↔ (x.model = x'.model ∧ j = j')
          ∨ Config.RunsInto x.model.name j x'.model.name j'
          ∨ Config.RunsInto x'.model.name j' x.model.name j)
        ∧ ((¬ Text.Occurs "/joint" x.model.name ∧ ¬ Text.Occurs "/joint" x'.model.name)
            ∨ (¬ Text.Occurs "joint/" j ∧ ¬ Text.Occurs "joint/" j') →
          (a.topic = a'.topic ↔ x.model = x'.model ∧ j = j'))
        ∧ ∀ text v, Topic.ofString text = .ok t →
          ∃ reached sim events, y.publish text v = .ok (reached, sim, events)
          ∧ sim.systems = y.systems
          ∧ sim.network.inboxes.read a'.inbox
            = if a.topic = a'.topic then v else y.network.inboxes.read a'.inbox
  := by
  have hvalid := World.fault?_eq_none_iff.1 hw
  rcases ofWorld_of_valid hvalid with hfull | ⟨b, hb⟩
  · exact .inl hfull
  · right
    refine ⟨b, hb, ?_⟩
    intro y hy i i' x x' hx hx' j j' t t' hrelies hrelies'
    obtain ⟨a, ha, hfollows⟩ := follows_of_relies hb hy hx hrelies
    obtain ⟨a', ha', hfollows'⟩ := follows_of_relies hb hy hx' hrelies'
    have hnamed := hfollows.named t hrelies.topic
    have hnamed' := hfollows'.named t' hrelies'.topic
    have htopics : a.topic = a'.topic ↔ (x.model = x'.model ∧ j = j')
        ∨ Config.RunsInto x.model.name j x'.model.name j'
        ∨ Config.RunsInto x'.model.name j' x.model.name j := by
      rw [hnamed.1, hnamed'.1, Config.ofString_defaultTopic hrelies.topic,
        Config.ofString_defaultTopic hrelies'.topic, Config.defaultTopic_eq_iff]
      apply or_congr_left
      apply and_congr_left'
      have hmodel := (World.mem_slots_iff.1 (List.mem_of_getElem? hx)).1
      have hmodel' := (World.mem_slots_iff.1 (List.mem_of_getElem? hx')).1
      exact ⟨List.inj_on_of_nodup_map hvalid.distinct hmodel hmodel', congrArg _⟩
    refine ⟨a, a', ha, ha', hnamed, hnamed', htopics, ?_, ?_⟩
    · intro hnames
      rw [htopics]
      apply or_iff_left (Config.not_runsInto hnames)
    · intro text v htext
      have hsame : a'.inbox ∈ y.network.bus.subscribers t ↔ a.topic = a'.topic := by
        rw [hfollows'.listens.subscribed, hrelies'.topic, hnamed.1, hnamed'.1, Except.ok.injEq]
        constructor
        · rintro rfl
          rfl
        · intro hname
          cases t
          cases t'
          cases hname
          rfl
      obtain ⟨reached, events, hpublish⟩ := y.publish_of_topic htext v
      refine ⟨reached, _, events, hpublish, rfl, ?_⟩
      rw [Network.read_deliver hfollows'.listens.known]
      simp only [hsame]

/-- A model with one joint and a controller of it. -/
def drivenModel (name joint : String) : World.Model where
  name := name
  joints := [{ name := joint }]
  plugins := [{ kind := .jointController, params := .ofList [("joint_name", .text joint)] }]

/-- The slot of the controller of a driven model. -/
def drivenSlot (name joint : String) : World.Slot :=
  ⟨drivenModel name joint, 0, .jointController, .ofList [("joint_name", .text joint)]⟩

/-- A world in which the names of the first two models run into each other. -/
def crossedArms : World where
  version := 1
  name := "bench"
  models := [drivenModel "a" "b/joint/c", drivenModel "a/joint/b" "c", drivenModel "d" "c"]

/-- The controllers of a world with crossed arms rely on the topics that are derived from the
names. -/
theorem relies_crossedArms :
  (drivenSlot "a" "b/joint/c").Relies "b/joint/c" ⟨"/model/a/joint/b/joint/c/cmd_vel"⟩
    ∧ (drivenSlot "a/joint/b" "c").Relies "c" ⟨"/model/a/joint/b/joint/c/cmd_vel"⟩
    ∧ (drivenSlot "d" "c").Relies "c" ⟨"/model/d/joint/c/cmd_vel"⟩
  := by
  refine ⟨⟨⟨{ joint := "b/joint/c" }, ?_, rfl, rfl⟩, ?_⟩, ⟨⟨{ joint := "c" }, ?_, rfl, rfl⟩, ?_⟩,
    ⟨⟨{ joint := "c" }, ?_, rfl, rfl⟩, ?_⟩⟩
  all_goals decide +kernel

/-- What is published on the topic of the last controller leaves the set-point of the first one as
it is, whatever was done before. -/
theorem derived_topics_apart_crossedArms :
  crossedArms.fault? = none ∧ ∃ b, ofWorld crossedArms = .ok b ∧ ∀ y, b.simulation.Reaches y →
    ∃ a, y.systems[0]? = some (.controller (.enabled a)) ∧ ∀ v, ∃ reached sim events,
      y.publish "model/d/joint/c/cmd_vel" v = .ok (reached, sim, events)
        ∧ sim.network.inboxes.read a.inbox = y.network.inboxes.read a.inbox
  := by
  have hvalid : crossedArms.fault? = none := by decide +kernel
  use hvalid
  rcases derived_topics_apart hvalid with ⟨hfull, -⟩ | ⟨b, hb, hkept⟩
  · exact absurd hfull (by decide)
  · use b, hb
    intro y hy
    obtain ⟨hfirst, -, hlast⟩ := relies_crossedArms
    obtain ⟨a, a', ha, ha', hnamed, hnamed', -, -, hpublish⟩ :=
      hkept y hy 2 0 (drivenSlot "d" "c") (drivenSlot "a" "b/joint/c") rfl rfl _ _ _ _ hlast hfirst
    use a', ha'
    intro v
    obtain ⟨reached, sim, events, hsim, -, hread⟩ :=
      hpublish "model/d/joint/c/cmd_vel" v (by decide +kernel)
    refine ⟨reached, sim, events, hsim, ?_⟩
    rw [hread, hnamed.1, hnamed'.1, if_neg (by decide)]

/-- The set-points of the controllers of a simulation. -/
def setPoints (sim : Simulation) : List (Option Float) :=
  sim.systems.map fun
    | .controller c => c.inbox?.map sim.network.inboxes.read
    | .dynamics _ => none

/-- The derived topics of the first two controllers are the same, although their models and their
joints have different names, and what is published there becomes the set-point of both. -/
theorem derived_topics_meet :
  crossedArms.fault? = none ∧ ∃ b sim events t, ofWorld crossedArms = .ok b
    ∧ crossedArms.slots.take 2 = [drivenSlot "a" "b/joint/c", drivenSlot "a/joint/b" "c"]
    ∧ (drivenSlot "a" "b/joint/c").Relies "b/joint/c" t
    ∧ (drivenSlot "a/joint/b" "c").Relies "c" t
    ∧ b.simulation.publish t.name 5 = .ok (2, sim, events)
    ∧ b.simulation.setPoints = [some 0, some 0, some 0, none]
    ∧ sim.setPoints = [some 5, some 5, some 0, none]
  := by
  have hruns : ((ofWorld crossedArms).toOption.bind fun b =>
      (b.simulation.publish "/model/a/joint/b/joint/c/cmd_vel" 5).toOption.map fun p =>
        (p.1, b.simulation.setPoints, p.2.1.setPoints))
      = some (2, [some 0, some 0, some 0, none], [some 5, some 5, some 0, none]) := by
    decide +kernel
  obtain ⟨b, hb, hruns⟩ := Option.bind_eq_some_iff.1 hruns
  obtain ⟨⟨reached, sim, events⟩, hpublish, hpoints⟩ := Option.map_eq_some_iff.1 hruns
  obtain ⟨rfl, hbefore, hafter⟩ : reached = 2 ∧ b.simulation.setPoints = _ ∧ sim.setPoints = _ := by
    simpa using hpoints
  obtain ⟨hfirst, hsecond, -⟩ := relies_crossedArms
  exact ⟨by decide +kernel, b, sim, events, _, eq_ok_of_toOption hb, rfl, hfirst, hsecond,
    eq_ok_of_toOption hpublish, hbefore, hafter⟩

end Simulation

end Servo
