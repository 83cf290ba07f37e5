import Mathlib.Data.List.Basic
import Mathlib.Tactic.Use
import Servo.Bus.Relay

/-!
# Exchange on a bus

All handles share one bus, so what happens on it is a single history of requests, whoever makes
them.  `Bus.respond` is what becomes of one `Bus.Request`.  As long as nobody who hears a message
forwards it, the history alone says who is reached (`Bus.audience`): `delivers_after` says so of
all publications, and which topics are listed.
-/

namespace Servo

/-! ### Keys -/

namespace Dictionary

variable {α : Type}

theorem keys_increasing (d : Dictionary α) :
  d.keys.Pairwise (· < ·)
  := List.pairwise_map.2 d.increasing

/-- Inserting an entry adds its key. -/
theorem mem_map_insertEntry {k m : String} {a : α} {l : List (String × α)} :
  m ∈ (insertEntry k a l).map (·.1) ↔ m = k ∨ m ∈ l.map (·.1)
  := by
  induction l with
  | nil => simp [insertEntry]
  | cons p rest ih =>
    obtain ⟨n, b⟩ := p
    rw [insertEntry]
    split
    next => simp
    next =>
      split
      next heq => simp [heq]
      next =>
        rw [List.map_cons, List.mem_cons, ih, List.map_cons, List.mem_cons]
        apply or_left_comm

/-- The keys of a dictionary are those of the entries that it was made of. -/
theorem mem_keys_ofList {m : String} (l : List (String × α)) :
  m ∈ (ofList l).keys ↔ m ∈ l.map (·.1)
  := by
  have hfold : ∀ (l : List (String × α)) (d : Dictionary α),
      m ∈ (l.foldl (fun d p => d.insert p.1 p.2) d).keys ↔ m ∈ d.keys ∨ m ∈ l.map (·.1) := by
    intro l
    induction l with
    | nil => simp
    | cons p rest ih =>
      intro d
      have hinsert : m ∈ (d.insert p.1 p.2).keys ↔ m = p.1 ∨ m ∈ d.keys := mem_map_insertEntry
      rw [List.foldl_cons, ih, hinsert, List.map_cons, List.mem_cons, or_comm (a := m = p.1),
        or_assoc]
  rw [ofList, hfold]
  simp [empty, keys]

end Dictionary

namespace Bus

/-! ### Requests -/

/-- What is asked of a bus through one of its handles. -/
inductive Request where
  | subscribe (l : Listener) (text : String)
  | advertise (text : String)
  | publish (text : String) (value : Float)
  /-- A publisher publishes on its topic. -/
  | send (p : Publisher) (value : Float)

/-- What a request returns. -/
inductive Reply where
  | subscribed (t : Topic)
  | advertised (p : Publisher)
  | reached (n : Nat)
  | refused (e : Topic.Error)
  deriving DecidableEq

/-- What becomes of a request. -/
structure Response where
  bus : Bus Listener
  reply : Reply
  /-- What the listeners note; there is nothing if they never come to an end. -/
  notes? : Option (List Receipt)

/-- A message is delivered, and those who are subscribed to its topic are counted. -/
def announce (b : Bus Listener) (t : Topic) (value : Float) : Response :=
  ⟨b, .reached (b.subscribers t).length, b.deliver? t value⟩

/-- A request is refused, and nothing happens. -/
def refuse (b : Bus Listener) (e : Topic.Error) : Response := ⟨b, .refused e, some []⟩

/-- What becomes of a request. -/
def respond (b : Bus Listener) : Request → Response
  | .subscribe l text =>
    match Topic.ofString text with
    | .ok t => ⟨b.subscribe t l, .subscribed t, some []⟩
    | .error e => b.refuse e
  | .advertise text =>
    match Publisher.ofString text with
    | .ok p => ⟨b, .advertised p, some []⟩
    | .error e => b.refuse e
  | .publish text value =>
    match Topic.ofString text with
    | .ok t => b.announce t value
    | .error e => b.refuse e
  | .send p value => b.announce p.topic value

/-- The bus that a history of requests leaves. -/
def after (history : List Request) : Bus Listener :=
  history.foldl (fun b r => (b.respond r).bus) {}

/-- The subscription that a request makes, if its topic is valid. -/
def Request.subscription? : Request → Option (Topic × Listener)
  | .subscribe l text => (Topic.ofString text).toOption.map (·, l)
  | .advertise _ => none
  | .publish _ _ => none
  | .send _ _ => none

/-- A request makes one subscription or none. -/
theorem subscriptions_respond (b : Bus Listener) (r : Request) :
  (b.respond r).bus.subscriptions = b.subscriptions ++ r.subscription?.toList
  := by
  cases r with
  | subscribe l text =>
    rw [respond, Request.subscription?]
    cases Topic.ofString text with
    | error e => exact (List.append_nil _).symm
    | ok t => rfl
  | advertise text =>
    rw [respond, Request.subscription?]
    cases Publisher.ofString text <;> exact (List.append_nil _).symm
  | publish text value =>
    rw [respond, Request.subscription?]
    cases Topic.ofString text <;> exact (List.append_nil _).symm
  | send p value => exact (List.append_nil _).symm

/-- A history leaves the subscriptions that it made, the oldest first. -/
theorem subscriptions_after (history : List Request) :
  (after history).subscriptions = history.filterMap (·.subscription?)
  := by
  have hfold : ∀ (history : List Request) (b : Bus Listener),
      (history.foldl (fun b r => (b.respond r).bus) b).subscriptions
        = b.subscriptions ++ history.filterMap (·.subscription?) := by
    intro history
    induction history with
    | nil =>
      intro b
      exact (List.append_nil _).symm
    | cons r later ih =>
      intro b
      rw [List.foldl_cons, ih, subscriptions_respond, List.append_assoc, List.filterMap_cons]
      cases r.subscription? <;> rfl
  apply hfold

/-! ### Who is reached -/

/-- Nobody forwards a message. -/
def Quiet (history : List Request) : Prop :=
  ∀ l text, .subscribe l text ∈ history → ∃ id, l = .recorder id

/-- Who hears a topic by a request, which is a subscription under one of the names of the topic. -/
def Request.hearer? (t : Topic) : Request → Option String
  | .subscribe (.recorder id) text =>
    if (Topic.ofString text).toOption = some t then some id else none
  | .subscribe (.forwarder _ _) _ => none
  | .advertise _ => none
  | .publish _ _ => none
  | .send _ _ => none

/-- Those who subscribed to a topic under one of its names, in order. -/
def audience (t : Topic) (history : List Request) : List String :=
  history.filterMap (·.hearer? t)

/-- The subscribers of a topic are those who subscribed under one of its names. -/
theorem subscribers_after {history : List Request} (h : Quiet history) (t : Topic) :
  (after history).subscribers t = (audience t history).map .recorder
  := by
  rw [subscribers, subscriptions_after, List.filterMap_filterMap, audience, List.map_filterMap]
  apply List.filterMap_congr
  intro r hr
  cases r with
  | subscribe l text =>
    obtain ⟨id, rfl⟩ := h l text hr
    rw [Request.subscription?, Request.hearer?]
    cases Topic.ofString text with
    | error e => rfl
    | ok t' =>
      simp only [Except.toOption, Option.map_some, Option.bind_some, Option.some.injEq]
      split <;> rfl
  | advertise text => rfl
  | publish text value => rfl
  | send p value => rfl

/-- Those who only note a message do so one after the other. -/
theorem serve_recorders (b : Bus Listener) (value : Float)
    (publish : Topic → Option (List Receipt)) (ids : List String) :
  b.serve value publish (ids.map .recorder) = some (ids.map (.received · value))
  := by
  induction ids with
  | nil => rfl
  | cons id rest ih => rw [List.map_cons, serve, ih, Option.map_some, List.map_cons]

/-- A message reaches those who subscribed to its topic, each once and in order. -/
theorem announce_after {history : List Request} (h : Quiet history) (t : Topic) (value : Float) :
  (after history).announce t value
    = ⟨after history, .reached (audience t history).length,
        some ((audience t history).map (.received · value))⟩
  := by
  rw [announce, deliver?, relay, subscribers_after h, List.length_map, serve_recorders]

/-! ### What a bus promises -/

/-- What is promised of the bus that a history leaves. -/
structure Delivers (history : List Request) (b : Bus Listener) : Prop where
  /-- A message reaches those who subscribed to its topic earlier and nobody else, each once. -/
  published : ∀ text t value, Topic.ofString text = .ok t →
    b.respond (.publish text value)
      = ⟨b, .reached (audience t history).length,
          some ((audience t history).map (.received · value))⟩
  /-- A publisher publishes as if it named the topic under which it was advertised. -/
  sent : ∀ (earlier : Bus Listener) text p value,
    (earlier.respond (.advertise text)).reply = .advertised p →
      b.respond (.send p value) = b.respond (.publish text value)
  refused : ∀ text e, Topic.ofString text = .error e →
    (∀ l, b.respond (.subscribe l text) = b.refuse e)
      ∧ b.respond (.advertise text) = b.refuse e
      ∧ ∀ value, b.respond (.publish text value) = b.refuse e
  increasing : b.topics.Pairwise (· < ·)
  topics : ∀ name, name ∈ b.topics ↔ ∃ l text t, .subscribe l text ∈ history
    ∧ Topic.ofString text = .ok t ∧ t.name = name
  /-- Only a subscription adds a topic. -/
  kept : ∀ r, (∀ l text, r ≠ .subscribe l text) → (b.respond r).bus.topics = b.topics

/-- A publisher has the topic under which it was advertised. -/
theorem ofString_of_advertised {b : Bus Listener} {text : String} {p : Publisher}
    (h : (b.respond (.advertise text)).reply = .advertised p) :
  Topic.ofString text = .ok p.topic
  := by
  rw [respond, Publisher.ofString] at h
  cases ht : Topic.ofString text with
  | error e =>
    rw [ht] at h
    cases h
  | ok t =>
    rw [ht] at h
    cases h
    rfl

/-- The topics that are listed are those of the subscriptions. -/
theorem mem_topics_iff {b : Bus Listener} {name : String} :
  name ∈ b.topics ↔ ∃ s ∈ b.subscriptions, s.1.name = name
  := by
  rw [topics, Dictionary.mem_keys_ofList, List.map_map, List.mem_map]
  rfl

/-- A topic is listed exactly if somebody subscribed to it under one of its names. -/
theorem mem_topics_after_iff {history : List Request} {name : String} :
  name ∈ (after history).topics ↔ ∃ l text t, .subscribe l text ∈ history
    ∧ Topic.ofString text = .ok t ∧ t.name = name
  := by
  rw [mem_topics_iff, subscriptions_after]
  constructor
  · rintro ⟨⟨t, l⟩, hmem, rfl⟩
    obtain ⟨r, hr, hs⟩ := List.mem_filterMap.1 hmem
    cases r with
    | subscribe l' text =>
      rw [Request.subscription?] at hs
      cases ht : Topic.ofString text with
      | error e =>
        rw [ht] at hs
        cases hs
      | ok t' =>
        rw [ht] at hs
        cases hs
        exact ⟨l, text, t, hr, ht, rfl⟩
    | advertise text => cases hs
    | publish text value => cases hs
    | send p value => cases hs
  · rintro ⟨l, text, t, hr, ht, rfl⟩
    refine ⟨(t, l), List.mem_filterMap.2 ⟨_, hr, ?_⟩, rfl⟩
    rw [Request.subscription?, ht]
    rfl

/-- After any history in which nobody forwards messages, every publication reaches those who
subscribed to its topic before, each once and in order, whoever publishes and under whichever name;
what is refused changes nothing, and the topics that are listed are those with a subscriber. -/
theorem delivers_after {history : List Request} (h : Quiet history) :
  (after history).Delivers history
  := by
  constructor
  case published =>
    intro text t value ht
    rw [respond, ht]
    apply announce_after h
  case sent =>
    intro earlier text p value hp
    rw [respond, respond, ofString_of_advertised hp]
  case refused =>
    intro text e he
    refine ⟨?_, ?_, ?_⟩
    · intro l
      rw [respond, he]
    · rw [respond, Publisher.ofString, he, Except.map]
    · intro value
      rw [respond, he]
  case increasing => apply Dictionary.keys_increasing
  case topics => exact fun _ => mem_topics_after_iff
  case kept =>
    intro r hr
    have hnone : r.subscription? = none := by
      cases r with
      | subscribe l text => exact absurd rfl (hr l text)
      | _ => rfl
    rw [topics, topics, subscriptions_respond, hnone, Option.toList_none, List.append_nil]

/-- Requests of two who hear the same topic under different names, of a third one who hears another
topic, and of one who is refused. -/
def mixedRequests : List Request :=
  [.subscribe (.recorder "log") "cmd", .advertise "go", .subscribe (.recorder "plot") "/cmd",
    .publish "go" 1, .subscribe (.recorder "motor") "/go", .subscribe (.recorder "lost") "a b"]

/-- A message reaches both of those who hear its topic, in order. -/
theorem delivers_after_mixedRequests :
  Quiet mixedRequests
    ∧ (after mixedRequests).respond (.publish "cmd" 2)
      = ⟨after mixedRequests, .reached 2, some [.received "log" 2, .received "plot" 2]⟩
    ∧ "/go" ∈ (after mixedRequests).topics
  := by
  have hquiet : Quiet mixedRequests := by
    intro l text hmem
    simp only [mixedRequests, List.mem_cons, List.not_mem_nil, or_false, reduceCtorEq, false_or,
      Request.subscribe.injEq] at hmem
    rcases hmem with ⟨rfl, -⟩ | ⟨rfl, -⟩ | ⟨rfl, -⟩ | ⟨rfl, -⟩ <;> exact ⟨_, rfl⟩
  have hcommand : Topic.ofString "cmd" = .ok ⟨"/cmd"⟩ := by decide +kernel
  have hgo : Topic.ofString "/go" = .ok ⟨"/go"⟩ := by decide +kernel
  have haudience : audience ⟨"/cmd"⟩ mixedRequests = ["log", "plot"] := by decide +kernel
  have hdelivers := delivers_after hquiet
  refine ⟨hquiet, ?_, ?_⟩
  · rw [hdelivers.published _ _ 2 hcommand, haudience]
    rfl
  · apply (hdelivers.topics _).2
    refine ⟨.recorder "motor", "/go", ⟨"/go"⟩, ?_, hgo, rfl⟩
    simp [mixedRequests]

end Bus

end Servo
