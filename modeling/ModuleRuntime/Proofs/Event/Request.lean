import ModuleRuntime.Event.Bus

/-!
# Requests and clients

Everything that can be asked of a bus, and what is seen of it: the answer, the calls of handlers
with their payloads, what handlers and controllers tell, and what is sent. The log is left out. A
client asks one thing after the other, each chosen by what it has seen so far.
-/

set_option autoImplicit false

namespace ModuleRuntime.Event

/-- What can be asked of a bus. Cleaning up is the same as shutting down. -/
inductive Request (ω ρ : Type) where
  | register (topic : Topic) (allowed : Origin)
  | join (controller : Controller ω)
  | subscribe (topic : Topic) (origin : Origin) (token : Token) (handler : Handler ω ρ)
  | unsubscribe (topic : Topic) (token : Token) (warn : Bool)
  | setEnabled (topic : Topic) (token : Token) (isEnabled : Bool)
  | subscribeAll (payload : String) (token : Token) (selection : Selection)
      (handler : Handler ω ρ)
  | unsubscribeAll (payload : String) (token : Token) (selection : Selection)
  | raise (topic : Topic) (payload : ρ) (oneShot : Bool) (target : Origin)
  | raiseLocal (topic : Topic) (payload : ρ)
  | receive (topic : Topic) (payload : ρ) (oneShot : Bool)
  | rearm (topic : Topic)
  | setLock (isLocked : Bool)
  | start
  | ready
  | shutdown
  | isRegistered (topic : Topic)
  | allowed (topic : Topic)
  | subscriberCount (topic : Topic)
  | enabledCount (topic : Topic)
  | isTriggered (topic : Topic)
  | registrationCount
  | controllerNames
  | isLocked
  | phase
  | channel
  | isServer

/-- What a bus answers. -/
inductive Answer (ρ : Type) where
  | nothing
  | done (r : Result Unit)
  | found (r : Result Bool)
  | counted (r : Result Nat)
  | delivered (count : Nat) (payload : ρ)
  | truth (b : Bool)
  | number (n : Nat)
  | origins (o : Option Origin)
  | names (l : List String)
  | phase (p : Phase)
  | text (s : String)

variable {ω ρ α σ τ : Type}

/-- The answer and the bus after a request. -/
def Bus.perform (b : Bus ω ρ) :
    Request ω ρ → Journaled (Activity ω ρ) (Answer ρ × Bus ω ρ)
  | .register topic allowed => Prod.map .done id <$> b.register topic allowed
  | .join controller => Prod.map .done id <$> b.join controller
  | .subscribe topic origin token handler =>
    Prod.map .done id <$> b.subscribe topic origin token handler
  | .unsubscribe topic token warn => Prod.map .found id <$> b.unsubscribe topic token warn
  | .setEnabled topic token isEnabled => Prod.map .found id <$> b.setEnabled topic token isEnabled
  | .subscribeAll payload token selection handler =>
    Prod.map .counted id <$> b.subscribeAll payload token selection handler
  | .unsubscribeAll payload token selection =>
    Prod.map .counted id <$> b.unsubscribeAll payload token selection
  | .raise topic payload oneShot target =>
    Prod.map (fun a => .delivered a.1 a.2) id <$> b.raise topic payload oneShot target
  | .raiseLocal topic payload =>
    Prod.map (fun a => .delivered a.1 a.2) id <$> b.raiseLocal topic payload
  | .receive topic payload oneShot =>
    Prod.map (fun a => .delivered a.1 a.2) id <$> b.receive topic payload oneShot
  | .rearm topic => return Prod.map .truth id (b.rearm topic)
  | .setLock isLocked => (.nothing, ·) <$> b.setLock isLocked
  | .start => (.nothing, ·) <$> b.start
  | .ready => (.nothing, ·) <$> b.ready
  | .shutdown => (.nothing, ·) <$> b.shutdown
  | .isRegistered topic => return (.truth (b.isRegistered topic), b)
  | .allowed topic => return (.origins (b.allowed? topic), b)
  | .subscriberCount topic => return (.number (b.subscriberCount topic), b)
  | .enabledCount topic => return (.number (b.enabledCount topic), b)
  | .isTriggered topic => return (.truth (b.isTriggered topic), b)
  | .registrationCount => return (.number b.registrationCount, b)
  | .controllerNames => return (.names b.controllerNames, b)
  | .isLocked => return (.truth b.isLocked, b)
  | .phase => return (.phase b.table.phase, b)
  | .channel => return (.text b.channel, b)
  | .isServer => return (.truth b.isServer, b)

/-! ## What is seen -/

/-- Whether an activity is more than an entry of the log. -/
def Activity.isSeen : Activity ω ρ → Bool
  | .logged _ => false
  | _ => true

/-- The activities without the log. -/
def seen (activities : List (Activity ω ρ)) : List (Activity ω ρ) :=
  activities.filter Activity.isSeen

/-- What is seen of some activities and then of others. -/
@[simp]
theorem seen_append (l m : List (Activity ω ρ)) : seen (l ++ m) = seen l ++ seen m :=
  List.filter_append ..

/-- The answer to a request, and what was seen on the way to it. -/
structure Reply (ω ρ : Type) where
  answer : Answer ρ
  activities : List (Activity ω ρ)

/-- A client chooses its next request by the replies that it got, the earliest first. One that does
not look at them asks a fixed sequence. One that does can hand on what handlers left in a payload;
so handlers with a state in common are those whose payload holds it beside the data. -/
abbrev Client (ω ρ : Type) := List (Reply ω ρ) → Request ω ρ

/-- The replies to a client that has got some and asks a number of requests more. -/
def play (perform : σ → Request ω ρ → Journaled (Activity ω ρ) (Answer ρ × σ))
    (client : Client ω ρ) : Nat → List (Reply ω ρ) → σ → List (Reply ω ρ)
  | 0, replies, _ => replies
  | n + 1, replies, s =>
    let x := perform s (client replies)
    play perform client n (replies ++ [⟨x.value.1, seen x.journal⟩]) x.value.2

/-! ## Agreement -/

/-- Two computations whose results are related and of which the same is seen. -/
structure Agree {β : Type} (R : α → β → Prop) (x : Journaled (Activity ω ρ) α)
    (y : Journaled (Activity ω ρ) β) : Prop where
  result : R x.value y.value
  activities : seen x.journal = seen y.journal

/-- Equal answers and related states. -/
def Paired (R : σ → τ → Prop) (p : α × σ) (q : α × τ) : Prop :=
  p.1 = q.1 ∧ R p.2 q.2

namespace Agree

variable {β γ δ : Type} {R : α → β → Prop} {S : γ → δ → Prop} {x : Journaled (Activity ω ρ) α}
  {y : Journaled (Activity ω ρ) β}

/-- Computations that do nothing agree if their results are related. -/
theorem pure {a : α} {b : β} (h : R a b) :
    Agree R (Pure.pure a : Journaled (Activity ω ρ) α) (Pure.pure b) :=
  ⟨h, rfl⟩

/-- Computations in sequence agree if each of them does. -/
theorem bind {f : α → Journaled (Activity ω ρ) γ} {g : β → Journaled (Activity ω ρ) δ}
    (h : Agree R x y) (hf : ∀ a b, R a b → Agree S (f a) (g b)) :
    Agree S (x >>= f) (y >>= g) := by
  have hnext := hf x.value y.value h.result
  refine ⟨hnext.result, ?_⟩
  rw [Journaled.journal_bind, Journaled.journal_bind, seen_append, seen_append, h.activities,
    hnext.activities]

/-- Results seen through functions are related if the functions keep them so. -/
theorem map {f : α → γ} {g : β → δ} (h : Agree R x y) (hf : ∀ a b, R a b → S (f a) (g b)) :
    Agree S (f <$> x) (g <$> y) := by
  refine ⟨hf x.value y.value h.result, ?_⟩
  rw [Journaled.journal_map, Journaled.journal_map]
  exact h.activities

/-- What is logged first does not matter. -/
theorem log {entry : Log.Entry} (h : Agree R x y) :
    Agree R (Journaled.tell (.logged entry) >>= fun _ => x) y := by
  refine ⟨h.result, ?_⟩
  rw [Journaled.journal_bind]
  exact h.activities

/-- A computation agrees with itself. -/
theorem refl (x : Journaled (Activity ω ρ) α) : Agree Eq x x :=
  ⟨rfl, rfl⟩

/-- A computation of which nothing is seen can come first. -/
theorem bindUnseen {b : β} {f : α → Journaled (Activity ω ρ) γ} {z : Journaled (Activity ω ρ) δ}
    (h : Agree R x (Pure.pure b : Journaled (Activity ω ρ) β)) (hf : ∀ a, R a b → Agree S (f a) z) :
    Agree S (x >>= f) z := by
  have hnext := hf x.value h.result
  refine ⟨hnext.result, ?_⟩
  rw [Journaled.journal_bind, seen_append, h.activities, hnext.activities]
  rfl

end Agree

/-- If related states answer every request alike and stay related, no client can tell them apart. -/
theorem play_eq_play {R : σ → τ → Prop}
    {perform : σ → Request ω ρ → Journaled (Activity ω ρ) (Answer ρ × σ)}
    {perform' : τ → Request ω ρ → Journaled (Activity ω ρ) (Answer ρ × τ)}
    (hagree : ∀ s t request, R s t → Agree (Paired R) (perform s request) (perform' t request))
    (client : Client ω ρ) (n : Nat) (replies : List (Reply ω ρ)) {s : σ} {t : τ} (h : R s t) :
    play perform client n replies s = play perform' client n replies t := by
  induction n generalizing replies s t with
  | zero => rfl
  | succ n ih =>
    obtain ⟨⟨hanswer, hstate⟩, hactivities⟩ := hagree s t (client replies) h
    unfold play
    dsimp only
    rw [hanswer, hactivities]
    exact ih _ hstate

end ModuleRuntime.Event
