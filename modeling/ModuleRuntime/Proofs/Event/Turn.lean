import Mathlib.Data.List.Induction
import Mathlib.Data.List.Infix
import ModuleRuntime.Proofs.Event.Subscribers

/-!
# Whose turn it is

The enabled subscribers of a topic are called in the order in which they were enabled last. That is
the order in which they subscribed, except where somebody was disabled and enabled again: who is
enabled again goes behind all others.
-/

set_option autoImplicit false

namespace ModuleRuntime.Event

variable {ω ρ : Type}

/-! ## What happened last -/

/-- Something happens to the first of two for the last time before it happens to the second for the
last time: behind some point of the sequence it happens to the second, and not to the first any
more. -/
def Precedes {β : Type} (happens : β → Token → Prop) (l : List β) (s t : Token) : Prop :=
  ∃ later, later <:+ l ∧ (∃ x ∈ later, happens x t) ∧ ∀ x ∈ later, ¬happens x s

namespace Precedes

variable {β : Type} {happens : β → Token → Prop} {l : List β} {x : β} {s t : Token}

/-- Of two, only one precedes the other. -/
theorem asymm (h : Precedes happens l s t) : ¬Precedes happens l t s := by
  rintro ⟨later', hlater', ⟨x, hx, hxs⟩, hno'⟩
  obtain ⟨later, hlater, ⟨y, hy, hyt⟩, hno⟩ := h
  rcases List.suffix_or_suffix_of_suffix hlater hlater' with hsuffix | hsuffix
  · exact hno' y (hsuffix.subset hy) hyt
  · exact hno x (hsuffix.subset hx) hxs

/-- Something that does not happen to the first one leaves the order as it is. -/
theorem concat (h : Precedes happens l s t) (hx : ¬happens x s) :
    Precedes happens (l ++ [x]) s t := by
  obtain ⟨later, ⟨earlier, rfl⟩, ⟨y, hy, hyt⟩, hno⟩ := h
  refine ⟨later ++ [x], ⟨earlier, by simp⟩, ⟨y, List.mem_append_left _ hy, hyt⟩, ?_⟩
  intro z hz
  rcases List.mem_append.mp hz with hz | hz
  · exact hno z hz
  · obtain rfl := List.mem_singleton.mp hz
    exact hx

/-- What happens to the second one now happens to it last. -/
theorem last (ht : happens x t) (hs : ¬happens x s) : Precedes happens (l ++ [x]) s t := by
  refine ⟨[x], List.suffix_append l [x], ⟨x, List.mem_singleton_self x, ht⟩, ?_⟩
  simpa using hs

/-- By induction from the end: what does not happen to both at once happens to one of them last. -/
theorem total (hs : ∃ x ∈ l, happens x s) (ht : ∃ x ∈ l, happens x t)
    (honce : ∀ x ∈ l, happens x s → ¬happens x t) :
    Precedes happens l s t ∨ Precedes happens l t s := by
  induction l using List.reverseRecOn with
  | nil =>
    obtain ⟨x, hx, -⟩ := hs
    cases hx
  | append_singleton l x ih =>
    have hx := honce x (List.mem_append_right _ (List.mem_singleton_self x))
    by_cases hxs : happens x s
    · exact .inr (last hxs (hx hxs))
    · by_cases hxt : happens x t
      · exact .inl (last hxt hxs)
      · have hearlier {t : Token} (hnot : ¬happens x t) (h : ∃ y ∈ l ++ [x], happens y t) :
            ∃ y ∈ l, happens y t := by
          obtain ⟨y, hy, hyt⟩ := h
          rcases List.mem_append.mp hy with hy | hy
          · exact ⟨y, hy, hyt⟩
          · obtain rfl := List.mem_singleton.mp hy
            exact absurd hyt hnot
        have hrest := ih (hearlier hxs hs) (hearlier hxt ht) fun y hy =>
          honce y (List.mem_append_left _ hy)
        exact hrest.imp (·.concat hxs) (·.concat hxt)

end Precedes

/-- Of two members of a list one stands before the other. -/
theorem sublist_or_sublist {β : Type} {l : List β} {a b : β} (ha : a ∈ l) (hb : b ∈ l)
    (hne : a ≠ b) : [a, b].Sublist l ∨ [b, a].Sublist l := by
  induction l with
  | nil => cases ha
  | cons c rest ih =>
    rcases List.mem_cons.mp ha with rfl | ha'
    · have hb' := (List.mem_cons.mp hb).resolve_left (Ne.symm hne)
      exact .inl ((List.singleton_sublist.mpr hb').cons_cons a)
    · rcases List.mem_cons.mp hb with rfl | hb'
      · exact .inr ((List.singleton_sublist.mpr ha').cons_cons b)
      · exact (ih ha' hb').imp (·.cons c) (·.cons c)

/-! ## Runs -/

namespace Step

/-- Somebody is subscribed to a topic who was not. -/
def Subscribes (x : Step ω ρ) (topic : Topic) (token : Token) : Prop :=
  token ∉ (x.bus.subscribers topic).tokens ∧ token ∈ (x.next.subscribers topic).tokens

/-- Somebody is enabled for a topic who was not. -/
def Enables (x : Step ω ρ) (topic : Topic) (token : Token) : Prop :=
  token ∉ (x.bus.subscribers topic).enabledTokens ∧ token ∈ (x.next.subscribers topic).enabledTokens

/-- What a step does to the subscribers of a topic. -/
def Changes (x : Step ω ρ) (topic : Topic) : Prop :=
  (x.bus.subscribers topic).Changes x.request topic (x.next.subscribers topic)

variable {x : Step ω ρ} {topic : Topic} {s t : Token}

/-- Who is new is enabled at once. -/
theorem Changes.enables (h : x.Changes topic) (ht : x.Subscribes topic t) : x.Enables topic t := by
  obtain ⟨henabled, -⟩ := h.exists_joining ht.1 ht.2
  refine ⟨fun hin => ht.1 (Subscribers.mem_tokens_of_mem_enabledTokens hin), ?_⟩
  rw [henabled]
  exact List.mem_append_right _ (List.mem_singleton_self t)

/-- No step subscribes two at once. -/
theorem Changes.eq (h : x.Changes topic) (hs : x.Subscribes topic s) (ht : x.Subscribes topic t) :
    s = t := by
  obtain ⟨-, htokens⟩ := h.exists_joining ht.1 ht.2
  exact (htokens s hs.2).resolve_left hs.1

end Step

namespace Bus

variable {b : Bus ω ρ} {topic : Topic} {s t : Token}

/-- The bus after one more request. -/
theorem after_concat (b : Bus ω ρ) (requests : List (Request ω ρ)) (request : Request ω ρ) :
    b.after (requests ++ [request]) = (Step.mk (b.after requests) request).next := by
  unfold after
  rw [List.foldl_append]
  rfl

/-- The steps of one more request. -/
theorem steps_concat (b : Bus ω ρ) (requests : List (Request ω ρ)) (request : Request ω ρ) :
    b.steps (requests ++ [request]) = b.steps requests ++ [⟨b.after requests, request⟩] := by
  induction requests generalizing b with
  | nil => rfl
  | cons first rest ih => exact congrArg (List.cons _) (ih _)

section Run

variable (channel : String) (isServer : Bool) (requests : List (Request ω ρ)) (topic : Topic)

/-- What any request after any run does to the subscribers of a topic. -/
theorem changes_after (request : Request ω ρ) :
    (Step.mk ((new channel isServer).after requests) request).Changes topic := by
  obtain ⟨p, hshows, hsound⟩ := shows_after channel isServer requests
  exact hshows.changes hsound request topic

/-- What each step of a run does to the subscribers of a topic. -/
theorem changes_steps : ∀ x ∈ (new channel isServer).steps requests, x.Changes topic := by
  induction requests using List.reverseRecOn with
  | nil => exact fun _ hx => absurd hx List.not_mem_nil
  | append_singleton requests request ih =>
    rw [steps_concat]
    intro x hx
    rcases List.mem_append.mp hx with hx | hx
    · exact ih x hx
    · obtain rfl := List.mem_singleton.mp hx
      exact changes_after channel isServer requests topic request

/-- Who is subscribed has been so since some step. -/
theorem exists_subscribes
    (ht : t ∈ (((new channel isServer).after requests).subscribers topic).tokens) :
    ∃ x ∈ (new channel isServer).steps requests, x.Subscribes topic t := by
  induction requests using List.reverseRecOn with
  | nil => cases ht
  | append_singleton requests request ih =>
    rw [after_concat] at ht
    rw [steps_concat]
    by_cases hbefore : t ∈ (((new channel isServer).after requests).subscribers topic).tokens
    · obtain ⟨x, hx, hxt⟩ := ih hbefore
      exact ⟨x, List.mem_append_left _ hx, hxt⟩
    · exact ⟨_, List.mem_append_right _ (List.mem_singleton_self _), hbefore, ht⟩

/-- By induction on the requests: who is enabled goes behind all others, and whoever is enabled
already is not enabled by the same step. -/
theorem pairwise_enabledTokens :
    (((new channel isServer).after requests).subscribers topic).enabledTokens.Pairwise
      (Precedes (·.Enables topic) ((new channel isServer).steps requests)) := by
  induction requests using List.reverseRecOn with
  | nil => exact .nil
  | append_singleton requests request ih =>
    have hchanges := changes_after channel isServer requests topic request
    rw [after_concat, steps_concat]
    generalize (new channel isServer).after requests = b at hchanges ih
    have hkeep : (b.subscribers topic).enabledTokens.Pairwise (Precedes (·.Enables topic)
        ((new channel isServer).steps requests ++ [⟨b, request⟩])) := by
      refine ih.imp_of_mem ?_
      intro s t hs _ h
      exact h.concat fun henables => henables.1 hs
    rcases hchanges.enabledTokens_cases with hsublist | ⟨t, hnew, henabled⟩
    · exact hkeep.sublist hsublist
    · change ((Step.mk b request).next.subscribers topic).enabledTokens =
        (b.subscribers topic).enabledTokens ++ [t] at henabled
      have hin : t ∈ ((Step.mk b request).next.subscribers topic).enabledTokens := by
        rw [henabled]
        exact List.mem_append_right _ (List.mem_singleton_self t)
      rw [henabled]
      refine List.pairwise_append.mpr ⟨hkeep, List.pairwise_singleton .., ?_⟩
      intro s hs t' ht'
      obtain rfl := List.mem_singleton.mp ht'
      exact .last ⟨hnew, hin⟩ fun henables => henables.1 hs

end Run

/-! ## Calls -/

/-- Who takes events of an origin, if the slot of the topic lets them through. -/
def calls (b : Bus ω ρ) (topic : Topic) (origin : Origin) (lets : Slot ω ρ Latch → Bool) :
    List Token :=
  match b.table.slot? topic with
  | none => []
  | some slot => if lets slot then (slot.eligible origin).map (·.token) else []

/-- Whose handlers are called when an event is raised. -/
theorem calls_raise (b : Bus ω ρ) (topic : Topic) (payload : ρ) (oneShot : Bool)
    (target : Origin) :
    callees (b.raise topic payload oneShot target).journal =
      b.calls topic .localOnly fun slot =>
        target.intersects slot.allowed && !b.holdsBack slot oneShot &&
          (target.inter slot.allowed).hasLocal := by
  unfold calls
  rw [← callees_seen, seen_raise]
  cases b.table.slot? topic with
  | none => rfl
  | some slot =>
    dsimp only
    by_cases hlets : (target.intersects slot.allowed && !b.holdsBack slot oneShot) = true
    · rw [if_pos hlets, callees_seen, callees_letThrough]
      simp only [hlets, Bool.true_and]
    · simp [hlets, callees]

/-- Whose handlers are called when an event is received. -/
theorem calls_receive (b : Bus ω ρ) (topic : Topic) (payload : ρ) (oneShot : Bool) :
    callees (b.receive topic payload oneShot).journal =
      b.calls topic .networked fun slot => !b.holdsBack slot oneShot := by
  unfold calls
  rw [receive_eq]
  cases b.table.slot? topic with
  | none => rfl
  | some slot =>
    dsimp only
    by_cases hheld : b.holdsBack slot oneShot = true
    · simp [hheld, callees]
    · rw [if_neg hheld, Journaled.journal_map, Slot.callees_deliver]
      simp [hheld]

/-- Those who are called are enabled, and stand in the same order. -/
theorem sublist_calls (b : Bus ω ρ) (topic : Topic) (origin : Origin)
    (lets : Slot ω ρ Latch → Bool) :
    (b.calls topic origin lets).Sublist (b.subscribers topic).enabledTokens := by
  unfold calls
  cases hslot : b.table.slot? topic with
  | none => exact List.nil_sublist _
  | some slot =>
    rw [subscribers_of_slot? hslot]
    dsimp only
    split
    · exact List.filter_sublist.map _
    · exact List.nil_sublist _

/-- In which order subscribers of a topic are called after some steps. Each of them was enabled for
the last time before the next one was. Of two of them the one who subscribed first is called first,
unless that one was enabled again after the other one had been enabled for the last time. -/
structure CallsInTurn (steps : List (Step ω ρ)) (topic : Topic) (calls : List Token) : Prop where
  subscribed : ∀ s ∈ calls, ∃ x ∈ steps, x.Subscribes topic s
  ordered : ∀ s ∈ calls, ∀ t ∈ calls, s ≠ t →
    Precedes (·.Subscribes topic) steps s t ∨ Precedes (·.Subscribes topic) steps t s
  turn : calls.Pairwise (Precedes (·.Enables topic) steps)
  overtaken : ∀ s ∈ calls, ∀ t ∈ calls, Precedes (·.Subscribes topic) steps s t →
    ([t, s].Sublist calls ↔ ∃ x later, x :: later <:+ steps ∧
      x.request = .setEnabled topic s true ∧ x.Enables topic s ∧
        ∀ y ∈ x :: later, ¬y.Enables topic t)

/-- Somebody who subscribed first and is enabled last was enabled again in between. -/
theorem exists_setEnabled {steps : List (Step ω ρ)} (hchanges : ∀ x ∈ steps, x.Changes topic)
    (hfirst : Precedes (·.Subscribes topic) steps s t)
    (hlast : Precedes (·.Enables topic) steps t s) :
    ∃ x later, x :: later <:+ steps ∧ x.request = .setEnabled topic s true ∧
      x.Enables topic s ∧ ∀ y ∈ x :: later, ¬y.Enables topic t := by
  obtain ⟨behind, hbehind, ⟨z, hz, hzt⟩, hno⟩ := hfirst
  obtain ⟨after, hafter, ⟨x, hx, hxs⟩, hnot⟩ := hlast
  obtain ⟨before, later, rfl⟩ := List.append_of_mem hx
  have hlater : x :: later <:+ steps := (List.suffix_append ..).trans hafter
  have hnone : ∀ y ∈ x :: later, ¬y.Enables topic t := by
    intro y hy
    exact hnot y (List.mem_append_right _ hy)
  refine ⟨x, later, hlater, ?_, hxs, hnone⟩
  rcases (hchanges x (hafter.subset hx)).joins_or_returns hxs.1 hxs.2 with hsubscribes | hrequest
  · -- Then the other one, who subscribed behind this step, would have been enabled there.
    rcases List.suffix_or_suffix_of_suffix hlater hbehind with hsuffix | hsuffix
    · exact absurd hsubscribes (hno x (hsuffix.subset List.mem_cons_self))
    · have henables := (hchanges z (hbehind.subset hz)).enables hzt
      exact absurd henables (hnone z (hsuffix.subset hz))
  · exact hrequest

/-- Enabled subscribers that keep their order are called in the order in which they were enabled
last. -/
theorem callsInTurn_of_sublist (channel : String) (isServer : Bool)
    (requests : List (Request ω ρ)) (topic : Topic) {calls : List Token}
    (h : calls.Sublist (((new channel isServer).after requests).subscribers topic).enabledTokens) :
    CallsInTurn ((new channel isServer).steps requests) topic calls := by
  have hchanges := changes_steps channel isServer requests topic
  have hturn := (pairwise_enabledTokens channel isServer requests topic).sublist h
  have hsubscribed : ∀ s ∈ calls,
      ∃ x ∈ (new channel isServer).steps requests, x.Subscribes topic s := by
    intro s hs
    have hin := Subscribers.mem_tokens_of_mem_enabledTokens (h.subset hs)
    exact exists_subscribes channel isServer requests topic hin
  refine ⟨hsubscribed, ?_, hturn, ?_⟩
  · intro s hs t ht hne
    refine Precedes.total (hsubscribed s hs) (hsubscribed t ht) ?_
    intro x hx hxs hxt
    exact hne ((hchanges x hx).eq hxs hxt)
  · intro s hs t ht hfirst
    constructor
    · intro hlast
      exact exists_setEnabled hchanges hfirst (hturn.forall_sublist hlast)
    · rintro ⟨x, later, hlater, -, hxs, hnone⟩
      have hlast : Precedes (·.Enables topic) ((new channel isServer).steps requests) t s :=
        ⟨x :: later, hlater, ⟨x, List.mem_cons_self, hxs⟩, hnone⟩
      have hne : s ≠ t := by
        rintro rfl
        exact hfirst.asymm hfirst
      rcases sublist_or_sublist hs ht hne with hsublist | hsublist
      · exact absurd hlast (hturn.forall_sublist hsublist).asymm
      · exact hsublist

/-- Whatever was asked of a bus before, an event that is raised or received calls those who take it
in the order in which they were enabled last. -/
theorem callsInTurn_after (channel : String) (isServer : Bool) (requests : List (Request ω ρ))
    (topic : Topic) (payload : ρ) (oneShot : Bool) :
    (∀ target : Origin,
      callees (((new channel isServer).after requests).raise topic payload oneShot
          target).journal =
        ((new channel isServer).after requests).calls topic .localOnly (fun slot =>
          target.intersects slot.allowed &&
            !((new channel isServer).after requests).holdsBack slot oneShot &&
              (target.inter slot.allowed).hasLocal) ∧
      CallsInTurn ((new channel isServer).steps requests) topic
        (callees (((new channel isServer).after requests).raise topic payload oneShot
          target).journal)) ∧
    callees (((new channel isServer).after requests).receive topic payload oneShot).journal =
      ((new channel isServer).after requests).calls topic .networked (fun slot =>
        !((new channel isServer).after requests).holdsBack slot oneShot) ∧
    CallsInTurn ((new channel isServer).steps requests) topic
      (callees (((new channel isServer).after requests).receive topic payload
        oneShot).journal) := by
  refine ⟨?_, calls_receive .., ?_⟩
  · intro target
    refine ⟨calls_raise .., ?_⟩
    apply callsInTurn_of_sublist
    rw [calls_raise]
    exact sublist_calls ..
  · apply callsInTurn_of_sublist
    rw [calls_receive]
    exact sublist_calls ..

/-- Two subscribe to the alarm, and the first one is disabled and enabled again. -/
def toggledAlarm : List (Request Unit Nat) :=
  [.register alarm .localOnly, .subscribe alarm .localOnly ⟨1⟩ (.reading fun _ _ => []),
    .subscribe alarm .localOnly ⟨2⟩ (.reading fun _ _ => []), .setEnabled alarm ⟨1⟩ false,
    .setEnabled alarm ⟨1⟩ true]

example : callees (((new "named_events" false).after toggledAlarm).raise alarm 7 false
    .localOnly).journal = [⟨2⟩, ⟨1⟩] := by
  decide +kernel

end Bus

end ModuleRuntime.Event
