import OpenSwitcher.Daemon.ManualFlow
import OpenSwitcher.Daemon.Service
import Mathlib.Data.Nat.ModEq
import Mathlib.Data.List.Nodup
/-!
# The barriers of a focus switch

While the ledger is drained, the replay stops behind a focus shortcut until the focus has
moved. A barrier waits in the session from the shortcut's end until its event is
acknowledged, which arms it.
-/

namespace OpenSwitcher

open Library
open Library.Fallible (update)

/-! ## Barriers and the ledger's queue -/

/-- The event of each barrier is in the queue, in the order of the barriers, and behind an
event that is no release; so is the shortcut that is not complete yet. -/
def FocusGuarded (active : Bool) : List DeferredFocusBarrierMarker → List DeferredInputEvent → Prop
  | [], queue => active = true → ∃ event ∈ queue, event.value ≠ 0
  | marker :: rest, queue =>
      marker.deadline = none ∧ ∃ before event after, queue = before ++ event :: after ∧
        event.sequenceId = marker.afterSequenceId ∧ (∃ trigger ∈ before, trigger.value ≠ 0) ∧
        FocusGuarded active rest after

/-- The event of the first barrier may be next. -/
def FocusOpen (active : Bool) : List DeferredFocusBarrierMarker → List DeferredInputEvent → Prop
  | [], _ => True
  | marker :: rest, queue =>
      marker.deadline = none ∧ ∃ before event after, queue = before ++ event :: after ∧
        event.sequenceId = marker.afterSequenceId ∧ FocusGuarded active rest after

theorem FocusGuarded.toOpen {active : Bool} {markers : List DeferredFocusBarrierMarker}
    {queue : List DeferredInputEvent} (h : FocusGuarded active markers queue) :
    FocusOpen active markers queue := by
  cases markers with
  | nil => trivial
  | cons marker rest =>
      obtain ⟨hunarmed, before, event, after, hqueue, hid, _, hrest⟩ := h
      exact ⟨hunarmed, before, event, after, hqueue, hid, hrest⟩

/-- Events that come before do no harm. -/
theorem FocusGuarded.behind {active : Bool} {markers : List DeferredFocusBarrierMarker}
    {queue : List DeferredInputEvent} (h : FocusGuarded active markers queue)
    (earlier : List DeferredInputEvent) : FocusGuarded active markers (earlier ++ queue) := by
  cases markers with
  | nil =>
      intro hactive
      obtain ⟨event, hmem, hvalue⟩ := h hactive
      exact ⟨event, List.mem_append_right _ hmem, hvalue⟩
  | cons marker rest =>
      obtain ⟨hunarmed, before, event, after, hqueue, hid, ⟨trigger, hmem, hvalue⟩, hrest⟩ := h
      refine ⟨hunarmed, earlier ++ before, event, after, ?_, hid,
        ⟨trigger, List.mem_append_right _ hmem, hvalue⟩, hrest⟩
      rw [hqueue, List.append_assoc]

/-- A release at the head guards nothing. -/
theorem FocusGuarded.release {active : Bool} {markers : List DeferredFocusBarrierMarker}
    {head : DeferredInputEvent} {queue : List DeferredInputEvent}
    (h : FocusGuarded active markers (head :: queue)) (hrelease : head.value = 0) :
    FocusGuarded active markers queue := by
  cases markers with
  | nil =>
      intro hactive
      obtain ⟨event, hmem, hvalue⟩ := h hactive
      rcases List.mem_cons.1 hmem with hsame | hmem
      · rw [hsame] at hvalue
        exact absurd hrelease hvalue
      · exact ⟨event, hmem, hvalue⟩
  | cons marker rest =>
      obtain ⟨hunarmed, before, event, after, hqueue, hid, ⟨trigger, hmem, hvalue⟩, hrest⟩ := h
      cases before with
      | nil => cases hmem
      | cons first before =>
          rw [List.cons_append] at hqueue
          obtain ⟨hhead, htail⟩ := List.cons.inj hqueue
          rcases List.mem_cons.1 hmem with hsame | hmem
          · rw [hsame, ← hhead] at hvalue
            exact absurd hrelease hvalue
          · exact ⟨hunarmed, before, event, after, htail, hid, ⟨trigger, hmem, hvalue⟩, hrest⟩

/-- One more event; it is no release if a shortcut has become active with it. -/
theorem FocusGuarded.admits {active active' : Bool} {markers : List DeferredFocusBarrierMarker}
    {queue : List DeferredInputEvent} (h : FocusGuarded active markers queue)
    (event : DeferredInputEvent) (hactive : active' = true → active = true ∨ event.value ≠ 0) :
    FocusGuarded active' markers (queue ++ [event]) := by
  induction markers generalizing queue with
  | nil =>
      intro hafter
      rcases hactive hafter with hbefore | hvalue
      · obtain ⟨other, hmem, hvalue⟩ := h hbefore
        exact ⟨other, List.mem_append_left _ hmem, hvalue⟩
      · exact ⟨event, List.mem_append_right _ (List.mem_singleton.2 rfl), hvalue⟩
  | cons marker rest ih =>
      obtain ⟨hunarmed, before, other, after, hqueue, hid, htrigger, hrest⟩ := h
      refine ⟨hunarmed, before, other, after ++ [event], ?_, hid, htrigger, ih hrest⟩
      rw [hqueue, List.append_assoc]
      rfl

/-- A shortcut that completes puts its barrier at the end, behind its own trigger. -/
theorem FocusGuarded.complete {markers : List DeferredFocusBarrierMarker}
    {queue : List DeferredInputEvent} (h : FocusGuarded true markers queue)
    (event : DeferredInputEvent) (triggerSequenceId : UInt64) :
    FocusGuarded false (markers ++ [⟨triggerSequenceId, event.sequenceId, none, none⟩])
      (queue ++ [event]) := by
  induction markers generalizing queue with
  | nil =>
      refine ⟨rfl, queue, event, [], rfl, rfl, h rfl, ?_⟩
      intro hfalse
      cases hfalse
  | cons marker rest ih =>
      obtain ⟨hunarmed, before, other, after, hqueue, hid, htrigger, hrest⟩ := h
      refine ⟨hunarmed, before, other, after ++ [event], ?_, hid, htrigger, ih hrest⟩
      rw [hqueue, List.append_assoc]
      rfl

namespace DeferredFocusBarrierState

/-- The first barrier is armed. -/
def FrontArmed (barriers : DeferredFocusBarrierState) : Prop :=
  ∃ marker rest, barriers.markers = marker :: rest ∧ marker.deadline ≠ none

/-- Behind an armed barrier everything is guarded; an unarmed one has its event in the queue. -/
def Sound (barriers : DeferredFocusBarrierState) (queue : List DeferredInputEvent) : Prop :=
  match barriers.markers with
  | [] => True
  | marker :: rest =>
      (marker.deadline ≠ none ∧ FocusGuarded barriers.activeShortcut.isSome rest queue) ∨
        FocusOpen barriers.activeShortcut.isSome (marker :: rest) queue

theorem Sound.unarmed {barriers : DeferredFocusBarrierState} {queue : List DeferredInputEvent}
    (h : barriers.Sound queue) {marker : DeferredFocusBarrierMarker}
    {rest : List DeferredFocusBarrierMarker} (hmarkers : barriers.markers = marker :: rest)
    (hunarmed : marker.deadline = none) :
    FocusOpen barriers.activeShortcut.isSome (marker :: rest) queue := by
  rw [Sound, hmarkers] at h
  rcases h with ⟨harmed, _⟩ | hopen
  · exact absurd hunarmed harmed
  · exact hopen

theorem Sound.armed {barriers : DeferredFocusBarrierState} {queue : List DeferredInputEvent}
    (h : barriers.Sound queue) {marker : DeferredFocusBarrierMarker}
    {rest : List DeferredFocusBarrierMarker} (hmarkers : barriers.markers = marker :: rest)
    (harmed : marker.deadline ≠ none) :
    FocusGuarded barriers.activeShortcut.isSome rest queue := by
  rw [Sound, hmarkers] at h
  rcases h with ⟨_, hguarded⟩ | hopen
  · exact hguarded
  · exact absurd hopen.1 harmed

theorem Sound.ofOpen {barriers : DeferredFocusBarrierState} {queue : List DeferredInputEvent}
    (h : FocusOpen barriers.activeShortcut.isSome barriers.markers queue) : barriers.Sound queue := by
  unfold Sound
  split
  · trivial
  · next hmarkers =>
      rw [hmarkers] at h
      exact Or.inr h

/-! ### Admission -/

/-- A focus shortcut goes down with its modifier held. -/
theorem shortcut_pressed {modifiers : ModifierState} {key : Key} {value : Int}
    (h : isFocusSwitchShortcut modifiers key value = true) :
    (if modifiers.isAltPressed then DeferredFocusModifier.alt else .«meta»).isPressed modifiers =
      true ∧ value = 1 := by
  unfold isFocusSwitchShortcut at h
  by_cases hvalue : value = 1
  · refine ⟨?_, hvalue⟩
    by_cases halt : modifiers.isAltPressed = true
    · rw [if_pos halt]
      exact halt
    · rw [if_neg halt]
      split at h
      · cases h
      · simp only [halt, Bool.false_and, Bool.false_or, Bool.and_eq_true] at h
        exact h.1
  · simp [hvalue] at h

/-- An event either makes a shortcut active, or completes one, or leaves the barriers alone. -/
theorem observe_cases (barriers : DeferredFocusBarrierState) (sessionType : SessionType)
    (modifiers : ModifierState) (event : DeferredInputEvent) :
    ((barriers.observePhysicalEvent sessionType modifiers event).markers = barriers.markers ∧
      ((barriers.observePhysicalEvent sessionType modifiers event).activeShortcut.isSome = true →
        barriers.activeShortcut.isSome = true ∨ event.value ≠ 0)) ∨
    (∃ triggerSequenceId, barriers.activeShortcut.isSome = true ∧
      barriers.observePhysicalEvent sessionType modifiers event =
        ⟨none, barriers.markers ++ [⟨triggerSequenceId, event.sequenceId, none, none⟩]⟩) := by
  unfold observePhysicalEvent
  split
  · exact Or.inl ⟨rfl, Or.inl⟩
  · by_cases hshortcut : isFocusSwitchShortcut modifiers event.key event.value = true
    · left
      obtain ⟨hpressed, hvalue⟩ := shortcut_pressed hshortcut
      rw [noteShortcut, if_pos hshortcut, completeShortcut]
      dsimp only
      rw [if_pos hpressed]
      refine ⟨rfl, fun _ => Or.inr ?_⟩
      omega
    · rw [noteShortcut, if_neg hshortcut, completeShortcut]
      cases hactive : barriers.activeShortcut with
      | none =>
          left
          refine ⟨rfl, fun h => ?_⟩
          dsimp only at h
          rw [hactive] at h
          cases h
      | some active =>
          dsimp only
          by_cases hpressed : active.modifier.isPressed modifiers = true
          · rw [if_pos hpressed]
            exact Or.inl ⟨rfl, fun _ => Or.inl rfl⟩
          · rw [if_neg hpressed]
            exact Or.inr ⟨active.triggerSequenceId, rfl, rfl⟩

theorem FocusOpen.admits {active active' : Bool} {markers : List DeferredFocusBarrierMarker}
    {queue : List DeferredInputEvent} (h : FocusOpen active markers queue)
    (event : DeferredInputEvent) (hactive : active' = true → active = true ∨ event.value ≠ 0) :
    FocusOpen active' markers (queue ++ [event]) := by
  cases markers with
  | nil => trivial
  | cons marker rest =>
      obtain ⟨hunarmed, before, other, after, hqueue, hid, hrest⟩ := h
      refine ⟨hunarmed, before, other, after ++ [event], ?_, hid, hrest.admits event hactive⟩
      rw [hqueue, List.append_assoc]
      rfl

theorem FocusOpen.complete {markers : List DeferredFocusBarrierMarker}
    {queue : List DeferredInputEvent} (h : FocusOpen true markers queue)
    (event : DeferredInputEvent) (triggerSequenceId : UInt64) :
    FocusOpen false (markers ++ [⟨triggerSequenceId, event.sequenceId, none, none⟩])
      (queue ++ [event]) := by
  cases markers with
  | nil =>
      refine ⟨rfl, queue, event, [], rfl, rfl, ?_⟩
      intro hfalse
      cases hfalse
  | cons marker rest =>
      obtain ⟨hunarmed, before, other, after, hqueue, hid, hrest⟩ := h
      refine ⟨hunarmed, before, other, after ++ [event], ?_, hid,
        hrest.complete event triggerSequenceId⟩
      rw [hqueue, List.append_assoc]
      rfl

theorem Sound.observe {barriers : DeferredFocusBarrierState} {queue : List DeferredInputEvent}
    (h : barriers.Sound queue) (sessionType : SessionType) (modifiers : ModifierState)
    (event : DeferredInputEvent) :
    (barriers.observePhysicalEvent sessionType modifiers event).Sound (queue ++ [event]) := by
  rcases observe_cases barriers sessionType modifiers event with
    ⟨hmarkers, hactive⟩ | ⟨triggerSequenceId, hactive, hcompleted⟩
  · unfold Sound at h ⊢
    rw [hmarkers]
    cases hbefore : barriers.markers with
    | nil => trivial
    | cons marker rest =>
        rw [hbefore] at h
        rcases h with ⟨harmed, hguarded⟩ | hopen
        · exact Or.inl ⟨harmed, hguarded.admits event hactive⟩
        · exact Or.inr (FocusOpen.admits hopen event hactive)
  · rw [hcompleted]
    unfold Sound at h ⊢
    rw [hactive] at h
    cases hbefore : barriers.markers with
    | nil =>
        have hopen : FocusOpen true [] queue := trivial
        exact Or.inr (FocusOpen.complete hopen event _)
    | cons marker rest =>
        rw [hbefore] at h
        rcases h with ⟨harmed, hguarded⟩ | hopen
        · exact Or.inl ⟨harmed, hguarded.complete event triggerSequenceId⟩
        · exact Or.inr (FocusOpen.complete hopen event triggerSequenceId)

/-! ### Arming and waiting -/

/-- What a decision leaves of the barriers: an armed one goes when it has been waited for. -/
theorem before_cases (barriers : DeferredFocusBarrierState) (targetGeneration : UInt64) (now : Nat)
    (head : Option DeferredInputEvent) :
    ((barriers.beforeNextEvent targetGeneration now head).2 = barriers ∧
      (barriers.FrontArmed →
        (barriers.beforeNextEvent targetGeneration now head).1 = .releaseAllowed ∧
          head.any (·.value = 0) = true ∨
        ∃ remaining, (barriers.beforeNextEvent targetGeneration now head).1 =
          .waiting remaining)) ∨
      ∃ marker rest, barriers.markers = marker :: rest ∧ marker.deadline ≠ none ∧
        (barriers.beforeNextEvent targetGeneration now head).2 =
          { barriers with markers := rest } := by
  unfold beforeNextEvent
  cases hmarkers : barriers.markers with
  | nil =>
      left
      refine ⟨rfl, ?_⟩
      intro ⟨marker, rest, hcons, _⟩
      rw [hmarkers] at hcons
      cases hcons
  | cons marker rest =>
      dsimp only
      cases hdeadline : marker.deadline with
      | none =>
          left
          refine ⟨rfl, ?_⟩
          intro ⟨other, others, hcons, harmed⟩
          rw [hmarkers] at hcons
          cases hcons
          exact absurd hdeadline harmed
      | some deadline =>
          dsimp only
          have hpopped : ∃ other others, marker :: rest = other :: others ∧
              other.deadline ≠ none ∧ ({ barriers with markers := rest }
                : DeferredFocusBarrierState) = { barriers with markers := others } :=
            ⟨marker, rest, rfl, by rw [hdeadline]; exact Option.some_ne_none _, rfl⟩
          split
          · exact Or.inr hpopped
          · split
            · exact Or.inr hpopped
            · split
              · next hrelease => exact Or.inl ⟨rfl, fun _ => Or.inl ⟨rfl, hrelease⟩⟩
              · exact Or.inl ⟨rfl, fun _ => Or.inr ⟨_, rfl⟩⟩

theorem Sound.before {barriers : DeferredFocusBarrierState} {queue : List DeferredInputEvent}
    (h : barriers.Sound queue) (targetGeneration : UInt64) (now : Nat)
    (head : Option DeferredInputEvent) :
    (barriers.beforeNextEvent targetGeneration now head).2.Sound queue := by
  rcases before_cases barriers targetGeneration now head with
    ⟨hsame, _⟩ | ⟨marker, rest, hmarkers, harmed, hpopped⟩
  · rw [hsame]
    exact h
  · rw [hpopped]
    exact Sound.ofOpen (h.armed hmarkers harmed).toOpen

/-- An event that goes on while a barrier is armed is a release. -/
theorem before_release {barriers : DeferredFocusBarrierState} {queue : List DeferredInputEvent}
    (h : barriers.Sound queue) (targetGeneration : UInt64) (now : Nat)
    (head : Option DeferredInputEvent)
    (hgoes : ∀ remaining,
      (barriers.beforeNextEvent targetGeneration now head).1 ≠ .waiting remaining)
    (harmed : (barriers.beforeNextEvent targetGeneration now head).2.FrontArmed) :
    head.any (·.value = 0) = true := by
  rcases before_cases barriers targetGeneration now head with
    ⟨hsame, hdecided⟩ | ⟨marker, rest, hmarkers, hfront, hpopped⟩
  · rw [hsame] at harmed
    rcases hdecided harmed with ⟨_, hrelease⟩ | ⟨remaining, hwaits⟩
    · exact hrelease
    · exact absurd hwaits (hgoes remaining)
  · rw [hpopped] at harmed
    obtain ⟨next, others, hcons, hdeadline⟩ := harmed
    have hguarded := h.armed hmarkers hfront
    dsimp only at hcons
    rw [hcons] at hguarded
    exact absurd hguarded.1 hdeadline

/-- Acknowledging the event of the first barrier leaves the others guarded. -/
theorem FocusOpen.acknowledge {active : Bool} {marker : DeferredFocusBarrierMarker}
    {rest : List DeferredFocusBarrierMarker} {head : DeferredInputEvent}
    {queue : List DeferredInputEvent} (h : FocusOpen active (marker :: rest) (head :: queue)) :
    FocusGuarded active rest queue ∧
      (head.sequenceId ≠ marker.afterSequenceId → FocusOpen active (marker :: rest) queue) := by
  obtain ⟨hunarmed, before, event, after, hqueue, hid, hrest⟩ := h
  cases before with
  | nil =>
      obtain ⟨hhead, htail⟩ := List.cons.inj hqueue
      rw [htail]
      refine ⟨hrest, ?_⟩
      intro hother
      rw [hhead] at hother
      exact absurd hid hother
  | cons first before =>
      obtain ⟨hhead, htail⟩ := List.cons.inj hqueue
      rw [htail]
      constructor
      · have hbehind := hrest.behind (before ++ [event])
        rw [List.append_assoc] at hbehind
        exact hbehind
      · intro _
        exact ⟨hunarmed, before, event, after, rfl, hid, hrest⟩

/-- The acknowledgement of the head arms the first barrier, or leaves its event in the queue. -/
theorem Sound.afterAck {barriers : DeferredFocusBarrierState} {head : DeferredInputEvent}
    {queue : List DeferredInputEvent} (h : barriers.Sound (head :: queue))
    (hrelease : barriers.FrontArmed → head.value = 0) (targetGeneration : UInt64) (now : Nat) :
    (barriers.afterAck head.sequenceId targetGeneration now).Sound queue := by
  unfold DeferredFocusBarrierState.afterAck
  cases hmarkers : barriers.markers with
  | nil =>
      unfold Sound
      dsimp only
      rw [hmarkers]
      trivial
  | cons marker rest =>
      have hguarded : FocusGuarded barriers.activeShortcut.isSome rest queue := by
        by_cases hdeadline : marker.deadline = none
        · exact (FocusOpen.acknowledge (h.unarmed hmarkers hdeadline)).1
        · exact (h.armed hmarkers hdeadline).release
            (hrelease ⟨marker, rest, hmarkers, hdeadline⟩)
      dsimp only
      by_cases hsame : marker.afterSequenceId = head.sequenceId
      · rw [if_neg (not_not.2 hsame)]
        exact Or.inl ⟨Option.some_ne_none _, hguarded⟩
      · rw [if_pos hsame]
        unfold Sound
        rw [hmarkers]
        by_cases hdeadline : marker.deadline = none
        · right
          apply (FocusOpen.acknowledge (h.unarmed hmarkers hdeadline)).2
          intro hid
          exact hsame hid.symm
        · exact Or.inl ⟨hdeadline, hguarded⟩

end DeferredFocusBarrierState

/-! ## The numbers of the events -/

/-- The numbers go round without zero. -/
def numberAt (start k : Nat) : Nat := (start - 1 + k) % (2 ^ 64 - 1) + 1

theorem numberAt_succ (start k : Nat) :
    numberAt (numberAt start 1) k = numberAt start (k + 1) := by
  unfold numberAt
  rw [Nat.add_sub_cancel, Nat.mod_add_mod]
  congr 2
  omega

theorem numberAt_zero {start : Nat} (h : 0 < start) (hstart : start < 2 ^ 64) :
    numberAt start 0 = start := by
  unfold numberAt
  omega

theorem takeNext_numbers (next : UInt64) :
    (takeNextNonzeroPhysicalSequenceId next).1.toNat = max next.toNat 1 ∧
      (takeNextNonzeroPhysicalSequenceId next).2.toNat = numberAt (max next.toNat 1) 1 := by
  have hnumber : (max next 1 : UInt64).toNat = max next.toNat 1 := by
    have hdef : (max next 1 : UInt64) = if next ≤ 1 then 1 else next := rfl
    rw [hdef]
    by_cases hle : next ≤ 1
    · have hnat : next.toNat ≤ 1 := hle
      rw [if_pos hle, Nat.max_eq_right hnat]
      rfl
    · have hnat : ¬ next.toNat ≤ 1 := hle
      rw [if_neg hle]
      omega
  have hlt := (max next 1 : UInt64).toNat_lt
  refine ⟨hnumber, ?_⟩
  unfold takeNextNonzeroPhysicalSequenceId numberAt
  dsimp only
  rw [hnumber] at hlt
  by_cases hwrap : (max next 1 : UInt64) + 1 = 0
  · rw [if_pos hwrap]
    have htoNat := congrArg UInt64.toNat hwrap
    rw [UInt64.toNat_add, hnumber] at htoNat
    simp at htoNat
    have hlast : max next.toNat 1 = 2 ^ 64 - 1 := by omega
    rw [hlast]
    rfl
  · rw [if_neg hwrap, UInt64.toNat_add, hnumber]
    have hne : (max next.toNat 1 + 1) % 2 ^ 64 ≠ 0 := by
      intro hzero
      apply hwrap
      apply UInt64.toNat_inj.1
      rw [UInt64.toNat_add, hnumber]
      exact hzero
    simp
    omega

/-- The fetched events are numbered in a row. -/
theorem sequenced_numbers (raw : List RawInputEvent) (next : UInt64) :
    ∃ count ≤ raw.length,
      (sequenceFetchedPhysicalInputEvents raw next).1.map (·.sequenceId.toNat) =
        (List.range count).map (numberAt (max next.toNat 1)) := by
  induction raw generalizing next with
  | nil => exact ⟨0, Nat.le_refl 0, rfl⟩
  | cons event rest ih =>
      rw [sequenceFetchedPhysicalInputEvents]
      cases event.key with
      | none =>
          obtain ⟨count, hcount, hnumbers⟩ := ih next
          exact ⟨count, Nat.le_succ_of_le hcount, hnumbers⟩
      | some key =>
          obtain ⟨hfirst, hnext⟩ := takeNext_numbers next
          obtain ⟨count, hcount, hnumbers⟩ := ih (takeNextNonzeroPhysicalSequenceId next).2
          refine ⟨count + 1, Nat.succ_le_succ hcount, ?_⟩
          have hpositive : 1 ≤ numberAt (max next.toNat 1) 1 := Nat.le_add_left 1 _
          have hlt := next.toNat_lt
          rw [hnext, Nat.max_eq_left hpositive] at hnumbers
          rw [List.range_succ_eq_map, List.map_cons, List.map_cons, List.map_map, hnumbers,
            hfirst, numberAt_zero (by omega) (by omega)]
          congr 1
          apply List.map_congr_left
          intro k _
          exact numberAt_succ _ k

/-- Fewer than `2 ^ 64` events in a row have numbers of their own. -/
theorem sequenced_apart {raw : List RawInputEvent} (next : UInt64) (h : raw.length < 2 ^ 64) :
    ((sequenceFetchedPhysicalInputEvents raw next).1.map (·.sequenceId)).Nodup := by
  obtain ⟨count, hcount, hnumbers⟩ := sequenced_numbers raw next
  have hrange : ((List.range count).map (numberAt (max next.toNat 1))).Nodup := by
    apply List.Nodup.map_on _ List.nodup_range
    intro i hi j hj hsame
    rw [List.mem_range] at hi hj
    have hmod : max next.toNat 1 - 1 + i ≡ max next.toNat 1 - 1 + j [MOD 2 ^ 64 - 1] :=
      Nat.succ.inj hsame
    have hback := Nat.ModEq.add_left_cancel' _ hmod
    exact Nat.ModEq.eq_of_lt_of_lt hback (by omega) (by omega)
  rw [← hnumbers] at hrange
  have hcompose : (sequenceFetchedPhysicalInputEvents raw next).1.map (·.sequenceId.toNat) =
      ((sequenceFetchedPhysicalInputEvents raw next).1.map (·.sequenceId)).map (·.toNat) := by
    rw [List.map_map]
    rfl
  rw [hcompose] at hrange
  exact List.Nodup.of_map _ hrange

end OpenSwitcher
