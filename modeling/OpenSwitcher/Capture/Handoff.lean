import OpenSwitcher.Daemon.DeferredInput
import OpenSwitcher.Library.Fallible
/-!
# The handoff to the grab

Before a keyboard is grabbed, its input has to be quiet: no key down, and nothing to
read for a whole window. The calls of the target and of the clock answer from streams,
and every call is recorded. Times are in nanoseconds.
-/

namespace OpenSwitcher.Capture

open Library

inductive InputWaitOutcome where
  | timedOut
  | readable
deriving DecidableEq, Repr

inductive QuiescentHandoffOutcome where
  | ready (discardedEvents : Nat)
  | busy (discardedEvents : Nat)
deriving DecidableEq, Repr

/-- A call with its answer. -/
inductive HandoffCall (ε : Type) where
  | discardReady (answer : Except ε Nat)
  | now (instant : Nat)
  | anyKeyPressed (answer : Except ε Bool)
  | waitOnce (duration : Nat) (answer : Except ε InputWaitOutcome)
deriving Repr

/-- The answers that the calls will get, and the calls so far. -/
structure HandoffTarget (ε : Type) where
  clock : Nat → Nat
  discards : Nat → Except ε Nat
  keys : Nat → Except ε Bool
  waits : Nat → Except ε InputWaitOutcome
  calls : List (HandoffCall ε) := []

/-- A procedure of the handoff. -/
abbrev Handoff (ε α : Type) : Type := Fallible (HandoffTarget ε) ε α

variable {ε : Type}

namespace HandoffTarget

/-! ## Calls -/

def afterDiscard (target : HandoffTarget ε) : HandoffTarget ε :=
  { target with
    discards := fun n => target.discards (n + 1)
    calls := target.calls ++ [.discardReady (target.discards 0)] }

def afterNow (target : HandoffTarget ε) : HandoffTarget ε :=
  { target with
    clock := fun n => target.clock (n + 1)
    calls := target.calls ++ [.now (target.clock 0)] }

def afterKeys (target : HandoffTarget ε) : HandoffTarget ε :=
  { target with
    keys := fun n => target.keys (n + 1)
    calls := target.calls ++ [.anyKeyPressed (target.keys 0)] }

def afterWait (target : HandoffTarget ε) (duration : Nat) : HandoffTarget ε :=
  { target with
    waits := fun n => target.waits (n + 1)
    calls := target.calls ++ [.waitOnce duration (target.waits 0)] }

variable {target : HandoffTarget ε}

theorem calls_afterDiscard {answer : Except ε Nat} (h : target.discards 0 = answer) :
    target.afterDiscard.calls = target.calls ++ [.discardReady answer] := by
  rw [← h]
  rfl

theorem calls_afterKeys {answer : Except ε Bool} (h : target.keys 0 = answer) :
    target.afterKeys.calls = target.calls ++ [.anyKeyPressed answer] := by
  rw [← h]
  rfl

theorem calls_afterWait (duration : Nat) {answer : Except ε InputWaitOutcome}
    (h : target.waits 0 = answer) :
    (target.afterWait duration).calls = target.calls ++ [.waitOnce duration answer] := by
  rw [← h]
  rfl

end HandoffTarget

def discardReady : Handoff ε Nat :=
  .ofTransition fun target => (target.discards 0, target.afterDiscard)

def now : Handoff ε Nat :=
  .ofTransition fun target => (.ok (target.clock 0), target.afterNow)

def anyKeyPressed : Handoff ε Bool :=
  .ofTransition fun target => (target.keys 0, target.afterKeys)

def waitOnce (duration : Nat) : Handoff ε InputWaitOutcome :=
  .ofTransition fun target => (target.waits 0, target.afterWait duration)

/-! ## Waiting -/

/-- A round of the loop ends it or goes back to its head with the count so far. -/
inductive HandoffRound where
  | done (outcome : QuiescentHandoffOutcome)
  | again (discardedEvents : Nat)
deriving DecidableEq, Repr

/-- The end of a round whose window passed without input. -/
def afterQuietWindow (discardedEvents : Nat) : Handoff ε HandoffRound := do
  let postWindowDiscarded ← discardReady
  let discardedEvents := saturatingAdd discardedEvents postWindowDiscarded
  if postWindowDiscarded > 0 then
    return .again discardedEvents
  else
    let pressed ← anyKeyPressed
    if pressed then
      return .again discardedEvents
    else
      let waited ← waitOnce 0
      match waited with
      | .timedOut => return .done (.ready discardedEvents)
      | .readable => return .again discardedEvents

def handoffRound (quietWindow deadline discardedEvents : Nat) : Handoff ε HandoffRound := do
  let discarded ← discardReady
  let discardedEvents := saturatingAdd discardedEvents discarded
  let observedNow ← now
  if observedNow ≥ deadline then
    return .done (.busy discardedEvents)
  else
    let pressed ← anyKeyPressed
    if pressed then
      let _ ← waitOnce (min (deadline - observedNow) quietWindow)
      return .again discardedEvents
    else if deadline - observedNow < quietWindow then
      return .done (.busy discardedEvents)
    else
      let waited ← waitOnce quietWindow
      match waited with
      | .readable => return .again discardedEvents
      | .timedOut => afterQuietWindow discardedEvents

/-- The loop from a count on; without fuel it has no outcome yet. -/
def waitFrom (quietWindow deadline : Nat) :
    Nat → Nat → Handoff ε (Option QuiescentHandoffOutcome)
  | 0, _ => pure none
  | fuel + 1, discardedEvents => do
      let round ← handoffRound quietWindow deadline discardedEvents
      match round with
      | .done outcome => return some outcome
      | .again discardedEvents => waitFrom quietWindow deadline fuel discardedEvents

def waitForQuiescentInput (quietWindow deadline fuel : Nat) :
    Handoff ε (Option QuiescentHandoffOutcome) :=
  waitFrom quietWindow deadline fuel 0

/-! ## What a round did -/

namespace HandoffCall

def error? : HandoffCall ε → Option ε
  | .discardReady (.error e) | .anyKeyPressed (.error e) | .waitOnce _ (.error e) => some e
  | _ => none

def discarded? : HandoffCall ε → Option Nat
  | .discardReady (.ok discarded) => some discarded
  | _ => none

end HandoffCall

/-- The calls of a window that passed without input, from the clock that it was judged by. -/
def quietEnding (quietWindow observedNow : Nat) : List (HandoffCall ε) :=
  [.now observedNow, .anyKeyPressed (.ok false), .waitOnce quietWindow (.ok .timedOut),
   .discardReady (.ok 0), .anyKeyPressed (.ok false), .waitOnce 0 (.ok .timedOut)]

/-- No call failed. -/
def Clean (made : List (HandoffCall ε)) : Prop := ∀ call ∈ made, call.error? = none

/-- The last call failed, as the first one to do so. -/
def FailsWith (e : ε) (made : List (HandoffCall ε)) : Prop :=
  ∃ before call, made = before ++ [call] ∧ Clean before ∧ call.error? = some e

/-- The events that were discarded, added up from a count on. -/
def discardedFrom (discardedEvents : Nat) (made : List (HandoffCall ε)) : Nat :=
  (made.filterMap HandoffCall.discarded?).foldl saturatingAdd discardedEvents

/-- The calls end with a quiet window that could end by the deadline. -/
def EndsQuiet (quietWindow deadline : Nat) (made : List (HandoffCall ε)) : Prop :=
  ∃ before observedNow, made = before ++ quietEnding quietWindow observedNow ∧
    observedNow + quietWindow ≤ deadline

/-- What the calls of a round say about its answer. -/
inductive RoundMade (quietWindow deadline discardedEvents : Nat) (target target' : HandoffTarget ε)
    (made : List (HandoffCall ε)) : Except ε HandoffRound → Prop
  | failed (e : ε) (fails : FailsWith e made) :
      RoundMade quietWindow deadline discardedEvents target target' made (.error e)
  | busy (clean : Clean made) :
      RoundMade quietWindow deadline discardedEvents target target' made
        (.ok (.done (.busy (discardedFrom discardedEvents made))))
  | ready (clean : Clean made) (quiet : EndsQuiet quietWindow deadline made) :
      RoundMade quietWindow deadline discardedEvents target target' made
        (.ok (.done (.ready (discardedFrom discardedEvents made))))
  | again (clean : Clean made) (early : target.clock 0 < deadline)
      (clock : target'.clock = fun n => target.clock (n + 1)) :
      RoundMade quietWindow deadline discardedEvents target target' made
        (.ok (.again (discardedFrom discardedEvents made)))

theorem Clean.nil : Clean ([] : List (HandoffCall ε)) := fun _ h => absurd h List.not_mem_nil

theorem Clean.append {first rest : List (HandoffCall ε)} (h : Clean first) (h' : Clean rest) :
    Clean (first ++ rest) := by
  intro call hcall
  rcases List.mem_append.1 hcall with hcall | hcall
  · exact h call hcall
  · exact h' call hcall

theorem Clean.snoc {made : List (HandoffCall ε)} (h : Clean made) {call : HandoffCall ε}
    (hcall : call.error? = none) : Clean (made ++ [call]) := by
  apply h.append
  intro other hother
  rw [List.mem_singleton.1 hother]
  exact hcall

theorem FailsWith.append {first rest : List (HandoffCall ε)} {e : ε} (h : Clean first)
    (h' : FailsWith e rest) : FailsWith e (first ++ rest) := by
  obtain ⟨before, call, hmade, hclean, hcall⟩ := h'
  exact ⟨first ++ before, call, by rw [hmade, List.append_assoc], h.append hclean, hcall⟩

theorem EndsQuiet.append {quietWindow deadline : Nat} (first : List (HandoffCall ε))
    {rest : List (HandoffCall ε)} (h : EndsQuiet quietWindow deadline rest) :
    EndsQuiet quietWindow deadline (first ++ rest) := by
  obtain ⟨before, observedNow, hmade, hearly⟩ := h
  exact ⟨first ++ before, observedNow, by rw [hmade, List.append_assoc], hearly⟩

theorem discardedFrom_append (discardedEvents : Nat) (first rest : List (HandoffCall ε)) :
    discardedFrom discardedEvents (first ++ rest) =
      discardedFrom (discardedFrom discardedEvents first) rest := by
  rw [discardedFrom, List.filterMap_append, List.foldl_append]
  rfl

theorem discardedFrom_silent (discardedEvents : Nat) (made : List (HandoffCall ε))
    (call : HandoffCall ε) (h : call.discarded? = none) :
    discardedFrom discardedEvents (made ++ [call]) = discardedFrom discardedEvents made := by
  rw [discardedFrom_append, discardedFrom, List.filterMap_cons_none h]
  rfl

section Calls

variable {Q : Except ε HandoffRound → HandoffTarget ε → Prop} {target : HandoffTarget ε}

open Fallible

theorem wp_discardReady {f : Nat → Handoff ε HandoffRound} :
    wp (discardReady >>= f) Q target ↔ match target.discards 0 with
      | .ok discarded => wp (f discarded) Q target.afterDiscard
      | .error e => Q (.error e) target.afterDiscard := by
  rw [wp_bind, discardReady, wp_ofTransition]
  cases target.discards 0 with
  | ok discarded => rfl
  | error e => rfl

theorem wp_now {f : Nat → Handoff ε HandoffRound} :
    wp (now >>= f) Q target ↔ wp (f (target.clock 0)) Q target.afterNow := by
  rw [wp_bind]
  rfl

theorem wp_anyKeyPressed {f : Bool → Handoff ε HandoffRound} :
    wp (anyKeyPressed >>= f) Q target ↔ match target.keys 0 with
      | .ok pressed => wp (f pressed) Q target.afterKeys
      | .error e => Q (.error e) target.afterKeys := by
  rw [wp_bind, anyKeyPressed, wp_ofTransition]
  cases target.keys 0 with
  | ok pressed => rfl
  | error e => rfl

theorem wp_waitOnce {duration : Nat} {f : InputWaitOutcome → Handoff ε HandoffRound} :
    wp (waitOnce duration >>= f) Q target ↔ match target.waits 0 with
      | .ok waited => wp (f waited) Q (target.afterWait duration)
      | .error e => Q (.error e) (target.afterWait duration) := by
  rw [wp_bind, waitOnce, wp_ofTransition]
  cases target.waits 0 with
  | ok waited => rfl
  | error e => rfl

end Calls

/-- The calls from `start` on are `made`. -/
structure Since (start : HandoffTarget ε) (made : List (HandoffCall ε))
    (target : HandoffTarget ε) : Prop where
  calls : target.calls = start.calls ++ made
  clean : Clean made

namespace Since

variable {start target : HandoffTarget ε} {made : List (HandoffCall ε)}

theorem refl (start : HandoffTarget ε) : Since start [] start :=
  ⟨(List.append_nil _).symm, Clean.nil⟩

theorem step (h : Since start made target) {target' : HandoffTarget ε} {call : HandoffCall ε}
    (hcalls : target'.calls = target.calls ++ [call]) (hcall : call.error? = none) :
    Since start (made ++ [call]) target' :=
  ⟨by rw [hcalls, h.calls, List.append_assoc], h.clean.snoc hcall⟩

theorem fail (h : Since start made target) {target' : HandoffTarget ε} {call : HandoffCall ε}
    {e : ε} (hcalls : target'.calls = target.calls ++ [call]) (hcall : call.error? = some e) :
    ∃ made', target'.calls = start.calls ++ made' ∧ FailsWith e made' :=
  ⟨made ++ [call], by rw [hcalls, h.calls, List.append_assoc], made, call, rfl, h.clean, hcall⟩

end Since

/-- What a round answers is what its calls say. -/
def RoundPost (quietWindow deadline discardedEvents : Nat) (start : HandoffTarget ε)
    (r : Except ε HandoffRound) (target : HandoffTarget ε) : Prop :=
  ∃ made, target.calls = start.calls ++ made ∧
    RoundMade quietWindow deadline discardedEvents start target made r

theorem RoundPost.failed {quietWindow deadline discardedEvents : Nat}
    {start target target' : HandoffTarget ε} {made : List (HandoffCall ε)} {e : ε}
    {call : HandoffCall ε} (h : Since start made target)
    (hcalls : target'.calls = target.calls ++ [call]) (hcall : call.error? = some e) :
    RoundPost quietWindow deadline discardedEvents start (.error e) target' := by
  obtain ⟨made', hmade, hfails⟩ := h.fail hcalls hcall
  exact ⟨made', hmade, .failed e hfails⟩

section Rounds

open Fallible

variable {quietWindow deadline discardedEvents : Nat} {start target : HandoffTarget ε}

theorem afterQuietWindow_made {count observedNow : Nat} {before made : List (HandoffCall ε)}
    (hsince : Since start made target) (hcount : discardedFrom discardedEvents made = count)
    (hearly : start.clock 0 < deadline) (hclock : target.clock = fun n => start.clock (n + 1))
    (hmade : made = before ++ [.now observedNow, .anyKeyPressed (.ok false),
      .waitOnce quietWindow (.ok .timedOut)])
    (hfits : observedNow + quietWindow ≤ deadline) :
    wp (afterQuietWindow count) (RoundPost quietWindow deadline discardedEvents start) target := by
  rw [afterQuietWindow, wp_discardReady]
  cases hdiscards : target.discards 0 with
  | error e => exact .failed hsince (HandoffTarget.calls_afterDiscard hdiscards) rfl
  | ok discarded =>
      have hdiscard : Since start (made ++ [.discardReady (.ok discarded)])
          target.afterDiscard := hsince.step (HandoffTarget.calls_afterDiscard hdiscards) rfl
      have hnow : discardedFrom discardedEvents (made ++ [.discardReady (.ok discarded)]) =
          saturatingAdd count discarded := by
        rw [discardedFrom_append, hcount]
        rfl
      dsimp only
      rw [← hnow]
      by_cases hmore : discarded > 0
      · rw [if_pos hmore, wp_pure]
        exact ⟨_, hdiscard.calls, .again hdiscard.clean hearly hclock⟩
      rw [if_neg hmore, wp_anyKeyPressed]
      cases hkeys : target.afterDiscard.keys 0 with
      | error e => exact .failed hdiscard (HandoffTarget.calls_afterKeys hkeys) rfl
      | ok pressed =>
          have hkey : Since start ((made ++ [.discardReady (.ok discarded)]) ++
              [.anyKeyPressed (.ok pressed)]) target.afterDiscard.afterKeys :=
            hdiscard.step (HandoffTarget.calls_afterKeys hkeys) rfl
          dsimp only
          rw [← discardedFrom_silent _ _ (.anyKeyPressed (.ok pressed)) rfl]
          cases pressed with
          | true => exact ⟨_, hkey.calls, .again hkey.clean hearly hclock⟩
          | false =>
              rw [if_neg Bool.false_ne_true, wp_waitOnce]
              cases hwaits : target.afterDiscard.afterKeys.waits 0 with
              | error e => exact .failed hkey (HandoffTarget.calls_afterWait _ hwaits) rfl
              | ok waited =>
                  have hwait : Since start (((made ++ [.discardReady (.ok discarded)]) ++
                      [.anyKeyPressed (.ok false)]) ++ [.waitOnce 0 (.ok waited)])
                      (target.afterDiscard.afterKeys.afterWait 0) :=
                    hkey.step (HandoffTarget.calls_afterWait _ hwaits) rfl
                  dsimp only
                  rw [← discardedFrom_silent _ _ (.waitOnce 0 (.ok waited)) rfl]
                  cases waited with
                  | readable => exact ⟨_, hwait.calls, .again hwait.clean hearly hclock⟩
                  | timedOut =>
                      refine ⟨_, hwait.calls, .ready hwait.clean ⟨before, observedNow, ?_, hfits⟩⟩
                      have hzero : discarded = 0 := by omega
                      rw [hmade, hzero]
                      simp only [quietEnding, List.append_assoc, List.cons_append,
                        List.nil_append]

theorem handoffRound_made (quietWindow deadline discardedEvents : Nat)
    (start : HandoffTarget ε) :
    wp (handoffRound quietWindow deadline discardedEvents)
      (RoundPost quietWindow deadline discardedEvents start) start := by
  have hnone := Since.refl start
  rw [handoffRound, wp_discardReady]
  cases hdiscards : start.discards 0 with
  | error e => exact .failed hnone (HandoffTarget.calls_afterDiscard hdiscards) rfl
  | ok discarded =>
      have hdiscard : Since start ([] ++ [.discardReady (.ok discarded)]) start.afterDiscard :=
        hnone.step (HandoffTarget.calls_afterDiscard hdiscards) rfl
      have hcount : saturatingAdd discardedEvents discarded =
          discardedFrom discardedEvents
            ([] ++ [.discardReady (.ok discarded)] : List (HandoffCall ε)) := rfl
      dsimp only
      rw [wp_now, hcount]
      have hread : Since start (([] ++ [.discardReady (.ok discarded)]) ++
          [.now (start.clock 0)]) start.afterDiscard.afterNow := hdiscard.step rfl rfl
      rw [← discardedFrom_silent _ _ (.now (start.clock 0)) rfl]
      have hclock : start.afterDiscard.clock 0 = start.clock 0 := rfl
      rw [hclock]
      by_cases hlate : start.clock 0 ≥ deadline
      · rw [if_pos hlate]
        exact ⟨_, hread.calls, .busy hread.clean⟩
      have hearly : start.clock 0 < deadline := by omega
      rw [if_neg hlate, wp_anyKeyPressed]
      cases hkeys : start.afterDiscard.afterNow.keys 0 with
      | error e => exact .failed hread (HandoffTarget.calls_afterKeys hkeys) rfl
      | ok pressed =>
          have hkey : Since start ((([] ++ [.discardReady (.ok discarded)]) ++
              [.now (start.clock 0)]) ++ [.anyKeyPressed (.ok pressed)])
              start.afterDiscard.afterNow.afterKeys := hread.step (HandoffTarget.calls_afterKeys hkeys) rfl
          dsimp only
          rw [← discardedFrom_silent _ _ (.anyKeyPressed (.ok pressed)) rfl]
          cases pressed with
          | true =>
              rw [if_pos rfl, wp_waitOnce]
              cases hwaits : start.afterDiscard.afterNow.afterKeys.waits 0 with
              | error e => exact .failed hkey (HandoffTarget.calls_afterWait _ hwaits) rfl
              | ok waited =>
                  have hwait := hkey.step (HandoffTarget.calls_afterWait
                    (min (deadline - start.clock 0) quietWindow) hwaits) rfl
                  rw [← discardedFrom_silent _ _
                    (.waitOnce (min (deadline - start.clock 0) quietWindow) (.ok waited)) rfl]
                  exact ⟨_, hwait.calls, .again hwait.clean hearly rfl⟩
          | false =>
              rw [if_neg Bool.false_ne_true]
              by_cases hshort : deadline - start.clock 0 < quietWindow
              · rw [if_pos hshort]
                exact ⟨_, hkey.calls, .busy hkey.clean⟩
              rw [if_neg hshort, wp_waitOnce]
              cases hwaits : start.afterDiscard.afterNow.afterKeys.waits 0 with
              | error e => exact .failed hkey (HandoffTarget.calls_afterWait _ hwaits) rfl
              | ok waited =>
                  have hwait := hkey.step
                    (HandoffTarget.calls_afterWait quietWindow hwaits) rfl
                  rw [← discardedFrom_silent _ _ (.waitOnce quietWindow (.ok waited)) rfl]
                  cases waited with
                  | readable => exact ⟨_, hwait.calls, .again hwait.clean hearly rfl⟩
                  | timedOut =>
                      have hfits : start.clock 0 + quietWindow ≤ deadline := by omega
                      exact afterQuietWindow_made hwait rfl hearly rfl
                        (show _ = [.discardReady (.ok discarded)] ++ _ from rfl) hfits

end Rounds

/-! ## Runs of the loop -/

/-- What the calls say about the end of the loop, or about its rounds so far. -/
inductive LoopMade (quietWindow deadline discardedEvents : Nat) (made : List (HandoffCall ε)) :
    Except ε (Option QuiescentHandoffOutcome) → Prop
  | failed (e : ε) (fails : FailsWith e made) :
      LoopMade quietWindow deadline discardedEvents made (.error e)
  | unfinished (clean : Clean made) :
      LoopMade quietWindow deadline discardedEvents made (.ok none)
  | busy (clean : Clean made) :
      LoopMade quietWindow deadline discardedEvents made
        (.ok (some (.busy (discardedFrom discardedEvents made))))
  | ready (clean : Clean made) (quiet : EndsQuiet quietWindow deadline made) :
      LoopMade quietWindow deadline discardedEvents made
        (.ok (some (.ready (discardedFrom discardedEvents made))))

section Runs

open Fallible

variable {quietWindow deadline : Nat}

/-- Calls of earlier rounds, none of which failed, come before those of the rest. -/
theorem LoopMade.after {discardedEvents : Nat} {first rest : List (HandoffCall ε)}
    {r : Except ε (Option QuiescentHandoffOutcome)} (hclean : Clean first)
    (h : LoopMade quietWindow deadline (discardedFrom discardedEvents first) rest r) :
    LoopMade quietWindow deadline discardedEvents (first ++ rest) r := by
  cases h with
  | failed e fails => exact .failed e (FailsWith.append hclean fails)
  | unfinished clean => exact .unfinished (hclean.append clean)
  | busy clean =>
      rw [← discardedFrom_append]
      exact .busy (hclean.append clean)
  | ready clean quiet =>
      rw [← discardedFrom_append]
      exact .ready (hclean.append clean) (quiet.append first)

theorem waitFrom_made (quietWindow deadline fuel discardedEvents : Nat)
    (target : HandoffTarget ε) :
    wp (waitFrom quietWindow deadline fuel discardedEvents) (fun r target' =>
      ∃ made, target'.calls = target.calls ++ made ∧
        LoopMade quietWindow deadline discardedEvents made r) target := by
  induction fuel generalizing discardedEvents target with
  | zero => exact ⟨[], (List.append_nil _).symm, .unfinished Clean.nil⟩
  | succ fuel ih =>
      rw [waitFrom, wp_bind]
      apply wp_mono (handoffRound_made quietWindow deadline discardedEvents target)
      intro r target' hround
      obtain ⟨made, hcalls, hmade⟩ := hround
      cases hmade with
      | failed e fails => exact ⟨made, hcalls, .failed e fails⟩
      | busy clean => exact ⟨made, hcalls, .busy clean⟩
      | ready clean quiet => exact ⟨made, hcalls, .ready clean quiet⟩
      | again clean early clock =>
          dsimp only
          apply wp_mono (ih (discardedFrom discardedEvents made) target')
          intro r' target'' hrest
          obtain ⟨rest, hrest, hloop⟩ := hrest
          exact ⟨made ++ rest, by rw [hrest, hcalls, List.append_assoc], hloop.after clean⟩

/-- The loop ends in the round whose clock has reached the deadline, at the latest. -/
theorem waitFrom_finishes {n fuel : Nat} (quietWindow discardedEvents : Nat)
    {target : HandoffTarget ε}
    (hdeadline : deadline ≤ target.clock n) (hfuel : n < fuel) :
    (outcome (waitFrom quietWindow deadline fuel discardedEvents) target).1 ≠ .ok none := by
  induction n generalizing fuel discardedEvents target with
  | zero =>
      obtain ⟨fuel, rfl⟩ : ∃ rest, fuel = rest + 1 := ⟨fuel - 1, by omega⟩
      have hround := handoffRound_made quietWindow deadline discardedEvents target
      rw [waitFrom, outcome_bind]
      unfold wp RoundPost at hround
      obtain ⟨made, _, hmade⟩ := hround
      generalize outcome (handoffRound quietWindow deadline discardedEvents) target = answer
        at hmade ⊢
      obtain ⟨r, target'⟩ := answer
      cases hmade with
      | failed e fails => exact fun h => by cases h
      | busy clean => exact fun h => by cases h
      | ready clean quiet => exact fun h => by cases h
      | again clean early clock => omega
  | succ n ih =>
      obtain ⟨fuel, rfl⟩ : ∃ rest, fuel = rest + 1 := ⟨fuel - 1, by omega⟩
      have hround := handoffRound_made quietWindow deadline discardedEvents target
      rw [waitFrom, outcome_bind]
      unfold wp RoundPost at hround
      obtain ⟨made, _, hmade⟩ := hround
      generalize outcome (handoffRound quietWindow deadline discardedEvents) target = answer
        at hmade ⊢
      obtain ⟨r, target'⟩ := answer
      cases hmade with
      | failed e fails => exact fun h => by cases h
      | busy clean => exact fun h => by cases h
      | ready clean quiet => exact fun h => by cases h
      | again clean early clock =>
          have hlater : deadline ≤ target'.clock n := by
            rw [show target'.clock = _ from clock]
            exact hdeadline
          exact ih _ hlater (by omega)

/-- More fuel changes nothing once the loop has ended. -/
theorem waitFrom_fuel {fuel : Nat} (discardedEvents : Nat) {target : HandoffTarget ε}
    (h : (outcome (waitFrom quietWindow deadline fuel discardedEvents) target).1 ≠ .ok none)
    (more : Nat) :
    outcome (waitFrom quietWindow deadline (fuel + more) discardedEvents) target =
      outcome (waitFrom quietWindow deadline fuel discardedEvents) target := by
  induction fuel generalizing discardedEvents target with
  | zero => exact absurd rfl h
  | succ fuel ih =>
      rw [Nat.add_right_comm, waitFrom, waitFrom, outcome_bind, outcome_bind]
      rw [waitFrom, outcome_bind] at h
      generalize outcome (handoffRound quietWindow deadline discardedEvents) target = answer at h ⊢
      obtain ⟨r, target'⟩ := answer
      cases r with
      | error e => rfl
      | ok round =>
          cases round with
          | done result => rfl
          | again discardedEvents => exact ih discardedEvents h

theorem foldl_saturatingAdd (discardedEvents : Nat) (counts : List Nat) :
    counts.foldl saturatingAdd (min discardedEvents counterMax) =
      min (discardedEvents + counts.sum) counterMax := by
  induction counts generalizing discardedEvents with
  | nil => rfl
  | cons count counts ih =>
      have hstep : saturatingAdd (min discardedEvents counterMax) count =
          min (discardedEvents + count) counterMax := by
        unfold saturatingAdd
        omega
      rw [List.foldl_cons, hstep, ih, List.sum_cons]
      omega

/-- All the events that the calls discarded. -/
def discardedEvents (made : List (HandoffCall ε)) : Nat :=
  min (made.filterMap HandoffCall.discarded?).sum counterMax

/-- The end of a handoff, by the calls it made. -/
def HandoffEnds (quietWindow deadline : Nat) (made : List (HandoffCall ε)) :
    Except ε QuiescentHandoffOutcome → Prop
  | .ok (.ready count) =>
      Clean made ∧ count = discardedEvents made ∧ EndsQuiet quietWindow deadline made
  | .ok (.busy count) => Clean made ∧ count = discardedEvents made
  | .error e => FailsWith e made

/-- The handoff ends, and is ready only after a window without any input. -/
theorem waitForQuiescentInput_ends (target : HandoffTarget ε) (quietWindow deadline : Nat)
    (hdeadline : ∃ n, deadline ≤ target.clock n) :
    ∃ fuel target' made, ∃ result : Except ε QuiescentHandoffOutcome,
      (∀ enough, fuel ≤ enough →
        outcome (waitForQuiescentInput quietWindow deadline enough) target =
          (result.map some, target')) ∧
      target'.calls = target.calls ++ made ∧
      HandoffEnds quietWindow deadline made result := by
  obtain ⟨n, hdeadline⟩ := hdeadline
  have hfinished := waitFrom_finishes quietWindow 0 hdeadline (Nat.lt_succ_self n)
  have hmade := waitFrom_made quietWindow deadline (n + 1) 0 target
  have hcount : ∀ made : List (HandoffCall ε), discardedFrom 0 made = discardedEvents made := by
    intro made
    have hsum := foldl_saturatingAdd 0 (made.filterMap HandoffCall.discarded?)
    rw [Nat.zero_min, Nat.zero_add] at hsum
    exact hsum
  have henough : ∀ enough, n + 1 ≤ enough →
      outcome (waitForQuiescentInput quietWindow deadline enough) target =
        outcome (waitFrom quietWindow deadline (n + 1) 0) target := by
    intro enough hle
    obtain ⟨more, rfl⟩ := Nat.exists_eq_add_of_le hle
    exact waitFrom_fuel 0 hfinished more
  unfold wp at hmade
  obtain ⟨made, hcalls, hloop⟩ := hmade
  generalize outcome (waitFrom quietWindow deadline (n + 1) 0) target = answer
    at hfinished hloop hcalls henough
  obtain ⟨r, target'⟩ := answer
  cases hloop with
  | failed e fails => exact ⟨n + 1, target', made, .error e, henough, hcalls, fails⟩
  | unfinished clean => exact absurd rfl hfinished
  | busy clean =>
      exact ⟨n + 1, target', made, .ok (.busy (discardedFrom 0 made)), henough, hcalls, clean,
        hcount made⟩
  | ready clean quiet =>
      exact ⟨n + 1, target', made, .ok (.ready (discardedFrom 0 made)), henough, hcalls, clean,
        hcount made, quiet⟩

/-- A keyboard that nobody touches. -/
def quietKeyboard : HandoffTarget Unit where
  clock n := 10 * n
  discards _ := .ok 0
  keys _ := .ok false
  waits _ := .ok .timedOut

theorem waitForQuiescentInput_ends_quietKeyboard :
    ∃ fuel target' made, ∃ result : Except Unit QuiescentHandoffOutcome,
      (∀ enough, fuel ≤ enough →
        outcome (waitForQuiescentInput 50 100 enough) quietKeyboard = (result.map some, target')) ∧
      target'.calls = quietKeyboard.calls ++ made ∧ HandoffEnds 50 100 made result :=
  waitForQuiescentInput_ends quietKeyboard 50 100 ⟨10, by decide⟩

end Runs

end OpenSwitcher.Capture
