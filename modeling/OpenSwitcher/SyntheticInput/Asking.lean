import OpenSwitcher.SyntheticInput.Frames
/-!
# What an operation asks its sink for

The keys an operation asks for, in order, are settled by what it is told to type and
by the modifiers it took out of the way, whatever the sink answers and wherever the
operation is cut off.
-/

namespace OpenSwitcher.SyntheticInput

open Library Fallible

/-! ## Asks -/

/-- The keys the sink was asked for, the first one first, each with the token it was answered. -/
def asksOf {τ : Type} (calls : List (SinkCall τ)) : List (Key × Option τ) :=
  calls.reverse.filterMap fun
    | .prepareDown key answer => some (key, answer.toOption)
    | _ => none

/-- The asks of an operation, the stock that its sink answers them from, and the modifiers it
released. -/
@[ext] structure Asking (ρ τ : Type) where
  asks : List (Key × Option τ)
  stock : ρ
  released : List Key

namespace Asking

variable {ρ τ : Type} (next : Key → ρ → Option τ × ρ)

def keys (a : Asking ρ τ) : List Key := a.asks.map Prod.fst

def ask (a : Asking ρ τ) (key : Key) : Asking ρ τ :=
  { a with asks := a.asks ++ [(key, (next key a.stock).1)], stock := (next key a.stock).2 }

def askAll (a : Asking ρ τ) (keys : List Key) : Asking ρ τ := keys.foldl (ask next) a

/-- Every one of the asks is answered by a token. -/
def Answered : List Key → Asking ρ τ → Prop
  | [], _ => True
  | key :: keys, a => (next key a.stock).1.isSome ∧ Answered keys (a.ask next key)

/-- The modifiers count as released. -/
def release (a : Asking ρ τ) (keys : List Key) : Asking ρ τ :=
  { a with released := a.released ++ keys }

variable {next}

@[simp] theorem askAll_nil (a : Asking ρ τ) : a.askAll next [] = a := rfl

theorem askAll_append (a : Asking ρ τ) (keys keys' : List Key) :
    a.askAll next (keys ++ keys') = (a.askAll next keys).askAll next keys' :=
  List.foldl_append

theorem answered_append (a : Asking ρ τ) (keys keys' : List Key) :
    Answered next (keys ++ keys') a ↔
      Answered next keys a ∧ Answered next keys' (a.askAll next keys) := by
  induction keys generalizing a with
  | nil => simp [Answered]
  | cons key keys ih =>
      have htail := ih (a.ask next key)
      rw [List.cons_append, Answered, Answered, htail, and_assoc]
      rfl

@[simp] theorem released_askAll (a : Asking ρ τ) (keys : List Key) :
    (a.askAll next keys).released = a.released := by
  induction keys generalizing a with
  | nil => rfl
  | cons key keys ih => exact ih (a.ask next key)

theorem keys_askAll (a : Asking ρ τ) (keys : List Key) :
    (a.askAll next keys).keys = a.keys ++ keys := by
  induction keys generalizing a with
  | nil => simp
  | cons key keys ih =>
      have htail : (a.askAll next (key :: keys)).keys = (a.ask next key).keys ++ keys :=
        ih (a.ask next key)
      rw [htail, Asking.keys, ask, List.map_append, List.append_assoc]
      rfl

theorem asks_extend (a : Asking ρ τ) (keys : List Key) :
    a.asks <+: (a.askAll next keys).asks := by
  induction keys generalizing a with
  | nil => exact List.prefix_rfl
  | cons key keys ih => exact (List.prefix_append _ _).trans (ih (a.ask next key))

@[simp] theorem release_nil (a : Asking ρ τ) : a.release [] = a := by
  simp [release]

@[simp] theorem asks_release (a : Asking ρ τ) (keys : List Key) :
    (a.release keys).asks = a.asks := rfl

@[simp] theorem stock_release (a : Asking ρ τ) (keys : List Key) :
    (a.release keys).stock = a.stock := rfl

@[simp] theorem released_release (a : Asking ρ τ) (keys : List Key) :
    (a.release keys).released = a.released ++ keys := rfl

theorem release_append (a : Asking ρ τ) (keys keys' : List Key) :
    (a.release keys).release keys' = a.release (keys ++ keys') := by
  simp [release]

/-- What is asked for does not depend on what was released. -/
theorem askAll_release (a : Asking ρ τ) (keys released : List Key) :
    (a.release released).askAll next keys = (a.askAll next keys).release released := by
  induction keys generalizing a with
  | nil => rfl
  | cons key keys ih => exact ih (a.ask next key)

theorem answered_release (a : Asking ρ τ) (keys released : List Key) :
    Answered next keys (a.release released) ↔ Answered next keys a := by
  induction keys generalizing a with
  | nil => rfl
  | cons key keys ih => exact and_congr_right fun _ => ih (a.ask next key)

end Asking

variable {ω τ ρ α β : Type}

def asking (stock : ω → ρ) (s : OperationState ω τ) : Asking ρ τ where
  asks := asksOf s.sinkCalls
  stock := stock s.world
  released := s.operation.restorePlan.temporarilyReleased

/-- The sink answers its asks from the stock, which nothing else touches. -/
structure Stocked (stock : ω → ρ) (next : Key → ρ → Option τ × ρ) (env : Surroundings ω τ) :
    Prop where
  prepareDown : ∀ key world, ((env.sink.prepareDown key world).1.toOption,
    stock (env.sink.prepareDown key world).2) = next key (stock world)
  attemptDown : ∀ token, Leaves stock (env.sink.attemptDown token)
  attemptUp : ∀ token, Leaves stock (env.sink.attemptUp token)
  synchronize : Leaves stock env.sink.synchronize
  terminalProof : ∀ remaining, Leaves stock (env.sink.terminalProof remaining)
  control : env.control.Leaves stock

/-- The target does not touch the stock. -/
structure RestoredModifierTarget.Leaves (stock : ω → ρ) (target : RestoredModifierTarget ω τ) :
    Prop where
  beginRestore : ∀ key, SyntheticInput.Leaves stock (target.beginRestore key)
  adoptRestored : ∀ key token, SyntheticInput.Leaves stock (target.adoptRestored key token)

/-- The writer's control does not touch the stock. -/
structure WriterControl.Leaves (stock : ω → ρ) (control : WriterControl ω) : Prop where
  authorizeMutationStart : SyntheticInput.Leaves stock control.authorizeMutationStart
  ensureActive : SyntheticInput.Leaves stock control.ensureActive
  sleepInterruptibly : SyntheticInput.Leaves stock control.sleepInterruptibly

/-! ## Programs that ask for nothing -/

/-- A program that asks for nothing and releases no modifier. -/
abbrev Asks.Nothing (stock : ω → ρ) (m : Operation ω τ α) : Prop := Quiet (asking stock) m

namespace Asks.Nothing

variable {stock : ω → ρ}

theorem transitive : IsTrans (OperationState ω τ) fun s s' => asking stock s' = asking stock s :=
  Quiet.trans (asking stock)

theorem reflexive : Std.Refl fun s s' : OperationState ω τ => asking stock s' = asking stock s :=
  Quiet.refl (asking stock)

theorem pure (a : α) : Asks.Nothing stock (Pure.pure a : Operation ω τ α) :=
  Keeps.pure reflexive a

theorem ofExcept (r : Except Interruption α) :
    Asks.Nothing stock (Fallible.ofExcept r : Operation ω τ α) :=
  Keeps.ofExcept reflexive r

theorem read (f : OperationState ω τ → α) :
    Asks.Nothing stock (Fallible.read f : Operation ω τ α) :=
  Keeps.read reflexive f

theorem throw (error : Interruption) :
    Asks.Nothing stock (MonadExcept.throw error : Operation ω τ α) :=
  Keeps.throw reflexive error

theorem bind {m : Operation ω τ β} {f : β → Operation ω τ α} (hm : Asks.Nothing stock m)
    (hf : ∀ b, Asks.Nothing stock (f b)) : Asks.Nothing stock (m >>= f) :=
  Keeps.bind transitive hm hf

theorem attempt {m : Operation ω τ α} (hm : Asks.Nothing stock m) :
    Asks.Nothing stock (Fallible.attempt m) :=
  Keeps.attempt hm

theorem onWorld {f : ω → Except SwitcherError α × ω} (h : Leaves stock f) :
    Asks.Nothing stock (SyntheticInput.onWorld f : Operation ω τ α) := by
  intro s
  have hstock := h s.world
  show asking stock { s with world := (f s.world).2 } = asking stock s
  unfold asking
  rw [hstock]

/-- A call to the sink that is no ask. -/
theorem onSink {f : ω → Except SwitcherError α × ω} {call : Except SwitcherError α → SinkCall τ}
    (h : Leaves stock f) (hcall : ∀ answer calls, asksOf (call answer :: calls) = asksOf calls) :
    Asks.Nothing stock (SyntheticInput.onSink f call) := by
  intro s
  have hstock := h s.world
  show asking stock { s with
    world := (f s.world).2, sinkCalls := call (f s.world).1 :: s.sinkCalls } = asking stock s
  unfold asking
  rw [hstock, hcall]

theorem onLedger (f : SyntheticKeyLedger τ → Except SwitcherError (α × SyntheticKeyLedger τ)) :
    Asks.Nothing stock (SyntheticInput.onLedger f : Operation ω τ α) := by
  intro s
  unfold SyntheticInput.onLedger
  rw [wp_ofTransition]
  split
  · rfl
  · rfl

theorem onLedgerUnit
    (f : SyntheticKeyLedger τ → Except SwitcherError (SyntheticKeyLedger τ)) :
    Asks.Nothing stock (SyntheticInput.onLedgerUnit f : Operation ω τ Unit) :=
  onLedger _

theorem onTarget {f : ω → TargetReply × ω} (h : Leaves stock f) :
    Asks.Nothing stock (SyntheticInput.onTarget f : Operation ω τ Unit) := by
  intro s
  exact Asking.ext rfl (h s.world) rfl

/-- An update of the operation that leaves its restore plan alone. -/
theorem updateOperation {f : SyntheticOperation τ → SyntheticOperation τ}
    (h : ∀ operation, (f operation).restorePlan = operation.restorePlan) :
    Asks.Nothing stock (.update fun s => { s with operation := f s.operation } :
      Operation ω τ Unit) := by
  intro s
  exact Asking.ext rfl rfl (congrArg PhysicalRestorePlan.temporarilyReleased (h s.operation))

theorem onControl {control : Option (WriterControl ω)}
    {f : WriterControl ω → ω → Except SwitcherError Unit × ω}
    (h : ∀ writer, control = some writer → Leaves stock (f writer)) :
    Asks.Nothing stock (SyntheticInput.onControl control f : Operation ω τ Unit) :=
  Quiet.onControl control fun writer heq => onWorld (h writer heq)

end Asks.Nothing

section Operations

variable {stock : ω → ρ} {next : Key → ρ → Option τ × ρ} {env : Surroundings ω τ}
  {target : RestoredModifierTarget ω τ} {control : Option (WriterControl ω)}

namespace SyntheticOperation

/-! ### Checks and calls -/

section Calls

variable (h : Stocked stock next env)

include h

theorem nothing_ensureActive : Asks.Nothing stock (ensureActive env) :=
  (Asks.Nothing.read _).bind fun id => .onWorld (h.control.ensureActive id)

theorem nothing_ensureCleanupActive : Asks.Nothing stock (ensureCleanupActive env) :=
  (Asks.Nothing.read _).bind fun id => .onWorld (h.control.ensureCleanupActive id)

theorem nothing_attemptDown (pressId : PressId) (token : τ) :
    Asks.Nothing stock (attemptDown env pressId token) :=
  .onSink (h.attemptDown token) fun answer calls => by simp [asksOf]

theorem nothing_attemptUp (pressId : Option PressId) (token : τ) :
    Asks.Nothing stock (attemptUp env pressId token) :=
  .onSink (h.attemptUp token) fun answer calls => by simp [asksOf]

theorem nothing_synchronize : Asks.Nothing stock (synchronize env) :=
  .onSink h.synchronize fun answer calls => by simp [asksOf]

theorem nothing_terminalProof (remaining : Nat) :
    Asks.Nothing stock (terminalProof env remaining) := by
  intro s
  have hasks : asksOf (.terminalProof remaining (env.sink.terminalProof remaining s.world).1 ::
      s.sinkCalls) = asksOf s.sinkCalls := by
    simp [asksOf]
  exact Asking.ext hasks (h.terminalProof remaining s.world) rfl

theorem nothing_checkControl (controlError : Option SwitcherError) :
    Asks.Nothing stock (checkControl env controlError) := by
  unfold checkControl
  split
  · exact .pure _
  · exact (nothing_ensureActive h).attempt.bind fun _ => .pure _

omit h in
theorem nothing_acknowledgeUpWhen (up : Bool) (pressId : PressId) :
    Asks.Nothing stock (acknowledgeUpWhen up pressId : Operation ω τ Unit) := by
  unfold acknowledgeUpWhen
  split
  · exact .onLedgerUnit _
  · exact .pure _

/-! ### Releases -/

theorem nothing_release (pressId : PressId) : Asks.Nothing stock (release env pressId) := by
  unfold release
  apply (Asks.Nothing.onLedger _).bind
  intro token
  apply (nothing_checkControl h none).bind
  intro controlError
  apply (nothing_attemptUp h (some pressId) token).attempt.bind
  intro releaseResult
  apply (nothing_checkControl h controlError).bind
  intro controlError
  apply (nothing_synchronize h).attempt.bind
  intro synchronizeResult
  apply (nothing_checkControl h controlError).bind
  intro controlError
  apply (nothing_acknowledgeUpWhen _ pressId).bind
  intro _
  apply (Asks.Nothing.ofExcept releaseResult).bind
  intro _
  apply (Asks.Nothing.ofExcept synchronizeResult).bind
  intro _
  cases controlError with
  | none => exact .pure _
  | some error => exact .throw _

theorem nothing_releasePresses (pressed : List PressId) (firstError : Option Interruption) :
    Asks.Nothing stock (releasePresses env pressed firstError) := by
  induction pressed generalizing firstError with
  | nil => exact .ofExcept _
  | cons pressId pressed ih => exact (nothing_release h pressId).attempt.bind fun _ => ih _

/-! ### Cleanup -/

theorem nothing_bringUp (firstError : Option SwitcherError) (pressId : PressId) (token : τ) :
    Asks.Nothing stock (bringUp env firstError pressId token) :=
  (nothing_attemptUp h (some pressId) token).attempt.bind fun _ =>
    (nothing_synchronize h).attempt.bind fun _ => .pure _

theorem nothing_releaseDebts (debts : List (SyntheticDebt τ)) (firstError : Option SwitcherError) :
    Asks.Nothing stock (releaseDebts env debts firstError) := by
  induction debts generalizing firstError with
  | nil => exact .pure _
  | cons debt debts ih =>
      apply (nothing_bringUp h firstError debt.pressId debt.token).bind
      intro answer
      exact (nothing_acknowledgeUpWhen answer.1 debt.pressId).attempt.bind fun _ => ih answer.2

theorem nothing_drainPending (pending retained : List (PendingTransfer τ))
    (firstError : Option SwitcherError) :
    Asks.Nothing stock (drainPending env pending retained firstError) := by
  induction pending generalizing retained firstError with
  | nil => exact .pure _
  | cons transfer pending ih =>
      apply (nothing_bringUp h firstError transfer.pressId transfer.token).bind
      intro answer
      exact ih _ answer.2

omit h in
theorem nothing_setFallback (fallback : List (PendingTransfer τ)) :
    Asks.Nothing stock (setFallback fallback : Operation ω τ Unit) :=
  .updateOperation fun _ => rfl

theorem nothing_drainReleaseOnlyFallback : Asks.Nothing stock (drainReleaseOnlyFallback env) := by
  unfold drainReleaseOnlyFallback
  apply (Asks.Nothing.read _).bind
  intro pending
  apply (nothing_setFallback []).bind
  intro _
  apply (nothing_drainPending h pending.reverse [] none).bind
  intro answer
  apply (Asks.Nothing.read _).bind
  intro fallback
  exact (nothing_setFallback (fallback ++ answer.1)).bind fun _ => .pure _

theorem nothing_cleanUp (cleanup : Option SwitcherError) :
    Asks.Nothing stock (cleanUp env cleanup) := by
  unfold cleanUp
  apply Asks.Nothing.bind
  · exact (Asks.Nothing.read _).bind fun debts => nothing_releaseDebts h debts none
  intro released
  apply (nothing_drainReleaseOnlyFallback h).bind
  intro drained
  apply (nothing_synchronize h).attempt.bind
  intro synchronized
  apply (Asks.Nothing.read _).bind
  intro remaining
  exact (nothing_terminalProof h remaining).bind fun _ => .pure _

omit h in
theorem nothing_beginTerminal : Asks.Nothing stock (beginTerminal : Operation ω τ Unit) :=
  .updateOperation fun _ => rfl

omit h in
theorem nothing_setFinalized : Asks.Nothing stock (setFinalized : Operation ω τ Unit) :=
  .updateOperation fun _ => rfl

omit h in
theorem nothing_fail (report : DropCleanupReport) :
    Asks.Nothing stock (fail report : Operation ω τ Unit) :=
  .updateOperation fun _ => rfl

omit h in
theorem nothing_conclude (failed : Bool) (proof : TerminalProof) :
    Asks.Nothing stock (conclude failed proof : Operation ω τ Unit) := by
  intro s
  cases failed <;> rfl

theorem nothing_finishHardFailure (primary : SwitcherError) :
    Asks.Nothing stock (finishHardFailure env primary) := by
  unfold finishHardFailure
  apply nothing_beginTerminal.bind
  intro _
  apply (nothing_cleanUp h none).bind
  intro answer
  exact (nothing_conclude _ answer.2).bind fun _ => .pure _

theorem nothing_reportedOutcome (requested : OperationOutcome) (clean : Bool) :
    Asks.Nothing stock (reportedOutcome env requested clean) := by
  unfold reportedOutcome
  split
  · exact .pure _
  · split
    · refine Asks.Nothing.bind (.onWorld ?_) fun _ => .pure _
      exact h.control.cancelled
    · exact .pure _

theorem nothing_drop : Asks.Nothing stock (drop env) := by
  unfold drop
  apply (Asks.Nothing.read _).bind
  intro finalized
  split
  · exact .pure _
  · apply nothing_beginTerminal.bind
    intro _
    apply (nothing_cleanUp h none).attempt.bind
    intro cleanup
    apply (Asks.Nothing.read _).bind
    intro operation
    exact (nothing_fail _).bind fun _ => nothing_setFinalized

end Calls

end SyntheticOperation

end Operations

/-! ## Programs that ask for keys -/

section Rules

variable {stock : ω → ρ} {next : Key → ρ → Option τ × ρ}

/-- The program asks for these keys in order: for as many as it comes to, and for all of them,
each answered by a token, if it succeeds. -/
def Asks (stock : ω → ρ) (next : Key → ρ → Option τ × ρ) (keys : List Key)
    (m : Operation ω τ α) : Prop :=
  ∀ a : Asking ρ τ, Triple (asking stock · = a) m fun r s =>
    ∃ n ≤ keys.length, asking stock s = a.askAll next (keys.take n) ∧
      (r.isOk = true → n = keys.length ∧ Asking.Answered next keys a)

/-- The program fails, and asks for nothing. -/
structure Asks.Fails (stock : ω → ρ) (m : Operation ω τ α) : Prop where
  nothing : Asks.Nothing stock m
  fails : ∀ s, (outcome m s).1.isOk = false

namespace Asks

theorem Fails.throw (error : Interruption) :
    Fails stock (MonadExcept.throw error : Operation ω τ α) :=
  ⟨.throw error, fun _ => rfl⟩

theorem Fails.ofExcept (error : Interruption) :
    Fails stock (Fallible.ofExcept (.error error) : Operation ω τ α) :=
  ⟨.ofExcept _, fun _ => rfl⟩

theorem Fails.after {m : Operation ω τ β} {f : β → Operation ω τ α} (hm : Nothing stock m)
    (hf : ∀ b, Fails stock (f b)) : Fails stock (m >>= f) := by
  refine ⟨hm.bind fun b => (hf b).nothing, fun s => ?_⟩
  rw [outcome_bind]
  cases outcome m s with
  | mk r s' =>
      cases r with
      | error error => rfl
      | ok b => exact (hf b).fails s'

variable {keys keys' : List Key}

theorem of_nothing {m : Operation ω τ α} (hm : Nothing stock m) : Asks stock next [] m := by
  intro a s hs
  have hkept : asking stock (outcome m s).2 = a := (hm s).trans hs
  exact ⟨0, Nat.le_refl 0, hkept, fun _ => ⟨rfl, trivial⟩⟩

theorem bind {m : Operation ω τ β} {f : β → Operation ω τ α} (hm : Asks stock next keys m)
    (hf : ∀ b, Asks stock next keys' (f b)) : Asks stock next (keys ++ keys') (m >>= f) := by
  intro a s hs
  rw [wp_bind]
  refine wp_mono (hm a s hs) fun r s' h => ?_
  obtain ⟨n, hn, hasked, hall⟩ := h
  cases r with
  | error error =>
      refine ⟨n, ?_, ?_, fun hok => absurd hok Bool.false_ne_true⟩
      · rw [List.length_append]
        omega
      · rw [List.take_append_of_le_length hn]
        exact hasked
  | ok b =>
      obtain ⟨rfl, hanswered⟩ := hall rfl
      rw [List.take_length] at hasked
      refine wp_mono (hf b _ s' hasked) fun r s'' h => ?_
      obtain ⟨m, hm, hasked', hall'⟩ := h
      refine ⟨keys.length + m, ?_, ?_, fun hok => ?_⟩
      · rw [List.length_append]
        omega
      · rw [List.take_length_add_append, Asking.askAll_append]
        exact hasked'
      · obtain ⟨rfl, hanswered'⟩ := hall' hok
        exact ⟨List.length_append.symm, (Asking.answered_append a keys keys').2
          ⟨hanswered, hanswered'⟩⟩

/-- Going on after a program that asks for nothing. -/
theorem after {m : Operation ω τ β} {f : β → Operation ω τ α} (hm : Nothing stock m)
    (hf : ∀ b, Asks stock next keys (f b)) : Asks stock next keys (m >>= f) :=
  (of_nothing hm).bind hf

/-- Going on with a program that asks for nothing. -/
theorem andThen {m : Operation ω τ β} {f : β → Operation ω τ α} (hm : Asks stock next keys m)
    (hf : ∀ b, Nothing stock (f b)) : Asks stock next keys (m >>= f) := by
  have hbind := hm.bind fun b => of_nothing (hf b)
  rw [List.append_nil] at hbind
  exact hbind

/-- What a program failed with is looked at, and ends the next one as well. -/
theorem attempt_bind {m : Operation ω τ β} {g : Except Interruption β → Operation ω τ α}
    (hm : Asks stock next keys m) (hg : ∀ b, Asks stock next keys' (g (.ok b)))
    (hfails : ∀ error, Fails stock (g (.error error))) :
    Asks stock next (keys ++ keys') (attempt m >>= g) := by
  intro a s hs
  rw [wp_bind, wp_attempt]
  have hsequence := (hm.bind hg) a s hs
  rw [wp_bind] at hsequence
  cases hm' : outcome m s with
  | mk r s' =>
      unfold wp at hsequence ⊢
      rw [hm'] at hsequence ⊢
      cases r with
      | ok b => exact hsequence
      | error error =>
          obtain ⟨n, hn, hasked, _⟩ := hsequence
          have hfailed := hfails error
          refine ⟨n, hn, (hfailed.nothing s').trans hasked, fun hok => ?_⟩
          have hnot := hfailed.fails s'
          exact absurd hok (by rw [hnot]; exact Bool.false_ne_true)

end Asks

/-- The program notes one released modifier, or fails before it does. -/
def Records (stock : ω → ρ) (key : Key) (m : Operation ω τ α) : Prop :=
  ∀ a : Asking ρ τ, Triple (asking stock · = a) m fun r s =>
    (asking stock s = a ∧ r.isOk = false) ∨ asking stock s = a.release [key]

namespace Records

variable {key : Key}

theorem after {m : Operation ω τ β} {f : β → Operation ω τ α} (hm : Asks.Nothing stock m)
    (hf : ∀ b, Records stock key (f b)) : Records stock key (m >>= f) := by
  intro a s hs
  rw [wp_bind]
  refine wp_mono (hm s) fun r s' hkept => ?_
  cases r with
  | error error => exact .inl ⟨hkept.trans hs, rfl⟩
  | ok b => exact hf b a s' (hkept.trans hs)

theorem andThen {m : Operation ω τ β} {f : β → Operation ω τ α} (hm : Records stock key m)
    (hf : ∀ b, Asks.Nothing stock (f b)) : Records stock key (m >>= f) := by
  intro a s hs
  rw [wp_bind]
  refine wp_mono (hm a s hs) fun r s' hrecorded => ?_
  cases r with
  | error error => exact hrecorded
  | ok b =>
      have hreleased := hrecorded.resolve_left fun hnot => Bool.false_ne_true hnot.2.symm
      exact .inr ((hf b s').trans hreleased)

end Records

/-- The program asks for these keys in order and notes each as released, the last one perhaps
not; it succeeds only when it did so for all of them. -/
def Releases (stock : ω → ρ) (next : Key → ρ → Option τ × ρ) (keys : List Key)
    (m : Operation ω τ α) : Prop :=
  ∀ a : Asking ρ τ, Triple (asking stock · = a) m fun r s =>
    ∃ n ≤ keys.length, ∃ k ≤ n, n ≤ k + 1 ∧
      asking stock s = (a.askAll next (keys.take n)).release (keys.take k) ∧
      (r.isOk = true → k = keys.length ∧ Asking.Answered next keys a)

namespace Releases

variable {keys keys' : List Key} {key : Key}

theorem of_nothing {m : Operation ω τ α} (hm : Asks.Nothing stock m) :
    Releases stock next [] m := by
  intro a s hs
  refine ⟨0, Nat.le_refl 0, 0, Nat.le_refl 0, Nat.zero_le _, ?_, fun _ => ⟨rfl, trivial⟩⟩
  have hkept : asking stock (outcome m s).2 = a := (hm s).trans hs
  simpa using hkept

/-- A key that was asked for is noted. -/
theorem of_asks {m : Operation ω τ β} {f : β → Operation ω τ α} (hm : Asks stock next [key] m)
    (hf : ∀ b, Records stock key (f b)) : Releases stock next [key] (m >>= f) := by
  intro a s hs
  rw [wp_bind]
  refine wp_mono (hm a s hs) fun r s' h => ?_
  obtain ⟨n, hn, hasked, hall⟩ := h
  cases r with
  | error error =>
      rw [List.length_singleton] at hn
      refine ⟨n, hn, 0, Nat.zero_le n, hn, ?_, fun hok => absurd hok Bool.false_ne_true⟩
      simpa using hasked
  | ok b =>
      obtain ⟨rfl, hanswered⟩ := hall rfl
      refine wp_mono (hf b _ s' hasked) fun r s'' hrecorded => ?_
      rcases hrecorded with ⟨hkept, hfailed⟩ | hreleased
      · refine ⟨1, Nat.le_refl 1, 0, Nat.zero_le 1, Nat.le_refl 1, ?_, fun hok => ?_⟩
        · simpa using hkept
        · rw [hfailed] at hok
          exact absurd hok Bool.false_ne_true
      · exact ⟨1, Nat.le_refl 1, 1, Nat.le_refl 1, Nat.le_succ 1, hreleased,
          fun _ => ⟨rfl, hanswered⟩⟩

theorem bind {m : Operation ω τ β} {f : β → Operation ω τ α} (hm : Releases stock next keys m)
    (hf : ∀ b, Releases stock next keys' (f b)) :
    Releases stock next (keys ++ keys') (m >>= f) := by
  intro a s hs
  rw [wp_bind]
  refine wp_mono (hm a s hs) fun r s' h => ?_
  obtain ⟨n, hn, k, hk, hnk, hreleased, hall⟩ := h
  cases r with
  | error error =>
      refine ⟨n, ?_, k, hk, hnk, ?_, fun hok => absurd hok Bool.false_ne_true⟩
      · rw [List.length_append]
        omega
      · rw [List.take_append_of_le_length hn, List.take_append_of_le_length (hk.trans hn)]
        exact hreleased
  | ok b =>
      obtain ⟨rfl, hanswered⟩ := hall rfl
      have hfull : n = keys.length := Nat.le_antisymm hn hk
      rw [hfull, List.take_length] at hreleased
      refine wp_mono (hf b _ s' hreleased) fun r s'' h => ?_
      obtain ⟨n', hn', k', hk', hnk', hreleased', hall'⟩ := h
      refine ⟨keys.length + n', ?_, keys.length + k', ?_, ?_, ?_, fun hok => ?_⟩
      · rw [List.length_append]
        omega
      · omega
      · omega
      · rw [List.take_length_add_append, List.take_length_add_append, Asking.askAll_append,
          ← Asking.release_append, ← Asking.askAll_release]
        exact hreleased'
      · obtain ⟨rfl, hanswered'⟩ := hall' hok
        rw [Asking.answered_release] at hanswered'
        exact ⟨List.length_append.symm,
          (Asking.answered_append a keys keys').2 ⟨hanswered, hanswered'⟩⟩

theorem after {m : Operation ω τ β} {f : β → Operation ω τ α} (hm : Asks.Nothing stock m)
    (hf : ∀ b, Releases stock next keys (f b)) : Releases stock next keys (m >>= f) :=
  (of_nothing hm).bind hf

/-- What the program failed with is looked at, and is the failure in the end. -/
theorem attempt_bind {m : Operation ω τ β} {g : Except Interruption β → Operation ω τ α}
    (hm : Releases stock next keys m) (hg : ∀ b, Asks.Nothing stock (g (.ok b)))
    (hfails : ∀ error, Asks.Fails stock (g (.error error))) :
    Releases stock next keys (attempt m >>= g) := by
  intro a s hs
  rw [wp_bind, wp_attempt]
  refine wp_mono (hm a s hs) fun r s' h => ?_
  obtain ⟨n, hn, k, hk, hnk, hreleased, hall⟩ := h
  cases r with
  | error error =>
      have hfailed := hfails error
      refine ⟨n, hn, k, hk, hnk, (hfailed.nothing s').trans hreleased, fun hok => ?_⟩
      have hnot := hfailed.fails s'
      exact absurd hok (by rw [hnot]; exact Bool.false_ne_true)
  | ok b => exact ⟨n, hn, k, hk, hnk, (hg b s').trans hreleased, fun _ => hall rfl⟩

end Releases

end Rules

/-! ## Presses, strokes and restores -/

/-- The keys of one stroke, which may take Shift. -/
def strokeKeys (key : Key) (effectiveShift : Bool) : List Key :=
  (if effectiveShift then [.keyLeftShift] else []) ++ [key]

namespace SyntheticOperation

section Asking

variable {stock : ω → ρ} {next : Key → ρ → Option τ × ρ} {env : Surroundings ω τ}
  {target : RestoredModifierTarget ω τ} {control : Option (WriterControl ω)}
  (h : Stocked stock next env)

include h

theorem asks_prepareDown (key : Key) : Asks stock next [key] (prepareDown env key) := by
  intro a s hs
  have hnext := h.prepareDown key s.world
  have hasks (answer : Except SwitcherError τ) :
      asksOf (.prepareDown key answer :: s.sinkCalls) =
        asksOf s.sinkCalls ++ [(key, answer.toOption)] := by
    simp [asksOf]
  rw [← hs]
  have hasked : asking stock (outcome (prepareDown env key) s).2 = (asking stock s).ask next key := by
    refine Asking.ext ?_ ?_ rfl
    · show _ = asksOf s.sinkCalls ++ [(key, (next key (stock s.world)).1)]
      rw [← hnext]
      exact hasks _
    · show _ = (next key (stock s.world)).2
      rw [← hnext]
      rfl
  refine ⟨1, Nat.le_refl 1, hasked, fun hok => ⟨rfl, ?_, trivial⟩⟩
  have hanswer : (env.sink.prepareDown key s.world).1.isOk = true := by
    rw [← isOk_mapError Interruption.error]
    exact hok
  show (next key (stock s.world)).1.isSome = true
  rw [← hnext]
  cases hprepared : (env.sink.prepareDown key s.world).1 with
  | error error =>
      rw [hprepared] at hanswer
      exact absurd hanswer Bool.false_ne_true
  | ok token => rfl

theorem asks_press (key : Key) : Asks stock next [key] (press env key) := by
  unfold press
  apply Asks.after (nothing_ensureActive h)
  intro _
  apply Asks.andThen (asks_prepareDown h key)
  intro token
  apply (nothing_ensureActive h).bind
  intro _
  apply (Asks.Nothing.onLedger _).bind
  intro pressId
  apply (nothing_attemptDown h pressId token).attempt.bind
  intro downResult
  apply (Asks.Nothing.onLedgerUnit _).bind
  intro _
  apply (Asks.Nothing.ofExcept downResult).bind
  intro _
  apply (nothing_ensureActive h).bind
  intro _
  apply (nothing_synchronize h).bind
  intro _
  exact (nothing_ensureActive h).bind fun _ => .pure _

/-- A step whose failure only takes presses back asks for what the step asks for. -/
theorem asks_orRelease {keys : List Key} (pressed : List PressId) {step : Operation ω τ α}
    (hstep : Asks stock next keys step) : Asks stock next keys (orRelease env pressed step) := by
  have hreleases : Asks.Nothing stock (releaseSyntheticPresses env pressed) :=
    nothing_releasePresses h _ none
  unfold orRelease
  rw [← List.append_nil keys]
  apply hstep.attempt_bind
  · intro value
    exact .of_nothing (.pure value)
  · intro error
    exact .after hreleases.attempt fun _ => .throw error

/-- The writer's control leaves the stock alone. -/
def Spares (stock : ω → ρ) (control : Option (WriterControl ω)) : Prop :=
  ∀ writer, control = some writer → writer.Leaves stock

omit h in
theorem nothing_authorize (hcontrol : Spares stock control) :
    Asks.Nothing stock (authorizeTransactionMutation control : Operation ω τ Unit) :=
  .onControl fun writer heq => (hcontrol writer heq).authorizeMutationStart

omit h in
theorem nothing_sleep (hcontrol : Spares stock control) :
    Asks.Nothing stock (sleepForTransaction control : Operation ω τ Unit) :=
  .onControl fun writer heq => (hcontrol writer heq).sleepInterruptibly

theorem asks_pressShift (hcontrol : Spares stock control) (effectiveShift : Bool) :
    Asks stock next (if effectiveShift then [.keyLeftShift] else [])
      (pressShift env effectiveShift control) := by
  unfold pressShift
  cases effectiveShift with
  | false => exact .of_nothing (.pure _)
  | true =>
      apply Asks.after (nothing_authorize hcontrol)
      intro _
      have hslept (shift : PressId) :
          Asks stock next [] (orRelease env [shift] (sleepForTransaction control)) :=
        asks_orRelease h [shift] (.of_nothing (nothing_sleep hcontrol))
      exact (asks_press h .keyLeftShift).bind fun shift => (hslept shift).andThen fun _ => .pure _

theorem asks_replaySyntheticStroke (hcontrol : Spares stock control) (key : Key)
    (effectiveShift : Bool) :
    Asks stock next (strokeKeys key effectiveShift)
      (replaySyntheticStroke env key effectiveShift control) := by
  unfold replaySyntheticStroke
  apply (asks_pressShift h hcontrol effectiveShift).bind
  intro pressed
  have hauthorized : Asks stock next [] (orRelease env pressed
      (authorizeTransactionMutation control)) :=
    asks_orRelease h pressed (.of_nothing (nothing_authorize hcontrol))
  apply hauthorized.bind
  intro _
  apply (asks_orRelease h pressed (asks_press h key)).andThen
  intro keyPress
  apply (nothing_sleep hcontrol).attempt.bind
  intro transitionWait
  apply (nothing_releasePresses h _ none).attempt.bind
  intro releaseResult
  apply (Asks.Nothing.ofExcept transitionWait).bind
  intro _
  exact (Asks.Nothing.ofExcept releaseResult).bind fun _ => nothing_sleep hcontrol

omit h in
theorem nothing_transferHeld (pressId : PressId) :
    Asks.Nothing stock (transferHeld pressId : Operation ω τ τ) := by
  intro s
  unfold transferHeld
  rw [wp_ofTransition]
  split
  · rfl
  · rfl

theorem asks_restoreOneModifier (htarget : target.Leaves stock) (key : Key)
    (mode : RestoreDownMode) :
    Asks stock next [key] (restoreOneModifier env target key mode) := by
  unfold restoreOneModifier
  apply Asks.after (nothing_ensureCleanupActive h)
  intro _
  apply Asks.andThen (asks_prepareDown h key)
  intro token
  apply (nothing_ensureCleanupActive h).bind
  intro _
  apply (Asks.Nothing.onWorld (h.control.restoreDownAuthorizer mode)).bind
  intro _
  apply (Asks.Nothing.onLedger _).bind
  intro pressId
  apply (Asks.Nothing.onTarget (htarget.beginRestore key)).attempt.bind
  intro begun
  have hrest : Asks.Nothing stock (do
      Fallible.ofExcept begun
      let downResult ← attempt (attemptDown env pressId token)
      onLedgerUnit (·.markPossiblyDown pressId)
      Fallible.ofExcept downResult
      ensureCleanupActive env
      synchronize env
      ensureCleanupActive env
      let token ← transferHeld pressId
      onTarget (target.adoptRestored key token)) := by
    apply (Asks.Nothing.ofExcept begun).bind
    intro _
    apply (nothing_attemptDown h pressId token).attempt.bind
    intro downResult
    apply (Asks.Nothing.onLedgerUnit _).bind
    intro _
    apply (Asks.Nothing.ofExcept downResult).bind
    intro _
    apply (nothing_ensureCleanupActive h).bind
    intro _
    apply (nothing_synchronize h).bind
    intro _
    apply (nothing_ensureCleanupActive h).bind
    intro _
    apply (nothing_transferHeld pressId).bind
    intro token
    exact .onTarget (htarget.adoptRestored key token)
  cases begun with
  | ok _ => exact hrest
  | error interruption =>
      cases interruption with
      | panicked => exact hrest
      | error error => exact (Asks.Nothing.onLedgerUnit _).bind fun _ => .throw _

theorem asks_restoreModifiers (htarget : target.Leaves stock) (mode : RestoreDownMode)
    (keys : List Key) : Asks stock next keys (restoreModifiers env target mode keys) := by
  induction keys with
  | nil => exact .of_nothing (.pure _)
  | cons key keys ih => exact (asks_restoreOneModifier h htarget key mode).bind fun _ => ih

/-! ### Modifiers held by the user -/

omit h in
theorem records_recordRestore (key : Key) :
    Records stock key (recordRestore key : Operation ω τ Unit) := by
  intro a s hs
  unfold recordRestore
  rw [wp_ofTransition]
  cases hrecord : s.operation.restorePlan.record s.operation.id s.operation.frozenPhysical key with
  | error error => exact .inl ⟨hs, rfl⟩
  | ok plan =>
      right
      rw [PhysicalRestorePlan.record] at hrecord
      split at hrecord
      · cases hrecord
      · split at hrecord
        · cases hrecord
        · cases hrecord
          rw [← hs]
          rfl

theorem releases_temporarilyReleasePhysicalModifier (key : Key) :
    Releases stock next [key] (temporarilyReleasePhysicalModifier env key) := by
  unfold temporarilyReleasePhysicalModifier
  apply Releases.after (nothing_ensureActive h)
  intro _
  apply Releases.of_asks (asks_prepareDown h key)
  intro token
  apply Records.after (nothing_ensureActive h)
  intro _
  apply (records_recordRestore key).andThen
  intro _
  apply (nothing_attemptUp h none token).bind
  intro _
  apply (nothing_ensureActive h).bind
  intro _
  exact (nothing_synchronize h).bind fun _ => nothing_ensureActive h

/-- The session ledger leaves the stock alone. -/
def SessionModifierTarget.Leaves (stock : ω → ρ) (session : SessionModifierTarget ω) : Prop :=
  ∀ key, SyntheticInput.Leaves stock (session.markTemporarilyReleased key)

variable {session : SessionModifierTarget ω} (hsession : session.Leaves stock)
  (hcontrol : Spares stock control)

include hsession hcontrol

theorem releases_temporarilyReleaseModifier (key : Key) :
    Releases stock next [key] (temporarilyReleaseModifier env session control key) := by
  unfold temporarilyReleaseModifier
  have hmark : Asks.Nothing stock (onWorld (session.markTemporarilyReleased key) :
      Operation ω τ Unit) := .onWorld (hsession key)
  apply Releases.after (nothing_authorize hcontrol)
  intro _
  apply Releases.after (.read _)
  intro hadSessionDebt
  apply (releases_temporarilyReleasePhysicalModifier h key).attempt_bind
  · intro _
    apply (Asks.Nothing.read _).bind
    intro planned
    cases hadSessionDebt && planned with
    | false => exact .ofExcept _
    | true => exact hmark.bind fun _ => .ofExcept _
  · intro error
    apply Asks.Fails.after (.read _)
    intro planned
    cases hadSessionDebt && planned with
    | false => exact .ofExcept error
    | true => exact .after hmark fun _ => .ofExcept error

theorem releases_temporarilyReleaseModifiers (keys : List Key) :
    Releases stock next keys (temporarilyReleaseModifiers env session control keys) := by
  induction keys with
  | nil => exact .of_nothing (.pure _)
  | cons key keys ih =>
      exact (releases_temporarilyReleaseModifier h hsession hcontrol key).bind fun _ => ih

end Asking

end SyntheticOperation

end OpenSwitcher.SyntheticInput
