import OpenSwitcher.SelectedText.ClipboardTransaction
/-!
# The rollback of the clipboard

What a transaction may do to the clipboard when it ends, told from what happened before:
the texts it attempted to write, the owners it saw after its own writes, and its last read.
-/

namespace OpenSwitcher.SelectedText

open Library Fallible

variable {σ α : Type} (access : ClipboardAccess σ)

/-! ## Single calls -/

/-- A call is recorded and leaves the transaction alone. -/
theorem calling_spec (f : σ → α × σ) (call : α → ClipboardCall) (world : ClipboardWorld σ) :
    wp (calling f call) (fun r world' => ∃ answer, r = .ok answer ∧
      world'.transaction = world.transaction ∧ world'.calls = world.calls ++ [call answer])
      world :=
  ⟨(f world.clipboard).1, rfl, rfl, rfl⟩

/-- The calls of a read. -/
def readCalls (before : Option ClipboardOwnerToken)
    (text : Except SelectedTextError (List Char)) (after : Option ClipboardOwnerToken) :
    List ClipboardCall :=
  [.ownerToken before, .getText text, .ownerToken after]

theorem readWithStableOwner_spec (world : ClipboardWorld σ) :
    wp (readWithStableOwner access) (fun r world' => ∃ before text after,
      r = .ok ⟨text, stableOwner before after⟩ ∧ world'.transaction = world.transaction ∧
        world'.calls = world.calls ++ readCalls before text after) world := by
  unfold readWithStableOwner
  rw [wp_bind]
  apply wp_mono (calling_spec access.ownerToken .ownerToken world)
  intro r first hfirst
  obtain ⟨before, rfl, htransaction, hcalls⟩ := hfirst
  dsimp only
  rw [wp_bind]
  apply wp_mono (calling_spec access.getText .getText first)
  intro r second hsecond
  obtain ⟨text, rfl, htransaction', hcalls'⟩ := hsecond
  dsimp only
  rw [wp_bind]
  apply wp_mono (calling_spec access.ownerToken .ownerToken second)
  intro r third hthird
  obtain ⟨after, rfl, htransaction'', hcalls''⟩ := hthird
  refine (wp_pure _).mpr ⟨before, text, after, rfl, ?_, ?_⟩
  · rw [htransaction'', htransaction', htransaction]
  · rw [hcalls'', hcalls', hcalls, List.append_assoc, List.append_assoc]
    rfl

namespace ClipboardTransaction

/-- What the transaction has in its hands, by its own books: its current text under the owner
recorded with it, its pending sentinel, or its pending text under an owner that it saw after a
write of its own. -/
def Owns (transaction : ClipboardTransaction) (observation : ClipboardReadObservation) : Prop :=
  (∃ current owner, transaction.current = some current ∧ current.owner = some owner ∧
    observation.owner = some owner ∧ observation.text = .ok current.text) ∨
  (∃ text, transaction.pendingWrite = some ⟨.sentinel, text⟩ ∧ observation.text = .ok text) ∨
  (∃ pending owner, transaction.pendingWrite = some pending ∧
    observation.text = .ok pending.text ∧ observation.owner = some owner ∧
    owner ∈ transaction.knownWriteOwners)

theorem toOption_eq_some {ε β : Type} {answer : Except ε β} {value : β} :
    answer.toOption = some value ↔ answer = .ok value := by
  cases answer with
  | error error => simp [Except.toOption]
  | ok value' => simp [Except.toOption]

theorem owns_of_classify {transaction : ClipboardTransaction}
    {observation : ClipboardReadObservation}
    (h : transaction.classify observation = .owned) : transaction.Owns observation := by
  unfold classify at h
  split at h
  · rename_i hcurrent
    obtain ⟨current, hsome, hmatches⟩ := (Option.any_eq_true _ _).mp hcurrent
    simp only [Bool.and_eq_true, beq_iff_eq, toOption_eq_some] at hmatches
    obtain ⟨⟨howner, hsame⟩, htext⟩ := hmatches
    obtain ⟨owner, howner⟩ := Option.isSome_iff_exists.mp howner
    exact .inl ⟨current, owner, hsome, howner, hsame ▸ howner, htext⟩
  · split at h
    · rename_i hsentinel
      obtain ⟨pending, hsome, hmatches⟩ := (Option.any_eq_true _ _).mp hsentinel
      simp only [Bool.and_eq_true, beq_iff_eq, toOption_eq_some] at hmatches
      refine .inr (.inl ⟨pending.text, ?_, hmatches.2⟩)
      rw [hsome, ← hmatches.1]
    · split at h
      · rename_i hpending
        obtain ⟨pending, hsome, hmatches⟩ := (Option.any_eq_true _ _).mp hpending
        simp only [Bool.and_eq_true, beq_iff_eq, toOption_eq_some] at hmatches
        obtain ⟨owner, howner, hknown⟩ := (Option.any_eq_true _ _).mp hmatches.2
        exact .inr (.inr ⟨pending, owner, hsome, hmatches.1, howner,
          List.contains_iff_mem.mp hknown⟩)
      · split at h
        · cases h
        · cases h

/-- The calls that an end may make: a read and then at most one mutation. -/
structure EndCalls (transaction : ClipboardTransaction) (made : List ClipboardCall) : Prop where
  mutatesOnce : made.countP ClipboardCall.mutates ≤ 1
  setText : ∀ value answer, .setText value answer ∈ made →
    transaction.original = .restorableText value ∧ transaction.originalOwner.isSome = true ∧
      ∃ before text after, made = readCalls before text after ++ [.setText value answer] ∧
        transaction.Owns ⟨text, stableOwner before after⟩
  clear : ∀ answer, .clear answer ∈ made →
    transaction.original = .unrestorable ∧ transaction.onlySentinel = true

/-- What asking for the ownership may call. -/
def StatusCalls (transaction : ClipboardTransaction) (status : OwnershipStatus)
    (made : List ClipboardCall) : Prop :=
  (made = [] ∧ status = .nothingToClean) ∨
    ∃ before text after, made = readCalls before text after ∧
      (status = .owned → transaction.Owns ⟨text, stableOwner before after⟩)

/-- An end that changes nothing. -/
theorem StatusCalls.endCalls {transaction : ClipboardTransaction} {status : OwnershipStatus}
    {made : List ClipboardCall} (h : StatusCalls transaction status made) :
    EndCalls transaction made := by
  have hreads : ∀ call ∈ made, call.mutates = false := by
    rcases h with ⟨rfl, _⟩ | ⟨before, text, after, rfl, _⟩
    · intro call hcall
      cases hcall
    · simp [readCalls, ClipboardCall.mutates]
  refine ⟨?_, fun value answer hset => ?_, fun answer hclear => ?_⟩
  · rw [List.countP_eq_zero.mpr fun call hcall => by simp [hreads call hcall]]
    exact Nat.zero_le 1
  · exact absurd (hreads _ hset) (by simp [ClipboardCall.mutates])
  · exact absurd (hreads _ hclear) (by simp [ClipboardCall.mutates])

/-- An end that restores the original text. -/
theorem StatusCalls.endCalls_setText {transaction : ClipboardTransaction} {previous : List Char}
    {made : List ClipboardCall} (h : StatusCalls transaction .owned made)
    (horiginal : transaction.original = .restorableText previous)
    (howner : transaction.originalOwner.isSome = true) (answer : Except SelectedTextError Unit) :
    EndCalls transaction (made ++ [.setText previous answer]) := by
  rcases h with ⟨_, hnothing⟩ | ⟨before, text, after, rfl, howned⟩
  · cases hnothing
  refine ⟨Nat.le_refl 1, fun value answer' hset => ?_, fun answer' hclear => ?_⟩
  · simp only [readCalls, List.cons_append, List.nil_append, List.mem_cons, reduceCtorEq,
      ClipboardCall.setText.injEq, List.not_mem_nil, or_false, false_or] at hset
    obtain ⟨rfl, rfl⟩ := hset
    exact ⟨horiginal, howner, before, text, after, rfl, howned rfl⟩
  · simp [readCalls] at hclear

/-- An end that clears a sentinel away. -/
theorem StatusCalls.endCalls_clear {transaction : ClipboardTransaction}
    {made : List ClipboardCall} (h : StatusCalls transaction .owned made)
    (horiginal : transaction.original = .unrestorable)
    (hsentinel : transaction.onlySentinel = true) (answer : Except SelectedTextError Unit) :
    EndCalls transaction (made ++ [.clear answer]) := by
  rcases h with ⟨_, hnothing⟩ | ⟨before, text, after, rfl, _⟩
  · cases hnothing
  refine ⟨Nat.le_refl 1, fun value answer' hset => ?_, fun _ _ => ⟨horiginal, hsentinel⟩⟩
  simp [readCalls] at hset

/-- A read, if there is anything to ask for, and what it says. -/
theorem ownershipStatus_spec (world : ClipboardWorld σ) :
    wp (ownershipStatus access) (fun r world' => ∃ status made, r = .ok status ∧
      world'.transaction = world.transaction ∧ world'.calls = world.calls ++ made ∧
      StatusCalls world.transaction status made) world := by
  unfold ownershipStatus
  rw [wp_bind, wp_read]
  dsimp only
  split
  · refine (wp_pure _).mpr ⟨.nothingToClean, [], rfl, rfl, (List.append_nil _).symm, ?_⟩
    exact .inl ⟨rfl, rfl⟩
  · rw [wp_bind]
    apply wp_mono (readWithStableOwner_spec access world)
    intro r world' hread
    obtain ⟨before, text, after, rfl, htransaction, hcalls⟩ := hread
    refine (wp_pure _).mpr ⟨_, readCalls before text after, rfl, htransaction, hcalls, .inr ?_⟩
    exact ⟨before, text, after, rfl, owns_of_classify⟩

/-- A mutation at the end, and the outcome it comes to. -/
theorem mutate_spec {β : Type} (f : σ → β × σ) (call : β → ClipboardCall)
    (outcome : β → CleanupOutcome) {transaction : ClipboardTransaction}
    {world read : ClipboardWorld σ} {made : List ClipboardCall}
    (htransaction : read.transaction = transaction) (hcalls : read.calls = world.calls ++ made)
    (hend : ∀ answer, EndCalls transaction (made ++ [call answer])) :
    wp (do
      let answer ← calling f call
      pure (outcome answer) : Clipboarding σ CleanupOutcome)
      (fun r world' => (∃ outcome, r = .ok outcome) ∧ world'.transaction = transaction ∧
        ∃ made, world'.calls = world.calls ++ made ∧ EndCalls transaction made) read := by
  rw [wp_bind]
  apply wp_mono (calling_spec f call read)
  intro r world' hcall
  obtain ⟨answer, rfl, htransaction', hcalls'⟩ := hcall
  refine (wp_pure _).mpr ⟨⟨_, rfl⟩, htransaction'.trans htransaction, _, ?_, hend answer⟩
  rw [hcalls', hcalls, List.append_assoc]

theorem rollback_spec (world : ClipboardWorld σ) :
    wp (rollback access) (fun r world' => (∃ outcome, r = .ok outcome) ∧
      world'.transaction = world.transaction ∧
      ∃ made, world'.calls = world.calls ++ made ∧ EndCalls world.transaction made) world := by
  unfold rollback
  rw [wp_bind, wp_read]
  dsimp only
  cases horiginal : world.transaction.original with
  | restorableText previous =>
      dsimp only
      by_cases howner : world.transaction.originalOwner.isNone = true
      · rw [if_pos howner]
        have hnone : EndCalls world.transaction [] :=
          StatusCalls.endCalls (.inl ⟨rfl, rfl⟩)
        exact (wp_pure _).mpr ⟨⟨_, rfl⟩, rfl, [], (List.append_nil _).symm, hnone⟩
      · rw [if_neg howner, wp_bind]
        apply wp_mono (ownershipStatus_spec access world)
        intro r read hread
        obtain ⟨status, made, rfl, htransaction, hcalls, hmade⟩ := hread
        have hknown : world.transaction.originalOwner.isSome = true := by
          rw [Option.isNone_iff_eq_none, ← ne_eq, Option.ne_none_iff_isSome] at howner
          exact howner
        cases status with
        | owned =>
            exact mutate_spec (access.setText previous) (.setText previous) _ htransaction hcalls
              fun answer => hmade.endCalls_setText horiginal hknown answer
        | _ => exact (wp_pure _).mpr ⟨⟨_, rfl⟩, htransaction, made, hcalls, hmade.endCalls⟩
  | unrestorable =>
      dsimp only
      rw [wp_bind]
      apply wp_mono (ownershipStatus_spec access world)
      intro r read hread
      obtain ⟨status, made, rfl, htransaction, hcalls, hmade⟩ := hread
      cases status with
      | owned =>
          cases hsentinel : world.transaction.onlySentinel with
          | true =>
              exact mutate_spec access.clear .clear _ htransaction hcalls
                fun answer => hmade.endCalls_clear horiginal hsentinel answer
          | false => exact (wp_pure _).mpr ⟨⟨_, rfl⟩, htransaction, made, hcalls, hmade.endCalls⟩
      | uncertain =>
          cases hsentinel : world.transaction.onlySentinel with
          | true => exact (wp_pure _).mpr ⟨⟨_, rfl⟩, htransaction, made, hcalls, hmade.endCalls⟩
          | false => exact (wp_pure _).mpr ⟨⟨_, rfl⟩, htransaction, made, hcalls, hmade.endCalls⟩
      | foreign =>
          cases world.transaction.onlySentinel with
          | true => exact (wp_pure _).mpr ⟨⟨_, rfl⟩, htransaction, made, hcalls, hmade.endCalls⟩
          | false => exact (wp_pure _).mpr ⟨⟨_, rfl⟩, htransaction, made, hcalls, hmade.endCalls⟩
      | nothingToClean =>
          cases world.transaction.onlySentinel with
          | true => exact (wp_pure _).mpr ⟨⟨_, rfl⟩, htransaction, made, hcalls, hmade.endCalls⟩
          | false => exact (wp_pure _).mpr ⟨⟨_, rfl⟩, htransaction, made, hcalls, hmade.endCalls⟩

end ClipboardTransaction

/-! ## Writes of the operation -/

namespace ClipboardTransaction

/-- The books once a write is under way. -/
def writing (transaction : ClipboardTransaction) (kind : OwnedTextKind) (value : List Char) :
    ClipboardTransaction :=
  { transaction with
    pendingWrite := some ⟨kind, value⟩
    lastMeaningfulText :=
      if kind ≠ .sentinel then some value else transaction.lastMeaningfulText }

/-- The owners seen after own writes, with one more. -/
def withOwner (owners : List ClipboardOwnerToken) :
    Option ClipboardOwnerToken → List ClipboardOwnerToken
  | some owner => if owner ∈ owners then owners else owners ++ [owner]
  | none => owners

theorem mem_withOwner {owners : List ClipboardOwnerToken} {owner : ClipboardOwnerToken}
    {answer : Option ClipboardOwnerToken} (h : owner ∈ withOwner owners answer) :
    owner ∈ owners ∨ answer = some owner := by
  cases answer with
  | none => exact .inl h
  | some written =>
      by_cases hmem : written ∈ owners
      · simp only [withOwner, if_pos hmem] at h
        exact .inl h
      · simp only [withOwner, if_neg hmem] at h
        rcases List.mem_append.mp h with hbefore | hnew
        · exact .inl hbefore
        · exact .inr (congrArg some (List.mem_singleton.mp hnew).symm)

/-- The books after a successful write. -/
def written (transaction : ClipboardTransaction) (kind : OwnedTextKind) (value : List Char)
    (owner : Option ClipboardOwnerToken) : ClipboardTransaction :=
  { transaction.writing kind value with
    knownWriteOwners := withOwner transaction.knownWriteOwners owner
    current := some ⟨kind, value, owner⟩
    pendingWrite := none }

theorem writeOperationText_spec (kind : OwnedTextKind) (value : List Char)
    (world : ClipboardWorld σ) :
    wp (writeOperationText access kind value) (fun r world' =>
      (∃ owner, r = .ok () ∧ world'.transaction = world.transaction.written kind value owner ∧
        world'.calls.getLast? = some (.ownerToken owner)) ∨
      ∃ error, r = .error (.selectedText error) ∧
        world'.transaction = world.transaction.writing kind value) world := by
  unfold writeOperationText
  rw [wp_bind]
  have hstart : wp (update fun transaction => transaction.writing kind value)
      (fun r first => r = .ok () ∧ first.transaction = world.transaction.writing kind value)
      world := ⟨rfl, rfl⟩
  apply wp_mono hstart
  intro r first hfirst
  obtain ⟨rfl, htransaction⟩ := hfirst
  dsimp only
  rw [wp_bind]
  apply wp_mono (calling_spec (access.setText value) (.setText value) first)
  intro r second hsecond
  obtain ⟨answer, rfl, htransaction', _⟩ := hsecond
  dsimp only
  rw [wp_bind, wp_ofExcept]
  cases answer with
  | error error => exact .inr ⟨error, rfl, htransaction'.trans htransaction⟩
  | ok _ =>
      dsimp only [Except.mapError]
      rw [wp_bind]
      apply wp_mono (calling_spec access.ownerToken .ownerToken second)
      intro r third hthird
      obtain ⟨owner, rfl, htransaction'', hcalls⟩ := hthird
      refine .inl ⟨owner, rfl, ?_, ?_⟩
      · change ClipboardTransaction.mk _ _ _ _ _ _ _ = _
        rw [htransaction'', htransaction', htransaction]
        rfl
      · change third.calls.getLast? = _
        rw [hcalls]
        simp

end ClipboardTransaction

/-! ## Histories -/

/-- What the owner of a transaction may do with it before its end. -/
inductive TransactionStep where
  | writeOperationText (kind : OwnedTextKind) (value : List Char)
  | adoptSelectedText (text : List Char) (owner : Option ClipboardOwnerToken)
  | getText
  | setText (value : List Char)
  | clear
  | ownerToken
deriving DecidableEq, Repr

/-- What came of a step; a successful write tells the owner that the clipboard named after it. -/
inductive TransactionEvent where
  | wrote (kind : OwnedTextKind) (text : List Char) (owner : Option ClipboardOwnerToken)
  | failedToWrite (kind : OwnedTextKind) (text : List Char)
  | adopted (text : List Char) (owner : Option ClipboardOwnerToken)
  | passed
deriving DecidableEq, Repr

namespace TransactionEvent

/-- The text that the event puts into the clipboard's place, if it is one about the operation's
texts; a failed write leaves it open whether the text has arrived. -/
def settles : TransactionEvent → Option (Except PendingWrite OwnedClipboardState)
  | wrote kind text owner => some (.ok ⟨kind, text, owner⟩)
  | failedToWrite kind text => some (.error ⟨kind, text⟩)
  | adopted text owner => some (.ok ⟨.selected, text, owner⟩)
  | passed => none

/-- The owner that the clipboard named after a write of the operation. -/
def writeOwner : TransactionEvent → Option ClipboardOwnerToken
  | wrote _ _ owner => owner
  | _ => none

/-- The event is about a text other than a sentinel. -/
def meaningful : TransactionEvent → Bool
  | wrote kind _ _ => kind != .sentinel
  | failedToWrite kind _ => kind != .sentinel
  | adopted _ _ => true
  | passed => false

end TransactionEvent

/-- The operation's text that was last written or adopted with success. -/
def settledText (events : List TransactionEvent) : Option OwnedClipboardState :=
  ((events.filterMap TransactionEvent.settles).filterMap Except.toOption).getLast?

/-- The text of a failed write that nothing has followed. -/
def pendingText (events : List TransactionEvent) : Option PendingWrite :=
  match (events.filterMap TransactionEvent.settles).getLast? with
  | some (.error pending) => some pending
  | _ => none

def writeOwners (events : List TransactionEvent) : List ClipboardOwnerToken :=
  events.filterMap TransactionEvent.writeOwner

namespace TransactionStep

/-- The owner that the last call answered. -/
def lastOwner (calls : List ClipboardCall) : Option ClipboardOwnerToken :=
  match calls.getLast? with
  | some (.ownerToken answer) => answer
  | _ => none

/-- Do a step whatever comes of it. -/
def perform : TransactionStep → Clipboarding σ TransactionEvent
  | writeOperationText kind value => do
      let written ← .attempt (ClipboardTransaction.writeOperationText access kind value)
      let owner ← .read fun world => lastOwner world.calls
      pure (match written with
        | .ok () => .wrote kind value owner
        | .error _ => .failedToWrite kind value)
  | adoptSelectedText text owner => do
      ClipboardTransaction.adoptSelectedText text owner
      pure (.adopted text owner)
  | getText => do
      let _ ← SelectedText.getText access
      pure .passed
  | setText value => do
      let _ ← SelectedText.setText access value
      pure .passed
  | clear => do
      let _ ← SelectedText.clear access
      pure .passed
  | ownerToken => do
      let _ ← SelectedText.ownerToken access
      pure .passed

def performAll : List TransactionStep → Clipboarding σ (List TransactionEvent)
  | [] => pure []
  | step :: rest => do
      let event ← step.perform access
      let events ← performAll rest
      pure (event :: events)

end TransactionStep

/-- The books of a transaction tell its history. -/
structure Recorded (transaction : ClipboardTransaction) (events : List TransactionEvent) : Prop where
  current : transaction.current = settledText events
  pendingWrite : transaction.pendingWrite = pendingText events
  owners : ∀ owner ∈ transaction.knownWriteOwners, owner ∈ writeOwners events
  meaningful : transaction.lastMeaningfulText = none ↔
    ∀ event ∈ events, event.meaningful = false
  finalized : transaction.finalized = false

theorem settledText_append (events : List TransactionEvent) (event : TransactionEvent) :
    settledText (events ++ [event]) =
      match event.settles with
      | some (.ok state) => some state
      | _ => settledText events := by
  unfold settledText
  cases event with
  | passed =>
      have hpassed : [TransactionEvent.passed].filterMap TransactionEvent.settles = [] := rfl
      rw [List.filterMap_append, hpassed, List.append_nil]
      rfl
  | _ => simp [TransactionEvent.settles, Except.toOption]

theorem pendingText_append (events : List TransactionEvent) (event : TransactionEvent) :
    pendingText (events ++ [event]) =
      match event.settles with
      | some (.ok _) => none
      | some (.error pending) => some pending
      | none => pendingText events := by
  unfold pendingText
  cases event <;> simp [TransactionEvent.settles]

/-- Books that were kept up with one more event. -/
theorem Recorded.append {transaction transaction' : ClipboardTransaction}
    {events : List TransactionEvent} (h : Recorded transaction events)
    {event : TransactionEvent}
    (hcurrent : transaction'.current = settledText (events ++ [event]))
    (hpending : transaction'.pendingWrite = pendingText (events ++ [event]))
    (howners : ∀ owner ∈ transaction'.knownWriteOwners,
      owner ∈ transaction.knownWriteOwners ∨ event.writeOwner = some owner)
    (hmeaningful : transaction'.lastMeaningfulText = none ↔
      transaction.lastMeaningfulText = none ∧ event.meaningful = false)
    (hfinalized : transaction'.finalized = transaction.finalized) :
    Recorded transaction' (events ++ [event]) := by
  refine ⟨hcurrent, hpending, fun owner hknown => ?_, ?_, hfinalized.trans h.finalized⟩
  · unfold writeOwners
    rw [List.filterMap_append, List.mem_append]
    rcases howners owner hknown with hbefore | hnew
    · exact .inl (h.owners owner hbefore)
    · right
      simp [hnew]
  · rw [hmeaningful, h.meaningful]
    constructor
    · intro hboth other hother
      rcases List.mem_append.mp hother with hbefore | hlast
      · exact hboth.1 other hbefore
      · rw [List.mem_singleton.mp hlast]
        exact hboth.2
    · intro hall
      exact ⟨fun other hother => hall other (List.mem_append_left _ hother),
        hall event (List.mem_append_right _ (List.mem_singleton.mpr rfl))⟩

namespace TransactionStep

/-- What one step leaves: the original as it was, and books that have the event. -/
def Kept (world : ClipboardWorld σ) (events : List TransactionEvent)
    (r : Except OperationError TransactionEvent) (world' : ClipboardWorld σ) : Prop :=
  ∃ event, r = .ok event ∧
    world'.transaction.original = world.transaction.original ∧
    world'.transaction.originalOwner = world.transaction.originalOwner ∧
    Recorded world'.transaction (events ++ [event])

/-- A call that passes the transaction by. -/
theorem passed_kept {β : Type} {world : ClipboardWorld σ} {events : List TransactionEvent}
    (h : Recorded world.transaction events) (f : σ → β × σ) (call : β → ClipboardCall) :
    wp (do
      let _ ← calling f call
      pure TransactionEvent.passed) (Kept world events) world := by
  rw [wp_bind]
  apply wp_mono (calling_spec f call world)
  intro r world' hcall
  obtain ⟨answer, rfl, htransaction, _⟩ := hcall
  refine (wp_pure _).mpr ⟨.passed, rfl, ?_, ?_, ?_⟩
  · rw [htransaction]
  · rw [htransaction]
  · rw [htransaction]
    apply h.append
    · rw [settledText_append]
      exact h.current
    · rw [pendingText_append]
      exact h.pendingWrite
    · exact fun owner hknown => .inl hknown
    · simp [TransactionEvent.meaningful]
    · rfl

theorem adopt_kept {world : ClipboardWorld σ} {events : List TransactionEvent}
    (h : Recorded world.transaction events) (text : List Char)
    (owner : Option ClipboardOwnerToken) :
    wp ((adoptSelectedText text owner).perform access) (Kept world events) world := by
  refine ⟨.adopted text owner, rfl, rfl, rfl, ?_⟩
  apply h.append
  · rw [settledText_append]
    rfl
  · rw [pendingText_append]
    rfl
  · exact fun owner' hknown => .inl hknown
  · constructor
    · intro hnone
      cases hnone
    · intro hboth
      cases hboth.2
  · rfl

theorem write_kept {world : ClipboardWorld σ} {events : List TransactionEvent}
    (h : Recorded world.transaction events) (kind : OwnedTextKind) (value : List Char) :
    wp ((writeOperationText kind value).perform access) (Kept world events) world := by
  unfold perform
  rw [wp_bind, wp_attempt]
  apply wp_mono (ClipboardTransaction.writeOperationText_spec access kind value world)
  intro r world' hwritten
  have hmeaningful : (if kind ≠ .sentinel then some value else
      world.transaction.lastMeaningfulText) = none ↔
      world.transaction.lastMeaningfulText = none ∧ (kind != .sentinel) = false := by
    cases kind <;> simp
  rcases hwritten with ⟨owner, rfl, htransaction, hlast⟩ | ⟨error, rfl, htransaction⟩
  · have howner : lastOwner world'.calls = owner := by
      unfold lastOwner
      rw [hlast]
    have horiginal : world'.transaction.original = world.transaction.original := by
      rw [htransaction]
      rfl
    have horiginalOwner : world'.transaction.originalOwner = world.transaction.originalOwner := by
      rw [htransaction]
      rfl
    refine ⟨.wrote kind value owner, ?_, horiginal, horiginalOwner, ?_⟩
    · exact congrArg (fun answer => Except.ok (TransactionEvent.wrote kind value answer)) howner
    · change Recorded world'.transaction _
      rw [htransaction]
      apply h.append
      · rw [settledText_append]
        rfl
      · rw [pendingText_append]
        rfl
      · exact fun owner' hknown => ClipboardTransaction.mem_withOwner hknown
      · exact hmeaningful
      · rfl
  · have horiginal : world'.transaction.original = world.transaction.original := by
      rw [htransaction]
      rfl
    have horiginalOwner : world'.transaction.originalOwner = world.transaction.originalOwner := by
      rw [htransaction]
      rfl
    refine ⟨.failedToWrite kind value, rfl, horiginal, horiginalOwner, ?_⟩
    · change Recorded world'.transaction _
      rw [htransaction]
      apply h.append
      · rw [settledText_append]
        exact h.current
      · rw [pendingText_append]
        rfl
      · exact fun owner' hknown => .inl hknown
      · exact hmeaningful
      · rfl

theorem perform_kept {world : ClipboardWorld σ} {events : List TransactionEvent}
    (h : Recorded world.transaction events) (step : TransactionStep) :
    wp (step.perform access) (Kept world events) world := by
  cases step with
  | writeOperationText kind value => exact write_kept access h kind value
  | adoptSelectedText text owner => exact adopt_kept access h text owner
  | getText => exact passed_kept h access.getText .getText
  | setText value => exact passed_kept h (access.setText value) (.setText value)
  | clear => exact passed_kept h access.clear .clear
  | ownerToken => exact passed_kept h access.ownerToken .ownerToken

theorem performAll_kept {world : ClipboardWorld σ} {events : List TransactionEvent}
    (h : Recorded world.transaction events) (steps : List TransactionStep) :
    wp (performAll access steps) (fun r world' => ∃ more, r = .ok more ∧
      world'.transaction.original = world.transaction.original ∧
      world'.transaction.originalOwner = world.transaction.originalOwner ∧
      Recorded world'.transaction (events ++ more)) world := by
  induction steps generalizing world events with
  | nil => exact ⟨[], rfl, rfl, rfl, by rw [List.append_nil]; exact h⟩
  | cons step rest ih =>
      unfold performAll
      rw [wp_bind]
      apply wp_mono (perform_kept access h step)
      intro r first hfirst
      obtain ⟨event, rfl, horiginal, horiginalOwner, hrecorded⟩ := hfirst
      dsimp only
      rw [wp_bind]
      apply wp_mono (ih hrecorded)
      intro r second hsecond
      obtain ⟨more, rfl, horiginal', horiginalOwner', hrecorded'⟩ := hsecond
      refine (wp_pure _).mpr ⟨event :: more, rfl, horiginal'.trans horiginal,
        horiginalOwner'.trans horiginalOwner, ?_⟩
      rw [List.append_assoc] at hrecorded'
      exact hrecorded'

end TransactionStep

/-! ## Ends -/

inductive TransactionEnd where
  | finishSuccess
  | finishNoSelectedText
  | drop
deriving DecidableEq, Repr

def TransactionEnd.run : TransactionEnd → Clipboarding σ Unit
  | finishSuccess => do
      let _ ← ClipboardTransaction.finishSuccess access
      pure ()
  | finishNoSelectedText => ClipboardTransaction.finishNoSelectedText access
  | drop => ClipboardTransaction.drop access

namespace ClipboardTransaction

/-- After a finish the drop does nothing. -/
theorem finish_spec {β : Type} (value : CleanupOutcome → β) (world : ClipboardWorld σ) :
    wp (do
      let outcome ← rollback access
      update fun transaction => { transaction with finalized := true }
      drop access
      pure (value outcome) : Clipboarding σ β)
      (fun r world' => (∃ answer, r = .ok answer) ∧ ∃ made, world'.calls = world.calls ++ made ∧
        EndCalls world.transaction made) world := by
  rw [wp_bind]
  apply wp_mono (rollback_spec access world)
  intro r world' hrollback
  obtain ⟨⟨outcome, rfl⟩, _, made, hcalls, hmade⟩ := hrollback
  exact ⟨⟨_, rfl⟩, made, hcalls, hmade⟩

theorem drop_spec {world : ClipboardWorld σ} (hfinalized : world.transaction.finalized = false) :
    wp (drop access) (fun r world' => (∃ answer, r = .ok answer) ∧
      ∃ made, world'.calls = world.calls ++ made ∧ EndCalls world.transaction made) world := by
  unfold drop
  rw [wp_bind, wp_read]
  dsimp only
  rw [if_neg (by simp [hfinalized]), wp_bind]
  apply wp_mono (rollback_spec access world)
  intro r world' hrollback
  obtain ⟨⟨outcome, rfl⟩, _, made, hcalls, hmade⟩ := hrollback
  exact ⟨⟨_, rfl⟩, made, hcalls, hmade⟩

theorem end_spec {world : ClipboardWorld σ} (hfinalized : world.transaction.finalized = false)
    (ending : TransactionEnd) :
    wp (ending.run access) (fun r world' => (∃ answer, r = .ok answer) ∧
      ∃ made, world'.calls = world.calls ++ made ∧ EndCalls world.transaction made) world := by
  cases ending with
  | drop => exact drop_spec access hfinalized
  | finishSuccess =>
      unfold TransactionEnd.run finishSuccess
      rw [wp_bind, wp_bind, wp_read]
      apply wp_mono (finish_spec access (disposition world.transaction.original) world)
      intro r world' hfinish
      obtain ⟨⟨answer, rfl⟩, hmade⟩ := hfinish
      exact ⟨⟨(), rfl⟩, hmade⟩
  | finishNoSelectedText => exact finish_spec access (fun _ => ()) world

theorem begin_spec (world : ClipboardWorld σ) :
    wp («begin» access) (fun r begun => ∃ before text after, r = .ok () ∧
      begun.calls = world.calls ++ readCalls before text after ∧
      begun.transaction = { original := (match text with
          | .ok text => .restorableText text
          | .error _ => .unrestorable), originalOwner := stableOwner before after }) world := by
  unfold «begin»
  rw [wp_bind]
  apply wp_mono (readWithStableOwner_spec access world)
  intro r read hread
  obtain ⟨before, text, after, rfl, _, hcalls⟩ := hread
  exact ⟨before, text, after, rfl, hcalls, rfl⟩

end ClipboardTransaction

/-- The last read showed something that is the operation's: the text that was last written or
adopted, under the owner recorded with it, the sentinel of a pending write, or the text of a
pending write under an owner that the clipboard named after an earlier write. -/
def HistoryOwns (events : List TransactionEvent) (observation : ClipboardReadObservation) : Prop :=
  (∃ current owner, settledText events = some current ∧ current.owner = some owner ∧
    observation.owner = some owner ∧ observation.text = .ok current.text) ∨
  (∃ text, pendingText events = some ⟨.sentinel, text⟩ ∧ observation.text = .ok text) ∨
  (∃ pending owner, pendingText events = some pending ∧ observation.text = .ok pending.text ∧
    observation.owner = some owner ∧ owner ∈ writeOwners events)

/-- What the end of a transaction may do to a clipboard that had the original text and owner. -/
structure SafeEnd (original : Except SelectedTextError (List Char))
    (originalOwner : Option ClipboardOwnerToken) (events : List TransactionEvent)
    (made : List ClipboardCall) : Prop where
  mutatesOnce : made.countP ClipboardCall.mutates ≤ 1
  setText : ∀ value answer, .setText value answer ∈ made →
    original = .ok value ∧ originalOwner.isSome = true ∧
      ∃ before text after, made = readCalls before text after ++ [.setText value answer] ∧
        HistoryOwns events ⟨text, stableOwner before after⟩
  clear : ∀ answer, .clear answer ∈ made →
    (∃ error, original = .error error) ∧ ∀ event ∈ events, event.meaningful = false

/-- A transaction's own books are enough to keep its end safe. -/
theorem safeEnd_of_endCalls {original : Except SelectedTextError (List Char)}
    {originalOwner : Option ClipboardOwnerToken} {transaction : ClipboardTransaction}
    {events : List TransactionEvent} {made : List ClipboardCall}
    (horiginal : transaction.original = match original with
      | .ok text => .restorableText text
      | .error _ => .unrestorable)
    (howner : transaction.originalOwner = originalOwner) (hrecorded : Recorded transaction events)
    (h : transaction.EndCalls made) : SafeEnd original originalOwner events made := by
  refine ⟨h.mutatesOnce, fun value answer hset => ?_, fun answer hclear => ?_⟩
  · obtain ⟨hsnapshot, hknown, before, text, after, hmade, howns⟩ := h.setText value answer hset
    refine ⟨?_, howner ▸ hknown, before, text, after, hmade, ?_⟩
    · cases original with
      | error error =>
          rw [horiginal] at hsnapshot
          cases hsnapshot
      | ok text =>
          rw [horiginal] at hsnapshot
          cases hsnapshot
          rfl
    · rcases howns with ⟨current, owner, hcurrent, hrest⟩ | ⟨text, hpending, hrest⟩ |
        ⟨pending, owner, hpending, htext, howner, hknown⟩
      · exact .inl ⟨current, owner, hrecorded.current ▸ hcurrent, hrest⟩
      · exact .inr (.inl ⟨text, hrecorded.pendingWrite ▸ hpending, hrest⟩)
      · exact .inr (.inr ⟨pending, owner, hrecorded.pendingWrite ▸ hpending, htext, howner,
          hrecorded.owners owner hknown⟩)
  · obtain ⟨hsnapshot, hsentinel⟩ := h.clear answer hclear
    refine ⟨?_, ?_⟩
    · cases original with
      | error error => exact ⟨error, rfl⟩
      | ok text =>
          rw [horiginal] at hsnapshot
          cases hsnapshot
    · apply hrecorded.meaningful.mp
      unfold ClipboardTransaction.onlySentinel at hsentinel
      rw [Bool.and_eq_true, Option.isNone_iff_eq_none] at hsentinel
      exact hsentinel.1

/-- Every history of a transaction ends safely, whatever the clipboard answers. -/
theorem transaction_ends_safely (steps : List TransactionStep) (ending : TransactionEnd)
    (world : ClipboardWorld σ) :
    wp (ClipboardTransaction.begin access) (fun r begun => ∃ before text after, r = .ok () ∧
      begun.calls = world.calls ++ readCalls before text after ∧
      wp (TransactionStep.performAll access steps) (fun r used => ∃ events, r = .ok events ∧
        wp (ending.run access) (fun r ended => (∃ answer, r = .ok answer) ∧
          ∃ made, ended.calls = used.calls ++ made ∧
            SafeEnd text (stableOwner before after) events made) used) begun) world := by
  apply wp_mono (ClipboardTransaction.begin_spec access world)
  intro r begun hbegun
  obtain ⟨before, text, after, rfl, hcalls, htransaction⟩ := hbegun
  refine ⟨before, text, after, rfl, hcalls, ?_⟩
  have hrecorded : Recorded begun.transaction [] := by
    rw [htransaction]
    refine ⟨rfl, rfl, fun owner hknown => ?_, ?_, rfl⟩
    · cases hknown
    · simp
  apply wp_mono (TransactionStep.performAll_kept access hrecorded steps)
  intro r used hused
  obtain ⟨events, rfl, horiginal, horiginalOwner, hrecorded'⟩ := hused
  refine ⟨events, rfl, ?_⟩
  apply wp_mono (ClipboardTransaction.end_spec access hrecorded'.finalized ending)
  intro r ended hended
  obtain ⟨hanswer, made, hmade, hend⟩ := hended
  refine ⟨hanswer, made, hmade, ?_⟩
  apply safeEnd_of_endCalls _ _ hrecorded' hend
  · rw [horiginal, htransaction]
  · rw [horiginalOwner, htransaction]

end OpenSwitcher.SelectedText
