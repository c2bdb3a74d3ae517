import OpenSwitcher.SelectedText.Operation
/-!
# The clipboard after the operation

On a clipboard that always answers, and that is written to from outside only by the program
that copies the selection, the operation leaves the text that it found, whatever becomes of
its shortcuts.
-/

namespace OpenSwitcher.SelectedText

open Library Fallible

/-! ## A cooperative desktop -/

/-- What a clipboard holds, and how often others have written to it. -/
structure ClipboardView where
  text : List Char
  owner : ClipboardOwnerToken
  outsideWrites : Nat
deriving DecidableEq, Repr

/-- Without a write of others nothing changes. -/
def ClipboardView.Lapse (view view' : ClipboardView) : Prop :=
  view' = view ∨ view.outsideWrites < view'.outsideWrites

namespace ClipboardView.Lapse

variable {first second third : ClipboardView}

theorem refl (view : ClipboardView) : Lapse view view := .inl rfl

theorem le (h : Lapse first second) : first.outsideWrites ≤ second.outsideWrites := by
  rcases h with rfl | hlt
  · exact Nat.le_refl _
  · omega

theorem trans (h : Lapse first second) (h' : Lapse second third) : Lapse first third := by
  rcases h with rfl | hlt
  · exact h'
  · have hle := h'.le
    right
    omega

theorem eq_of_le (h : Lapse first second)
    (hle : second.outsideWrites ≤ first.outsideWrites) : second = first := by
  rcases h with hsame | hlt
  · exact hsame
  · omega

end ClipboardView.Lapse

open ClipboardView (Lapse)

variable {σ : Type}

/-- Every call to the clipboard succeeds, its owner is known, and its text and owner change with
writes only. Others may write at any time. -/
structure Cooperative (desktop : Desktop σ) (view : σ → ClipboardView) : Prop where
  getText : ∀ state, ∃ mid, Lapse (view state) mid ∧
    (desktop.access.getText state).1 = .ok mid.text ∧
    Lapse mid (view (desktop.access.getText state).2)
  ownerToken : ∀ state, ∃ mid, Lapse (view state) mid ∧
    (desktop.access.ownerToken state).1 = some mid.owner ∧
    Lapse mid (view (desktop.access.ownerToken state).2)
  setText : ∀ value state, (desktop.access.setText value state).1 = .ok () ∧
    ∃ mid, (view state).outsideWrites ≤ mid.outsideWrites ∧ mid.text = value ∧
      Lapse mid (view (desktop.access.setText value state).2)
  clear : ∀ state, (desktop.access.clear state).1 = .ok () ∧
    (view state).outsideWrites ≤ (view (desktop.access.clear state).2).outsideWrites
  now : ∀ state, Lapse (view state) (view (desktop.now state).2)
  sleep : ∀ durationMs state, Lapse (view state) (view (desktop.sleep durationMs state))
  copySelection : ∀ state, Lapse (view state) (view (desktop.copySelection state).2)
  pasteSelection : ∀ state, Lapse (view state) (view (desktop.pasteSelection state).2)
  nanos : ∀ state, Lapse (view state) (view (desktop.nanos state).2)

/-- The clock never goes back, and a sleep takes its time. -/
structure Clocked (desktop : Desktop σ) (time : σ → Nat) : Prop where
  getText : ∀ state, time state ≤ time (desktop.access.getText state).2
  ownerToken : ∀ state, time state ≤ time (desktop.access.ownerToken state).2
  setText : ∀ value state, time state ≤ time (desktop.access.setText value state).2
  now : ∀ state, time state ≤ (desktop.now state).1 ∧
    (desktop.now state).1 ≤ time (desktop.now state).2
  sleep : ∀ durationMs state, time state + durationMs ≤ time (desktop.sleep durationMs state)
  copySelection : ∀ state, time state ≤ time (desktop.copySelection state).2
  pasteSelection : ∀ state, time state ≤ time (desktop.pasteSelection state).2
  nanos : ∀ state, time state ≤ time (desktop.nanos state).2

/-- Looking at a candidate is looking at the clock. -/
theorem CopyPoll.candidate_of_now {desktop : Desktop σ}
    {P : ∀ α : Type, Clipboarding σ α → Prop}
    (hpure : ∀ {α : Type} (answer : α), P α (pure answer))
    (hbind : ∀ {α β : Type} {m : Clipboarding σ α} {f : α → Clipboarding σ β},
      P α m → (∀ answer, P β (f answer)) → P β (m >>= f))
    (hnow : P Nat (now desktop)) (poll : CopyPoll) (previousClipboard : ClipboardSnapshot)
    (started : Nat) (text : List Char) (owner : Option ClipboardOwnerToken) :
    P (Bool × CopyPoll) (poll.candidate desktop previousClipboard started text owner) := by
  unfold CopyPoll.candidate
  extract_lets isNewCandidate rest
  have hrest : ∀ poll, P _ (rest poll) := by
    intro poll
    unfold rest
    extract_lets last
    have hlast : ∀ stableFor, P _ (last stableFor) := by
      intro stableFor
      apply hbind hnow
      intro time
      exact hpure _
    cases poll.candidateChangedAt with
    | none => exact hlast 0
    | some instant =>
        apply hbind hnow
        intro time
        exact hlast (time - instant)
  by_cases hnew : isNewCandidate
  · rw [if_pos hnew]
    apply hbind hnow
    intro changedAt
    exact hrest { poll with
      candidateText := some text
      candidateOwner := owner
      candidateChangedAt := some changedAt }
  · rw [if_neg hnew]
    exact hrest poll

/-- What becomes of a desktop between two writes of the operation. -/
structure Passes (desktop : Desktop σ) (R : σ → σ → Prop) : Prop where
  refl : ∀ state, R state state
  trans : ∀ first second third, R first second → R second third → R first third
  getText : ∀ state, R state (desktop.access.getText state).2
  ownerToken : ∀ state, R state (desktop.access.ownerToken state).2
  now : ∀ state, R state (desktop.now state).2
  sleep : ∀ durationMs state, R state (desktop.sleep durationMs state)
  copySelection : ∀ state, R state (desktop.copySelection state).2
  pasteSelection : ∀ state, R state (desktop.pasteSelection state).2
  nanos : ∀ state, R state (desktop.nanos state).2

/-- The transaction is as it was, and the desktop has gone on. -/
def GoesOn (R : σ → σ → Prop) (world world' : ClipboardWorld σ) : Prop :=
  world'.transaction = world.transaction ∧ R world.clipboard world'.clipboard

section GoingOn

variable {desktop : Desktop σ} {R : σ → σ → Prop} (hpasses : Passes desktop R)
include hpasses

theorem goesOn_refl : Std.Refl (GoesOn R) where
  refl world := ⟨rfl, hpasses.refl world.clipboard⟩

theorem goesOn_trans : IsTrans (ClipboardWorld σ) (GoesOn R) where
  trans _ _ _ h h' := ⟨h'.1.trans h.1, hpasses.trans _ _ _ h.2 h'.2⟩

omit hpasses in
theorem asking_goesOn {α : Type} (f : σ → α × σ) (h : ∀ state, R state (f state).2) :
    Keeps (GoesOn R) (asking f) :=
  fun world => ⟨rfl, h world.clipboard⟩

theorem getText_goesOn : Keeps (GoesOn R) (getText desktop.access) :=
  fun world => ⟨rfl, hpasses.getText world.clipboard⟩

theorem ownerToken_goesOn : Keeps (GoesOn R) (ownerToken desktop.access) :=
  fun world => ⟨rfl, hpasses.ownerToken world.clipboard⟩

theorem readWithStableOwner_goesOn : Keeps (GoesOn R) (readWithStableOwner desktop.access) := by
  have howner := ownerToken_goesOn hpasses
  apply Keeps.bind (goesOn_trans hpasses) howner
  intro before
  apply Keeps.bind (goesOn_trans hpasses) (getText_goesOn hpasses)
  intro text
  apply Keeps.bind (goesOn_trans hpasses) howner
  intro after
  exact .pure (goesOn_refl hpasses) _

theorem now_goesOn : Keeps (GoesOn R) (now desktop) :=
  asking_goesOn desktop.now hpasses.now

theorem sleep_goesOn (durationMs : Nat) : Keeps (GoesOn R) (sleep desktop durationMs) :=
  asking_goesOn _ (hpasses.sleep durationMs)

theorem copySelection_goesOn : Keeps (GoesOn R) (copySelection desktop) := by
  apply Keeps.bind (goesOn_trans hpasses) (asking_goesOn desktop.copySelection hpasses.copySelection)
  intro sent
  exact .ofExcept (goesOn_refl hpasses) _

theorem pasteSelection_goesOn : Keeps (GoesOn R) (pasteSelection desktop) := by
  apply Keeps.bind (goesOn_trans hpasses)
    (asking_goesOn desktop.pasteSelection hpasses.pasteSelection)
  intro sent
  exact .ofExcept (goesOn_refl hpasses) _

theorem waitForClipboardSentinel_goesOn (sentinel : List Char) (started fuel : Nat) :
    Keeps (GoesOn R) (waitForClipboardSentinel desktop sentinel started fuel) := by
  induction fuel with
  | zero => exact .throw (goesOn_refl hpasses) _
  | succ fuel ih =>
      apply Keeps.bind (goesOn_trans hpasses) (getText_goesOn hpasses)
      intro text
      apply Keeps.ite (.pure (goesOn_refl hpasses) _)
      apply Keeps.bind (goesOn_trans hpasses) (now_goesOn hpasses)
      intro time
      apply Keeps.ite (.pure (goesOn_refl hpasses) _)
      apply Keeps.bind (goesOn_trans hpasses) (sleep_goesOn hpasses copyPollInterval)
      intro _
      exact ih

theorem candidate_goesOn (poll : CopyPoll) (previousClipboard : ClipboardSnapshot)
    (started : Nat) (text : List Char) (owner : Option ClipboardOwnerToken) :
    Keeps (GoesOn R) (poll.candidate desktop previousClipboard started text owner) :=
  CopyPoll.candidate_of_now (P := fun _ m => Keeps (GoesOn R) m)
    (.pure (goesOn_refl hpasses)) (.bind (goesOn_trans hpasses)) (now_goesOn hpasses) poll
    previousClipboard started text owner

end GoingOn

section Watching

variable {desktop : Desktop σ} {view : σ → ClipboardView} (hcooperative : Cooperative desktop view)
include hcooperative

/-- Only others have touched the clipboard, and the transaction is as it was. -/
abbrev Watches (view : σ → ClipboardView) : ClipboardWorld σ → ClipboardWorld σ → Prop :=
  GoesOn fun state state' => Lapse (view state) (view state')

theorem Cooperative.passes :
    Passes desktop fun state state' => Lapse (view state) (view state') where
  refl _ := .refl _
  trans _ _ _ h h' := h.trans h'
  getText state := by
    obtain ⟨mid, hbefore, _, hafter⟩ := hcooperative.getText state
    exact hbefore.trans hafter
  ownerToken state := by
    obtain ⟨mid, hbefore, _, hafter⟩ := hcooperative.ownerToken state
    exact hbefore.trans hafter
  now := hcooperative.now
  sleep := hcooperative.sleep
  copySelection := hcooperative.copySelection
  pasteSelection := hcooperative.pasteSelection
  nanos := hcooperative.nanos

omit hcooperative in
theorem watches_refl (world : ClipboardWorld σ) : Watches view world world := ⟨rfl, .refl _⟩

/-! ## What a call answers -/

theorem getText_answers (world : ClipboardWorld σ) :
    wp (getText desktop.access) (fun r world' => world'.transaction = world.transaction ∧
      ∃ mid, r = .ok (.ok mid.text) ∧ Lapse (view world.clipboard) mid ∧
        Lapse mid (view world'.clipboard)) world := by
  obtain ⟨mid, hbefore, hanswer, hafter⟩ := hcooperative.getText world.clipboard
  exact ⟨rfl, mid, congrArg Except.ok hanswer, hbefore, hafter⟩

theorem ownerToken_answers (world : ClipboardWorld σ) :
    wp (ownerToken desktop.access) (fun r world' => world'.transaction = world.transaction ∧
      ∃ mid, r = .ok (some mid.owner) ∧ Lapse (view world.clipboard) mid ∧
        Lapse mid (view world'.clipboard)) world := by
  obtain ⟨mid, hbefore, hanswer, hafter⟩ := hcooperative.ownerToken world.clipboard
  exact ⟨rfl, mid, congrArg Except.ok hanswer, hbefore, hafter⟩

theorem setText_answers (value : List Char) (world : ClipboardWorld σ) :
    wp (setText desktop.access value) (fun r world' => r = .ok (.ok ()) ∧
      world'.transaction = world.transaction ∧
      ∃ mid, (view world.clipboard).outsideWrites ≤ mid.outsideWrites ∧ mid.text = value ∧
        Lapse mid (view world'.clipboard)) world := by
  obtain ⟨hanswer, mid, hcount, htext, hafter⟩ := hcooperative.setText value world.clipboard
  exact ⟨congrArg Except.ok hanswer, rfl, mid, hcount, htext, hafter⟩

/-- A read shows the text of some moment, and without a write of others all there is. -/
theorem readWithStableOwner_answers (world : ClipboardWorld σ) :
    wp (readWithStableOwner desktop.access) (fun r world' =>
      world'.transaction = world.transaction ∧ ∃ mid owner, r = .ok ⟨.ok mid.text, owner⟩ ∧
        Lapse (view world.clipboard) mid ∧ Lapse mid (view world'.clipboard) ∧
        (view world'.clipboard = view world.clipboard → mid = view world.clipboard ∧
          owner = some (view world.clipboard).owner)) world := by
  unfold readWithStableOwner
  rw [wp_bind]
  apply wp_mono (ownerToken_answers hcooperative world)
  intro r first hfirst
  obtain ⟨htransaction, before, rfl, hbefore, hfirst⟩ := hfirst
  dsimp only
  rw [wp_bind]
  apply wp_mono (getText_answers hcooperative first)
  intro r second hsecond
  obtain ⟨htransaction', mid, rfl, hmid, hsecond⟩ := hsecond
  dsimp only
  rw [wp_bind]
  apply wp_mono (ownerToken_answers hcooperative second)
  intro r third hthird
  obtain ⟨htransaction'', after, rfl, hafter, hthird⟩ := hthird
  have hstart : Lapse (view world.clipboard) mid := (hbefore.trans hfirst).trans hmid
  have hend : Lapse mid (view third.clipboard) := (hsecond.trans hafter).trans hthird
  refine (wp_pure _).mpr ⟨?_, mid, _, rfl, hstart, hend, fun hsame => ?_⟩
  · rw [htransaction'', htransaction', htransaction]
  · have hcount : (view third.clipboard).outsideWrites ≤ (view world.clipboard).outsideWrites := by
      rw [hsame]
    have hrest : Lapse before (view third.clipboard) := (hfirst.trans hmid).trans hend
    have hafterStart : Lapse (view world.clipboard) after := (hstart.trans hsecond).trans hafter
    have hbefore' : before = view world.clipboard := by
      apply hbefore.eq_of_le
      have hle := hrest.le
      omega
    have hmid' : mid = view world.clipboard := by
      apply hstart.eq_of_le
      have hle := hend.le
      omega
    have hafter' : after = view world.clipboard := by
      apply hafterStart.eq_of_le
      have hle := hthird.le
      omega
    refine ⟨hmid', ?_⟩
    rw [hbefore', hafter']
    exact if_pos rfl

/-- A write succeeds, and until others write the clipboard is as the transaction has it in its
books. -/
theorem writeOperationText_answers (kind : OwnedTextKind) (value : List Char)
    (world : ClipboardWorld σ) :
    wp (ClipboardTransaction.writeOperationText desktop.access kind value) (fun r world' =>
      r = .ok () ∧ ∃ owner mid, (view world.clipboard).outsideWrites ≤ mid.outsideWrites ∧
        mid.text = value ∧ Lapse mid (view world'.clipboard) ∧
        world'.transaction = world.transaction.written kind value (some owner) ∧
        (view world'.clipboard = mid → owner = mid.owner)) world := by
  unfold ClipboardTransaction.writeOperationText
  rw [wp_bind]
  have hstart : wp (ClipboardTransaction.update fun transaction => transaction.writing kind value)
      (fun r first => r = .ok () ∧ first.clipboard = world.clipboard ∧
        first.transaction = world.transaction.writing kind value) world := ⟨rfl, rfl, rfl⟩
  apply wp_mono hstart
  intro r first hfirst
  obtain ⟨rfl, hclipboard, htransaction⟩ := hfirst
  dsimp only
  rw [wp_bind]
  apply wp_mono (setText_answers hcooperative value first)
  intro r second hsecond
  obtain ⟨rfl, htransaction', mid, hcount, htext, hmid⟩ := hsecond
  dsimp only [Except.mapError]
  rw [wp_bind, wp_ofExcept]
  dsimp only
  rw [wp_bind]
  apply wp_mono (ownerToken_answers hcooperative second)
  intro r third hthird
  obtain ⟨htransaction'', seen, rfl, hseen, hthird⟩ := hthird
  refine ⟨rfl, seen.owner, mid, hclipboard ▸ hcount, htext, ?_, ?_, ?_⟩
  · exact (hmid.trans hseen).trans hthird
  · change ClipboardTransaction.mk _ _ _ _ _ _ _ = _
    rw [htransaction'', htransaction', htransaction]
    rfl
  · intro hsame
    have hsame : view third.clipboard = mid := hsame
    have hseen' : seen = mid := by
      apply (hmid.trans hseen).eq_of_le
      have hle := hthird.le
      rw [hsame] at hle
      exact hle
    rw [hseen']

end Watching

/-! ## What can be given back -/

def ClipboardTransaction.Restorable (transaction : ClipboardTransaction) (text : List Char) :
    Prop :=
  transaction.original = .restorableText text ∧ transaction.originalOwner.isSome = true

/-- The books show the clipboard as it is. -/
def ClipboardTransaction.Holds (transaction : ClipboardTransaction) (view : ClipboardView) : Prop :=
  ∃ kind, transaction.current = some ⟨kind, view.text, some view.owner⟩

/-- At least `writes` times others have written, and if no more than that then the transaction
knows the text to give back. -/
structure Captured (writes : Nat) (text : List Char) (transaction : ClipboardTransaction)
    (view : ClipboardView) : Prop where
  le : writes ≤ view.outsideWrites
  restorable : view.outsideWrites = writes → transaction.Restorable text

/-- The same after a write of the operation: with no more than `writes` writes of others its
value is there, and with one more it is the old text or the value that can be relied on. -/
structure Placed (writes : Nat) (text value : List Char) (transaction : ClipboardTransaction)
    (view : ClipboardView) : Prop extends Captured writes text transaction view where
  holds : view.outsideWrites = writes → transaction.Holds view
  placed : view.outsideWrites = writes → view.text = value
  overwritten : view.outsideWrites = writes + 1 → view.text = value ∨ transaction.Restorable text

section Stability

variable {writes : Nat} {text value : List Char} {transaction : ClipboardTransaction}
  {first second : ClipboardView}

theorem Captured.lapse (h : Captured writes text transaction first) (hlapse : Lapse first second) :
    Captured writes text transaction second := by
  have hle := hlapse.le
  have hfirst := h.le
  refine ⟨by omega, fun hcount => h.restorable ?_⟩
  omega

theorem Placed.lapse (h : Placed writes text value transaction first)
    (hlapse : Lapse first second) : Placed writes text value transaction second := by
  have hfirst := h.le
  have hcaptured := h.toCaptured.lapse hlapse
  rcases hlapse with rfl | hlt
  · exact h
  · refine ⟨hcaptured, fun hcount => ?_, fun hcount => ?_, fun hcount => ?_⟩
    · omega
    · omega
    · exact .inr (h.restorable (by omega))

/-- A text that is not the operation's is a write of others. -/
theorem Placed.captured (h : Placed writes text value transaction first)
    (htext : first.text ≠ value) : Captured (writes + 1) text transaction first := by
  have hle := h.le
  by_cases hcount : first.outsideWrites = writes
  · exact absurd (h.placed hcount) htext
  · refine ⟨by omega, fun hone => ?_⟩
    rcases h.overwritten hone with hvalue | hrestorable
    · exact absurd hvalue htext
    · exact hrestorable

end Stability

/-! ## The steps of the operation -/

section Steps

variable {desktop : Desktop σ} {view : σ → ClipboardView} (hcooperative : Cooperative desktop view)
  {writes : Nat} {text : List Char}
include hcooperative

theorem begin_captures (world : ClipboardWorld σ) :
    wp (ClipboardTransaction.begin desktop.access) (fun r world' => r = .ok () ∧
      world'.transaction.lastMeaningfulText = none ∧ world'.transaction.finalized = false ∧
      Captured (view world.clipboard).outsideWrites (view world.clipboard).text
        world'.transaction (view world'.clipboard)) world := by
  unfold ClipboardTransaction.begin
  rw [wp_bind]
  apply wp_mono (readWithStableOwner_answers hcooperative world)
  intro r read hread
  obtain ⟨_, mid, owner, rfl, hbefore, hafter, hsame⟩ := hread
  have hlapse : Lapse (view world.clipboard) (view read.clipboard) := hbefore.trans hafter
  refine ⟨rfl, rfl, rfl, hlapse.le, fun hcount => ?_⟩
  have hview : view read.clipboard = view world.clipboard := by
    apply hlapse.eq_of_le
    exact Nat.le_of_eq hcount
  obtain ⟨hmid, howner⟩ := hsame hview
  rw [hmid, howner]
  exact ⟨rfl, rfl⟩

theorem writeOperationText_places (kind : OwnedTextKind) (value : List Char)
    {world : ClipboardWorld σ}
    (h : Captured writes text world.transaction (view world.clipboard)) :
    wp (ClipboardTransaction.writeOperationText desktop.access kind value) (fun r world' =>
      r = .ok () ∧ (∃ owner, world'.transaction = world.transaction.written kind value owner) ∧
      Placed writes text value world'.transaction (view world'.clipboard)) world := by
  apply wp_mono (writeOperationText_answers hcooperative kind value world)
  intro r world' hwrite
  obtain ⟨rfl, owner, mid, hcount, hvalue, hlapse, htransaction, howner⟩ := hwrite
  have hle := h.le
  have hle' := hlapse.le
  have hrestorable : world.transaction.Restorable text → world'.transaction.Restorable text := by
    rw [htransaction]
    exact id
  have hsame : (view world'.clipboard).outsideWrites ≤ mid.outsideWrites →
      view world'.clipboard = mid := hlapse.eq_of_le
  refine ⟨rfl, ⟨some owner, htransaction⟩, ⟨by omega, fun hwrites => ?_⟩, fun hwrites => ?_,
    fun hwrites => ?_, fun hwrites => ?_⟩
  · apply hrestorable
    apply h.restorable
    omega
  · have hmid := hsame (by omega)
    refine ⟨kind, ?_⟩
    rw [htransaction, hmid, hvalue, ← howner hmid]
    rfl
  · rw [hsame (by omega), hvalue]
  · by_cases hbefore : (view world.clipboard).outsideWrites = writes
    · exact .inr (hrestorable (h.restorable hbefore))
    · left
      rw [hsame (by omega), hvalue]

/-- The loop of the copied text has left `world` for `world'`; it answers with a text only if
others have written once more. -/
def Waited (view : σ → ClipboardView) (writes : Nat) (text sentinel : List Char)
    (transaction : ClipboardTransaction) (r : Except OperationError CopyOutcome)
    (world' : ClipboardWorld σ) : Prop :=
  world'.transaction = transaction ∧
  Placed writes text sentinel transaction (view world'.clipboard) ∧
  ∀ copied owner, r = .ok (.selectedText copied owner) →
    Captured (writes + 1) text transaction (view world'.clipboard)

/-- A candidate of the loop is a text that others have written. -/
def CopyPoll.Sound (view : σ → ClipboardView) (writes : Nat) (text : List Char)
    (poll : CopyPoll) (world : ClipboardWorld σ) : Prop :=
  poll.candidateText.isSome = true →
    Captured (writes + 1) text world.transaction (view world.clipboard)

omit hcooperative in
theorem CopyPoll.timeout_captures {sentinel : List Char} {poll : CopyPoll}
    {world : ClipboardWorld σ}
    (h : Placed writes text sentinel world.transaction (view world.clipboard))
    (hpoll : poll.Sound view writes text world) (previousClipboard : ClipboardSnapshot) :
    Waited view writes text sentinel world.transaction (.ok (poll.timeout previousClipboard))
      world := by
  refine ⟨rfl, h, fun copied owner hcopied => ?_⟩
  apply hpoll
  unfold CopyPoll.timeout at hcopied
  cases hcandidate : poll.candidateText with
  | none =>
      rw [hcandidate] at hcopied
      cases hcopied
  | some candidate => rfl

omit hcooperative in
theorem waited_error {sentinel : List Char} {world world' : ClipboardWorld σ}
    (h : Placed writes text sentinel world.transaction (view world.clipboard))
    (hwatches : Watches view world world') (error : OperationError) :
    Waited view writes text sentinel world.transaction (.error error) world' := by
  refine ⟨hwatches.1, h.lapse hwatches.2, fun copied owner hcopied => ?_⟩
  cases hcopied

omit hcooperative in
theorem Placed.watches {value : List Char} {world world' : ClipboardWorld σ}
    (h : Placed writes text value world.transaction (view world.clipboard))
    (hwatches : Watches view world world') :
    Placed writes text value world'.transaction (view world'.clipboard) := by
  rw [hwatches.1]
  exact h.lapse hwatches.2

omit hcooperative in
theorem Captured.watches {world world' : ClipboardWorld σ}
    (h : Captured writes text world.transaction (view world.clipboard))
    (hwatches : Watches view world world') :
    Captured writes text world'.transaction (view world'.clipboard) := by
  rw [hwatches.1]
  exact h.lapse hwatches.2

theorem waitForCopiedText_captures {sentinel : List Char} (previousClipboard : ClipboardSnapshot)
    (started fuel : Nat) (poll : CopyPoll) {world : ClipboardWorld σ}
    (h : Placed writes text sentinel world.transaction (view world.clipboard))
    (hpoll : poll.Sound view writes text world) :
    wp (waitForCopiedText desktop sentinel previousClipboard started fuel poll)
      (Waited view writes text sentinel world.transaction) world := by
  induction fuel generalizing poll world with
  | zero => exact waited_error h (watches_refl world) .unfinished
  | succ fuel ih =>
      -- the end of a round that has not accepted a text
      have hround (poll : CopyPoll) {read : ClipboardWorld σ}
          (hread : Placed writes text sentinel read.transaction (view read.clipboard))
          (hpoll : poll.Sound view writes text read) :
          wp (do
            let time ← now desktop
            if copyTimeout ≤ time - started then pure (poll.timeout previousClipboard)
            else do
              sleep desktop copyPollInterval
              waitForCopiedText desktop sentinel previousClipboard started fuel poll)
            (Waited view writes text sentinel read.transaction) read := by
        rw [wp_bind]
        apply wp_mono (now_goesOn hcooperative.passes read)
        intro r looked hlooked
        rw [← hlooked.1]
        cases r with
        | error error =>
            rw [hlooked.1]
            exact waited_error hread hlooked error
        | ok time =>
            have hplaced := hread.watches hlooked
            have hpoll' : poll.Sound view writes text looked :=
              fun hcandidate => (hpoll hcandidate).watches hlooked
            dsimp only
            by_cases htimeout : copyTimeout ≤ time - started
            · rw [if_pos htimeout]
              exact CopyPoll.timeout_captures hplaced hpoll' previousClipboard
            · rw [if_neg htimeout, wp_bind]
              apply wp_mono (sleep_goesOn hcooperative.passes copyPollInterval looked)
              intro r slept hslept
              rw [← hslept.1]
              cases r with
              | error error =>
                  rw [hslept.1]
                  exact waited_error hplaced hslept error
              | ok _ =>
                  apply ih poll (hplaced.watches hslept)
                  exact fun hcandidate => (hpoll' hcandidate).watches hslept
      unfold waitForCopiedText
      rw [wp_bind]
      apply wp_mono (readWithStableOwner_answers hcooperative world)
      intro r read hread
      obtain ⟨htransaction, mid, owner, rfl, hbefore, hafter, _⟩ := hread
      have hmid := h.lapse hbefore
      have hplaced : Placed writes text sentinel read.transaction (view read.clipboard) := by
        rw [htransaction]
        exact hmid.lapse hafter
      dsimp only
      rw [← htransaction]
      by_cases hsentinel : mid.text = sentinel
      · rw [if_neg (not_not_intro hsentinel)]
        apply hround { observedSentinel := true } hplaced
        intro hcandidate
        cases hcandidate
      · have hcaptured : Captured (writes + 1) text read.transaction (view read.clipboard) := by
          rw [htransaction]
          exact (hmid.captured hsentinel).lapse hafter
        rw [if_pos hsentinel, wp_bind]
        apply wp_mono (candidate_goesOn hcooperative.passes poll previousClipboard started mid.text owner
          read)
        intro r looked hlooked
        cases r with
        | error error => exact waited_error hplaced hlooked error
        | ok answer =>
            obtain ⟨accepted, poll⟩ := answer
            have hplaced' := hplaced.watches hlooked
            have hcaptured' := hcaptured.watches hlooked
            rw [← hlooked.1]
            cases accepted with
            | true => exact ⟨rfl, hplaced', fun _ _ _ => hcaptured'⟩
            | false => exact hround poll hplaced' fun _ => hcaptured'

/-- The writes of others that are the operation's business: the copy that was taken up. -/
def ClipboardTransaction.copiesTaken (transaction : ClipboardTransaction) : Nat :=
  if transaction.lastMeaningfulText.isSome then 1 else 0

/-- The clipboard is borrowed: if others have made no more than the copy that was taken up, then
the text can be given back. -/
structure Borrowed (view : σ → ClipboardView) (writes : Nat) (text : List Char)
    (world : ClipboardWorld σ) : Prop where
  finalized : world.transaction.finalized = false
  placed : ∃ value, Placed (writes + world.transaction.copiesTaken) text value world.transaction
    (view world.clipboard)

omit hcooperative in
theorem Borrowed.watches {world world' : ClipboardWorld σ} (h : Borrowed view writes text world)
    (hwatches : Watches view world world') : Borrowed view writes text world' := by
  obtain ⟨value, hplaced⟩ := h.placed
  refine ⟨?_, value, ?_⟩
  · rw [hwatches.1]
    exact h.finalized
  · have hplaced' := hplaced.watches hwatches
    rw [hwatches.1] at hplaced' ⊢
    exact hplaced'

omit hcooperative in
/-- Steps that only watch the clipboard keep it borrowed. -/
theorem borrowed_of_watches {α : Type} {m : Clipboarding σ α} (hm : Keeps (Watches view) m) :
    Preserves (Borrowed view writes text) m := by
  intro world hborrowed
  apply wp_mono (hm world)
  intro r world' hwatches
  exact hborrowed.watches hwatches

/-- The conversion and the paste of a copied text. -/
theorem pasteConverted_borrows {copied : List Char} {owner : Option ClipboardOwnerToken}
    {world : ClipboardWorld σ} (hfinalized : world.transaction.finalized = false)
    (h : Captured (writes + 1) text world.transaction (view world.clipboard)) :
    wp (do
      ClipboardTransaction.adoptSelectedText copied owner
      let outcome := convertSelectedText copied
      ClipboardTransaction.writeOperationText desktop.access .converted outcome.convertedText
      pasteSelection desktop
      sleep desktop pasteSettleTimeout
      pure (some outcome.direction))
      (fun _ world' => Borrowed view writes text world') world := by
  rw [wp_bind]
  have hadopt : wp (ClipboardTransaction.adoptSelectedText copied owner) (fun r adopted =>
      r = .ok () ∧ adopted.transaction.finalized = false ∧
      Captured (writes + 1) text adopted.transaction (view adopted.clipboard)) world :=
    ⟨rfl, hfinalized, h.le, h.restorable⟩
  apply wp_mono hadopt
  intro r adopted hadopted
  obtain ⟨rfl, hfinalized', hcaptured⟩ := hadopted
  dsimp only
  rw [wp_bind]
  apply wp_mono (writeOperationText_places hcooperative .converted _ hcaptured)
  intro r written hwritten
  obtain ⟨rfl, ⟨newOwner, htransaction⟩, hplaced⟩ := hwritten
  have hborrowed : Borrowed view writes text written := by
    refine ⟨?_, (convertSelectedText copied).convertedText, ?_⟩
    · rw [htransaction]
      exact hfinalized'
    · have htaken : written.transaction.copiesTaken = 1 := by
        rw [htransaction]
        rfl
      rw [htaken]
      exact hplaced
  dsimp only
  have hrest : Preserves (Borrowed view writes text) (do
      pasteSelection desktop
      sleep desktop pasteSettleTimeout
      pure (some (convertSelectedText copied).direction)) := by
    apply Preserves.bind (borrowed_of_watches (pasteSelection_goesOn hcooperative.passes))
    intro _
    apply Preserves.bind (borrowed_of_watches (sleep_goesOn hcooperative.passes pasteSettleTimeout))
    intro _
    exact .pure _
  exact hrest written hborrowed

/-- The sentinel is out, and no copy has been taken up. -/
structure Awaiting (view : σ → ClipboardView) (writes : Nat) (text sentinel : List Char)
    (world : ClipboardWorld σ) : Prop where
  finalized : world.transaction.finalized = false
  meaningful : world.transaction.lastMeaningfulText = none
  placed : Placed writes text sentinel world.transaction (view world.clipboard)

omit hcooperative in
theorem Awaiting.borrowed {sentinel : List Char} {world : ClipboardWorld σ}
    (h : Awaiting view writes text sentinel world) : Borrowed view writes text world := by
  refine ⟨h.finalized, sentinel, ?_⟩
  have htaken : world.transaction.copiesTaken = 0 := by
    unfold ClipboardTransaction.copiesTaken
    rw [h.meaningful]
    rfl
  rw [htaken]
  exact h.placed

omit hcooperative in
theorem awaiting_of_watches {sentinel : List Char} {α : Type} {m : Clipboarding σ α}
    (hm : Keeps (Watches view) m) : Preserves (Awaiting view writes text sentinel) m := by
  intro world hawaiting
  apply wp_mono (hm world)
  intro r world' hwatches
  refine ⟨?_, ?_, hawaiting.placed.watches hwatches⟩
  · rw [hwatches.1]
    exact hawaiting.finalized
  · rw [hwatches.1]
    exact hawaiting.meaningful

/-- The copy is waited for and, if it comes, replaced by its conversion. -/
theorem takeCopy_borrows (sentinel : List Char) (previousClipboard : ClipboardSnapshot)
    (started fuel : Nat) (poll : CopyPoll) (hpoll : poll.candidateText = none) :
    Triple (Awaiting view writes text sentinel) (do
      let copied ← waitForCopiedText desktop sentinel previousClipboard started fuel poll
      match copied with
      | .timedOut => pure none
      | .selectedText text owner => do
          ClipboardTransaction.adoptSelectedText text owner
          let outcome := convertSelectedText text
          ClipboardTransaction.writeOperationText desktop.access .converted outcome.convertedText
          pasteSelection desktop
          sleep desktop pasteSettleTimeout
          pure (some outcome.direction))
      (fun _ world' => Borrowed view writes text world') := by
  intro world h
  rw [wp_bind]
  have hsound : poll.Sound view writes text world := by
    intro hcandidate
    rw [hpoll] at hcandidate
    cases hcandidate
  apply wp_mono (waitForCopiedText_captures hcooperative previousClipboard started fuel poll
    h.placed hsound)
  intro r waited hwaited
  obtain ⟨htransaction, hplaced, hcopied⟩ := hwaited
  rw [← htransaction] at hplaced hcopied
  have hawaiting : Awaiting view writes text sentinel waited := by
    refine ⟨?_, ?_, hplaced⟩
    · rw [htransaction]
      exact h.finalized
    · rw [htransaction]
      exact h.meaningful
  cases r with
  | error error => exact hawaiting.borrowed
  | ok outcome =>
      cases outcome with
      | timedOut => exact hawaiting.borrowed
      | selectedText copied owner =>
          exact pasteConverted_borrows hcooperative hawaiting.finalized (hcopied copied owner rfl)

theorem replaceSelectedText_borrows (fuel : Nat) {world : ClipboardWorld σ}
    (hfinalized : world.transaction.finalized = false)
    (hmeaningful : world.transaction.lastMeaningfulText = none)
    (h : Captured writes text world.transaction (view world.clipboard)) :
    wp (replaceSelectedText desktop fuel) (fun _ world' => Borrowed view writes text world')
      world := by
  unfold replaceSelectedText
  rw [wp_bind, wp_read]
  dsimp only
  rw [wp_bind]
  have hunique : wp (uniqueClipboardSentinel desktop) (fun r world' =>
      (∃ sentinel, r = .ok sentinel) ∧ Watches view world world') world :=
    ⟨⟨_, rfl⟩, rfl, hcooperative.nanos world.clipboard⟩
  apply wp_mono hunique
  intro r named hnamed
  obtain ⟨⟨sentinel, rfl⟩, hwatches⟩ := hnamed
  dsimp only
  rw [wp_bind]
  apply wp_mono (writeOperationText_places hcooperative .sentinel sentinel (h.watches hwatches))
  intro r written hwritten
  obtain ⟨rfl, ⟨owner, htransaction⟩, hplaced⟩ := hwritten
  have hawaiting : Awaiting view writes text sentinel written := by
    rw [hwatches.1] at htransaction
    refine ⟨?_, ?_, hplaced⟩
    · rw [htransaction]
      exact hfinalized
    · rw [htransaction]
      exact hmeaningful
  dsimp only
  refine Triple.bind (awaiting_of_watches (now_goesOn hcooperative.passes)) ?_ ?_ written hawaiting
  · intro started
    apply Triple.bind (awaiting_of_watches
      (waitForClipboardSentinel_goesOn hcooperative.passes sentinel started fuel))
    · intro sentinelConfirmed
      apply Triple.bind (awaiting_of_watches (copySelection_goesOn hcooperative.passes))
      · intro _
        apply Triple.bind (awaiting_of_watches (now_goesOn hcooperative.passes))
        · intro started
          exact takeCopy_borrows hcooperative sentinel _ started fuel _ rfl
        · exact fun _ _ => Awaiting.borrowed
      · exact fun _ _ => Awaiting.borrowed
    · exact fun _ _ => Awaiting.borrowed
  · exact fun _ _ => Awaiting.borrowed

/-! ## The end of the operation -/

/-- A read that finds the clipboard as the books have it says that it is owned. -/
theorem ownershipStatus_owned (world : ClipboardWorld σ) :
    wp (ClipboardTransaction.ownershipStatus desktop.access) (fun r world' =>
      Watches view world world' ∧ ∃ status, r = .ok status ∧
        (view world'.clipboard = view world.clipboard →
          world.transaction.Holds (view world.clipboard) → status = .owned)) world := by
  unfold ClipboardTransaction.ownershipStatus
  rw [wp_bind, wp_read]
  dsimp only
  by_cases hnothing : (world.transaction.current.isNone &&
      world.transaction.pendingWrite.isNone) = true
  · rw [if_pos hnothing]
    refine (wp_pure _).mpr ⟨watches_refl world, _, rfl, fun _ hholds => ?_⟩
    obtain ⟨kind, hcurrent⟩ := hholds
    rw [hcurrent] at hnothing
    cases hnothing
  · rw [if_neg hnothing, wp_bind]
    apply wp_mono (readWithStableOwner_answers hcooperative world)
    intro r read hread
    obtain ⟨htransaction, mid, owner, rfl, hbefore, hafter, hsame⟩ := hread
    refine (wp_pure _).mpr ⟨⟨htransaction, hbefore.trans hafter⟩, _, rfl, fun hview hholds => ?_⟩
    obtain ⟨rfl, rfl⟩ := hsame hview
    obtain ⟨kind, hcurrent⟩ := hholds
    unfold ClipboardTransaction.classify
    apply if_pos
    rw [hcurrent]
    simp [Except.toOption]

/-- The rollback gives the text back if others have made no more than the expected writes. -/
theorem rollback_restores {value : List Char} {world : ClipboardWorld σ}
    (h : Placed writes text value world.transaction (view world.clipboard)) :
    wp (ClipboardTransaction.rollback desktop.access) (fun _ world' =>
      (view world'.clipboard).outsideWrites ≤ writes → (view world'.clipboard).text = text)
      world := by
  have hle := h.le
  -- an end that keeps its hands off the clipboard is not one of a held clipboard
  have huntouched {world' : ClipboardWorld σ} (hwatches : Watches view world world')
      (hcount : (view world'.clipboard).outsideWrites ≤ writes) :
      view world'.clipboard = view world.clipboard ∧ world.transaction.Restorable text ∧
        world.transaction.Holds (view world.clipboard) := by
    have hle' := hwatches.2.le
    have hsame := hwatches.2.eq_of_le (by omega)
    have hwrites : (view world.clipboard).outsideWrites = writes := by omega
    exact ⟨hsame, h.restorable hwrites, h.holds hwrites⟩
  unfold ClipboardTransaction.rollback
  rw [wp_bind, wp_read]
  dsimp only
  cases horiginal : world.transaction.original with
  | restorableText previous =>
      dsimp only
      by_cases howner : world.transaction.originalOwner.isNone = true
      · rw [if_pos howner]
        refine (wp_pure _).mpr fun hcount => ?_
        obtain ⟨_, hrestorable, _⟩ := huntouched (watches_refl world) hcount
        rw [Option.isNone_iff_eq_none] at howner
        rw [ClipboardTransaction.Restorable, howner] at hrestorable
        cases hrestorable.2
      · rw [if_neg howner, wp_bind]
        apply wp_mono (ownershipStatus_owned hcooperative world)
        intro r read hread
        obtain ⟨hwatches, status, rfl, howned⟩ := hread
        have hnotOwned (hstatus : status ≠ .owned) :
            (view read.clipboard).outsideWrites ≤ writes → (view read.clipboard).text = text := by
          intro hcount
          obtain ⟨hsame, _, hholds⟩ := huntouched hwatches hcount
          exact absurd (howned hsame hholds) hstatus
        cases status with
        | owned =>
            dsimp only
            rw [wp_bind]
            apply wp_mono (setText_answers hcooperative previous read)
            intro r restored hrestored
            obtain ⟨rfl, _, mid, hcount, htext, hlapse⟩ := hrestored
            refine (wp_pure _).mpr fun hwrites => ?_
            have hmid := hlapse.le
            have hsame := hlapse.eq_of_le (by
              have hread := hwatches.2.le
              omega)
            obtain ⟨_, hrestorable, _⟩ := huntouched hwatches (by omega)
            rw [ClipboardTransaction.Restorable, horiginal] at hrestorable
            cases hrestorable.1
            rw [hsame]
            exact htext
        | foreign => exact hnotOwned (by decide)
        | uncertain => exact hnotOwned (by decide)
        | nothingToClean => exact hnotOwned (by decide)
  | unrestorable =>
      have hbeyond : writes < (view world.clipboard).outsideWrites := by
        by_contra hwithin
        have hrestorable := h.restorable (by omega)
        rw [ClipboardTransaction.Restorable, horiginal] at hrestorable
        cases hrestorable.1
      dsimp only
      rw [wp_bind]
      apply wp_mono (ownershipStatus_owned hcooperative world)
      intro r read hread
      obtain ⟨hwatches, status, rfl, _⟩ := hread
      have hread := hwatches.2.le
      have hfar : (view read.clipboard).outsideWrites ≤ writes →
          (view read.clipboard).text = text := by
        intro hcount
        omega
      cases world.transaction.onlySentinel with
      | false =>
          cases status with
          | _ => exact hfar
      | true =>
          cases status with
          | owned =>
              dsimp only
              rw [wp_bind]
              obtain ⟨_, hclear⟩ := hcooperative.clear read.clipboard
              have hcleared : wp (clear desktop.access) (fun r cleared => (∃ answer, r = .ok answer) ∧
                  (view read.clipboard).outsideWrites ≤ (view cleared.clipboard).outsideWrites)
                  read := ⟨⟨_, rfl⟩, hclear⟩
              apply wp_mono hcleared
              intro r cleared hcleared
              obtain ⟨⟨answer, rfl⟩, hle'⟩ := hcleared
              refine (wp_pure _).mpr fun hcount => ?_
              omega
          | _ => exact hfar

/-- Whatever finishes the transaction gives the text back, and the drop after it does nothing. -/
theorem finish_restores {β : Type} (answer : CleanupOutcome → β) {world : ClipboardWorld σ}
    (h : Borrowed view writes text world) :
    wp (do
      let outcome ← ClipboardTransaction.rollback desktop.access
      ClipboardTransaction.update fun transaction => { transaction with finalized := true }
      ClipboardTransaction.drop desktop.access
      pure (answer outcome) : Clipboarding σ β)
      (fun r world' => (∃ answer, r = .ok answer) ∧
        ((view world'.clipboard).outsideWrites ≤ writes + world'.transaction.copiesTaken →
          (view world'.clipboard).text = text)) world := by
  obtain ⟨value, hplaced⟩ := h.placed
  rw [wp_bind]
  apply wp_mono (wp_and (rollback_restores hcooperative hplaced)
    (ClipboardTransaction.rollback_spec desktop.access world))
  intro r ended hended
  obtain ⟨hrestores, ⟨outcome, rfl⟩, htransaction, _⟩ := hended
  rw [← htransaction] at hrestores
  exact ⟨⟨_, rfl⟩, hrestores⟩

theorem drop_restores {world : ClipboardWorld σ} (h : Borrowed view writes text world) :
    wp (ClipboardTransaction.drop desktop.access) (fun r world' => (∃ answer, r = .ok answer) ∧
      ((view world'.clipboard).outsideWrites ≤ writes + world'.transaction.copiesTaken →
        (view world'.clipboard).text = text)) world := by
  obtain ⟨value, hplaced⟩ := h.placed
  unfold ClipboardTransaction.drop
  rw [wp_bind, wp_read]
  dsimp only
  rw [if_neg (by simp [h.finalized]), wp_bind]
  apply wp_mono (wp_and (rollback_restores hcooperative hplaced)
    (ClipboardTransaction.rollback_spec desktop.access world))
  intro r ended hended
  obtain ⟨hrestores, ⟨outcome, rfl⟩, htransaction, _⟩ := hended
  rw [← htransaction] at hrestores
  exact ⟨⟨_, rfl⟩, hrestores⟩

theorem execute_restores (fuel : Nat) (world : ClipboardWorld σ) :
    wp (execute desktop fuel) (fun _ world' =>
      (view world'.clipboard).outsideWrites ≤
        (view world.clipboard).outsideWrites + world'.transaction.copiesTaken →
      (view world'.clipboard).text = (view world.clipboard).text) world := by
  unfold execute
  rw [wp_bind]
  apply wp_mono (begin_captures hcooperative world)
  intro r begun hbegun
  obtain ⟨rfl, hmeaningful, hfinalized, hcaptured⟩ := hbegun
  dsimp only
  rw [wp_bind, wp_attempt]
  apply wp_mono (replaceSelectedText_borrows hcooperative fuel hfinalized hmeaningful hcaptured)
  intro replaced world' hborrowed
  cases replaced with
  | error error =>
      dsimp only
      rw [wp_bind]
      apply wp_mono (drop_restores hcooperative hborrowed)
      intro r ended hended
      obtain ⟨⟨_, rfl⟩, hrestores⟩ := hended
      exact hrestores
  | ok direction =>
      cases direction with
      | none =>
          dsimp only
          rw [wp_bind]
          apply wp_mono (finish_restores hcooperative (fun _ => ()) hborrowed)
          intro r ended hended
          obtain ⟨⟨_, rfl⟩, hrestores⟩ := hended
          exact hrestores
      | some direction =>
          dsimp only
          unfold ClipboardTransaction.finishSuccess
          rw [wp_bind, wp_bind, wp_read]
          apply wp_mono (finish_restores hcooperative _ hborrowed)
          intro r ended hended
          obtain ⟨⟨_, rfl⟩, hrestores⟩ := hended
          exact hrestores

end Steps

/-! ## The operation ends -/

/-- The program does not run out of rounds. -/
def Finishes {α : Type} (m : Clipboarding σ α) : Prop :=
  Triple (fun _ => True) m fun r _ => r ≠ .error .unfinished

section Ending

variable {desktop : Desktop σ} {time : σ → Nat} {α β : Type}

theorem Finishes.bind {m : Clipboarding σ β} {f : β → Clipboarding σ α} (hm : Finishes m)
    (hf : ∀ answer, Finishes (f answer)) : Finishes (m >>= f) := by
  refine Triple.bind hm (fun answer world _ => hf answer world trivial) ?_
  intro error world herror hunfinished
  apply herror
  cases hunfinished
  rfl

theorem Finishes.pure (answer : α) : Finishes (Pure.pure answer : Clipboarding σ α) := by
  intro world _ hunfinished
  cases hunfinished

theorem Finishes.attempt_bind {m : Clipboarding σ β} {f : Except OperationError β → Clipboarding σ α}
    (hm : Finishes m) (hf : ∀ r, r ≠ .error .unfinished → Finishes (f r)) :
    Finishes (Fallible.attempt m >>= f) := by
  intro world _
  rw [wp_bind, wp_attempt]
  apply wp_mono (hm world trivial)
  intro r world' hr
  exact hf r hr world' trivial

theorem Finishes.of_ok {m : Clipboarding σ α} {Q : ClipboardWorld σ → ClipboardWorld σ → Prop}
    (h : ∀ world, wp m (fun r world' => (∃ answer, r = .ok answer) ∧ Q world world') world) :
    Finishes m := by
  intro world _
  apply wp_mono (h world)
  intro r world' hr hunfinished
  obtain ⟨⟨answer, rfl⟩, _⟩ := hr
  cases hunfinished

theorem calling_finishes (f : σ → α × σ) (call : α → ClipboardCall) :
    Finishes (calling f call) := by
  intro world _ hunfinished
  cases hunfinished

theorem asking_finishes (f : σ → α × σ) : Finishes (asking f) := by
  intro world _ hunfinished
  cases hunfinished

theorem candidate_finishes (desktop : Desktop σ) (poll : CopyPoll)
    (previousClipboard : ClipboardSnapshot) (started : Nat) (text : List Char)
    (owner : Option ClipboardOwnerToken) :
    Finishes (poll.candidate desktop previousClipboard started text owner) :=
  CopyPoll.candidate_of_now (P := fun _ m => Finishes m) .pure .bind (asking_finishes _) poll
    previousClipboard started text owner

theorem readWithStableOwner_finishes (access : ClipboardAccess σ) :
    Finishes (readWithStableOwner access) := by
  apply Finishes.bind (calling_finishes _ _)
  intro before
  apply Finishes.bind (calling_finishes _ _)
  intro text
  apply Finishes.bind (calling_finishes _ _)
  intro after
  exact .pure _

theorem update_finishes (f : ClipboardTransaction → ClipboardTransaction) :
    Finishes (ClipboardTransaction.update f : Clipboarding σ Unit) := by
  intro world _ hunfinished
  cases hunfinished

theorem read_finishes (f : ClipboardWorld σ → α) :
    Finishes (Fallible.read f : Clipboarding σ α) := by
  intro world _ hunfinished
  cases hunfinished

/-- An error of the keyboard is not the end of the rounds. -/
theorem transport_finishes (f : σ → Except SwitcherError Unit × σ) :
    Finishes (do
      let sent ← asking f
      Fallible.ofExcept (sent.mapError .transport) : Clipboarding σ Unit) := by
  apply Finishes.bind (asking_finishes f)
  intro sent world _ hunfinished
  cases sent with
  | error error => cases hunfinished
  | ok _ => cases hunfinished

theorem writeOperationText_finishes (access : ClipboardAccess σ) (kind : OwnedTextKind)
    (value : List Char) :
    Finishes (ClipboardTransaction.writeOperationText access kind value) := by
  intro world _
  apply wp_mono (ClipboardTransaction.writeOperationText_spec access kind value world)
  intro r world' hwrite hunfinished
  rcases hwrite with ⟨owner, rfl, _⟩ | ⟨error, rfl, _⟩
  · cases hunfinished
  · cases hunfinished

theorem rollback_finishes (access : ClipboardAccess σ) :
    Finishes (ClipboardTransaction.rollback access) :=
  .of_ok (ClipboardTransaction.rollback_spec access)

theorem drop_finishes (access : ClipboardAccess σ) :
    Finishes (ClipboardTransaction.drop access) := by
  apply Finishes.bind (read_finishes _)
  intro finalized
  cases finalized with
  | true => exact .pure ()
  | false => exact Finishes.bind (rollback_finishes access) fun _ => .pure ()

theorem finish_finishes (access : ClipboardAccess σ) (answer : CleanupOutcome → β) :
    Finishes (do
      let outcome ← ClipboardTransaction.rollback access
      ClipboardTransaction.update fun transaction => { transaction with finalized := true }
      ClipboardTransaction.drop access
      pure (answer outcome) : Clipboarding σ β) :=
  .of_ok (ClipboardTransaction.finish_spec access answer)

section Clocks

variable (hclocked : Clocked desktop time)
include hclocked

theorem Clocked.passes : Passes desktop fun state state' => time state ≤ time state' where
  refl _ := Nat.le_refl _
  trans _ _ _ h h' := Nat.le_trans h h'
  getText := hclocked.getText
  ownerToken := hclocked.ownerToken
  now state := (hclocked.now state).1.trans (hclocked.now state).2
  sleep durationMs state := by
    have hsleep := hclocked.sleep durationMs state
    omega
  copySelection := hclocked.copySelection
  pasteSelection := hclocked.pasteSelection
  nanos := hclocked.nanos

/-- Running out of rounds is no end of a loop that still has time to spend. -/
def EndsBy (time : σ → Nat) (limit fuel : Nat) (m : Clipboarding σ α) : Prop :=
  Triple (fun world => limit ≤ time world.clipboard + copyPollInterval * fuel) m
    fun r _ => r ≠ .error .unfinished

/-- The end of a round: each of them takes the time of a sleep. -/
theorem pollRound_endsBy {rest : Clipboarding σ α} {answer : α} {started timeout fuel : Nat}
    (hrest : ∀ rounds, fuel = rounds + 1 → EndsBy time (started + timeout) rounds rest) :
    EndsBy time (started + timeout) fuel (do
      let instant ← now desktop
      if timeout ≤ instant - started then pure answer
      else do
        sleep desktop copyPollInterval
        rest) := by
  intro world hlimit
  rw [wp_bind]
  obtain ⟨hbefore, hafter⟩ := hclocked.now world.clipboard
  have hnow : wp (now desktop) (fun r looked => ∃ instant, r = .ok instant ∧
      time world.clipboard ≤ instant ∧ instant ≤ time looked.clipboard) world :=
    ⟨_, rfl, hbefore, hafter⟩
  apply wp_mono hnow
  intro r looked hlooked
  obtain ⟨instant, rfl, hinstant, hlooked⟩ := hlooked
  dsimp only
  by_cases htimeout : timeout ≤ instant - started
  · rw [if_pos htimeout]
    exact Finishes.pure answer looked trivial
  · rw [if_neg htimeout, wp_bind]
    have hslept := hclocked.sleep copyPollInterval looked.clipboard
    cases fuel with
    | zero => omega
    | succ rounds =>
        have hsleep : wp (sleep desktop copyPollInterval) (fun r slept => r = .ok () ∧
            time looked.clipboard + copyPollInterval ≤ time slept.clipboard) looked :=
          ⟨rfl, hslept⟩
        apply wp_mono hsleep
        intro r slept hslept
        obtain ⟨rfl, hslept⟩ := hslept
        apply hrest rounds rfl slept
        rw [Nat.mul_succ] at hlimit
        omega

omit hclocked in
/-- Without a write, time only gets later. -/
theorem EndsBy.bind {m : Clipboarding σ β} {f : β → Clipboarding σ α} {limit fuel : Nat}
    (hm : Finishes m) (hlater : Keeps (GoesOn fun state state' => time state ≤ time state') m)
    (hf : ∀ answer, EndsBy time limit fuel (f answer)) : EndsBy time limit fuel (m >>= f) := by
  intro world hlimit
  rw [wp_bind]
  apply wp_mono (wp_and (hm world trivial) (hlater world))
  intro r world' hworld
  obtain ⟨hr, _, hlater⟩ := hworld
  cases r with
  | error error =>
      intro hunfinished
      apply hr
      cases hunfinished
      rfl
  | ok answer =>
      apply hf answer world'
      omega

omit hclocked in
/-- A loop over some variables ends if each of its rounds does. -/
theorem endsBy_of_round {ι : Type} (loop : Nat → ι → Clipboarding σ α) {limit : Nat}
    (hround : ∀ fuel, (∀ vars rounds, fuel = rounds + 1 →
      EndsBy time limit rounds (loop fuel vars)) →
        ∀ vars, EndsBy time limit fuel (loop (fuel + 1) vars))
    (fuel : Nat) (vars : ι) : EndsBy time limit fuel (loop (fuel + 1) vars) := by
  induction fuel generalizing vars with
  | zero =>
      apply hround
      intro vars rounds hrounds
      cases hrounds
  | succ fuel ih =>
      apply hround
      intro vars rounds hrounds
      cases hrounds
      exact ih vars

theorem waitForClipboardSentinel_endsBy (sentinel : List Char) (started fuel : Nat) :
    EndsBy time (started + sentinelConfirmTimeout) fuel
      (waitForClipboardSentinel desktop sentinel started (fuel + 1)) := by
  refine endsBy_of_round (fun fuel _ => waitForClipboardSentinel desktop sentinel started fuel)
    (fun fuel hrest _ => ?_) fuel ()
  unfold waitForClipboardSentinel
  apply EndsBy.bind (calling_finishes _ _) (getText_goesOn hclocked.passes)
  intro text
  by_cases hconfirmed : text.toOption = some sentinel
  · rw [if_pos hconfirmed]
    exact fun world _ => Finishes.pure true world trivial
  · rw [if_neg hconfirmed]
    exact pollRound_endsBy hclocked (hrest ())

theorem waitForCopiedText_endsBy (sentinel : List Char) (previousClipboard : ClipboardSnapshot)
    (started fuel : Nat) (poll : CopyPoll) :
    EndsBy time (started + copyTimeout) fuel
      (waitForCopiedText desktop sentinel previousClipboard started (fuel + 1) poll) := by
  apply endsBy_of_round (waitForCopiedText desktop sentinel previousClipboard started)
  intro fuel hrest poll
  -- the end of a round that has not accepted a text
  have hround (poll : CopyPoll) : EndsBy time (started + copyTimeout) fuel (do
      let time ← now desktop
      if copyTimeout ≤ time - started then pure (poll.timeout previousClipboard)
      else do
        sleep desktop copyPollInterval
        waitForCopiedText desktop sentinel previousClipboard started fuel poll) :=
    pollRound_endsBy hclocked (hrest poll)
  unfold waitForCopiedText
  apply EndsBy.bind (readWithStableOwner_finishes _) (readWithStableOwner_goesOn hclocked.passes)
  intro observation
  cases observation.text with
  | error error => exact hround poll
  | ok text =>
      dsimp only
      by_cases hsentinel : text = sentinel
      · rw [if_neg (not_not_intro hsentinel)]
        exact hround { observedSentinel := true }
      · rw [if_pos hsentinel]
        apply EndsBy.bind (candidate_finishes _ _ _ _ _ _) (candidate_goesOn hclocked.passes _ _ _ _ _)
        intro answer
        obtain ⟨accepted, poll⟩ := answer
        cases accepted with
        | true => exact fun world _ => Finishes.pure _ world trivial
        | false => exact hround poll

/-- A loop that starts from a look at the clock has rounds for its whole time. -/
theorem now_bind_finishes {m : Nat → Clipboarding σ β} {f : β → Clipboarding σ α}
    {timeout rounds : Nat} (hrounds : timeout ≤ copyPollInterval * rounds)
    (hm : ∀ started, EndsBy time (started + timeout) rounds (m started))
    (hf : ∀ answer, Finishes (f answer)) :
    Finishes (do
      let started ← now desktop
      let answer ← m started
      f answer) := by
  intro world _
  rw [wp_bind]
  obtain ⟨_, hafter⟩ := hclocked.now world.clipboard
  have hnow : wp (now desktop) (fun r looked => ∃ instant, r = .ok instant ∧
      instant ≤ time looked.clipboard) world := ⟨_, rfl, hafter⟩
  apply wp_mono hnow
  intro r looked hlooked
  obtain ⟨started, rfl, hlooked⟩ := hlooked
  have hstart : started + timeout ≤ time looked.clipboard + copyPollInterval * rounds := by
    omega
  dsimp only
  rw [wp_bind]
  apply wp_mono (hm started looked hstart)
  intro r waited hwaited
  cases r with
  | error error =>
      intro hunfinished
      apply hwaited
      cases hunfinished
      rfl
  | ok answer => exact hf answer waited trivial

theorem replaceSelectedText_finishes {fuel : Nat} (hfuel : 91 ≤ fuel) :
    Finishes (replaceSelectedText desktop fuel) := by
  obtain ⟨rounds, rfl⟩ : ∃ rounds, fuel = rounds + 1 := ⟨fuel - 1, by omega⟩
  apply Finishes.bind (read_finishes _)
  intro previousClipboard
  apply Finishes.bind (.bind (asking_finishes _) fun _ => .pure _)
  intro sentinel
  apply Finishes.bind (writeOperationText_finishes _ _ _)
  intro _
  refine now_bind_finishes hclocked ?_
    (fun started => waitForClipboardSentinel_endsBy hclocked sentinel started rounds) ?_
  · change 120 ≤ 10 * rounds
    omega
  · intro sentinelConfirmed
    apply Finishes.bind (transport_finishes _)
    intro _
    refine now_bind_finishes hclocked ?_
      (fun started => waitForCopiedText_endsBy hclocked sentinel previousClipboard started rounds _) ?_
    · change 900 ≤ 10 * rounds
      omega
    · intro copied
      cases copied with
      | timedOut => exact .pure none
      | selectedText text owner =>
          apply Finishes.bind (update_finishes _)
          intro _
          apply Finishes.bind (writeOperationText_finishes _ _ _)
          intro _
          apply Finishes.bind (transport_finishes _)
          intro _
          apply Finishes.bind (asking_finishes _)
          intro _
          exact .pure _

/-- Ninety-one rounds are enough for both loops. -/
theorem execute_finishes {fuel : Nat} (hfuel : 91 ≤ fuel) : Finishes (execute desktop fuel) := by
  apply Finishes.bind
  · apply Finishes.bind (readWithStableOwner_finishes _)
    intro observation
    exact update_finishes _
  intro _
  apply Finishes.attempt_bind (replaceSelectedText_finishes hclocked hfuel)
  intro r hr
  cases r with
  | error error =>
      apply Finishes.bind (drop_finishes _)
      intro _ world _ hunfinished
      apply hr
      cases hunfinished
      rfl
  | ok direction =>
      cases direction with
      | none =>
          apply Finishes.bind (finish_finishes _ fun _ => ())
          intro _
          exact .pure _
      | some direction =>
          apply Finishes.bind
          · apply Finishes.bind (read_finishes _)
            intro original
            exact finish_finishes _ _
          · intro disposition
            exact .pure _

end Clocks

end Ending

/-- A transaction ends safely whatever the clipboard answers and whatever came before. The
operation on the selected text comes to an end on a desktop whose calls all succeed, and if the
copy that it took up, if any, is the only write of others, then every end leaves the original
text. -/
theorem clipboard_rollback_safety :
    (∀ (σ : Type) (access : ClipboardAccess σ) (steps : List TransactionStep)
      (ending : TransactionEnd) (world : ClipboardWorld σ),
      wp (ClipboardTransaction.begin access) (fun r begun => ∃ before text after, r = .ok () ∧
        begun.calls = world.calls ++ readCalls before text after ∧
        wp (TransactionStep.performAll access steps) (fun r used => ∃ events, r = .ok events ∧
          wp (ending.run access) (fun r ended => (∃ answer, r = .ok answer) ∧
            ∃ made, ended.calls = used.calls ++ made ∧
              SafeEnd text (stableOwner before after) events made) used) begun) world) ∧
    ∀ (σ : Type) (desktop : Desktop σ) (view : σ → ClipboardView) (time : σ → Nat),
      Cooperative desktop view → Clocked desktop time →
      ∀ fuel, 91 ≤ fuel → ∀ world : ClipboardWorld σ,
        wp (execute desktop fuel) (fun r world' => r ≠ .error .unfinished ∧
          ((view world'.clipboard).outsideWrites ≤
            (view world.clipboard).outsideWrites + world'.transaction.copiesTaken →
              (view world'.clipboard).text = (view world.clipboard).text)) world := by
  refine ⟨fun _ access steps ending world => transaction_ends_safely access steps ending world, ?_⟩
  intro σ desktop view time hcooperative hclocked fuel hfuel world
  apply wp_and
  · exact execute_finishes hclocked hfuel world trivial
  · exact execute_restores hcooperative fuel world

/-- A program that copies its selection at once, on a desktop whose paste shortcut fails. -/
def brokenPaste : Desktop (ClipboardView × Nat) where
  access := {
    getText := fun state => (.ok state.1.text, state)
    setText := fun value state => (.ok (), ({ state.1 with text := value, owner := ⟨1⟩ }, state.2))
    clear := fun state => (.ok (), ({ state.1 with text := [] }, state.2))
    ownerToken := fun state => (some state.1.owner, state) }
  now state := (state.2, state)
  sleep durationMs state := (state.1, state.2 + durationMs)
  copySelection state := (.ok (), (⟨"ghbdtn".toList, ⟨2⟩, state.1.outsideWrites + 1⟩, state.2))
  pasteSelection state := (.error .virtualKeyboardWriterSaturated, state)
  nanos state := ("17".toList, state)

theorem brokenPaste_cooperative : Cooperative brokenPaste Prod.fst where
  getText state := ⟨state.1, .refl _, rfl, .refl _⟩
  ownerToken state := ⟨state.1, .refl _, rfl, .refl _⟩
  setText value state := ⟨rfl, ⟨value, ⟨1⟩, state.1.outsideWrites⟩, Nat.le_refl _, rfl, .refl _⟩
  clear _ := ⟨rfl, Nat.le_refl _⟩
  now _ := .refl _
  sleep _ _ := .refl _
  copySelection _ := .inr (Nat.lt_succ_self _)
  pasteSelection _ := .refl _
  nanos _ := .refl _

theorem brokenPaste_clocked : Clocked brokenPaste Prod.snd where
  getText _ := Nat.le_refl _
  ownerToken _ := Nat.le_refl _
  setText _ _ := Nat.le_refl _
  now _ := ⟨Nat.le_refl _, Nat.le_refl _⟩
  sleep _ _ := Nat.le_refl _
  copySelection _ := Nat.le_refl _
  pasteSelection _ := Nat.le_refl _
  nanos _ := Nat.le_refl _

def beforeBrokenPaste : ClipboardWorld (ClipboardView × Nat) where
  clipboard := (⟨"old".toList, ⟨3⟩, 0⟩, 0)
  transaction := { original := .unrestorable, originalOwner := none }

theorem clipboard_rollback_safety_brokenPaste :
    (outcome (execute brokenPaste 91) beforeBrokenPaste).2.clipboard.1.text = "old".toList := by
  have hsafe := clipboard_rollback_safety.2 _ brokenPaste Prod.fst Prod.snd
    brokenPaste_cooperative brokenPaste_clocked 91 (Nat.le_refl 91) beforeBrokenPaste
  apply hsafe.2
  decide +kernel

end OpenSwitcher.SelectedText
