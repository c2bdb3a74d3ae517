import OpenSwitcher.Capture.Session
/-!
# Capture routing is balanced

A key whose press the capture swallows is swallowed until its release, and a key
whose press went through stays visible until its release, whatever the lease does
in between.
-/

namespace OpenSwitcher

open Key

namespace LayoutSwitchCaptureSession

/-! ## Runs -/

/-- What can happen to a session between two input epochs. -/
inductive CaptureStep where
  | event (now : Nat) (key : Key) (value : Int)
  | startOwned (owner : CaptureOwner) (now : Nat)
  | renewOwned (owner : CaptureOwner) (now : Nat)
  | cancelOwned (owner : CaptureOwner) (now : Nat)
  | finishOwned (owner : CaptureOwner) (now : Nat)
  | ownerDisappeared (owner : CaptureOwner) (now : Nat)
  | expireAt (now : Nat)
deriving DecidableEq, Repr

/-- An event together with where it was routed. -/
structure RoutedKey where
  key : Key
  value : Int
  disposition : CaptureEventDisposition
deriving DecidableEq, Repr

def step (session : LayoutSwitchCaptureSession) :
    CaptureStep → List RoutedKey × LayoutSwitchCaptureSession
  | .event now key value =>
      let routed := session.routeEventAt now key value
      ([⟨key, value, routed.disposition⟩], routed.session)
  | .startOwned owner now => ([], (session.startOwned owner now).2)
  | .renewOwned owner now => ([], (session.renewOwned owner now).2)
  | .cancelOwned owner now => ([], (session.cancelOwned owner now).2)
  | .finishOwned owner now => ([], (session.finishOwned owner now).2)
  | .ownerDisappeared owner now => ([], (session.ownerDisappeared owner now).2)
  | .expireAt now => ([], (session.expireAt now).2)

def run (session : LayoutSwitchCaptureSession) :
    List CaptureStep → List RoutedKey × LayoutSwitchCaptureSession
  | [] => ([], session)
  | first :: rest =>
      let (routed, session) := session.step first
      let (later, session) := session.run rest
      (routed ++ later, session)

/-! ## Physically alternating keys -/

/-- The keys held down after an event. Values other than 0 and 1 are repeats. -/
def heldAfter (held : Finset Key) (key : Key) (value : Int) : Finset Key :=
  if value = 1 then insert key held
  else if value = 0 then held.erase key
  else held

def heldAfterStep (held : Finset Key) : CaptureStep → Finset Key
  | .event _ key value => heldAfter held key value
  | _ => held

def heldAfterAll (held : Finset Key) : List CaptureStep → Finset Key
  | [] => held
  | first :: rest => heldAfterAll (heldAfterStep held first) rest

/-- A key is pressed only when it is up; it repeats and is released only when it is down. -/
def Alternates (held : Finset Key) : List CaptureStep → Prop
  | [] => True
  | .event now key value :: rest =>
      (if value = 1 then key ∉ held else key ∈ held) ∧
        Alternates (heldAfterStep held (.event now key value)) rest
  | first :: rest => Alternates (heldAfterStep held first) rest

instance decidableAlternates : ∀ (held : Finset Key) (steps : List CaptureStep),
    Decidable (Alternates held steps)
  | _, [] => isTrue trivial
  | held, .event now key value :: rest =>
      have := decidableAlternates (heldAfterStep held (.event now key value)) rest
      inferInstanceAs (Decidable (_ ∧ _))
  | held, .startOwned _ _ :: rest => decidableAlternates held rest
  | held, .renewOwned _ _ :: rest => decidableAlternates held rest
  | held, .cancelOwned _ _ :: rest => decidableAlternates held rest
  | held, .finishOwned _ _ :: rest => decidableAlternates held rest
  | held, .ownerDisappeared _ _ :: rest => decidableAlternates held rest
  | held, .expireAt _ :: rest => decidableAlternates held rest

/-! ## What an event does to the swallowed keys -/

/-- The swallowed keys are unchanged and the progress lost keys at most. -/
structure Narrows (session later : LayoutSwitchCaptureSession) : Prop where
  suppressed : later.suppressedKeys = session.suppressedKeys
  progress : later.progress.pressedKeys ⊆ session.progress.pressedKeys

theorem Narrows.refl (session : LayoutSwitchCaptureSession) : Narrows session session :=
  ⟨rfl, Finset.Subset.refl _⟩

theorem Narrows.trans {first second third : LayoutSwitchCaptureSession}
    (h : Narrows first second) (h' : Narrows second third) : Narrows first third :=
  ⟨h'.suppressed.trans h.suppressed, h'.progress.trans h.progress⟩

theorem cancel_narrows (session : LayoutSwitchCaptureSession) :
    Narrows session session.cancel :=
  ⟨rfl, Finset.empty_subset _⟩

theorem finish_narrows (session : LayoutSwitchCaptureSession) :
    Narrows session session.finish :=
  ⟨rfl, Finset.empty_subset _⟩

theorem expireAt_narrows (session : LayoutSwitchCaptureSession) (now : Nat) :
    Narrows session (session.expireAt now).2 := by
  unfold expireAt
  split
  · exact cancel_narrows session
  · exact Narrows.refl session

theorem replaceState_narrows (session : LayoutSwitchCaptureSession)
    (next : LayoutSwitchCaptureState) : Narrows session (session.replaceState next).2 := by
  unfold replaceState
  by_cases hsame : session.state = next
  · rw [if_pos hsame]
    exact Narrows.refl session
  · rw [if_neg hsame]
    by_cases hactive : next.isActive = true
    · simp only [hactive, if_true]
      exact ⟨rfl, Finset.Subset.refl _⟩
    · simp only [hactive]
      exact ⟨rfl, Finset.Subset.refl _⟩

/-- What became of an event of `key`, by whether the key was swallowed before it. -/
inductive Routing (session : LayoutSwitchCaptureSession) (key : Key) (value : Int) :
    Routed → Prop where
  | kept (routed : Routed)
      (hin : key.code ∈ session.suppressedKeys) (hvalue : value ≠ 0)
      (hroute : routed.disposition = .suppress) (hsession : Narrows session routed.session) :
      Routing session key value routed
  | released (routed : Routed)
      (hin : key.code ∈ session.suppressedKeys) (hvalue : value = 0)
      (hroute : routed.disposition = .suppress)
      (hkeys : routed.session.suppressedKeys = session.suppressedKeys.erase key.code)
      (hprogress : ∀ pressed ∈ routed.session.progress.pressedKeys,
        pressed ∈ session.progress.pressedKeys ∧
          physicalCaptureKeyFromEvdev key ≠ some pressed) :
      Routing session key value routed
  | passed (routed : Routed)
      (hout : key.code ∉ session.suppressedKeys)
      (hroute : routed.disposition ≠ .suppress) (hsession : Narrows session routed.session) :
      Routing session key value routed
  | swallowed (routed : Routed)
      (hout : key.code ∉ session.suppressedKeys) (hvalue : value = 1)
      (hroute : routed.disposition = .suppress)
      (hkeys : routed.session.suppressedKeys = insert key.code session.suppressedKeys)
      (hprogress : ∀ pressed ∈ routed.session.progress.pressedKeys,
        pressed ∈ session.progress.pressedKeys ∨
          physicalCaptureKeyFromEvdev key = some pressed) :
      Routing session key value routed

theorem routeCaptureKey_routing {session : LayoutSwitchCaptureSession} {key : Key}
    {captureKey : PhysicalCaptureKey} (hout : key.code ∉ session.suppressedKeys)
    (hkey : physicalCaptureKeyFromEvdev key = some captureKey) :
    Routing session key 1 (session.routeCaptureKey key.code captureKey) := by
  have hswallowed : ∀ (started : LayoutSwitchCaptureSession) (next : LayoutSwitchCaptureState),
      started.suppressedKeys = insert key.code session.suppressedKeys →
      started.progress.pressedKeys = insert captureKey session.progress.pressedKeys →
      Routing session key 1
        ⟨.suppress, (started.replaceState next).1, (started.replaceState next).2⟩ := by
    intro started next hkeys hprogress
    have hnext := replaceState_narrows started next
    apply Routing.swallowed _ hout rfl rfl
    · exact hnext.suppressed.trans hkeys
    · intro pressed hpressed
      have hin := hnext.progress hpressed
      rw [hprogress, Finset.mem_insert] at hin
      cases hin with
      | inl heq => exact Or.inr (heq ▸ hkey)
      | inr hold => exact Or.inl hold
  have hstart : ∀ started : LayoutSwitchCaptureSession,
      started = (if session.progress.isEmpty then { session with state := .waiting }
        else session) →
      started.suppressedKeys = session.suppressedKeys ∧
        started.progress.pressedKeys = session.progress.pressedKeys := by
    intro started hstarted
    subst hstarted
    split <;> simp
  have hkept := hstart _ rfl
  unfold routeCaptureKey
  simp only
  split
  · exact hswallowed _ _ (by rw [hkept.1]) (by rw [CaptureProgress.pressKey, hkept.2])
  · exact hswallowed _ _ (by rw [hkept.1]) (by rw [CaptureProgress.pressKey, hkept.2])
  · apply Routing.passed _ hout (by simp)
    apply Narrows.trans _ (replaceState_narrows _ _)
    exact ⟨hkept.1, Finset.empty_subset _⟩

theorem routeUnsuppressed_routing {session : LayoutSwitchCaptureSession} {key : Key}
    (change : Option LayoutSwitchCaptureState) (value : Int)
    (hout : key.code ∉ session.suppressedKeys) :
    Routing session key value (session.routeUnsuppressed change key value) := by
  unfold routeUnsuppressed
  by_cases hactive : session.isActive = true
  · simp only [hactive, Bool.not_true, Bool.false_eq_true, if_false]
    by_cases hvalue : value = 1
    · subst hvalue
      simp only [ne_eq, not_true_eq_false, if_false]
      by_cases hesc : key = keyEsc
      · rw [if_pos hesc]
        apply Routing.swallowed _ hout rfl rfl rfl
        intro pressed hpressed
        simp [cancel, CaptureProgress.clear] at hpressed
      · rw [if_neg hesc]
        cases hkey : physicalCaptureKeyFromEvdev key with
        | none =>
            apply Routing.passed _ hout (by simp)
            apply Narrows.trans _ (replaceState_narrows _ _)
            exact ⟨rfl, Finset.empty_subset _⟩
        | some captureKey => exact routeCaptureKey_routing hout hkey
    · rw [if_pos hvalue]
      exact Routing.passed _ hout (by simp) (Narrows.refl session)
  · simp only [hactive, Bool.not_false, if_true]
    exact Routing.passed _ hout (by simp) (Narrows.refl session)

/-- Every event is routed in one of the four ways. -/
theorem routeEventAt_routing (session : LayoutSwitchCaptureSession) (now : Nat) (key : Key)
    (value : Int) : Routing session key value (session.routeEventAt now key value) := by
  have hexpire := expireAt_narrows session now
  unfold routeEventAt
  simp only
  rw [hexpire.suppressed]
  by_cases hin : key.code ∈ session.suppressedKeys
  · rw [if_pos hin]
    by_cases hvalue : value = 0
    · simp only [hvalue, if_true]
      apply Routing.released _ hin rfl rfl
      · simp
      · intro pressed hpressed
        cases hkey : physicalCaptureKeyFromEvdev key with
        | none =>
            simp only [hkey] at hpressed
            exact ⟨hexpire.progress hpressed, by simp⟩
        | some captureKey =>
            simp only [hkey, CaptureProgress.releaseKey, Finset.mem_erase] at hpressed
            refine ⟨hexpire.progress hpressed.2, ?_⟩
            simpa using Ne.symm hpressed.1
    · simp only [hvalue, if_false]
      exact Routing.kept _ hin hvalue rfl hexpire
  · rw [if_neg hin]
    have hout : key.code ∉ (session.expireAt now).2.suppressedKeys := by
      rw [hexpire.suppressed]; exact hin
    have hrouting := routeUnsuppressed_routing (session.expireAt now).1 value hout
    cases hrouting with
    | kept hin' => exact absurd hin' hout
    | released hin' => exact absurd hin' hout
    | passed _ hroute hsession =>
        exact Routing.passed _ hin hroute (hexpire.trans hsession)
    | swallowed _ hvalue hroute hkeys hprogress =>
        apply Routing.swallowed _ hin hvalue hroute
        · rw [hkeys, hexpire.suppressed]
        · intro pressed hpressed
          exact (hprogress pressed hpressed).imp_left fun h => hexpire.progress h

theorem code_eq_iff {key other : Key} : key.code = other.code ↔ key = other := by
  cases key
  cases other
  simp

namespace Routing

variable {session : LayoutSwitchCaptureSession} {key : Key} {value : Int} {routed : Routed}

theorem other_kept (h : Routing session key value routed) {other : Key} (hother : other ≠ key) :
    other.code ∈ routed.session.suppressedKeys ↔ other.code ∈ session.suppressedKeys := by
  have hcode : other.code ≠ key.code := fun heq => hother (code_eq_iff.mp heq)
  cases h with
  | kept _ _ _ hsession => rw [hsession.suppressed]
  | released _ _ _ hkeys => rw [hkeys]; simp [hcode]
  | passed _ _ hsession => rw [hsession.suppressed]
  | swallowed _ _ _ hkeys => rw [hkeys]; simp [hcode]

/-- A repeat or a release is swallowed exactly when its key is. -/
theorem not_press_swallowed (h : Routing session key value routed) (hvalue : value ≠ 1) :
    routed.disposition = .suppress ↔ key.code ∈ session.suppressedKeys := by
  cases h with
  | kept hin _ hroute => simp [hin, hroute]
  | released hin _ hroute => simp [hin, hroute]
  | passed hout hroute => simp [hout, hroute]
  | swallowed _ hpress => exact absurd hpress hvalue

theorem repeat_kept (h : Routing session key value routed) (hpress : value ≠ 1)
    (hrelease : value ≠ 0) :
    key.code ∈ routed.session.suppressedKeys ↔ key.code ∈ session.suppressedKeys := by
  cases h with
  | kept _ _ _ hsession => rw [hsession.suppressed]
  | released _ hzero => exact absurd hzero hrelease
  | passed _ _ hsession => rw [hsession.suppressed]
  | swallowed _ hone => exact absurd hone hpress

/-- An event of a key that was not swallowed is, exactly when the key is from then on. -/
theorem press_swallowed (h : Routing session key value routed)
    (hout : key.code ∉ session.suppressedKeys) :
    routed.disposition = .suppress ↔ key.code ∈ routed.session.suppressedKeys := by
  cases h with
  | kept hin => exact absurd hin hout
  | released hin => exact absurd hin hout
  | passed _ hroute hsession => rw [hsession.suppressed]; simp [hroute, hout]
  | swallowed _ _ hroute hkeys => rw [hkeys]; simp [hroute]

end Routing

/-! ## The invariant of a session -/

/-- Every key of the progress is the meaning of a swallowed key code. -/
def ProgressSwallowed (session : LayoutSwitchCaptureSession) : Prop :=
  ∀ pressed ∈ session.progress.pressedKeys,
    ∃ key : Key, key.code ∈ session.suppressedKeys ∧
      physicalCaptureKeyFromEvdev key = some pressed

structure Tracks (session : LayoutSwitchCaptureSession) (held : Finset Key) : Prop where
  suppressed_held : ∀ key : Key, key.code ∈ session.suppressedKeys → key ∈ held
  progress : session.ProgressSwallowed

theorem Tracks.narrow {session later : LayoutSwitchCaptureSession} {held : Finset Key}
    (h : Tracks session held) (hnarrow : Narrows session later) : Tracks later held := by
  constructor
  · intro key hkey
    rw [hnarrow.suppressed] at hkey
    exact h.suppressed_held key hkey
  · intro pressed hpressed
    rw [hnarrow.suppressed]
    exact h.progress pressed (hnarrow.progress hpressed)

theorem mem_heldAfter_other {held : Finset Key} {key other : Key} {value : Int}
    (hother : other ≠ key) : other ∈ heldAfter held key value ↔ other ∈ held := by
  unfold heldAfter
  split
  · simp [hother]
  · split
    · simp [hother]
    · rfl

theorem Tracks.event {session : LayoutSwitchCaptureSession} {held : Finset Key} {key : Key}
    {value : Int} {routed : Routed} (h : Tracks session held)
    (halt : if value = 1 then key ∉ held else key ∈ held)
    (hroute : Routing session key value routed) :
    Tracks routed.session (heldAfter held key value) := by
  constructor
  · intro other hin
    by_cases hother : other = key
    · subst hother
      cases hroute with
      | kept _ hvalue _ hsession =>
          by_cases hpress : value = 1
          · simp [heldAfter, hpress]
          · simp only [heldAfter, hpress, if_false, hvalue]
            rw [hsession.suppressed] at hin
            exact h.suppressed_held other hin
      | released _ _ _ hkeys => simp [hkeys] at hin
      | passed hout _ hsession =>
          rw [hsession.suppressed] at hin
          exact absurd hin hout
      | swallowed _ hvalue => simp [heldAfter, hvalue]
    · rw [mem_heldAfter_other hother]
      exact h.suppressed_held other ((hroute.other_kept hother).mp hin)
  · intro pressed hpressed
    cases hroute with
    | kept _ _ _ hsession =>
        rw [hsession.suppressed]
        exact h.progress pressed (hsession.progress hpressed)
    | released _ _ _ hkeys hprogress =>
        have hold := hprogress pressed hpressed
        obtain ⟨other, hin, hmeaning⟩ := h.progress pressed hold.1
        have hother : other ≠ key := fun heq => hold.2 (heq ▸ hmeaning)
        have hcode : other.code ≠ key.code := fun heq => hother (code_eq_iff.mp heq)
        exact ⟨other, by rw [hkeys]; simp [hcode, hin], hmeaning⟩
    | passed _ _ hsession =>
        rw [hsession.suppressed]
        exact h.progress pressed (hsession.progress hpressed)
    | swallowed _ _ _ hkeys hprogress =>
        rw [hkeys]
        cases hprogress pressed hpressed with
        | inl hold =>
            obtain ⟨other, hin, hmeaning⟩ := h.progress pressed hold
            exact ⟨other, Finset.mem_insert_of_mem hin, hmeaning⟩
        | inr hmeaning => exact ⟨key, Finset.mem_insert_self _ _, hmeaning⟩

/-! ## Lease operations swallow nothing -/

theorem startOwned_narrows (session : LayoutSwitchCaptureSession) (owner : CaptureOwner)
    (now : Nat) : Narrows session (session.startOwned owner now).2 := by
  apply (expireAt_narrows session now).trans
  unfold startOwned
  simp only
  split
  · split
    · exact Narrows.refl _
    · exact ⟨rfl, Finset.Subset.refl _⟩
  · exact ⟨rfl, Finset.empty_subset _⟩

theorem renewOwned_narrows (session : LayoutSwitchCaptureSession) (owner : CaptureOwner)
    (now : Nat) : Narrows session (session.renewOwned owner now).2 := by
  apply (expireAt_narrows session now).trans
  unfold renewOwned
  simp only
  split
  · exact Narrows.refl _
  · exact ⟨rfl, Finset.Subset.refl _⟩

theorem cancelOwned_narrows (session : LayoutSwitchCaptureSession) (owner : CaptureOwner)
    (now : Nat) : Narrows session (session.cancelOwned owner now).2 := by
  apply (expireAt_narrows session now).trans
  unfold cancelOwned
  simp only
  split
  · exact Narrows.refl _
  · exact cancel_narrows _

theorem finishOwned_narrows (session : LayoutSwitchCaptureSession) (owner : CaptureOwner)
    (now : Nat) : Narrows session (session.finishOwned owner now).2 := by
  apply (expireAt_narrows session now).trans
  unfold finishOwned
  simp only
  split
  · exact Narrows.refl _
  · exact finish_narrows _

theorem ownerDisappeared_narrows (session : LayoutSwitchCaptureSession) (owner : CaptureOwner)
    (now : Nat) : Narrows session (session.ownerDisappeared owner now).2 := by
  have hexpire := expireAt_narrows session now
  unfold ownerDisappeared
  split
  · rename_i heq
    rw [heq] at hexpire
    exact hexpire
  · rename_i heq
    rw [heq] at hexpire
    split
    · exact hexpire.trans (cancel_narrows _)
    · exact hexpire

/-- A step routes one event, or routes none and narrows the session. -/
theorem step_cases (session : LayoutSwitchCaptureSession) (next : CaptureStep) :
    (∃ now key value, next = .event now key value) ∨
    ((session.step next).1 = [] ∧ Narrows session (session.step next).2 ∧
      ∀ held rest, heldAfterStep held next = held ∧
        (Alternates held (next :: rest) ↔ Alternates held rest)) := by
  cases next with
  | event now key value => exact Or.inl ⟨now, key, value, rfl⟩
  | startOwned owner now =>
      exact Or.inr ⟨rfl, startOwned_narrows session owner now, fun _ _ => ⟨rfl, Iff.rfl⟩⟩
  | renewOwned owner now =>
      exact Or.inr ⟨rfl, renewOwned_narrows session owner now, fun _ _ => ⟨rfl, Iff.rfl⟩⟩
  | cancelOwned owner now =>
      exact Or.inr ⟨rfl, cancelOwned_narrows session owner now, fun _ _ => ⟨rfl, Iff.rfl⟩⟩
  | finishOwned owner now =>
      exact Or.inr ⟨rfl, finishOwned_narrows session owner now, fun _ _ => ⟨rfl, Iff.rfl⟩⟩
  | ownerDisappeared owner now =>
      exact Or.inr ⟨rfl, ownerDisappeared_narrows session owner now, fun _ _ => ⟨rfl, Iff.rfl⟩⟩
  | expireAt now =>
      exact Or.inr ⟨rfl, expireAt_narrows session now, fun _ _ => ⟨rfl, Iff.rfl⟩⟩

/-! ## Whole runs -/

theorem run_tracks {steps : List CaptureStep} {session : LayoutSwitchCaptureSession}
    {held : Finset Key} (halt : Alternates held steps) (h : Tracks session held) :
    Tracks (session.run steps).2 (heldAfterAll held steps) := by
  induction steps generalizing session held with
  | nil => exact h
  | cons next rest ih =>
      cases session.step_cases next with
      | inl hevent =>
          obtain ⟨now, key, value, heq⟩ := hevent
          subst heq
          exact ih halt.2 (h.event halt.1 (routeEventAt_routing session now key value))
      | inr hquiet =>
          obtain ⟨-, hnarrow, hheld⟩ := hquiet
          have halt' := ((hheld held rest).2).mp halt
          have hrest := ih halt' (h.narrow hnarrow)
          unfold heldAfterAll
          rw [(hheld held rest).1]
          exact hrest

/-- While a key is down, its next event is swallowed exactly when the key is. -/
theorem run_held_key {steps : List CaptureStep} {session : LayoutSwitchCaptureSession}
    {held : Finset Key} {key : Key} {between after : List RoutedKey} {later : RoutedKey}
    (halt : Alternates held steps) (hheld : key ∈ held)
    (hrun : (session.run steps).1 = between ++ later :: after) (hkey : later.key = key)
    (hbetween : ∀ event ∈ between, event.key = key → event.value ≠ 0) :
    later.disposition = .suppress ↔ key.code ∈ session.suppressedKeys := by
  induction steps generalizing session held between with
  | nil => simp [run] at hrun
  | cons next rest ih =>
      cases session.step_cases next with
      | inl hevent =>
          obtain ⟨now, pressed, value, heq⟩ := hevent
          subst heq
          have hroute := routeEventAt_routing session now pressed value
          have hvalue : pressed = key → value ≠ 1 := by
            intro hsame hpress
            have hpart := halt.1
            rw [if_pos hpress, hsame] at hpart
            exact hpart hheld
          cases between with
          | nil =>
              simp only [run, step, List.singleton_append, List.nil_append,
                List.cons.injEq] at hrun
              have hfirst := hrun.1
              subst hfirst
              simp only at hkey
              subst hkey
              exact hroute.not_press_swallowed (hvalue rfl)
          | cons first others =>
              simp only [run, step, List.cons_append, List.nil_append, List.cons.injEq] at hrun
              have hothers : ∀ event ∈ others, event.key = key → event.value ≠ 0 :=
                fun event hin => hbetween event (List.mem_cons_of_mem _ hin)
              have hfirst := hbetween first (List.mem_cons_self ..)
              rw [← hrun.1] at hfirst
              simp only at hfirst
              by_cases hsame : pressed = key
              · have hstill : key ∈ heldAfter held pressed value := by
                  simp [heldAfter, hvalue hsame, hfirst hsame, hheld]
                rw [ih halt.2 hstill hrun.2 hothers, ← hsame]
                exact hroute.repeat_kept (hvalue hsame) (hfirst hsame)
              · have hother : key ≠ pressed := Ne.symm hsame
                have hstill : key ∈ heldAfter held pressed value :=
                  (mem_heldAfter_other hother).mpr hheld
                rw [ih halt.2 hstill hrun.2 hothers]
                exact hroute.other_kept hother
      | inr hquiet =>
          obtain ⟨hnone, hnarrow, hsteps⟩ := hquiet
          have halt' := ((hsteps held rest).2).mp halt
          simp only [run, hnone, List.nil_append] at hrun
          rw [ih halt' hheld hrun hbetween, hnarrow.suppressed]

/-- A press decides for every event of its key up to the release. -/
theorem run_press_decides {steps : List CaptureStep} {session : LayoutSwitchCaptureSession}
    {held : Finset Key} {before between after : List RoutedKey} {press later : RoutedKey}
    (halt : Alternates held steps) (h : Tracks session held)
    (hrun : (session.run steps).1 = before ++ press :: (between ++ later :: after))
    (hpress : press.value = 1) (hkey : later.key = press.key)
    (hbetween : ∀ event ∈ between, event.key = press.key → event.value ≠ 0) :
    later.disposition = .suppress ↔ press.disposition = .suppress := by
  induction steps generalizing session held before with
  | nil => simp [run] at hrun
  | cons next rest ih =>
      cases session.step_cases next with
      | inl hevent =>
          obtain ⟨now, pressed, value, heq⟩ := hevent
          subst heq
          have hroute := routeEventAt_routing session now pressed value
          cases before with
          | nil =>
              simp only [run, step, List.singleton_append, List.nil_append,
                List.cons.injEq] at hrun
              have hfirst := hrun.1
              subst hfirst
              simp only at hpress hkey hbetween
              have hup : pressed ∉ held := by
                have hpart := halt.1
                rwa [if_pos hpress] at hpart
              have hout : pressed.code ∉ session.suppressedKeys :=
                fun hin => hup (h.suppressed_held pressed hin)
              have hdown : pressed ∈ heldAfter held pressed value := by
                simp [heldAfter, hpress]
              rw [run_held_key halt.2 hdown hrun.2 hkey hbetween]
              exact (hroute.press_swallowed hout).symm
          | cons first others =>
              simp only [run, step, List.cons_append, List.nil_append, List.cons.injEq] at hrun
              exact ih halt.2 (h.event halt.1 hroute) hrun.2
      | inr hquiet =>
          obtain ⟨hnone, hnarrow, hsteps⟩ := hquiet
          have halt' := ((hsteps held rest).2).mp halt
          simp only [run, hnone, List.nil_append] at hrun
          exact ih halt' (h.narrow hnarrow) hrun

theorem fresh_tracks (held : Finset Key) : Tracks {} held := by
  constructor
  · intro key hkey
    simp at hkey
  · intro pressed hpressed
    simp at hpressed

/-- From a new session and any keys held at that time: a press decides for the repeats
and the release of its key, nothing stays swallowed once every key is up, and the
progress holds swallowed keys only. -/
theorem capture_routing_balanced (held : Finset Key) (steps : List CaptureStep)
    (halt : Alternates held steps) :
    (∀ before press between later after,
      (run {} steps).1 = before ++ press :: (between ++ later :: after) →
      press.value = 1 → later.key = press.key →
      (∀ event ∈ between, event.key = press.key → event.value ≠ 0) →
      (later.disposition = .suppress ↔ press.disposition = .suppress)) ∧
    (heldAfterAll held steps = ∅ → (run {} steps).2.suppressedKeys = ∅) ∧
    (run {} steps).2.ProgressSwallowed := by
  have htracks := run_tracks halt (fresh_tracks held)
  refine ⟨?_, ?_, htracks.progress⟩
  · intro before press between later after hrun hpress hkey hbetween
    exact run_press_decides halt (fresh_tracks held) hrun hpress hkey hbetween
  · intro hup
    rw [hup] at htracks
    apply Finset.eq_empty_of_forall_notMem
    intro code hin
    have hheld := htracks.suppressed_held ⟨code⟩ hin
    simp at hheld

def superCapture : List CaptureStep :=
  [.startOwned ⟨"settings"⟩ 0, .event 1 keyLeftMeta 1, .event 2 keyLeftMeta 2,
    .cancelOwned ⟨"settings"⟩ 3, .event 4 keyLeftMeta 0]

theorem capture_routing_balanced_super :
    Alternates ∅ superCapture ∧
    (heldAfterAll ∅ superCapture = ∅ → (run {} superCapture).2.suppressedKeys = ∅) :=
  ⟨by decide, (capture_routing_balanced ∅ superCapture (by decide)).2.1⟩

end LayoutSwitchCaptureSession

end OpenSwitcher
