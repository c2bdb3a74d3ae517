import OpenSwitcher.Daemon.ChordStages
/-!
# The hotkeys of a chord

A press that is not queued finishes a pending commit early, may be a hotkey, and is a word key
otherwise.
-/

namespace OpenSwitcher

open Key
open Library
open Library.Fallible (outcome wp update read)

namespace DaemonService

section Hotkeys

variable {origin : InputOrigin} {event : DeferredInputEvent} {answers : KeyAnswers}
  {service : DaemonService} {config : RuntimeConfigSnapshot}

/-! ## Hotkeys -/

theorem forgets_wordKeys (hkey : isModifier event.key = false)
    (hheld : service.modifiers.chordHeld = true) :
    Forgets (do
        wordKeyEvent origin event config answers
        pure KeyEventFate.handled) service ↔ service.WordKeyForgets event config answers :=
  (forgets_andReturn _ (fun _ => KeyEventFate.handled) _).trans
    ((forgets_iff_wp _ _).trans (wordKeyEvent_forgets hkey hheld))

theorem layoutShortcutStage_passes
    (h : service.modifiers.matchesLayoutSwitchCombo config.layoutSwitchCombo event.key
      event.value = false) : Passes (layoutShortcutStage event config) service service := by
  unfold Passes layoutShortcutStage
  simp only [Fallible.outcome_bind, Fallible.outcome_read, id, h, Bool.not_false, if_true,
    Fallible.outcome_pure]

theorem layoutShortcutStage_settles
    (h : service.modifiers.matchesLayoutSwitchCombo config.layoutSwitchCombo event.key
      event.value = true) (hlatched : service.layoutShortcutLatched = true) :
    Settles (layoutShortcutStage event config) service service.NoWordOffered := by
  have hstage : outcome (layoutShortcutStage event config) service =
      (.ok (some .handled), service) := by
    unfold layoutShortcutStage
    simp only [Fallible.outcome_bind, Fallible.outcome_read, id, h, Bool.not_true,
      Bool.false_eq_true, if_false, hlatched, if_true, Fallible.outcome_pure]
  exact settles_of_sameTracker hstage rfl

/-- A layout shortcut that is not latched yet forgets the word, and goes on. -/
theorem layoutShortcutStage_latches
    (h : service.modifiers.matchesLayoutSwitchCombo config.layoutSwitchCombo event.key
      event.value = true) (hlatched : service.layoutShortcutLatched = false) :
    Passes (layoutShortcutStage event config) service
      { service with layoutShortcutLatched := true }.withInvalidatedContext := by
  unfold Passes layoutShortcutStage invalidateWordContext
  simp only [Fallible.outcome_bind, Fallible.outcome_read, id, h, Bool.not_true,
    Bool.false_eq_true, if_false, hlatched, Fallible.outcome_update, Fallible.outcome_pure]

theorem selectedTextHotkeyStage_passes
    (h : selectedTextHotkeyMatchesWhenAllowed config.selectedTextHotkey service.modifiers event.key
      event.value answers.settingsHotkeyCaptureInhibited = false) :
    Passes (selectedTextHotkeyStage event config answers) service service := by
  unfold Passes selectedTextHotkeyStage
  simp only [Fallible.outcome_bind, Fallible.outcome_read, id, h, Bool.not_false, if_true,
    Fallible.outcome_pure]

/-- Only Pause starts the switch of the selected text at its press. -/
theorem selectedTextHotkeyStage_settles
    (h : selectedTextHotkeyMatchesWhenAllowed config.selectedTextHotkey service.modifiers event.key
      event.value answers.settingsHotkeyCaptureInhibited = true) :
    Settles (selectedTextHotkeyStage event config answers) service
      (event.key = keyPause ∧ service.SelectedTextStarts answers ∨ service.NoWordOffered) := by
  by_cases hpause : event.key = keyPause
  · have hrun : outcome (maybeRunPendingSelectedTextSwitch answers.selectedText)
        { service with suppressedHotkeyKey := none, pendingSelectedTextSwitch := true } =
        outcome (applySelectedTextSwitch answers.selectedText)
          { service with suppressedHotkeyKey := none, pendingSelectedTextSwitch := false } :=
      outcome_maybeRun _ rfl rfl
    have hforgets : (outcome (applySelectedTextSwitch answers.selectedText)
        { service with
          suppressedHotkeyKey := none
          pendingSelectedTextSwitch := false }).2.NoWordOffered ↔
        event.key = keyPause ∧ service.SelectedTextStarts answers ∨ service.NoWordOffered := by
      rw [eq_true hpause, true_and]
      exact forgets_applySelectedTextSwitch _
    rcases happlied : outcome (applySelectedTextSwitch answers.selectedText)
        { service with suppressedHotkeyKey := none, pendingSelectedTextSwitch := false }
      with ⟨error | applied, after⟩
    · have hstage : outcome (selectedTextHotkeyStage event config answers) service =
          (.error error, after) := by
        unfold selectedTextHotkeyStage
        simp only [Fallible.outcome_bind, Fallible.outcome_read, id, h, Bool.not_true,
          Bool.false_eq_true, if_false, Fallible.outcome_update, if_pos hpause, hrun, happlied]
      rw [happlied] at hforgets
      exact (settles_of_outcome hstage (by simp)).of_iff hforgets
    · have hstage : outcome (selectedTextHotkeyStage event config answers) service =
          (.ok (some .handled), { after with suppressedHotkeyKey := some event.key }) := by
        unfold selectedTextHotkeyStage
        simp only [Fallible.outcome_bind, Fallible.outcome_read, id, h, Bool.not_true,
          Bool.false_eq_true, if_false, Fallible.outcome_update, if_pos hpause, hrun, happlied,
          Fallible.outcome_pure]
      rw [happlied] at hforgets
      exact (settles_of_outcome hstage (by simp)).of_iff hforgets
  · have hstage : outcome (selectedTextHotkeyStage event config answers) service =
        (.ok (some .handled), { service with
          suppressedHotkeyKey := some event.key
          pendingSelectedTextSwitch := true }) := by
      unfold selectedTextHotkeyStage
      simp only [Fallible.outcome_bind, Fallible.outcome_read, id, h, Bool.not_true,
        Bool.false_eq_true, if_false, Fallible.outcome_update, hpause, Fallible.outcome_pure]
    refine (settles_of_sameTracker hstage rfl).of_iff ?_
    simp [hpause]

theorem releaseStage_passes (hpress : event.value = 1) :
    Passes (releaseStage origin event answers) service service := by
  unfold Passes releaseStage
  rw [if_neg (by simp [hpress])]
  rfl

theorem forgets_beginCorrection (config : RuntimeConfigSnapshot) (answers : KeyAnswers)
    (undoKey : Key) (service : DaemonService) :
    Forgets (beginDeferredManualCurrentWordCorrection undoKey config answers.start) service ↔
      service.NoWordOffered := by
  unfold Forgets beginDeferredManualCurrentWordCorrection keyboardMut
  simp only [Fallible.outcome_bind, Fallible.outcome_read, id]
  by_cases hempty : service.deferredInput.isEmpty = true
  · simp only [hempty, Bool.not_true, Bool.false_eq_true, if_false]
    cases service.prepareManualCorrection config [] answers.start.prepare with
    | none => exact Iff.rfl
    | some prepared =>
        by_cases hcurrent : prepared.usedCurrentBuffer = true
        · by_cases hkeyboard : service.keyboard = true
          · simp only [hcurrent, Bool.not_true, Bool.false_eq_true, if_false,
              Fallible.outcome_bind, Fallible.outcome_read, hkeyboard, if_true,
              Fallible.outcome_pure, Fallible.outcome_ofExcept]
            rcases answers.start.start with error | started
            · exact Iff.rfl
            · cases started with
              | rejectedBeforeMutation reason => exact Iff.rfl
              | started requestId => exact Iff.rfl
          · simp only [hcurrent, hkeyboard, Bool.not_true, Bool.false_eq_true, if_false,
              Fallible.outcome_bind, Fallible.outcome_read]
            exact Iff.rfl
        · simp only [hcurrent]
          exact Iff.rfl
  · simp only [hempty]
    exact Iff.rfl

/-- A correction that the hotkey applies replaces a word, and goes on offering it. -/
theorem finalize_offers {prepare : PrepareAnswers} {prepared : PreparedManualCorrection}
    (h : service.prepareManualCorrection config service.wordBeforeCursorToCorrect prepare
      = some prepared) :
    ¬ offersNothing service.tracker ∧
      ¬ offersNothing (service.tracker.finalizeManualCorrection
        ⟨prepared.plan.buffer, prepared.usedCurrentBuffer, prepared.plan.extraBackspaces⟩) := by
  rcases prepareManualCorrection_source h with ⟨hbuffer, hcurrent, hlength, _⟩ |
    ⟨hbuffer, hfallback, hcurrent, hlength, hextra⟩
  · refine ⟨fun hnothing => hbuffer hnothing.1, ?_⟩
    rintro ⟨hnil, _⟩
    simp only [WordTracker.finalizeManualCorrection, hcurrent, if_true] at hnil
    rw [hnil] at hlength
    exact hbuffer (List.length_eq_zero_iff.mp hlength.symm)
  · have hoffers : service.tracker.canCorrectWordBeforeCursor = true := by
      by_contra hnone
      simp [wordBeforeCursorToCorrect, hnone] at hfallback
    have hparts := hoffers
    simp only [WordTracker.canCorrectWordBeforeCursor, Bool.and_eq_true, Bool.not_eq_true',
      List.isEmpty_eq_false_iff] at hparts
    obtain ⟨⟨⟨hvalid, _⟩, hfollowed⟩, hword⟩ := hparts
    refine ⟨fun hnothing => hnothing.2 ⟨hvalid, hfollowed, hword⟩, ?_⟩
    have hplan : prepared.plan.buffer ≠ [] := by
      intro hnil
      rw [hnil] at hlength
      exact hfallback (List.length_eq_zero_iff.mp hlength.symm)
    rintro ⟨_, hnothing⟩
    apply hnothing
    simp only [offersPreviousWord, WordTracker.finalizeManualCorrection,
      WordTracker.updateWordContextAfterManualCorrection, hcurrent, Bool.false_eq_true, if_false,
      hextra, hfollowed, if_true, Bool.not_eq_true', List.isEmpty_eq_false_iff]
    exact ⟨hplan, by decide, hplan⟩

theorem forgets_applyHotkeyCorrection (undoKey : Key) (service : DaemonService) :
    Forgets (applyHotkeyCorrection undoKey config answers) service ↔ service.NoWordOffered := by
  unfold Forgets applyHotkeyCorrection applyManualCorrection keyboardMut typeSeparator
  simp only [Fallible.outcome_bind, Fallible.outcome_read, id]
  cases hprepared : service.prepareManualCorrection config service.wordBeforeCursorToCorrect
      answers.manual.prepare with
  | none => exact Iff.rfl
  | some prepared =>
      obtain ⟨hbefore, hafter⟩ := finalize_offers hprepared
      rw [noWordOffered_iff, noWordOffered_iff]
      by_cases hkeyboard : service.keyboard = true
      · simp only [Fallible.outcome_bind, Fallible.outcome_read, hkeyboard, if_true,
          Fallible.outcome_pure, emit, Fallible.outcome_update, Fallible.outcome_ofExcept]
        rcases answers.manual.applied with error | _
        · exact Iff.rfl
        · simp only [Fallible.outcome_bind, Fallible.outcome_update]
          refine iff_of_false ?_ hbefore
          cases manualSeparatorReplayKey prepared.usedCurrentBuffer
              prepared.plan.extraBackspaces with
          | none => exact hafter
          | some separatorKey =>
              simp only [Fallible.outcome_bind, record, hkeyboard, Fallible.outcome_update,
                Fallible.outcome_ofExcept]
              rcases answers.manualSeparator with error | _
              · exact hafter
              · exact hafter
      · simp only [Fallible.outcome_bind, Fallible.outcome_read, hkeyboard]
        exact Iff.rfl

theorem manualHotkeyStage_passes
    (h : manualCorrectionHotkeyMatchesWhenAllowed config.manualCorrectionHotkey service.modifiers
      event.key event.value answers.settingsHotkeyCaptureInhibited = false) :
    Passes (manualHotkeyStage origin event config answers) service service := by
  unfold Passes manualHotkeyStage
  simp only [Fallible.outcome_bind, Fallible.outcome_read, id, h, Bool.not_false, if_true,
    Fallible.outcome_pure]

/-- The correction hotkey keeps the word that it corrects. -/
theorem manualHotkeyStage_settles
    (h : manualCorrectionHotkeyMatchesWhenAllowed config.manualCorrectionHotkey service.modifiers
      event.key event.value answers.settingsHotkeyCaptureInhibited = true) :
    Settles (manualHotkeyStage origin event config answers) service service.NoWordOffered := by
  have hbegin := forgets_beginCorrection config answers
    (hotkeyTriggerToEvdevKey config.manualCorrectionHotkey.trigger)
    { service with suppressedUndoKeys := service.suppressedUndoKeys.arm event.key }
  by_cases hreplay : (service.manualCurrentWordFlow.isActive && origin = .deferredReplay) = true
  · have hstage : (outcome (manualHotkeyStage origin event config answers) service).1 =
          .ok (some .handled) ∧
        (outcome (manualHotkeyStage origin event config answers) service).2.tracker =
          service.tracker := by
      unfold manualHotkeyStage armSuppressedUndoKey requestManualCurrentWordRetryAfterDrain
      simp only [Fallible.outcome_bind, Fallible.outcome_read, id, h, Bool.not_true,
        Bool.false_eq_true, if_false, Fallible.outcome_update, hreplay, if_true,
        Fallible.outcome_pure, and_self]
    exact settles_of_sameTracker (Prod.ext hstage.1 rfl) hstage.2
  · unfold Forgets at hbegin
    rcases hbegun : outcome (beginDeferredManualCurrentWordCorrection
        (hotkeyTriggerToEvdevKey config.manualCorrectionHotkey.trigger) config answers.start)
        { service with suppressedUndoKeys := service.suppressedUndoKeys.arm event.key }
      with ⟨error | begun, after⟩
    · have hstage : outcome (manualHotkeyStage origin event config answers) service =
          (.error error, after) := by
        unfold manualHotkeyStage armSuppressedUndoKey
        simp only [Fallible.outcome_bind, Fallible.outcome_read, id, h, Bool.not_true,
          Bool.false_eq_true, if_false, Fallible.outcome_update, hreplay, hbegun]
      rw [hbegun] at hbegin
      exact (settles_of_outcome hstage (by simp)).of_iff hbegin
    · rw [hbegun] at hbegin
      cases begun with
      | true =>
          have hstage : outcome (manualHotkeyStage origin event config answers) service =
              (.ok (some .handled), after) := by
            unfold manualHotkeyStage armSuppressedUndoKey
            simp only [Fallible.outcome_bind, Fallible.outcome_read, id, h, Bool.not_true,
              Bool.false_eq_true, if_false, Fallible.outcome_update, hreplay, hbegun, if_true,
              Fallible.outcome_pure]
          exact (settles_of_outcome hstage (by simp)).of_iff hbegin
      | false =>
          have hstage : outcome (manualHotkeyStage origin event config answers) service =
              outcome (applyHotkeyCorrection
                  (hotkeyTriggerToEvdevKey config.manualCorrectionHotkey.trigger) config
                  answers >>= fun _ => pure (some KeyEventFate.handled)) after := by
            unfold manualHotkeyStage armSuppressedUndoKey
            simp only [Fallible.outcome_bind, Fallible.outcome_read, id, h, Bool.not_true,
              Bool.false_eq_true, if_false, Fallible.outcome_update, hreplay, hbegun]
          exact ((settles_of_bind _ (fun _ => .handled) _).of_outcome hstage).of_iff
            ((forgets_applyHotkeyCorrection _ _).trans hbegin)

/-! ## From the layout shortcut to the word keys -/

/-- A layout combination that ends in no modifier ends in the space bar. -/
theorem matchesLayoutSwitchCombo_space {modifiers : ModifierState} {combo : LayoutSwitchCombo}
    {key : Key} {value : Int} (hkey : isModifier key = false)
    (h : modifiers.matchesLayoutSwitchCombo combo key value = true) :
    key = keySpace ∧ modifiers.keepsLayoutSwitchComboActive combo = true := by
  simp only [isModifier, Bool.or_eq_false_iff, decide_eq_false_iff_not] at hkey
  cases combo <;>
    simp_all [ModifierState.matchesLayoutSwitchCombo, ModifierState.keepsLayoutSwitchComboActive]

theorem selectedTextHotkey_not_space (hotkey : HotkeySpec) (modifiers : ModifierState)
    (value : Int) (inhibited : Bool) :
    selectedTextHotkeyMatchesWhenAllowed hotkey modifiers keySpace value inhibited = false := by
  have hspace := hotkeyTrigger_not_wordKey hotkey.trigger
  simp only [List.mem_cons, not_or] at hspace
  simp [selectedTextHotkeyMatchesWhenAllowed, selectedTextHotkeyMatches, Ne.symm hspace.1]

theorem manualCorrectionHotkey_not_space (hotkey : HotkeySpec) (modifiers : ModifierState)
    (value : Int) (inhibited : Bool) :
    manualCorrectionHotkeyMatchesWhenAllowed hotkey modifiers keySpace value inhibited =
      false := by
  have hspace := hotkeyTrigger_not_wordKey hotkey.trigger
  simp only [List.mem_cons, not_or] at hspace
  simp [manualCorrectionHotkeyMatchesWhenAllowed, manualCorrectionHotkeyMatches,
    Ne.symm hspace.1]

/-- The stages that follow the early end of a pending commit. -/
def hotkeysThenWords (origin : InputOrigin) (event : DeferredInputEvent)
    (config : RuntimeConfigSnapshot) (answers : KeyAnswers) : ServiceM KeyEventFate :=
  (layoutShortcutStage event config).followedBy <|
  (selectedTextHotkeyStage event config answers).followedBy <|
  (releaseStage origin event answers).followedBy <|
  (manualHotkeyStage origin event config answers).followedBy do
    wordKeyEvent origin event config answers
    pure .handled

theorem forgets_hotkeys (hpress : event.value = 1) (hkey : isModifier event.key = false)
    (hheld : service.modifiers.chordHeld = true) :
    Forgets (hotkeysThenWords origin event config answers) service ↔
      service.HotkeyForgets event config answers := by
  unfold hotkeysThenWords HotkeyForgets
  by_cases hcombo : service.modifiers.matchesLayoutSwitchCombo config.layoutSwitchCombo event.key
      event.value = true
  · rw [if_pos hcombo]
    by_cases hlatched : service.layoutShortcutLatched = true
    · rw [forgets_of_settles (layoutShortcutStage_settles hcombo hlatched), hlatched]
      simp
    · have hspace := (matchesLayoutSwitchCombo_space hkey hcombo).1
      have hheld' : ({ service with
          layoutShortcutLatched := true }.withInvalidatedContext).modifiers.chordHeld = true :=
        hheld
      rw [forgets_of_passes (layoutShortcutStage_latches hcombo (by simpa using hlatched)),
        forgets_of_passes (selectedTextHotkeyStage_passes
          (by rw [hspace]; exact selectedTextHotkey_not_space _ _ _ _)),
        forgets_of_passes (releaseStage_passes hpress),
        forgets_of_passes (manualHotkeyStage_passes
          (by rw [hspace]; exact manualCorrectionHotkey_not_space _ _ _ _)),
        forgets_wordKeys hkey hheld']
      simp only [hlatched, false_implies, iff_true, Bool.false_eq_true]
      unfold WordKeyForgets
      rw [if_pos hspace, if_neg (fun hoverflowed => by cases hoverflowed)]
      rfl
  · rw [if_neg hcombo, forgets_of_passes (layoutShortcutStage_passes (by simpa using hcombo))]
    by_cases hselected : selectedTextHotkeyMatchesWhenAllowed config.selectedTextHotkey
        service.modifiers event.key event.value answers.settingsHotkeyCaptureInhibited = true
    · rw [if_pos hselected, forgets_of_settles (selectedTextHotkeyStage_settles hselected)]
    · rw [if_neg hselected,
        forgets_of_passes (selectedTextHotkeyStage_passes (by simpa using hselected)),
        forgets_of_passes (releaseStage_passes hpress)]
      by_cases hmanual : manualCorrectionHotkeyMatchesWhenAllowed config.manualCorrectionHotkey
          service.modifiers event.key event.value answers.settingsHotkeyCaptureInhibited = true
      · rw [if_pos hmanual, forgets_of_settles (manualHotkeyStage_settles hmanual)]
      · rw [if_neg hmanual,
          forgets_of_passes (manualHotkeyStage_passes (by simpa using hmanual)),
          forgets_wordKeys hkey hheld]

/-! ## Finishing a pending commit early -/

/-- A pending commit has put `word` before the cursor, and `result` is how its separator fared. -/
structure Commits (result : Except SwitcherError Unit × DaemonService)
    (pending : PendingWordCommit) (service : DaemonService) (answers : FinishAnswers)
    (word : List Keystroke) : Prop where
  typed : result.1.isOk = (service.keyboard && answers.separator.isOk)
  tracker : result.2.tracker = service.tracker.commitCorrectedWord pending.separatorKey word
  inputSnapshot : result.2.inputSnapshot = (service.adopting answers.snapshot).inputSnapshot
  keyboard : result.2.keyboard = service.keyboard
  selectedTextRunner : result.2.selectedTextRunner = service.selectedTextRunner
  modifiers : result.2.modifiers = service.modifiers
  layoutShortcutLatched : result.2.layoutShortcutLatched = service.layoutShortcutLatched

theorem commitCorrectedWord_commits (pending : PendingWordCommit) (word : List Keystroke)
    (trace : List Effect) (service : DaemonService) (answers : FinishAnswers) :
    Commits (outcome (commitCorrectedWord pending.separatorKey word answers.separator)
      { service.adopting answers.snapshot with trace := trace }) pending service answers word := by
  unfold commitCorrectedWord
  rw [Fallible.outcome_bind, Fallible.outcome_update]
  simp only [outcome_typeSeparator]
  by_cases hkeyboard : service.keyboard = true
  · rw [if_pos (show (service.adopting answers.snapshot).keyboard = true from hkeyboard)]
    exact ⟨by simp [hkeyboard], rfl, rfl, rfl, rfl, rfl, rfl⟩
  · rw [if_neg (show ¬ (service.adopting answers.snapshot).keyboard = true from hkeyboard)]
    exact ⟨by simp [hkeyboard]; rfl, rfl, rfl, rfl, rfl, rfl, rfl⟩

/-- After the commit no word is offered, unless a space was committed behind one. -/
theorem commit_offersNothing (tracker : WordTracker) (separatorKey : Key)
    (word : List Keystroke) :
    offersNothing (tracker.commitCorrectedWord separatorKey word) ↔
      separatorKey ≠ keySpace ∨ word = [] := by
  unfold WordTracker.commitCorrectedWord WordTracker.applyCorrectedWordCommitState
  by_cases hspace : separatorKey = keySpace
  · by_cases hword : word = [] <;> simp [hspace, hword, offersNothing, offersPreviousWord]
  · simp [hspace, offersNothing, offersPreviousWord, WordTracker.clearWordContextState]

/-! ### The three ways to finish -/

section Finish

variable {pending : PendingWordCommit} {finish : FinishAnswers}

/-- The commit is judged by the snapshot that it adopts first. -/
theorem outcome_adopting (pending : PendingWordCommit) (finish : FinishAnswers)
    (service : DaemonService) :
    ∃ adopted, outcome (adoptInputSnapshotNonblocking finish.snapshot) service =
        (.ok adopted, service.adopting finish.snapshot) ∧
      (adopted && (service.adopting finish.snapshot).inputSnapshot.authorizesAt
        pending.authorization finish.clock) = finishAuthorized pending finish := by
  unfold adopting finishAuthorized
  cases finish.snapshot with
  | loaded snapshot => exact ⟨true, rfl, Bool.true_and _⟩
  | contended => exact ⟨false, rfl, rfl⟩
  | poisoned => exact ⟨false, rfl, rfl⟩

theorem outcome_finish_cancelled (h : finishAuthorized pending finish = false) :
    outcome (finishPendingWordCommit pending config finish) service =
      outcome (cancelPendingWordCommit pending.separatorKey finish.separator)
        (service.adopting finish.snapshot) := by
  obtain ⟨adopted, hadopted, hauthorized⟩ := outcome_adopting pending finish service
  unfold finishPendingWordCommit
  simp only [Fallible.outcome_bind, Fallible.outcome_read, hadopted, hauthorized, h,
    Bool.not_false, if_true]

theorem outcome_finish_layout (h : finishAuthorized pending finish = true)
    (haction : pending.action = .layoutCorrection) :
    outcome (finishPendingWordCommit pending config finish) service =
      outcome (finishPendingAutoCorrection pending.separatorKey config finish)
        (service.adopting finish.snapshot) := by
  obtain ⟨adopted, hadopted, hauthorized⟩ := outcome_adopting pending finish service
  unfold finishPendingWordCommit
  simp only [Fallible.outcome_bind, Fallible.outcome_read, hadopted, hauthorized, h, haction,
    Bool.not_true, Bool.false_eq_true, if_false]

theorem outcome_finish_sameLayout {corrected : List Keystroke}
    (h : finishAuthorized pending finish = true)
    (haction : pending.action = .sameLayoutCaseCorrection corrected) :
    outcome (finishPendingWordCommit pending config finish) service =
      outcome (finishPendingSameLayoutCaseCorrection pending.separatorKey corrected finish)
        (service.adopting finish.snapshot) := by
  obtain ⟨adopted, hadopted, hauthorized⟩ := outcome_adopting pending finish service
  unfold finishPendingWordCommit
  simp only [Fallible.outcome_bind, Fallible.outcome_read, hadopted, hauthorized, h, haction,
    Bool.not_true, Bool.false_eq_true, if_false]

/-- What finishing a commit comes to, given whether it fails before the word is committed. -/
def FinishResult (result : Except SwitcherError Unit × DaemonService) (fails : Bool)
    (commitsNothing : Bool) (pending : PendingWordCommit) (service : DaemonService)
    (finish : FinishAnswers) : Prop :=
  (fails = true ∧ (∃ error, result.1 = .error error) ∧ result.2.tracker = service.tracker) ∨
  (fails = false ∧ ∃ word, Commits result pending service finish word ∧
    (pending.separatorKey ≠ keySpace ∨ word = [] ↔ commitsNothing = true))

theorem commits_result {commitsNothing : Bool} (pending : PendingWordCommit)
    (word : List Keystroke) (trace : List Effect) (service : DaemonService)
    (finish : FinishAnswers)
    (h : pending.separatorKey ≠ keySpace ∨ word = [] ↔ commitsNothing = true) :
    FinishResult (outcome (commitCorrectedWord pending.separatorKey word finish.separator)
      { service.adopting finish.snapshot with trace := trace }) false commitsNothing pending service
      finish :=
  .inr ⟨rfl, word, commitCorrectedWord_commits pending word trace service finish, h⟩

/-- The layout correction fails with the writer, and replaces the word by one of its length. -/
theorem finishAutoCorrection_result :
    FinishResult (outcome (finishPendingAutoCorrection pending.separatorKey config finish)
        (service.adopting finish.snapshot))
      (((service.adopting finish.snapshot).prepareManualCorrection config []
          finish.correction.prepare).isSome &&
        !(service.keyboard && finish.correction.applied.isOk))
      (pending.separatorKey ≠ keySpace || service.tracker.buffer.isEmpty) pending service
      finish := by
  unfold finishPendingAutoCorrection applyManualCorrection keyboardMut emit
  simp only [Fallible.outcome_bind, Fallible.outcome_read, id]
  cases hprepared : (service.adopting finish.snapshot).prepareManualCorrection config []
      finish.correction.prepare with
  | none =>
      exact commits_result pending service.tracker.buffer
        (service.adopting finish.snapshot).trace service finish (by simp)
  | some prepared =>
      have hcurrent := prepareManualCorrection_current hprepared
      by_cases hkeyboard : service.keyboard = true
      · have hadopting : (service.adopting finish.snapshot).keyboard = true := hkeyboard
        simp only [Fallible.outcome_bind, Fallible.outcome_read, hadopting, if_true,
          Fallible.outcome_pure, Fallible.outcome_update, Fallible.outcome_ofExcept]
        rcases finish.correction.applied with error | _
        · exact .inl ⟨by simp [hkeyboard]; rfl, ⟨error, rfl⟩, rfl⟩
        · refine .inr ⟨by simp [hkeyboard]; rfl, prepared.plan.buffer,
            commitCorrectedWord_commits pending prepared.plan.buffer
              ((service.adopting finish.snapshot).trace ++ [_]) service finish, ?_⟩
          have hlength : prepared.plan.buffer.length = service.tracker.buffer.length :=
            hcurrent.2.2.1
          rw [← List.length_eq_zero_iff, hlength, List.length_eq_zero_iff]
          simp
      · have hadopting : ¬ (service.adopting finish.snapshot).keyboard = true := hkeyboard
        simp only [Fallible.outcome_bind, Fallible.outcome_read, hadopting]
        exact .inl ⟨by simp [hkeyboard], ⟨_, rfl⟩, rfl⟩

/-- The case correction fails with the writer, and commits the corrected word. -/
theorem finishSameLayout_result {corrected : List Keystroke} :
    FinishResult (outcome (finishPendingSameLayoutCaseCorrection pending.separatorKey corrected
        finish) (service.adopting finish.snapshot))
      (!(service.keyboard && finish.sameLayout.isOk))
      (pending.separatorKey ≠ keySpace || corrected.isEmpty) pending service finish := by
  unfold finishPendingSameLayoutCaseCorrection keyboardMut emit
  simp only [Fallible.outcome_bind, Fallible.outcome_read]
  by_cases hkeyboard : service.keyboard = true
  · have hadopting : (service.adopting finish.snapshot).keyboard = true := hkeyboard
    simp only [hadopting, if_true, Fallible.outcome_pure, Fallible.outcome_update,
      Fallible.outcome_ofExcept]
    rcases finish.sameLayout with error | _
    · exact .inl ⟨by simp [hkeyboard]; rfl, ⟨error, rfl⟩, rfl⟩
    · exact .inr ⟨by simp [hkeyboard]; rfl, corrected,
        commitCorrectedWord_commits pending corrected
          ((service.adopting finish.snapshot).trace ++ [_]) service finish, by simp⟩
  · have hadopting : ¬ (service.adopting finish.snapshot).keyboard = true := hkeyboard
    simp only [hadopting]
    exact .inl ⟨by simp [hkeyboard], ⟨_, rfl⟩, rfl⟩

theorem finish_result :
    FinishResult (outcome (finishPendingWordCommit pending config finish) service)
      (service.finishFails config pending finish) (service.finishCommitsNothing pending finish)
      pending service finish := by
  by_cases hauthorized : finishAuthorized pending finish = true
  · unfold finishFails finishCommitsNothing
    cases haction : pending.action with
    | layoutCorrection =>
        rw [outcome_finish_layout hauthorized haction]
        simp only [hauthorized, Bool.true_and]
        exact finishAutoCorrection_result
    | sameLayoutCaseCorrection corrected =>
        rw [outcome_finish_sameLayout hauthorized haction]
        simp only [hauthorized, Bool.true_and, if_true]
        exact finishSameLayout_result
  · have hcancelled : finishAuthorized pending finish = false := by simpa using hauthorized
    have hcompletes : service.finishFails config pending finish = false := by
      simp [finishFails, hcancelled]
    rw [outcome_finish_cancelled hcancelled, hcompletes]
    refine commits_result pending service.tracker.buffer (service.adopting finish.snapshot).trace
      service finish ?_
    unfold finishCommitsNothing
    cases pending.action <;> simp [hcancelled]

end Finish

/-! ## From the pending commit to the word keys -/

/-- With no stroke in the buffer only Backspace can bring a word back. -/
theorem wordKeyForgets_of_empty (hbuffer : service.tracker.buffer = [])
    (hoverflowed : service.tracker.wordBufferOverflowed = false)
    (hkeyboard : service.keyboard = true) :
    service.WordKeyForgets event config answers ↔
      (event.key = keyBackspace → service.NoWordOffered) := by
  unfold WordKeyForgets
  by_cases hspace : event.key = keySpace
  · rw [if_pos hspace, if_neg (by simp [hoverflowed])]
    refine iff_of_true hbuffer fun hbackspace => ?_
    rw [hbackspace] at hspace
    exact absurd hspace (by decide)
  · rw [if_neg hspace]
    by_cases hboundary : event.key = keyEnter ∨ event.key = keyTab
    · rw [if_pos hboundary]
      refine iff_of_true (.inr (by rw [hbuffer, boundaryDecision_nil])) fun hbackspace => ?_
      rw [hbackspace] at hboundary
      exact absurd hboundary (by decide)
    · rw [if_neg hboundary, noWordOffered_iff]
      by_cases hbackspace : event.key = keyBackspace
      · simp [hbackspace, hoverflowed, hkeyboard, hbuffer]
      · simp [hbackspace]

theorem earlyFinishStage_passes (h : service.pendingWordCommit = none) :
    Passes (earlyFinishStage event config answers) service service := by
  unfold Passes earlyFinishStage
  simp only [Fallible.outcome_bind, Fallible.outcome_read, id, h, Fallible.outcome_pure]

/-- The state in which a key finishes the pending commit. -/
def finishing (service : DaemonService) (pending : PendingWordCommit) : DaemonService :=
  { service with
    pendingWordCommit := none
    suppressedSeparatorKey := some pending.separatorKey }

theorem finishing_result (service : DaemonService) (config : RuntimeConfigSnapshot)
    (pending : PendingWordCommit) (finish : FinishAnswers) :
    FinishResult (outcome (finishPendingWordCommit pending config finish)
        (service.finishing pending))
      (service.finishFails config pending finish) (service.finishCommitsNothing pending finish)
      pending service finish := by
  have hresult : FinishResult (outcome (finishPendingWordCommit pending config finish)
        (service.finishing pending))
      ((service.finishing pending).finishFails config pending finish)
      ((service.finishing pending).finishCommitsNothing pending finish) pending
      (service.finishing pending) finish := finish_result
  rcases hresult with hfailed | ⟨hfails, word, hcommits, hword⟩
  · exact .inl hfailed
  · exact .inr ⟨hfails, word, ⟨hcommits.typed, hcommits.tracker, hcommits.inputSnapshot,
      hcommits.keyboard, hcommits.selectedTextRunner, hcommits.modifiers,
      hcommits.layoutShortcutLatched⟩, hword⟩

/-- The stage finishes the commit first, and then looks for the correction hotkey. -/
theorem outcome_earlyFinish {pending : PendingWordCommit} (hpress : event.value = 1)
    (hkey : isModifier event.key = false) (h : service.pendingWordCommit = some pending) :
    outcome (earlyFinishStage event config answers) service =
      outcome (finishPendingWordCommit pending config answers.finish >>= fun _ =>
          pure (if manualCorrectionHotkeyMatches config.manualCorrectionHotkey service.modifiers
            event.key event.value then some KeyEventFate.handled else none))
        (service.finishing pending) := by
  unfold earlyFinishStage finishing
  simp only [Fallible.outcome_bind, Fallible.outcome_read, id, h, hpress, hkey, decide_true,
    Bool.not_false, Bool.and_self, if_true, Fallible.outcome_update]
  rcases outcome (finishPendingWordCommit pending config answers.finish) _ with ⟨error | _, after⟩
  · rfl
  · simp only [Fallible.outcome_ite, Fallible.outcome_pure]
    split
    · rfl
    · rfl

/-- What a key finds after the commit that it finished early. -/
theorem hotkeyForgets_of_commits {pending : PendingWordCommit} {word : List Keystroke}
    {result : Except SwitcherError Unit × DaemonService}
    (h : Commits result pending service answers.finish word)
    (hword : pending.separatorKey ≠ keySpace ∨ word = [] ↔
      service.FinishForgets config pending answers.finish)
    (hkeyboard : service.keyboard = true)
    (hmanual : manualCorrectionHotkeyMatches config.manualCorrectionHotkey service.modifiers
      event.key event.value = false) :
    result.2.HotkeyForgets event config answers ↔
      if service.modifiers.matchesLayoutSwitchCombo config.layoutSwitchCombo event.key
          event.value then
        service.layoutShortcutLatched = true → service.FinishForgets config pending answers.finish
      else if selectedTextHotkeyMatchesWhenAllowed config.selectedTextHotkey service.modifiers
          event.key event.value answers.settingsHotkeyCaptureInhibited then
        event.key = keyPause ∧ (service.adopting answers.finish.snapshot).SelectedTextStarts
            answers ∨ service.FinishForgets config pending answers.finish
      else event.key = keyBackspace → service.FinishForgets config pending answers.finish := by
  have hnone : result.2.NoWordOffered ↔ service.FinishForgets config pending answers.finish := by
    rw [noWordOffered_iff, h.tracker]
    exact (commit_offersNothing _ _ _).trans hword
  have hselected : result.2.SelectedTextStarts answers ↔
      (service.adopting answers.finish.snapshot).SelectedTextStarts answers := by
    unfold SelectedTextStarts
    rw [h.inputSnapshot, h.selectedTextRunner]
    exact Iff.rfl
  have hbuffer : result.2.tracker.buffer = [] := by
    rw [h.tracker]
    unfold WordTracker.commitCorrectedWord WordTracker.applyCorrectedWordCommitState
    split
    · rfl
    · rfl
  have hoverflowed : result.2.tracker.wordBufferOverflowed = false := by
    rw [h.tracker]
    rfl
  have hkeys : result.2.WordKeyForgets event config answers ↔
      (event.key = keyBackspace → result.2.NoWordOffered) :=
    wordKeyForgets_of_empty hbuffer hoverflowed (h.keyboard.trans hkeyboard)
  have hallowed : manualCorrectionHotkeyMatchesWhenAllowed config.manualCorrectionHotkey
      service.modifiers event.key event.value answers.settingsHotkeyCaptureInhibited = false := by
    simp [manualCorrectionHotkeyMatchesWhenAllowed, hmanual]
  unfold HotkeyForgets
  rw [h.modifiers, h.layoutShortcutLatched, hallowed, hselected, hkeys, hnone]
  simp only [Bool.false_eq_true, if_false]

/-- The commit went through, and the key is handled as any other. -/
theorem forgets_earlyFinish_ok {pending : PendingWordCommit} {after : DaemonService}
    {word : List Keystroke} (hpress : event.value = 1) (hkey : isModifier event.key = false)
    (hheld : service.modifiers.chordHeld = true)
    (hstage : outcome (earlyFinishStage event config answers) service =
      (.ok (if manualCorrectionHotkeyMatches config.manualCorrectionHotkey service.modifiers
        event.key event.value then some .handled else none), after))
    (hcommits : Commits (.ok (), after) pending service answers.finish word)
    (hword : pending.separatorKey ≠ keySpace ∨ word = [] ↔
      service.FinishForgets config pending answers.finish)
    (hnone : after.NoWordOffered ↔ service.FinishForgets config pending answers.finish)
    (hcompletes : service.finishCompletes config pending answers.finish = true) :
    Forgets ((earlyFinishStage event config answers).followedBy
        (hotkeysThenWords origin event config answers)) service ↔
      service.PendingForgets event config answers pending := by
  have hkeyboard : service.keyboard = true := by
    simp only [finishCompletes, Bool.and_eq_true] at hcompletes
    exact hcompletes.1.2
  have hheld' : after.modifiers.chordHeld = true := by
    rw [← hheld]
    exact congrArg ModifierState.chordHeld hcommits.modifiers
  unfold PendingForgets
  by_cases hmanual : manualCorrectionHotkeyMatches config.manualCorrectionHotkey
      service.modifiers event.key event.value = true
  · rw [if_pos hmanual] at hstage
    rw [forgets_of_settles (settles_of_outcome hstage (by simp)), hnone, hmanual, Bool.not_true,
      Bool.and_false, if_neg Bool.false_ne_true]
  · rw [if_neg hmanual] at hstage
    have hother : manualCorrectionHotkeyMatches config.manualCorrectionHotkey service.modifiers
        event.key event.value = false := by simpa using hmanual
    rw [forgets_of_passes hstage, forgets_hotkeys hpress hkey hheld', hcompletes, hother,
      Bool.not_false, Bool.and_self, if_pos rfl]
    exact hotkeyForgets_of_commits hcommits hword hkeyboard hother

theorem forgets_earlyFinish {pending : PendingWordCommit} (hpress : event.value = 1)
    (hkey : isModifier event.key = false) (hheld : service.modifiers.chordHeld = true)
    (hpending : service.pendingWordCommit = some pending) :
    Forgets ((earlyFinishStage event config answers).followedBy
        (hotkeysThenWords origin event config answers)) service ↔
      service.PendingForgets event config answers pending := by
  have hstage : outcome (earlyFinishStage event config answers) service = _ :=
    outcome_earlyFinish hpress hkey hpending
  have hresult := finishing_result service config pending answers.finish
  rw [Fallible.outcome_bind] at hstage
  rcases hfinish : outcome (finishPendingWordCommit pending config answers.finish)
    (service.finishing pending) with ⟨answer, after⟩
  rw [hfinish] at hstage hresult
  rcases hresult with ⟨hfails, ⟨error, herror⟩, htracker⟩ | ⟨hfails, word, hcommits, hword⟩
  · simp only at herror htracker
    subst herror
    have hnone : after.NoWordOffered ↔ service.FinishForgets config pending answers.finish := by
      unfold FinishForgets NoWordOffered
      rw [hfails, htracker, if_pos rfl]
    rw [forgets_of_settles (settles_of_outcome hstage (by simp)), hnone]
    simp [PendingForgets, finishCompletes, hfails]
  · have hforgets : pending.separatorKey ≠ keySpace ∨ word = [] ↔
        service.FinishForgets config pending answers.finish := by
      unfold FinishForgets
      rw [hfails, if_neg Bool.false_ne_true]
      exact hword
    have hnone : after.NoWordOffered ↔ service.FinishForgets config pending answers.finish := by
      rw [noWordOffered_iff, hcommits.tracker]
      exact (commit_offersNothing _ _ _).trans hforgets
    have hcompletes : service.finishCompletes config pending answers.finish = answer.isOk := by
      have htyped : answer.isOk = (service.keyboard && answers.finish.separator.isOk) :=
        hcommits.typed
      rw [htyped]
      simp [finishCompletes, hfails]
    rcases answer with error | _
    · have hfailed : service.finishCompletes config pending answers.finish = false := hcompletes
      rw [forgets_of_settles (settles_of_outcome hstage (by simp)), hnone]
      unfold PendingForgets
      rw [hfailed, Bool.false_and, if_neg Bool.false_ne_true]
    · exact forgets_earlyFinish_ok hpress hkey hheld hstage hcommits hforgets hnone hcompletes

theorem forgets_commit (hpress : event.value = 1) (hkey : isModifier event.key = false)
    (hheld : service.modifiers.chordHeld = true) :
    Forgets ((earlyFinishStage event config answers).followedBy
        (hotkeysThenWords origin event config answers)) service ↔
      service.CommitForgets event config answers := by
  unfold CommitForgets
  cases hpending : service.pendingWordCommit with
  | none =>
      rw [forgets_of_passes (earlyFinishStage_passes hpending)]
      exact forgets_hotkeys hpress hkey hheld
  | some pending => exact forgets_earlyFinish hpress hkey hheld hpending

/-! ## The modifiers -/

/-- The modifiers' stage changes nothing that the later stages read, but for the latch of the
correction hotkey, and the one of a layout shortcut that this key is not. -/
structure SameWord (event : DeferredInputEvent) (config : RuntimeConfigSnapshot)
    (service service' : DaemonService) : Prop where
  inputSnapshot : service'.inputSnapshot = service.inputSnapshot
  keyboard : service'.keyboard = service.keyboard
  selectedTextRunner : service'.selectedTextRunner = service.selectedTextRunner
  modifiers : service'.modifiers = service.modifiers
  pendingWordCommit : service'.pendingWordCommit = service.pendingWordCommit
  tracker : ∃ latch, service'.tracker = { service.tracker with manualHotkeyLatch := latch }
  layoutShortcutLatched :
    service.modifiers.matchesLayoutSwitchCombo config.layoutSwitchCombo event.key
      event.value = true → service'.layoutShortcutLatched = service.layoutShortcutLatched

namespace SameWord

variable {service' : DaemonService}

theorem noWordOffered (h : SameWord event config service service') :
    service'.NoWordOffered ↔ service.NoWordOffered := by
  obtain ⟨latch, htracker⟩ := h.tracker
  unfold NoWordOffered
  rw [htracker]
  exact Iff.rfl

theorem trans {service'' : DaemonService} (h : SameWord event config service service')
    (h' : SameWord event config service' service'') : SameWord event config service service'' where
  inputSnapshot := h'.inputSnapshot.trans h.inputSnapshot
  keyboard := h'.keyboard.trans h.keyboard
  selectedTextRunner := h'.selectedTextRunner.trans h.selectedTextRunner
  modifiers := h'.modifiers.trans h.modifiers
  pendingWordCommit := h'.pendingWordCommit.trans h.pendingWordCommit
  tracker := by
    obtain ⟨latch, htracker⟩ := h.tracker
    obtain ⟨latch', htracker'⟩ := h'.tracker
    exact ⟨latch', by rw [htracker', htracker]⟩
  layoutShortcutLatched := by
    intro hcombo
    rw [← h.layoutShortcutLatched hcombo]
    rw [← h.modifiers] at hcombo
    exact h'.layoutShortcutLatched hcombo

theorem commitForgets (h : SameWord event config service service') :
    service'.CommitForgets event config answers ↔ service.CommitForgets event config answers := by
  obtain ⟨h₁, h₂, h₃, h₄, h₅, ⟨latch, h₆⟩, h₇⟩ := h
  by_cases hcombo : service.modifiers.matchesLayoutSwitchCombo config.layoutSwitchCombo event.key
      event.value = true
  · have hlatched := h₇ hcombo
    cases service
    cases service'
    dsimp only at h₁ h₂ h₃ h₄ h₅ h₆ hlatched
    subst h₁ h₂ h₃ h₄ h₅ h₆ hlatched
    exact Iff.rfl
  · cases service
    cases service'
    dsimp only at h₁ h₂ h₃ h₄ h₅ h₆ hcombo
    subst h₁ h₂ h₃ h₄ h₅ h₆
    unfold CommitForgets PendingForgets HotkeyForgets
    simp only [hcombo]
    exact Iff.rfl

end SameWord

theorem withModifiersUpdated_of_not_modifier (hkey : isModifier event.key = false) :
    service.withModifiersUpdated event = service := by
  unfold withModifiersUpdated
  rw [ModifierState.update_of_not_modifier _ _ hkey]

/-- The state after the two latches have been looked at. -/
def unlatched (event : DeferredInputEvent) (config : RuntimeConfigSnapshot)
    (service : DaemonService) : DaemonService :=
  (service.unlatchLayoutShortcut config).clearManualHotkeyLatch event config

theorem unlatchLayoutShortcut_eq (config : RuntimeConfigSnapshot) (service : DaemonService) :
    ∃ latched, service.unlatchLayoutShortcut config =
      { service with layoutShortcutLatched := latched } := by
  unfold unlatchLayoutShortcut
  split
  · exact ⟨false, rfl⟩
  · exact ⟨service.layoutShortcutLatched, rfl⟩

theorem clearManualHotkeyLatch_eq (event : DeferredInputEvent) (config : RuntimeConfigSnapshot)
    (service : DaemonService) :
    service.clearManualHotkeyLatch event config =
      { service with tracker := { service.tracker with
          manualHotkeyLatch :=
            if shouldClearManualHotkeyLatchOnKeyPress service.tracker.manualHotkeyLatch
                (hotkeyTriggerToEvdevKey config.manualCorrectionHotkey.trigger) event.key
                event.value event.timestamp then none
            else service.tracker.manualHotkeyLatch } } := by
  unfold clearManualHotkeyLatch
  split
  · rfl
  · rfl

/-- A key that is no modifier lets go of no layout shortcut that it is part of. -/
theorem unlatched_sameWord (hkey : isModifier event.key = false) (service : DaemonService) :
    SameWord event config service (service.unlatched event config) := by
  obtain ⟨latched, hlatched⟩ := unlatchLayoutShortcut_eq config service
  have hkeeps : service.modifiers.matchesLayoutSwitchCombo config.layoutSwitchCombo event.key
        event.value = true → latched = service.layoutShortcutLatched := by
    intro hcombo
    have hheld := (matchesLayoutSwitchCombo_space hkey hcombo).2
    have hsame : service.unlatchLayoutShortcut config = service := by
      simp [unlatchLayoutShortcut, hheld]
    rw [hlatched] at hsame
    exact congrArg layoutShortcutLatched hsame
  unfold unlatched
  rw [hlatched, clearManualHotkeyLatch_eq]
  exact ⟨rfl, rfl, rfl, rfl, rfl, ⟨_, rfl⟩, hkeeps⟩

theorem unlatched_manualHotkeyLatch (event : DeferredInputEvent) (config : RuntimeConfigSnapshot)
    (service : DaemonService) :
    (service.unlatched event config).tracker.manualHotkeyLatch =
      if shouldClearManualHotkeyLatchOnKeyPress service.tracker.manualHotkeyLatch
          (hotkeyTriggerToEvdevKey config.manualCorrectionHotkey.trigger) event.key event.value
          event.timestamp then none
      else service.tracker.manualHotkeyLatch := by
  obtain ⟨latched, hlatched⟩ := unlatchLayoutShortcut_eq config service
  unfold unlatched
  rw [clearManualHotkeyLatch_eq, hlatched]

/-- The stage forgets the word if the focus moves, looks at the latches, and settles an event of
the key whose latch is still there. -/
theorem outcome_modifierStage {updated : DaemonService} (hkey : isModifier event.key = false)
    (h : (shouldInvalidateForWaylandFocusSwitchShortcut service.inputSnapshot.sessionType
          service.modifiers event.key event.value = false ∧ updated = service) ∨
      (shouldInvalidateForWaylandFocusSwitchShortcut service.inputSnapshot.sessionType
          service.modifiers event.key event.value = true ∧
        outcome handleNonKeyInvalidation service = (.ok (), updated))) :
    outcome (modifierStage event config) service =
      (.ok (if shouldSwallowManualHotkeyLatchedEvent
          (updated.unlatched event config).tracker.manualHotkeyLatch event.key event.value then
            some .handled
          else none), updated.unlatched event config) := by
  unfold modifierStage
  rw [Fallible.outcome_bind, Fallible.outcome_update]
  simp only [withModifiersUpdated_of_not_modifier hkey, Fallible.outcome_bind,
    Fallible.outcome_read, id]
  rcases h with ⟨hfocus, rfl⟩ | ⟨hfocus, hforgotten⟩
  · simp only [hfocus, Bool.false_eq_true, if_false, Fallible.outcome_bind,
      Fallible.outcome_update, Fallible.outcome_read, id, Fallible.outcome_ite,
      Fallible.outcome_pure]
    unfold unlatched
    split
    · rfl
    · rfl
  · simp only [hfocus, if_true, Fallible.outcome_bind, hforgotten, Fallible.outcome_update,
      Fallible.outcome_read, id, Fallible.outcome_ite, Fallible.outcome_pure]
    unfold unlatched
    split
    · rfl
    · rfl

/-- A focus switch on Wayland forgets the word and touches nothing else that is read later. -/
theorem handleNonKeyInvalidation_sameWord (event : DeferredInputEvent)
    (config : RuntimeConfigSnapshot) (service : DaemonService) :
    ∃ updated, outcome handleNonKeyInvalidation service = (.ok (), updated) ∧
      SameWord event config service.withInvalidatedContext updated ∧
      updated.tracker.manualHotkeyLatch = none := by
  unfold handleNonKeyInvalidation invalidateWordContext requestManualCurrentWordCancel
  simp only [Fallible.outcome_bind, Fallible.outcome_ofTransition, Fallible.outcome_update]
  rcases service.manualCurrentWordFlow.invalidateManualFlowContext with ⟨invalidation, flow⟩
  cases invalidation with
  | idle => exact ⟨_, rfl, ⟨rfl, rfl, rfl, rfl, rfl, ⟨none, rfl⟩, fun _ => rfl⟩, rfl⟩
  | contextOnly => exact ⟨_, rfl, ⟨rfl, rfl, rfl, rfl, rfl, ⟨none, rfl⟩, fun _ => rfl⟩, rfl⟩
  | requestCancellation requestId =>
      simp only [Fallible.outcome_bind, Fallible.outcome_read, Fallible.outcome_ite]
      by_cases hkeyboard : service.keyboard = true
      · refine ⟨_, if_pos hkeyboard, ⟨rfl, rfl, rfl, rfl, rfl, ⟨none, rfl⟩, fun _ => rfl⟩, rfl⟩
      · refine ⟨_, if_neg hkeyboard, ⟨rfl, rfl, rfl, rfl, rfl, ⟨none, rfl⟩, fun _ => rfl⟩, rfl⟩

/-! ## A press that is not queued -/

theorem hotkeyStages_followedBy (origin : InputOrigin) (event : DeferredInputEvent)
    (config : RuntimeConfigSnapshot) (answers : KeyAnswers) :
    (hotkeyStages origin event config answers).followedBy (do
        wordKeyEvent origin event config answers
        pure .handled) =
      (modifierStage event config).followedBy
        ((earlyFinishStage event config answers).followedBy
          (hotkeysThenWords origin event config answers)) := by
  unfold hotkeyStages hotkeysThenWords
  simp only [followedBy_andThen]

/-- The modifiers' stage passes the event on to a pending commit, unless its latch swallows it. -/
theorem forgets_afterModifiers {forgotten updated : DaemonService} (hpress : event.value = 1)
    (hkey : isModifier event.key = false) (hheld : forgotten.modifiers.chordHeld = true)
    (hsame : SameWord event config forgotten (updated.unlatched event config))
    (hstage : outcome (modifierStage event config) service =
      (.ok (if shouldSwallowManualHotkeyLatchedEvent
          (updated.unlatched event config).tracker.manualHotkeyLatch event.key event.value then
            some .handled
          else none), updated.unlatched event config)) :
    Forgets ((modifierStage event config).followedBy
        ((earlyFinishStage event config answers).followedBy
          (hotkeysThenWords origin event config answers))) service ↔
      if shouldSwallowManualHotkeyLatchedEvent
          (updated.unlatched event config).tracker.manualHotkeyLatch event.key event.value then
        forgotten.NoWordOffered
      else forgotten.CommitForgets event config answers := by
  by_cases hswallow : shouldSwallowManualHotkeyLatchedEvent
      (updated.unlatched event config).tracker.manualHotkeyLatch event.key event.value = true
  · rw [if_pos hswallow] at hstage
    rw [if_pos hswallow, forgets_of_settles (settles_of_outcome hstage (by simp)),
      hsame.noWordOffered]
  · rw [if_neg hswallow] at hstage
    have hheld' : (updated.unlatched event config).modifiers.chordHeld = true := by
      rw [hsame.modifiers]
      exact hheld
    rw [if_neg hswallow, forgets_of_passes hstage, forgets_commit hpress hkey hheld',
      hsame.commitForgets]

theorem forgets_interpretation (hpress : event.value = 1) (hkey : isModifier event.key = false)
    (hheld : service.modifiers.chordHeld = true) :
    Forgets (interpretKeyEvent origin event answers) service ↔
      service.InterpretationForgets event service.inputSnapshot.config answers := by
  have hread : Forgets (interpretKeyEvent origin event answers) service ↔
      Forgets ((modifierStage event service.inputSnapshot.config).followedBy
        ((earlyFinishStage event service.inputSnapshot.config answers).followedBy
          (hotkeysThenWords origin event service.inputSnapshot.config answers))) service := by
    rw [← hotkeyStages_followedBy]
    exact Iff.rfl
  rw [hread]
  unfold InterpretationForgets
  by_cases hfocus : shouldInvalidateForWaylandFocusSwitchShortcut
      service.inputSnapshot.sessionType service.modifiers event.key event.value = true
  · obtain ⟨updated, hforgotten, hsame, hlatch⟩ :=
      handleNonKeyInvalidation_sameWord event service.inputSnapshot.config service
    have hgone : (updated.unlatched event service.inputSnapshot.config).tracker.manualHotkeyLatch =
        none := by
      rw [unlatched_manualHotkeyLatch, hlatch]
      split
      · rfl
      · rfl
    have hheld' : service.withInvalidatedContext.modifiers.chordHeld = true := hheld
    rw [if_pos hfocus, forgets_afterModifiers hpress hkey hheld'
      (hsame.trans (unlatched_sameWord hkey updated))
      (outcome_modifierStage hkey (.inr ⟨hfocus, hforgotten⟩)), hgone]
    exact Iff.of_eq (if_neg (by simp [shouldSwallowManualHotkeyLatchedEvent]))
  · rw [if_neg hfocus, forgets_afterModifiers hpress hkey hheld
      (unlatched_sameWord hkey service)
      (outcome_modifierStage hkey (.inl ⟨by simpa using hfocus, rfl⟩)),
      unlatched_manualHotkeyLatch]
    cases shouldClearManualHotkeyLatchOnKeyPress service.tracker.manualHotkeyLatch
        (hotkeyTriggerToEvdevKey service.inputSnapshot.config.manualCorrectionHotkey.trigger)
        event.key event.value event.timestamp with
    | true => simp [shouldSwallowManualHotkeyLatchedEvent]
    | false => simp

/-! ## Every chord -/

theorem outcome_adopt (answer : SnapshotTryLoad) (service : DaemonService) :
    ∃ adopted, outcome (adoptInputSnapshotNonblocking answer) service =
      (.ok adopted, service.adopting answer) := by
  cases answer with
  | loaded snapshot => exact ⟨true, rfl⟩
  | contended => exact ⟨false, rfl⟩
  | poisoned => exact ⟨false, rfl⟩

theorem routingStages_followedBy (origin : InputOrigin) (event : DeferredInputEvent)
    (answers : KeyAnswers) (rest : ServiceM KeyEventFate) :
    (routingStages origin event answers).followedBy rest =
      (suppressedHotkeyStage event answers).followedBy
        ((suppressedUndoStage event).followedBy
          ((separatorReleaseStage event answers).followedBy
            ((captureStage origin event answers).followedBy
              ((manualFlowStage origin event).followedBy rest)))) := by
  unfold routingStages
  simp only [followedBy_andThen]

/-- A physical press that capture has passed on is queued or interpreted. -/
theorem forgets_physical (hpress : event.value = 1) (hkey : isModifier event.key = false)
    (hheld : service.modifiers.chordHeld = true) :
    Forgets ((manualFlowStage .physical event).followedBy
        (interpretKeyEvent .physical event answers)) service ↔
      service.PhysicalForgets event answers := by
  unfold PhysicalForgets
  by_cases hactive : service.manualCurrentWordFlow.isActive = true
  · rw [if_pos hactive, forgets_of_settles (manualFlowStage_settles hactive)]
  · rw [if_neg hactive,
      forgets_of_passes (manualFlowStage_passes (.inr (by simpa using hactive)))]
    exact forgets_interpretation hpress hkey hheld

theorem forgets_capture (hpress : event.value = 1) (hkey : isModifier event.key = false)
    (hheld : service.modifiers.chordHeld = true) :
    Forgets ((captureStage .physical event answers).followedBy
        ((manualFlowStage .physical event).followedBy
          (interpretKeyEvent .physical event answers))) service ↔
      service.CaptureForgets event answers := by
  unfold CaptureForgets
  cases hcaptured : answers.capture with
  | error error => rw [forgets_of_settles (captureStage_fails hcaptured)]
  | ok captured =>
      simp only
      have hheld' : (service.observingCapture captured).modifiers.chordHeld = true := by
        unfold observingCapture
        split
        · exact hheld
        · exact hheld
      by_cases hpass : captured.disposition = .passThrough
      · rw [forgets_of_passes (captureStage_passes hcaptured hpass),
          forgets_physical hpress hkey hheld']
        unfold observingCapture
        split
        · exact (imp_iff_right hpass).symm
        · exact Iff.rfl
      · rw [forgets_of_settles (captureStage_settles hcaptured hpass)]
        unfold observingCapture
        split
        · exact iff_of_true (invalidated_noWordOffered _) fun hpassed => absurd hpassed hpass
        · exact Iff.rfl

/-- A key pressed with Ctrl, Alt or Meta held leaves no stroke to correct exactly if the state
before it and the answers it is given meet the chord's condition. -/
theorem chord_forgets_iff {origin : InputOrigin} {event : DeferredInputEvent}
    {answers : KeyAnswers} {service : DaemonService} (hpress : event.value = 1)
    (hkey : isModifier event.key = false) (hheld : service.modifiers.chordHeld = true) :
    (outcome (handleKeyEvent origin event answers) service).2.NoWordOffered ↔
      service.ChordForgets event answers origin := by
  obtain ⟨adopted, hadopt⟩ := outcome_adopt answers.snapshot service
  have hstart : (outcome (handleKeyEvent origin event answers) service).2.NoWordOffered ↔
      Forgets ((routingStages origin event answers).followedBy
        (interpretKeyEvent origin event answers)) (service.adopting answers.snapshot) := by
    unfold handleKeyEvent
    rw [Fallible.outcome_bind, hadopt]
    exact Iff.rfl
  rw [hstart, routingStages_followedBy]
  unfold ChordForgets
  simp only
  by_cases hsuppressed : (service.adopting answers.snapshot).suppressedHotkeyKey = some event.key ∧
      (service.adopting answers.snapshot).pendingSelectedTextSwitch = true
  · rw [if_pos hsuppressed,
      forgets_of_settles (suppressedHotkeyStage_settles hpress hsuppressed.1 hsuppressed.2)]
  · obtain ⟨first, hfirst, hsame⟩ := suppressedHotkeyStage_passes answers hpress hsuppressed
    obtain ⟨second, hsecond, hsame'⟩ := suppressedUndoStage_passes hpress first
    have hchord := hsame.trans hsame'
    have hheld' : second.modifiers.chordHeld = true := by
      rw [hchord.modifiers]
      exact hheld
    rw [if_neg hsuppressed, forgets_of_passes hfirst, forgets_of_passes hsecond,
      forgets_of_passes (separatorReleaseStage_passes hpress second)]
    by_cases horigin : origin = .physical
    · rw [if_pos horigin, horigin, forgets_capture hpress hkey hheld', hchord.captureForgets]
    · have hsnapshot : second.inputSnapshot.config =
          (service.adopting answers.snapshot).inputSnapshot.config := by
        rw [hchord.inputSnapshot]
      have hheld'' : (second.record (.interpreted origin event
          second.deferredInput.queue)).modifiers.chordHeld = true := hheld'
      rw [if_neg horigin, forgets_of_passes (captureStage_passes_replay horigin),
        forgets_of_passes (manualFlowStage_passes (.inl horigin)),
        forgets_interpretation hpress hkey hheld'', ← hsnapshot]
      exact hchord.interpretationForgets event _ answers

end Hotkeys

/-! ## A chord that keeps the word -/

section Example

/-- A service on an English layout that was confirmed at time zero. -/
def englishSnapshot : InputRuntimeSnapshot where
  config :=
    ⟨.ctrlShift, ⟨⟨false, false, false⟩, .f12⟩, ⟨⟨false, false, false⟩, .f9⟩, true, true, true,
      30, 0, 0⟩
  enabled := true
  features := ⟨true, true, true⟩
  sessionType := .x11
  layoutState := .known .english
  configGeneration := 0
  layoutGeneration := 0
  confirmedLayoutEpoch := 0
  confirmedAt := some 0

/-- The service right after its backend was opened. -/
def openedService : DaemonService :=
  (outcome (initializeInputBackend 0 (.ok ⟨true, false, .stopped⟩) "")
    (fresh englishSnapshot 0)).2

/-- One iteration that fetches the given key events. -/
def iterationWith (keys : List (Key × Int)) : LoopAnswers where
  fetched := .ok (keys.map fun (key, value) => ⟨some key, value, 0⟩)

/-- The service after one iteration that fetches the given key events. -/
def serviceAfter (keys : List (Key × Int)) : DaemonService :=
  (outcome (run [iterationWith keys]) openedService).2

def typedHiWithCtrl : List (Key × Int) :=
  [(keyH, 1), (keyH, 0), (keyI, 1), (keyI, 0), (keyLeftCtrl, 1)]

/-- Ctrl+Backspace deletes the word in the application, and one stroke in the buffer. -/
theorem ctrlBackspace_keeps_stroke :
    (serviceAfter typedHiWithCtrl).modifiers.chordHeld = true ∧
      isModifier keyBackspace = false ∧
      (outcome (handleKeyEvent .physical ⟨6, keyBackspace, 1, 0⟩ {})
        (serviceAfter typedHiWithCtrl)).1 = .ok .handled ∧
      (outcome (handleKeyEvent .physical ⟨6, keyBackspace, 1, 0⟩ {})
        (serviceAfter typedHiWithCtrl)).2.tracker.buffer = [⟨keyH, false, false⟩] ∧
      ¬ (outcome (handleKeyEvent .physical ⟨6, keyBackspace, 1, 0⟩ {})
        (serviceAfter typedHiWithCtrl)).2.NoWordOffered := by
  have hbuffer : (outcome (handleKeyEvent .physical ⟨6, keyBackspace, 1, 0⟩ {})
      (serviceAfter typedHiWithCtrl)).2.tracker.buffer = [⟨keyH, false, false⟩] := by
    decide +kernel
  refine ⟨by decide +kernel, by decide, by decide +kernel, hbuffer, ?_⟩
  rintro ⟨hnil, _⟩
  rw [hbuffer] at hnil
  cases hnil

def ctrlLeft : DeferredInputEvent := ⟨6, ⟨105⟩, 1, 0⟩

/-- Ctrl with the left arrow, in the same state, takes the word away. -/
theorem ctrlLeft_forgets :
    (outcome (handleKeyEvent .physical ctrlLeft {})
      (serviceAfter typedHiWithCtrl)).2.NoWordOffered := by
  have hpress : ctrlLeft.value = 1 := by decide
  have hkey : isModifier ctrlLeft.key = false := by decide
  have hheld : (serviceAfter typedHiWithCtrl).modifiers.chordHeld = true := by decide +kernel
  apply (chord_forgets_iff hpress hkey hheld).mpr
  decide +kernel

end Example

end DaemonService

end OpenSwitcher
