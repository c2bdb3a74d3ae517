import OpenSwitcher.Settings.Form
/-!
# Runs of the settings form

The window calls its form dirty by comparing the draft with the loaded settings, while a
save sends the draft with the layout switch that the user took over. When the two agree,
and when the sent layout switch is one the user decided on.
-/

namespace OpenSwitcher

/-! ## Patches that are empty -/

theorem SettingsFieldMask.between_ne_empty_iff (base desired : Settings) :
    between base desired ≠ empty ↔ base ≠ desired := by
  constructor
  · intro hne hsame
    subst hsame
    apply hne
    simp [between]
  · intro hne hempty
    apply hne
    apply SettingsField.settings_ext
    intro field
    by_contra hdiffer
    have hcontains := (between_contains base desired field).mpr hdiffer
    rw [hempty, SettingsField.empty_contains] at hcontains
    cases hcontains

namespace DomainState

theorem autostartChange_isSome (state : DomainState) :
    state.autostartChange.isSome = state.autostartDirty := by
  unfold autostartChange autostartDirty
  cases state.loadedAutostartEnabled with
  | none => rfl
  | some enabled =>
      by_cases h : enabled = state.autostartEnabled
      · simp [h]
      · simp

/-- The layout switch of the loaded settings is not one that its user chose. -/
def detected (state : DomainState) : Bool :=
  (state.loaded.map fun loaded => decide (loaded.layoutSwitch.source ≠ .manual ∨
    loaded.layoutSwitch.autoDetected ≠ {})).getD false

/-- A draft and an autostart choice differ from what was loaded. -/
def differs (state : DomainState) (draft : Settings) (autostart : Bool) : Bool :=
  decide (state.loaded ≠ some draft) || state.loadedAutostartEnabled == some (!autostart)

theorem dirty_of_loaded {state : DomainState} {loaded : Settings}
    (h : state.loaded = some loaded) :
    state.viewState.dirty = (decide (loaded ≠ state.draft) || state.autostartDirty) := by
  have hdirty : state.viewState.dirty =
      ((state.loaded.map fun settings => decide (settings ≠ state.draft)).getD false ||
        state.autostartDirty) := rfl
  rw [hdirty, h]
  rfl

theorem dirty_eq {state : DomainState} {loaded : Settings} (h : state.loaded = some loaded) :
    state.viewState.dirty = state.differs state.draft state.autostartEnabled := by
  have hautostart : state.autostartDirty =
      (state.loadedAutostartEnabled == some (!state.autostartEnabled)) := by
    unfold autostartDirty
    cases state.loadedAutostartEnabled with
    | none => rfl
    | some enabled => cases enabled <;> cases state.autostartEnabled <;> rfl
  rw [dirty_of_loaded h, hautostart, differs, h]
  simp

/-- Every edit of a field leaves the layout switch alone. -/
theorem update_eq (state : DomainState) (edit : DraftEdit) :
    (state.update edit).2 = { state with draft := edit.apply state.draft } := by
  have hfield : ∀ {α : Type} [DecidableEq α] (current value : α) (draft : Settings),
      (current = value → draft = state.draft) →
      (state.updateField current value draft).2 = { state with draft := draft } := by
    intro α _ current value draft hsame
    unfold updateField
    by_cases h : current = value
    · rw [if_pos h, hsame h]
    · rw [if_neg h]
  cases edit with
  | manualCorrectionHotkey value => exact hfield _ _ _ fun h => by rw [← h]
  | layoutDelay value => exact hfield _ _ _ fun h => by rw [← h]
  | selectedTextHotkey value => exact hfield _ _ _ fun h => by rw [← h]
  | autoSwitchEnabled value => exact hfield _ _ _ fun h => by rw [← h]
  | fixTwoCapitals value => exact hfield _ _ _ fun h => by rw [← h]
  | fixAccidentalCapsLock value => exact hfield _ _ _ fun h => by rw [← h]

theorem apply_layoutSwitch (draft : Settings) (edit : DraftEdit) :
    (edit.apply draft).layoutSwitch = draft.layoutSwitch := by
  cases edit <;> rfl

/-- The draft with a captured combination. -/
def capturedDraft (state : DomainState) (combo : LayoutSwitchCombo) : Settings :=
  { state.draft with layoutSwitch := { state.draft.layoutSwitch with combo } }

theorem applyCapturedLayoutSwitch_eq (state : DomainState) (combo : LayoutSwitchCombo) :
    (state.applyCapturedLayoutSwitch combo).2 =
      { state with
        draft := state.capturedDraft combo
        layoutSwitchManualOverride := true
        layoutSwitchCaptureActive := false } := by
  unfold applyCapturedLayoutSwitch capturedDraft
  by_cases h : state.draft.layoutSwitch.combo = combo
  · subst h
    simp only [if_true]
  · simp only [if_neg h]

theorem beginLoading_eq (state : DomainState) :
    ∃ requestState, state.beginLoading.2 = { state with requestState } := by
  unfold beginLoading
  split
  · exact ⟨state.requestState, rfl⟩
  · exact ⟨.loading, rfl⟩

theorem beginSave_eq (state : DomainState) :
    ∃ requestState, state.beginSave.2 = { state with requestState } := by
  unfold beginSave
  split
  · exact ⟨state.requestState, rfl⟩
  · split
    · exact ⟨state.requestState, rfl⟩
    · exact ⟨.saving, rfl⟩

theorem cancelLayoutSwitchCapture_eq (state : DomainState) :
    state.cancelLayoutSwitchCapture.2 = { state with layoutSwitchCaptureActive := false } := by
  unfold cancelLayoutSwitchCapture
  split
  · rfl
  · rename_i hinactive
    rw [Bool.not_eq_true] at hinactive
    rw [← hinactive]

theorem setLayoutSwitchCaptureActive_eq (state : DomainState) (active : Bool) :
    (state.setLayoutSwitchCaptureActive active).2 =
      { state with layoutSwitchCaptureActive := active } := by
  unfold setLayoutSwitchCaptureActive
  split
  · rename_i hsame
    rw [← hsame]
  · rfl

theorem setAutostartEnabled_eq (state : DomainState) (enabled : Bool) :
    (state.setAutostartEnabled enabled).2 = { state with autostartEnabled := enabled } := by
  unfold setAutostartEnabled
  split
  · rename_i hsame
    rw [← hsame]
  · rfl

theorem saveSucceeded_eq (state : DomainState) (snapshot : PendingSave) (committed : Settings) :
    ∃ autostartEnabled loadedAutostartEnabled, state.saveSucceeded snapshot committed =
      { state.savePersistedSettingsSucceeded committed with
        autostartEnabled, loadedAutostartEnabled } := by
  unfold saveSucceeded
  cases snapshot.autostartChange with
  | none => exact ⟨_, _, rfl⟩
  | some enabled => exact ⟨enabled, some enabled, rfl⟩

end DomainState

/-! ## Steps that keep the form honest -/

/-- The steps after which an override of a detected layout switch would stand without a
decision of the user, or without any other change of the form, are ruled out: a capture that
sets the override by merely starting, and every step that puts or leaves the override on over
loaded settings that the draft equals. -/
def FormAction.sound (state : DomainState) : FormAction → Bool
  | startLayoutSwitchCapture =>
      state.requestState == .saving || state.layoutSwitchManualOverride || !state.detected
  | unlockLayoutSwitchOverride =>
      !state.unlockLayoutSwitchOverride.1 || state.differs state.draft state.autostartEnabled
  | applyCapturedLayoutSwitch combo =>
      !state.detected || state.differs (state.capturedDraft combo) state.autostartEnabled
  | update edit =>
      !state.layoutSwitchManualOverride || !state.detected ||
        state.differs (edit.apply state.draft) state.autostartEnabled
  | setAutostartEnabled enabled =>
      !state.layoutSwitchManualOverride || !state.detected || state.differs state.draft enabled
  | applyLoadedAutostart _ =>
      !state.layoutSwitchManualOverride || !state.detected ||
        decide (state.loaded ≠ some state.draft)
  | _ => true

namespace SettingsForm

/-- The form after a run. -/
def after (form : SettingsForm) (actions : List FormAction) : SettingsForm :=
  actions.foldl step form

/-- Every step of the run is sound. -/
def soundRun (form : SettingsForm) : List FormAction → Bool
  | [] => true
  | action :: rest => action.sound form.state && soundRun (form.step action) rest

/-! ## What the steps do -/

theorem step_quiet (form : SettingsForm) (action : FormAction) {state : DomainState}
    (hconfirmed : action.confirmed form.state form.confirmed = form.confirmed)
    (hstate : action.apply form.state = state) :
    form.step action = ⟨state, form.confirmed⟩ := by
  unfold step
  rw [hconfirmed, hstate]

theorem step_unlock_refused (form : SettingsForm)
    (h : form.state.unlockLayoutSwitchOverride.1 = false) :
    form.step .unlockLayoutSwitchOverride = form := by
  have hstate : form.state.unlockLayoutSwitchOverride.2 = form.state := by
    unfold DomainState.unlockLayoutSwitchOverride at h ⊢
    split at h
    · rename_i hrefused
      rw [if_pos hrefused]
    · cases h
  unfold step FormAction.apply FormAction.confirmed
  simp only [h, hstate, Bool.or_false]

theorem step_unlock_accepted (form : SettingsForm)
    (h : form.state.unlockLayoutSwitchOverride.1 = true) :
    form.step .unlockLayoutSwitchOverride =
      ⟨{ form.state with layoutSwitchManualOverride := true }, true⟩ := by
  have hstate : form.state.unlockLayoutSwitchOverride.2 =
      { form.state with layoutSwitchManualOverride := true } := by
    unfold DomainState.unlockLayoutSwitchOverride at h ⊢
    split at h
    · cases h
    · rename_i haccepted
      rw [if_neg haccepted]
  unfold step FormAction.apply FormAction.confirmed
  simp only [h, hstate, Bool.or_true]

theorem step_startCapture_refused (form : SettingsForm)
    (h : form.state.requestState = .saving ∨ form.state.loaded = none) :
    form.step .startLayoutSwitchCapture = form := by
  unfold step FormAction.apply FormAction.confirmed DomainState.startLayoutSwitchCapture
  simp only [if_pos h]

theorem step_startCapture_accepted (form : SettingsForm)
    (h : ¬ (form.state.requestState = .saving ∨ form.state.loaded = none)) :
    form.step .startLayoutSwitchCapture =
      ⟨{ form.state with
          layoutSwitchManualOverride := true, layoutSwitchCaptureActive := true },
        form.confirmed⟩ := by
  unfold step FormAction.apply FormAction.confirmed DomainState.startLayoutSwitchCapture
  simp only [if_neg h]

theorem step_applyCaptured (form : SettingsForm) (combo : LayoutSwitchCombo) :
    form.step (.applyCapturedLayoutSwitch combo) =
      ⟨{ form.state with
          draft := form.state.capturedDraft combo
          layoutSwitchManualOverride := true
          layoutSwitchCaptureActive := false }, true⟩ :=
  congrArg (fun state => (⟨state, true⟩ : SettingsForm))
    (form.state.applyCapturedLayoutSwitch_eq combo)

/-! ## Honest forms -/

/-- What holds of the form in between: the draft has the origin of the loaded layout switch, its
combination is only changed by a confirmed capture, what was confirmed is an override, and an
override of a detected layout switch was confirmed and comes with another change. -/
structure Honest (form : SettingsForm) : Prop where
  taken : form.confirmed = true → form.state.layoutSwitchManualOverride = true
  origin : ∀ loaded, form.state.loaded = some loaded →
    form.state.draft.layoutSwitch.source = loaded.layoutSwitch.source ∧
      form.state.draft.layoutSwitch.autoDetected = loaded.layoutSwitch.autoDetected
  combo : ∀ loaded, form.state.loaded = some loaded → form.confirmed = false →
    form.state.draft.layoutSwitch.combo = loaded.layoutSwitch.combo
  override : form.state.layoutSwitchManualOverride = true → form.state.detected = true →
    form.confirmed = true ∧
      form.state.differs form.state.draft form.state.autostartEnabled = true

namespace Honest

variable {form form' : SettingsForm}

/-- Steps that touch none of this. -/
theorem of_same (h : Honest form) (hloaded : form'.state.loaded = form.state.loaded)
    (hdraft : form'.state.draft = form.state.draft)
    (hautostart : form'.state.autostartEnabled = form.state.autostartEnabled)
    (hloadedAutostart : form'.state.loadedAutostartEnabled = form.state.loadedAutostartEnabled)
    (hoverride : form'.state.layoutSwitchManualOverride = form.state.layoutSwitchManualOverride)
    (hconfirmed : form'.confirmed = form.confirmed) : Honest form' := by
  have hdetected : form'.state.detected = form.state.detected := by
    unfold DomainState.detected
    rw [hloaded]
  have hdiffers : form'.state.differs = form.state.differs := by
    unfold DomainState.differs
    rw [hloaded, hloadedAutostart]
  constructor
  · rw [hconfirmed, hoverride]
    exact h.taken
  · rw [hloaded, hdraft]
    exact h.origin
  · rw [hloaded, hdraft, hconfirmed]
    exact h.combo
  · rw [hoverride, hdetected, hconfirmed, hdiffers, hdraft, hautostart]
    exact h.override

/-- The draft is what was loaded, and nothing is overridden. -/
theorem fresh (hdraft : ∀ loaded, form.state.loaded = some loaded → form.state.draft = loaded)
    (hoverride : form.state.layoutSwitchManualOverride = false)
    (hconfirmed : form.confirmed = false) : Honest form := by
  constructor
  · intro h
    rw [hconfirmed] at h
    cases h
  · intro loaded hloaded
    rw [hdraft loaded hloaded]
    exact ⟨rfl, rfl⟩
  · intro loaded hloaded _
    rw [hdraft loaded hloaded]
  · intro h
    rw [hoverride] at h
    cases h

/-- Steps that change the draft, the autostart choice or the override, over the same loaded
settings. -/
theorem of_edit (h : Honest form) (hloaded : form'.state.loaded = form.state.loaded)
    (htaken : form'.confirmed = true → form'.state.layoutSwitchManualOverride = true)
    (horigin : form'.state.draft.layoutSwitch.source = form.state.draft.layoutSwitch.source ∧
      form'.state.draft.layoutSwitch.autoDetected = form.state.draft.layoutSwitch.autoDetected)
    (hcombo : form'.confirmed = false → form.confirmed = false ∧
      form'.state.draft.layoutSwitch.combo = form.state.draft.layoutSwitch.combo)
    (hoverride : form'.state.layoutSwitchManualOverride = true → form.state.detected = true →
      form'.confirmed = true ∧
        form'.state.differs form'.state.draft form'.state.autostartEnabled = true) :
    Honest form' := by
  have hdetected : form'.state.detected = form.state.detected := by
    unfold DomainState.detected
    rw [hloaded]
  constructor
  · exact htaken
  · intro loaded hsome
    rw [hloaded] at hsome
    rw [horigin.1, horigin.2]
    exact h.origin loaded hsome
  · intro loaded hsome hconfirmed
    rw [hloaded] at hsome
    obtain ⟨hbefore, hsame⟩ := hcombo hconfirmed
    rw [hsame]
    exact h.combo loaded hsome hbefore
  · rw [hdetected]
    exact hoverride

/-- What is known of an override that was there before the step. -/
theorem confirmed_of_override (h : Honest form)
    (hoverride : form.state.layoutSwitchManualOverride = true)
    (hdetected : form.state.detected = true) : form.confirmed = true :=
  (h.override hoverride hdetected).1

theorem not_confirmed (h : Honest form)
    (hoverride : form.state.layoutSwitchManualOverride = false) : form.confirmed = false := by
  rw [← Bool.not_eq_true]
  intro hconfirmed
  rw [h.taken hconfirmed] at hoverride
  cases hoverride

/-! ### One step -/

theorem saveSucceeded (form : SettingsForm) (snapshot : PendingSave) (committed : Settings) :
    Honest (form.step (.saveSucceeded snapshot committed)) := by
  obtain ⟨autostart, loadedAutostart, hstate⟩ := form.state.saveSucceeded_eq snapshot committed
  have hstep : form.step (.saveSucceeded snapshot committed) = ⟨_, false⟩ :=
    congrArg (fun state => (⟨state, false⟩ : SettingsForm)) hstate
  rw [hstep]
  apply Honest.fresh
  · intro loaded hloaded
    exact Option.some.inj hloaded
  · rfl
  · rfl

theorem discardChanges (h : Honest form) : Honest (form.step .discardChanges) := by
  cases hloaded : form.state.loaded with
  | none =>
      have hstate : form.step .discardChanges = form := by
        unfold step FormAction.apply FormAction.confirmed DomainState.discardChanges
        simp [hloaded]
      rw [hstate]
      exact h
  | some loaded =>
      have hstate : (form.state.discardChanges.2.loaded = some loaded ∧
          form.state.discardChanges.2.draft = loaded) ∧
          form.state.discardChanges.2.layoutSwitchManualOverride = false := by
        unfold DomainState.discardChanges
        simp only [hloaded]
        split
        · rename_i hsame
          exact ⟨⟨rfl, hsame.1⟩, rfl⟩
        · exact ⟨⟨rfl, rfl⟩, rfl⟩
      apply Honest.fresh
      · intro loaded' hloaded'
        exact hstate.1.2.trans (Option.some.inj (hstate.1.1.symm.trans hloaded'))
      · exact hstate.2
      · change (form.confirmed && form.state.loaded.isNone) = false
        rw [hloaded]
        exact Bool.and_false _

theorem applyLoadedAutostart (h : Honest form) (enabled : Bool)
    (hsound : (FormAction.applyLoadedAutostart enabled).sound form.state = true) :
    Honest (form.step (.applyLoadedAutostart enabled)) := by
  apply h.of_edit
  · rfl
  · exact h.taken
  · exact ⟨rfl, rfl⟩
  · exact fun hconfirmed => ⟨hconfirmed, rfl⟩
  · intro hoverride hdetected
    refine ⟨h.confirmed_of_override hoverride hdetected, ?_⟩
    change form.state.layoutSwitchManualOverride = true at hoverride
    simp only [FormAction.sound, hoverride, hdetected, Bool.not_true, Bool.false_or] at hsound
    unfold DomainState.differs
    exact Bool.or_eq_true_iff.mpr (.inl hsound)

theorem setAutostartEnabled (h : Honest form) (enabled : Bool)
    (hsound : (FormAction.setAutostartEnabled enabled).sound form.state = true) :
    Honest (form.step (.setAutostartEnabled enabled)) := by
  have hstep : form.step (.setAutostartEnabled enabled) = ⟨_, form.confirmed⟩ :=
    congrArg (fun state => (⟨state, form.confirmed⟩ : SettingsForm))
      (form.state.setAutostartEnabled_eq enabled)
  rw [hstep]
  apply h.of_edit
  · rfl
  · exact h.taken
  · exact ⟨rfl, rfl⟩
  · exact fun hconfirmed => ⟨hconfirmed, rfl⟩
  · intro hoverride hdetected
    refine ⟨h.confirmed_of_override hoverride hdetected, ?_⟩
    change form.state.layoutSwitchManualOverride = true at hoverride
    simp only [FormAction.sound, hoverride, hdetected, Bool.not_true, Bool.false_or] at hsound
    exact hsound

theorem update (h : Honest form) (edit : DraftEdit)
    (hsound : (FormAction.update edit).sound form.state = true) :
    Honest (form.step (.update edit)) := by
  have hstep : form.step (.update edit) = ⟨_, form.confirmed⟩ :=
    congrArg (fun state => (⟨state, form.confirmed⟩ : SettingsForm)) (form.state.update_eq edit)
  have hswitch := DomainState.apply_layoutSwitch form.state.draft edit
  rw [hstep]
  apply h.of_edit
  · rfl
  · exact h.taken
  · simp only [hswitch, and_self]
  · intro hconfirmed
    simp only [hswitch, and_true]
    exact hconfirmed
  · intro hoverride hdetected
    refine ⟨h.confirmed_of_override hoverride hdetected, ?_⟩
    change form.state.layoutSwitchManualOverride = true at hoverride
    simp only [FormAction.sound, hoverride, hdetected, Bool.not_true, Bool.false_or] at hsound
    exact hsound

theorem unlockLayoutSwitchOverride (h : Honest form)
    (hsound : FormAction.unlockLayoutSwitchOverride.sound form.state = true) :
    Honest (form.step .unlockLayoutSwitchOverride) := by
  cases haccepted : form.state.unlockLayoutSwitchOverride.1 with
  | false =>
      rw [form.step_unlock_refused haccepted]
      exact h
  | true =>
      rw [form.step_unlock_accepted haccepted]
      apply h.of_edit
      · rfl
      · exact fun _ => rfl
      · exact ⟨rfl, rfl⟩
      · intro hconfirmed
        cases hconfirmed
      · intro _ _
        refine ⟨rfl, ?_⟩
        simp only [FormAction.sound, haccepted, Bool.not_true, Bool.false_or] at hsound
        exact hsound

theorem startLayoutSwitchCapture (h : Honest form)
    (hsound : FormAction.startLayoutSwitchCapture.sound form.state = true) :
    Honest (form.step .startLayoutSwitchCapture) := by
  by_cases hrefused : form.state.requestState = .saving ∨ form.state.loaded = none
  · rw [form.step_startCapture_refused hrefused]
    exact h
  · rw [form.step_startCapture_accepted hrefused]
    apply h.of_edit
    · rfl
    · exact fun _ => rfl
    · exact ⟨rfl, rfl⟩
    · exact fun hconfirmed => ⟨hconfirmed, rfl⟩
    · intro _ hdetected
      -- the override was on before
      have hsaving : (form.state.requestState == .saving) = false := by
        rw [beq_eq_false_iff_ne]
        exact fun hsame => hrefused (.inl hsame)
      simp only [FormAction.sound, hsaving, hdetected, Bool.not_true, Bool.false_or,
        Bool.or_false] at hsound
      exact h.override hsound hdetected

theorem applyCapturedLayoutSwitch (h : Honest form) (combo : LayoutSwitchCombo)
    (hsound : (FormAction.applyCapturedLayoutSwitch combo).sound form.state = true) :
    Honest (form.step (.applyCapturedLayoutSwitch combo)) := by
  rw [form.step_applyCaptured]
  apply h.of_edit
  · rfl
  · exact fun _ => rfl
  · exact ⟨rfl, rfl⟩
  · intro hconfirmed
    cases hconfirmed
  · intro _ hdetected
    refine ⟨rfl, ?_⟩
    simp only [FormAction.sound, hdetected, Bool.not_true, Bool.false_or] at hsound
    exact hsound

end Honest

theorem step_honest {form : SettingsForm} (h : Honest form) (action : FormAction)
    (hsound : action.sound form.state = true) : Honest (form.step action) := by
  cases action with
  | applyLoaded settings =>
      exact Honest.fresh (fun _ hloaded => Option.some.inj hloaded) rfl rfl
  | savePersistedSettingsSucceeded settings =>
      exact Honest.fresh (fun _ hloaded => Option.some.inj hloaded) rfl rfl
  | saveSucceeded snapshot committed => exact Honest.saveSucceeded form snapshot committed
  | discardChanges => exact h.discardChanges
  | beginLoading =>
      obtain ⟨requestState, hstate⟩ := form.state.beginLoading_eq
      rw [form.step_quiet .beginLoading rfl hstate]
      exact h.of_same rfl rfl rfl rfl rfl rfl
  | finishLoading => exact h.of_same rfl rfl rfl rfl rfl rfl
  | beginSave =>
      obtain ⟨requestState, hstate⟩ := form.state.beginSave_eq
      rw [form.step_quiet .beginSave rfl hstate]
      exact h.of_same rfl rfl rfl rfl rfl rfl
  | saveFailed => exact h.of_same rfl rfl rfl rfl rfl rfl
  | cancelLayoutSwitchCapture =>
      rw [form.step_quiet .cancelLayoutSwitchCapture rfl
        form.state.cancelLayoutSwitchCapture_eq]
      exact h.of_same rfl rfl rfl rfl rfl rfl
  | setLayoutSwitchCaptureActive active =>
      rw [form.step_quiet (.setLayoutSwitchCaptureActive active) rfl
        (form.state.setLayoutSwitchCaptureActive_eq active)]
      exact h.of_same rfl rfl rfl rfl rfl rfl
  | applyLoadedAutostart enabled => exact h.applyLoadedAutostart enabled hsound
  | setAutostartEnabled enabled => exact h.setAutostartEnabled enabled hsound
  | update edit => exact h.update edit hsound
  | unlockLayoutSwitchOverride => exact h.unlockLayoutSwitchOverride hsound
  | startLayoutSwitchCapture => exact h.startLayoutSwitchCapture hsound
  | applyCapturedLayoutSwitch combo => exact h.applyCapturedLayoutSwitch combo hsound

/-! ## The form and the patch -/

/-- In a loaded, idle form: it is dirty exactly when a save would send anything, and a layout
switch is sent only if the user confirmed a capture or unlocked the override. -/
def Agrees (form : SettingsForm) : Prop :=
  form.state.requestState = .idle → form.state.loaded.isSome = true →
    ∃ pending, form.state.beginSave.1 = some pending ∧
      (form.state.viewState.dirty = true ↔
        pending.patch.changed ≠ .empty ∨ pending.autostartChange.isSome = true) ∧
      (pending.patch.changed.contains .layoutSwitch = true → form.confirmed = true)

/-- An override changes nothing of a layout switch that already is the user's. -/
theorem settingsForSave_eq {form : SettingsForm} (h : Honest form) {loaded : Settings}
    (hloaded : form.state.loaded = some loaded)
    (hmanual : form.state.layoutSwitchManualOverride = false ∨ form.state.detected = false) :
    form.state.settingsForSave = form.state.draft := by
  unfold DomainState.settingsForSave
  cases hoverride : form.state.layoutSwitchManualOverride with
  | false => rfl
  | true =>
      rcases hmanual with hoff | hdetected
      · rw [hoverride] at hoff
        cases hoff
      · obtain ⟨hsource, hauto⟩ := h.origin loaded hloaded
        simp only [DomainState.detected, hloaded, Option.map_some, Option.getD_some,
          decide_eq_false_iff_not, not_or, not_not] at hdetected
        rw [hdetected.1] at hsource
        rw [hdetected.2] at hauto
        simp only [if_true, ← hsource, ← hauto]

theorem overriding_of_not {form : SettingsForm}
    (h : ¬ (form.state.layoutSwitchManualOverride = false ∨ form.state.detected = false)) :
    form.state.layoutSwitchManualOverride = true ∧ form.state.detected = true := by
  simpa only [not_or, Bool.not_eq_false] using h

/-- What an override of a detected layout switch sends is not what was loaded. -/
theorem sent_layoutSwitch_differs {form : SettingsForm} {loaded : Settings}
    (hoverride : form.state.layoutSwitchManualOverride = true)
    (hdetected : form.state.detected = true) (hloaded : form.state.loaded = some loaded) :
    loaded.layoutSwitch ≠ form.state.settingsForSave.layoutSwitch := by
  intro hswitch
  unfold DomainState.settingsForSave at hswitch
  simp only [hoverride, if_true] at hswitch
  simp only [DomainState.detected, hloaded, Option.map_some, Option.getD_some,
    decide_eq_true_iff, hswitch] at hdetected
  rcases hdetected with hsource | hauto
  · exact hsource rfl
  · exact hauto rfl

theorem sent_differs {form : SettingsForm} {loaded : Settings}
    (hoverride : form.state.layoutSwitchManualOverride = true)
    (hdetected : form.state.detected = true) (hloaded : form.state.loaded = some loaded) :
    loaded ≠ form.state.settingsForSave :=
  fun hsame => sent_layoutSwitch_differs hoverride hdetected hloaded
    (congrArg Settings.layoutSwitch hsame)

theorem agrees_of_honest {form : SettingsForm} (h : Honest form) : Agrees form := by
  intro hidle hsome
  obtain ⟨loaded, hloaded⟩ := Option.isSome_iff_exists.mp hsome
  refine ⟨⟨form.state.settingsForSave, .between loaded form.state.settingsForSave,
    form.state.autostartChange⟩, ?_, ?_, ?_⟩
  · unfold DomainState.beginSave
    simp [hloaded, hidle]
  · have hpatch := SettingsFieldMask.between_ne_empty_iff loaded form.state.settingsForSave
    simp only [SettingsPatch.between, hpatch, form.state.autostartChange_isSome]
    by_cases hmanual : form.state.layoutSwitchManualOverride = false ∨ form.state.detected = false
    · rw [settingsForSave_eq h hloaded hmanual, DomainState.dirty_of_loaded hloaded,
        Bool.or_eq_true, decide_eq_true_iff]
    · obtain ⟨hoverride, hdetected⟩ := overriding_of_not hmanual
      obtain ⟨_, hdiffers⟩ := h.override hoverride hdetected
      rw [DomainState.dirty_eq hloaded, hdiffers]
      exact ⟨fun _ => .inl (sent_differs hoverride hdetected hloaded), fun _ => rfl⟩
  · intro hcontains
    have hdiffer := (SettingsFieldMask.between_contains loaded form.state.settingsForSave
      .layoutSwitch).mp hcontains
    by_cases hmanual : form.state.layoutSwitchManualOverride = false ∨ form.state.detected = false
    · rw [settingsForSave_eq h hloaded hmanual] at hdiffer
      by_contra hconfirmed
      rw [Bool.not_eq_true] at hconfirmed
      obtain ⟨hsource, hauto⟩ := h.origin loaded hloaded
      have hcombo := h.combo loaded hloaded hconfirmed
      apply hdiffer
      change loaded.layoutSwitch = form.state.draft.layoutSwitch
      cases hswitch : form.state.draft.layoutSwitch
      simp only [hswitch] at hsource hauto hcombo
      rw [hsource, hauto, hcombo]
    · obtain ⟨hoverride, hdetected⟩ := overriding_of_not hmanual
      exact (h.override hoverride hdetected).1

theorem new_honest : Honest {} := by
  refine Honest.fresh ?_ rfl rfl
  intro loaded hloaded
  cases hloaded

theorem after_honest {form : SettingsForm} (h : Honest form) (actions : List FormAction)
    (hsound : form.soundRun actions = true) : Honest (form.after actions) := by
  induction actions generalizing form with
  | nil => exact h
  | cons action rest ih =>
      simp only [soundRun, Bool.and_eq_true] at hsound
      exact ih (step_honest h action hsound.1) hsound.2

/-! ## Steps that expose the override -/

/-- An override of a detected layout switch stands without a decision, or without any other
change of the form. -/
structure Exposed (form : SettingsForm) : Prop where
  override : form.state.layoutSwitchManualOverride = true
  detected : form.state.detected = true
  alone : form.confirmed = false ∨
    form.state.differs form.state.draft form.state.autostartEnabled = false

theorem loaded_of_detected {state : DomainState} (h : state.detected = true) :
    ∃ loaded, state.loaded = some loaded := by
  cases hloaded : state.loaded with
  | none => simp [DomainState.detected, hloaded] at h
  | some loaded => exact ⟨loaded, rfl⟩

/-- Whatever the window was loading, its form does not agree with the patch. -/
theorem not_agrees_of_exposed {form : SettingsForm} (h : Exposed form) :
    ¬ Agrees (form.step .finishLoading) := by
  obtain ⟨loaded, hloaded⟩ := loaded_of_detected h.detected
  intro hagrees
  obtain ⟨pending, hpending, hdirty, hswitch⟩ := hagrees rfl (by
    change form.state.loaded.isSome = true
    rw [hloaded]
    rfl)
  have hsave : (form.step .finishLoading).state.beginSave.1 =
      some ⟨form.state.settingsForSave, .between loaded form.state.settingsForSave,
        form.state.autostartChange⟩ := by
    change form.state.finishLoading.beginSave.1 = _
    unfold DomainState.beginSave
    simp only [DomainState.finishLoading, hloaded]
    rfl
  rw [hsave] at hpending
  cases hpending
  have hsent := sent_differs h.override h.detected hloaded
  rcases h.alone with hconfirmed | hsame
  · -- the layout switch that would be sent is not the loaded one
    have hcontains := (SettingsFieldMask.between_contains loaded form.state.settingsForSave
      .layoutSwitch).mpr (sent_layoutSwitch_differs h.override h.detected hloaded)
    have hconfirmed' : form.confirmed = true := hswitch hcontains
    rw [hconfirmed] at hconfirmed'
    cases hconfirmed'
  · have hclean : (form.step .finishLoading).state.viewState.dirty = false := by
      have hloaded' : (form.step .finishLoading).state.loaded = some loaded := hloaded
      rw [DomainState.dirty_eq hloaded']
      exact hsame
    have hpatch := (SettingsFieldMask.between_ne_empty_iff loaded
      form.state.settingsForSave).mpr hsent
    have hdirty' := hdirty.mpr (.inl hpatch)
    rw [hclean] at hdirty'
    cases hdirty'

theorem detected_of_unlocked {state : DomainState}
    (h : state.unlockLayoutSwitchOverride.1 = true) : state.detected = true := by
  unfold DomainState.unlockLayoutSwitchOverride at h
  split at h
  · cases h
  · rename_i haccepted
    cases hloaded : state.loaded with
    | none => simp [hloaded] at haccepted
    | some loaded =>
        simp only [hloaded, Option.map_some, Option.getD_some,
          LayoutSwitchSetting.isLockedByAutoDetection, not_or, Bool.not_eq_false,
          Bool.and_eq_true, beq_iff_eq] at haccepted
        simp [DomainState.detected, hloaded, haccepted.2.1]

/-- A step that is not sound exposes the override. -/
theorem step_exposes {form : SettingsForm} (h : Honest form) (action : FormAction)
    (hunsound : action.sound form.state = false) : Exposed (form.step action) := by
  cases action with
  | startLayoutSwitchCapture =>
      simp only [FormAction.sound, Bool.or_eq_false_iff, beq_eq_false_iff_ne,
        Bool.not_eq_false'] at hunsound
      obtain ⟨⟨hsaving, hoff⟩, hdetected⟩ := hunsound
      obtain ⟨loaded, hloaded⟩ := loaded_of_detected hdetected
      rw [form.step_startCapture_accepted (by simp [hsaving, hloaded])]
      exact ⟨rfl, hdetected, .inl (h.not_confirmed hoff)⟩
  | unlockLayoutSwitchOverride =>
      simp only [FormAction.sound, Bool.or_eq_false_iff, Bool.not_eq_false'] at hunsound
      have hdetected : form.state.detected = true := detected_of_unlocked hunsound.1
      rw [form.step_unlock_accepted hunsound.1]
      exact ⟨rfl, hdetected, .inr hunsound.2⟩
  | applyCapturedLayoutSwitch combo =>
      simp only [FormAction.sound, Bool.or_eq_false_iff, Bool.not_eq_false'] at hunsound
      rw [form.step_applyCaptured]
      exact ⟨rfl, hunsound.1, .inr hunsound.2⟩
  | update edit =>
      simp only [FormAction.sound, Bool.or_eq_false_iff, Bool.not_eq_false'] at hunsound
      rw [form.step_quiet (.update edit) rfl (form.state.update_eq edit)]
      exact ⟨hunsound.1.1, hunsound.1.2, .inr hunsound.2⟩
  | setAutostartEnabled enabled =>
      simp only [FormAction.sound, Bool.or_eq_false_iff, Bool.not_eq_false'] at hunsound
      rw [form.step_quiet (.setAutostartEnabled enabled) rfl
        (form.state.setAutostartEnabled_eq enabled)]
      exact ⟨hunsound.1.1, hunsound.1.2, .inr hunsound.2⟩
  | applyLoadedAutostart enabled =>
      simp only [FormAction.sound, Bool.or_eq_false_iff, Bool.not_eq_false'] at hunsound
      refine ⟨hunsound.1.1, hunsound.1.2, .inr ?_⟩
      change (decide (form.state.loaded ≠ some form.state.draft) ||
        some enabled == some (!enabled)) = false
      rw [hunsound.2]
      cases enabled <;> rfl
  | applyLoaded _ | savePersistedSettingsSucceeded _ | saveSucceeded _ _ | discardChanges
  | beginLoading | finishLoading | beginSave | saveFailed | cancelLayoutSwitchCapture
  | setLayoutSwitchCaptureActive _ => cases hunsound

/-- A run that is not sound exposes the override on its way. -/
theorem exposed_of_not_soundRun {form : SettingsForm} (h : Honest form)
    (actions : List FormAction) (hunsound : form.soundRun actions = false) :
    ∃ before, before <+: actions ∧ Exposed (form.after before) := by
  induction actions generalizing form with
  | nil => cases hunsound
  | cons action rest ih =>
      cases hsound : action.sound form.state with
      | false => exact ⟨[action], ⟨rest, rfl⟩, step_exposes h action hsound⟩
      | true =>
          simp only [soundRun, hsound, Bool.true_and] at hunsound
          obtain ⟨before, hbefore, hexposed⟩ := ih (step_honest h action hsound) hunsound
          exact ⟨action :: before, List.cons_prefix_cons.mpr ⟨rfl, hbefore⟩, hexposed⟩

theorem soundRun_of_isPrefix {form : SettingsForm} {before actions : List FormAction}
    (hbefore : before <+: actions) (hsound : form.soundRun actions = true) :
    form.soundRun before = true := by
  induction before generalizing form actions with
  | nil => rfl
  | cons action before ih =>
      obtain ⟨rest, rfl⟩ := hbefore
      simp only [List.cons_append, soundRun, Bool.and_eq_true] at hsound ⊢
      exact ⟨hsound.1, ih (List.prefix_append before rest) hsound.2⟩

/-- The steps of a run are all sound exactly when the form agrees with what it would save in
every state of the run, also when the window is told there that its loading is over. -/
theorem form_agrees_with_patch (actions : List FormAction) :
    soundRun {} actions = true ↔ ∀ before, before <+: actions →
      Agrees (after {} before) ∧ Agrees ((after {} before).step .finishLoading) := by
  constructor
  · intro hsound before hbefore
    have hhonest := after_honest new_honest before (soundRun_of_isPrefix hbefore hsound)
    exact ⟨agrees_of_honest hhonest, agrees_of_honest (step_honest hhonest .finishLoading rfl)⟩
  · intro hagrees
    by_contra hunsound
    rw [Bool.not_eq_true] at hunsound
    obtain ⟨before, hbefore, hexposed⟩ := exposed_of_not_soundRun new_honest actions hunsound
    exact not_agrees_of_exposed hexposed (hagrees before hbefore).2

/-- Settings with a detected layout switch are loaded and edited, and the edit stays while a
captured combination is confirmed and another field is edited. -/
theorem form_agrees_with_patch_captured :
    Agrees (after {} [.applyLoaded { layoutSwitch := { source := .autoDetected } },
      .applyLoadedAutostart false, .update (.fixTwoCapitals true), .applyCapturedLayoutSwitch
      .altShift, .update (.layoutDelay 40)]) :=
  ((form_agrees_with_patch _).mp (by decide) _ List.prefix_rfl).1

/-- A capture that is started and cancelled leaves a form that is not dirty and would send a
layout switch that nobody decided on. -/
theorem not_agrees_of_cancelled_capture :
    ¬ Agrees (after {} [.applyLoaded { layoutSwitch := { source := .autoDetected } },
      .applyLoadedAutostart false, .startLayoutSwitchCapture, .cancelLayoutSwitchCapture]) := by
  intro h
  obtain ⟨pending, hpending, hdirty, _⟩ := h rfl rfl
  cases hpending
  have hclean : (after {} [.applyLoaded { layoutSwitch := { source := .autoDetected } },
      .applyLoadedAutostart false, .startLayoutSwitchCapture,
      .cancelLayoutSwitchCapture]).state.viewState.dirty = false := by decide
  have hsent := hdirty.mpr (.inl (by decide))
  rw [hclean] at hsent
  cases hsent

end SettingsForm

end OpenSwitcher
