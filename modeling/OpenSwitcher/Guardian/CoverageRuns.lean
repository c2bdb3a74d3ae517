import OpenSwitcher.Guardian.Coverage
/-!
# Runs of the daemon and the guardian

The mirror covers the debts after every step, and so in every run.
-/

namespace OpenSwitcher.Guardian

open Library SyntheticInput GuardianSession GuardianClient

variable {κ ω : Type}

/-- The history does not depend on tokens that the mirror gets. -/
theorem History.of_inserts {client client' : GuardianClient κ}
    {exchanged : List (Request × Response)} (hinserts : Inserts client client')
    (h : History client exchanged) : History client' exchanged := by
  intro token clearsMirror m' hup hm'
  obtain ⟨m, hm, _⟩ := hinserts.mirror m' hm'
  exact h token clearsMirror m (hinserts.pendingMutation.symm.trans hup) hm

namespace Link

variable {link : Link κ ω}

/-! ## Steps of the client -/

theorem Mirrored.insert {link link' : Link κ ω} {m : List PreparedToken} {token : PreparedToken}
    (h : Mirrored link m) (hpeer : link'.peer = link.peer) (hnew : token ∉ m)
    (hlength : m.length < maxActiveDebts)
    (hway : ∀ request ∈ link'.underWay, request ∈ link.underWay ∨
      ∀ pressed, request.Presses pressed → pressed ∈ m ++ [token]) :
    Mirrored link' (m ++ [token]) where
  distinct := by
    rw [List.nodup_append]
    refine ⟨h.distinct, List.nodup_singleton token, ?_⟩
    rintro a ha b hb rfl
    rw [List.mem_singleton] at hb
    exact hnew (hb ▸ ha)
  bounded := by
    rw [List.length_append]
    exact hlength
  debts := by
    rw [hpeer]
    exact fun debt hdebt => List.mem_append_left _ (h.debts debt hdebt)
  presses := by
    intro request hrequest pressed hpressed
    rcases hway request hrequest with hold | hnew
    · exact List.mem_append_left _ (h.presses request hold pressed hpressed)
    · exact hnew pressed hpressed

theorem Mirrored.mono {link link' : Link κ ω} {m : List PreparedToken}
    (h : Mirrored link m) (hpeer : link'.peer = link.peer)
    (hway : ∀ request ∈ link'.underWay, request ∈ link.underWay ∨
      ∀ pressed, request.Presses pressed → pressed ∈ m) :
    Mirrored link' m where
  distinct := h.distinct
  bounded := h.bounded
  debts := by
    rw [hpeer]
    exact h.debts
  presses := by
    intro request hrequest pressed hpressed
    rcases hway request hrequest with hold | hnew
    · exact h.presses request hold pressed hpressed
    · exact hnew pressed hpressed

/-- A client that rests and is healthy. -/
theorem Progress.of_idle (h : Progress link) (hphase : link.phase = .idle) :
    link.broker.isResting = true ∧ (link.toGuardian = [] ∧ link.toDaemon = []) ∧
      History link.client link.exchanged ∧ Awaits link.client.pendingMutation link.peer := by
  cases h with
  | resting phase broker empty history awaits => exact ⟨broker, empty, history, awaits⟩
  | sending submission phase => cases hphase.symm.trans phase
  | travelling submission sequence phase => cases hphase.symm.trans phase
  | lost submission phase => cases hphase.symm.trans phase
  | answered submission sequence response phase => cases hphase.symm.trans phase
  | refused submission error phase => cases hphase.symm.trans phase
  | returned submission response earlier phase => cases hphase.symm.trans phase

/-- A call that starts: its request, if it has one, presses only a mirrored token. -/
theorem Covered.start {link' : Link κ ω} (h : Covered link) (hphase : link.phase = .idle)
    (hinserts : Inserts link.client link'.client) (hpeer : link'.peer = link.peer)
    (hrest : link'.broker = link.broker ∧ link'.toGuardian = link.toGuardian ∧
      link'.toDaemon = link.toDaemon ∧ link'.exchanged = link.exchanged)
    (hsubmitted : link'.phase = .idle ∨ ∃ submission, link'.phase = .submitting submission ∧
      Fits link'.client.pendingMutation submission)
    (hpresses : ∀ request ∈ link'.phase.submitted, ∀ m', link'.client.emergency.mirror = some m' →
      ∀ token, request.Presses token → token ∈ m') : Covered link' where
  peer := hpeer ▸ h.peer
  mirrored := by
    obtain ⟨hbroker, hto, _⟩ := hrest
    intro m' hm'
    obtain ⟨m, hm, hgrows⟩ := hinserts.mirror m' hm'
    have hway : ∀ request ∈ link'.underWay, request ∈ link.underWay ∨
        ∀ pressed, request.Presses pressed → pressed ∈ m' := by
      intro request hrequest
      rw [underWay, List.append_assoc, List.mem_append] at hrequest
      rcases hrequest with hnew | hold
      · exact Or.inr fun pressed hpressed => hpresses request hnew m' hm' pressed hpressed
      · rw [hbroker, hto] at hold
        rw [underWay, hphase]
        exact Or.inl hold
    rcases hgrows with rfl | ⟨token, rfl, hnew, hlength⟩
    · exact (h.mirrored m' hm).mono hpeer hway
    · exact (h.mirrored m hm).insert hpeer hnew hlength hway
  handedOver := hinserts.handedOver h.handedOver
  progress := by
    intro hhealthy
    obtain ⟨hbroker, hto, hfrom, hexchanged⟩ := hrest
    obtain ⟨hresting, hempty, hhistory, hawaits⟩ :=
      (h.progress (hinserts.healthy hhealthy)).of_idle hphase
    refine .resting hsubmitted ?_ ?_ ?_ ?_
    · rw [hbroker]
      exact hresting
    · rw [hto, hfrom]
      exact hempty
    · rw [hexchanged]
      exact History.of_inserts hinserts hhistory
    · rw [hpeer, hinserts.pendingMutation]
      exact hawaits

theorem Covered.startCall (h : Covered link) (hphase : link.phase = .idle) (call : Call) :
    Covered (link.startCall call).2 := by
  have hinserts := start_inserts call link.client
  have hsubmits := start_submits call link.client
  have hpresses : ∀ request clearsMirror,
      (Fallible.outcome (GuardianClient.start call) link.client).1 =
        .ok (.submits request clearsMirror) →
      ∀ m', (Fallible.outcome (GuardianClient.start call) link.client).2.emergency.mirror =
        some m' → ∀ token, request.Presses token → token ∈ m' := by
    intro request clearsMirror hstarted m' hm' token hpressed
    have hfits := hsubmits request clearsMirror hstarted
    cases call with
    | executeDown operation pressed deadline =>
        obtain rfl := hfits.1
        obtain rfl : pressed = token := hpressed
        exact (startExecuteDown_spec operation pressed deadline link.client).2 ⟨_, hstarted⟩ m' hm'
    | synchronize operation deadline =>
        obtain ⟨mutation, _, rfl⟩ := hfits
        cases hpressed
    | synchronizeIfPending operation deadline =>
        obtain ⟨mutation, _, rfl⟩ := hfits
        cases hpressed
    | operationTerminalProof operation remainingDebt deadline =>
        obtain ⟨cleanup, rfl⟩ := hfits
        cases hpressed
    | cancelAndDrain operation deadline =>
        obtain ⟨cleanup, rfl⟩ := hfits
        cases hpressed
    | _ =>
        obtain rfl := hfits.1
        cases hpressed
  unfold Link.startCall
  simp only
  split
  · exact h.start hphase hinserts rfl ⟨rfl, rfl, rfl, rfl⟩ (Or.inl hphase) (by simp [hphase,
      ClientPhase.submitted])
  · exact h.start hphase hinserts rfl ⟨rfl, rfl, rfl, rfl⟩ (Or.inl hphase) (by simp [hphase,
      ClientPhase.submitted])
  · rename_i request clearsMirror hstarted
    refine h.start hphase hinserts rfl ⟨rfl, rfl, rfl, rfl⟩ (Or.inr ⟨_, rfl, ?_⟩) ?_
    · have hfits := hsubmits request clearsMirror hstarted
      exact hinserts.pendingMutation ▸ hfits
    · intro other hother
      obtain rfl := List.mem_singleton.1 hother
      exact hpresses other clearsMirror hstarted

theorem Covered.refuse (h : Covered link) (submission : Submission) (error : InputSafetyError) :
    Covered (link.refuse submission error) := by
  refine h.of_failed rfl rfl fun request hrequest => ?_
  rw [underWay, List.append_assoc, List.mem_append] at hrequest ⊢
  rcases hrequest with hsubmitted | hrest
  · cases hsubmitted
  · exact Or.inr hrest

theorem Progress.of_submitting {submission : Submission} (h : Progress link)
    (hphase : link.phase = .submitting submission) :
    Fits link.client.pendingMutation submission ∧ link.broker.isResting = true ∧
      (link.toGuardian = [] ∧ link.toDaemon = []) ∧ History link.client link.exchanged ∧
      Awaits link.client.pendingMutation link.peer := by
  cases h with
  | resting phase broker empty history awaits =>
      rcases phase with hidle | ⟨other, hother, hfits⟩
      · cases hphase.symm.trans hidle
      · obtain rfl := ClientPhase.submitting.inj (hphase.symm.trans hother)
        exact ⟨hfits, broker, empty, history, awaits⟩
  | sending submission phase => cases hphase.symm.trans phase
  | travelling submission sequence phase => cases hphase.symm.trans phase
  | lost submission phase => cases hphase.symm.trans phase
  | answered submission sequence response phase => cases hphase.symm.trans phase
  | refused submission error phase => cases hphase.symm.trans phase
  | returned submission response earlier phase => cases hphase.symm.trans phase

theorem Covered.submit {submission : Submission} (h : Covered link)
    (hphase : link.phase = .submitting submission) (fate : SendFate) :
    Covered (link.submit fate submission) := by
  unfold Link.submit
  split
  · rename_i error _
    refine h.advance rfl (holds_refl.refl _) (fun request hrequest => ?_) fun hhealthy => ?_
    · rw [underWay, List.append_assoc, List.mem_append] at hrequest ⊢
      rcases hrequest with hsubmitted | hrest
      · cases hsubmitted
      · exact Or.inr hrest
    · obtain ⟨hfits, hresting, hempty, hhistory, hawaits⟩ :=
        (h.progress hhealthy).of_submitting hphase
      exact .refused submission error rfl hfits hresting hempty hhistory hawaits
  · split
    · rename_i hbroker
      refine h.advance rfl (holds_refl.refl _) (fun request hrequest => ?_) fun hhealthy => ?_
      · rw [underWay, hphase, List.append_assoc, List.mem_append]
        exact (List.mem_append.1 hrequest).imp id (List.mem_append_right _)
      · obtain ⟨hfits, _, hempty, hhistory, hawaits⟩ :=
          (h.progress hhealthy).of_submitting hphase
        exact .sending submission rfl hfits (Or.inl rfl) hempty hhistory hawaits
    · exact h.refuse submission _
    · exact h.refuse submission _

/-! ## Steps of the broker -/

theorem brokerFailure_brokerFailure (error error' : InputSafetyError)
    (client : GuardianClient κ) :
    (client.brokerFailure error).brokerFailure error' = client.brokerFailure error := by
  have hfailed := isFailed_brokerFailure error client
  have hstopping : (client.brokerFailure error).stopping = true := by
    unfold brokerFailure
    split <;> rfl
  generalize client.brokerFailure error = failed at hfailed hstopping
  rw [brokerFailure, if_pos hfailed, ← hstopping]

/-- The requests under way after a step of the broker that sends none. -/
theorem underWay_of_resting {link' : Link κ ω} (hphase : link'.phase = link.phase ∨
      ∃ submission result, link'.phase = .returning submission result)
    (hbroker : link'.broker.unsent = []) (hto : link'.toGuardian = link.toGuardian) :
    ∀ request ∈ link'.underWay, request ∈ link.underWay := by
  intro request hrequest
  rw [underWay, hbroker, hto, List.append_nil, List.mem_append] at hrequest
  rw [underWay, List.mem_append, List.mem_append]
  rcases hrequest with hsubmitted | hrest
  · rcases hphase with hphase | ⟨submission, result, hphase⟩
    · exact Or.inl (Or.inl (hphase ▸ hsubmitted))
    · rw [hphase] at hsubmitted
      cases hsubmitted
  · exact Or.inr hrest

/-- The reply to a request leaves the guardian and the channel alone, and is either taken by the
waiting call or a failure of the client. -/
theorem reply_spec (request : Request) (result : Except SwitcherError Response)
    (link : Link κ ω) :
    (link.reply request result).peer = link.peer ∧
      (link.reply request result).toGuardian = link.toGuardian ∧
      (link.reply request result).broker.isResting = true ∧
      ((∃ submission, link.phase = .waiting submission ∧
          (link.reply request result).phase = .returning submission result ∧
          (link.reply request result).client = link.client) ∨
        ∃ error, (link.reply request result).phase = link.phase ∧
          (link.reply request result).client = link.client.brokerFailure error) := by
  unfold reply
  split
  · rename_i submission hphase
    refine ⟨rfl, rfl, ?_, Or.inl ⟨submission, hphase, rfl, rfl⟩⟩
    cases result with
    | error error =>
        simp only
        split <;> rfl
    | ok response =>
        simp only
        split <;> rfl
  · exact ⟨rfl, rfl, rfl, Or.inr ⟨_, rfl, rfl⟩⟩

theorem unsent_of_isResting {broker : BrokerPhase} (h : broker.isResting = true) :
    broker.unsent = [] := by
  cases broker with
  | idle => rfl
  | stopped => rfl
  | _ => cases h

/-- The requests under way after a reply. -/
theorem underWay_reply (request : Request) (result : Except SwitcherError Response)
    (link : Link κ ω) :
    ∀ other ∈ (link.reply request result).underWay, other ∈ link.underWay := by
  obtain ⟨_, hto, hresting, hreply⟩ := reply_spec request result link
  have hunsent := unsent_of_isResting hresting
  rcases hreply with ⟨submission, _, hphase, _⟩ | ⟨_, hphase, _⟩
  · exact underWay_of_resting (Or.inr ⟨submission, result, hphase⟩) hunsent hto
  · exact underWay_of_resting (Or.inl hphase) hunsent hto

/-- A reply after a failure. -/
theorem Covered.reply_failed (h : Covered link) (failed : Link κ ω)
    (hpeer : failed.peer = link.peer) {error : InputSafetyError}
    (hclient : failed.client = link.client.brokerFailure error)
    (hway : ∀ request ∈ failed.underWay, request ∈ link.underWay) (request : Request)
    (result : Except SwitcherError Response) : Covered (failed.reply request result) := by
  obtain ⟨hpeer', _, _, hreply⟩ := reply_spec request result failed
  have hway' : ∀ other ∈ (failed.reply request result).underWay, other ∈ link.underWay :=
    fun other hother => hway other (underWay_reply request result failed other hother)
  rcases hreply with ⟨_, _, _, hclient'⟩ | ⟨error', _, hclient'⟩
  · exact h.of_failed (hpeer'.trans hpeer) (hclient'.trans hclient) hway'
  · rw [hclient, brokerFailure_brokerFailure] at hclient'
    exact h.of_failed (hpeer'.trans hpeer) hclient' hway'

/-- A request whose answer is on the channel, with the answer taken off. -/
structure Received (link : Link κ ω) (request : Request) (response : Response) : Prop where
  waiting : ∃ submission, link.phase = .waiting submission ∧ request = submission.request ∧
    Fits link.client.pendingMutation submission
  empty : link.toGuardian = [] ∧ link.toDaemon = []
  history : History link.client link.exchanged
  acked : Acked link.client.pendingMutation link.peer request response
  answers : responseAnswers request response = true

theorem Received.progress {request : Request} {response : Response}
    (h : Received link request response) : Progress (link.reply request (.ok response)) := by
  obtain ⟨submission, hphase, rfl, hfits⟩ := h.waiting
  have hreply : link.reply submission.request (.ok response) = { link with
      phase := .returning submission (.ok response)
      exchanged := (submission.request, response) :: link.exchanged
      broker := if isTerminalResponse response || link.client.stopping then .stopped
        else .idle } := by
    simp only [reply, hphase]
  rw [hreply]
  refine .returned submission response link.exchanged rfl hfits ?_ h.empty rfl h.history h.acked
    h.answers
  simp only
  split <;> rfl

theorem Covered.reply_ok (h : Covered link) (received : Link κ ω)
    (hpeer : received.peer = link.peer) (hclient : received.client = link.client)
    (hway : ∀ request ∈ received.underWay, request ∈ link.underWay) {request : Request}
    {response : Response}
    (hreceived : received.client.isFailed = false → Received received request response) :
    Covered (received.reply request (.ok response)) := by
  obtain ⟨hpeer', _, _, hreply⟩ := reply_spec request (.ok response) received
  have hway' : ∀ other ∈ (received.reply request (.ok response)).underWay,
      other ∈ link.underWay :=
    fun other hother => hway other (underWay_reply request _ received other hother)
  rcases hreply with ⟨_, _, _, hclient'⟩ | ⟨error, _, hclient'⟩
  · refine h.advance (hpeer'.trans hpeer) ?_ hway' fun hhealthy => ?_
    · rw [hclient', hclient]
      exact holds_refl.refl link.client
    · rw [hclient'] at hhealthy
      exact (hreceived hhealthy).progress
  · rw [hclient] at hclient'
    exact h.of_failed (hpeer'.trans hpeer) hclient' hway'

/-- The end of an exchange whose answer, if any, was taken off the channel. -/
theorem Covered.conclude (h : Covered link) (ended : Link κ ω) (hpeer : ended.peer = link.peer)
    (hclient : ended.client = link.client)
    (hway : ∀ request ∈ ended.underWay, request ∈ link.underWay) (request : Request)
    (result : Except SwitcherError Response)
    (hreceived : ended.client.isFailed = false → ∀ response, result = .ok response →
      Received ended request response) : Covered (ended.conclude request result) := by
  have hfailed (error : InputSafetyError) :
      ended.client.brokerFailure error = link.client.brokerFailure error := by rw [hclient]
  let next : Link κ ω := { ended with nextSequence := ended.nextSequence + 1 }
  unfold Link.conclude
  split
  · exact h.reply_failed (ended.updateClient (·.brokerFailure _)) hpeer (hfailed _) hway request _
  · cases result with
    | error error =>
        exact h.reply_failed (next.updateClient (·.brokerFailure (healthErrorFor error))) hpeer
          (hfailed _) hway request _
    | ok response =>
        apply h.reply_ok next hpeer hclient hway
        intro hhealthy
        obtain ⟨waiting, empty, history, acked, answers⟩ := hreceived hhealthy response rfl
        exact ⟨waiting, empty, history, acked, answers⟩

/-- A stage in which the broker has a command that is not sent. -/
theorem Progress.of_unsent {request : Request} (h : Progress link)
    (hbroker : link.broker = .queued request ∨ link.broker = .picked request) :
    ∃ submission, request = submission.request ∧ link.phase = .waiting submission ∧
      Fits link.client.pendingMutation submission ∧ (link.toGuardian = [] ∧ link.toDaemon = []) ∧
      History link.client link.exchanged ∧ Awaits link.client.pendingMutation link.peer := by
  cases h with
  | sending submission phase fits broker empty history awaits =>
      refine ⟨submission, ?_, phase, fits, empty, history, awaits⟩
      rcases hbroker with hbroker | hbroker <;> rcases broker with broker | broker <;>
        rw [hbroker] at broker <;> cases broker <;> rfl
  | resting phase broker =>
      rcases hbroker with hbroker | hbroker <;> rw [hbroker] at broker <;> cases broker
  | travelling submission sequence phase fits broker =>
      rcases hbroker with hbroker | hbroker <;> rw [hbroker] at broker <;> cases broker
  | lost submission phase broker =>
      rcases hbroker with hbroker | hbroker <;> rw [hbroker] at broker <;>
        rcases broker with broker | ⟨_, broker⟩ <;> cases broker
  | answered submission sequence response phase fits broker =>
      rcases hbroker with hbroker | hbroker <;> rw [hbroker] at broker <;> cases broker
  | refused submission error phase fits broker =>
      rcases hbroker with hbroker | hbroker <;> rw [hbroker] at broker <;> cases broker
  | returned submission response earlier phase fits broker =>
      rcases hbroker with hbroker | hbroker <;> rw [hbroker] at broker <;> cases broker

theorem Covered.brokerPicks {request : Request} (h : Covered link)
    (hbroker : link.broker = .queued request) : Covered { link with broker := .picked request } := by
  refine h.advance rfl (holds_refl.refl _) (fun other hother => ?_) fun hhealthy => ?_
  · rw [underWay, hbroker]
    exact hother
  · obtain ⟨submission, rfl, phase, fits, empty, history, awaits⟩ :=
      (h.progress hhealthy).of_unsent (Or.inl hbroker)
    exact .sending submission phase fits (Or.inr rfl) empty history awaits

theorem Covered.brokerSends {request : Request} (h : Covered link)
    (hbroker : link.broker = .picked request) (failure : Option SwitcherError) :
    Covered (link.brokerSends failure request) := by
  cases failure with
  | some error =>
      exact h.conclude link rfl rfl (fun _ hother => hother) request (.error error)
        fun _ _ hresult => nomatch hresult
  | none =>
      refine h.advance rfl (holds_refl.refl _) (fun other hother => ?_) fun hhealthy => ?_
      · simp only [underWay, Link.brokerSends, BrokerPhase.unsent, List.append_nil, List.map_append,
          List.map_cons, List.map_nil, List.mem_append, List.mem_singleton] at hother
        simp only [underWay, hbroker, BrokerPhase.unsent, List.mem_append, List.mem_singleton]
        tauto
      · obtain ⟨submission, rfl, phase, fits, ⟨hto, hfrom⟩, history, awaits⟩ :=
          (h.progress hhealthy).of_unsent (Or.inr hbroker)
        refine .travelling submission link.nextSequence phase fits rfl ⟨?_, hfrom⟩ history awaits
        simp only [Link.brokerSends, hto, List.nil_append]

theorem receivedResult_ok {sequence : Sequence} {request : Request} {frame : DecodedFrame}
    {response : Response} (h : receivedResult sequence request frame = .ok response) :
    frame.message = .response response ∧ (∀ code, response ≠ .fatal code) ∧
      responseAnswers request response = true := by
  unfold receivedResult at h
  rw [bind_eq_ok] at h
  obtain ⟨_, hmatches, h⟩ := h
  split at h
  · cases h
  · cases h
  · rename_i answer hfatal hmessage
    cases h
    refine ⟨hmessage, hfatal, ?_⟩
    unfold responseMatches at hmatches
    split at hmatches
    · cases hmatches
    · rw [hmessage] at hmatches
      simp only at hmatches
      split at hmatches
      · assumption
      · cases hmatches

/-- A stage with a response on the channel. -/
theorem Progress.of_toDaemon {sequence : Sequence} {request : Request} {frame : DecodedFrame}
    {rest : List DecodedFrame} (h : Progress link)
    (hbroker : link.broker = .exchanging sequence request)
    (hfrom : link.toDaemon = frame :: rest) {response : Response}
    (hresponse : receivedResult sequence request frame = .ok response) :
    Received { link with toDaemon := rest } request response := by
  cases h with
  | answered submission sequence' response' phase fits broker way history acked =>
      obtain ⟨rfl, rfl⟩ := BrokerPhase.exchanging.inj (hbroker.symm.trans broker)
      obtain ⟨rfl, rfl⟩ := List.cons.inj (hfrom.symm.trans way.2)
      obtain ⟨hmessage, hfatal, hanswers⟩ := receivedResult_ok hresponse
      obtain rfl := Message.response.inj hmessage
      rcases acked with ⟨code, hcode⟩ | acked
      · exact absurd hcode (hfatal code)
      · exact ⟨⟨submission, phase, rfl, fits⟩, ⟨way.1, rfl⟩, history, acked, hanswers⟩
  | resting phase broker => rw [hbroker] at broker; cases broker
  | sending submission phase fits broker empty => cases hfrom.symm.trans empty.2
  | travelling submission sequence' phase fits broker way => cases hfrom.symm.trans way.2
  | lost submission phase broker empty => cases hfrom.symm.trans empty.2
  | refused submission error phase fits broker => rw [hbroker] at broker; cases broker
  | returned submission response' earlier phase fits broker => rw [hbroker] at broker; cases broker

theorem Covered.brokerReceives {sequence : Sequence} {request : Request} {frame : DecodedFrame}
    {rest : List DecodedFrame} (h : Covered link)
    (hbroker : link.broker = .exchanging sequence request)
    (hfrom : link.toDaemon = frame :: rest) :
    Covered ({ link with toDaemon := rest }.conclude request
      (receivedResult sequence request frame)) := by
  apply h.conclude { link with toDaemon := rest } rfl rfl (fun _ hother => hother)
  intro hhealthy response hresponse
  exact (h.progress hhealthy).of_toDaemon hbroker hfrom hresponse

theorem Covered.brokerGivesUp (h : Covered link) (request : Request) (error : SwitcherError) :
    Covered (link.conclude request (.error error)) :=
  h.conclude link rfl rfl (fun _ hother => hother) request _ fun _ _ hresult => nomatch hresult

/-- A broker that ends between two commands. -/
theorem Covered.brokerLeaves (h : Covered link)
    (hbroker : link.broker = .idle ∨ ∃ request, link.broker = .queued request)
    (failure : Option InputSafetyError) : Covered (link.brokerLeaves failure) := by
  have hway : ∀ client : GuardianClient κ,
      ∀ request ∈ ({ link with client, broker := .stopped } : Link κ ω).underWay,
        request ∈ link.underWay := by
    intro client request hrequest
    rw [underWay, List.append_assoc, List.mem_append] at hrequest ⊢
    exact hrequest.imp id (List.mem_append_right _)
  cases failure with
  | some error => exact h.of_failed rfl rfl (hway _)
  | none =>
      unfold Link.brokerLeaves
      simp only
      split
      · refine h.advance rfl (holds_refl.refl _) (hway _) fun hhealthy => ?_
        cases h.progress hhealthy with
        | resting phase broker empty history awaits =>
            exact .resting phase rfl empty history awaits
        | sending submission phase fits broker empty history awaits =>
            exact .lost submission phase (Or.inl rfl) empty
        | travelling submission sequence phase fits broker =>
            rcases hbroker with hbroker | ⟨_, hbroker⟩ <;> cases hbroker.symm.trans broker
        | lost submission phase broker empty => exact .lost submission phase (Or.inl rfl) empty
        | answered submission sequence response phase fits broker =>
            rcases hbroker with hbroker | ⟨_, hbroker⟩ <;> cases hbroker.symm.trans broker
        | refused submission error phase fits broker empty history awaits =>
            exact .refused submission error phase fits rfl empty history awaits
        | returned submission response earlier phase fits broker empty exchanged history acked
            answers =>
            exact .returned submission response earlier phase fits rfl empty exchanged history acked
              answers
      · exact h

/-! ## Steps of the channel and of the guardian -/

theorem Covered.loseRequest (h : Covered link) :
    Covered { link with toGuardian := link.toGuardian.tail } := by
  refine h.advance rfl (holds_refl.refl _) (fun request hrequest => ?_) fun hhealthy => ?_
  · rw [underWay, List.mem_append] at hrequest ⊢
    refine hrequest.imp id fun hsent => ?_
    obtain ⟨sent, hmem, hsent⟩ := List.mem_map.1 hsent
    exact List.mem_map.2 ⟨sent, List.mem_of_mem_tail hmem, hsent⟩
  · cases h.progress hhealthy with
    | resting phase broker empty history awaits =>
        exact .resting phase broker ⟨congrArg List.tail empty.1, empty.2⟩ history awaits
    | sending submission phase fits broker empty history awaits =>
        exact .sending submission phase fits broker ⟨congrArg List.tail empty.1, empty.2⟩ history
          awaits
    | travelling submission sequence phase fits broker way history awaits =>
        exact .lost submission phase (Or.inr ⟨sequence, broker⟩)
          ⟨congrArg List.tail way.1, way.2⟩
    | lost submission phase broker empty =>
        exact .lost submission phase broker ⟨congrArg List.tail empty.1, empty.2⟩
    | answered submission sequence response phase fits broker way history acked =>
        exact .answered submission sequence response phase fits broker
          ⟨congrArg List.tail way.1, way.2⟩ history acked
    | refused submission error phase fits broker empty history awaits =>
        exact .refused submission error phase fits broker ⟨congrArg List.tail empty.1, empty.2⟩
          history awaits
    | returned submission response earlier phase fits broker empty exchanged history acked answers =>
        exact .returned submission response earlier phase fits broker
          ⟨congrArg List.tail empty.1, empty.2⟩ exchanged history acked answers

theorem Covered.loseResponse (h : Covered link) :
    Covered { link with toDaemon := link.toDaemon.tail } := by
  refine h.advance rfl (holds_refl.refl _) (fun _ hrequest => hrequest) fun hhealthy => ?_
  cases h.progress hhealthy with
  | resting phase broker empty history awaits =>
      exact .resting phase broker ⟨empty.1, congrArg List.tail empty.2⟩ history awaits
  | sending submission phase fits broker empty history awaits =>
      exact .sending submission phase fits broker ⟨empty.1, congrArg List.tail empty.2⟩ history
        awaits
  | travelling submission sequence phase fits broker way history awaits =>
      exact .travelling submission sequence phase fits broker
        ⟨way.1, congrArg List.tail way.2⟩ history awaits
  | lost submission phase broker empty =>
      exact .lost submission phase broker ⟨empty.1, congrArg List.tail empty.2⟩
  | answered submission sequence response phase fits broker way history acked =>
      exact .lost submission phase (Or.inr ⟨sequence, broker⟩)
        ⟨way.1, congrArg List.tail way.2⟩
  | refused submission error phase fits broker empty history awaits =>
      exact .refused submission error phase fits broker ⟨empty.1, congrArg List.tail empty.2⟩
        history awaits
  | returned submission response earlier phase fits broker empty exchanged history acked answers =>
      exact .returned submission response earlier phase fits broker
        ⟨empty.1, congrArg List.tail empty.2⟩ exchanged history acked answers

variable (executor : XtestExecutor ω) (clock : Clock ω)

theorem Covered.guardianStops (h : Covered link) (reason : StopReason) :
    Covered { link with peer := link.peer.stop executor clock reason } where
  peer := PeerSound.stop executor clock h.peer.guarded h.peer.clean reason
  mirrored := by
    intro m hm
    obtain ⟨distinct, bounded, debts, presses⟩ := h.mirrored m hm
    refine ⟨distinct, bounded, fun debt hdebt => debts debt ?_, presses⟩
    exact (GuardianPeer.stop_shrinks executor clock reason link.peer).debts debt hdebt
  handedOver := h.handedOver
  progress := fun hhealthy =>
    (h.progress hhealthy).shrink (GuardianPeer.stop_shrinks executor clock reason link.peer)

theorem Covered.guardianReceives (h : Covered link) (hserving : link.peer.serving = true)
    {sequence : Sequence} {request : Request} {rest : List (Sequence × Request)}
    (hto : link.toGuardian = (sequence, request) :: rest) (nowNs : Option UInt64) (sent : Bool) :
    Covered (link.guardianReceives executor clock nowNs sent sequence request rest) where
  peer := GuardianPeer.receive_sound executor clock sequence request nowNs sent h.peer hserving
  mirrored := by
    intro m hm
    obtain ⟨distinct, bounded, debts, presses⟩ := h.mirrored m hm
    have hrequest : request ∈ link.underWay := by
      simp [underWay, hto]
    refine ⟨distinct, bounded, fun debt hdebt => ?_, fun other hother => presses other ?_⟩
    · rcases GuardianPeer.receive_debts executor clock sequence request nowNs sent link.peer debt
        hdebt with hold | hpressed
      · exact debts debt hold
      · exact presses request hrequest debt hpressed
    · rw [underWay, List.mem_append] at hother ⊢
      refine hother.imp id fun hsent => ?_
      rw [hto, List.map_cons]
      exact List.mem_cons_of_mem _ hsent
  handedOver := h.handedOver
  progress := by
    intro hhealthy
    cases h.progress hhealthy with
    | travelling submission sequence' phase fits broker way history awaits =>
        obtain ⟨heq, rfl⟩ := List.cons.inj (hto.symm.trans way.1)
        obtain ⟨rfl, rfl⟩ := Prod.mk.inj heq
        cases hresponse :
          (link.peer.receive executor clock sequence submission.request nowNs sent).1 with
        | none =>
            refine .lost submission phase (Or.inr ⟨sequence, broker⟩) ⟨rfl, ?_⟩
            simp only [Link.guardianReceives, hresponse, way.2]
            rfl
        | some response =>
            refine .answered submission sequence response phase fits broker ⟨rfl, ?_⟩ history ?_
            · simp only [Link.guardianReceives, hresponse, way.2]
              rfl
            · exact GuardianPeer.receive_acked executor clock sequence submission.request nowNs sent
                h.peer awaits hserving hresponse
    | resting phase broker empty => cases hto.symm.trans empty.1
    | sending submission phase fits broker empty => cases hto.symm.trans empty.1
    | lost submission phase broker empty => cases hto.symm.trans empty.1
    | answered submission sequence' response phase fits broker way => cases hto.symm.trans way.1
    | refused submission error phase fits broker empty => cases hto.symm.trans empty.1
    | returned submission response earlier phase fits broker empty =>
        cases hto.symm.trans empty.1

/-! ## The return of a call -/

/-- A call that got a response, with what the response says. -/
structure Returning (link : Link κ ω) (submission : Submission) (response : Response) : Prop where
  fits : Fits link.client.pendingMutation submission
  resting : link.broker.isResting = true
  empty : link.toGuardian = [] ∧ link.toDaemon = []
  history : ∃ earlier, link.exchanged = (submission.request, response) :: earlier ∧
    History link.client earlier
  acked : Acked link.client.pendingMutation link.peer submission.request response
  answers : responseAnswers submission.request response = true

theorem Progress.of_returned {submission : Submission} {response : Response} (h : Progress link)
    (hphase : link.phase = .returning submission (.ok response)) :
    Returning link submission response := by
  cases h with
  | returned submission' response' earlier phase fits broker empty exchanged history acked answers =>
      obtain ⟨rfl, hresponse⟩ := ClientPhase.returning.inj (hphase.symm.trans phase)
      cases hresponse
      exact ⟨fits, broker, empty, ⟨earlier, exchanged, history⟩, acked, answers⟩
  | refused submission' error phase =>
      obtain ⟨_, hresult⟩ := ClientPhase.returning.inj (hphase.symm.trans phase)
      cases hresult
  | resting phase =>
      rcases phase with phase | ⟨_, phase, _⟩ <;> cases hphase.symm.trans phase
  | sending submission' phase => cases hphase.symm.trans phase
  | travelling submission' sequence phase => cases hphase.symm.trans phase
  | lost submission' phase => cases hphase.symm.trans phase
  | answered submission' sequence response' phase => cases hphase.symm.trans phase

theorem Progress.of_refused {submission : Submission} {error : SwitcherError} (h : Progress link)
    (hphase : link.phase = .returning submission (.error error)) :
    Fits link.client.pendingMutation submission ∧ link.broker.isResting = true ∧
      (link.toGuardian = [] ∧ link.toDaemon = []) ∧ History link.client link.exchanged ∧
      Awaits link.client.pendingMutation link.peer := by
  cases h with
  | refused submission' error' phase fits broker empty history awaits =>
      obtain ⟨rfl, _⟩ := ClientPhase.returning.inj (hphase.symm.trans phase)
      exact ⟨fits, broker, empty, history, awaits⟩
  | returned submission' response' earlier phase =>
      obtain ⟨_, hresult⟩ := ClientPhase.returning.inj (hphase.symm.trans phase)
      cases hresult
  | resting phase =>
      rcases phase with phase | ⟨_, phase, _⟩ <;> cases hphase.symm.trans phase
  | sending submission' phase => cases hphase.symm.trans phase
  | travelling submission' sequence phase => cases hphase.symm.trans phase
  | lost submission' phase => cases hphase.symm.trans phase
  | answered submission' sequence response' phase => cases hphase.symm.trans phase

/-- A token whose release is acknowledged is no debt. -/
theorem Returning.debt_ne {submission : Submission} {response : Response} {token : PreparedToken}
    (h : Returning link submission response)
    (hreconciles : link.client.Reconciles submission.call token response) :
    ∀ debt ∈ link.peer.session.protocol.debtTokens, debt ≠ token := by
  have hfits := h.fits
  have hacked := h.acked.2
  intro debt hdebt
  cases response with
  | syncAck operation tokenId =>
      obtain ⟨hup, rfl, deadline, hcall⟩ := hreconciles
      have hrequest : submission.request =
          .synchronize operation token.tokenId (.mutation deadline) := by
        have hanswers := h.answers
        rcases hcall with hcall | hcall <;>
        · simp only [Fits, hcall] at hfits
          obtain ⟨mutation, hmutation, hrequest⟩ := hfits
          obtain rfl := Option.some.inj (hmutation.symm.trans hup)
          exact hrequest
      rw [hrequest] at hacked
      rintro rfl
      exact hacked debt true hup rfl debt hdebt rfl
  | releaseCommitAck sequence tokenId =>
      obtain ⟨rfl, inputGeneration, deadline, hcall⟩ := hreconciles
      simp only [Fits, hcall] at hfits
      rw [hfits.1] at hacked
      rintro rfl
      exact hacked hdebt
  | _ => cases hreconciles

/-- What the client remembers of a release after its call has returned. -/
theorem Returning.history_awaits {submission : Submission} {response : Response}
    (h : Returning link submission response) {client : GuardianClient κ}
    (hremoves : Removes link.client submission.call (.ok response) client)
    (hleaves : LeavesUp link.client submission.call (.ok response) client)
    (hhealthy : client.isFailed = false) :
    History client link.exchanged ∧ Awaits client.pendingMutation link.peer := by
  have hfits := h.fits
  obtain ⟨earlier, hexchanged, _⟩ := h.history
  constructor
  · intro token clearsMirror m hup hm
    rcases hleaves hhealthy token clearsMirror hup with ⟨_, ⟨_, herror⟩ | ⟨hnone, _⟩⟩ |
      ⟨operation, deadline, hcall, hresponse⟩
    · cases herror
    · cases hnone.symm.trans hm
    · simp only [Fits, hcall] at hfits
      obtain rfl := Except.ok.inj hresponse
      rw [hfits.1] at hexchanged
      exact ⟨operation, .mutation deadline, earlier, hexchanged⟩
  · intro token clearsMirror hup hserving
    rcases hleaves hhealthy token clearsMirror hup with
      ⟨_, ⟨_, herror⟩ | ⟨_, operation, proof, hresponse⟩⟩ |
      ⟨operation, deadline, hcall, hresponse⟩
    · cases herror
    · obtain rfl := Except.ok.inj hresponse
      cases (h.acked.1 rfl).symm.trans hserving
    · simp only [Fits, hcall] at hfits
      have hacked := h.acked.2
      rw [hfits.1] at hacked
      exact hacked hserving

theorem Covered.returnCall {submission : Submission} {result : Except SwitcherError Response}
    (h : Covered link) (hphase : link.phase = .returning submission result) :
    Covered (link.returnCall submission result).2 := by
  have hremoves := finish_removes link.client submission.call submission.clearsMirror result
  have hway : ∀ request ∈ (link.returnCall submission result).2.underWay,
      request ∈ link.underWay := by
    intro request hrequest
    rw [underWay, hphase]
    exact hrequest
  refine ⟨h.peer, fun m' hm' => ?_, hremoves.handedOver h.handedOver, fun hhealthy => ?_⟩
  · obtain ⟨m, hm, hm'' | ⟨hopen, token, response, rfl, hreconciles, hm''⟩⟩ :=
      hremoves.mirror m' hm'
    · obtain rfl := hm''
      exact (h.mirrored m' hm).mono rfl fun request hrequest => Or.inl (hway request hrequest)
    · have hhealthy : link.client.isFailed = false := by
        cases hfailed : link.client.isFailed with
        | false => rfl
        | true => cases hopen.symm.trans (h.handedOver hfailed)
      have hreturning := (h.progress hhealthy).of_returned hphase
      obtain rfl := hm''
      obtain ⟨distinct, bounded, debts, presses⟩ := h.mirrored m hm
      refine ⟨distinct.erase token, ?_, fun debt hdebt => ?_, fun request hrequest => ?_⟩
      · exact (List.length_erase_le).trans bounded
      · exact (List.mem_erase_of_ne (hreturning.debt_ne hreconciles debt hdebt)).2
          (debts debt hdebt)
      · have hnone : (link.returnCall submission (.ok response)).2.underWay = [] := by
          have hunsent := unsent_of_isResting hreturning.resting
          simp [underWay, Link.returnCall, ClientPhase.submitted, hunsent, hreturning.empty.1]
        rw [hnone] at hrequest
        cases hrequest
  · have hbefore := h.progress (hremoves.healthy hhealthy)
    cases result with
    | ok response =>
        have hreturning := hbefore.of_returned hphase
        have hleaves := finish_leavesUp hreturning.fits (.ok response)
        obtain ⟨hhistory, hawaits⟩ := hreturning.history_awaits hremoves hleaves hhealthy
        exact .resting (Or.inl rfl) hreturning.resting hreturning.empty hhistory hawaits
    | error error =>
        obtain ⟨hfits, hresting, hempty, hhistory, hawaits⟩ := hbefore.of_refused hphase
        have hleaves := finish_leavesUp hfits (.error error)
        have hup : ∀ token clearsMirror,
            (link.returnCall submission (.error error)).2.client.pendingMutation =
              some (.up token clearsMirror) →
            link.client.pendingMutation = some (.up token clearsMirror) := by
          intro token clearsMirror hup
          rcases hleaves hhealthy token clearsMirror hup with ⟨hbefore, _⟩ | ⟨_, _, _, hresponse⟩
          · exact hbefore
          · cases hresponse
        refine .resting (Or.inl rfl) hresting hempty ?_ ?_
        · intro token clearsMirror m' hpending hm'
          obtain ⟨m, hm, _⟩ := hremoves.mirror m' hm'
          exact hhistory token clearsMirror m (hup token clearsMirror hpending) hm
        · intro token clearsMirror hpending hserving
          exact hawaits token clearsMirror (hup token clearsMirror hpending) hserving

/-! ## Runs -/

variable (release : EmergencyRelease κ)

theorem covered_step (h : Covered link) (action : Action κ) :
    Covered (step release executor clock link action).2 := by
  unfold step
  split
  · exact h.of_holds (armEmergency_holds release _ link.client)
  · exact h.startCall ‹_› _
  · exact h.submit ‹_› _
  · exact h.refuse _ _
  · exact h.returnCall ‹_›
  · exact h.of_holds (brokerFailure_holds _ link.client)
  · exact h.of_holds (drop_holds link.client)
  · exact h.brokerPicks ‹_›
  · exact h.brokerSends ‹_› _
  · split
    · exact h
    · exact h.brokerReceives ‹_› ‹_›
  · exact h.brokerGivesUp _ _
  · exact h.brokerLeaves (Or.inl ‹_›) _
  · exact h.brokerLeaves (Or.inr ⟨_, ‹_›⟩) _
  · exact h.loseRequest
  · exact h.loseResponse
  · split
    · exact h.guardianReceives executor clock ‹_› ‹_› _ _
    · exact h
  · split
    · exact h.guardianStops executor clock _
    · exact h
  · exact h.of_holds (startPendingRelease_holds _ link.client)
  · split
    · exact h
    · exact h.of_holds (finishJob_holds _ link.client)
  · exact h

theorem covered_stable : (machine release executor clock).Stable (Covered (κ := κ)) :=
  fun _ action h => covered_step executor clock release h action

theorem reply_holds (request : Request) (result : Except SwitcherError Response)
    (link : Link κ ω) : Holds link.client (link.reply request result).client := by
  obtain ⟨_, _, _, ⟨_, _, _, hclient⟩ | ⟨error, _, hclient⟩⟩ := reply_spec request result link
  · rw [hclient]
    exact holds_refl.refl link.client
  · rw [hclient]
    exact brokerFailure_holds error link.client

theorem reply_failed_holds (error : InputSafetyError) (request : Request)
    (result : Except SwitcherError Response) (link : Link κ ω) :
    Holds link.client ((link.updateClient (·.brokerFailure error)).reply request result).client :=
  holds_trans.trans _ _ _ (brokerFailure_holds error link.client)
    (reply_holds request result (link.updateClient (·.brokerFailure error)))

theorem conclude_holds (request : Request) (result : Except SwitcherError Response)
    (link : Link κ ω) : Holds link.client (link.conclude request result).client := by
  let next : Link κ ω := { link with nextSequence := link.nextSequence + 1 }
  unfold Link.conclude
  split
  · exact reply_failed_holds _ request _ link
  · cases result with
    | ok response => exact reply_holds request (.ok response) next
    | error error => exact reply_failed_holds _ request _ next

theorem submit_holds (fate : SendFate) (submission : Submission) (link : Link κ ω) :
    Holds link.client (link.submit fate submission).client := by
  unfold Link.submit
  split
  · exact holds_refl.refl link.client
  · split
    · exact holds_refl.refl link.client
    · exact brokerFailure_holds _ link.client
    · exact brokerFailure_holds _ link.client

theorem startCall_inserts (call : Call) (link : Link κ ω) :
    Inserts link.client (link.startCall call).2.client := by
  have hinserts := start_inserts call link.client
  unfold Link.startCall
  simp only
  split <;> exact hinserts

/-- A step other than the return of a call takes nothing out of the mirror. -/
theorem step_inserts (link : Link κ ω) (action : Action κ) :
    Inserts link.client (step release executor clock link action).2.client ∨
      ∃ submission result, action = .clientReturns ∧ link.phase = .returning submission result := by
  have hsame : Inserts link.client link.client := (holds_refl.refl link.client).inserts
  unfold step
  split
  · exact Or.inl (armEmergency_holds release _ link.client).inserts
  · exact Or.inl (startCall_inserts _ link)
  · exact Or.inl (submit_holds _ _ link).inserts
  · exact Or.inl (brokerFailure_holds _ link.client).inserts
  · exact Or.inr ⟨_, _, rfl, ‹_›⟩
  · exact Or.inl (brokerFailure_holds _ link.client).inserts
  · exact Or.inl (drop_holds link.client).inserts
  · exact Or.inl hsame
  · unfold Link.brokerSends
    split
    · exact Or.inl (conclude_holds _ _ link).inserts
    · exact Or.inl hsame
  · rename_i sequence request _
    split
    · exact Or.inl hsame
    · rename_i frame rest _
      exact Or.inl (conclude_holds request (receivedResult sequence request frame)
        { link with toDaemon := rest }).inserts
  · exact Or.inl (conclude_holds _ _ link).inserts
  · unfold Link.brokerLeaves
    split
    · exact Or.inl (brokerFailure_holds _ link.client).inserts
    · split <;> exact Or.inl hsame
  · unfold Link.brokerLeaves
    split
    · exact Or.inl (brokerFailure_holds _ link.client).inserts
    · split <;> exact Or.inl hsame
  · exact Or.inl hsame
  · exact Or.inl hsame
  · split <;> exact Or.inl hsame
  · split <;> exact Or.inl hsame
  · exact Or.inl (startPendingRelease_holds _ link.client).inserts
  · split
    · exact Or.inl hsame
    · exact Or.inl (finishJob_holds _ link.client).inserts
  · exact Or.inl hsame

/-- A release was acknowledged last: synchronized after its acknowledgement, or committed. -/
def ReleaseReconciled (token : PreparedToken) (exchanged : List (Request × Response)) : Prop :=
  (∃ operation deadline earlier, exchanged = (.synchronize operation token.tokenId deadline,
      .syncAck operation token.tokenId) :: earlier ∧ ReleaseAcked token earlier) ∨
    ∃ sequence inputGeneration deadline earlier, exchanged =
      (.physicalReleaseCommitted sequence token inputGeneration deadline,
        .releaseCommitAck sequence token.tokenId) :: earlier

theorem Returning.reconciled {submission : Submission} {response : Response}
    {token : PreparedToken} (h : Returning link submission response)
    (hreconciles : link.client.Reconciles submission.call token response)
    {m : List PreparedToken} (hm : link.client.emergency.mirror = some m) :
    ReleaseReconciled token link.exchanged := by
  have hfits := h.fits
  have hanswers := h.answers
  obtain ⟨earlier, hexchanged, hhistory⟩ := h.history
  cases response with
  | syncAck operation tokenId =>
      obtain ⟨hup, rfl, deadline, hcall⟩ := hreconciles
      have hrequest : ∃ requested, submission.request =
          .synchronize requested token.tokenId (.mutation deadline) := by
        rcases hcall with hcall | hcall <;>
        · simp only [Fits, hcall] at hfits
          obtain ⟨mutation, hmutation, hrequest⟩ := hfits
          obtain rfl := Option.some.inj (hmutation.symm.trans hup)
          exact ⟨_, hrequest⟩
      obtain ⟨requested, hrequest⟩ := hrequest
      rw [hrequest] at hanswers hexchanged
      simp only [responseAnswers, Bool.and_eq_true, beq_iff_eq] at hanswers
      obtain rfl := hanswers.1
      exact Or.inl ⟨requested, .mutation deadline, earlier, hexchanged, hhistory token true m hup hm⟩
  | releaseCommitAck sequence tokenId =>
      obtain ⟨rfl, inputGeneration, deadline, hcall⟩ := hreconciles
      simp only [Fits, hcall] at hfits
      rw [hfits.1] at hexchanged
      exact Or.inr ⟨sequence, inputGeneration, deadline, earlier, hexchanged⟩
  | _ => cases hreconciles

/-- A token leaves the mirror only with the acknowledgement of its release. -/
theorem Covered.leaves_reconciled (h : Covered link) (action : Action κ)
    {m m' : List PreparedToken} (hm : link.client.emergency.mirror = some m)
    (hm' : (step release executor clock link action).2.client.emergency.mirror = some m')
    {token : PreparedToken} (hmem : token ∈ m) (hgone : token ∉ m') :
    action = .clientReturns ∧ ReleaseReconciled token link.exchanged := by
  rcases step_inserts executor clock release link action with
    hinserts | ⟨submission, result, rfl, hphase⟩
  · exact absurd (hinserts.mem hm hm' hmem) hgone
  · refine ⟨rfl, ?_⟩
    have hremoves := finish_removes link.client submission.call submission.clearsMirror result
    simp only [step, hphase] at hm'
    obtain ⟨before, hbefore, heq | ⟨hopen, removed, response, rfl, hreconciles, heq⟩⟩ :=
      hremoves.mirror m' hm'
    · obtain rfl := Option.some.inj (hm.symm.trans hbefore)
      exact absurd (heq ▸ hmem) hgone
    · obtain rfl := Option.some.inj (hm.symm.trans hbefore)
      have hhealthy : link.client.isFailed = false := by
        cases hfailed : link.client.isFailed with
        | false => rfl
        | true => cases hopen.symm.trans (h.handedOver hfailed)
      have hreturning := (h.progress hhealthy).of_returned hphase
      have htoken : token = removed := by
        by_contra hne
        rw [heq] at hgone
        exact hgone ((List.mem_erase_of_ne hne).2 hmem)
      exact hreturning.reconciled (htoken ▸ hreconciles) hm

theorem covered_connected (ready : GuardianReady) {session : GuardianSession ω}
    (hready : Ready executor session) : Covered (connected (κ := κ) ready session) := by
  obtain ⟨htokens, _, _, hevents⟩ := hready.fresh
  refine ⟨⟨hready.fresh.guarded, ?_, ?_⟩, ?_, (fun h => nomatch h), fun _ => ?_⟩
  · simp [connected, hevents, synchronizedFailure]
  · simp [connected, hevents, failedUp]
  · rintro m ⟨⟩
    refine ⟨List.nodup_nil, Nat.zero_le _, fun debt hdebt => ?_, fun request hrequest => ?_⟩
    · obtain ⟨tracked, hmem, _⟩ := ProtocolState.mem_debtTokens.1 hdebt
      simp only [connected, htokens] at hmem
      cases hmem
    · cases hrequest
  · exact .resting (Or.inl rfl) rfl ⟨rfl, rfl⟩ (fun _ _ _ h => nomatch h) (fun _ _ h => nomatch h)

/-- In every run of the client, its broker, the channel and the session of the guardian the
mirror covers the debts and lets go of a token only with the acknowledgement of its release, and
an emergency release attempts the mirror and proves what it has done. -/
theorem mirror_covers_debts (ready : GuardianReady) {session : GuardianSession ω}
    (hready : Ready executor session) (actions : List (Action κ)) :
    let link := (machine release executor clock).after (connected ready session) actions
    (∀ m, link.client.emergency.mirror = some m →
      (∀ tracked ∈ link.peer.session.protocol.tokens, tracked.isDebt = true → tracked.token ∈ m) ∧
        m.Nodup ∧ m.length ≤ maxActiveDebts) ∧
      (∀ (action : Action κ) m m' token, link.client.emergency.mirror = some m →
        (step release executor clock link action).2.client.emergency.mirror = some m' →
        token ∈ m → token ∉ m' →
          action = .clientReturns ∧ ReleaseReconciled token link.exchanged) ∧
      (∀ connection m, link.client.emergency = .pending connection m → m ≠ [] →
        (step release executor clock link (.startEmergency none)).2.job =
          some { result := .pending connection m, initialRemaining := m.length }) ∧
      ∀ job connection m timedOut, link.job = some job → job.result = .pending connection m →
        ∃ proof run, (step release executor clock link (.waitEmergency timedOut)).1 =
            .released proof (some run) ∧
          run.attempts.map Prod.fst = m.reverse ∧
          (∃ final, EmergencyState.AnsweredBy release connection run.attempts final ∧
            run.synchronized = (release.synchronize final).1) ∧
          (proof = .reconciled →
            (∀ attempt ∈ run.attempts, attempt.2.isOk = true) ∧ run.synchronized.isOk = true) := by
  intro link
  have hcovered : Covered link := (covered_stable executor clock release).after
    (covered_connected executor ready hready) actions
  refine ⟨fun m hm => ?_, ?_, ?_, ?_⟩
  · obtain ⟨distinct, bounded, debts, _⟩ := hcovered.mirrored m hm
    refine ⟨fun tracked hmem hdebt => debts tracked.token ?_, distinct, bounded⟩
    exact ProtocolState.mem_debtTokens.2 ⟨tracked, hmem, hdebt, rfl⟩
  · intro action m m' token hm hm' hmem hgone
    exact hcovered.leaves_reconciled executor clock release action hm hm' hmem hgone
  · intro connection m hpending hne
    have hlength : m.length ≠ 0 := fun h => hne (List.length_eq_zero_iff.1 h)
    simp only [step, startEmergency, hpending, EmergencyState.startPendingReleaseIfNeeded,
      if_neg hlength]
  · intro job connection m timedOut hjob hresult
    have hrun := EmergencyState.releaseMirrored_spec release connection m
    refine ⟨(EmergencyState.waitForJob release job timedOut).1,
      EmergencyState.releaseMirrored release connection m, ?_, hrun.1,
      EmergencyState.releaseMirrored_answeredBy release connection m, fun hproof => ?_⟩
    · simp only [step, hjob, waitEmergency, EmergencyState.waitForJob, hresult]
    · exact hrun.2 (EmergencyState.waitForJob_reconciled release hresult hproof)

/-- An emergency connection whose releases succeed. -/
def steadyRelease : EmergencyRelease Unit where
  serverEpoch _ := .replicate 16 1
  releaseToken _ connection := (.ok (), connection)
  synchronize connection := (.ok (), connection)

def stickingReady : GuardianReady :=
  { session := .replicate 16 2, epoch := .replicate 16 1, epochWindow := 2,
    epochNonce := .replicate 16 3 }

/-- A press whose acknowledgement does not get into the channel. -/
def lostDownAck : List (Action Unit) :=
  [.arm (), .call (.prepareKey 1 ⟨30⟩ 1000), .submit .sent, .brokerPicks, .brokerSends none,
    .guardianReceives (some 1) true, .brokerReceives, .clientReturns,
    .call (.executeDown 1 stickingToken 1000), .submit .sent, .brokerPicks, .brokerSends none,
    .guardianReceives (some 1) false, .clientGivesUp false]

/-- The key that went down without an acknowledgement is in the mirror. -/
theorem lostDownAck_covered :
    let link := (machine steadyRelease stickingExecutor stillClock).after
      (connected stickingReady stickingSessionStart) lostDownAck
    link.peer.session.protocol.debtTokens = [stickingToken] ∧
      link.client.emergency.mirror = some [stickingToken] ∧
      ∀ tracked ∈ link.peer.session.protocol.tokens, tracked.isDebt = true →
        tracked.token ∈ [stickingToken] := by
  intro link
  have hmirror : link.client.emergency.mirror = some [stickingToken] := by decide +kernel
  refine ⟨by decide +kernel, hmirror, ?_⟩
  exact ((mirror_covers_debts stickingExecutor stillClock steadyRelease stickingReady
    stickingSessionStart_ready lostDownAck).1 [stickingToken] hmirror).1

end Link

end OpenSwitcher.Guardian
