import OpenSwitcher.Guardian.Mirror
/-!
# The mirror covers the debts

Whatever is lost, delayed or refused between the daemon and the guardian, every
key that the guardian counts as debt is in the mirror of the daemon until an
emergency release has begun. As long as the client is healthy, the exchange of a
request is in one of a few stages; from them it follows that the mirror lets go of
a key only when the guardian has.
-/

namespace OpenSwitcher.Guardian

open Library SyntheticInput GuardianSession GuardianClient

variable {κ ω : Type}

/-! ## The session of the guardian -/

/-- A session behind a connection: served requests leave no failed release behind. -/
structure PeerSound (peer : GuardianPeer ω) : Prop where
  guarded : Guarded peer.session
  clean : synchronizedFailure peer.session.events = false
  calm : peer.serving = true → failedUp peer.session.events = none

namespace PeerSound

variable (executor : XtestExecutor ω) (clock : Clock ω) {peer : GuardianPeer ω}

theorem sound (h : PeerSound peer) : Sound peer.session := by
  rcases h.guarded h.clean with ⟨_, hsound⟩ | ⟨_, hfinished⟩
  · exact hsound
  · exact hfinished.sound

theorem stop (hguarded : Guarded peer.session)
    (hclean : synchronizedFailure peer.session.events = false) (reason : StopReason) :
    PeerSound (peer.stop executor clock reason) where
  guarded := by
    obtain ⟨proof, _, hfinished⟩ := hguarded.finishWithClock executor clock hclean reason
    exact fun _ => Or.inr ⟨proof, hfinished⟩
  clean := (finishWithClock_keeps executor clock reason peer.session).trans hclean
  calm := fun hserving => nomatch hserving

end PeerSound

/-- What a session at its peer's end may do without being asked: debts can only go. -/
structure PeerShrinks (peer peer' : GuardianPeer ω) : Prop where
  debts : ∀ debt ∈ peer'.session.protocol.debtTokens, debt ∈ peer.session.protocol.debtTokens
  stopped : peer'.serving = false

theorem GuardianPeer.stop_shrinks (executor : XtestExecutor ω) (clock : Clock ω)
    (reason : StopReason) (peer : GuardianPeer ω) :
    PeerShrinks peer (peer.stop executor clock reason) :=
  ⟨finishWithClock_shrinks executor clock reason peer.session, rfl⟩

/-- What an answer other than a fatal one lets the client conclude. -/
def Acked (pending : Option PendingMutation) (peer : GuardianPeer ω) (request : Request)
    (response : Response) : Prop :=
  (isTerminalResponse response = true → peer.serving = false) ∧
    match request with
    | .keyUp _ token _ => peer.serving = true → AwaitsUp token.tokenId peer.session
    | .synchronize _ tokenId _ => ∀ token clearsMirror,
        pending = some (.up token clearsMirror) → tokenId = token.tokenId →
          ∀ debt ∈ peer.session.protocol.debtTokens, debt.tokenId ≠ tokenId
    | .physicalReleaseCommitted _ token .. => token ∉ peer.session.protocol.debtTokens
    | _ => True

/-- A release that the client wants to synchronize waits for it in a served session. -/
def Awaits (pending : Option PendingMutation) (peer : GuardianPeer ω) : Prop :=
  ∀ token clearsMirror, pending = some (.up token clearsMirror) → peer.serving = true →
    AwaitsUp token.tokenId peer.session

theorem Awaits.shrink {pending : Option PendingMutation} {peer peer' : GuardianPeer ω}
    (h : PeerShrinks peer peer') : Awaits pending peer' := by
  intro _ _ _ hserving
  cases h.stopped.symm.trans hserving

theorem Acked.shrink {pending : Option PendingMutation} {peer peer' : GuardianPeer ω}
    {request : Request} {response : Response} (hpeer : PeerShrinks peer peer')
    (h : Acked pending peer request response) : Acked pending peer' request response := by
  refine ⟨fun _ => hpeer.stopped, ?_⟩
  cases request with
  | keyUp operation token deadline =>
      intro hserving
      cases hpeer.stopped.symm.trans hserving
  | synchronize operation tokenId deadline =>
      exact fun token clearsMirror hup hid debt hdebt =>
        h.2 token clearsMirror hup hid debt (hpeer.debts debt hdebt)
  | physicalReleaseCommitted sequence token inputGeneration deadline =>
      exact fun hdebt => h.2 (hpeer.debts token hdebt)
  | _ => trivial

section Receive

variable (executor : XtestExecutor ω) (clock : Clock ω)

theorem GuardianPeer.settle_sound {session : GuardianSession ω} (hguarded : Guarded session)
    {result : Except RequestFailure Response} (hcalm : CalmAfter result session) (sent : Bool) :
    PeerSound (settle executor clock sent result session).2 := by
  cases result with
  | error failure => exact PeerSound.stop executor clock hguarded hcalm.1 _
  | ok response =>
      cases sent with
      | false => exact PeerSound.stop executor clock hguarded hcalm.1 _
      | true =>
          refine ⟨hguarded, hcalm.1, fun hserving => ?_⟩
          cases response with
          | drained operation proof => cases hserving
          | stopped proof => cases hserving
          | _ => exact hcalm.2

variable {peer : GuardianPeer ω} (sequence : Sequence) (request : Request)
  (nowNs : Option UInt64) (sent : Bool)

/-- One turn of the connection keeps the session sound, whatever becomes of it. -/
theorem GuardianPeer.receive_sound (hpeer : PeerSound peer) (hserving : peer.serving = true) :
    PeerSound (peer.receive executor clock sequence request nowNs sent).2 := by
  cases nowNs with
  | none => exact PeerSound.stop executor clock hpeer.guarded hpeer.clean _
  | some nowNs =>
      have hguarded := handleRequestDetailed_guarded executor clock sequence request nowNs
        peer.session hpeer.guarded
      have hcalm := handleRequestDetailed_calm executor clock ⟨hpeer.clean, hpeer.calm hserving⟩
        sequence request nowNs
      exact GuardianPeer.settle_sound executor clock hguarded hcalm sent

theorem GuardianPeer.settle_shrinks (result : Except RequestFailure Response)
    (session : GuardianSession ω) :
    ∀ debt ∈ (settle executor clock sent result session).2.session.protocol.debtTokens,
      debt ∈ session.protocol.debtTokens := by
  cases result with
  | error failure => exact (GuardianPeer.stop_shrinks executor clock _ { session }).debts
  | ok response =>
      cases sent with
      | false => exact (GuardianPeer.stop_shrinks executor clock _ { session }).debts
      | true => exact fun _ h => h

/-- One turn of the connection makes a debt of at most the token it presses. -/
theorem GuardianPeer.receive_debts (peer : GuardianPeer ω) :
    ∀ debt ∈ (peer.receive executor clock sequence request nowNs sent).2.session.protocol.debtTokens,
      debt ∈ peer.session.protocol.debtTokens ∨ request.Presses debt := by
  cases nowNs with
  | none =>
      exact fun debt hdebt =>
        Or.inl ((GuardianPeer.stop_shrinks executor clock _ peer).debts debt hdebt)
  | some nowNs =>
      intro debt hdebt
      have hhandled := GuardianPeer.settle_shrinks executor clock sent _ _ debt hdebt
      exact handleRequestDetailed_debts executor clock sequence request nowNs peer.session debt
        hhandled

/-- An answer other than a fatal one is what the client takes it for. -/
theorem GuardianPeer.receive_acked (hpeer : PeerSound peer) {pending : Option PendingMutation}
    (hawaits : Awaits pending peer) (hserving : peer.serving = true) {response : Response}
    (hresponse : (peer.receive executor clock sequence request nowNs sent).1 = some response) :
    (∃ code, response = .fatal code) ∨
      Acked pending (peer.receive executor clock sequence request nowNs sent).2 request
        response := by
  cases nowNs with
  | none => cases hresponse
  | some nowNs =>
      have hacknowledges := handleRequestDetailed_acknowledges executor clock
        hpeer.sound.distinct sequence request nowNs
      simp only [receive] at hresponse ⊢
      cases hresult : (Fallible.outcome
        (handleRequestDetailed executor clock sequence request nowNs) peer.session).1 with
      | error failure =>
          rw [hresult] at hresponse
          cases sent with
          | false => cases hresponse
          | true =>
              cases hresponse
              exact Or.inl ⟨_, rfl⟩
      | ok answered =>
          have hacked := hacknowledges answered hresult
          rw [hresult] at hresponse
          cases sent with
          | false => cases hresponse
          | true =>
              cases hresponse
              refine Or.inr ⟨fun hterminal => ?_, ?_⟩
              · simp [settle, hterminal]
              · cases request with
                | keyUp operation token deadline => exact fun _ => hacked
                | synchronize operation tokenId deadline =>
                    rintro token clearsMirror hup rfl
                    exact hacked (hawaits token clearsMirror hup hserving)
                | physicalReleaseCommitted sequence token inputGeneration deadline => exact hacked
                | _ => trivial

end Receive

/-! ## The exchange of a request -/

def ClientPhase.submitted : ClientPhase → List Request
  | .submitting submission => [submission.request]
  | _ => []

def BrokerPhase.unsent : BrokerPhase → List Request
  | .queued request | .picked request => [request]
  | _ => []

def BrokerPhase.isResting : BrokerPhase → Bool
  | .idle | .stopped => true
  | _ => false

/-- The release of the token was acknowledged last. -/
def ReleaseAcked (token : PreparedToken) (exchanged : List (Request × Response)) : Prop :=
  ∃ operation deadline earlier, exchanged =
    (.keyUp operation token deadline, .upAck operation token.tokenId) :: earlier

/-- A release that waits for its synchronization was acknowledged last. -/
def History (client : GuardianClient κ) (exchanged : List (Request × Response)) : Prop :=
  ∀ token clearsMirror m, client.pendingMutation = some (.up token clearsMirror) →
    client.emergency.mirror = some m → ReleaseAcked token exchanged

theorem History.of_holds {client client' : GuardianClient κ}
    {exchanged : List (Request × Response)} (hholds : Holds client client')
    (h : History client exchanged) : History client' exchanged := by
  intro token clearsMirror m hup hm
  exact h token clearsMirror m (hholds.pendingMutation.symm.trans hup) (hholds.mirror m hm)

namespace Link

/-- The requests that the guardian may still get. -/
def underWay (link : Link κ ω) : List Request :=
  link.phase.submitted ++ link.broker.unsent ++ link.toGuardian.map Prod.snd

/-- The stages of a request as long as the client is healthy. -/
inductive Progress (link : Link κ ω) : Prop where
  | resting
      (phase : link.phase = .idle ∨ ∃ submission, link.phase = .submitting submission ∧
        Fits link.client.pendingMutation submission)
      (broker : link.broker.isResting = true)
      (empty : link.toGuardian = [] ∧ link.toDaemon = [])
      (history : History link.client link.exchanged)
      (awaits : Awaits link.client.pendingMutation link.peer)
  | sending (submission : Submission)
      (phase : link.phase = .waiting submission)
      (fits : Fits link.client.pendingMutation submission)
      (broker : link.broker = .queued submission.request ∨
        link.broker = .picked submission.request)
      (empty : link.toGuardian = [] ∧ link.toDaemon = [])
      (history : History link.client link.exchanged)
      (awaits : Awaits link.client.pendingMutation link.peer)
  | travelling (submission : Submission) (sequence : Sequence)
      (phase : link.phase = .waiting submission)
      (fits : Fits link.client.pendingMutation submission)
      (broker : link.broker = .exchanging sequence submission.request)
      (way : link.toGuardian = [(sequence, submission.request)] ∧ link.toDaemon = [])
      (history : History link.client link.exchanged)
      (awaits : Awaits link.client.pendingMutation link.peer)
  | lost (submission : Submission)
      (phase : link.phase = .waiting submission)
      (broker : link.broker = .stopped ∨
        ∃ sequence, link.broker = .exchanging sequence submission.request)
      (empty : link.toGuardian = [] ∧ link.toDaemon = [])
  | answered (submission : Submission) (sequence : Sequence) (response : Response)
      (phase : link.phase = .waiting submission)
      (fits : Fits link.client.pendingMutation submission)
      (broker : link.broker = .exchanging sequence submission.request)
      (way : link.toGuardian = [] ∧
        link.toDaemon = [{ sequence, message := .response response }])
      (history : History link.client link.exchanged)
      (acked : (∃ code, response = .fatal code) ∨
        Acked link.client.pendingMutation link.peer submission.request response)
  | refused (submission : Submission) (error : SwitcherError)
      (phase : link.phase = .returning submission (.error error))
      (fits : Fits link.client.pendingMutation submission)
      (broker : link.broker.isResting = true)
      (empty : link.toGuardian = [] ∧ link.toDaemon = [])
      (history : History link.client link.exchanged)
      (awaits : Awaits link.client.pendingMutation link.peer)
  | returned (submission : Submission) (response : Response)
      (earlier : List (Request × Response))
      (phase : link.phase = .returning submission (.ok response))
      (fits : Fits link.client.pendingMutation submission)
      (broker : link.broker.isResting = true)
      (empty : link.toGuardian = [] ∧ link.toDaemon = [])
      (exchanged : link.exchanged = (submission.request, response) :: earlier)
      (history : History link.client earlier)
      (acked : Acked link.client.pendingMutation link.peer submission.request response)
      (answers : responseAnswers submission.request response = true)

variable {link : Link κ ω}

theorem Progress.of_holds {client : GuardianClient κ} {job : Option (EmergencyJob κ)}
    (hholds : Holds link.client client) (h : Progress link) :
    Progress { link with client, job } := by
  have hpending := hholds.pendingMutation
  cases h with
  | resting phase broker empty history awaits =>
      exact .resting (hpending ▸ phase) broker empty (history.of_holds hholds) (hpending ▸ awaits)
  | sending submission phase fits broker empty history awaits =>
      exact .sending submission phase (hpending ▸ fits) broker empty (history.of_holds hholds)
        (hpending ▸ awaits)
  | travelling submission sequence phase fits broker way history awaits =>
      exact .travelling submission sequence phase (hpending ▸ fits) broker way
        (history.of_holds hholds) (hpending ▸ awaits)
  | lost submission phase broker empty => exact .lost submission phase broker empty
  | answered submission sequence response phase fits broker way history acked =>
      exact .answered submission sequence response phase (hpending ▸ fits) broker way
        (history.of_holds hholds) (hpending ▸ acked)
  | refused submission error phase fits broker empty history awaits =>
      exact .refused submission error phase (hpending ▸ fits) broker empty
        (history.of_holds hholds) (hpending ▸ awaits)
  | returned submission response earlier phase fits broker empty exchanged history acked answers =>
      exact .returned submission response earlier phase (hpending ▸ fits) broker empty exchanged
        (history.of_holds hholds) (hpending ▸ acked) answers

theorem Progress.shrink {peer : GuardianPeer ω} (hpeer : PeerShrinks link.peer peer)
    (h : Progress link) : Progress { link with peer } := by
  cases h with
  | resting phase broker empty history awaits =>
      exact .resting phase broker empty history (.shrink hpeer)
  | sending submission phase fits broker empty history awaits =>
      exact .sending submission phase fits broker empty history (.shrink hpeer)
  | travelling submission sequence phase fits broker way history awaits =>
      exact .travelling submission sequence phase fits broker way history (.shrink hpeer)
  | lost submission phase broker empty => exact .lost submission phase broker empty
  | answered submission sequence response phase fits broker way history acked =>
      exact .answered submission sequence response phase fits broker way history
        (acked.imp id (·.shrink hpeer))
  | refused submission error phase fits broker empty history awaits =>
      exact .refused submission error phase fits broker empty history (.shrink hpeer)
  | returned submission response earlier phase fits broker empty exchanged history acked answers =>
      exact .returned submission response earlier phase fits broker empty exchanged history
        (acked.shrink hpeer) answers

/-! ## The invariant -/

/-- A mirror has every debt, and every token whose press is still under way. -/
structure Mirrored (link : Link κ ω) (m : List PreparedToken) : Prop where
  distinct : m.Nodup
  bounded : m.length ≤ maxActiveDebts
  debts : ∀ debt ∈ link.peer.session.protocol.debtTokens, debt ∈ m
  presses : ∀ request ∈ link.underWay, ∀ token, request.Presses token → token ∈ m

structure Covered (link : Link κ ω) : Prop where
  peer : PeerSound link.peer
  mirrored : ∀ m, link.client.emergency.mirror = some m → Mirrored link m
  handedOver : link.client.HandedOver
  progress : link.client.isFailed = false → Progress link

/-- A step that asks nothing of the guardian and leaves the mirror. -/
theorem Covered.advance {link' : Link κ ω} (h : Covered link) (hpeer : link'.peer = link.peer)
    (hholds : Holds link.client link'.client)
    (hway : ∀ request ∈ link'.underWay, request ∈ link.underWay)
    (hprogress : link'.client.isFailed = false → Progress link') : Covered link' where
  peer := hpeer ▸ h.peer
  mirrored := by
    intro m hm
    have hmirrored := h.mirrored m (hholds.mirror m hm)
    refine ⟨hmirrored.distinct, hmirrored.bounded, ?_, ?_⟩
    · rw [hpeer]
      exact hmirrored.debts
    · exact fun request hrequest => hmirrored.presses request (hway request hrequest)
  handedOver := hholds.handedOver h.handedOver
  progress := hprogress

theorem Covered.of_holds {client : GuardianClient κ} {job : Option (EmergencyJob κ)}
    (h : Covered link) (hholds : Holds link.client client) :
    Covered { link with client, job } :=
  h.advance rfl hholds (fun _ hrequest => hrequest)
    fun hhealthy => (h.progress (hholds.healthy hhealthy)).of_holds hholds

/-- A step after which the client has failed. -/
theorem Covered.of_failed {link' : Link κ ω} (h : Covered link) (hpeer : link'.peer = link.peer)
    {error : InputSafetyError} (hclient : link'.client = link.client.brokerFailure error)
    (hway : ∀ request ∈ link'.underWay, request ∈ link.underWay) : Covered link' := by
  apply h.advance hpeer _ hway
  · intro hhealthy
    rw [hclient, isFailed_brokerFailure] at hhealthy
    cases hhealthy
  · rw [hclient]
    exact brokerFailure_holds error link.client

end Link

end OpenSwitcher.Guardian
