import OpenSwitcher.Guardian.Client
import OpenSwitcher.Guardian.Session
import OpenSwitcher.Library.Machine
/-!
# The daemon and the guardian

A client, its broker, the channel and the session at its other end. Each step of
one of them is an action, and so is every loss and every failure, so that a list
of actions is one run of the whole.
-/

namespace OpenSwitcher.Guardian

open Library SyntheticInput GuardianSession

/-- A call whose request is on its way. -/
structure Submission where
  call : Call
  request : Request
  clearsMirror : Bool
deriving DecidableEq, Repr

inductive ClientPhase where
  | idle
  | submitting (submission : Submission)
  | waiting (submission : Submission)
  | returning (submission : Submission) (result : Except SwitcherError Response)

/-- A call holds the client until it returns, so there is one command at a time. -/
inductive BrokerPhase where
  | idle
  | queued (request : Request)
  | picked (request : Request)
  | exchanging (sequence : Sequence) (request : Request)
  | stopped

/-- The session at the other end, and whether its connection is still served. -/
structure GuardianPeer (ω : Type) where
  session : GuardianSession ω
  serving : Bool := true

/-- The whole. `exchanged` has the answered requests, the latest first, and `job` the
emergency release that is to be waited for. -/
structure Link (κ ω : Type) where
  client : GuardianClient κ
  phase : ClientPhase := .idle
  broker : BrokerPhase := .idle
  nextSequence : Sequence
  toGuardian : List (Sequence × Request) := []
  toDaemon : List DecodedFrame := []
  peer : GuardianPeer ω
  job : Option (EmergencyJob κ) := none
  exchanged : List (Request × Response) := []

/-- What becomes of a command that passed the gate. -/
inductive SendFate where
  | sent
  | full
  | disconnected
deriving DecidableEq, Repr

inductive Action (κ : Type) where
  | arm (connection : κ)
  | call (call : Call)
  | submit (fate : SendFate)
  | clientGivesUp (disconnected : Bool)
  | clientReturns
  | clientFails (context : String)
  | dropClient
  | brokerPicks
  | brokerSends (failure : Option SwitcherError)
  | brokerReceives
  | brokerGivesUp (error : SwitcherError)
  | brokerLeaves (failure : Option InputSafetyError)
  | loseRequest
  | loseResponse
  | guardianReceives (nowNs : Option UInt64) (sent : Bool)
  | guardianStops (disconnection : Disconnection)
  | startEmergency (spawnError : Option IoError)
  | waitEmergency (timedOut : Bool)

/-- What a step lets its caller know. -/
inductive Answer where
  | none
  | returned (result : Except SwitcherError CallAnswer)
  | released (proof : TerminalProof) (run : Option EmergencyRun)

def fatalError (code : FatalCode) : InputSafetyError :=
  .guardianProtocol (match code with
    | .protocolViolation => "guardian reported a protocol violation"
    | .deadlineExpired => "guardian reported an expired deadline"
    | .deadlineTooFar => "guardian reported an excessive deadline"
    | .capacityExceeded => "guardian reported capacity exhaustion"
    | .backendUnavailable => "guardian XTEST backend is unavailable"
    | .backendFailure => "guardian XTEST backend failed"
    | .unreconciled => "guardian could not reconcile synthetic input")

def isTerminalResponse : Response → Bool
  | .drained .. | .stopped .. => true
  | _ => false

/-- What a received frame makes of a request. -/
def receivedResult (sequence : Sequence) (request : Request) (frame : DecodedFrame) :
    Except SwitcherError Response := do
  responseMatches sequence request frame
  match frame.message with
  | .request _ => .error (guardianProtocolError "guardian returned a request frame")
  | .response (.fatal code) => .error (.inputSafety (fatalError code))
  | .response response => .ok response

namespace GuardianPeer

variable {ω : Type} (executor : XtestExecutor ω) (clock : Clock ω)

def stop (reason : StopReason) (peer : GuardianPeer ω) : GuardianPeer ω :=
  { session := (Fallible.outcome (finishWithClock executor clock reason) peer.session).2
    serving := false }

/-- What a handled request does to its connection: a failure ends it, and so does a response
that is the last one or that does not get into the channel. -/
def settle (sent : Bool) (result : Except RequestFailure Response) (session : GuardianSession ω) :
    Option Response × GuardianPeer ω :=
  match result with
  | .error failure =>
      (if sent then some (.fatal failure.code) else none,
        stop executor clock failure.reason { session })
  | .ok response =>
      if sent then
        (some response, { session, serving := !isTerminalResponse response })
      else
        (none, stop executor clock .peerEof { session })

/-- One turn of the loop of a connection; `nowNs` is the time where the clock can be read, and
`sent` tells whether an answer gets into the channel. -/
def receive (sequence : Sequence) (request : Request) (nowNs : Option UInt64) (sent : Bool)
    (peer : GuardianPeer ω) : Option Response × GuardianPeer ω :=
  match nowNs with
  | none => (none, peer.stop executor clock .drop)
  | some nowNs =>
      let handled := Fallible.outcome
        (handleRequestDetailed executor clock sequence request nowNs) peer.session
      settle executor clock sent handled.1 handled.2

end GuardianPeer

namespace Link

variable {κ ω : Type} (release : EmergencyRelease κ) (executor : XtestExecutor ω)
  (clock : Clock ω)

/-- A connected client and its session, right after their handshake. -/
def connected (ready : GuardianReady) (session : GuardianSession ω) : Link κ ω :=
  { client := { ready }, nextSequence := 2, peer := { session } }

def updateClient (f : GuardianClient κ → GuardianClient κ) (link : Link κ ω) : Link κ ω :=
  { link with client := f link.client }

/-- Run a program of the client for its effect. -/
def run {α : Type} (m : Client κ α) (link : Link κ ω) : Link κ ω :=
  link.updateClient fun client => (Fallible.outcome m client).2

/-! ## The client -/

def startCall (call : Call) (link : Link κ ω) : Answer × Link κ ω :=
  let started := Fallible.outcome (GuardianClient.start call) link.client
  let link := { link with client := started.2 }
  match started.1 with
  | .error error => (.returned (.error error), link)
  | .ok (.returns answer) => (.returned (.ok answer), link)
  | .ok (.submits request clearsMirror) =>
      (.none, { link with phase := .submitting { call, request, clearsMirror } })

/-- The client fails the guardian and hands the error to its call. -/
def refuse (submission : Submission) (error : InputSafetyError) (link : Link κ ω) : Link κ ω :=
  { link with
    client := link.client.brokerFailure error
    phase := .returning submission (.error (.inputSafety error)) }

def submit (fate : SendFate) (submission : Submission) (link : Link κ ω) : Link κ ω :=
  match (Fallible.outcome GuardianClient.passGate link.client).1 with
  | .error error => { link with phase := .returning submission (.error error) }
  | .ok _ =>
      match fate, link.broker with
      | .sent, .idle =>
          { link with broker := .queued submission.request, phase := .waiting submission }
      | .full, _ => link.refuse submission
          (.guardianUnavailable "guardian broker command queue is full")
      | _, _ => link.refuse submission
          (.guardianUnavailable "guardian broker command queue is disconnected")

def clientGivesUp (disconnected : Bool) (submission : Submission) (link : Link κ ω) : Link κ ω :=
  link.refuse submission
    (if disconnected then .guardianUnavailable "guardian broker reply channel is disconnected"
      else .guardianRequestTimedOut (requestOperationId submission.request))

def returnCall (submission : Submission) (result : Except SwitcherError Response)
    (link : Link κ ω) : Answer × Link κ ω :=
  let finished := Fallible.outcome
    (GuardianClient.finish submission.call submission.clearsMirror result) link.client
  (.returned finished.1, { link with client := finished.2, phase := .idle })

/-! ## The broker -/

/-- The reply of the broker, which fails when nobody waits for it. -/
def reply (request : Request) (result : Except SwitcherError Response) (link : Link κ ω) :
    Link κ ω :=
  match link.phase with
  | .waiting submission =>
      { link with
        phase := .returning submission result
        exchanged := match result with
          | .ok response => (request, response) :: link.exchanged
          | .error _ => link.exchanged
        broker :=
          match result with
          | .ok response =>
              if isTerminalResponse response || link.client.stopping then .stopped else .idle
          | .error _ => if link.client.stopping then .stopped else .idle }
  | _ =>
      { link with
        client := link.client.brokerFailure
          (.guardianUnavailable "guardian request result had no live receiver")
        broker := .stopped }

/-- The end of an exchange: a failed one fails the guardian, and with the stop flag that this
sets the broker ends after its reply. -/
def conclude (request : Request) (result : Except SwitcherError Response) (link : Link κ ω) :
    Link κ ω :=
  if link.nextSequence + 1 = 0 then
    let error : InputSafetyError := .guardianProtocol "guardian broker sequence exhausted"
    (link.updateClient (·.brokerFailure error)).reply request (.error (.inputSafety error))
  else
    let link := { link with nextSequence := link.nextSequence + 1 }
    match result with
    | .ok _ => link.reply request result
    | .error error =>
        (link.updateClient (·.brokerFailure (healthErrorFor error))).reply request result

def brokerSends (failure : Option SwitcherError) (request : Request) (link : Link κ ω) :
    Link κ ω :=
  match failure with
  | some error => link.conclude request (.error error)
  | none =>
      { link with
        toGuardian := link.toGuardian ++ [(link.nextSequence, request)]
        broker := .exchanging link.nextSequence request }

/-- The broker leaves its loop between commands, because it is told to or because it fails. -/
def brokerLeaves (failure : Option InputSafetyError) (link : Link κ ω) : Link κ ω :=
  match failure with
  | some error =>
      { link with client := link.client.brokerFailure error, broker := .stopped }
  | none => if link.client.stopping then { link with broker := .stopped } else link

/-! ## The guardian -/

def guardianReceives (nowNs : Option UInt64) (sent : Bool) (sequence : Sequence)
    (request : Request) (rest : List (Sequence × Request)) (link : Link κ ω) : Link κ ω :=
  let received := link.peer.receive executor clock sequence request nowNs sent
  { link with
    peer := received.2
    toGuardian := rest
    toDaemon := link.toDaemon ++
      (received.1.map fun response => { sequence, message := .response response }).toList }

/-! ## Emergencies -/

def startEmergency (spawnError : Option IoError) (link : Link κ ω) : Link κ ω :=
  let started := link.client.emergency.startPendingReleaseIfNeeded spawnError
  { link with
    client := { link.client with emergency := started.2 }
    job := match started.1 with
      | .ok (some job) => some job
      | _ => link.job }

def waitEmergency (timedOut : Bool) (job : EmergencyJob κ) (link : Link κ ω) :
    Answer × Link κ ω :=
  let waited := EmergencyState.waitForJob release job timedOut
  (.released waited.1 waited.2,
    { link with
      client := { link.client with emergency := link.client.emergency.finishJob waited.1 }
      job := none })

/-! ## Steps -/

/-- One action. An action that has nothing to act on changes nothing. A broker may have read
the stop flag before it is set, and then still picks and sends its command. -/
def step (link : Link κ ω) (action : Action κ) : Answer × Link κ ω :=
  match action, link.phase, link.broker with
  | .arm connection, .idle, _ => (.none, link.run (GuardianClient.armEmergency release connection))
  | .call call, .idle, _ => link.startCall call
  | .submit fate, .submitting submission, _ => (.none, link.submit fate submission)
  | .clientGivesUp disconnected, .waiting submission, _ =>
      (.none, link.clientGivesUp disconnected submission)
  | .clientReturns, .returning submission result, _ => link.returnCall submission result
  | .clientFails context, .idle, _ =>
      (.none, link.updateClient (·.brokerFailure (.guardianProtocol context)))
  | .dropClient, .idle, _ => (.none, link.updateClient (·.drop))
  | .brokerPicks, _, .queued request => (.none, { link with broker := .picked request })
  | .brokerSends failure, _, .picked request => (.none, link.brokerSends failure request)
  | .brokerReceives, _, .exchanging sequence request =>
      match link.toDaemon with
      | [] => (.none, link)
      | frame :: rest => (.none, { link with toDaemon := rest }.conclude request
          (receivedResult sequence request frame))
  | .brokerGivesUp error, _, .exchanging _ request =>
      (.none, link.conclude request (.error error))
  | .brokerLeaves failure, _, .idle => (.none, link.brokerLeaves failure)
  | .brokerLeaves failure, _, .queued _ => (.none, link.brokerLeaves failure)
  | .loseRequest, _, _ => (.none, { link with toGuardian := link.toGuardian.tail })
  | .loseResponse, _, _ => (.none, { link with toDaemon := link.toDaemon.tail })
  | .guardianReceives nowNs sent, _, _ =>
      match link.peer.serving, link.toGuardian with
      | true, (sequence, request) :: rest =>
          (.none, link.guardianReceives executor clock nowNs sent sequence request rest)
      | _, _ => (.none, link)
  | .guardianStops disconnection, _, _ =>
      if link.peer.serving then
        (.none, { link with peer := link.peer.stop executor clock disconnection.reason })
      else
        (.none, link)
  | .startEmergency spawnError, _, _ => (.none, link.startEmergency spawnError)
  | .waitEmergency timedOut, _, _ =>
      match link.job with
      | none => (.none, link)
      | some job => link.waitEmergency release timedOut job
  | _, _, _ => (.none, link)

def machine : Machine (Link κ ω) (Action κ) Answer where
  step := step release executor clock

end Link

end OpenSwitcher.Guardian
