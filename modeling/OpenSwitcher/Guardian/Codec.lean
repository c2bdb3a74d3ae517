import OpenSwitcher.Guardian.Wire
import OpenSwitcher.Library.Codec
/-!
# The guardian wire codec

Frames of a fixed header and a payload, written and read by two separate matches
over the message kinds, and the proof that the two are inverse to each other.
-/

namespace OpenSwitcher.Guardian

open SyntheticInput
open Library
open Library.Fallible (outcome outcome_bind)

def magic : List UInt8 := [79, 83, 88, 71]
def headerBytes : Nat := 17
def protocolVersion : UInt16 := 1
def maxFrameBytes : Nat := 128

def kindHello : UInt8 := 1
def kindPrepareKey : UInt8 := 2
def kindExecuteDown : UInt8 := 3
def kindKeyUp : UInt8 := 4
def kindSynchronize : UInt8 := 5
def kindTransferToPhysicalDebt : UInt8 := 6
def kindPhysicalReleaseCommitted : UInt8 := 7
def kindCancelAndDrain : UInt8 := 8
def kindReleaseAllAndExit : UInt8 := 9
def kindReady : UInt8 := 101
def kindPrepared : UInt8 := 102
def kindDownAck : UInt8 := 103
def kindUpAck : UInt8 := 104
def kindSyncAck : UInt8 := 105
def kindTransferAck : UInt8 := 106
def kindReleaseCommitAck : UInt8 := 107
def kindDrained : UInt8 := 108
def kindStopped : UInt8 := 109
def kindFatal : UInt8 := 110

def protocolError (context : String) : SwitcherError := .invariant context

/-! ## Writing -/

/-- The encoder's buffer. -/
abbrev EncodeM (α : Type) : Type := Fallible (List UInt8) SwitcherError α

def pushBytes (bytes : List UInt8) : EncodeM Unit := .ofTransition fun buffer =>
  if buffer.length + bytes.length > maxFrameBytes - headerBytes then
    (.error (protocolError "XTEST guardian frame payload is too large"), buffer)
  else (.ok (), buffer ++ bytes)

def pushU8 (value : UInt8) : EncodeM Unit := pushBytes [value]
def pushU16 (value : UInt16) : EncodeM Unit := pushBytes (beBytes 2 value.toNat)
def pushU32 (value : UInt32) : EncodeM Unit := pushBytes (beBytes 4 value.toNat)
def pushU64 (value : UInt64) : EncodeM Unit := pushBytes (beBytes 8 value.toNat)

def encodeOperation (operation : OperationId) : EncodeM Unit := pushU64 operation

def encodeToken (token : PreparedToken) : EncodeM Unit := do
  pushBytes token.session.toList
  pushBytes token.epoch.toList
  pushU64 token.tokenId
  pushU16 token.evdevCode
  pushU8 token.x11Keycode

def encodeReleaseDeadline : ReleaseDeadline → EncodeM Unit
  | .mutation deadline => do
      pushU8 1
      pushU64 deadline
  | .cleanup deadline => do
      pushU8 2
      pushU64 deadline

def encodeTerminalProof : WireTerminalProof → EncodeM Unit
  | .reconciled => pushU8 1
  | .ownerGenerationDestroyed generation => do
      pushU8 2
      pushU64 generation
  | .unreconciled remaining => do
      pushU8 3
      pushU16 remaining

def fatalCodeByte : FatalCode → UInt8
  | .protocolViolation => 1
  | .deadlineExpired => 2
  | .deadlineTooFar => 3
  | .capacityExceeded => 4
  | .backendUnavailable => 5
  | .backendFailure => 6
  | .unreconciled => 7

def encodeFatalCode (code : FatalCode) : EncodeM Unit := pushU8 (fatalCodeByte code)

/-- Writes the payload and answers the kind. -/
def encodeMessage : Message → EncodeM UInt8
  | .request (.hello daemonNonce deadline) => do
      pushBytes daemonNonce.toList
      pushU64 deadline
      pure kindHello
  | .request (.prepareKey operation evdevCode deadline) => do
      encodeOperation operation
      pushU16 evdevCode
      pushU64 deadline
      pure kindPrepareKey
  | .request (.executeDown operation token deadline) => do
      encodeOperation operation
      encodeToken token
      pushU64 deadline
      pure kindExecuteDown
  | .request (.keyUp operation token deadline) => do
      encodeOperation operation
      encodeToken token
      encodeReleaseDeadline deadline
      pure kindKeyUp
  | .request (.synchronize operation tokenId deadline) => do
      encodeOperation operation
      pushU64 tokenId
      encodeReleaseDeadline deadline
      pure kindSynchronize
  | .request (.transferToPhysicalDebt operation token inputGeneration deadline) => do
      encodeOperation operation
      encodeToken token
      pushU64 inputGeneration
      pushU64 deadline
      pure kindTransferToPhysicalDebt
  | .request (.physicalReleaseCommitted sequence token inputGeneration deadline) => do
      pushU64 sequence
      encodeToken token
      pushU64 inputGeneration
      pushU64 deadline
      pure kindPhysicalReleaseCommitted
  | .request (.cancelAndDrain operation deadline) => do
      encodeOperation operation
      pushU64 deadline
      pure kindCancelAndDrain
  | .request (.releaseAllAndExit deadline) => do
      pushU64 deadline
      pure kindReleaseAllAndExit
  | .response (.ready session epoch epochWindow epochNonce) => do
      pushBytes session.toList
      pushBytes epoch.toList
      pushU32 epochWindow
      pushBytes epochNonce.toList
      pure kindReady
  | .response (.prepared operation token) => do
      encodeOperation operation
      encodeToken token
      pure kindPrepared
  | .response (.downAck operation tokenId) => do
      encodeOperation operation
      pushU64 tokenId
      pure kindDownAck
  | .response (.upAck operation tokenId) => do
      encodeOperation operation
      pushU64 tokenId
      pure kindUpAck
  | .response (.syncAck operation tokenId) => do
      encodeOperation operation
      pushU64 tokenId
      pure kindSyncAck
  | .response (.transferAck operation tokenId) => do
      encodeOperation operation
      pushU64 tokenId
      pure kindTransferAck
  | .response (.releaseCommitAck sequence tokenId) => do
      pushU64 sequence
      pushU64 tokenId
      pure kindReleaseCommitAck
  | .response (.drained operation proof) => do
      encodeOperation operation
      encodeTerminalProof proof
      pure kindDrained
  | .response (.stopped proof) => do
      encodeTerminalProof proof
      pure kindStopped
  | .response (.fatal code) => do
      encodeFatalCode code
      pure kindFatal

def encodeFrame (sequence : Sequence) (message : Message) :
    Except SwitcherError (List UInt8) := do
  if sequence = 0 then
    throw (protocolError "XTEST guardian sequence must be nonzero")
  let (kind, payload) ←
    match outcome (encodeMessage message) [] with
    | (.ok kind, payload) => .ok (kind, payload)
    | (.error error, _) => .error error
  if payload.length ≥ 2 ^ 16 then
    throw (protocolError "XTEST guardian payload length overflow")
  if headerBytes + payload.length > maxFrameBytes then
    throw (protocolError "XTEST guardian frame is too large")
  pure (magic ++ beBytes 2 protocolVersion.toNat ++ [kind] ++ beBytes 2 payload.length
    ++ beBytes 8 sequence.toNat ++ payload)

/-! ## Reading -/

structure Decoder where
  bytes : List UInt8
  offset : Nat := 0

abbrev DecodeM (α : Type) : Type := Fallible Decoder SwitcherError α

/-- Offsets are 64-bit, and a failed read leaves the decoder where it was. -/
def readArray (n : Nat) : DecodeM (Vector UInt8 n) := .ofTransition fun decoder =>
  let stop := decoder.offset + n
  if stop ≥ 2 ^ 64 then
    (.error (protocolError "XTEST guardian frame offset overflow"), decoder)
  else if h : stop ≤ decoder.bytes.length then
    let taken := (decoder.bytes.drop decoder.offset).take n
    (.ok ⟨taken.toArray, by simp [taken]; omega⟩, { decoder with offset := stop })
  else
    (.error (protocolError "XTEST guardian frame is truncated"), decoder)

def readU8 : DecodeM UInt8 := (fun bytes : Vector UInt8 1 => bytes[0]) <$> readArray 1

def readU16 : DecodeM UInt16 :=
  (fun bytes => UInt16.ofNat (ofBeBytes bytes.toList)) <$> readArray 2

def readU32 : DecodeM UInt32 :=
  (fun bytes => UInt32.ofNat (ofBeBytes bytes.toList)) <$> readArray 4

def readU64 : DecodeM UInt64 :=
  (fun bytes => UInt64.ofNat (ofBeBytes bytes.toList)) <$> readArray 8

def finishDecoder : DecodeM Unit := .ofTransition fun decoder =>
  if decoder.offset = decoder.bytes.length then (.ok (), decoder)
  else (.error (protocolError "XTEST guardian frame contains trailing payload bytes"), decoder)

def decodeOperation : DecodeM OperationId := readU64

def decodeToken : DecodeM PreparedToken := do
  let session ← readArray 16
  let epoch ← readArray 16
  let tokenId ← readU64
  let evdevCode ← readU16
  let x11Keycode ← readU8
  pure ⟨session, epoch, tokenId, evdevCode, x11Keycode⟩

def decodeReleaseDeadline : DecodeM ReleaseDeadline := do
  let kind ← readU8
  if kind = 1 then do
    let deadline ← readU64
    pure (.mutation deadline)
  else if kind = 2 then do
    let deadline ← readU64
    pure (.cleanup deadline)
  else throw (protocolError "XTEST guardian release deadline kind is unknown")

def decodeTerminalProof : DecodeM WireTerminalProof := do
  let kind ← readU8
  if kind = 1 then pure .reconciled
  else if kind = 2 then do
    let generation ← readU64
    pure (.ownerGenerationDestroyed generation)
  else if kind = 3 then do
    let remaining ← readU16
    pure (.unreconciled remaining)
  else throw (protocolError "XTEST guardian terminal proof kind is unknown")

def decodeFatalCode : DecodeM FatalCode := do
  let kind ← readU8
  if kind = 1 then pure .protocolViolation
  else if kind = 2 then pure .deadlineExpired
  else if kind = 3 then pure .deadlineTooFar
  else if kind = 4 then pure .capacityExceeded
  else if kind = 5 then pure .backendUnavailable
  else if kind = 6 then pure .backendFailure
  else if kind = 7 then pure .unreconciled
  else throw (protocolError "XTEST guardian fatal code is unknown")

def decodeMessage (kind : UInt8) : DecodeM Message :=
  if kind = kindHello then do
    let daemonNonce ← readArray 16
    let deadline ← readU64
    pure (.request (.hello daemonNonce deadline))
  else if kind = kindPrepareKey then do
    let operation ← decodeOperation
    let evdevCode ← readU16
    let deadline ← readU64
    pure (.request (.prepareKey operation evdevCode deadline))
  else if kind = kindExecuteDown then do
    let operation ← decodeOperation
    let token ← decodeToken
    let deadline ← readU64
    pure (.request (.executeDown operation token deadline))
  else if kind = kindKeyUp then do
    let operation ← decodeOperation
    let token ← decodeToken
    let deadline ← decodeReleaseDeadline
    pure (.request (.keyUp operation token deadline))
  else if kind = kindSynchronize then do
    let operation ← decodeOperation
    let tokenId ← readU64
    let deadline ← decodeReleaseDeadline
    pure (.request (.synchronize operation tokenId deadline))
  else if kind = kindTransferToPhysicalDebt then do
    let operation ← decodeOperation
    let token ← decodeToken
    let inputGeneration ← readU64
    let deadline ← readU64
    pure (.request (.transferToPhysicalDebt operation token inputGeneration deadline))
  else if kind = kindPhysicalReleaseCommitted then do
    let sequence ← readU64
    let token ← decodeToken
    let inputGeneration ← readU64
    let deadline ← readU64
    pure (.request (.physicalReleaseCommitted sequence token inputGeneration deadline))
  else if kind = kindCancelAndDrain then do
    let operation ← decodeOperation
    let deadline ← readU64
    pure (.request (.cancelAndDrain operation deadline))
  else if kind = kindReleaseAllAndExit then do
    let deadline ← readU64
    pure (.request (.releaseAllAndExit deadline))
  else if kind = kindReady then do
    let session ← readArray 16
    let epoch ← readArray 16
    let epochWindow ← readU32
    let epochNonce ← readArray 16
    pure (.response (.ready session epoch epochWindow epochNonce))
  else if kind = kindPrepared then do
    let operation ← decodeOperation
    let token ← decodeToken
    pure (.response (.prepared operation token))
  else if kind = kindDownAck then do
    let operation ← decodeOperation
    let tokenId ← readU64
    pure (.response (.downAck operation tokenId))
  else if kind = kindUpAck then do
    let operation ← decodeOperation
    let tokenId ← readU64
    pure (.response (.upAck operation tokenId))
  else if kind = kindSyncAck then do
    let operation ← decodeOperation
    let tokenId ← readU64
    pure (.response (.syncAck operation tokenId))
  else if kind = kindTransferAck then do
    let operation ← decodeOperation
    let tokenId ← readU64
    pure (.response (.transferAck operation tokenId))
  else if kind = kindReleaseCommitAck then do
    let sequence ← readU64
    let tokenId ← readU64
    pure (.response (.releaseCommitAck sequence tokenId))
  else if kind = kindDrained then do
    let operation ← decodeOperation
    let proof ← decodeTerminalProof
    pure (.response (.drained operation proof))
  else if kind = kindStopped then do
    let proof ← decodeTerminalProof
    pure (.response (.stopped proof))
  else if kind = kindFatal then do
    let code ← decodeFatalCode
    pure (.response (.fatal code))
  else throw (protocolError "XTEST guardian message kind is unknown")

structure Header where
  kind : UInt8
  payloadLen : UInt16
  sequence : Sequence

def decodeHeaderFields : DecodeM Header := do
  let found ← readArray 4
  if found.toList ≠ magic then
    throw (protocolError "XTEST guardian frame magic is invalid")
  else
    let version ← readU16
    if version ≠ protocolVersion then
      throw (protocolError "XTEST guardian protocol version is unsupported")
    else
      let kind ← readU8
      let payloadLen ← readU16
      let sequence ← readU64
      pure ⟨kind, payloadLen, sequence⟩

def decodeHeader : DecodeM Header := do
  let header ← decodeHeaderFields
  finishDecoder
  pure header

def decodePayload (kind : UInt8) : DecodeM Message := do
  let message ← decodeMessage kind
  finishDecoder
  pure message

def decodeFrame (frame : List UInt8) : Except SwitcherError DecodedFrame := do
  if frame.length > maxFrameBytes then
    throw (protocolError "XTEST guardian frame is too large")
  if frame.length < headerBytes then
    throw (protocolError "XTEST guardian frame header is truncated")
  let header ← (outcome decodeHeader { bytes := frame.take headerBytes }).1
  if header.sequence = 0 then
    throw (protocolError "XTEST guardian sequence must be nonzero")
  if headerBytes + header.payloadLen.toNat ≠ frame.length then
    throw (protocolError "XTEST guardian payload length does not match frame")
  let message ← (outcome (decodePayload header.kind) { bytes := frame.drop headerBytes }).1
  pure ⟨header.sequence, message⟩

/-! ## The format -/

def tokenBytes (token : PreparedToken) : List UInt8 :=
  token.session.toList ++ (token.epoch.toList ++ (beBytes 8 token.tokenId.toNat ++
    (beBytes 2 token.evdevCode.toNat ++ [token.x11Keycode])))

def u64Bytes (value : UInt64) : List UInt8 := beBytes 8 value.toNat

def releaseDeadlineBytes : ReleaseDeadline → List UInt8
  | .mutation deadline => [1] ++ u64Bytes deadline
  | .cleanup deadline => [2] ++ u64Bytes deadline

def terminalProofBytes : WireTerminalProof → List UInt8
  | .reconciled => [1]
  | .ownerGenerationDestroyed generation => [2] ++ u64Bytes generation
  | .unreconciled remaining => [3] ++ beBytes 2 remaining.toNat

namespace Message

def kind : Message → UInt8
  | .request (.hello ..) => kindHello
  | .request (.prepareKey ..) => kindPrepareKey
  | .request (.executeDown ..) => kindExecuteDown
  | .request (.keyUp ..) => kindKeyUp
  | .request (.synchronize ..) => kindSynchronize
  | .request (.transferToPhysicalDebt ..) => kindTransferToPhysicalDebt
  | .request (.physicalReleaseCommitted ..) => kindPhysicalReleaseCommitted
  | .request (.cancelAndDrain ..) => kindCancelAndDrain
  | .request (.releaseAllAndExit ..) => kindReleaseAllAndExit
  | .response (.ready ..) => kindReady
  | .response (.prepared ..) => kindPrepared
  | .response (.downAck ..) => kindDownAck
  | .response (.upAck ..) => kindUpAck
  | .response (.syncAck ..) => kindSyncAck
  | .response (.transferAck ..) => kindTransferAck
  | .response (.releaseCommitAck ..) => kindReleaseCommitAck
  | .response (.drained ..) => kindDrained
  | .response (.stopped ..) => kindStopped
  | .response (.fatal ..) => kindFatal

def payload : Message → List UInt8
  | .request (.hello daemonNonce deadline) => daemonNonce.toList ++ u64Bytes deadline
  | .request (.prepareKey operation evdevCode deadline) =>
      u64Bytes operation ++ (beBytes 2 evdevCode.toNat ++ u64Bytes deadline)
  | .request (.executeDown operation token deadline) =>
      u64Bytes operation ++ (tokenBytes token ++ u64Bytes deadline)
  | .request (.keyUp operation token deadline) =>
      u64Bytes operation ++ (tokenBytes token ++ releaseDeadlineBytes deadline)
  | .request (.synchronize operation tokenId deadline) =>
      u64Bytes operation ++ (u64Bytes tokenId ++ releaseDeadlineBytes deadline)
  | .request (.transferToPhysicalDebt operation token inputGeneration deadline) =>
      u64Bytes operation ++ (tokenBytes token ++ (u64Bytes inputGeneration ++ u64Bytes deadline))
  | .request (.physicalReleaseCommitted sequence token inputGeneration deadline) =>
      u64Bytes sequence ++ (tokenBytes token ++ (u64Bytes inputGeneration ++ u64Bytes deadline))
  | .request (.cancelAndDrain operation deadline) => u64Bytes operation ++ u64Bytes deadline
  | .request (.releaseAllAndExit deadline) => u64Bytes deadline
  | .response (.ready session epoch epochWindow epochNonce) =>
      session.toList ++ (epoch.toList ++ (beBytes 4 epochWindow.toNat ++ epochNonce.toList))
  | .response (.prepared operation token) => u64Bytes operation ++ tokenBytes token
  | .response (.downAck operation tokenId) => u64Bytes operation ++ u64Bytes tokenId
  | .response (.upAck operation tokenId) => u64Bytes operation ++ u64Bytes tokenId
  | .response (.syncAck operation tokenId) => u64Bytes operation ++ u64Bytes tokenId
  | .response (.transferAck operation tokenId) => u64Bytes operation ++ u64Bytes tokenId
  | .response (.releaseCommitAck sequence tokenId) => u64Bytes sequence ++ u64Bytes tokenId
  | .response (.drained operation proof) => u64Bytes operation ++ terminalProofBytes proof
  | .response (.stopped proof) => terminalProofBytes proof
  | .response (.fatal code) => [fatalCodeByte code]

end Message

/-! ## Writing follows the format -/

/-- The room for a payload. -/
def payloadLimit : Nat := maxFrameBytes - headerBytes

theorem pushBytes_writes (bytes : List UInt8) :
    Writes payloadLimit (pushBytes bytes) () bytes := by
  intro buffer hfits
  show (if buffer.length + bytes.length > maxFrameBytes - headerBytes then _ else _) = _
  rw [if_neg (by unfold payloadLimit at hfits; omega)]

theorem pushU64_writes (value : UInt64) :
    Writes payloadLimit (pushU64 value) () (u64Bytes value) :=
  pushBytes_writes _

theorem encodeToken_writes (token : PreparedToken) :
    Writes payloadLimit (encodeToken token) () (tokenBytes token) :=
  (pushBytes_writes _).bind ((pushBytes_writes _).bind ((pushBytes_writes _).bind
    ((pushBytes_writes _).bind (pushBytes_writes _))))

theorem encodeReleaseDeadline_writes (deadline : ReleaseDeadline) :
    Writes payloadLimit (encodeReleaseDeadline deadline) () (releaseDeadlineBytes deadline) := by
  cases deadline with
  | mutation deadline => exact (pushBytes_writes _).bind (pushBytes_writes _)
  | cleanup deadline => exact (pushBytes_writes _).bind (pushBytes_writes _)

theorem encodeTerminalProof_writes (proof : WireTerminalProof) :
    Writes payloadLimit (encodeTerminalProof proof) () (terminalProofBytes proof) := by
  cases proof with
  | reconciled => exact pushBytes_writes _
  | ownerGenerationDestroyed generation => exact (pushBytes_writes _).bind (pushBytes_writes _)
  | unreconciled remaining => exact (pushBytes_writes _).bind (pushBytes_writes _)

theorem encodeMessage_writes (message : Message) :
    Writes payloadLimit (encodeMessage message) message.kind message.payload := by
  cases message with
  | request request =>
    cases request with
    | hello daemonNonce deadline =>
        exact (pushBytes_writes _).bind ((pushU64_writes deadline).answer _)
    | prepareKey operation evdevCode deadline =>
        exact (pushU64_writes operation).bind
          ((pushBytes_writes _).bind ((pushU64_writes deadline).answer _))
    | executeDown operation token deadline =>
        exact (pushU64_writes operation).bind
          ((encodeToken_writes token).bind ((pushU64_writes deadline).answer _))
    | keyUp operation token deadline =>
        exact (pushU64_writes operation).bind
          ((encodeToken_writes token).bind ((encodeReleaseDeadline_writes deadline).answer _))
    | synchronize operation tokenId deadline =>
        exact (pushU64_writes operation).bind
          ((pushU64_writes tokenId).bind ((encodeReleaseDeadline_writes deadline).answer _))
    | transferToPhysicalDebt operation token inputGeneration deadline =>
        exact (pushU64_writes operation).bind ((encodeToken_writes token).bind
          ((pushU64_writes inputGeneration).bind ((pushU64_writes deadline).answer _)))
    | physicalReleaseCommitted sequence token inputGeneration deadline =>
        exact (pushU64_writes sequence).bind ((encodeToken_writes token).bind
          ((pushU64_writes inputGeneration).bind ((pushU64_writes deadline).answer _)))
    | cancelAndDrain operation deadline =>
        exact (pushU64_writes operation).bind ((pushU64_writes deadline).answer _)
    | releaseAllAndExit deadline => exact (pushU64_writes deadline).answer _
  | response response =>
    cases response with
    | ready session epoch epochWindow epochNonce =>
        exact (pushBytes_writes _).bind ((pushBytes_writes _).bind
          ((pushBytes_writes _).bind ((pushBytes_writes _).answer _)))
    | prepared operation token =>
        exact (pushU64_writes operation).bind ((encodeToken_writes token).answer _)
    | downAck operation tokenId =>
        exact (pushU64_writes operation).bind ((pushU64_writes tokenId).answer _)
    | upAck operation tokenId =>
        exact (pushU64_writes operation).bind ((pushU64_writes tokenId).answer _)
    | syncAck operation tokenId =>
        exact (pushU64_writes operation).bind ((pushU64_writes tokenId).answer _)
    | transferAck operation tokenId =>
        exact (pushU64_writes operation).bind ((pushU64_writes tokenId).answer _)
    | releaseCommitAck sequence tokenId =>
        exact (pushU64_writes sequence).bind ((pushU64_writes tokenId).answer _)
    | drained operation proof =>
        exact (pushU64_writes operation).bind ((encodeTerminalProof_writes proof).answer _)
    | stopped proof => exact (encodeTerminalProof_writes proof).answer _
    | fatal code => exact (pushBytes_writes _).answer _

@[simp] theorem length_u64Bytes (value : UInt64) : (u64Bytes value).length = 8 :=
  length_beBytes _ _

@[simp] theorem length_tokenBytes (token : PreparedToken) : (tokenBytes token).length = 43 := by
  simp [tokenBytes]

@[simp] theorem length_releaseDeadlineBytes (deadline : ReleaseDeadline) :
    (releaseDeadlineBytes deadline).length = 9 := by
  cases deadline <;> simp [releaseDeadlineBytes]

theorem length_terminalProofBytes (proof : WireTerminalProof) :
    (terminalProofBytes proof).length ≤ 9 := by
  cases proof <;> simp [terminalProofBytes]

/-- The largest payload carries an operation, a token, a generation and a deadline. -/
theorem length_payload (message : Message) : message.payload.length ≤ 67 := by
  cases message with
  | request request => cases request <;> simp [Message.payload]
  | response response =>
    cases response with
    | drained operation proof =>
        have hproof := length_terminalProofBytes proof
        simp only [Message.payload, List.length_append, length_u64Bytes]
        omega
    | stopped proof =>
        have hproof := length_terminalProofBytes proof
        simp only [Message.payload]
        omega
    | _ => simp [Message.payload]

/-- The header of a frame and its payload. -/
def headerOf (kind : UInt8) (payloadLen : UInt16) (sequence : Sequence) : List UInt8 :=
  magic ++ (beBytes 2 protocolVersion.toNat ++ ([kind] ++
    (beBytes 2 payloadLen.toNat ++ u64Bytes sequence)))

@[simp] theorem length_headerOf (kind : UInt8) (payloadLen : UInt16) (sequence : Sequence) :
    (headerOf kind payloadLen sequence).length = headerBytes := by
  simp [headerOf, magic, headerBytes]

theorem encodeFrame_eq {sequence : Sequence} (hsequence : sequence ≠ 0) (message : Message) :
    encodeFrame sequence message = .ok
      (headerOf message.kind (UInt16.ofNat message.payload.length) sequence
        ++ message.payload) := by
  have hlength := length_payload message
  have hroom : message.payload.length ≤ payloadLimit := by
    unfold payloadLimit maxFrameBytes headerBytes
    omega
  have hrun : outcome (encodeMessage message) [] = (.ok message.kind, message.payload) := by
    have hwrites := encodeMessage_writes message [] (by simpa using hroom)
    simpa using hwrites
  have hlen16 : (UInt16.ofNat message.payload.length).toNat = message.payload.length := by
    rw [UInt16.toNat_ofNat']
    omega
  have hsmall : ¬ message.payload.length ≥ 2 ^ 16 := by omega
  have hframe : ¬ headerBytes + message.payload.length > maxFrameBytes := by
    unfold headerBytes maxFrameBytes
    omega
  unfold encodeFrame
  simp only [hsequence, if_false, hrun, bind, Except.bind, hsmall, hframe, headerOf, hlen16,
    u64Bytes, List.append_assoc]
  rfl

/-! ## Reading follows the format -/

namespace Decoder

/-- Within its input, which is shorter than the address space. -/
structure Within (decoder : Decoder) : Prop where
  offset_le : decoder.offset ≤ decoder.bytes.length
  length_lt : decoder.bytes.length < 2 ^ 64

def remaining (decoder : Decoder) : List UInt8 := decoder.bytes.drop decoder.offset

end Decoder

/-- A reader of the values that the wire shows as `wire`. -/
abbrev ReadsAs {α : Type} (program : DecodeM α) (wire : α → List UInt8) : Prop :=
  Reads Decoder.Within Decoder.remaining program fun value bytes => bytes = wire value

theorem readArray_reads (n : Nat) : ReadsAs (readArray n) Vector.toList := by
  constructor
  · intro decoder value bytes after hwithin hbytes hrest
    have hlength : bytes.length = n := by
      rw [hbytes, Vector.length_toList]
    have hremaining := congrArg List.length hrest
    simp only [Decoder.remaining, List.length_drop, List.length_append] at hremaining
    have hoffset := hwithin.offset_le
    have hbound := hwithin.length_lt
    have hsmall : ¬ decoder.offset + n ≥ 2 ^ 64 := by omega
    have hfits : decoder.offset + n ≤ decoder.bytes.length := by omega
    have htaken : (decoder.bytes.drop decoder.offset).take n = bytes := by
      show decoder.remaining.take n = bytes
      rw [hrest, ← hlength, List.take_left]
    refine ⟨{ decoder with offset := decoder.offset + n }, ?_, ⟨hfits, hbound⟩, ?_⟩
    · show (if decoder.offset + n ≥ 2 ^ 64 then _ else if h : _ then _ else _) = _
      rw [if_neg hsmall, dif_pos hfits]
      have hvalue : value = ⟨((decoder.bytes.drop decoder.offset).take n).toArray, by
          rw [htaken]; simpa using hlength⟩ := by
        apply Vector.toList_inj.mp
        simp [htaken, hbytes]
      rw [hvalue]
    · show decoder.bytes.drop (decoder.offset + n) = after
      rw [← List.drop_drop]
      show decoder.remaining.drop n = after
      rw [hrest, ← hlength, List.drop_left]
  · intro decoder value decoder' hwithin hrun
    have hrun' : (if decoder.offset + n ≥ 2 ^ 64 then _
        else if h : decoder.offset + n ≤ decoder.bytes.length then _ else _)
          = (Except.ok value, decoder') := hrun
    by_cases hlarge : decoder.offset + n ≥ 2 ^ 64
    · rw [if_pos hlarge] at hrun'
      cases hrun'
    · rw [if_neg hlarge] at hrun'
      by_cases hfits : decoder.offset + n ≤ decoder.bytes.length
      · rw [dif_pos hfits] at hrun'
        cases hrun'
        refine ⟨⟨hfits, hwithin.length_lt⟩, _, rfl, ?_⟩
        show decoder.bytes.drop decoder.offset =
          ((decoder.bytes.drop decoder.offset).take n) ++ decoder.bytes.drop (decoder.offset + n)
        rw [← List.drop_drop, List.take_append_drop]
      · rw [dif_neg hfits] at hrun'
        cases hrun'

theorem readU8_reads : ReadsAs readU8 fun value => [value] := by
  apply (readArray_reads 1).map
  · intro bytes
    have hlength : bytes.toList.length = 1 := Vector.length_toList
    apply List.ext_getElem
    · simp [hlength]
    · intro i hi _
      have hzero : i = 0 := by simpa using hi
      subst hzero
      simp
  · intro value
    exact ⟨#v[value], rfl⟩

/-- The bytes of a word are those it is read from. -/
theorem beBytes_of_vector {n : Nat} (bytes : Vector UInt8 n) :
    beBytes n (ofBeBytes bytes.toList) = bytes.toList := by
  have hback := beBytes_ofBeBytes bytes.toList
  rwa [Vector.length_toList] at hback

theorem ofBeBytes_vector_lt {n : Nat} (bytes : Vector UInt8 n) :
    ofBeBytes bytes.toList < 256 ^ n := by
  have hlt := ofBeBytes_lt bytes.toList
  rwa [Vector.length_toList] at hlt

/-- A word of `n` bytes is read from some vector of them. -/
theorem vector_of_beBytes {n value : Nat} (h : value < 256 ^ n) :
    ∃ bytes : Vector UInt8 n, ofBeBytes bytes.toList = value :=
  ⟨⟨(beBytes n value).toArray, by simp⟩, by simpa using ofBeBytes_beBytes h⟩

theorem readU16_reads : ReadsAs readU16 fun value => beBytes 2 value.toNat := by
  apply (readArray_reads 2).map
  · intro bytes
    have hlt := ofBeBytes_vector_lt bytes
    rw [UInt16.toNat_ofNat', Nat.mod_eq_of_lt (by simpa using hlt), beBytes_of_vector]
  · intro value
    obtain ⟨bytes, hbytes⟩ := vector_of_beBytes (n := 2) value.toNat_lt
    exact ⟨bytes, by rw [hbytes]; simp⟩

theorem readU32_reads : ReadsAs readU32 fun value => beBytes 4 value.toNat := by
  apply (readArray_reads 4).map
  · intro bytes
    have hlt := ofBeBytes_vector_lt bytes
    rw [UInt32.toNat_ofNat', Nat.mod_eq_of_lt (by simpa using hlt), beBytes_of_vector]
  · intro value
    obtain ⟨bytes, hbytes⟩ := vector_of_beBytes (n := 4) value.toNat_lt
    exact ⟨bytes, by rw [hbytes]; simp⟩

theorem readU64_reads : ReadsAs readU64 u64Bytes := by
  apply (readArray_reads 8).map
  · intro bytes
    have hlt := ofBeBytes_vector_lt bytes
    rw [u64Bytes, UInt64.toNat_ofNat', Nat.mod_eq_of_lt (by simpa using hlt), beBytes_of_vector]
  · intro value
    obtain ⟨bytes, hbytes⟩ := vector_of_beBytes (n := 8) value.toNat_lt
    exact ⟨bytes, by rw [hbytes]; simp⟩

theorem decodeToken_reads : ReadsAs decodeToken tokenBytes := by
  have hfields := (readArray_reads 16).field fun session =>
    (readArray_reads 16).record₄ readU64_reads readU16_reads readU8_reads
      fun epoch tokenId evdevCode x11Keycode =>
        (⟨session, epoch, tokenId, evdevCode, x11Keycode⟩ : PreparedToken)
  apply hfields.congr
  intro token bytes
  constructor
  · intro hform
    obtain ⟨session, tail, ⟨epoch, tokenId, evdevCode, x11Keycode, htoken, htail⟩, hbytes⟩ := hform
    rw [hbytes, htail, htoken]
    rfl
  · intro hbytes
    exact ⟨token.session, _, ⟨token.epoch, token.tokenId, token.evdevCode, token.x11Keycode, rfl,
      rfl⟩, hbytes⟩

theorem decodeReleaseDeadline_reads : ReadsAs decodeReleaseDeadline releaseDeadlineBytes := by
  have hfields := readU8_reads.field fun kind : UInt8 =>
    Reads.cond (p := kind = 1) (readU64_reads.record₁ ReleaseDeadline.mutation)
      (Reads.cond (p := kind = 2) (readU64_reads.record₁ ReleaseDeadline.cleanup)
        (Reads.throw (protocolError "XTEST guardian release deadline kind is unknown")))
  apply hfields.congr
  intro deadline bytes
  constructor
  · intro hform
    obtain ⟨kind, tail, hcases, hbytes⟩ := hform
    obtain ⟨hkind, value, hvalue, htail⟩ | ⟨-, ⟨hkind, value, hvalue, htail⟩ | ⟨-, hfalse⟩⟩ := hcases
    · rw [hbytes, htail, hvalue, hkind]
      rfl
    · rw [hbytes, htail, hvalue, hkind]
      rfl
    · exact hfalse.elim
  · intro hbytes
    cases deadline with
    | mutation value => exact ⟨1, _, Or.inl ⟨rfl, value, rfl, rfl⟩, hbytes⟩
    | cleanup value =>
        exact ⟨2, _, Or.inr ⟨by decide, Or.inl ⟨rfl, value, rfl, rfl⟩⟩, hbytes⟩

theorem decodeTerminalProof_reads : ReadsAs decodeTerminalProof terminalProofBytes := by
  have hfields := readU8_reads.field fun kind : UInt8 =>
    Reads.cond (p := kind = 1) (Reads.pure WireTerminalProof.reconciled)
      (Reads.cond (p := kind = 2)
        (readU64_reads.record₁ WireTerminalProof.ownerGenerationDestroyed)
        (Reads.cond (p := kind = 3) (readU16_reads.record₁ WireTerminalProof.unreconciled)
          (Reads.throw (protocolError "XTEST guardian terminal proof kind is unknown"))))
  apply hfields.congr
  intro proof bytes
  constructor
  · intro hform
    obtain ⟨kind, tail, hcases, hbytes⟩ := hform
    obtain ⟨hkind, hvalue, htail⟩ | ⟨-, ⟨hkind, value, hvalue, htail⟩ |
      ⟨-, ⟨hkind, value, hvalue, htail⟩ | ⟨-, hfalse⟩⟩⟩ := hcases
    · rw [hbytes, htail, hvalue, hkind]
      rfl
    · rw [hbytes, htail, hvalue, hkind]
      rfl
    · rw [hbytes, htail, hvalue, hkind]
      rfl
    · exact hfalse.elim
  · intro hbytes
    cases proof with
    | reconciled => exact ⟨1, [], Or.inl ⟨rfl, rfl, rfl⟩, hbytes⟩
    | ownerGenerationDestroyed generation =>
        exact ⟨2, _, Or.inr ⟨by decide, Or.inl ⟨rfl, generation, rfl, rfl⟩⟩, hbytes⟩
    | unreconciled remaining =>
        exact ⟨3, _, Or.inr ⟨by decide, Or.inr ⟨by decide, Or.inl ⟨rfl, remaining, rfl, rfl⟩⟩⟩,
          hbytes⟩

theorem decodeFatalCode_reads : ReadsAs decodeFatalCode fun code => [fatalCodeByte code] := by
  have hfields := readU8_reads.field fun kind : UInt8 =>
    Reads.cond (p := kind = 1) (Reads.pure FatalCode.protocolViolation)
      (Reads.cond (p := kind = 2) (Reads.pure FatalCode.deadlineExpired)
        (Reads.cond (p := kind = 3) (Reads.pure FatalCode.deadlineTooFar)
          (Reads.cond (p := kind = 4) (Reads.pure FatalCode.capacityExceeded)
            (Reads.cond (p := kind = 5) (Reads.pure FatalCode.backendUnavailable)
              (Reads.cond (p := kind = 6) (Reads.pure FatalCode.backendFailure)
                (Reads.cond (p := kind = 7) (Reads.pure FatalCode.unreconciled)
                  (Reads.throw (protocolError "XTEST guardian fatal code is unknown"))))))))
  apply hfields.congr
  intro code bytes
  constructor
  · intro hform
    obtain ⟨kind, tail, hcases, hbytes⟩ := hform
    rw [hbytes]
    obtain ⟨hkind, hcode, htail⟩ | ⟨-, ⟨hkind, hcode, htail⟩ | ⟨-, ⟨hkind, hcode, htail⟩ |
      ⟨-, ⟨hkind, hcode, htail⟩ | ⟨-, ⟨hkind, hcode, htail⟩ | ⟨-, ⟨hkind, hcode, htail⟩ |
        ⟨-, ⟨hkind, hcode, htail⟩ | ⟨-, hfalse⟩⟩⟩⟩⟩⟩⟩ := hcases
    all_goals first
      | exact hfalse.elim
      | rw [htail, hcode, hkind]; rfl
  · intro hbytes
    refine ⟨fatalCodeByte code, [], ?_, hbytes⟩
    cases code <;> decide

/-! ## Messages -/

/-- At its kind the decoder reads this message from its payload, and any other message of the
kind from that one's payload. -/
def Branch (message : Message) : Prop :=
  ∃ form, Reads Decoder.Within Decoder.remaining (decodeMessage message.kind) form ∧
    form message message.payload ∧
    ∀ message' bytes, form message' bytes →
      message'.kind = message.kind ∧ bytes = message'.payload

/-! The messages of a kind are a record of one to four fields, which the payload shows in order. -/

section Branches

variable {α ι κ δ : Type} (kind : UInt8) {wire₁ : α → List UInt8} {wire₂ : ι → List UInt8}
  {wire₃ : κ → List UInt8} {wire₄ : δ → List UInt8}

theorem branch₁ {make : α → Message}
    (hreads : Reads Decoder.Within Decoder.remaining (decodeMessage kind)
      fun message bytes => ∃ a, message = make a ∧ bytes = wire₁ a)
    (hkind : ∀ a, (make a).kind = kind) (hpayload : ∀ a, (make a).payload = wire₁ a) (a : α) :
    Branch (make a) := by
  unfold Branch
  rw [hkind]
  refine ⟨_, hreads, ⟨a, rfl, hpayload a⟩, ?_⟩
  intro message bytes hform
  obtain ⟨a, hmessage, hbytes⟩ := hform
  subst hmessage
  exact ⟨hkind a, hbytes.trans (hpayload a).symm⟩

theorem branch₂ {make : α → ι → Message}
    (hreads : Reads Decoder.Within Decoder.remaining (decodeMessage kind)
      fun message bytes => ∃ a i, message = make a i ∧ bytes = wire₁ a ++ wire₂ i)
    (hkind : ∀ a i, (make a i).kind = kind)
    (hpayload : ∀ a i, (make a i).payload = wire₁ a ++ wire₂ i) (a : α) (i : ι) :
    Branch (make a i) := by
  unfold Branch
  rw [hkind]
  refine ⟨_, hreads, ⟨a, i, rfl, hpayload a i⟩, ?_⟩
  intro message bytes hform
  obtain ⟨a, i, hmessage, hbytes⟩ := hform
  subst hmessage
  exact ⟨hkind a i, hbytes.trans (hpayload a i).symm⟩

theorem branch₃ {make : α → ι → κ → Message}
    (hreads : Reads Decoder.Within Decoder.remaining (decodeMessage kind)
      fun message bytes => ∃ a i k, message = make a i k ∧
        bytes = wire₁ a ++ (wire₂ i ++ wire₃ k))
    (hkind : ∀ a i k, (make a i k).kind = kind)
    (hpayload : ∀ a i k, (make a i k).payload = wire₁ a ++ (wire₂ i ++ wire₃ k)) (a : α) (i : ι)
    (k : κ) : Branch (make a i k) := by
  unfold Branch
  rw [hkind]
  refine ⟨_, hreads, ⟨a, i, k, rfl, hpayload a i k⟩, ?_⟩
  intro message bytes hform
  obtain ⟨a, i, k, hmessage, hbytes⟩ := hform
  subst hmessage
  exact ⟨hkind a i k, hbytes.trans (hpayload a i k).symm⟩

theorem branch₄ {make : α → ι → κ → δ → Message}
    (hreads : Reads Decoder.Within Decoder.remaining (decodeMessage kind)
      fun message bytes => ∃ a i k d, message = make a i k d ∧
        bytes = wire₁ a ++ (wire₂ i ++ (wire₃ k ++ wire₄ d)))
    (hkind : ∀ a i k d, (make a i k d).kind = kind)
    (hpayload : ∀ a i k d,
      (make a i k d).payload = wire₁ a ++ (wire₂ i ++ (wire₃ k ++ wire₄ d)))
    (a : α) (i : ι) (k : κ) (d : δ) : Branch (make a i k d) := by
  unfold Branch
  rw [hkind]
  refine ⟨_, hreads, ⟨a, i, k, d, rfl, hpayload a i k d⟩, ?_⟩
  intro message bytes hform
  obtain ⟨a, i, k, d, hmessage, hbytes⟩ := hform
  subst hmessage
  exact ⟨hkind a i k d, hbytes.trans (hpayload a i k d).symm⟩

end Branches

theorem decodeMessage_branch (message : Message) : Branch message := by
  cases message with
  | request request =>
    cases request with
    | hello daemonNonce deadline =>
        exact branch₂ kindHello ((readArray_reads 16).record₂ readU64_reads _) (fun _ _ => rfl)
          (fun _ _ => rfl) daemonNonce deadline
    | prepareKey operation evdevCode deadline =>
        exact branch₃ kindPrepareKey
          (readU64_reads.record₃ readU16_reads readU64_reads _) (fun _ _ _ => rfl)
          (fun _ _ _ => rfl) operation evdevCode deadline
    | executeDown operation token deadline =>
        exact branch₃ kindExecuteDown
          (readU64_reads.record₃ decodeToken_reads readU64_reads _) (fun _ _ _ => rfl)
          (fun _ _ _ => rfl) operation token deadline
    | keyUp operation token deadline =>
        exact branch₃ kindKeyUp
          (readU64_reads.record₃ decodeToken_reads decodeReleaseDeadline_reads _) (fun _ _ _ => rfl)
          (fun _ _ _ => rfl) operation token deadline
    | synchronize operation tokenId deadline =>
        exact branch₃ kindSynchronize
          (readU64_reads.record₃ readU64_reads decodeReleaseDeadline_reads _) (fun _ _ _ => rfl)
          (fun _ _ _ => rfl) operation tokenId deadline
    | transferToPhysicalDebt operation token inputGeneration deadline =>
        exact branch₄ kindTransferToPhysicalDebt
          (readU64_reads.record₄ decodeToken_reads readU64_reads readU64_reads _)
          (fun _ _ _ _ => rfl) (fun _ _ _ _ => rfl) operation token inputGeneration deadline
    | physicalReleaseCommitted sequence token inputGeneration deadline =>
        exact branch₄ kindPhysicalReleaseCommitted
          (readU64_reads.record₄ decodeToken_reads readU64_reads readU64_reads _)
          (fun _ _ _ _ => rfl) (fun _ _ _ _ => rfl) sequence token inputGeneration deadline
    | cancelAndDrain operation deadline =>
        exact branch₂ kindCancelAndDrain (readU64_reads.record₂ readU64_reads _) (fun _ _ => rfl)
          (fun _ _ => rfl) operation deadline
    | releaseAllAndExit deadline =>
        exact branch₁ kindReleaseAllAndExit (readU64_reads.record₁ _) (fun _ => rfl)
          (fun _ => rfl) deadline
  | response response =>
    cases response with
    | ready session epoch epochWindow epochNonce =>
        exact branch₄ kindReady
          ((readArray_reads 16).record₄ (readArray_reads 16) readU32_reads (readArray_reads 16) _)
          (fun _ _ _ _ => rfl) (fun _ _ _ _ => rfl) session epoch epochWindow epochNonce
    | prepared operation token =>
        exact branch₂ kindPrepared (readU64_reads.record₂ decodeToken_reads _) (fun _ _ => rfl)
          (fun _ _ => rfl) operation token
    | downAck operation tokenId =>
        exact branch₂ kindDownAck (readU64_reads.record₂ readU64_reads _) (fun _ _ => rfl)
          (fun _ _ => rfl) operation tokenId
    | upAck operation tokenId =>
        exact branch₂ kindUpAck (readU64_reads.record₂ readU64_reads _) (fun _ _ => rfl)
          (fun _ _ => rfl) operation tokenId
    | syncAck operation tokenId =>
        exact branch₂ kindSyncAck (readU64_reads.record₂ readU64_reads _) (fun _ _ => rfl)
          (fun _ _ => rfl) operation tokenId
    | transferAck operation tokenId =>
        exact branch₂ kindTransferAck (readU64_reads.record₂ readU64_reads _) (fun _ _ => rfl)
          (fun _ _ => rfl) operation tokenId
    | releaseCommitAck sequence tokenId =>
        exact branch₂ kindReleaseCommitAck (readU64_reads.record₂ readU64_reads _) (fun _ _ => rfl)
          (fun _ _ => rfl) sequence tokenId
    | drained operation proof =>
        exact branch₂ kindDrained
          (readU64_reads.record₂ decodeTerminalProof_reads _) (fun _ _ => rfl)
          (fun _ _ => rfl) operation proof
    | stopped proof =>
        exact branch₁ kindStopped (decodeTerminalProof_reads.record₁ _) (fun _ => rfl)
          (fun _ => rfl) proof
    | fatal code =>
        exact branch₁ kindFatal (decodeFatalCode_reads.record₁ _) (fun _ => rfl)
          (fun _ => rfl) code

/-- A kind of no message is refused. -/
theorem decodeMessage_unknown {kind : UInt8} (hnone : ∀ message : Message, message.kind ≠ kind) :
    decodeMessage kind = throw (protocolError "XTEST guardian message kind is unknown") := by
  have hzero : Vector UInt8 16 := .replicate 16 0
  have htoken : PreparedToken := ⟨hzero, hzero, 0, 0, 0⟩
  unfold decodeMessage
  rw [if_neg fun h : kind = kindHello => hnone (.request (.hello hzero 0)) h.symm]
  rw [if_neg fun h : kind = kindPrepareKey => hnone (.request (.prepareKey 0 0 0)) h.symm]
  rw [if_neg fun h : kind = kindExecuteDown => hnone (.request (.executeDown 0 htoken 0)) h.symm]
  rw [if_neg fun h : kind = kindKeyUp => hnone (.request (.keyUp 0 htoken (.mutation 0))) h.symm]
  rw [if_neg fun h : kind = kindSynchronize =>
    hnone (.request (.synchronize 0 0 (.mutation 0))) h.symm]
  rw [if_neg fun h : kind = kindTransferToPhysicalDebt =>
    hnone (.request (.transferToPhysicalDebt 0 htoken 0 0)) h.symm]
  rw [if_neg fun h : kind = kindPhysicalReleaseCommitted =>
    hnone (.request (.physicalReleaseCommitted 0 htoken 0 0)) h.symm]
  rw [if_neg fun h : kind = kindCancelAndDrain => hnone (.request (.cancelAndDrain 0 0)) h.symm]
  rw [if_neg fun h : kind = kindReleaseAllAndExit => hnone (.request (.releaseAllAndExit 0)) h.symm]
  rw [if_neg fun h : kind = kindReady => hnone (.response (.ready hzero hzero 0 hzero)) h.symm]
  rw [if_neg fun h : kind = kindPrepared => hnone (.response (.prepared 0 htoken)) h.symm]
  rw [if_neg fun h : kind = kindDownAck => hnone (.response (.downAck 0 0)) h.symm]
  rw [if_neg fun h : kind = kindUpAck => hnone (.response (.upAck 0 0)) h.symm]
  rw [if_neg fun h : kind = kindSyncAck => hnone (.response (.syncAck 0 0)) h.symm]
  rw [if_neg fun h : kind = kindTransferAck => hnone (.response (.transferAck 0 0)) h.symm]
  rw [if_neg fun h : kind = kindReleaseCommitAck =>
    hnone (.response (.releaseCommitAck 0 0)) h.symm]
  rw [if_neg fun h : kind = kindDrained => hnone (.response (.drained 0 .reconciled)) h.symm]
  rw [if_neg fun h : kind = kindStopped => hnone (.response (.stopped .reconciled)) h.symm]
  rw [if_neg fun h : kind = kindFatal => hnone (.response (.fatal .unreconciled)) h.symm]

theorem decodeMessage_reads (kind : UInt8) :
    Reads Decoder.Within Decoder.remaining (decodeMessage kind) fun message bytes =>
      message.kind = kind ∧ bytes = message.payload := by
  by_cases hsome : ∃ message : Message, message.kind = kind
  · obtain ⟨representative, hrepresentative⟩ := hsome
    subst hrepresentative
    constructor
    · intro decoder message bytes after hwithin hform hrest
      obtain ⟨hkind, hbytes⟩ := hform
      subst hbytes
      obtain ⟨form, hreads, hself, -⟩ := decodeMessage_branch message
      rw [← hkind]
      exact hreads.complete decoder message _ after hwithin hself hrest
    · intro decoder message decoder' hwithin hrun
      obtain ⟨form, hreads, -, hother⟩ := decodeMessage_branch representative
      obtain ⟨hwithin', bytes, hform, hrest⟩ := hreads.sound decoder message decoder' hwithin hrun
      exact ⟨hwithin', bytes, hother message bytes hform, hrest⟩
  · have hnone : ∀ message : Message, message.kind ≠ kind := fun message hkind =>
      hsome ⟨message, hkind⟩
    rw [decodeMessage_unknown hnone]
    apply (Reads.throw _).congr
    intro message bytes
    exact ⟨False.elim, fun hform => hnone message hform.1⟩

/-! ## Frames -/

/-- A reader followed by the check that nothing is left reads exactly the whole input. -/
theorem finished_iff {α : Type} {program : DecodeM α} {form : α → List UInt8 → Prop}
    (h : Reads Decoder.Within Decoder.remaining program form) {bytes : List UInt8} {value : α}
    (hlength : bytes.length < 2 ^ 64) :
    (outcome (do let value ← program; finishDecoder; pure value) ({ bytes := bytes } : Decoder)).1
      = .ok value ↔ form value bytes := by
  have hwithin : Decoder.Within { bytes := bytes } := ⟨Nat.zero_le _, hlength⟩
  constructor
  · intro hrun
    rw [outcome_bind] at hrun
    cases hprogram : outcome program ({ bytes := bytes } : Decoder) with
    | mk answer decoder =>
        rw [hprogram] at hrun
        cases answer with
        | error error => cases hrun
        | ok read =>
            obtain ⟨hwithin', consumed, hform, hrest⟩ := h.sound _ read decoder hwithin hprogram
            simp only [outcome_bind] at hrun
            by_cases hend : decoder.offset = decoder.bytes.length
            · have hfinish : outcome finishDecoder decoder = (.ok (), decoder) := if_pos hend
              rw [hfinish] at hrun
              cases hrun
              have hnothing : decoder.remaining = [] := by
                unfold Decoder.remaining
                rw [hend, List.drop_length]
              rw [hnothing, List.append_nil] at hrest
              have hall : bytes = consumed := hrest
              rwa [hall]
            · have hfinish : outcome finishDecoder decoder = (.error _, decoder) := if_neg hend
              rw [hfinish] at hrun
              cases hrun
  · intro hform
    obtain ⟨decoder, hprogram, hwithin', hrest⟩ :=
      h.complete { bytes := bytes } value bytes [] hwithin hform (by simp [Decoder.remaining])
    have hend : decoder.offset = decoder.bytes.length := by
      have hdropped := congrArg List.length hrest
      simp only [Decoder.remaining, List.length_drop, List.length_nil] at hdropped
      have hle := hwithin'.offset_le
      omega
    have hfinish : outcome finishDecoder decoder = (.ok (), decoder) := if_pos hend
    rw [outcome_bind, hprogram]
    simp only [outcome_bind, hfinish]
    rfl

theorem decodeHeaderFields_reads :
    ReadsAs decodeHeaderFields fun header =>
      headerOf header.kind header.payloadLen header.sequence := by
  have hfields := (readArray_reads 4).field fun found : Vector UInt8 4 =>
    Reads.guard (p := found.toList ≠ magic)
      (protocolError "XTEST guardian frame magic is invalid")
      (readU16_reads.field fun version : UInt16 =>
        Reads.guard (p := version ≠ protocolVersion)
          (protocolError "XTEST guardian protocol version is unsupported")
          (readU8_reads.record₃ readU16_reads readU64_reads Header.mk))
  apply hfields.congr
  intro header bytes
  constructor
  · intro hform
    obtain ⟨found, tail, ⟨hmagic, version, tail', ⟨hversion, kind, payloadLen, sequence, hheader,
      htail'⟩, htail⟩, hbytes⟩ := hform
    rw [hbytes, htail, htail', not_not.mp hmagic, not_not.mp hversion, hheader]
    rfl
  · intro hbytes
    exact ⟨#v[79, 83, 88, 71], _, ⟨by decide, protocolVersion, _, ⟨by decide, header.kind,
      header.payloadLen, header.sequence, rfl, rfl⟩, rfl⟩, hbytes⟩

/-- A frame is accepted exactly as the header and the payload of its message. -/
theorem decodeFrame_iff (frame : List UInt8) (decoded : DecodedFrame) :
    decodeFrame frame = .ok decoded ↔
      decoded.sequence ≠ 0 ∧
        frame = headerOf decoded.message.kind (UInt16.ofNat decoded.message.payload.length)
          decoded.sequence ++ decoded.message.payload := by
  constructor
  · intro hdecoded
    unfold decodeFrame at hdecoded
    by_cases hlong : frame.length > maxFrameBytes
    · rw [if_pos hlong] at hdecoded
      cases hdecoded
    rw [if_neg hlong] at hdecoded
    by_cases hshort : frame.length < headerBytes
    · rw [if_pos hshort] at hdecoded
      cases hdecoded
    rw [if_neg hshort] at hdecoded
    have hsmall : frame.length < 2 ^ 64 := by
      unfold maxFrameBytes at hlong
      omega
    obtain ⟨header, hheader, hdecoded⟩ := bind_eq_ok.mp hdecoded
    have hhead := (finished_iff decodeHeaderFields_reads
      (by rw [List.length_take]; omega)).mp hheader
    by_cases hzero : header.sequence = 0
    · rw [if_pos hzero] at hdecoded
      cases hdecoded
    rw [if_neg hzero] at hdecoded
    by_cases hmismatch : headerBytes + header.payloadLen.toNat ≠ frame.length
    · rw [if_pos hmismatch] at hdecoded
      cases hdecoded
    rw [if_neg hmismatch] at hdecoded
    obtain ⟨message, hmessage, hdecoded⟩ := bind_eq_ok.mp hdecoded
    obtain ⟨hkind, hpayload⟩ := (finished_iff (decodeMessage_reads header.kind)
      (by rw [List.length_drop]; omega)).mp hmessage
    cases hdecoded
    have hlength : message.payload.length = header.payloadLen.toNat := by
      rw [← hpayload, List.length_drop]
      omega
    have hword : UInt16.ofNat message.payload.length = header.payloadLen := by
      rw [hlength]
      simp
    refine ⟨hzero, ?_⟩
    calc
      frame = frame.take headerBytes ++ frame.drop headerBytes := (List.take_append_drop _ _).symm
      _ = _ := by rw [hhead, hpayload, hword, hkind]
  · intro hform
    obtain ⟨hzero, hframe⟩ := hform
    have hpayload := length_payload decoded.message
    have hword : (UInt16.ofNat decoded.message.payload.length).toNat
        = decoded.message.payload.length := by
      rw [UInt16.toNat_ofNat']
      omega
    have hlength : frame.length = headerBytes + decoded.message.payload.length := by
      rw [hframe, List.length_append, length_headerOf]
    have htake : frame.take headerBytes = headerOf decoded.message.kind
        (UInt16.ofNat decoded.message.payload.length) decoded.sequence := by
      rw [hframe, List.take_left' (length_headerOf _ _ _)]
    have hdrop : frame.drop headerBytes = decoded.message.payload := by
      rw [hframe, List.drop_left' (length_headerOf _ _ _)]
    have hheader : (outcome decodeHeader { bytes := frame.take headerBytes }).1
        = .ok ⟨decoded.message.kind, UInt16.ofNat decoded.message.payload.length,
            decoded.sequence⟩ := by
      apply (finished_iff decodeHeaderFields_reads _).mpr htake
      rw [htake, length_headerOf]
      decide
    have hmessage : (outcome (decodePayload decoded.message.kind)
        { bytes := frame.drop headerBytes }).1 = .ok decoded.message := by
      apply (finished_iff (decodeMessage_reads decoded.message.kind) _).mpr ⟨rfl, hdrop⟩
      rw [hdrop]
      omega
    have hshort : ¬ frame.length > maxFrameBytes := by
      unfold maxFrameBytes
      unfold headerBytes at hlength
      omega
    have hlong : ¬ frame.length < headerBytes := by omega
    have hmatch : ¬ headerBytes + (UInt16.ofNat decoded.message.payload.length).toNat
        ≠ frame.length := by omega
    unfold decodeFrame
    rw [if_neg hshort, if_neg hlong]
    apply bind_eq_ok.mpr
    refine ⟨_, hheader, ?_⟩
    rw [if_neg hzero, if_neg hmatch]
    exact bind_eq_ok.mpr ⟨_, hmessage, rfl⟩

/-- Every message of a nonzero sequence has one frame, within the limit, and a byte
string is accepted only as the frame of what it decodes to. -/
theorem guardian_wire_codec :
    (∀ (sequence : Sequence) (message : Message), sequence ≠ 0 →
      ∃ frame, encodeFrame sequence message = .ok frame ∧ frame.length ≤ maxFrameBytes ∧
        decodeFrame frame = .ok ⟨sequence, message⟩) ∧
    (∀ (frame : List UInt8) (decoded : DecodedFrame), decodeFrame frame = .ok decoded →
      encodeFrame decoded.sequence decoded.message = .ok frame) := by
  constructor
  · intro sequence message hsequence
    refine ⟨_, encodeFrame_eq hsequence message, ?_, ?_⟩
    · have hpayload := length_payload message
      rw [List.length_append, length_headerOf]
      unfold headerBytes maxFrameBytes
      omega
    · exact (decodeFrame_iff _ _).mpr ⟨hsequence, rfl⟩
  · intro frame decoded hdecoded
    obtain ⟨hsequence, hframe⟩ := (decodeFrame_iff _ _).mp hdecoded
    rw [encodeFrame_eq hsequence, hframe]

end OpenSwitcher.Guardian
