import Multiplexer.Server.KeyFilters

/-! The protocol's messages as the server reads and writes them. A payload is its length and the
one reading the server makes of it; fields it only copies stand as the bytes they take. -/

set_option autoImplicit false

namespace Multiplexer.Server

namespace types

def PING : UInt32 := 1
def CONNECTION_WELCOME : UInt32 := 2
def BACKEND_FOR_PACKET_SEARCH : UInt32 := 3
def HEARTBIT : UInt32 := 4
def DELIVERY_ERROR : UInt32 := 5
def RECORDING_CONTROL : UInt32 := 6
def RECORDING_STATUS : UInt32 := 7
def RECORDING_RECORD : UInt32 := 8
def RULES_CONTROL : UInt32 := 9
def RULES_STATUS : UInt32 := 10
def PEER_CONTROL : UInt32 := 11
def PEER_STATUS : UInt32 := 12
def CONFIRMATION : UInt32 := 13
def MAX_MULTIPLEXER_META_PACKET : UInt32 := 99

end types

namespace peers

def MULTIPLEXER : UInt32 := 1
def ALL_TYPES : UInt32 := 2
def RECORDING_CONTROLLER : UInt32 := 3
def RULES_CONTROLLER : UInt32 := 4
def MAX_MULTIPLEXER_SPECIAL_PEER_TYPE : UInt32 := 99

end peers

inductive Whom where
  | all
  | any
deriving DecidableEq, Repr

structure RoutingRule where
  peer? : Option Bytes := none
  peerType? : Option UInt32 := none
  whom? : Option Whom := none
  deliveryErrorIsError? : Option Bool := none
  reportDeliveryError? : Option Bool := none
  includeOriginalPacketInReport? : Option Bool := none
  unknown : Nat := 0
deriving DecidableEq

namespace RoutingRule

def peerType (rule : RoutingRule) : UInt32 := rule.peerType?.getD 0
def whom (rule : RoutingRule) : Whom := rule.whom?.getD .any
def reportDeliveryError (rule : RoutingRule) : Bool := rule.reportDeliveryError?.getD true
def includeOriginalPacketInReport (rule : RoutingRule) : Bool :=
  rule.includeOriginalPacketInReport?.getD false

end RoutingRule

structure Routing where
  any? : Option Bool := none
  all? : Option Bool := none
  lastResort? : Option Bool := none
  unknown : Nat := 0
deriving DecidableEq

namespace Routing

def any (routing : Routing) : Bool := routing.any?.getD true
def all (routing : Routing) : Bool := routing.all?.getD true
def lastResort (routing : Routing) : Bool := routing.lastResort?.getD false

def restricted (routing : Routing) : Bool := !routing.any || !routing.all

def same (first second : Routing) : Bool :=
  first.any == second.any && first.all == second.all && first.lastResort == second.lastResort

end Routing

structure FilterMessage where
  filter : KeyFilter
  unknown : Nat := 0
deriving DecidableEq

def sameKeyFilters (first second : List FilterMessage) : Bool :=
  first.map FilterMessage.filter == second.map FilterMessage.filter

structure WelcomeMessage where
  type : UInt32
  id : UInt64
  routing? : Option Routing := none
  keyFilter : List FilterMessage := []

structure PeerControl where
  routing : Routing
  keyFilter : List FilterMessage := []

structure PeerStatus where
  multiplexerId? : Option UInt64 := none
  routing? : Option Routing := none
  error? : Option Bytes := none
  keyFilter : List FilterMessage := []

inductive RecordingAction where
  | start (label : Bytes)
  | stop
  | status
  | tap
  | untap
deriving DecidableEq

structure RecordingControl where
  action : RecordingAction
  payloadLimit : Nat := 0

structure RecordingStatus where
  error? : Option Bytes := none
  recording : Bool := false
  taps : Nat := 0
  tapping? : Option Bool := none
  dropped? : Option Nat := none

inductive RulesAction where
  | reload
  | status
deriving DecidableEq

structure RulesStatus where
  error? : Option Bytes := none
  reloaded? : Option Bool := none

inductive PeerEventKind where
  | connected
  | disconnected
deriving DecidableEq, Repr

inductive Disposition where
  | delivered
  | noRecipient
  | unknownType
  | noRule
  | queueFull
  | notAccepted
  | keyNotTaken
deriving DecidableEq, Repr

inductive RecordOf (Message : Type) where
  | header
  | peer (kind : PeerEventKind) (peerId : UInt64) (peerType : UInt32)
  | routing (peerId : UInt64) (peerType : UInt32) (routing : Routing)
  | routed (message : Message) (fromPeerType : UInt32) (recipient : UInt64)
      (recipientType : UInt32) (disposition : Disposition) (errorReported : Bool)
  | rules

structure DeliveryErrorOf (Message : Type) where
  packetId : UInt64
  failedType : List UInt32 := []
  failedTo? : Option UInt64 := none
  isKnownType? : Option Bool := none
  originalMessage? : Option Message := none
  originalMessageOmitted? : Option Bool := none

/-- The reading the server makes of a payload, or what it wrote there. -/
inductive Content (Message : Type) where
  | uninterpreted
  | welcome (welcome : WelcomeMessage)
  | search (packetType : UInt32)
  | peerControl (control : PeerControl)
  | recordingControl (control : RecordingControl)
  | rulesControl (action : RulesAction)
  | deliveryError (error : DeliveryErrorOf Message)
  | peerStatus (status : PeerStatus)
  | recordingStatus (status : RecordingStatus)
  | rulesStatus (status : RulesStatus)
  | record (record : RecordOf Message)

structure Payload (Message : Type) where
  length : Nat := 0
  content : Content Message := .uninterpreted

structure Message where
  id? : Option UInt64 := none
  sender? : Option UInt64 := none
  toId? : Option UInt64 := none
  reportDeliveryError? : Option Bool := none
  includeOriginalPacketInReport? : Option Bool := none
  type : UInt32 := 0
  message? : Option (Payload Message) := none
  references? : Option UInt64 := none
  workflow? : Option Bytes := none
  overrideRrules : List RoutingRule := []
  key? : Option Bytes := none
  -- the length of the batch
  batch? : Option Nat := none
  -- the bytes of every other field
  others : Nat := 0

abbrev DeliveryError := DeliveryErrorOf Message
abbrev Record := RecordOf Message

namespace Message

def id (message : Message) : UInt64 := message.id?.getD 0
def sender (message : Message) : UInt64 := message.sender?.getD 0
def toId (message : Message) : UInt64 := message.toId?.getD 0
def reportDeliveryError (message : Message) : Bool := message.reportDeliveryError?.getD false
def includeOriginalPacketInReport (message : Message) : Bool :=
  message.includeOriginalPacketInReport?.getD false
def workflow (message : Message) : Bytes := message.workflow?.getD []
def content (message : Message) : Content Message :=
  (message.message?.getD {}).content

end Message

/-! Sizes on the wire (`ByteSizeLong`). -/

def uint64Field (keyLen : Nat) (value : Option UInt64) : Nat :=
  varintField keyLen (value.map UInt64.toNat)

def uint32Field (keyLen : Nat) (value : Option UInt32) : Nat :=
  varintField keyLen (value.map UInt32.toNat)

def boolField (keyLen : Nat) (value : Option Bool) : Nat :=
  varintField keyLen (value.map Bool.toNat)

def Whom.number : Whom → Nat
  | .all => 1
  | .any => 2

def RoutingRule.encodedLen (rule : RoutingRule) : Nat :=
  bytesField 2 (rule.peer?.map List.length) + uint32Field 1 rule.peerType? +
    varintField 1 (rule.whom?.map Whom.number) + boolField 1 rule.deliveryErrorIsError? +
    boolField 1 rule.reportDeliveryError? + boolField 1 rule.includeOriginalPacketInReport? +
    rule.unknown

def Routing.encodedLen (routing : Routing) : Nat :=
  boolField 1 routing.any? + boolField 1 routing.all? + boolField 1 routing.lastResort? +
    routing.unknown

def FilterMessage.encodedLen (message : FilterMessage) : Nat :=
  varintField 1 (some message.filter.type) +
    (message.filter.pattern.map fun pattern => bytesField 1 (some pattern.length)).sum +
    message.unknown

def WelcomeMessage.encodedLen (welcome : WelcomeMessage) : Nat :=
  uint32Field 1 (some welcome.type) + uint64Field 1 (some welcome.id) +
    bytesField 1 (welcome.routing?.map Routing.encodedLen) +
    (welcome.keyFilter.map fun filter => bytesField 1 (some filter.encodedLen)).sum

def PeerStatus.encodedLen (status : PeerStatus) : Nat :=
  uint64Field 1 status.multiplexerId? + bytesField 1 (status.routing?.map Routing.encodedLen) +
    bytesField 1 (status.error?.map List.length) +
    (status.keyFilter.map fun filter => bytesField 1 (some filter.encodedLen)).sum

def Message.encodedLen (message : Message) : Nat :=
  uint64Field 1 message.id? + uint64Field 1 message.sender? + uint64Field 1 message.toId? +
    boolField 2 message.reportDeliveryError? +
    boolField 2 message.includeOriginalPacketInReport? + uint32Field 1 (some message.type) +
    bytesField 1 (message.message?.map Payload.length) + uint64Field 1 message.references? +
    bytesField 1 (message.workflow?.map List.length) +
    (message.overrideRrules.map fun rule => bytesField 2 (some rule.encodedLen)).sum +
    bytesField 1 (message.key?.map List.length) + bytesField 1 message.batch? + message.others

def DeliveryErrorOf.encodedLen (error : DeliveryError) : Nat :=
  uint64Field 1 (some error.packetId) +
    (error.failedType.map fun type => uint32Field 1 (some type)).sum +
    uint64Field 1 error.failedTo? + boolField 1 error.isKnownType? +
    bytesField 2 (error.originalMessage?.map Message.encodedLen) +
    boolField 2 error.originalMessageOmitted?

def DeliveryErrorOf.payload (error : DeliveryError) : Payload Message :=
  ⟨error.encodedLen, .deliveryError error⟩

def PeerStatus.payload (status : PeerStatus) : Payload Message :=
  ⟨status.encodedLen, .peerStatus status⟩

inductive Frame where
  | received (bytes : Bytes)
  | made (message : Message)

/-- `RawMessage::FromMessage`. -/
def Frame.fromMessage (message : Message) : Option Frame :=
  if (message.key?.getD []).length > MAX_KEY_SIZE then none
  else if message.encodedLen > MAX_MESSAGE_SIZE then none
  else some (.made message)

end Multiplexer.Server
