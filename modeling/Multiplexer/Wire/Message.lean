import Mathlib.Algebra.Order.Ring.Nat
import Mathlib.Data.Nat.Log

/-! The messages of the protocol, by what their bytes decode to. A byte string is
its length and the one reading the client makes of it, so that measuring never
reads inside and decoding what was encoded gives it back. -/

set_option autoImplicit false

namespace Multiplexer

abbrev Instant := Nat

abbrev Duration := Nat

/-! The message types and the peer type the client itself knows. -/

namespace types

def PING : Nat := 1
def CONNECTION_WELCOME : Nat := 2
def BACKEND_FOR_PACKET_SEARCH : Nat := 3
def HEARTBIT : Nat := 4
def DELIVERY_ERROR : Nat := 5
def RECORDING_STATUS : Nat := 7
def RULES_STATUS : Nat := 10
def PEER_CONTROL : Nat := 11
def PEER_STATUS : Nat := 12
def CONFIRMATION : Nat := 13
def MAX_MULTIPLEXER_META_PACKET : Nat := 99
def REQUEST_RECEIVED : Nat := 113
def BACKEND_ERROR : Nat := 114

end types

namespace peers

def MULTIPLEXER : Nat := 1

end peers

/-! The limits and times of `defaults.rs`. -/

def DEFAULT_INCOMING_QUEUE_MAX_SIZE : Nat := 1024
def FORCED_FRAMES_PAST_FULL_QUEUE : Nat := 64
def AUTO_RECONNECT_TIME : Duration := 3000
def CONNECT_ATTEMPT_SECONDS : Duration := 5000
def DEFAULT_TIMEOUT : Duration := 10000
def ROOM_GRACE_SECONDS : Duration := 10
def MAX_MESSAGE_SIZE : Nat := 134217728
def MAX_KEY_SIZE : Nat := 256
def MAX_KEY_PATTERN_SIZE : Nat := 1024
def DEFAULT_BATCH_MAX_RECORDS : Nat := 1000
def DEFAULT_BATCH_MAX_BYTES : Nat := 1048576
def MAX_BATCH_RECORDS : Nat := 1024
def DEFAULT_RETRY_AFTER : Duration := 5000
def CONFIRMATIONS_GATHERED_MAX : Nat := 256
def HEARTBIT_INTERVAL : Duration := 3000
def CLOSE_READ_SECONDS : Duration := 1000
def NO_HEARTBIT_SO_PREPARE_DROP_INTERVAL : Duration := 30000
def NO_HEARTBIT_SO_REALLY_DROP_INTERVAL : Duration := 60000

/-- The longest a timeout stands for; longer is no deadline at all. -/
def MAX_TIMEOUT : Duration := 1000000000000

/-- When something given `timeout` stops waiting: never for no timeout or one
past `MAX_TIMEOUT`, at once for a zero one. -/
def deadlineAfter (now : Instant) (timeout : Option Duration) : Option Instant :=
  match timeout with
  | some timeout => if timeout ≤ MAX_TIMEOUT then some (now + timeout) else none
  | none => none

structure Routing where
  any : Option Bool := none
  all : Option Bool := none
  lastResort : Option Bool := none
deriving DecidableEq, Repr

structure KeyFilter where
  type : Nat
  pattern : List String
deriving DecidableEq, Repr

structure WelcomeMessage where
  type : Nat
  id : Nat
  routing : Option Routing := none
  keyFilter : List KeyFilter := []
deriving DecidableEq, Repr

structure PeerControl where
  routing : Routing
  keyFilter : List KeyFilter
deriving DecidableEq, Repr

structure PeerStatus where
  multiplexerId : Option Nat := none
  routing : Option Routing := none
  error : Option String := none
  keyFilter : List KeyFilter := []
deriving DecidableEq, Repr

/-- What became of numbered messages, each list as (first, count) pairs. -/
structure Confirmation where
  processed : List Nat := []
  refused : List Nat := []
  failed : List Nat := []
deriving DecidableEq, Repr

/-- The bytes of one message inside a batch, and the message they decode to. -/
structure Body (Message : Type) where
  length : Nat
  message : Option Message

/-- The bytes of a `MessageBatch`, and the bodies they decode to. -/
structure BatchBytes (Message : Type) where
  length : Nat
  message : Option (List (Body Message))

structure DeliveryErrorOf (Message : Type) where
  packetId : Nat
  failedType : List Nat := []
  failedTo : Option Nat := none
  isKnownType : Option Bool := none
  originalMessage : Option Message := none
  originalMessageOmitted : Option Bool := none

inductive Content (Message : Type) where
  | uninterpreted
  | welcome (welcome : WelcomeMessage)
  | peerControl (control : PeerControl)
  | peerStatus (status : PeerStatus)
  | search (packetType : Nat)
  | confirmation (confirmation : Confirmation)
  | deliveryError (error : DeliveryErrorOf Message)

structure Payload (Message : Type) where
  length : Nat
  content : Content Message

/-- `MultiplexerMessage`. A routing rule that overrides the multiplexer's own is
only counted and measured here, so it stands as its encoded length. -/
structure Message where
  id : Option Nat := none
  sender : Option Nat := none
  toId : Option Nat := none
  reportDeliveryError : Option Bool := none
  includeOriginalPacketInReport : Option Bool := none
  type : Nat := 0
  message : Option (Payload Message) := none
  compression : Option Nat := none
  timestamp : Option Nat := none
  references : Option Nat := none
  workflow : Option String := none
  overrideRrules : List Nat := []
  loggingMethod : Option Nat := none
  key : Option String := none
  batch : Option (BatchBytes Message) := none
  confirm : List Nat := []
  confirmation : Option Nat := none

abbrev DeliveryError := DeliveryErrorOf Message

/-! Sizes on the wire. -/

def varintLen (value : Nat) : Nat := Nat.log2 value / 7 + 1

theorem varintLen_mono {value largest : Nat} (le : value ≤ largest) :
    varintLen value ≤ varintLen largest := by
  simp only [varintLen, Nat.log2_eq_log_two]
  exact Nat.add_le_add_right (Nat.div_le_div_right (Nat.log_mono_right le)) 1

theorem varintLen_le_ten {value : Nat} (small : value < 2 ^ 70) : varintLen value ≤ 10 :=
  (varintLen_mono (Nat.le_pred_of_lt small)).trans (by decide)

/-- The bytes of an optional varint field whose key has `keyLen` bytes. -/
def varintField (keyLen : Nat) (value : Option Nat) : Nat :=
  value.elim 0 fun value => keyLen + varintLen value

/-- The bytes of an optional field of `length` bytes behind their own length. -/
def bytesField (keyLen : Nat) (length : Option Nat) : Nat :=
  length.elim 0 fun length => keyLen + varintLen length + length

/-- The bytes of a packed list of varints, none when it is empty. -/
def packedField (keyLen : Nat) (values : List Nat) : Nat :=
  if values.isEmpty then 0 else bytesField keyLen (some (values.map varintLen).sum)

def Routing.encodedLen (routing : Routing) : Nat :=
  ([routing.any, routing.all, routing.lastResort].map fun flag => flag.elim 0 fun _ => 2).sum

def KeyFilter.encodedLen (filter : KeyFilter) : Nat :=
  varintField 1 (some filter.type) +
    (filter.pattern.map fun pattern => bytesField 1 (some pattern.utf8ByteSize)).sum

def WelcomeMessage.encodedLen (welcome : WelcomeMessage) : Nat :=
  varintField 1 (some welcome.type) + varintField 1 (some welcome.id) +
    bytesField 1 (welcome.routing.map Routing.encodedLen) +
    (welcome.keyFilter.map fun filter => bytesField 1 (some filter.encodedLen)).sum

def PeerControl.encodedLen (control : PeerControl) : Nat :=
  bytesField 1 (some control.routing.encodedLen) +
    (control.keyFilter.map fun filter => bytesField 1 (some filter.encodedLen)).sum

def Confirmation.encodedLen (confirmation : Confirmation) : Nat :=
  packedField 1 confirmation.processed + packedField 1 confirmation.refused +
    packedField 1 confirmation.failed

def batchEncodedLen (lengths : List Nat) : Nat :=
  (lengths.map fun length => bytesField 1 (some length)).sum

/-- `encoded_len`: fields up to tag 15 have a key of one byte, later ones of two. -/
def Message.encodedLen (message : Message) : Nat :=
  varintField 1 message.id + varintField 1 message.sender + varintField 1 message.toId +
    varintField 2 (message.reportDeliveryError.map Bool.toNat) +
    varintField 2 (message.includeOriginalPacketInReport.map Bool.toNat) +
    varintField 1 (some message.type) + bytesField 1 (message.message.map Payload.length) +
    varintField 2 message.compression + varintField 1 message.timestamp +
    varintField 1 message.references + bytesField 1 (message.workflow.map String.utf8ByteSize) +
    (message.overrideRrules.map fun length => bytesField 2 (some length)).sum +
    varintField 2 message.loggingMethod + bytesField 1 (message.key.map String.utf8ByteSize) +
    bytesField 1 (message.batch.map BatchBytes.length) + packedField 1 message.confirm +
    varintField 1 message.confirmation

def DeliveryErrorOf.encodedLen (error : DeliveryError) : Nat :=
  varintField 1 (some error.packetId) +
    (error.failedType.map fun type => varintField 1 (some type)).sum +
    varintField 1 error.failedTo + varintField 1 (error.isKnownType.map Bool.toNat) +
    bytesField 2 (error.originalMessage.map Message.encodedLen) +
    varintField 2 (error.originalMessageOmitted.map Bool.toNat)

def WelcomeMessage.payload (welcome : WelcomeMessage) : Payload Message :=
  ⟨welcome.encodedLen, .welcome welcome⟩

def PeerControl.payload (control : PeerControl) : Payload Message :=
  ⟨control.encodedLen, .peerControl control⟩

def Confirmation.payload (confirmation : Confirmation) : Payload Message :=
  ⟨confirmation.encodedLen, .confirmation confirmation⟩

def DeliveryErrorOf.payload (error : DeliveryError) : Payload Message :=
  ⟨error.encodedLen, .deliveryError error⟩

def searchPayload (packetType : Nat) : Payload Message :=
  ⟨varintField 1 (some packetType), .search packetType⟩

/-! A frame: a header of `HEADER_LENGTH` bytes, then the message. -/

def HEADER_LENGTH : Nat := 8

structure FrameBytes where
  length : Nat
  message : Message

/-- `frame::encode`: the frame of a message whose key and size are within the
limits, nothing for any other. -/
def encode (message : Message) : Option FrameBytes :=
  if (message.key.map String.utf8ByteSize).getD 0 > MAX_KEY_SIZE then none
  else if message.encodedLen > MAX_MESSAGE_SIZE then none
  else some ⟨HEADER_LENGTH + message.encodedLen, message⟩

end Multiplexer
