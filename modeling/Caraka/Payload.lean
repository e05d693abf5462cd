import Caraka.Packet
import Caraka.Foundation.Json
import Caraka.Foundation.Hex

/-! The payloads `packet.rs` and `transport.rs` put into a packet, and the JSON written for them. -/

namespace Caraka

open Foundation

structure DmInnerPayload where
  senderId : String
  recipientId : String
  text : String
  timestamp : UInt64
  sessionId : String
  msgCounter : UInt64
  replyToId : Option String
  replyToText : Option String
  deriving DecidableEq

structure FilePayload where
  senderId : String
  recipientId : String
  transferId : String
  filename : String
  mimeType : String
  fileSize : UInt64
  fileDataB64 : String
  timestamp : UInt64
  sessionId : String
  msgCounter : UInt64
  deriving DecidableEq

structure BroadcastPayload where
  senderId : String
  senderName : String
  text : String
  timestamp : UInt64
  messageId : String
  deriving DecidableEq

def jsonString (name text : String) : Bytes := Json.field name (Json.string text)

def jsonNumber (name : String) (value : UInt64) : Bytes :=
  Json.field name (Json.number value.toNat)

/-- `skip_serializing_if = "Option::is_none"`. -/
def jsonOptional (name : String) (text : Option String) : List Bytes :=
  text.toList.map (jsonString name)

/-- `serde_json::to_vec`: the fields in the order of their declaration. -/
def DmInnerPayload.toVec (payload : DmInnerPayload) : Bytes :=
  Json.object ([
    jsonString "sender_id" payload.senderId,
    jsonString "recipient_id" payload.recipientId,
    jsonString "text" payload.text,
    jsonNumber "timestamp" payload.timestamp,
    jsonString "session_id" payload.sessionId,
    jsonNumber "msg_counter" payload.msgCounter] ++
    jsonOptional "reply_to_id" payload.replyToId ++
    jsonOptional "reply_to_text" payload.replyToText)

def FilePayload.toVec (payload : FilePayload) : Bytes :=
  Json.object [
    jsonString "sender_id" payload.senderId,
    jsonString "recipient_id" payload.recipientId,
    jsonString "transfer_id" payload.transferId,
    jsonString "filename" payload.filename,
    jsonString "mime_type" payload.mimeType,
    jsonNumber "file_size" payload.fileSize,
    jsonString "file_data_b64" payload.fileDataB64,
    jsonNumber "timestamp" payload.timestamp,
    jsonString "session_id" payload.sessionId,
    jsonNumber "msg_counter" payload.msgCounter]

def BroadcastPayload.toVec (payload : BroadcastPayload) : Bytes :=
  Json.object [
    jsonString "sender_id" payload.senderId,
    jsonString "sender_name" payload.senderName,
    jsonString "text" payload.text,
    jsonNumber "timestamp" payload.timestamp,
    jsonString "message_id" payload.messageId]

/-- `json!({"fingerprints": ..}).to_string()` of a `SyncResp`. -/
def fingerprintsJson (fingerprints : List String) : Bytes :=
  Json.object [Json.field "fingerprints" (Json.array (fingerprints.map Json.string))]

/-- `build_hello`, given the four bytes drawn for the packet id. -/
def ClampPacket.buildHello (myNodeId : Octets 32) (displayName : String) (random : Octets 4) :
    ClampPacket where
  header := {
    magic := Caraka.magic
    version := protocolVersion
    packetType := .hello
    ttl := 1
    packetId := generatePacketId myNodeId random }
  hopAuth := { hopCounter := 0, macTag := Octets.zero 16 }
  nonce := Octets.zero 16
  ciphertext := Json.object [jsonString "displayName" displayName,
    jsonString "nodeId" (Hex.encode myNodeId.bytes)]
  aeadTag := Octets.zero 16

/-- `build_broadcast`, given the four bytes drawn for the packet id. -/
def ClampPacket.buildBroadcast (myNodeId : Octets 32) (payload : BroadcastPayload)
    (random : Octets 4) : ClampPacket where
  header := {
    magic := Caraka.magic
    version := protocolVersion
    packetType := .broadcast
    ttl := 5
    packetId := generatePacketId myNodeId random }
  hopAuth := { hopCounter := 0, macTag := Octets.zero 16 }
  nonce := Octets.zero 16
  ciphertext := payload.toVec
  aeadTag := Octets.zero 16

end Caraka
