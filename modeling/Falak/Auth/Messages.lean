import Falak.Phonebook.Book
import Falak.Wire.Envelope

/-!
The messages of the join handshake, the bytes that are signed for them, and what the authenticator
takes from libraries.

Public keys and certificates are parameters: the first belong to the network library, the second to
the certificate providers.
-/

namespace Falak.Auth

open Phonebook (Book Capabilities)

structure JoinRequest where
  nodeID : String
  clusterPath : String
  addresses : List String
  capabilities : Option Capabilities
  nonce : Bytes
  publicKey : Bytes
  deriving DecidableEq

structure ChallengeResponse where
  response : Bytes
  signature : Bytes
  deriving DecidableEq

structure MemberInfo where
  nodeID : String
  addresses : List String
  capabilities : Option Capabilities
  joinedAt : Timestamp
  publicKey : Bytes
  deriving DecidableEq

structure AuthComplete (C : Type) where
  fullyAuthenticated : Bool
  clusterMembers : List MemberInfo := []
  nodeCertificate : Option C := none
  deriving DecidableEq

structure NewMemberAnnouncement (C : Type) where
  newNodeID : String
  newNodeAddrs : List String
  capabilities : Option Capabilities
  clusterPath : String
  voucherNodeID : String
  voucherSignature : Bytes
  publicKey : Bytes
  timestamp : Option Timestamp
  certificate : Option C
  deriving DecidableEq

structure MemberAuthConfirmed where
  newNodeID : String
  confirmingNodeID : String
  clusterPath : String
  signature : Bytes
  timestamp : Option Timestamp
  deriving DecidableEq

structure MemberAuthRejected where
  newNodeID : String
  rejectingNodeID : String
  clusterPath : String
  reason : String
  signature : Bytes
  timestamp : Option Timestamp
  deriving DecidableEq

structure AuthMessage where
  type : String
  payload : Bytes
  senderID : String
  timestamp : Option Timestamp
  signature : Option Bytes
  deriving DecidableEq

def asTime (ts : Option Timestamp) : Int := (ts.map Timestamp.asTime).getD 0

structure Crypto (K : Type) where
  unmarshalPublicKey : Bytes → Except String K
  verify : K → Bytes → Bytes → Except String Bool
  hmac : Bytes → Bytes → Bytes
  marshalTime : Int → Bytes

def Crypto.accepts {K : Type} (crypto : Crypto K) (key : K) (data signature : Bytes) : Bool :=
  passed (crypto.verify key data signature)

structure Codec (C : Type) where
  unmarshalMessage : Bytes → Except String AuthMessage
  unmarshalAnnouncement : Bytes → Except String (NewMemberAnnouncement C)
  unmarshalConfirmed : Bytes → Except String MemberAuthConfirmed
  unmarshalRejected : Bytes → Except String MemberAuthRejected

structure Provider (K C : Type) where
  canSign : Bool
  signForNode : String → K → String → Except String C
  verifyNodeCertificate : C → Except String Bool

def writeString (buf : Bytes) (s : String) : Bytes := Wire.appendField buf (utf8 s)

def writeStrings (buf : Bytes) (ss : List String) : Bytes :=
  ss.foldl writeString (buf ++ bigEndian 4 ss.length)

def announcementContent (nodeID clusterPath : String) (addresses : List String)
    (publicKey : Bytes) : Bytes :=
  let buf := writeString [] nodeID
  let buf := writeString buf clusterPath
  let buf := writeStrings buf addresses
  Wire.appendField buf publicKey

section Contents

variable {K : Type} (crypto : Crypto K)

def confirmationContent (clusterPath : String) (c : MemberAuthConfirmed) : Bytes :=
  let buf := writeString [] c.newNodeID
  let buf := writeString buf clusterPath
  Wire.appendField buf (crypto.marshalTime (asTime c.timestamp))

def rejectionContent (clusterPath : String) (r : MemberAuthRejected) : Bytes :=
  let buf := writeString [] r.newNodeID
  let buf := writeString buf clusterPath
  let buf := writeString buf r.reason
  Wire.appendField buf (crypto.marshalTime (asTime r.timestamp))

def authMessageContent (msg : AuthMessage) : Bytes :=
  let buf := writeString [] msg.type
  let buf := Wire.appendField buf msg.payload
  let buf := writeString buf msg.senderID
  match msg.timestamp with
  | some ts => Wire.appendField buf (crypto.marshalTime ts.asTime)
  | none => Wire.appendField buf []

end Contents

structure Authenticator (K C : Type) where
  selfID : String
  crypto : Crypto K
  codec : Codec C
  sign : Bytes → Except String Bytes
  hmacKeys : String → Option Bytes
  isNodeRevoked : String → String → Bool
  providers : String → Option (Provider K C)
  verifyCertificateInAnnouncement : NewMemberAnnouncement C → K → Except String Bool
  rejectAllAuth : Bool

def lookupPublicKey {K : Type} (crypto : Crypto K) (phonebook : Option Book) (fault : Option String)
    (nodeID clusterPath : String) : Except String K :=
  match phonebook, fault with
  | none, _ => .error "phonebook not configured"
  | some _, some err => .error err
  | some book, none =>
    match book.get nodeID clusterPath with
    | none => .error "node not found in phonebook"
    | some row => crypto.unmarshalPublicKey row.publicKey

end Falak.Auth
