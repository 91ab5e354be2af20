import KubeSsh.Common.GoString

/-!
# `golang.org/x/crypto/ssh`: the messages of a connection

The library is not part of the repository. Its connections and channels are reached through
operations (`PodSsh.Op`, `SshProxy.Op`) whose answers are left open; its wire format is the
parameter `Codec`, of which only is assumed that decoding is a function of the payload.
-/

namespace KubeSsh.CryptoSsh

/-- `cryptossh.Request`. -/
structure Request where
  type : GoString
  wantReply : Bool
  payload : GoString
deriving DecidableEq

/-- `cryptossh.NewChannel`; the number tells the channels of a connection apart. -/
structure NewChannel where
  id : ℕ
  channelType : GoString
  extraData : GoString
deriving DecidableEq

/-- `cryptossh.RejectionReason`. -/
inductive RejectionReason
  | prohibited
  | connectionFailed
  | unknownChannelType
  | other (code : UInt32)
deriving DecidableEq

/-! ## Payloads -/

/-- The data of a `direct-tcpip` or `forwarded-tcpip` channel. -/
structure ChannelForwardData where
  host : GoString
  port : UInt32
  originHost : GoString
  originPort : UInt32
deriving DecidableEq

/-- The data of a `tcpip-forward` or `cancel-tcpip-forward` request. -/
structure GlobalForwardData where
  host : GoString
  port : UInt32
deriving DecidableEq

/-- The data of a `pty-req` request. -/
structure PTYRequest where
  term : GoString
  width : UInt32
  height : UInt32
  pixelWidth : UInt32
  pixelHeight : UInt32
  modes : GoString

/-- The data of a `window-change` request. -/
structure WindowChangeRequest where
  width : UInt32
  height : UInt32
  pixelWidth : UInt32
  pixelHeight : UInt32

/-- `cryptossh.Unmarshal` and `cryptossh.Marshal` at the message types the gateway uses. -/
structure Codec where
  /-- `struct{ Value string }`, of `exec` and `subsystem` requests. -/
  unmarshalValue : GoString → Except Message GoString
  /-- `struct{ Key, Value string }`. -/
  unmarshalEnv : GoString → Except Message (GoString × GoString)
  unmarshalChannelForward : GoString → Except Message ChannelForwardData
  unmarshalGlobalForward : GoString → Except Message GlobalForwardData
  unmarshalPTY : GoString → Except Message PTYRequest
  unmarshalWindowChange : GoString → Except Message WindowChangeRequest
  /-- A struct of one `uint32`: an exit status or a port. -/
  unmarshalUint32 : GoString → Except Message UInt32
  marshalUint32 : UInt32 → GoString
  marshalChannelForward : ChannelForwardData → GoString

/-- The wire format of the examples: a payload is the one string it carries. -/
def plainCodec : Codec where
  unmarshalValue payload := .ok payload
  unmarshalEnv payload := .ok (payload, [])
  unmarshalChannelForward payload := .ok { host := payload, port := 0, originHost := [], originPort := 0 }
  unmarshalGlobalForward payload := .ok { host := payload, port := 0 }
  unmarshalPTY _ := .error (.text "ssh: unmarshal error")
  unmarshalWindowChange _ := .error (.text "ssh: unmarshal error")
  unmarshalUint32 _ := .error (.text "ssh: unmarshal error")
  marshalUint32 _ := []
  marshalChannelForward data := data.host

/-- Public keys: how an `authorized_keys` line is parsed, and the fingerprint of a key. -/
structure Keys where
  PublicKey : Type
  /-- `cryptossh.ParseAuthorizedKey`: the key, or none if it fails. -/
  parseAuthorizedKey : GoString → Option PublicKey
  /-- `cryptossh.FingerprintSHA256`. -/
  fingerprintSHA256 : PublicKey → GoString

/-- Public keys of the examples: a key is its line, and its own fingerprint. -/
def plainKeys : Keys where
  PublicKey := GoString
  parseAuthorizedKey := some
  fingerprintSHA256 := id

instance : DecidableEq plainKeys.PublicKey := inferInstanceAs (DecidableEq GoString)

end KubeSsh.CryptoSsh
