import IntelAmt.Foundation.Digests
import IntelAmt.Foundation.Streams
import IntelAmt.Foundation.Text
import IntelAmt.Tls

/-!
# The redirection session

`redirection.py`: the connection to the redirection port, the check of the
pinned certificate, the start of the session and the digest authentication.
The buffer of the session is passed from step to step.
-/

namespace IntelAmt
namespace Redirection

open Foundation

/-!
## Operations
-/

/-- `socket.create_connection`. -/
inductive Connecting where
  | connected
  | timeout
  | failed (reason : String)

/-- `SSLContext.wrap_socket`: only an `SSLError` is looked for. -/
inductive Wrapping where
  | wrapped
  | sslError (reason : String)
  | failed

/-- `recv`; a peer that has closed is heard as no bytes. -/
inductive Receiving where
  | data (chunk : Bytes)
  | timeout
  | failed (reason : String)

inductive Sending where
  | sent
  | timeout
  | failed (reason : String)

inductive SocketOp where
  | createConnection (host : String) (port : Int) (timeout : Rat)
  | wrapSocket (host : String)
  | close
  | getPeerCert
  | sendAll (frame : Bytes)
  | recv (size : Nat)
  | tokenHex (size : Nat)

@[reducible] def SocketAnswer : SocketOp -> Type
  | SocketOp.createConnection _ _ _ => Connecting
  | SocketOp.wrapSocket _ => Wrapping
  | SocketOp.close => Unit
  | SocketOp.getPeerCert => Option Bytes
  | SocketOp.sendAll _ => Sending
  | SocketOp.recv _ => Receiving
  | SocketOp.tokenHex _ => List Char

/-- The exceptions that are not of the collection. -/
inductive Uncaught where
  | index
  | unicodeDecode
  | os
deriving DecidableEq, Repr

inductive Failure where
  | amt (error : AmtError)
  | other (e : Uncaught)

abbrev SocketScript (alpha : Type) : Type :=
  Script SocketOp SocketAnswer Failure alpha

/-- A step of a session with its buffer. -/
abbrev SessionM (alpha : Type) : Type :=
  Buffered UInt8 SocketOp SocketAnswer Failure alpha

def raiseAmt {alpha : Type} (error : AmtError) : SessionM alpha :=
  Buffered.raised (Failure.amt error)

def ofExcept {alpha : Type} : Except Failure alpha -> SessionM alpha
  | Except.ok a => Buffered.returned a
  | Except.error e => Buffered.raised e

/-!
## The session object
-/

/-- `hashlib.md5` and `hashlib.sha256`. -/
structure Hashes where
  md5 : Bytes -> Bytes
  sha256 : Bytes -> Bytes
  md5_length : forall bytes, (md5 bytes).length = 16

def hashlib : Hashes where
  md5 := md5
  sha256 := sha256
  md5_length := md5_length

structure RedirectionSession where
  host : String
  username : String
  password : String
  useTls : Bool
  tlsPinSha256 : Option (List Char)
  port : Int
  connectTimeout : Rat
  startFrame : Bytes

def redirectionPortPlain : Int := 16994

def redirectionPortTls : Int := 16995

/-- `tls_pin_sha256.lower().replace(":", "") if tls_pin_sha256 else None`. -/
def loweredPin (pin : Option String) : Option (List Char) :=
  (pin.filter fun text => text ≠ "").map fun text =>
    (Tls.lower text.toList).filter fun c => c ≠ ':'

/-- `__init__`. -/
def RedirectionSession.create (host username password : String)
    (useTls : Bool) (tlsPinSha256 : Option String) (port : Option Int)
    (connectTimeout : Rat) (startFrame : Bytes) : RedirectionSession where
  host := host
  username := username
  password := password
  useTls := useTls
  tlsPinSha256 := loweredPin tlsPinSha256
  port :=
    port.getD (if useTls then redirectionPortTls else redirectionPortPlain)
  connectTimeout := connectTimeout
  startFrame := startFrame

def RedirectionSession.endpoint (session : RedirectionSession) : String :=
  session.host ++ ":" ++ toString session.port

def startSessionIder : Bytes := [0x10, 0, 0, 0, 0x49, 0x44, 0x45, 0x52]

def authTypeQuery : Bytes := [0x13, 0, 0, 0, 0, 0, 0, 0, 0]

def authUri : List Char := "/RedirectionService".toList

def snc : List Char := "00000002".toList

def requiredAuthType : UInt8 := 4

def insecureAuthTypes : List UInt8 := [1, 3]

def recvChunk : Nat := 4096

def hexDigits : List Char := "0123456789abcdef".toList

def hexdigest (bytes : Bytes) : List Char :=
  bytes.flatMap fun b =>
    [hexDigits.getD (b.toNat / 16) '0', hexDigits.getD (b.toNat % 16) '0']

/-- The `#x` of an f-string. -/
def shownHex (b : UInt8) : String :=
  "0x" ++ String.ofList (Nat.toDigits 16 b.toNat)

/-- `_length_prefixed`. -/
def lengthPrefixed (value : Bytes) : Except Failure Bytes :=
  if 0xFF < value.length then
    Except.error
      (Failure.amt
        { errorClass := ErrorClass.protocol
          message := "value of length " ++ toString value.length ++
            " cannot be length-prefixed with a single byte" })
  else Except.ok (UInt8.ofNat value.length :: value)

section Session

variable (hashes : Hashes) (session : RedirectionSession)

def failure (errorClass : ErrorClass) (message : String) : AmtError where
  errorClass := errorClass
  message := message
  endpoint := some session.endpoint

/-- `_md5_hex`. -/
def md5Hex (value : List Char) : List Char :=
  hexdigest (hashes.md5 (encodeUtf8 value))

/-!
## The socket
-/

def raiseFailure {alpha : Type} (errorClass : ErrorClass) (message : String) :
    SocketScript alpha :=
  Script.raised (Failure.amt (failure session errorClass message))

/-- `_default_socket_factory`. -/
def socketFactory : SocketScript Unit := do
  let connecting ← Script.ask
    (SocketOp.createConnection session.host session.port
      session.connectTimeout)
  match connecting with
  | Connecting.timeout =>
      raiseFailure session ErrorClass.timeout
        ("connection to " ++ session.endpoint ++ " timed out")
  | Connecting.failed reason =>
      raiseFailure session ErrorClass.connection
        ("failed to connect to " ++ session.endpoint ++ ": " ++ reason)
  | Connecting.connected =>
      if session.useTls then do
        let wrapping ← Script.ask (SocketOp.wrapSocket session.host)
        match wrapping with
        | Wrapping.wrapped => pure ()
        | Wrapping.sslError reason => do
            Script.ask SocketOp.close
            raiseFailure session ErrorClass.tlsValidation
              ("TLS handshake with " ++ session.endpoint ++ " failed: " ++
                reason)
        | Wrapping.failed => Script.raised (Failure.other Uncaught.os)
      else pure ()

def pinMismatch (pin actual : List Char) : String :=
  "TLS peer certificate fingerprint mismatch: expected " ++
    String.ofList pin ++ ", got " ++ String.ofList actual

/-- `_verify_tls_pin`. -/
def verifyTlsPin (pin : List Char) : SocketScript Unit := do
  let der ← Script.ask SocketOp.getPeerCert
  match der.filter fun bytes => bytes ≠ [] with
  | none =>
      raiseFailure session ErrorClass.tlsValidation
        "TLS handshake completed but no peer certificate was presented"
  | some bytes =>
      let actual := hexdigest (hashes.sha256 bytes)
      if actual ≠ pin then
        raiseFailure session ErrorClass.tlsValidation (pinMismatch pin actual)
      else pure ()

/-- What `connect` does before the first byte of the protocol. -/
def openSocket : SocketScript Unit := do
  socketFactory session
  match session.tlsPinSha256 with
  | some pin =>
      if session.useTls && pin ≠ [] then verifyTlsPin hashes session pin
      else pure ()
  | none => pure ()

/-- `_send`. -/
def send (frame : Bytes) : SessionM Unit :=
  Buffered.lift do
    let sending ← Script.ask (SocketOp.sendAll frame)
    match sending with
    | Sending.sent => pure ()
    | Sending.timeout =>
        Script.raised
          (Failure.amt
            { failure session ErrorClass.timeout
                ("sending to " ++ session.endpoint ++ " timed out") with
              indeterminate := true })
    | Sending.failed reason =>
        raiseFailure session ErrorClass.connection
          ("failed sending to " ++ session.endpoint ++ ": " ++ reason)

/-- One `recv` of `_fill`. -/
def receive : Receiving -> Except AmtError Bytes
  | Receiving.timeout =>
      Except.error
        (failure session ErrorClass.timeout
          ("timed out waiting for data from " ++ session.endpoint))
  | Receiving.failed reason =>
      Except.error
        (failure session ErrorClass.connection
          ("connection to " ++ session.endpoint ++ " failed: " ++ reason))
  | Receiving.data [] =>
      Except.error
        (failure session ErrorClass.connection
          ("connection to " ++ session.endpoint ++ " closed unexpectedly"))
  | Receiving.data chunk => Except.ok chunk

/-- The loop of `_fill`.  Every chunk has a byte at least, so that as many
rounds as bytes are missing are enough. -/
def fillUpTo (minBytes : Nat) : Nat -> SessionM Unit
  | rounds, buffer =>
      if minBytes ≤ buffer.length then Script.returned ((), buffer)
      else
        match rounds with
        | 0 => Script.returned ((), buffer)
        | rounds + 1 =>
            Script.call (SocketOp.recv recvChunk) fun receiving =>
              match receive session receiving with
              | Except.error error => Script.raised (Failure.amt error)
              | Except.ok chunk => fillUpTo minBytes rounds (buffer ++ chunk)

/-- `_fill`. -/
def fill (minBytes : Nat) : SessionM Unit := fun buffer =>
  fillUpTo session minBytes (minBytes - buffer.length) buffer

def buffered : SessionM Bytes := fun buffer =>
  Script.returned (buffer, buffer)

/-- `del self._buf[:count]`. -/
def consume (count : Nat) : SessionM Unit := fun buffer =>
  Script.returned ((), buffer.drop count)

/-!
## The start of the session
-/

def wrongStartReply (leading : UInt8) : AmtError :=
  failure session ErrorClass.protocol
    ("expected StartRedirectionSessionReply (0x11), got " ++ shownHex leading)

def startRejected (status : UInt8) : AmtError :=
  failure session ErrorClass.protocol
    ("redirection session start rejected, status=" ++
      toString status.toNat)

/-- `_read_start_session_reply`. -/
def readStartSessionReply : SessionM Unit := do
  fill session 13
  let buffer ← buffered
  if buffer.getD 0 0 ≠ 0x11 then
    raiseAmt (wrongStartReply session (buffer.getD 0 0))
  else if buffer.getD 1 0 ≠ 0 then
    raiseAmt (startRejected session (buffer.getD 1 0))
  else do
    let oemlen := (buffer.getD 12 0).toNat
    fill session (13 + oemlen)
    consume (13 + oemlen)

/-!
## Authentication
-/

structure AuthReply where
  status : UInt8
  authType : UInt8
  authData : Bytes
deriving DecidableEq, Repr

def wrongAuthReply (leading : UInt8) : AmtError :=
  failure session ErrorClass.protocol
    ("expected AuthenticateSessionReply (0x14), got " ++ shownHex leading)

/-- `_read_auth_reply`. -/
def readAuthReply : SessionM AuthReply := do
  fill session 9
  let buffer ← buffered
  if buffer.getD 0 0 ≠ 0x14 then
    raiseAmt (wrongAuthReply session (buffer.getD 0 0))
  else do
    let total := 9 + leNat (slice buffer 5 4)
    fill session total
    let filled ← buffered
    consume total
    pure
      { status := buffer.getD 1 0
        authType := buffer.getD 4 0
        authData := slice filled 9 (total - 9) }

/-- `_digest_type_query`. -/
def digestTypeQuery : Except Failure Bytes := do
  let user := encodeUtf8 session.username.toList
  let uri := encodeUtf8 authUri
  let length := user.length + uri.length + 8
  let prefixedUser ← lengthPrefixed user
  let prefixedUri ← lengthPrefixed uri
  pure
    ([0x13, 0, 0, 0, 0x04] ++ packLE 4 length ++ prefixedUser ++ [0, 0] ++
      prefixedUri ++ [0, 0, 0, 0])

/-- `read_field`: the text, and the position behind it. -/
def readField (authData : Bytes) (position : Nat) :
    Except Failure (List Char × Nat) :=
  match authData[position]? with
  | none => Except.error (Failure.other Uncaught.index)
  | some length =>
      match decodeUtf8 (slice authData (position + 1) length.toNat) with
      | none => Except.error (Failure.other Uncaught.unicodeDecode)
      | some text => Except.ok (text, position + 1 + length.toNat)

structure Challenge where
  realm : List Char
  nonce : List Char
  qop : List Char
deriving DecidableEq, Repr

/-- `_parse_challenge`. -/
def parseChallenge (authData : Bytes) : Except Failure Challenge := do
  let realm ← readField authData 0
  let nonce ← readField authData realm.2
  let qop ← readField authData nonce.2
  pure { realm := realm.1, nonce := nonce.1, qop := qop.1 }

def colon : List Char := [':']

def digestOf (challenge : Challenge) (cnonce : List Char) : List Char :=
  let ha1 := md5Hex hashes
    (session.username.toList ++ colon ++ challenge.realm ++ colon ++
      session.password.toList)
  let ha2 := md5Hex hashes ("POST:".toList ++ authUri)
  md5Hex hashes
    (ha1 ++ colon ++ challenge.nonce ++ colon ++ snc ++ colon ++ cnonce ++
      colon ++ challenge.qop ++ colon ++ ha2)

def prefixedFields : List Bytes -> Except Failure Bytes
  | [] => Except.ok []
  | field :: rest => do
      let first ← lengthPrefixed field
      let others ← prefixedFields rest
      pure (first ++ others)

/-- The frame of `_digest_response`. -/
def digestFrame (challenge : Challenge) (cnonce : List Char) :
    Except Failure Bytes := do
  let fields :=
    [encodeUtf8 session.username.toList, encodeUtf8 challenge.realm,
      encodeUtf8 challenge.nonce, encodeUtf8 authUri, encodeUtf8 cnonce,
      encodeUtf8 snc, encodeUtf8 (digestOf hashes session challenge cnonce),
      encodeUtf8 challenge.qop]
  let totalLen := (fields.map List.length).sum + 8
  let payload ← prefixedFields fields
  pure ([0x13, 0, 0, 0, 0x04] ++ packLE 4 totalLen ++ payload)

/-- `_digest_response`. -/
def digestResponse (challenge : Challenge) : SessionM Bytes := do
  let cnonce ← Buffered.lift (Script.ask (SocketOp.tokenHex 16))
  ofExcept (digestFrame hashes session challenge cnonce)

def notOfferedMessage : String :=
  "firmware does not offer redirection auth type 4 (digest with " ++
  "cnonce/qop); refusing to fall back to type 1 (cleartext) or type 3 " ++
  "(digest without cnonce)"

def insecureMessage (authType : UInt8) : String :=
  "refusing insecure redirection auth type " ++ toString authType.toNat ++
  " (only type 4 is accepted)"

def rejectedMessage : String :=
  "redirection digest authentication was rejected by firmware"

def raiseAuthentication {alpha : Type} (message : String) : SessionM alpha :=
  raiseAmt (failure session ErrorClass.authentication message)

/-- The reply that decides: the first one, or the one to the query for type
4 when the first one lists the types. -/
def decidingReply (first : AuthReply) : SessionM AuthReply :=
  if first.authType = 0 then
    if requiredAuthType ∉ first.authData then
      raiseAuthentication session notOfferedMessage
    else do
      let query ← ofExcept (digestTypeQuery session)
      send session query
      readAuthReply session
  else pure first

/-- The answer to a challenge, and the reply to it. -/
def answerChallenge (authData : Bytes) : SessionM AuthReply := do
  let challenge ← ofExcept (parseChallenge authData)
  let response ← digestResponse hashes session challenge
  send session response
  readAuthReply session

/-- What follows the reply that decides. -/
def settleReply (reply : AuthReply) : SessionM AuthReply :=
  if reply.authType ∈ insecureAuthTypes then
    raiseAuthentication session (insecureMessage reply.authType)
  else if reply.status = 1 ∧ reply.authType = requiredAuthType then
    answerChallenge hashes session reply.authData
  else pure reply

/-- `_authenticate`. -/
def authenticate : SessionM Unit := do
  send session authTypeQuery
  let first ← readAuthReply session
  let reply ← decidingReply session first
  let last ← settleReply hashes session reply
  if last.status ≠ 0 then raiseAuthentication session rejectedMessage
  else pure ()

/-- `connect` from the first byte of the protocol on. -/
def handshake : SessionM Unit := do
  send session session.startFrame
  readStartSessionReply session
  authenticate hashes session

/-- `connect`: what was received behind the authentication. -/
def connect : SocketScript Bytes := do
  openSocket hashes session
  let ended ← handshake hashes session []
  pure ended.2

end Session
end Redirection
end IntelAmt
