import IntelAmt.Foundation.Json.Numbers
import IntelAmt.Foundation.Script
import IntelAmt.Wsman.Xml

/-!
# The WS-Man client

Get, Put, Enumerate with its Pulls and method calls, down to the posts that
carry them.  A script asks for one post after the other; what comes back is an
outcome of the HTTP exchange.
-/

namespace IntelAmt
namespace Wsman

open Foundation

def soapNs : String := "http://www.w3.org/2003/05/soap-envelope"

def enumerationNs : String :=
  "http://schemas.xmlsoap.org/ws/2004/09/enumeration"

def actionGet : String :=
  "http://schemas.xmlsoap.org/ws/2004/09/transfer/Get"

def actionPut : String :=
  "http://schemas.xmlsoap.org/ws/2004/09/transfer/Put"

def actionEnumerate : String :=
  "http://schemas.xmlsoap.org/ws/2004/09/enumeration/Enumerate"

def actionPull : String :=
  "http://schemas.xmlsoap.org/ws/2004/09/enumeration/Pull"

def pullMaxElements : Nat := 64

/-- The parts of an envelope that differ from request to request. -/
structure Request where
  action : String
  resourceUri : String
  selectors : List (String × String) := []
  body : Option Element := none

/-- A response of the endpoint: its status, its text, and the root of the
document in it or the reason of the `ParseError`.  `faultText` is the fault of
the document written out again. -/
structure Response where
  statusCode : Nat
  text : String
  document : Except String Element
  faultText : String := ""

/-- How a post ends.  `otherError` is any exception that nothing catches: one of
`requests`, or the `LookupError` or `ValueError` of the parser for a body that
was to be parsed and is in an encoding that it does not know. -/
inductive PostResult where
  | readTimeout
  | sslError (reason : String)
  | connectTimeout
  | connectionError (reason : String)
  | otherError
  | response (response : Response)

/-- The operations of the modules of the management plane. -/
inductive WsmanOp where
  | post (request : Request)
  | sleep (seconds : Rat)
  | connect (host : String) (port : Nat)

/-- A connection attempt tells whether there is a listener. -/
@[reducible] def WsmanAnswer : WsmanOp -> Type
  | WsmanOp.post _ => PostResult
  | WsmanOp.sleep _ => Unit
  | WsmanOp.connect _ _ => Bool

/-- How a call ends early: with a failure of the collection, with another
exception, or not yet, because it was not followed any further. -/
inductive Failure where
  | amt (error : AmtError)
  | other (e : OtherError)
  | waiting

abbrev WsmanScript (alpha : Type) : Type :=
  Script WsmanOp WsmanAnswer Failure alpha

def raiseAmt {alpha : Type} (error : AmtError) : WsmanScript alpha :=
  Script.raised (Failure.amt error)

def ofAmt {alpha : Type} : Except AmtError alpha -> WsmanScript alpha
  | Except.ok a => Script.returned a
  | Except.error error => raiseAmt error

def ofOther {alpha : Type} : Except OtherError alpha -> WsmanScript alpha
  | Except.ok a => Script.returned a
  | Except.error e => Script.raised (Failure.other e)

structure Client where
  endpoint : String
  maxRetries : Int := 2

section Calls

variable (client : Client)

/-!
## Responses
-/

def failure (errorClass : ErrorClass) (operation message : String) :
    AmtError where
  errorClass := errorClass
  message := message
  endpoint := some client.endpoint
  operation := some operation

def shownText (element : Option Element) : String :=
  match element with
  | none => "unknown"
  | some element => element.text.getD "None"

/-- `_raise_for_fault`. -/
def raiseForFault (operation : String) (response : Response)
    (body : Element) : Except AmtError Unit :=
  match findByLocalName body "Fault" with
  | none => Except.ok ()
  | some fault =>
      Except.error
        { failure client ErrorClass.protocol operation
            (operation ++ ": SOAP Fault code=" ++
              shownText (findByLocalName fault "Value") ++ " reason=" ++
              shownText (findByLocalName fault "Text")) with
          diagnostic := some response.faultText }

/-- `response.ok`. -/
def Response.ok (response : Response) : Bool :=
  !(decide (400 ≤ response.statusCode) && decide (response.statusCode < 600))

/-- `_handle_response`. -/
def handleResponse (operation : String) (response : Response) :
    Except AmtError Element :=
  let unusable (message : String) : Except AmtError Element :=
    Except.error
      { failure client ErrorClass.protocol operation message with
        diagnostic := some response.text }
  if response.statusCode = 401 then
    Except.error
      (failure client ErrorClass.authentication operation
        ("AMT rejected the credentials for " ++ operation ++ " (HTTP 401)"))
  else if !response.ok then
    unusable (operation ++ " received unexpected HTTP status " ++
      toString response.statusCode)
  else
    match response.document with
    | Except.error reason =>
        unusable (operation ++ " received malformed SOAP: " ++ reason)
    | Except.ok root =>
        if localName root.tag ≠ "Envelope" ∨
            namespaceOf root.tag ≠ some soapNs then
          unusable (operation ++ " response root is not a SOAP Envelope")
        else
          match root.children.find? fun child =>
              child.tag = qualified soapNs "Body" with
          | none => unusable (operation ++ " response has no SOAP Body")
          | some body => do
              raiseForFault client operation response body
              pure body

/-!
## Posts
-/

def readTimeoutError (operation : String) : AmtError :=
  { failure client ErrorClass.timeout operation
      (operation ++
        " timed out waiting for a response after the request was sent") with
    indeterminate := true }

def connectTimeoutError (operation : String) : AmtError :=
  failure client ErrorClass.timeout operation
    (operation ++ " timed out connecting before the request was sent")

/-- What is made of the outcome of a post; `retry` is what follows a failure
to connect. -/
def settle (operation : String)
    (retry : AmtError -> WsmanScript Element) :
    PostResult -> WsmanScript Element
  | PostResult.readTimeout => raiseAmt (readTimeoutError client operation)
  | PostResult.sslError reason =>
      raiseAmt
        (failure client ErrorClass.tlsValidation operation
          ("TLS handshake failed for " ++ operation ++ ": " ++ reason))
  | PostResult.connectTimeout => retry (connectTimeoutError client operation)
  | PostResult.connectionError reason =>
      retry
        (failure client ErrorClass.connection operation
          (operation ++ " failed to connect: " ++ reason))
  | PostResult.otherError => Script.raised (Failure.other OtherError.request)
  | PostResult.response response =>
      ofAmt (handleResponse client operation response)

/-- One post, and as many more as are left after failures to connect. -/
def postUpTo (request : Request) (operation : String) :
    Nat -> WsmanScript Element
  | 0 => do
      let result ← Script.ask (WsmanOp.post request)
      settle client operation raiseAmt result
  | left + 1 => do
      let result ← Script.ask (WsmanOp.post request)
      settle client operation
        (fun _ => postUpTo request operation left) result

/-- `_execute`. -/
def execute (request : Request) (operation : String) (retryable : Bool) :
    WsmanScript Element :=
  postUpTo client request operation
    (if retryable then client.maxRetries.toNat else 0)

/-!
## Operations
-/

/-- `_single_instance`. -/
def singleInstance (body : Element) : Instance :=
  match body.children with
  | [] => []
  | first :: _ =>
      match elementToValue first with
      | Value.members entries => entries
      | _ => []

def getRequest (uri : String) (selectors : List (String × String)) :
    Request where
  action := actionGet
  resourceUri := uri
  selectors := selectors

def get (resourceClass : String) (selectors : List (String × String) := []) :
    WsmanScript Instance := do
  let uri ← ofOther (resourceUri resourceClass)
  let body ← execute client (getRequest uri selectors)
    ("Get " ++ resourceClass) true
  pure (singleInstance body)

def putRequest (resourceClass uri : String)
    (selectors : List (String × String)) (children : List Element) :
    Request where
  action := actionPut
  resourceUri := uri
  selectors := selectors
  body := some
    { tag := qualified uri resourceClass
      children := children }

def put (resourceClass : String) (properties : List (String × Param))
    (selectors : List (String × String) := []) : WsmanScript Instance := do
  let uri ← ofOther (resourceUri resourceClass)
  let children ← ofOther (appendParams uri properties)
  let body ← execute client (putRequest resourceClass uri selectors children)
    ("Put " ++ resourceClass) false
  pure (singleInstance body)

def enumerateRequest (uri : String) (selectors : List (String × String)) :
    Request where
  action := actionEnumerate
  resourceUri := uri
  selectors := selectors
  body := some { tag := qualified enumerationNs "Enumerate" }

def pullRequest (uri context : String) : Request where
  action := actionPull
  resourceUri := uri
  body := some
    { tag := qualified enumerationNs "Pull"
      children :=
        [{ tag := qualified enumerationNs "EnumerationContext"
           text := some context },
          { tag := qualified enumerationNs "MaxElements"
            text := some (toString pullMaxElements) }] }

/-- The context that is pulled next; an empty one is none. -/
def contextOf (element : Option Element) : Option String :=
  (element.bind Element.text).filter fun context => context ≠ ""

def pageItems (page : Element) : List Value :=
  match findByLocalName page "Items" with
  | none => []
  | some items => items.children.map elementToValue

def nextContext (page : Element) : Option String :=
  match findByLocalName page "EndOfSequence" with
  | some _ => none
  | none => contextOf (findByLocalName page "EnumerationContext")

/-- The Pulls from a context on, as far as they are followed. -/
def pullFrom (resourceClass uri : String) :
    Nat -> Option String -> List Value -> WsmanScript (List Value)
  | _, none, items => pure items
  | 0, some _, _ => Script.raised Failure.waiting
  | pulls + 1, some context, items => do
      let page ← execute client (pullRequest uri context)
        ("Pull " ++ resourceClass) true
      pullFrom resourceClass uri pulls (nextContext page)
        (items ++ pageItems page)

def enumerate (pulls : Nat) (resourceClass : String)
    (selectors : List (String × String) := []) :
    WsmanScript (List Value) := do
  let uri ← ofOther (resourceUri resourceClass)
  let body ← execute client (enumerateRequest uri selectors)
    ("Enumerate " ++ resourceClass) true
  pullFrom client resourceClass uri pulls
    (contextOf (findByLocalName body "EnumerationContext")) []

/-- `_extract_return_value`: what is not a number counts as zero. -/
def extractReturnValue (output : Instance) : Int :=
  match output.lookup "ReturnValue" with
  | some (Value.text s) => (Json.textInt (s.toList.map Char.toNat)).getD 0
  | _ => 0

def methodRequest (methodName uri : String)
    (selectors : List (String × String)) (children : List Element) :
    Request where
  action := uri ++ "/" ++ methodName
  resourceUri := uri
  selectors := selectors
  body := some
    { tag := qualified uri (methodName ++ "_INPUT")
      children := children }

def remoteOperationError (operation : String) (value : Int) : AmtError :=
  { failure client ErrorClass.remoteOperation operation
      (operation ++ " returned ReturnValue=" ++ toString value) with
    returnValue := some value }

/-- The output parameters of a method that has returned zero. -/
def methodOutput (operation : String) (body : Element) :
    Except AmtError Instance :=
  let output := singleInstance body
  if extractReturnValue output = 0 then Except.ok output
  else
    Except.error
      (remoteOperationError client operation (extractReturnValue output))

def invoke (resourceClass methodName : String)
    (params : List (String × Param))
    (selectors : List (String × String) := []) : WsmanScript Instance := do
  let uri ← ofOther (resourceUri resourceClass)
  let children ← ofOther (appendParams uri params)
  let body ← execute client (methodRequest methodName uri selectors children)
    (resourceClass ++ "." ++ methodName) false
  ofAmt (methodOutput client (resourceClass ++ "." ++ methodName) body)

end Calls

/-!
## Failures that are caught
-/

/-- `try x except errors: return fallback`, for some failures of the
collection. -/
def caughtAs {alpha : Type} (errors : AmtError -> Option alpha)
    (x : WsmanScript alpha) : WsmanScript alpha :=
  x.handle fun
    | Failure.amt error =>
        match errors error with
        | some a => Script.returned a
        | none => raiseAmt error
    | other => Script.raised other

/-- How a module ends: with `exit_json` and a result, or with `fail_json` and
a failure. -/
abbrev ModuleEnd (alpha : Type) : Type := Except AmtError alpha

/-- `try x except AmtError`: what is raised is handed on as a value. -/
def caught {alpha : Type} (x : WsmanScript alpha) :
    WsmanScript (ModuleEnd alpha) :=
  caughtAs (fun error => some (Except.error error)) (x >>= fun a =>
    Script.returned (Except.ok a))

end Wsman
end IntelAmt
