import Courier.Config
import Courier.Transport

/-!
# Wire — the bundled transport

The bundled transport reports the start, sends the request, and when the head of the response is
there reports what must have happened before: the headers and the body were written and the headers
received. Then it reads the body. A failed exchange is a failure of its own; an attempt that is
aborted sends or reads nothing further. Of the network it only knows what an `Exchange` says.
-/

namespace Courier

/-- The head of a response. -/
structure Head where
  status : Status
  fields : Http.Fields
  deriving Repr, DecidableEq, Inhabited

/-- What the network makes of a request: the head or a fault after some time, and then the body or
a fault after some more. -/
structure Exchange where
  sent : Except WireFault Head
  sending : Duration
  body : Except WireFault (List UInt8)
  reading : Duration

/-- The network, as a transport sees it. -/
abbrev Network := Call → Exchange

namespace Wire

/-- Whether the settings can be used: an agent must be a value of a header field. -/
def check (config : WireConfig) : Outcome Unit :=
  match config.userAgent with
  | some agent =>
    if Http.isFieldValue (Text.Utf8.encode agent) then .ok ()
    else .error (.configuration "Failed to build HTTP client: builder error")
  | none => .ok ()

/-- The events that are reported when the head is there. -/
def written (request : Request) : List Event :=
  [.headersWritten] ++ (if request.body.isSome then [.bodyWritten] else []) ++ [.headersReceived]

/-- What follows the head: the body is read. -/
def read (exchange : Exchange) (head : Head) : Behaviour :=
  .wait exchange.reading
    (match exchange.body with
    | .ok body => .give (.ok ⟨head.status, head.fields, body⟩)
    | .error fault => .give (.error (.network fault)))

/-- What follows the start: the request is sent. -/
def send (exchange : Exchange) (request : Request) : Behaviour :=
  .tell (.sending request.method request.urlText)
    (.wait exchange.sending
      (match exchange.sent with
      | .ok head => .notifyAll (written request) (read exchange head)
      | .error fault => .give (.error (.network fault))))

/-- The bundled transport on a network. -/
def transport (network : Network) : Transport := fun _ call =>
  if call.late then .give (.error .closed)
  else .notify .started (send (network call) call.request)

/-- The text of a URL in faults: without the user and the password. -/
def shownUrl (url : Url) : String :=
  { url with user := "", password := "" }.print

/-- How long an exchange may take: what the request says, and else the settings. -/
def limit? (config : WireConfig) (request : Request) : Option Duration :=
  request.timeout.or (config.requestMillis.map .ofMillis)

/-- A network that nobody answers on. Only web schemes are tried at all, and only if there is any
time for it. -/
def nobody (config : WireConfig) : Network := fun call =>
  let url := call.request.url
  let phase : WirePhase :=
    if !(url.scheme == "http" || url.scheme == "https") then .building
    else if limit? config call.request == some .zero then .waiting
    else .connecting
  let fault : WireFault := ⟨phase, some (shownUrl url)⟩
  ⟨.error fault, .zero, .error fault, .zero⟩

end Wire

end Courier
