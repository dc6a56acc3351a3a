import CourierDispatch.Http.Digest
import CourierDispatch.Http.Handler

/-!
# Feeds over the wire

A feed is opened by a handshake on its path and then brings one text frame for each update. The
handshake has to be of version 13 and is confirmed with the digest of its key. A client may
ping, and the server answers; what else a client sends is read and dropped. Behind a frame that
breaks the rules nothing more is read, and updates still come. When either side goes away the
feed is closed. The two feeds are `trip_updates` and `courier_assignments`, and `deliver` and `receive`
are the two halves of `forward`.
-/

namespace CourierDispatch.Http

/-- A request to open a feed. -/
structure Handshake where
  target : String
  version : String
  key : String
  deriving DecidableEq, Repr

/-- The answer to a handshake; when it is accepted, its confirmation and the feed. -/
structure Opening where
  status : Nat
  accepted : Option (String × Nat)
  deriving DecidableEq, Repr

/-- What is put behind a key before it is digested. -/
def handshakeSuffix : String := "258EAFA5-E914-47DA-95CA-C5AB0DC85B11"

/-- The confirmation of a key. -/
def confirmation (key : String) : String :=
  String.ofList (base64 (sha1 (Text.bytes (key ++ handshakeSuffix).toList)))

/-- What an endpoint lets a client follow. -/
def Endpoint.follows : Endpoint → Option (List Char × (Uuid → Interest))
  | .tripFeed id => some (id, .trip)
  | .courierFeed id => some (id, .courier)
  | _ => none

/-- The version that a handshake asks for, without the blanks around it. -/
def Handshake.asked (h : Handshake) : List Char :=
  let blank (c : Char) : Bool := c = ' ' || c = '\t'
  ((h.version.toList.dropWhile blank).reverse.dropWhile blank).reverse

/-- Opens a feed. Elsewhere the handshake is an ordinary request. -/
def openFeed (c : Config) (h : Handshake) : Job Opening :=
  let r : Request := ⟨"GET", h.target, none, ""⟩
  if !h.version.toList.all isHeaderChar then pure ⟨400, none⟩
  else match (Endpoint.ofPath? r.path).bind Endpoint.follows with
  | none => do return ⟨(← handle c r).status, none⟩
  | some (part, interest) =>
    if h.asked ≠ "13".toList then pure ⟨400, none⟩
    else match pathId? part with
      | none => pure ⟨400, none⟩
      | some id => do
        let feed ← Job.perform (.subscribe (interest id))
        return ⟨101, some (confirmation h.key, feed)⟩

/-! ## Frames -/

namespace Opcode

def text : Nat := 1
def binary : Nat := 2
def close : Nat := 8
def ping : Nat := 9
def pong : Nat := 10

end Opcode

/-- A whole frame from a client. -/
structure ClientFrame where
  opcode : Nat
  payload : List UInt8
  deriving DecidableEq, Repr

/-- How many bytes a frame that controls the connection may have. -/
def longestControl : Nat := 125

namespace ClientFrame

/-- May the bytes stand in a frame that closes? They are none, or a code of two bytes and a text. -/
def areClosing : List UInt8 → Bool
  | [] => true
  | [_] => false
  | _ :: _ :: reason => (Text.strict? reason).isSome

/-- Does a frame keep the rules? -/
def keepsRules (f : ClientFrame) : Bool :=
  if f.opcode = Opcode.text then (Text.strict? f.payload).isSome
  else if f.opcode = Opcode.binary then true
  else if f.opcode = Opcode.close then
    f.payload.length ≤ longestControl && areClosing f.payload
  else (f.opcode = Opcode.ping || f.opcode = Opcode.pong) && f.payload.length ≤ longestControl

end ClientFrame

/-- A frame from the server. -/
inductive Frame
  | text (s : String)
  | control (opcode : Nat)
  deriving DecidableEq, Repr

/-! ## Connections -/

/-- How far a connection is from its end. -/
inductive Linkage
  | established
  /-- The client has broken the rules: it is heard no more. -/
  | unheard
  /-- The client has said that it closes. -/
  | closing
  /-- The server has closed the stream. -/
  | closed
  /-- The client has gone away. -/
  | gone
  deriving DecidableEq, Repr

/-- A client's connection to a feed: the frames that it has not read, and its state. -/
structure Socket where
  feed : Option Nat
  linkage : Linkage
  waiting : List Frame
  deriving DecidableEq, Repr

namespace Socket

/-- A connection that was not accepted. -/
def refused : Socket := ⟨none, .closed, []⟩

def accepted (feed : Nat) : Socket := ⟨some feed, .established, []⟩

def push (s : Socket) (f : Frame) : Socket := { s with waiting := s.waiting ++ [f] }

/-- Brings some updates. A connection that is closing is closed by the first of them. -/
def deliver (s : Socket) (updates : List TripUpdate) : Socket :=
  match s.linkage with
  | .established | .unheard =>
    { s with waiting := s.waiting ++ updates.map fun u => .text u.encode.render }
  | .closing => if updates.isEmpty then s else { s with linkage := .closed }
  | .closed | .gone => s

/-- Takes a frame from the client: the connection behind it, and whether it could be written. -/
def receive (s : Socket) (f : ClientFrame) : Socket × Bool :=
  match s.linkage with
  | .established =>
    if !f.keepsRules then ({ s with linkage := .unheard }, true)
    else if f.opcode = Opcode.ping then (s.push (.control Opcode.pong), true)
    else if f.opcode = Opcode.close then
      ({ s.push (.control Opcode.close) with linkage := .closing }, true)
    else (s, true)
  | .unheard | .closing => (s, true)
  | .closed | .gone => (s, false)

/-- Takes the frames that wait, and says whether the stream is closed. -/
def read (s : Socket) : (List Frame × Bool) × Socket :=
  ((s.waiting, s.linkage = .closed), { s with waiting := [] })

def drop (s : Socket) : Socket := { s with linkage := .gone, waiting := [] }

end Socket

end CourierDispatch.Http
