import FrameSocket.Client.Stream

/-!
# Clients of datagram sockets

A datagram client has no connection to wait for.  Each read that receives takes
exactly one datagram, and a frame has to end within it: if it does not, the read
fails at once.  What a datagram holds past the end of the frame is left over for
the next read.
-/

namespace FrameSocket.Client

variable {σ φ : Type} [Endpoint σ] [Framer φ]

/-- A datagram client is connected from the start, whether its peer is known or
not. -/
def newDatagram (socket : σ) (config : Config) (now : Duration) : Client σ :=
  let c := new socket config config.maxDatagramSize now
  match Endpoint.remoteAddress socket with
  | (.ok (some address), socket) => { c with socket }.markConnected address
  | (_, socket) => { c with socket, connection := .connected, wasConnected := true }

/-- The failure of operations on the urgent channel. -/
def noUrgentDatagrams : NetworkError := .unsupported "out-of-band data on a datagram socket"

/-- Receives one datagram and feeds it to the framer. -/
def receiveDatagram (c : Client σ) (now : Duration) (f : φ) : Answer σ (Incoming σ) × φ :=
  match _h : Endpoint.recvFrom c.socket c.bufferSize with
  | (.ok (data, origin), socket) =>
    let (c, f) := { c with socket }.feed f .regular data origin
    match c.trackReceive now data.length with
    | (.error e, c) => ((.error e, c), f)
    | (.ok (), c) =>
      if Framer.isComplete f then (c.complete f, f)
      else (c.incomplete f "datagram ended before the frame did", f)
  | (.error e, socket) =>
    let c' := { c with socket }
    if e.isBlocked then (c'.unfinished f, f)
    else if _hi : e.isInterrupted then c'.receiveDatagram now f
    else (failed (c'.receiveError e), f)
termination_by Endpoint.supply c.socket
decreasing_by
  have he := Endpoint.supply_recvFrom_interrupted c.socket c.bufferSize e
  rw [_h] at he
  exact he rfl _hi

/-- Reads the next frame from datagrams with the given framer. -/
def readDatagram (c : Client σ) (now : Clock) (f : φ) (ch : Channel) :
    Answer σ (Incoming σ) × φ :=
  if ch = .urgent then ((.error noUrgentDatagrams, c), f)
  else
    let c := c.anchorReceive now.first
    if Framer.isComplete f then (c.complete f, f)
    else
      let (c, f) := c.replay f .regular
      if Framer.isComplete f then (c.complete f, f)
      else c.receiveDatagram now.later.first f

/-- Sends one datagram. -/
def sendDatagram (c : Client σ) (now : Duration) (data : Bytes) : Answer σ Nat :=
  match _h : Endpoint.send c.socket .regular data with
  | (.ok sent, socket) =>
    let c := { c with socket }
    if 0 < sent ∨ data = [] then
      match c.trackSend now sent with
      | (.error e, c) => (.error e, c)
      | (.ok (), c) => (.ok sent, c.finishSend)
    else c.stalled "datagram was never sent"
  | (.error e, socket) =>
    let c' := { c with socket }
    if e.isBlocked then c'.stalled "datagram was never sent"
    else if _hi : e.isInterrupted then c'.sendDatagram now data
    else failed (c'.sendError e)
termination_by Endpoint.patience c.socket
decreasing_by
  have he := Endpoint.patience_send_interrupted c.socket .regular data e
  rw [_h] at he
  exact he rfl _hi

/-- Writes one datagram, and answers its length, or zero if it could not be sent
at the moment. -/
def writeDatagram (c : Client σ) (now : Clock) (data : Bytes) (ch : Channel) : Answer σ Nat :=
  if ch = .urgent then (.error noUrgentDatagrams, c)
  else
    let limit := c.config.maxDatagramSize
    if limit < data.length then
      (.error (.unsupported ("datagram of " ++ toString data.length
        ++ " bytes exceeds the limit of " ++ toString limit)), c)
    else (c.anchorSend now.first).sendDatagram now.later.first data

end FrameSocket.Client
