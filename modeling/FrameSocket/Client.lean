import FrameSocket.Client.Datagram

/-!
# Clients

The two kinds of client under one interface.
-/

namespace FrameSocket

/-- The two kinds of client. -/
inductive ClientKind where
  | stream
  | datagram
  deriving DecidableEq, Repr

namespace Client

variable {σ φ : Type} [Endpoint σ] [Framer φ]

/-- A client of the given kind over a socket. -/
def make (kind : ClientKind) (socket : σ) (config : Config) (now : Duration) : Client σ :=
  match kind with
  | .stream => new socket config config.readBufferSize now
  | .datagram => newDatagram socket config now

/-- Reads the next frame with the given framer. -/
def read (kind : ClientKind) (c : Client σ) (now : Clock) (f : φ) (ch : Channel) :
    Answer σ (Incoming σ) × φ :=
  match kind with
  | .stream => c.readStream now f ch
  | .datagram => c.readDatagram now f ch

/-- Writes a beginning of the data, and answers how long it is. -/
def write (kind : ClientKind) (c : Client σ) (now : Clock) (data : Bytes) (ch : Channel) :
    Answer σ Nat :=
  match kind with
  | .stream => c.writeStream now data ch
  | .datagram => c.writeDatagram now data ch

end Client

end FrameSocket
