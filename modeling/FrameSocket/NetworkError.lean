import FrameSocket.Duration
import FrameSocket.IoError
import FrameSocket.Frame

/-!
# Errors of reads, writes and selects

Every way in which a machine's operation can fail, one constructor per cause.
A read that has not yet met the end of its frame is no error.
-/

namespace FrameSocket

/-- Which way bytes move. -/
inductive Direction where
  | receive
  | send
  deriving DecidableEq, Repr

/-- How the direction is named in a message. -/
def Direction.text : Direction → String
  | .receive => "receive"
  | .send => "send"

/-- Why a read, a write or a select failed. -/
inductive NetworkError where
  /-- The socket never came to be connected. -/
  | connectionRefused (address reason : String)
  /-- The socket was connected, and the other side is gone. -/
  | connectionLost (address : String)
  /-- The frame did not end in time; `collected` is what there is of it. -/
  | framingIncomplete (address reason : String) (collected : Frame)
  | sendFailed (address : String) (source : IoError)
  | receiveFailed (address : String) (source : IoError)
  /-- The average speed was below the floor for longer than is allowed. -/
  | slowTransfer (direction : Direction) (speed duration : Float)
  | acceptFailed (address reason : String) (source : Option IoError)
  | unsupported (reason : String)
  /-- No socket became ready within the budget. -/
  | timeout (budget : Option Duration)
  /-- Nothing was registered to wait for. -/
  | nothingToSelect
  | io (source : IoError)
  deriving Repr

namespace NetworkError

/-- What is shown of an error. -/
def message : NetworkError → String
  | .connectionRefused address reason => s!"connection to {address} refused: {reason}"
  | .connectionLost address => s!"connection to {address} lost"
  | .framingIncomplete address reason _ => s!"incomplete frame from {address}: {reason}"
  | .sendFailed address _ => s!"failed to send data to {address}"
  | .receiveFailed address _ => s!"failed to receive data from {address}"
  | .slowTransfer direction speed duration =>
    direction.text ++ " speed " ++ Decimal.fixed 2 speed ++ " B/s below the floor for "
      ++ Decimal.fixed 2 duration ++ "s"
  | .acceptFailed address reason _ => s!"failed to accept connection on {address}: {reason}"
  | .unsupported reason => s!"unsupported operation: {reason}"
  | .timeout budget => "no socket became ready within " ++ Duration.boundText budget
  | .nothingToSelect => "there are no sockets registered for select"
  | .io source => "I/O error: " ++ source.message

/-- The call's error behind this one. -/
def source? : NetworkError → Option IoError
  | .sendFailed _ source | .receiveFailed _ source | .io source => some source
  | .acceptFailed _ _ source => source
  | _ => none

/-- Whether a selection has found nothing in time. -/
def isTimeout : NetworkError → Bool
  | .timeout _ => true
  | _ => false

/-- Refused and lost connections, after which the socket has to be connected
anew. -/
def isConnectionError : NetworkError → Bool
  | .connectionRefused .. | .connectionLost .. => true
  | _ => false

end NetworkError

end FrameSocket
