import FrameSocket.Duration

/-!
# Settings of the machines

Timeouts, sizes, budgets and speed floors.  The defaults are those of the
fields; the `with…` functions set a field, and raise a size or budget of zero to
one.
-/

namespace FrameSocket

/-- Settings of the machines that read and write sockets. -/
structure Config where
  /-- How long a stream client may take to connect. -/
  connectionTimeout : Duration := .ofSeconds 60
  /-- How long a select waits, unless it is told otherwise. -/
  ioTimeout : Duration := .ofSeconds 30
  /-- Bytes asked for in one read of a stream. -/
  readBufferSize : Nat := 8192
  /-- The largest datagram that is taken whole, or sent. -/
  maxDatagramSize : Nat := 65507
  /-- The most bytes of one write to the urgent channel. -/
  urgentLimit : Nat := 1
  /-- Pairs of dry reads in a row until an unfinished frame is given up. -/
  readAttempts : Nat := 10
  /-- Writes that move nothing until a send is given up. -/
  writeAttempts : Nat := 10
  /-- The least average speed of receiving, in bytes per second. -/
  minReceiveSpeed : Option Float := none
  /-- How long receiving may be slower than that. -/
  slowReceiveLimit : Duration := .zero
  /-- The least average speed of sending, in bytes per second. -/
  minSendSpeed : Option Float := none
  /-- How long sending may be slower than that. -/
  slowSendLimit : Duration := .zero
  deriving BEq, Repr

namespace Config

/-- The settings that nobody changed. -/
def default : Config := {}

/-- How long a connect may take. -/
def withConnectionTimeout (c : Config) (d : Duration) : Config :=
  { c with connectionTimeout := d }

/-- How long a blocking read or write may take. -/
def withIoTimeout (c : Config) (d : Duration) : Config := { c with ioTimeout := d }

/-- The size of a stream's read buffer, at least one byte. -/
def withReadBufferSize (c : Config) (n : Nat) : Config := { c with readBufferSize := max n 1 }

/-- The size of a datagram's read buffer, at least one byte. -/
def withMaxDatagramSize (c : Config) (n : Nat) : Config := { c with maxDatagramSize := max n 1 }

/-- How many urgent bytes one write may send. -/
def withUrgentLimit (c : Config) (n : Nat) : Config := { c with urgentLimit := n }

/-- How many reads may find nothing in a row, at least one. -/
def withReadAttempts (c : Config) (n : Nat) : Config := { c with readAttempts := max n 1 }

/-- How many writes may send nothing in a row, at least one. -/
def withWriteAttempts (c : Config) (n : Nat) : Config := { c with writeAttempts := max n 1 }

/-- Receiving slower than `speed` for longer than `limit` is given up. -/
def withMinReceiveSpeed (c : Config) (speed : Float) (limit : Duration) : Config :=
  { c with minReceiveSpeed := some speed, slowReceiveLimit := limit }

/-- Sending slower than `speed` for longer than `limit` is given up. -/
def withMinSendSpeed (c : Config) (speed : Float) (limit : Duration) : Config :=
  { c with minSendSpeed := some speed, slowSendLimit := limit }

/-- Whether nothing differs from the defaults. -/
def isDefault (c : Config) : Bool := c == default

end Config

end FrameSocket
