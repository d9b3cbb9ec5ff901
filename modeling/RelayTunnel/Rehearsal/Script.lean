import RelayTunnel.Stream

/-!
# Scripts of rehearsals

A rehearsal plays a stream against a relay that follows a script, in a time that
passes only when the script says so. Here is what a script consists of, and what a
rehearsal reports.
-/

namespace RelayTunnel

namespace Rehearsal

/-- What becomes of a message handed to a connection. -/
inductive Delivery where
  | goesThrough
  | fails
  /-- Sending it never ends. -/
  | stalls
  deriving DecidableEq, Repr

/-- How a connection behaves. -/
structure Manner where
  messages : Delivery := .goesThrough
  /-- What becomes of a close message. -/
  closing : Delivery := .goesThrough
  deriving DecidableEq, Repr

/-- What the connector does about one call. -/
inductive Planned where
  /-- It never answers. -/
  | hangs
  | fails (error : RelayError)
  /-- It opens a connection in which some arrivals wait already. -/
  | opens (arrivals : List Arrival) (manner : Manner)
  deriving DecidableEq, Repr

/-- The plan of a connector beyond its last entry. -/
def Planned.standard : Planned := .opens [] {}

/-- Something a user of the stream asks for. -/
inductive Job where
  | read (size : Nat)
  | write (buffer : Bytes)
  | close
  deriving DecidableEq, Repr

/-- A half of a stream. -/
inductive Half where
  | reader
  | writer
  deriving DecidableEq, Repr

/-- A line of a script. -/
inductive Cue where
  | openStream
  | job (job : Job)
  /-- Give up what a half is doing. -/
  | abort (half : Half)
  | dropHalf (half : Half)
  /-- Cancel the token that the stream was opened with. -/
  | cancel
  /-- Let arrivals come on a connection, the newest where none is named. -/
  | bring (arrivals : List Arrival) (connection : Option Nat)
  /-- Change how a connection behaves from now on. -/
  | behave (messages closing : Option Delivery) (connection : Option Nat)
  | plan (more : List Planned)
  /-- Let so many milliseconds pass. -/
  | sleep (milliseconds : Nat)
  deriving DecidableEq, Repr

/-- How something asked for ended. -/
inductive Answer where
  /-- A stream was opened; its description. -/
  | opened (description : String)
  | done
  | closed
  | read (payload : Bytes)
  | endOfFile
  | failed (error : RelayError)
  | aborted
  deriving DecidableEq, Repr

/-- Something that the relay sees. -/
inductive Sight where
  | request (request : Request)
  | frame (connection : Nat) (frame : Frame)
  | sendFailed (connection : Nat) (kind : FrameKind)
  | sendStalled (connection : Nat) (kind : FrameKind)
  | close (connection : Nat) (code : UInt16) (reason : String) (stalled : Bool)
  /-- The client has let a connection go. -/
  | dropped (connection : Nat)
  deriving DecidableEq, Repr

/-- What can be seen of a stream that is used as a whole. -/
inductive View where
  | absent
  | busy
  | state (state : StreamState)
  deriving DecidableEq, Repr

/-- What a line of a script has led to. -/
structure Report where
  /-- What ended, by the number of the line that asked for it. -/
  answers : List (Nat × Answer)
  sights : List Sight
  traffic : Traffic
  view : View
  /-- Whether the line had nothing to act on. -/
  skipped : Bool
  deriving DecidableEq, Repr

end Rehearsal

end RelayTunnel
