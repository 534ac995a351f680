import Gptp.Message.Types

/-!
# Kernel timestamps

The kernel hands the time at which a frame passed the hardware to the process as a control message of
the frame, on reception, or of the copy of the frame that it puts into the error queue of the socket, on
transmission.
-/

namespace Gptp

namespace Linux

/-- `struct timespec` with members of 64 bits. -/
structure Timespec where
  tvSec : Int64
  tvNsec : Int64
  deriving DecidableEq, Repr

/-- `tsToTimestamp`. The version is the one the constructor sets. -/
def tsToTimestamp (ts : Timespec) : Timestamp where
  secondsMs := (ts.tvSec >>> 32).toUInt64.toUInt16
  secondsLs := ts.tvSec.toUInt64.toUInt32
  nanoseconds := ts.tvNsec.toUInt64.toUInt32

/-- `SOL_SOCKET`. -/
def solSocket : Int32 := 1

/-- `SO_TIMESTAMPING`. -/
def soTimestamping : Int32 := 37

/-- `struct cmsghdr` with the three times a timestamping message carries. -/
structure ControlMessage where
  cmsgLevel : Int32
  cmsgType : Int32
  software : Timespec
  system : Timespec
  device : Timespec
  deriving DecidableEq, Repr

/-- The loop over the control messages: the device time of the first timestamping message. -/
def retrieveTimestamp : List ControlMessage → Option Timestamp
  | [] => none
  | cmsg :: rest =>
    if cmsg.cmsgLevel = solSocket ∧ cmsg.cmsgType = soTimestamping then
      some (tsToTimestamp cmsg.device)
    else retrieveTimestamp rest

/-- `GPTP_EC_FAILURE` and `GPTP_EC_EAGAIN`. -/
inductive TimestampError where
  | failure
  | eagain
  deriving DecidableEq, Repr

end Linux

end Gptp
