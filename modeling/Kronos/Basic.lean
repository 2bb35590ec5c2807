import Mathlib.Logic.Function.Basic
import Mathlib.Data.Vector.Basic

/-!
# Results, addresses and packet counters

The data types that every layer of the library shares: the result base with
its error code and message, network endpoints, and the per-channel packet
counter.
-/

namespace Kronos

/-- The error codes that modelled functions report. -/
inductive KronosError
  | success
  | nullPointer
  | invalidParameter
  | memoryAllocation
  | bufferTooSmall
  | notInitialized
  | alreadyInitialized
  | fragmentPayloadOversized
  | networkSocketError
  | serverCongestionWindowFull
  | serverBindFailed
  | clientNotConnected
  | clientTimeout
  | platformWindowsSocket
  | frameInvalidHeader
  | frameInvalidProtocol
  | frameUnsupportedVersion
  deriving DecidableEq, Repr

/-- `KronosResult_b`: the base of every result. -/
structure KronosResult where
  valid : Bool
  errorCode : KronosError
  errorMessage : Option String
  deriving DecidableEq, Repr

/-- `krs_lib_error_result_base_suc`. -/
def KronosResult.suc : KronosResult :=
  { valid := true, errorCode := .success, errorMessage := none }

/-- `krs_lib_error_result_base_w_msg`. -/
def KronosResult.wMsg (errorCode : KronosError) (message : String) :
    KronosResult :=
  { valid := false, errorCode := errorCode, errorMessage := some message }

/-- A network endpoint.  Flow information and scope id are not kept: no
modelled function reads them. -/
structure PortAddress where
  sin6Family : UInt16
  sin6Port : UInt16
  sin6Addr : Vector UInt8 16
  deriving DecidableEq, Repr

/-- `krs_network_port_address_equals`: family, port and address agree. -/
def krsNetworkPortAddressEquals (a b : PortAddress) : Bool :=
  a.sin6Family == b.sin6Family && (a.sin6Port == b.sin6Port &&
    a.sin6Addr == b.sin6Addr)

@[simp] theorem krsNetworkPortAddressEquals_iff (a b : PortAddress) :
    krsNetworkPortAddressEquals a b = true ↔ a = b := by
  cases a
  cases b
  simp [krsNetworkPortAddressEquals]

/-- The address of a client that is known by its port alone. -/
def clientAddress (port : UInt16) : PortAddress :=
  { sin6Family := 10, sin6Port := port, sin6Addr := Vector.replicate 16 0 }

/-- A channel number, `Channel_t`. -/
abbrev Channel := UInt8

/-- `PacketCounter_t`: the last packet id issued on each channel. -/
abbrev PacketCounter := Channel -> UInt64

/-- `krs_packet_counter_create`: every counter starts at zero. -/
def krsPacketCounterCreate : PacketCounter := fun _ => 0

/-- `krs_packet_counter_next`: the incremented counter of a channel, and the
counters after the increment. -/
def krsPacketCounterNext
    (counter : PacketCounter)
    (channel : Channel) : UInt64 × PacketCounter :=
  (counter channel + 1,
    Function.update counter channel (counter channel + 1))

end Kronos
