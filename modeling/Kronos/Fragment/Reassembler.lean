import Kronos.Basic
import Kronos.Frame.Format
import Kronos.Library.ArraySweep

/-!
# The reassembler

A reassembler holds one open session per packet id.  A session owns a buffer
with one slot of `KRS_MAX_PAYLOAD_PER_FRAGMENT` bytes per fragment, the size
of each received piece, and a flag per piece.  Fragments are stored in their
slot; the last missing one compacts the buffer and closes the session.

Array accesses and block copies are bounds-checked: `none` stands for an
access outside the array that the source makes.  Memory returned by `malloc`
is filled with zero bytes here; its contents are never read before they are
written.
-/

namespace Kronos

open Library

/-- `KRS_MAX_FRAGMENTS_PER_PACKET`. -/
def krsMaxFragmentsPerPacket : Nat := 64

/-- `KRS_MAX_REASSEMBLY_SESSIONS`. -/
def krsMaxReassemblySessions : Nat := 256

/-- `FragmentSession_t`: the pieces of one packet received so far. -/
structure FragmentSession where
  packetId : UInt64
  total : Nat
  received : Nat
  buffer : List UInt8
  maxPieceSize : Nat
  pieceSizes : List Nat
  pieceReceived : List Bool
  ackRequired : Bool
  createdMs : UInt64
  deriving DecidableEq, Repr

/-- `Reassembler_t`. -/
structure Reassembler where
  sessions : List FragmentSession
  deriving DecidableEq, Repr

/-- `krs_reassembler_create`. -/
def krsReassemblerCreate : Reassembler := { sessions := [] }

/-- `ReassembleResult_t`.  `data` is the memory handed to the caller, of which
the first `dataLength` bytes are the payload. -/
structure ReassembleResult where
  base : KronosResult
  complete : Bool := false
  data : List UInt8 := []
  dataLength : Nat := 0
  ackRequired : Bool := false
  deriving DecidableEq, Repr

/-- The result of a call that ends with an error. -/
def ReassembleResult.failed (errorCode : KronosError) (message : String) :
    ReassembleResult :=
  { base := .wMsg errorCode message }

/-- `s_find_session`: position of the first session with the packet id. -/
def findSession (reassembler : Reassembler) (packetId : UInt64) :
    Option Nat :=
  reassembler.sessions.findIdx? fun session => session.packetId == packetId

/-- The session that `s_create_session` allocates. -/
def newSession (packetId : UInt64) (total : Nat) (now : UInt64) :
    FragmentSession :=
  { packetId := packetId
    total := total
    received := 0
    buffer := List.replicate (total * krsMaxPayloadPerFragment) 0
    maxPieceSize := krsMaxPayloadPerFragment
    pieceSizes := List.replicate total 0
    pieceReceived := List.replicate total false
    ackRequired := false
    createdMs := now }

/-- `s_remove_session`: drop the first session with the packet id. -/
def removeSession (reassembler : Reassembler) (packetId : UInt64) :
    Reassembler :=
  { sessions := reassembler.sessions.eraseP fun session =>
      session.packetId == packetId }

/-- Find the session of a packet or open it: the position of the session, or
the error that ends the call. -/
def openSession
    (reassembler : Reassembler)
    (packetId : UInt64)
    (total : Nat)
    (now : UInt64)
    (allocated : Bool) : Except ReassembleResult (Reassembler × Nat) :=
  match findSession reassembler packetId with
  | some slot => .ok (reassembler, slot)
  | none =>
      if reassembler.sessions.length ≥ krsMaxReassemblySessions then
        .error (.failed .memoryAllocation
          "reassembler session limit reached")
      else if !allocated then
        .error (.failed .memoryAllocation "session allocation failed")
      else
        .ok ({ sessions := reassembler.sessions ++
            [newSession packetId total now] },
          reassembler.sessions.length)

/-- Copy a payload into its slot and record its size.  An empty payload is
recorded without a copy. -/
def storePiece
    (session : FragmentSession)
    (index : Nat)
    (payload : List UInt8) : Option FragmentSession :=
  (if payload.length > 0 then
      writeAt session.buffer (index * session.maxPieceSize) payload
    else some session.buffer).bind fun buffer =>
  (writeAt session.pieceSizes index [payload.length]).bind fun pieceSizes =>
  (writeAt session.pieceReceived index [true]).map fun pieceReceived =>
    { session with
      buffer := buffer
      pieceSizes := pieceSizes
      pieceReceived := pieceReceived
      received := session.received + 1 }

/-- The compaction loop over the piece sizes from slot `slot` on: a non-empty
piece that is not yet in place is moved down to `offset`. -/
def compactPieces (maxPieceSize : Nat) :
    List Nat -> Nat -> Nat -> List UInt8 -> Option (List UInt8)
  | [], _, _, buffer => some buffer
  | size :: sizes, slot, offset, buffer =>
      (if size > 0 ∧ offset ≠ slot * maxPieceSize then
          (readAt buffer (slot * maxPieceSize) size).bind fun piece =>
            writeAt buffer offset piece
        else some buffer).bind fun moved =>
      compactPieces maxPieceSize sizes (slot + 1) (offset + size) moved

/-- What a completed session hands out: its compacted buffer and length. -/
def completeSession (session : FragmentSession) : Option ReassembleResult :=
  (readAt session.pieceSizes 0 session.total).bind fun sizes =>
  (compactPieces session.maxPieceSize sizes 0 0 session.buffer).map
    fun buffer =>
      { base := .suc
        complete := true
        data := buffer
        dataLength := sizes.sum
        ackRequired := session.ackRequired }

/-- The end of `krs_reassembler_feed`: drop a duplicate, store a new piece, or
complete the session at position `slot`. -/
def feedPiece
    (reassembler : Reassembler)
    (slot : Nat)
    (session : FragmentSession)
    (fragment : Frame) : Option (Reassembler × ReassembleResult) :=
  let index := fragment.metadata.fragmentIndex.toNat
  session.pieceReceived[index]?.bind fun duplicate =>
  if duplicate then
    some ({ sessions := reassembler.sessions.set slot session },
      { base := .suc })
  else
    (storePiece session index fragment.body).bind fun stored =>
    if stored.received < stored.total then
      some ({ sessions := reassembler.sessions.set slot stored },
        { base := .suc })
    else
      (completeSession stored).map fun result =>
        (removeSession
          { sessions := reassembler.sessions.set slot stored }
          fragment.packetId, result)

/-- The part of `krs_reassembler_feed` that works on an open session: the
`ACK_REQUIRED` flag is recorded before the piece is looked at. -/
def feedSession
    (reassembler : Reassembler)
    (slot : Nat)
    (fragment : Frame) : Option (Reassembler × ReassembleResult) :=
  reassembler.sessions[slot]?.bind fun session =>
    feedPiece reassembler slot
      { session with
        ackRequired := session.ackRequired ||
          hasFlag fragment.presenceFlags .ackRequired } fragment

/-- The checks a fragment passes before its session is looked up. -/
def validFragment (fragment : Frame) : Bool :=
  let index := fragment.metadata.fragmentIndex.toNat
  let total := fragment.metadata.fragmentTotal.toNat
  !(total == 0 || decide (index ≥ total) ||
    decide (total > krsMaxFragmentsPerPacket))

/-- `krs_reassembler_feed` at time `now`.  `allocated` is the outcome of the
allocations of the call. -/
def krsReassemblerFeed
    (reassembler : Reassembler)
    (fragment : Frame)
    (now : UInt64)
    (allocated : Bool) : Option (Reassembler × ReassembleResult) :=
  if !hasFlag fragment.presenceFlags .fragmentInfo then
    if !allocated then
      some (reassembler, .failed .memoryAllocation "allocation failed")
    else
      some (reassembler,
        { base := .suc
          complete := true
          data := fragment.body
          dataLength := fragment.body.length
          ackRequired := hasFlag fragment.presenceFlags .ackRequired })
  else if !validFragment fragment then
    some (reassembler, .failed .invalidParameter
      "invalid fragment index/total or exceeds max")
  else if fragment.body.length > krsMaxPayloadPerFragment then
    some (reassembler, .failed .fragmentPayloadOversized
      "fragment payload exceeds per-fragment maximum")
  else
    match openSession reassembler fragment.packetId
        fragment.metadata.fragmentTotal.toNat now allocated with
    | .error result => some (reassembler, result)
    | .ok (opened, slot) => feedSession opened slot fragment

/-- `krs_reassembler_sweep_stale`: remove the sessions that are at least
`timeoutMs` old, and count them. -/
def krsReassemblerSweepStale
    (reassembler : Reassembler)
    (now : UInt64)
    (timeoutMs : Nat) : Nat × Reassembler :=
  let swept := sweep (fun removed session =>
    if (now - session.createdMs).toNat < timeoutMs then
      (removed, some session)
    else (removed + 1, none)) 0 reassembler.sessions
  (swept.1, { sessions := swept.2 })

end Kronos
