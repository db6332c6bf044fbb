import EmsCollector.Misc.Ring

/-!
# The framer firmware

`framer/main.c` takes the bus telegrams from the UART, checks them and queues them for the
serial line in a ring buffer that the main loop empties. The receive interrupt is not
re-entered, so it runs between two steps of the main loop. Positions and lengths are `uint8_t`
and keep their width here; an access outside a buffer has no result (`none`). The LEDs, the
watchdog and the port setup play no part in what is forwarded.
-/

namespace EmsCollector

/-- `RECV_BUF_SIZE` and `TRANSMIT_BUF_SIZE` (`framer/main.c:24-25`). -/
abbrev recvBufSize : Nat := 64
abbrev transmitBufSize : Nat := 250

/-- The static variables of `framer/main.c:33-39`. -/
structure Framer where
  recvBuffer : Vector UInt8 recvBufSize
  recvPos : UInt8
  recvValid : Bool
  txBuffer : Vector UInt8 transmitBufSize
  txWritePos : UInt8
  txReadPos : UInt8

namespace Framer

/-- Static storage starts out zeroed. -/
def start : Framer :=
  { recvBuffer := Vector.replicate _ 0, recvPos := 0, recvValid := false,
    txBuffer := Vector.replicate _ 0, txWritePos := 0, txReadPos := 0 }

/-- One turn of the loop in `calc_checksum` (`framer/main.c:45-55`). -/
def crcStep (crc byte : UInt8) : UInt8 :=
  let (crc, d) : UInt8 × UInt8 := if crc &&& 0x80 ≠ 0 then (crc ^^^ 0xc, 1) else (crc, 0)
  let crc := crc <<< 1
  let crc := crc &&& 0xfe
  let crc := crc ||| d
  crc ^^^ byte

/-- `calc_checksum` (`framer/main.c:41-58`) over the bytes it is pointed to. -/
def calcChecksum (buffer : List UInt8) : UInt8 := buffer.foldl crcStep 0

/-- `copy_to_tx_buffer` (`framer/main.c:60-66`). -/
def copyToTxBuffer (f : Framer) (data : UInt8) : Option Framer :=
  if h : f.txWritePos.toNat < transmitBufSize then
    let txWritePos := f.txWritePos + 1
    some { f with
      txBuffer := f.txBuffer.set f.txWritePos.toNat data
      txWritePos := if txWritePos ≥ 250 then 0 else txWritePos }
  else
    none

/-- Several bytes in a row. -/
def copyAll (f : Framer) (bytes : List UInt8) : Option Framer :=
  bytes.foldlM copyToTxBuffer f

/-- `start_tx_frame` (`framer/main.c:68-72`). -/
def startTxFrame (f : Framer) : Option Framer := f.copyAll [0xaa, 0x55]

/-- `add_tx_data` (`framer/main.c:74-85`); `data` holds the `len` bytes it is pointed to. -/
def addTxData (f : Framer) (data : List UInt8) : Option Framer := do
  let f ← f.copyToTxBuffer (UInt8.ofNat data.length)
  let f ← f.copyAll data
  f.copyToTxBuffer (data.foldl (· ^^^ ·) 0)

/-- `enough_tx_space` (`framer/main.c:87-99`). `needed += 5` is 8-bit; the difference of the
    positions is an `int` that is stored into 8 bits. -/
def enoughTxSpace (f : Framer) (needed : UInt8) : Bool :=
  let needed := needed + 5
  let space : UInt8 :=
    if f.txWritePos ≥ f.txReadPos then
      UInt8.ofNat (250 - (f.txWritePos.toNat - f.txReadPos.toNat))
    else
      UInt8.ofNat (f.txReadPos.toNat - f.txWritePos.toNat)
  space ≥ needed

/-- The bytes `recv_buffer[0 .. size)`. -/
def recvBytes (f : Framer) (size : UInt8) : Option (List UInt8) :=
  if size.toNat ≤ recvBufSize then some (f.recvBuffer.toList.take size.toNat) else none

/-- The end of a bus frame (`framer/main.c:144-165`): the CRC is stripped and checked, and the
    rest is queued if there is room. The second component is the payload that was queued. -/
def endOfFrame (f : Framer) : Option (Framer × Option (List UInt8)) :=
  if f.recvPos > 1 then do
    let f := { f with recvPos := f.recvPos - 1 }
    let payload ← f.recvBytes f.recvPos
    let received ← f.recvBuffer[f.recvPos.toNat]?
    if calcChecksum payload = received ∧ f.enoughTxSpace f.recvPos then
      let f ← f.startTxFrame
      let f ← f.addTxData payload
      some (f, some payload)
    else
      some (f, none)
  else
    some (f, none)

/-- A data byte inside a bus frame (`framer/main.c:166-170`). -/
def storeByte (f : Framer) (data : UInt8) : Option Framer :=
  if f.recvPos < 64 then
    if h : f.recvPos.toNat < recvBufSize then
      some { f with
        recvBuffer := f.recvBuffer.set f.recvPos.toNat data
        recvPos := f.recvPos + 1 }
    else
      none
  else
    some f

/-- The first half of a turn (`framer/main.c:143-171`): nothing is taken in before the first
    frame error. -/
def receive (f : Framer) (frameError : Bool) (data : UInt8) :
    Option (Framer × Option (List UInt8)) :=
  if f.recvValid then
    if frameError then f.endOfFrame else (f.storeByte data).map (·, none)
  else
    some (f, none)

/-- One turn of the loop in `ISR(SIG_UART_RECV)` (`framer/main.c:129-179`) for a received
    character with its frame-error flag. -/
def isrReceive (f : Framer) (frameError : Bool) (data : UInt8) :
    Option (Framer × Option (List UInt8)) := do
  let (f, queued) ← f.receive frameError data
  if frameError then
    some ({ f with recvPos := 0, recvValid := true }, queued)
  else
    some (f, queued)

/-- Where the main loop stands (`framer/main.c:211-228`): before the test of the two positions,
    before the read of the ring, before the read position is advanced. -/
inductive MainPc where
  | test
  | write
  | advance
  deriving DecidableEq, Repr

/-- One step of the main loop. The last component is the byte handed to the UART. -/
def mainStep (f : Framer) : MainPc → Option (Framer × MainPc × Option UInt8)
  | .test => some (f, if f.txWritePos ≠ f.txReadPos then .write else .test, none)
  | .write => do
      let byte ← f.txBuffer[f.txReadPos.toNat]?
      some (f, .advance, some byte)
  | .advance =>
      let txReadPos := f.txReadPos + 1
      some ({ f with txReadPos := if txReadPos ≥ 250 then 0 else txReadPos }, .test, none)

end Framer

end EmsCollector
