import EmsCollector.Collector.Main
import EmsCollector.Misc.DeadlineTimer

/-!
# The TCP handler and its watchdog

The life of a `TcpHandler` (`collector/TcpHandler.cpp:25-103`, `collector/TcpHandler.h:40-46`): it
connects, reads until something fails, and arms its watchdog again at every read. The event loop
finds that the watchdog has expired when it looks at the clock, and runs the handler of the wait
later; a wait that has been found expired can no longer be cancelled. The clock may jump.
-/

namespace EmsCollector

/-- So many minutes. -/
def minutes (n : Int) : Time := milliseconds (60000 * n)

/-- What the socket is doing. -/
inductive Socket where
  | connecting | reading | closed
  deriving DecidableEq, Repr

/-- `m_active`, whether the event loop has been stopped, the socket, the watchdog, and how many of
    its waits have been found expired and have their handlers yet to run. -/
structure TcpHandler where
  active : Bool
  stopped : Bool
  socket : Socket
  watchdog : DeadlineTimer Unit
  due : Nat
  deriving DecidableEq, Repr

namespace TcpHandler

variable (h : TcpHandler)

/-- `doCloseImpl` (`collector/TcpHandler.cpp:77-82`). -/
def doCloseImpl : TcpHandler := { h with watchdog := h.watchdog.cancel, socket := .closed }

/-- `doClose` (`collector/IoHandler.cpp:113-123`). -/
def doClose : TcpHandler := { h.doCloseImpl with active := false, stopped := true }

/-- `resetWatchdog` (`collector/TcpHandler.cpp:59-68`). -/
def resetWatchdog (now : Time) : TcpHandler :=
  { h with watchdog := h.watchdog.asyncWait (now + minutes 2) () }

/-- `readStart` (`collector/TcpHandler.h:40-46`). -/
def readStart : TcpHandler := { h with socket := .reading }

/-- `readComplete` (`collector/TcpHandler.cpp:70-75`), up to what the bytes mean; there are none
    after an error. -/
def readComplete (now : Time) (bytes : Option (List UInt8)) : TcpHandler :=
  match bytes with
  | some _ => (h.resetWatchdog now).readStart
  | none => (h.resetWatchdog now).doClose

/-- The constructor (`collector/TcpHandler.cpp:25-50`); `resolved` says whether the host is known. -/
def new (resolved : Bool) : TcpHandler :=
  let h := { active := true, stopped := false, socket := .connecting, watchdog := .idle, due := 0 }
  if resolved then h else h.doClose

/-- The handler of `async_connect`. -/
def connectComplete (now : Time) (error : Bool) : TcpHandler :=
  if error then h.doClose else (h.resetWatchdog now).readStart

/-- The event loop looks at the clock. -/
def poll (now : Time) : TcpHandler :=
  match h.watchdog.wait with
  | some (expiry, _) =>
      if expiry ≤ now then { h with watchdog := h.watchdog.expired, due := h.due + 1 } else h
  | none => h

/-- `sendMessageImpl` (`collector/TcpHandler.cpp:84-103`): the bytes written to the socket. Whether
    they are written is not looked at. -/
def sendMessageImpl (m : EmsMessage) : Except Fault (List UInt8) := m.getSendData true

/-- What the event loop does: one of the handlers runs, or it looks at the clock. -/
inductive Event where
  | connected (now : Time) (error : Bool)
  | read (now : Time) (bytes : Option (List UInt8))
  | poll (now : Time)
  | watchdogExpired
  | watchdogAborted
  deriving DecidableEq, Repr

/-- Nothing happens once the event loop has been stopped. -/
def step (e : Event) : Option TcpHandler :=
  if h.stopped then none
  else match e with
    | .connected now error =>
        if h.socket = .connecting then some (h.connectComplete now error) else none
    | .read now bytes => if h.socket = .reading then some (h.readComplete now bytes) else none
    | .poll now => some (h.poll now)
    | .watchdogExpired => if 0 < h.due then some ({ h with due := h.due - 1 }.doClose) else none
    | .watchdogAborted =>
        h.watchdog.aborted.head?.map fun _ => { h with watchdog := h.watchdog.dropAborted }

/-- The handler as a transition system. -/
def system : LTS TcpHandler Event := .ofOption step

end TcpHandler

end EmsCollector
