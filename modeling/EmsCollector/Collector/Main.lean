import EmsCollector.Collector.CommandHandler
import EmsCollector.Collector.DataHandler
import EmsCollector.Collector.IoHandler
import EmsCollector.Collector.ValueCache

/-!
# The collector

`main` (`collector/main.cpp:88-203`) with the value callbacks of `IoHandler`
(`collector/IoHandler.cpp:42-123`, `566-577`): a handler reads from the line and hands the values
of every telegram to the database, the cache and the data port, in this order, and the telegrams
for the PC to the scheduler. If the line is lost, all of them but the database and the cache are
made anew. The collector is the one without MQTT, whose adapter does nothing then.
-/

namespace EmsCollector

/-- The handlers that `getHandler` makes (`collector/main.cpp:40-57`). -/
inductive Target where
  | serial | txSerial | tcp
  deriving DecidableEq, Repr

/-- `dynamic_cast<EmsCommandSender *>(handler.get())`: whether the handler can send. -/
def Target.sends : Target → Bool
  | .serial => false
  | .txSerial | .tcp => true

/-- What the options ask for. -/
structure Setup where
  target : Target
  dataPort : Bool

/-- What is found outside: the rate limit, the clock when the database and the cache take the
    `n`-th value, the fate of the queries for it, and the clock when the scheduler takes the `n`-th
    telegram. -/
structure Surroundings where
  rateLimit : UInt32
  databaseTime : Nat → TimeT
  queries : Nat → Queries
  cacheTime : Nat → TimeT
  telegramTime : Nat → Time

/-- What lives as long as the program, and how many values have been handed out. -/
structure Stores where
  database : Database
  cache : ValueCache
  values : Nat

/-- One turn of the loop in `main`: the decoder of the handler, the scheduler with the command port
    if the handler can send, and the data port; and how many telegrams for the PC have come. -/
structure Handlers (κ δ : Type) where
  handler : IoHandler
  commands : Option (System κ)
  data : Option (DataHandler δ)
  telegrams : Nat

namespace Handlers

variable {κ δ : Type}

/-- The constructor of the handler leaves two members uninitialised. -/
def new (setup : Setup) (length : Nat) (checkSum : UInt8) : Handlers κ δ :=
  { handler := .start length checkSum
    commands := if setup.target.sends then some .init else none
    data := if setup.dataPort then some .init else none
    telegrams := 0 }

end Handlers

namespace Collector

variable {κ δ : Type} [DecidableEq κ] [DecidableEq δ]

/-- The database (`collector/Database.cpp:324-445`) and the cache take a value. -/
def store (w : Surroundings) (stores : Stores) (value : EmsValue) : Option Stores := do
  let n := stores.values
  let database ←
    (stores.database.handleValue w.rateLimit (w.databaseTime n) (w.queries n) value).toOption
  some { database, cache := stores.cache.handleValue (w.cacheTime n) value, values := n + 1 }

/-- `IoHandler::handleValue` (`collector/IoHandler.cpp:566-577`) with the callbacks in the order in
    which `main` adds them. -/
def handleValue (w : Surroundings) (state : Stores × Handlers κ δ) (value : EmsValue) :
    Option (Stores × Handlers κ δ) := do
  let stores ← store w state.1 value
  let data ← state.2.data.mapM fun data => (data.handleValue value).toOption
  some (stores, { state.2 with data })

/-- `onPcMessageReceived` (`collector/TcpHandler.h:35-37`): the scheduler takes a telegram. -/
def onPcMessageReceived (w : Surroundings) (session : Handlers κ δ) (message : EmsMessage) :
    Option (Handlers κ δ) := do
  let commands ← session.commands.mapM fun commands =>
    commands.step (.telegram (w.telegramTime session.telegrams) message)
  some { session with commands, telegrams := session.telegrams + 1 }

/-- A payload with the right checksum (`collector/IoHandler.cpp:94-101`). -/
def handlePayload (w : Surroundings) (state : Stores × Handlers κ δ) (payload : List UInt8) :
    Option (Stores × Handlers κ δ) := do
  let message ← (EmsMessage.receive payload).toOption
  let values ← message.handle.toOption
  let (stores, session) ← values.foldlM (handleValue w) state
  if message.dest ||| 0x80 = EmsProto.addressPC then do
    let session ← onPcMessageReceived w session message
    some (stores, session)
  else some (stores, session)

/-- One turn of the loop in `readComplete`. An exception leaves the event loop and ends the program. -/
def handleByte (w : Surroundings) (state : Stores × Handlers κ δ) (dataByte : UInt8) :
    Option (Stores × Handlers κ δ) :=
  let (handler, payload) := state.2.handler.handleByte dataByte
  match payload with
  | some payload => handlePayload w (state.1, { state.2 with handler }) payload
  | none => some (state.1, { state.2 with handler })

/-- `readComplete` without an error (`collector/IoHandler.cpp:42-111`). -/
def readComplete (w : Surroundings) (state : Stores × Handlers κ δ) (bytes : List UInt8) :
    Option (Stores × Handlers κ δ) := bytes.foldlM (handleByte w) state

/-- The text of the cache for the command port. -/
def cacheText (cache : ValueCache) (selector : List String) : String :=
  (cache.outputValues selector).toOption.getD ""

/-- An event of the command port that does not come from the line; the commands find the cache. -/
def commandEvent (cache : ValueCache) : System.Event κ → Option (System.Event κ)
  | .telegram _ _ => none
  | .request client env => some (.request client { env with cache := some (cacheText cache) })
  | e => some e

/-- An event of the data port that does not come from the line. -/
def dataEvent : DataHandler.Event δ → Option (DataHandler.Event δ)
  | .value _ => none
  | e => some e

end Collector

/-- The program: a session, or the pause before the next one. -/
structure Collector (κ δ : Type) where
  stores : Stores
  session : Option (Handlers κ δ)
  running : Bool

namespace Collector

variable {κ δ : Type} [DecidableEq κ] [DecidableEq δ]

/-- The program with its first session. -/
def start (setup : Setup) (database : Database) (length : Nat) (checkSum : UInt8) : Collector κ δ :=
  { stores := { database, cache := ⟨[]⟩, values := 0 }, session := some (.new setup length checkSum)
    running := true }

/-- `maxReadLength` (`collector/IoHandler.h:53`). -/
def maxReadLength : Nat := 512

/-- What can happen: a read completes; the handler is closed by an error of the line; something
    happens at the ports; a signal comes; the pause is over. -/
inductive Event (κ δ : Type) where
  | read (bytes : List UInt8)
  | closed
  | commands (e : System.Event κ)
  | data (e : DataHandler.Event δ)
  | signal
  | retry (length : Nat) (checkSum : UInt8)

def step (w : Surroundings) (setup : Setup) (c : Collector κ δ) : Event κ δ → Option (Collector κ δ)
  | .read bytes => do
      let session ← c.session
      if bytes.length ≤ maxReadLength then do
        let (stores, session) ← readComplete w (c.stores, session) bytes
        some { c with stores, session := some session }
      else none
  | .closed => c.session.map fun _ => { c with session := none }
  | .commands e => do
      let session ← c.session
      let commands ← session.commands
      let e ← commandEvent c.stores.cache e
      let commands ← commands.step e
      some { c with session := some { session with commands := some commands } }
  | .data e => do
      let session ← c.session
      let data ← session.data
      let e ← dataEvent e
      let data ← data.step e
      some { c with session := some { session with data := some data } }
  | .signal => if c.running then some { c with session := none, running := false } else none
  | .retry length checkSum =>
      if c.running ∧ c.session.isNone then some { c with session := some (.new setup length checkSum) }
      else none

/-- The collector as a transition system. -/
def system (w : Surroundings) (setup : Setup) (κ δ : Type) [DecidableEq κ] [DecidableEq δ] :
    LTS (Collector κ δ) (Event κ δ) := .ofOption (step w setup)

end Collector

end EmsCollector
