import EmsCollector.Collector.ValueApi
import EmsCollector.Misc.Trace

/-!
# The data port

`DataConnection` and `DataHandler` (`collector/DataHandler.h`, `collector/DataHandler.cpp`): every
value that is handed out is written as a line to each connection. Nothing is read from a
connection, so it lives until a write to it fails.
-/

namespace EmsCollector

/-- A connection (`collector/DataHandler.h:33-63`): the lines given to `async_write` so far, and
    how many of these writes have not completed. -/
structure DataConnection where
  written : List String
  writing : Nat
  deriving DecidableEq, Repr

namespace DataConnection

def new : DataConnection := { written := [], writing := 0 }

/-- `output` (`collector/DataHandler.h:55-59`). -/
def output (conn : DataConnection) (text : String) : DataConnection :=
  { written := conn.written ++ [text ++ "\n"], writing := conn.writing + 1 }

/-- The text of a value (`collector/DataHandler.cpp:106-117`), if its type has a name. -/
def valueText (value : EmsValue) : Except ValueApi.FormatFault (Option String) :=
  let type := ValueApi.getTypeName value.type
  let subtype := ValueApi.getSubTypeName value.subType
  if type = "" then .ok none
  else do
    let formatted ← ValueApi.formatValue value
    .ok (some ((if subtype = "" then "" else subtype ++ " ") ++ type ++ " " ++ formatted))

/-- `handleValue` (`collector/DataHandler.cpp:103-120`). -/
def handleValue (conn : DataConnection) (value : EmsValue) :
    Except ValueApi.FormatFault DataConnection := do
  match ← valueText value with
  | some text => .ok (conn.output text)
  | none => .ok conn

/-- A write has completed. -/
def wrote (conn : DataConnection) : DataConnection := { conn with writing := conn.writing - 1 }

end DataConnection

/-- The members of `DataHandler` (`collector/DataHandler.h:82-85`): whether the acceptor waits for
    a connection, and `m_connections`. The set is ordered by the addresses of the connections;
    here they stand in the order in which they came. `sockets` has all connections accepted so
    far. -/
structure DataHandler (κ : Type) where
  accepting : Bool
  connections : List κ
  sockets : κ → Option DataConnection

namespace DataHandler

variable {κ : Type} [DecidableEq κ]

/-- The constructor begins to accept. -/
def init : DataHandler κ := { accepting := true, connections := [], sockets := fun _ => none }

def setSocket (h : DataHandler κ) (client : κ) (conn : DataConnection) : DataHandler κ :=
  { h with sockets := fun c => if c = client then some conn else h.sockets c }

/-- `startConnection` (`collector/DataHandler.cpp:55-59`). -/
def startConnection (h : DataHandler κ) (client : κ) : DataHandler κ :=
  { h with connections := h.connections ++ [client] }

/-- `stopConnection` (`collector/DataHandler.cpp:61-66`). -/
def stopConnection (h : DataHandler κ) (client : κ) : DataHandler κ :=
  { h with connections := h.connections.erase client }

/-- A connection gets a value. -/
def deliver (h : DataHandler κ) (value : EmsValue) (client : κ) :
    Except ValueApi.FormatFault (DataHandler κ) :=
  match h.sockets client with
  | some conn => do
      let conn ← conn.handleValue value
      .ok (h.setSocket client conn)
  | none => .ok h

/-- `handleValue` (`collector/DataHandler.cpp:68-73`). -/
def handleValue (h : DataHandler κ) (value : EmsValue) :
    Except ValueApi.FormatFault (DataHandler κ) :=
  h.connections.foldlM (fun h client => h.deliver value client) h

/-- What can happen: a connection is accepted, or accepting fails; a value is handed out; a write
    completes, is aborted or fails. -/
inductive Event (κ : Type) where
  | accepted (client : κ)
  | acceptFailed
  | value (value : EmsValue)
  | wrote (client : κ)
  | writeFailed (client : κ)

/-- `handleAccept` (`collector/DataHandler.cpp:40-53`): after an error nothing is accepted any
    more. -/
def step (h : DataHandler κ) : Event κ → Option (DataHandler κ)
  | .accepted client =>
      if h.accepting ∧ (h.sockets client).isNone then
        some ((h.setSocket client .new).startConnection client)
      else none
  | .acceptFailed => if h.accepting then some { h with accepting := false } else none
  | .value value => (h.handleValue value).toOption
  | .wrote client =>
      match h.sockets client with
      | some conn => if conn.writing = 0 then none else some (h.setSocket client conn.wrote)
      | none => none
  | .writeFailed client =>
      match h.sockets client with
      | some conn =>
          if conn.writing = 0 then none
          else some ((h.setSocket client conn.wrote).stopConnection client)
      | none => none

/-- The data port as a transition system. -/
def system (κ : Type) [DecidableEq κ] : LTS (DataHandler κ) (Event κ) := .ofOption step

end DataHandler

end EmsCollector
