import EmsCollector.Collector.DataHandlerProof.Broadcast
import EmsCollector.Collector.MainProof.Stores

/-!
# The ports of a session

While a session lasts, its data port takes the steps of a data port, and its command port and
scheduler take those of the command port, with what is decoded from the line between them: the
values for the one, the telegrams for the PC for the other.
-/

namespace EmsCollector.Collector

variable {κ δ : Type} [DecidableEq κ] [DecidableEq δ] {w : Surroundings} {setup : Setup}
  {c c' : Collector κ δ} {e : Event κ δ}

/-- The bytes that an event brings. -/
def Event.bytes : Event κ δ → List UInt8
  | .read bytes => bytes
  | _ => []

/-- An event that leaves the session as it is. -/
def Event.within : Event κ δ → Bool
  | .read _ | .commands _ | .data _ => true
  | .closed | .signal | .retry _ _ => false

/-- The bytes of a session. -/
def bytesOf (es : List (Event κ δ)) : List UInt8 := es.flatMap Event.bytes

/-- The payloads that a read completes. -/
def received (before : List (Event κ δ)) (bytes : List UInt8) : List (List UInt8) :=
  (((IoHandler.start 0 0).readComplete (bytesOf before)).1.readComplete bytes).2

/-- What an event of the collector is to the data port. -/
def toData (before : List (Event κ δ)) : Event κ δ → List (DataHandler.Event δ)
  | .read bytes => ((received before bytes).flatMap payloadValues).map .value
  | .data e => (dataEvent e).toList
  | _ => []

/-- What it is to the command port; `stores` are the ones with which the session begins. -/
def toCommands (w : Surroundings) (stores : Stores) (before : List (Event κ δ)) :
    Event κ δ → List (System.Event κ)
  | .read bytes =>
      (((received before bytes).filterMap pcMessage).zipIdx
        ((payloads (bytesOf before)).filterMap pcMessage).length).map
          fun (message, i) => .telegram (w.telegramTime i) message
  | .commands e => (commandEvent (stored w stores (decoded (bytesOf before))).cache e).toList
  | _ => []

omit [DecidableEq κ] [DecidableEq δ] in
theorem bytesOf_snoc (es : List (Event κ δ)) (e : Event κ δ) :
    bytesOf (es ++ [e]) = bytesOf es ++ e.bytes := by
  simp [bytesOf]

/-- The telegram from the bus that a step of the command port takes, and when. -/
def arrival : System.Event κ → Option (Time × EmsMessage)
  | .telegram now message => some (now, message)
  | _ => none

/-- The telegrams for the PC among payloads, with the times at which the scheduler takes them. -/
def arrivals (w : Surroundings) (payloads : List (List UInt8)) : List (Time × EmsMessage) :=
  (payloads.filterMap pcMessage).zipIdx.map fun entry => (w.telegramTime entry.2, entry.1)

/-- The data port takes values as steps of its own. -/
theorem dataAll_run {data : DataHandler δ} {values : List EmsValue} {data' : Option (DataHandler δ)}
    (took : dataAll (some data) values = some data') :
    ∃ after, data' = some after ∧
      (DataHandler.system δ).Run (fun _ _ => True) data (values.map .value) after := by
  induction values generalizing data with
  | nil =>
      cases took
      exact ⟨data, rfl, .nil⟩
  | cons value rest ih =>
      unfold dataAll at took
      rw [List.foldlM_cons] at took
      obtain ⟨middle, first, took⟩ := Option.bind_eq_some_iff.mp took
      obtain ⟨between, delivered, same⟩ := Option.map_eq_some_iff.mp first
      subst same
      obtain ⟨after, same, run⟩ := ih took
      exact ⟨after, same, .cons trivial delivered run⟩

/-- There is a data port afterwards exactly if there was one. -/
theorem dataAll_isSome {data data' : Option (DataHandler δ)} {values : List EmsValue}
    (took : dataAll data values = some data') : data'.isSome = data.isSome := by
  cases data with
  | some data =>
      obtain ⟨after, rfl, -⟩ := dataAll_run took
      rfl
  | none =>
      have stays : dataAll (none : Option (DataHandler δ)) values = some none := by
        unfold dataAll
        induction values with
        | nil => rfl
        | cons value rest ih => exact ih (took.trans rfl)
      rw [stays] at took
      cases took
      rfl

/-- The scheduler takes the telegrams as steps of its own. -/
theorem commandsAll_run {commands : System κ} {n : Nat} {messages : List EmsMessage}
    {commands' : Option (System κ)} (took : commandsAll w (some commands) n messages = some commands') :
    ∃ after, commands' = some after ∧ (System.system κ).Run (fun _ _ => True) commands
      ((messages.zipIdx n).map fun (message, i) => .telegram (w.telegramTime i) message) after := by
  induction messages generalizing commands n with
  | nil =>
      cases took
      exact ⟨commands, rfl, .nil⟩
  | cons message rest ih =>
      unfold commandsAll at took
      rw [List.zipIdx_cons, List.foldlM_cons] at took
      obtain ⟨middle, first, took⟩ := Option.bind_eq_some_iff.mp took
      obtain ⟨between, stepped, same⟩ := Option.map_eq_some_iff.mp first
      subst same
      obtain ⟨after, same, run⟩ := ih took
      exact ⟨after, same, .cons trivial stepped run⟩

/-- There is a scheduler afterwards exactly if there was one. -/
theorem commandsAll_isSome {commands commands' : Option (System κ)} {n : Nat}
    {messages : List EmsMessage} (took : commandsAll w commands n messages = some commands') :
    commands'.isSome = commands.isSome := by
  cases commands with
  | some commands =>
      obtain ⟨after, rfl, -⟩ := commandsAll_run took
      rfl
  | none =>
      have stays : ∀ n, commandsAll w (none : Option (System κ)) n messages = some none := by
        clear took
        unfold commandsAll
        induction messages with
        | nil => exact fun _ => rfl
        | cons message rest ih => exact fun n => ih (n + 1)
      rw [stays] at took
      cases took
      rfl

omit [DecidableEq κ] in
/-- No other event of the command port is a telegram. -/
theorem commandEvent_arrival {cache : ValueCache} {e e' : System.Event κ}
    (event : commandEvent cache e = some e') : arrival e' = none := by
  cases e with
  | telegram now message => cases event
  | _ =>
      cases event
      rfl

omit [DecidableEq κ] [DecidableEq δ] in
/-- The telegrams among the steps of the command port are the ones decoded from the line. -/
theorem arrivals_traced (begun : Stores) (es : List (Event κ δ)) :
    (Trace.traced (toCommands w begun) es).filterMap arrival =
      arrivals w (payloads (bytesOf es)) := by
  induction es using List.reverseRecOn with
  | nil => rfl
  | append_singleton es e ih =>
      rw [Trace.traced_snoc, List.filterMap_append, ih, bytesOf_snoc]
      have other (none' : (toCommands w begun es e).filterMap arrival = []) (same : e.bytes = []) :
          arrivals w (payloads (bytesOf es)) ++ (toCommands w begun es e).filterMap arrival =
            arrivals w (payloads (bytesOf es ++ e.bytes)) := by
        rw [none', same, List.append_nil, List.append_nil]
      cases e with
      | read bytes =>
          have more : payloads (bytesOf es ++ bytes) = payloads (bytesOf es) ++ received es bytes := by
            unfold payloads received
            rw [IoHandler.readComplete_append]
          show arrivals w (payloads (bytesOf es)) ++
              (toCommands w begun es (.read bytes)).filterMap arrival =
            arrivals w (payloads (bytesOf es ++ bytes))
          unfold toCommands arrivals
          rw [more, List.filterMap_append, List.zipIdx_append, List.map_append, List.filterMap_map]
          simp [Function.comp_def, arrival]
      | commands e =>
          refine other ?_ rfl
          show (commandEvent (stored w begun (decoded (bytesOf es))).cache e).toList.filterMap arrival = []
          cases event : commandEvent (stored w begun (decoded (bytesOf es))).cache e with
          | none => rfl
          | some e' => exact List.filterMap_cons_none (commandEvent_arrival event)
      | data e => exact other rfl rfl
      | closed => exact other rfl rfl
      | signal => exact other rfl rfl
      | retry length checkSum => exact other rfl rfl

/-- The session that was begun with `stores`, after its events `es`. -/
structure Serves (w : Surroundings) (setup : Setup) (begun : Stores) (es : List (Event κ δ))
    (c : Collector κ δ) (session : Handlers κ δ) : Prop where
  current : c.session = some session
  stores : c.stores = stored w begun (decoded (bytesOf es))
  decodes : Decodes session.handler (bytesOf es)
  telegrams : session.telegrams = ((payloads (bytesOf es)).filterMap pcMessage).length
  data : ∀ data, session.data = some data →
    (DataHandler.system δ).Run (fun _ _ => True) .init (Trace.traced toData es) data
  commands : ∀ commands, session.commands = some commands →
    (System.system κ).Run (fun _ _ => True) .init (Trace.traced (toCommands w begun) es) commands
  dataPort : session.data.isSome = setup.dataPort
  sends : session.commands.isSome = setup.target.sends

theorem serves_read {stores : Stores} {es : List (Event κ δ)} {session : Handlers κ δ}
    {bytes : List UInt8} (serves : Serves w setup stores es c session)
    (next : step w setup c (.read bytes) = some c') :
    ∃ session', Serves w setup stores (es ++ [.read bytes]) c' session' := by
  obtain ⟨session, before, next⟩ := Option.bind_eq_some_iff.mp next
  obtain rfl := Option.some.inj (serves.current.symm.trans before)
  split at next
  case isFalse => cases next
  obtain ⟨⟨stores', session'⟩, took, next⟩ := Option.bind_eq_some_iff.mp next
  cases next
  obtain ⟨takes, handler⟩ := readComplete_takes took
  have bytes' : bytesOf (es ++ [.read bytes]) = bytesOf es ++ bytes := bytesOf_snoc es _
  have found : received es bytes = (session.handler.readComplete bytes).2 := by
    have first := serves.decodes.payloads bytes
    unfold payloads at first
    rw [IoHandler.readComplete_append] at first
    exact List.append_cancel_left first
  refine ⟨session', rfl, ?_, ?_, ?_, fun data now => ?_, fun commands now => ?_, ?_, ?_⟩
  · rw [bytes']
    show stores' = _
    unfold decoded
    rw [takes.stores, serves.stores, ← stored_append, serves.decodes.payloads, List.flatMap_append]
    rfl
  · rw [bytes', handler]
    exact serves.decodes.append bytes
  · rw [bytes', takes.telegrams, serves.telegrams, serves.decodes.payloads, List.filterMap_append,
      List.length_append]
  · have took := takes.data
    rw [now] at took
    obtain ⟨before, old⟩ := Option.isSome_iff_exists.mp ((dataAll_isSome took).symm.trans rfl)
    rw [old] at took
    obtain ⟨after, same, run⟩ := dataAll_run took
    cases same
    rw [Trace.traced_snoc]
    refine (serves.data before old).append ?_
    show (DataHandler.system δ).Run _ before
      (((received es bytes).flatMap payloadValues).map .value) data
    rw [found]
    exact run
  · have took := takes.commands
    rw [now] at took
    obtain ⟨before, old⟩ := Option.isSome_iff_exists.mp ((commandsAll_isSome took).symm.trans rfl)
    rw [old] at took
    obtain ⟨after, same, run⟩ := commandsAll_run took
    cases same
    rw [Trace.traced_snoc]
    refine (serves.commands before old).append ?_
    show (System.system κ).Run _ before ((((received es bytes).filterMap pcMessage).zipIdx
      ((payloads (bytesOf es)).filterMap pcMessage).length).map
        fun (message, i) => .telegram (w.telegramTime i) message) commands
    rw [found, ← serves.telegrams]
    exact run
  · exact (dataAll_isSome takes.data).trans serves.dataPort
  · exact (commandsAll_isSome takes.commands).trans serves.sends

theorem serves_commands {stores : Stores} {es : List (Event κ δ)} {session : Handlers κ δ}
    {e : System.Event κ} (serves : Serves w setup stores es c session)
    (next : step w setup c (.commands e) = some c') :
    ∃ session', Serves w setup stores (es ++ [.commands e]) c' session' := by
  obtain ⟨session, before, next⟩ := Option.bind_eq_some_iff.mp next
  obtain rfl := Option.some.inj (serves.current.symm.trans before)
  obtain ⟨commands, old, next⟩ := Option.bind_eq_some_iff.mp next
  obtain ⟨e', event, next⟩ := Option.bind_eq_some_iff.mp next
  obtain ⟨commands', stepped, next⟩ := Option.bind_eq_some_iff.mp next
  cases next
  have bytes' : bytesOf (es ++ [.commands e]) = bytesOf es :=
    (bytesOf_snoc es _).trans (List.append_nil _)
  refine ⟨_, rfl, ?_, ?_, ?_, fun data now => ?_, fun commands'' now => ?_, serves.dataPort,
    (congrArg Option.isSome old).symm.trans serves.sends⟩
  · rw [bytes']
    exact serves.stores
  · rw [bytes']
    exact serves.decodes
  · rw [bytes']
    exact serves.telegrams
  · rw [Trace.traced_snoc]
    show (DataHandler.system δ).Run _ .init (_ ++ []) data
    rw [List.append_nil]
    exact serves.data data now
  · cases now
    rw [Trace.traced_snoc]
    refine (serves.commands commands old).append ?_
    show (System.system κ).Run _ commands
      (commandEvent (stored w stores (decoded (bytesOf es))).cache e).toList commands'
    rw [← serves.stores, event]
    exact .cons trivial stepped .nil

theorem serves_data {stores : Stores} {es : List (Event κ δ)} {session : Handlers κ δ}
    {e : DataHandler.Event δ} (serves : Serves w setup stores es c session)
    (next : step w setup c (.data e) = some c') :
    ∃ session', Serves w setup stores (es ++ [.data e]) c' session' := by
  obtain ⟨session, before, next⟩ := Option.bind_eq_some_iff.mp next
  obtain rfl := Option.some.inj (serves.current.symm.trans before)
  obtain ⟨data, old, next⟩ := Option.bind_eq_some_iff.mp next
  obtain ⟨e', event, next⟩ := Option.bind_eq_some_iff.mp next
  obtain ⟨data', stepped, next⟩ := Option.bind_eq_some_iff.mp next
  cases next
  have bytes' : bytesOf (es ++ [.data e]) = bytesOf es := (bytesOf_snoc es _).trans (List.append_nil _)
  refine ⟨_, rfl, ?_, ?_, ?_, fun data'' now => ?_, fun commands now => ?_,
    (congrArg Option.isSome old).symm.trans serves.dataPort, serves.sends⟩
  · rw [bytes']
    exact serves.stores
  · rw [bytes']
    exact serves.decodes
  · rw [bytes']
    exact serves.telegrams
  · cases now
    rw [Trace.traced_snoc]
    refine (serves.data data old).append ?_
    show (DataHandler.system δ).Run _ data (dataEvent e).toList data'
    rw [event]
    exact .cons trivial stepped .nil
  · rw [Trace.traced_snoc]
    show (System.system κ).Run _ .init (_ ++ []) commands
    rw [List.append_nil]
    exact serves.commands commands now

theorem Serves.new {stores : Stores} {length : Nat} {checkSum : UInt8}
    (begun : c.session = some (.new setup length checkSum)) (same : c.stores = stores) :
    Serves w setup stores [] c (.new setup length checkSum) := by
  refine ⟨begun, same, ⟨length, checkSum, rfl⟩, rfl, fun data now => ?_, fun commands now => ?_, ?_, ?_⟩
  · unfold Handlers.new at now
    dsimp only at now
    split at now
    · cases now
      exact .nil
    · cases now
  · unfold Handlers.new at now
    dsimp only at now
    split at now
    · cases now
      exact .nil
    · cases now
  · unfold Handlers.new
    cases setup.dataPort <;> rfl
  · unfold Handlers.new
    cases setup.target.sends <;> rfl

theorem serves_step {stores : Stores} {es : List (Event κ δ)} {session : Handlers κ δ}
    (serves : Serves w setup stores es c session) (within : e.within = true)
    (next : step w setup c e = some c') :
    ∃ session', Serves w setup stores (es ++ [e]) c' session' := by
  cases e with
  | read bytes => exact serves_read serves next
  | commands e => exact serves_commands serves next
  | data e => exact serves_data serves next
  | closed => cases within
  | signal => cases within
  | retry length checkSum => cases within

/-- While the session lasts. -/
theorem serves_run {ok : Collector κ δ → Event κ δ → Prop} (lasts : ∀ c e, ok c e → e.within = true)
    {length : Nat} {checkSum : UInt8} (begun : c.session = some (.new setup length checkSum))
    {es : List (Event κ δ)} (run : (system w setup κ δ).Run ok c es c') :
    ∃ session, Serves w setup c.stores es c' session := by
  induction run with
  | nil => exact ⟨_, .new begun rfl⟩
  | snoc _ guard next ih =>
      obtain ⟨session, serves⟩ := ih
      exact serves_step serves (lasts _ _ guard) next

/-- In every session, each data connection has got the lines of the values that were decoded from
    the line between its acceptance and its first failed write, in order and nothing else. -/
theorem data_port_follows_line {ok : Collector κ δ → Event κ δ → Prop}
    (lasts : ∀ c e, ok c e → e.within = true) {length : Nat} {checkSum : UInt8}
    (begun : c.session = some (.new setup length checkSum)) {es : List (Event κ δ)}
    (run : (system w setup κ δ).Run ok c es c') (port : setup.dataPort = true) :
    ∃ session data, c'.session = some session ∧ session.data = some data ∧
      ∀ client, data.registered client =
          Trace.switched (DataHandler.registration client) (Trace.traced toData es) ∧
        data.written client =
          Trace.passed (DataHandler.registration client) DataHandler.lines
            (Trace.traced toData es) := by
  obtain ⟨session, serves⟩ := serves_run lasts begun run
  obtain ⟨data, there⟩ := Option.isSome_iff_exists.mp (serves.dataPort.trans port)
  exact ⟨session, data, serves.current, there,
    fun client => DataHandler.written_passed (serves.data data there) client⟩

/-- A client connects to the data port while a frame is coming. -/
def joined : List (Event Unit Unit) :=
  [.read [0xaa, 0x55, 0x06, 0x88, 0x00], .data (.accepted ()), .read [0xd1, 0x00, 0x00, 0x7b, 0x22]]

/-- It gets the value of the frame. -/
theorem data_port_follows_line_joined :
    ∃ (c : Collector Unit Unit) (session : Handlers Unit Unit) (data : DataHandler Unit),
      c.session = some session ∧ session.data = some data ∧
      data.written () = ["outdoor currenttemperature 12.3\n"] := by
  let first : Collector Unit Unit := start ⟨.serial, true⟩ offline 0 0
  let last := (joined.foldlM
    (fun (c : Collector Unit Unit) e =>
      if e.within = true then step counted ⟨.serial, true⟩ c e else none) first).get
    (by decide +kernel)
  have run : (system counted ⟨.serial, true⟩ Unit Unit).Run (fun _ e => e.within = true)
      first joined last := .ofFold (Option.some_get (by decide +kernel)).symm
  obtain ⟨session, data, current, there, follows⟩ :=
    data_port_follows_line (fun _ _ within => within) rfl run rfl
  refine ⟨last, session, data, current, there, (follows ()).2.trans ?_⟩
  decide +kernel

/-- In every session, the scheduler and the command port take the steps of the command port, and
    the telegrams among them are the ones for the PC that are decoded from the line, in order. -/
theorem commands_refine {ok : Collector κ δ → Event κ δ → Prop}
    (lasts : ∀ c e, ok c e → e.within = true) {length : Nat} {checkSum : UInt8}
    (begun : c.session = some (.new setup length checkSum)) {es : List (Event κ δ)}
    (run : (system w setup κ δ).Run ok c es c') (sends : setup.target.sends = true) :
    ∃ session commands, c'.session = some session ∧ session.commands = some commands ∧
      (System.system κ).Run (fun _ _ => True) .init (Trace.traced (toCommands w c.stores) es)
        commands := by
  obtain ⟨session, serves⟩ := serves_run lasts begun run
  obtain ⟨commands, there⟩ := Option.isSome_iff_exists.mp (serves.sends.trans sends)
  exact ⟨session, commands, serves.current, there, serves.commands commands there⟩

/-- A client of the command port connects, and a telegram for the PC comes in two reads. -/
def asked : List (Event Unit Unit) :=
  [.commands (.connect () default), .read [0xaa, 0x55, 0x06, 0x88, 0x0b],
    .read [0xd1, 0x00, 0x00, 0x7b, 0x29]]

/-- The scheduler gets the telegram. -/
theorem commands_refine_asked :
    ∃ (session : Handlers Unit Unit) (commands : System Unit),
      session.commands = some commands ∧
      (System.system Unit).Run (fun _ _ => True) .init
        [.connect () default, .telegram 0 ⟨true, [0x00, 0x7b], 0x88, 0x0b, 0xd1, 0, 0⟩] commands := by
  let first : Collector Unit Unit := start ⟨.tcp, false⟩ offline 0 0
  let last := (asked.foldlM
    (fun (c : Collector Unit Unit) e =>
      if e.within = true then step counted ⟨.tcp, false⟩ c e else none) first).get
    (by decide +kernel)
  have run : (system counted ⟨.tcp, false⟩ Unit Unit).Run (fun _ e => e.within = true)
      first asked last := .ofFold (Option.some_get (by decide +kernel)).symm
  obtain ⟨session, commands, -, there, steps⟩ :=
    commands_refine (fun _ _ within => within) rfl run rfl
  exact ⟨session, commands, there, steps⟩

end EmsCollector.Collector
