import EmsCollector.Collector.Main
import EmsCollector.Misc.Trace

/-!
# What the database and the cache get to see

The database and the cache live through all sessions. They are what the values give that are
decoded from the bytes of each session, one session after the other: reads, ports and signals make
no difference, and a frame that the loss of the line has cut off is not continued in the next
session.
-/

namespace EmsCollector

namespace IoHandler

/-- The same state, up to the members that the constructor leaves uninitialised, as long as they
    are not written. -/
structure Agrees (h h' : IoHandler) : Prop where
  state : h.state = h'.state
  pos : h.pos = h'.pos
  data : h.data = h'.data
  inside : h.state = .data ∨ h.state = .checksum → h.length = h'.length ∧ h.checkSum = h'.checkSum

variable {h h' : IoHandler}

theorem start_agrees (length length' : Nat) (checkSum checkSum' : UInt8) :
    (start length checkSum).Agrees (start length' checkSum') :=
  ⟨rfl, rfl, rfl, by rintro (state | state) <;> cases state⟩

theorem Agrees.handleByte (agrees : h.Agrees h') (b : UInt8) :
    (h.handleByte b).1.Agrees (h'.handleByte b).1 ∧ (h.handleByte b).2 = (h'.handleByte b).2 := by
  obtain ⟨state, pos, data, inside⟩ := agrees
  obtain ⟨st, p, l, c, d⟩ := h
  obtain ⟨st', p', l', c', d'⟩ := h'
  dsimp only at state pos data inside
  subst state pos data
  cases st with
  | syncing =>
      by_cases first : p = 0 ∧ b = 0xaa
      · simp only [IoHandler.handleByte, if_pos first, and_true]
        exact ⟨rfl, rfl, rfl, by rintro (state | state) <;> cases state⟩
      · by_cases second : p = 1 ∧ b = 0x55
        · simp only [IoHandler.handleByte, if_neg first, if_pos second, and_true]
          exact ⟨rfl, rfl, rfl, by rintro (state | state) <;> cases state⟩
        · simp only [IoHandler.handleByte, if_neg first, if_neg second, and_true]
          exact ⟨rfl, rfl, rfl, by rintro (state | state) <;> cases state⟩
  | length => exact ⟨⟨rfl, rfl, rfl, fun _ => ⟨rfl, rfl⟩⟩, rfl⟩
  | data =>
      obtain ⟨rfl, rfl⟩ := inside (.inl rfl)
      exact ⟨⟨rfl, rfl, rfl, fun _ => ⟨rfl, rfl⟩⟩, rfl⟩
  | checksum =>
      obtain ⟨rfl, rfl⟩ := inside (.inr rfl)
      exact ⟨⟨rfl, rfl, rfl, fun _ => ⟨rfl, rfl⟩⟩, rfl⟩

/-- What the constructor leaves uninitialised has no influence on the payloads. -/
theorem Agrees.readComplete (agrees : h.Agrees h') (bytes : List UInt8) :
    (h.readComplete bytes).2 = (h'.readComplete bytes).2 := by
  induction bytes generalizing h h' with
  | nil => rfl
  | cons b rest ih =>
      obtain ⟨next, payload⟩ := agrees.handleByte b
      rw [readComplete_cons, readComplete_cons, payload, ih next]

end IoHandler

namespace Collector

/-- The values of a payload, none if its handling fails. -/
def payloadValues (payload : List UInt8) : List EmsValue :=
  ((EmsMessage.receive payload).toOption.bind fun message => message.handle.toOption).getD []

/-- The telegram of a payload, if it is for the PC. -/
def pcMessage (payload : List UInt8) : Option EmsMessage :=
  (EmsMessage.receive payload).toOption.filter fun message =>
    message.dest ||| 0x80 = EmsProto.addressPC

/-- The payloads in the bytes of a session. -/
def payloads (bytes : List UInt8) : List (List UInt8) := ((IoHandler.start 0 0).readComplete bytes).2

/-- The values in the bytes of a session. -/
def decoded (bytes : List UInt8) : List EmsValue := (payloads bytes).flatMap payloadValues

/-- Values with the times at which they are taken, the first of them as the `n`-th. -/
def stamped (clock : Nat → TimeT) (n : Nat) (values : List EmsValue) : List (TimeT × EmsValue) :=
  (values.zipIdx n).map fun (value, i) => (clock i, value)

/-- What the database makes of values. -/
def recorded (w : Surroundings) (n : Nat) (database : Database) (values : List EmsValue) : Database :=
  (values.zipIdx n).foldl (fun database (value, i) =>
    (database.handleValue w.rateLimit (w.databaseTime i) (w.queries i) value).toOption.getD database)
    database

/-- What the stores make of values. -/
def stored (w : Surroundings) (stores : Stores) (values : List EmsValue) : Stores where
  database := recorded w stores.values stores.database values
  cache := stores.cache.handleValues (stamped w.cacheTime stores.values values)
  values := stores.values + values.length

section Reads

variable {κ δ : Type} [DecidableEq κ] [DecidableEq δ] {w : Surroundings} {stores stores' : Stores}
  {session session' : Handlers κ δ}

theorem stored_append (values more : List EmsValue) :
    stored w stores (values ++ more) = stored w (stored w stores values) more := by
  unfold stored recorded stamped ValueCache.handleValues
  simp only [List.zipIdx_append, List.foldl_append, List.map_append, List.length_append,
    Nat.add_assoc]

theorem store_stored {value : EmsValue} (took : store w stores value = some stores') :
    stores' = stored w stores [value] := by
  unfold store at took
  dsimp only at took
  cases ran : stores.database.handleValue w.rateLimit (w.databaseTime stores.values)
      (w.queries stores.values) value with
  | error fault =>
      rw [ran] at took
      cases took
  | ok database =>
      rw [ran] at took
      cases took
      unfold stored recorded stamped
      simp only [List.zipIdx_singleton, List.foldl_cons, List.foldl_nil, ran]
      rfl

/-- The data port takes values. -/
def dataAll (data : Option (DataHandler δ)) (values : List EmsValue) :
    Option (Option (DataHandler δ)) :=
  values.foldlM (fun data value => data.mapM fun data => (data.handleValue value).toOption) data

omit [DecidableEq κ] in
/-- What the values of a telegram do. -/
theorem handleValues_spec {values : List EmsValue}
    (took : values.foldlM (handleValue w) (stores, session) = some (stores', session')) :
    stores' = stored w stores values ∧ dataAll session.data values = some session'.data ∧
      session'.handler = session.handler ∧ session'.commands = session.commands ∧
      session'.telegrams = session.telegrams := by
  induction values generalizing stores session with
  | nil =>
      cases took
      exact ⟨rfl, rfl, rfl, rfl, rfl⟩
  | cons value rest ih =>
      rw [List.foldlM_cons] at took
      obtain ⟨⟨middle, between⟩, first, took⟩ := Option.bind_eq_some_iff.mp took
      unfold handleValue at first
      obtain ⟨taken, store, first⟩ := Option.bind_eq_some_iff.mp first
      obtain ⟨data, delivered, first⟩ := Option.bind_eq_some_iff.mp first
      cases first
      obtain ⟨stored', data', kept⟩ := ih took
      refine ⟨?_, ?_, kept⟩
      · rw [stored', store_stored store, ← stored_append]
        rfl
      · unfold dataAll at data' ⊢
        rw [List.foldlM_cons, delivered]
        exact data'

/-- The scheduler gets the telegrams for the PC. -/
def commandsAll (w : Surroundings) (commands : Option (System κ)) (n : Nat)
    (messages : List EmsMessage) : Option (Option (System κ)) :=
  (messages.zipIdx n).foldlM (fun commands (message, i) =>
    commands.mapM fun commands => commands.step (.telegram (w.telegramTime i) message)) commands

/-- What the payloads of a read do. -/
structure Takes (w : Surroundings) (stores : Stores) (session : Handlers κ δ)
    (payloads : List (List UInt8)) (stores' : Stores) (session' : Handlers κ δ) : Prop where
  stores : stores' = stored w stores (payloads.flatMap payloadValues)
  data : dataAll session.data (payloads.flatMap payloadValues) = some session'.data
  commands : commandsAll w session.commands session.telegrams (payloads.filterMap pcMessage) =
    some session'.commands
  telegrams : session'.telegrams = session.telegrams + (payloads.filterMap pcMessage).length

theorem Takes.nil : Takes w stores session [] stores session :=
  ⟨rfl, rfl, rfl, rfl⟩

theorem Takes.append {first rest : List (List UInt8)} {middle : Stores} {between : Handlers κ δ}
    (takes : Takes w stores session first middle between)
    (takes' : Takes w middle between rest stores' session') :
    Takes w stores session (first ++ rest) stores' session' := by
  refine ⟨?_, ?_, ?_, ?_⟩
  · rw [List.flatMap_append, stored_append, ← takes.stores, takes'.stores]
  · have data := takes'.data
    have before := takes.data
    unfold dataAll at data before ⊢
    rw [List.flatMap_append, List.foldlM_append, before]
    exact data
  · have commands := takes'.commands
    have before := takes.commands
    rw [takes.telegrams] at commands
    unfold commandsAll at commands before ⊢
    rw [List.filterMap_append, List.zipIdx_append, List.foldlM_append, before]
    exact commands
  · rw [List.filterMap_append, List.length_append, takes'.telegrams, takes.telegrams, Nat.add_assoc]

/-- What a payload does. -/
theorem handlePayload_takes {payload : List UInt8}
    (took : handlePayload w (stores, session) payload = some (stores', session')) :
    Takes w stores session [payload] stores' session' ∧ session'.handler = session.handler := by
  unfold handlePayload at took
  obtain ⟨message, received, took⟩ := Option.bind_eq_some_iff.mp took
  obtain ⟨values, handled, took⟩ := Option.bind_eq_some_iff.mp took
  obtain ⟨⟨middle, between⟩, handed, took⟩ := Option.bind_eq_some_iff.mp took
  obtain ⟨stores, data, handler, commands, telegrams⟩ := handleValues_spec handed
  have told : payloadValues payload = values := by
    unfold payloadValues
    rw [received]
    show message.handle.toOption.getD [] = values
    rw [handled]
    rfl
  have single : [payload].flatMap payloadValues = values := by simp [told]
  have address : pcMessage payload =
      if message.dest ||| 0x80 = EmsProto.addressPC then some message else none := by
    unfold pcMessage
    rw [received, Option.filter_some]
    simp only [decide_eq_true_eq]
  dsimp only at took
  split at took
  · rename_i pc
    rw [if_pos pc] at address
    obtain ⟨after, onPc, took⟩ := Option.bind_eq_some_iff.mp took
    cases took
    unfold onPcMessageReceived at onPc
    obtain ⟨commands', stepped, onPc⟩ := Option.bind_eq_some_iff.mp onPc
    cases onPc
    rw [commands, telegrams] at stepped
    have one : [payload].filterMap pcMessage = [message] := by simp [address]
    refine ⟨⟨single ▸ stores, single ▸ data, ?_, ?_⟩, handler⟩
    · rw [one]
      unfold commandsAll
      simp only [List.zipIdx_singleton, List.foldlM_cons, List.foldlM_nil, stepped]
      rfl
    · rw [one, ← telegrams]
      rfl
  · rename_i other
    rw [if_neg other] at address
    cases took
    have none' : [payload].filterMap pcMessage = [] := by simp [address]
    refine ⟨⟨single ▸ stores, single ▸ data, ?_, ?_⟩, handler⟩
    · rw [none', commands]
      rfl
    · rw [none', telegrams]
      rfl

/-- What a byte does: it may complete a payload. -/
theorem handleByte_takes {b : UInt8}
    (took : handleByte w (stores, session) b = some (stores', session')) :
    Takes w stores session (session.handler.handleByte b).2.toList stores' session' ∧
      session'.handler = (session.handler.handleByte b).1 := by
  unfold handleByte at took
  dsimp only at took
  cases found : (session.handler.handleByte b).2 with
  | none =>
      rw [found] at took
      cases took
      exact ⟨⟨rfl, rfl, rfl, rfl⟩, rfl⟩
  | some payload =>
      rw [found] at took
      obtain ⟨takes, handler⟩ := handlePayload_takes took
      exact ⟨⟨takes.stores, takes.data, takes.commands, takes.telegrams⟩, handler⟩

/-- What a read does: the payloads that the decoder finds in it are handled one after the other. -/
theorem readComplete_takes {bytes : List UInt8}
    (took : readComplete w (stores, session) bytes = some (stores', session')) :
    Takes w stores session (session.handler.readComplete bytes).2 stores' session' ∧
      session'.handler = (session.handler.readComplete bytes).1 := by
  unfold readComplete at took
  induction bytes generalizing stores session with
  | nil =>
      cases took
      exact ⟨.nil, rfl⟩
  | cons b rest ih =>
      rw [List.foldlM_cons] at took
      obtain ⟨⟨middle, between⟩, first, took⟩ := Option.bind_eq_some_iff.mp took
      obtain ⟨takes, handler⟩ := handleByte_takes first
      obtain ⟨takes', handler'⟩ := ih took
      rw [handler] at takes' handler'
      rw [IoHandler.readComplete_cons]
      exact ⟨takes.append takes', handler'⟩

end Reads

section Sessions

variable {κ δ : Type} [DecidableEq κ] [DecidableEq δ] {w : Surroundings} {setup : Setup}
  {c c' : Collector κ δ} {e : Event κ δ}

/-- The bytes of the past sessions, and of the last one. -/
def hear (heard : List (List UInt8) × List UInt8) : Event κ δ → List (List UInt8) × List UInt8
  | .read bytes => (heard.1, heard.2 ++ bytes)
  | .retry _ _ => (heard.1 ++ [heard.2], [])
  | _ => heard

/-- The bytes of each session. -/
def heard (es : List (Event κ δ)) : List (List UInt8) × List UInt8 := es.foldl hear ([], [])

/-- The values in the bytes of all sessions. -/
def values (es : List (Event κ δ)) : List EmsValue :=
  ((heard es).1 ++ [(heard es).2]).flatMap decoded

omit [DecidableEq κ] [DecidableEq δ] in
theorem heard_snoc (es : List (Event κ δ)) (e : Event κ δ) : heard (es ++ [e]) = hear (heard es) e := by
  unfold heard
  rw [List.foldl_append]
  rfl

/-- The decoder is where the bytes of its session have led it. -/
def Decodes (handler : IoHandler) (bytes : List UInt8) : Prop :=
  ∃ length checkSum, handler = ((IoHandler.start length checkSum).readComplete bytes).1

theorem Decodes.append {handler : IoHandler} {bytes : List UInt8} (decodes : Decodes handler bytes)
    (more : List UInt8) : Decodes (handler.readComplete more).1 (bytes ++ more) := by
  obtain ⟨length, checkSum, rfl⟩ := decodes
  exact ⟨length, checkSum, by rw [IoHandler.readComplete_append]⟩

/-- The payloads of more bytes are the ones that the decoder finds in them. -/
theorem Decodes.payloads {handler : IoHandler} {bytes : List UInt8} (decodes : Decodes handler bytes)
    (more : List UInt8) :
    payloads (bytes ++ more) = payloads bytes ++ (handler.readComplete more).2 := by
  obtain ⟨length, checkSum, rfl⟩ := decodes
  have same := IoHandler.start_agrees 0 length 0 checkSum
  unfold Collector.payloads
  rw [same.readComplete, same.readComplete, IoHandler.readComplete_append]

/-- The stores are what the values give; the decoder is where the bytes of the session lead. -/
structure Followed (w : Surroundings) (stores : Stores) (es : List (Event κ δ)) (c : Collector κ δ) :
    Prop where
  stores : c.stores = stored w stores (values es)
  decodes : ∀ session, c.session = some session → Decodes session.handler (heard es).2

omit [DecidableEq κ] [DecidableEq δ] in
/-- An event that brings no bytes. -/
theorem Followed.quiet {stores : Stores} {es : List (Event κ δ)} (followed : Followed w stores es c)
    (silent : hear (heard es) e = heard es) (same : c'.stores = c.stores)
    (kept : ∀ session', c'.session = some session' →
      ∃ session, c.session = some session ∧ session'.handler = session.handler) :
    Followed w stores (es ++ [e]) c' := by
  have bytes : heard (es ++ [e]) = heard es := (heard_snoc es e).trans silent
  refine ⟨?_, fun session' now => ?_⟩
  · unfold values
    rw [bytes, same]
    exact followed.stores
  · obtain ⟨session, before, handler⟩ := kept session' now
    rw [bytes, handler]
    exact followed.decodes session before

theorem followed_read {stores : Stores} {es : List (Event κ δ)} {bytes : List UInt8}
    (followed : Followed w stores es c) (next : step w setup c (.read bytes) = some c') :
    Followed w stores (es ++ [.read bytes]) c' := by
  obtain ⟨session, before, next⟩ := Option.bind_eq_some_iff.mp next
  split at next
  case isFalse => cases next
  obtain ⟨⟨stores', session'⟩, took, next⟩ := Option.bind_eq_some_iff.mp next
  cases next
  obtain ⟨takes, handler⟩ := readComplete_takes took
  have decodes := followed.decodes session before
  have bytes' : heard (es ++ [.read bytes]) = ((heard es).1, (heard es).2 ++ bytes) :=
    heard_snoc es _
  refine ⟨?_, fun session'' now => ?_⟩
  · have grown : values (es ++ [.read bytes]) =
        values es ++ (session.handler.readComplete bytes).2.flatMap payloadValues := by
      unfold values
      rw [bytes']
      simp only [List.flatMap_append, List.flatMap_singleton, decoded, decodes.payloads,
        List.append_assoc]
    rw [grown, stored_append, ← followed.stores]
    exact takes.stores
  · cases now
    rw [bytes', handler]
    exact decodes.append bytes

/-- A new session begins without bytes. -/
theorem followed_retry {stores : Stores} {es : List (Event κ δ)} {length : Nat} {checkSum : UInt8}
    (followed : Followed w stores es c)
    (next : step w setup c (.retry length checkSum) = some c') :
    Followed w stores (es ++ [.retry length checkSum]) c' := by
  simp only [step] at next
  split at next
  case isFalse => cases next
  cases next
  have bytes : heard (es ++ [.retry length checkSum]) = ((heard es).1 ++ [(heard es).2], []) :=
    heard_snoc es _
  refine ⟨?_, fun session now => ?_⟩
  · have same : values (es ++ [.retry length checkSum]) = values es := by
      unfold values
      rw [bytes]
      simp [decoded, payloads]
    rw [same]
    exact followed.stores
  · cases now
    rw [bytes]
    exact ⟨length, checkSum, rfl⟩

theorem followed_step {stores : Stores} {es : List (Event κ δ)} (followed : Followed w stores es c)
    (next : step w setup c e = some c') : Followed w stores (es ++ [e]) c' := by
  cases e with
  | read bytes => exact followed_read followed next
  | closed =>
      obtain ⟨session, before, next⟩ := Option.map_eq_some_iff.mp next
      cases next
      exact followed.quiet rfl rfl (fun session' now => absurd now nofun)
  | commands e =>
      obtain ⟨session, before, next⟩ := Option.bind_eq_some_iff.mp next
      obtain ⟨commands, -, next⟩ := Option.bind_eq_some_iff.mp next
      obtain ⟨e', -, next⟩ := Option.bind_eq_some_iff.mp next
      obtain ⟨commands', -, next⟩ := Option.bind_eq_some_iff.mp next
      cases next
      exact followed.quiet rfl rfl (fun session' now => ⟨session, before, by cases now; rfl⟩)
  | data e =>
      obtain ⟨session, before, next⟩ := Option.bind_eq_some_iff.mp next
      obtain ⟨data, -, next⟩ := Option.bind_eq_some_iff.mp next
      obtain ⟨e', -, next⟩ := Option.bind_eq_some_iff.mp next
      obtain ⟨data', -, next⟩ := Option.bind_eq_some_iff.mp next
      cases next
      exact followed.quiet rfl rfl (fun session' now => ⟨session, before, by cases now; rfl⟩)
  | signal =>
      simp only [step] at next
      split at next
      case isFalse => cases next
      cases next
      exact followed.quiet rfl rfl (fun session' now => absurd now nofun)
  | retry length checkSum => exact followed_retry followed next

theorem followed_run {ok : Collector κ δ → Event κ δ → Prop} {database : Database} {length : Nat}
    {checkSum : UInt8} {es : List (Event κ δ)}
    (run : (system w setup κ δ).Run ok (start setup database length checkSum) es c) :
    Followed w (start setup database length checkSum : Collector κ δ).stores es c := by
  induction run with
  | nil =>
      refine ⟨rfl, fun session now => ?_⟩
      cases now
      exact ⟨length, checkSum, rfl⟩
  | snoc _ _ next ih => exact followed_step ih next

/-- In every run, the database and the cache have taken exactly the values that are decoded from
    the bytes of each session on its own, in order. -/
theorem stores_follow_line {ok : Collector κ δ → Event κ δ → Prop} {database : Database} {length : Nat}
    {checkSum : UInt8} {es : List (Event κ δ)}
    (run : (system w setup κ δ).Run ok (start setup database length checkSum) es c) :
    c.stores.values = (values es).length ∧
      c.stores.cache = ValueCache.handleValues ⟨[]⟩ (stamped w.cacheTime 0 (values es)) ∧
      c.stores.database = recorded w 0 database (values es) := by
  have followed := (followed_run run).stores
  rw [followed]
  exact ⟨Nat.zero_add _, rfl, rfl⟩

/-- Nothing is known of the database, and nothing answers. -/
def offline : Database :=
  { connected := false, lastWrites := fun _ => none, lastInsertIds := fun _ => none
    numeric := ⟨fun _ => none, []⟩, boolean := ⟨fun _ => none, []⟩, state := ⟨fun _ => none, []⟩ }

/-- Clocks that count, and queries that fail. -/
def counted : Surroundings :=
  { rateLimit := 60, databaseTime := fun n => n, queries := fun _ => ⟨false, none⟩
    cacheTime := fun n => n, telegramTime := fun n => n }

/-- A frame with an outdoor temperature is cut off, and comes again in two reads when the line is
    back. -/
def lineLost : List (Event Unit Unit) :=
  [.read [0xaa, 0x55, 0x06, 0x88, 0x00], .closed, .retry 9 9,
    .read [0xaa, 0x55, 0x06, 0x88, 0x00, 0xd1], .read [0x00, 0x00, 0x7b, 0x22]]

/-- The temperature is taken once. -/
theorem stores_follow_line_lost :
    ∃ c, (system counted ⟨.serial, true⟩ Unit Unit).Run (fun _ _ => True)
        (start ⟨.serial, true⟩ offline 0 0) lineLost c ∧
      values lineLost = [⟨.istTemp, .aussen, .numeric, .numeric (123 / 10), true⟩] ∧
      c.stores.values = 1 := by
  let last := (lineLost.foldlM
    (fun (c : Collector Unit Unit) e => if True then step counted ⟨.serial, true⟩ c e else none)
    (start ⟨.serial, true⟩ offline 0 0)).get (by decide +kernel)
  have run : (system counted ⟨.serial, true⟩ Unit Unit).Run (fun _ _ => True)
      (start ⟨.serial, true⟩ offline 0 0) lineLost last :=
    .ofFold (Option.some_get (by decide +kernel)).symm
  have heard : values lineLost = [⟨.istTemp, .aussen, .numeric, .numeric (123 / 10), true⟩] := by
    decide +kernel
  obtain ⟨count, -⟩ := stores_follow_line run
  exact ⟨last, run, heard, count.trans (congrArg List.length heard)⟩

end Sessions

end Collector

end EmsCollector
