import EmsCollector.Collector.DataHandler

/-!
# Every connection of the data port gets every value

Whatever happens to the other connections, a connection gets a line for each value with a name
that is handed out while it is connected, in order, and no other line.
-/

namespace EmsCollector

namespace DataConnection

/-- The line that is written for a value, if there is one. -/
def valueLine (value : EmsValue) : Option String :=
  (valueText value).toOption.join.map (· ++ "\n")

theorem handleValue_written {conn conn' : DataConnection} {value : EmsValue}
    (ran : conn.handleValue value = .ok conn') :
    conn'.written = conn.written ++ (valueLine value).toList := by
  unfold handleValue at ran
  unfold valueLine
  cases text : valueText value with
  | error fault =>
      rw [text] at ran
      cases ran
  | ok text' =>
      rw [text] at ran
      cases text' with
      | none =>
          cases ran
          simp [Except.toOption]
      | some text' =>
          cases ran
          simp [Except.toOption, output]

end DataConnection

namespace DataHandler

variable {κ : Type} [DecidableEq κ] {h h' : DataHandler κ} {client : κ} {value : EmsValue}

/-- The lines given to the socket of a connection. -/
def written (h : DataHandler κ) (client : κ) : List String :=
  ((h.sockets client).map DataConnection.written).getD []

/-- Whether a connection is in `m_connections`. -/
def registered (h : DataHandler κ) (client : κ) : Bool := client ∈ h.connections

/-- What happens to the registration of a connection. -/
def registration (client : κ) : Event κ → Option Bool
  | .accepted other => if other = client then some true else none
  | .writeFailed other => if other = client then some false else none
  | _ => none

/-- The lines that an event has for the connections. -/
def lines : Event κ → List String
  | .value value => (DataConnection.valueLine value).toList
  | _ => []

/-- No connection is registered twice, and each has its socket. -/
structure Inv (h : DataHandler κ) : Prop where
  nodup : h.connections.Nodup
  open' : ∀ client ∈ h.connections, (h.sockets client).isSome

omit [DecidableEq κ] in
theorem init_inv : (init : DataHandler κ).Inv := ⟨List.nodup_nil, nofun⟩

theorem setSocket_sockets (conn : DataConnection) (other : κ) :
    (h.setSocket client conn).sockets other =
      if other = client then some conn else h.sockets other := rfl

theorem setSocket_isSome (conn : DataConnection) {other : κ} (present : (h.sockets other).isSome) :
    ((h.setSocket client conn).sockets other).isSome := by
  rw [setSocket_sockets]
  split
  · rfl
  · exact present

theorem setSocket_written (conn : DataConnection) (other : κ) :
    (h.setSocket client conn).written other =
      if other = client then conn.written else h.written other := by
  unfold written
  rw [setSocket_sockets]
  split <;> rfl

theorem setSocket_wrote {conn : DataConnection} (found : h.sockets client = some conn) (other : κ) :
    (h.setSocket client conn.wrote).written other = h.written other := by
  rw [setSocket_written]
  split
  · rename_i same
    subst same
    unfold written
    rw [found]
    rfl
  · rfl

/-- One connection gets a line, the others keep what they have. -/
theorem deliver_spec (ran : h.deliver value client = .ok h') (present : (h.sockets client).isSome) :
    h'.connections = h.connections ∧ (∀ other, (h.sockets other).isSome → (h'.sockets other).isSome) ∧
      ∀ other, h'.written other = h.written other ++
        (if other = client then (DataConnection.valueLine value).toList else []) := by
  obtain ⟨conn, found⟩ := Option.isSome_iff_exists.mp present
  unfold deliver at ran
  rw [found] at ran
  obtain ⟨conn', taken, rfl⟩ : ∃ conn', conn.handleValue value = .ok conn' ∧
      h.setSocket client conn' = h' := by
    cases taken : conn.handleValue value with
    | error fault =>
        simp only [taken] at ran
        cases ran
    | ok conn' =>
        simp only [taken] at ran
        cases ran
        exact ⟨conn', rfl, rfl⟩
  refine ⟨rfl, fun other => setSocket_isSome conn', fun other => ?_⟩
  rw [setSocket_written]
  split
  · rename_i same
    subst same
    rw [DataConnection.handleValue_written taken]
    unfold written
    rw [found]
    rfl
  · exact (List.append_nil _).symm

/-- Each of several connections gets a line. -/
theorem deliverAll_spec {clients : List κ} (nodup : clients.Nodup)
    (present : ∀ client ∈ clients, (h.sockets client).isSome)
    (ran : clients.foldlM (fun h client => h.deliver value client) h = .ok h') :
    h'.connections = h.connections ∧ (∀ other, (h.sockets other).isSome → (h'.sockets other).isSome) ∧
      ∀ other, h'.written other = h.written other ++
        (if other ∈ clients then (DataConnection.valueLine value).toList else []) := by
  induction clients generalizing h with
  | nil =>
      cases ran
      exact ⟨rfl, fun _ => id, fun _ => by simp⟩
  | cons client rest ih =>
      rw [List.foldlM_cons] at ran
      obtain ⟨fresh, nodup⟩ := List.nodup_cons.mp nodup
      cases first : h.deliver value client with
      | error fault =>
          rw [first] at ran
          cases ran
      | ok g =>
          rw [first] at ran
          obtain ⟨same, kept, wrote⟩ := deliver_spec first (present client List.mem_cons_self)
          obtain ⟨same', kept', wrote'⟩ := ih nodup
            (fun other member => kept other (present other (List.mem_cons_of_mem _ member))) ran
          refine ⟨same'.trans same, fun other => kept' other ∘ kept other, fun other => ?_⟩
          rw [wrote', wrote, List.append_assoc]
          congr 1
          by_cases one : other = client
          · subst one
            simp [fresh]
          · simp [one]

/-- What a step does: to the registrations, and to what has been written. -/
structure Follows (h : DataHandler κ) (e : Event κ) (h' : DataHandler κ) : Prop where
  inv : h'.Inv
  turned : ∀ client, h'.registered client = (registration client e).getD (h.registered client)
  kept : ∀ client, h'.written client =
    h.written client ++ (if h.registered client then lines e else [])

/-- A step that only changes which connections are registered, or accepts. -/
theorem Follows.quiet {e : Event κ} (inv : h'.Inv)
    (turned : ∀ client, h'.registered client = (registration client e).getD (h.registered client))
    (written : ∀ client, h'.written client = h.written client) (silent : lines e = []) :
    Follows h e h' :=
  ⟨inv, turned, fun client => by rw [written, silent, ite_self, List.append_nil]⟩

theorem step_accepted (inv : h.Inv) (next : h.step (.accepted client) = some h') :
    Follows h (.accepted client) h' := by
  simp only [step] at next
  split at next
  case isFalse => cases next
  rename_i allowed
  cases next
  have absent : h.sockets client = none := Option.isNone_iff_eq_none.mp allowed.2
  have unregistered : client ∉ h.connections := by
    intro member
    have present := inv.open' client member
    rw [absent] at present
    cases present
  refine .quiet ⟨?_, ?_⟩ (fun other => ?_) (fun other => ?_) rfl
  · exact List.nodup_append.mpr ⟨inv.nodup, List.nodup_singleton _,
      fun a member b single same => unregistered (List.mem_singleton.mp single ▸ same ▸ member)⟩
  · intro other member
    rcases List.mem_append.mp member with old | new
    · exact setSocket_isSome _ (inv.open' other old)
    · cases List.mem_singleton.mp new
      show ((h.setSocket client .new).sockets client).isSome
      rw [setSocket_sockets, if_pos rfl]
      rfl
  · show decide (other ∈ h.connections ++ [client]) = _
    by_cases same : client = other
    · simp [registration, same]
    · have differs : other ≠ client := fun eq => same eq.symm
      simp [registration, registered, same, differs]
  · show (h.setSocket client .new).written other = h.written other
    rw [setSocket_written]
    split
    · rename_i same
      subst same
      unfold written
      rw [absent]
      rfl
    · rfl

theorem step_value (inv : h.Inv) (next : h.step (.value value) = some h') :
    Follows h (.value value) h' := by
  have ran : h.connections.foldlM (fun h client => h.deliver value client) h = .ok h' := by
    change (h.handleValue value).toOption = some h' at next
    unfold handleValue at next
    cases run : h.connections.foldlM (fun h client => h.deliver value client) h with
    | error fault =>
        rw [run] at next
        cases next
    | ok g =>
        rw [run] at next
        cases next
        rfl
  obtain ⟨same, kept, wrote⟩ := deliverAll_spec inv.nodup inv.open' ran
  refine ⟨⟨same ▸ inv.nodup, fun client member => kept client (inv.open' client (same ▸ member))⟩,
    fun client => ?_, fun client => ?_⟩
  · show decide (client ∈ h'.connections) = decide (client ∈ h.connections)
    rw [same]
  · rw [wrote]
    unfold registered
    simp only [decide_eq_true_eq]
    rfl

omit [DecidableEq κ] in
/-- The completion of a write: there is a write that has not completed. -/
theorem writing_of_step (next : DataHandler κ → DataConnection → DataHandler κ)
    (ran : (match h.sockets client with
      | some conn => if conn.writing = 0 then none else some (next h conn)
      | none => none) = some h') :
    ∃ conn, h.sockets client = some conn ∧ h' = next h conn := by
  cases found : h.sockets client with
  | none =>
      rw [found] at ran
      cases ran
  | some conn =>
      rw [found] at ran
      dsimp only at ran
      split at ran
      · cases ran
      · exact ⟨conn, rfl, (Option.some.inj ran).symm⟩

theorem step_wrote (inv : h.Inv) (next : h.step (.wrote client) = some h') :
    Follows h (.wrote client) h' := by
  obtain ⟨conn, found, rfl⟩ :=
    writing_of_step (fun h conn => h.setSocket client conn.wrote) next
  exact .quiet ⟨inv.nodup, fun other member => setSocket_isSome _ (inv.open' other member)⟩
    (fun _ => rfl) (setSocket_wrote found) rfl

theorem step_writeFailed (inv : h.Inv) (next : h.step (.writeFailed client) = some h') :
    Follows h (.writeFailed client) h' := by
  obtain ⟨conn, found, rfl⟩ := writing_of_step
    (fun h conn => (h.setSocket client conn.wrote).stopConnection client) next
  refine .quiet ⟨inv.nodup.erase _, fun other member => ?_⟩ (fun other => ?_)
    (setSocket_wrote found) rfl
  · exact setSocket_isSome _ (inv.open' other (List.mem_of_mem_erase member))
  · show decide (other ∈ h.connections.erase client) = _
    by_cases same : client = other
    · simp [registration, inv.nodup.mem_erase_iff, same]
    · have differs : other ≠ client := fun eq => same eq.symm
      simp [registration, registered, inv.nodup.mem_erase_iff, same, differs]

theorem step_follows {e : Event κ} (inv : h.Inv) (next : h.step e = some h') : Follows h e h' := by
  cases e with
  | accepted client => exact step_accepted inv next
  | acceptFailed =>
      simp only [step] at next
      split at next
      · cases next
        exact .quiet ⟨inv.nodup, inv.open'⟩ (fun _ => rfl) (fun _ => rfl) rfl
      · cases next
  | value value => exact step_value inv next
  | wrote client => exact step_wrote inv next
  | writeFailed client => exact step_writeFailed inv next

/-- In every run, what has been written to a connection are the lines of the values that were
    handed out between its acceptance and its first failed write. -/
theorem written_passed {ok : DataHandler κ → Event κ → Prop} {es : List (Event κ)}
    (run : (system κ).Run ok init es h) (client : κ) :
    h.registered client = Trace.switched (registration client) es ∧
      h.written client = Trace.passed (registration client) lines es := by
  have held := run.held init_inv (fun _ _ _ inv _ next => (step_follows inv next).inv)
  exact Trace.recorded (fun h => h.registered client) (fun h => h.written client) held rfl rfl
    (fun _ _ _ guard next => (step_follows guard.2 next).turned client)
    (fun _ _ _ guard next => (step_follows guard.2 next).kept client)

end DataHandler

end EmsCollector
