import EmsCollector.Collector.ApiCommandParserProof.Commands
import EmsCollector.Collector.IStreamProof.Forward

/-!
# Commands read forward

If a command leaves something of its request unread, what stands behind it does not matter. If it
comes to the end of the request, it takes all of that from a longer request as well.
-/

namespace EmsCollector

open IStream (Forward append wordStep skipStep)

namespace ApiCommandParser

theorem tokenLoop_suffix (fuel : Nat) (s : IStream) : (tokenLoop fuel s).2.rest <:+ s.rest := by
  induction fuel generalizing s with
  | zero => exact List.suffix_refl _
  | succ fuel ih =>
      unfold tokenLoop
      split
      · exact List.suffix_refl _
      · exact (ih _).trans (IStream.extract_suffix _ _ _ s)

theorem tokenLoop_failed {s : IStream} (failed : s.failbit = true) (fuel : Nat) :
    tokenLoop (fuel + 1) s = ([], s) := by
  unfold tokenLoop
  rw [if_pos failed]

/-- The loop takes one more turn when the stream is at its end already. -/
theorem tokenLoop_eof {s : IStream} (healthy : s.failbit = false) (eof : s.eofbit = true) (fuel : Nat) :
    tokenLoop (fuel + 2) s = ([""], { s with failbit := true }) := by
  have bad : s.good = false := by simp [IStream.good, eof]
  have nothing : s.readString = (none, { s with failbit := true }) := IStream.extract_bad _ _ _ bad
  unfold tokenLoop
  rw [if_neg (by simp [healthy]), nothing]
  simp only []
  rw [tokenLoop_failed rfl]
  rfl

/-- A word takes at least one character. -/
theorem readString_shorter {s : IStream} (good : s.good = true)
    (more : (Scan.run skipStep () s.rest).2 ≠ []) :
    s.readString.2.failbit = false ∧ s.readString.2.rest.length < s.rest.length ∧
      (s.readString.2.rest ≠ [] → s.readString.2.good = true) := by
  have read : s.readString = _ :=
    IStream.extract_readFrom wordStep [] (fun word => some (String.ofList word)) good more
  have kept := (Scan.run_suffix skipStep () s.rest).length_le
  rw [read]
  cases rest : (Scan.run skipStep () s.rest).2 with
  | nil => exact absurd rest more
  | cons c chars =>
      have stopped := Scan.run_stopped rest
      have accepts : wordStep [] c ≠ none := by
        unfold skipStep at stopped
        unfold wordStep
        split at stopped
        · cases stopped
        · rename_i visible
          rw [if_neg visible]
          exact nofun
      rw [rest] at kept
      have taken : (Scan.run wordStep [] (c :: chars)).2.length < (c :: chars).length :=
        Scan.length_run_lt accepts
      refine ⟨rfl, Nat.lt_of_lt_of_le taken kept, fun left => ?_⟩
      simp only [IStream.readFrom] at left ⊢
      simp [IStream.good, left]

/-- From a good stream the loop reads to the end. -/
theorem tokenLoop_good {fuel : Nat} {s : IStream} (good : s.good = true)
    (enough : s.rest.length + 1 ≤ fuel) : (tokenLoop fuel s).2.rest = [] := by
  induction fuel generalizing s with
  | zero => cases enough
  | succ fuel ih =>
      have healthy : ¬ s.failbit = true := by
        intro failed
        simp [IStream.good, failed] at good
      unfold tokenLoop
      rw [if_neg healthy]
      by_cases blank : (Scan.run skipStep () s.rest).2 = []
      · have nothing : s.readString = (none, ⟨[], true, true⟩) := IStream.extract_end _ _ _ good blank
        rw [nothing]
        exact List.suffix_nil.mp (tokenLoop_suffix fuel ⟨[], true, true⟩)
      · obtain ⟨-, shorter, still⟩ := readString_shorter good blank
        by_cases left : s.readString.2.rest = []
        · have suffix := tokenLoop_suffix fuel s.readString.2
          rw [left] at suffix
          exact List.suffix_nil.mp suffix
        · exact ih (still left) (Nat.le_trans shorter (Nat.le_of_succ_le_succ enough))

/-- The tokens of the rest of a request. -/
theorem tokens_forward : Forward (fun s => tokenLoop (s.rest.length + 2) s) := by
  refine ⟨fun s => tokenLoop_suffix _ s, fun s more stopped => ?_, fun s more exhausted => ?_⟩
  · cases failed : s.failbit with
    | true => rw [tokenLoop_failed failed, tokenLoop_failed (s := s.append more) failed]
    | false =>
        cases eof : s.eofbit with
        | true => rw [tokenLoop_eof failed eof, tokenLoop_eof (s := s.append more) failed eof]; rfl
        | false =>
            have good : s.good = true := by simp [IStream.good, failed, eof]
            exact absurd (tokenLoop_good good (Nat.le_succ _)) stopped
  · cases failed : s.failbit with
    | true =>
        rw [tokenLoop_failed failed] at exhausted
        have empty : s.rest = [] := exhausted
        rw [tokenLoop_failed (s := s.append more) failed]
        simp [append, empty]
    | false =>
        cases eof : s.eofbit with
        | true =>
            rw [tokenLoop_eof failed eof] at exhausted
            have empty : s.rest = [] := exhausted
            rw [tokenLoop_eof (s := s.append more) failed eof]
            simp [append, empty]
        | false =>
            have good : (s.append more).good = true := by simp [IStream.good, append, failed, eof]
            rw [tokenLoop_good good (Nat.le_succ _)]
            exact Nat.zero_le _

/-- The end of a command with more characters behind the request. -/
def appendResult {α : Type} (r : EStateM.Result Abort Session α) (more : List Char) :
    EStateM.Result Abort Session α :=
  match r with
  | .ok value s => .ok value { s with request := s.request.append more }
  | .error abort s => .error abort { s with request := s.request.append more }

/-- A command that reads forward. -/
structure ReadsForward {α : Type} (m : RequestM α) : Prop where
  suffix (s : Session) : (final (m s)).request.rest <:+ s.request.rest
  stopped (s : Session) (more : List Char) : (final (m s)).request.rest ≠ [] →
    m { s with request := s.request.append more } = appendResult (m s) more
  exhausted (s : Session) (more : List Char) : (final (m s)).request.rest = [] →
    (final (m { s with request := s.request.append more })).request.rest.length ≤ more.length

theorem final_append {α : Type} (r : EStateM.Result Abort Session α) (more : List Char) :
    (final (appendResult r more)).request.rest = (final r).request.rest ++ more := by
  cases r with
  | ok value s => rfl
  | error abort s => rfl

/-- A command that does not touch the request. -/
theorem readsForward_of_kept {α : Type} {m : RequestM α}
    (kept : ∀ s more, m { s with request := s.request.append more } = appendResult (m s) more)
    (request : ∀ s, (final (m s)).request.rest = s.request.rest) : ReadsForward m := by
  refine ⟨fun s => ?_, fun s more _ => kept s more, fun s more exhausted => ?_⟩
  · exact ⟨[], request s⟩
  · have nothing_left : (final (m { s with request := s.request.append more })).request.rest = more := by
      rw [kept, final_append, exhausted]
      rfl
    exact Nat.le_of_eq (congrArg List.length nothing_left)

theorem readsForward_extraction {β : Type} {extraction : IStream → β × IStream}
    (forward : Forward extraction) : ReadsForward (fun s =>
      (.ok (extraction s.request).1 { s with request := (extraction s.request).2 } :
        EStateM.Result Abort Session β)) := by
  refine ⟨fun s => forward.suffix s.request, fun s more stopped => ?_, fun s more exhausted => ?_⟩
  · have longer := forward.stopped s.request more stopped
    show EStateM.Result.ok (extraction (s.request.append more)).1 _ = _
    rw [longer]
    rfl
  · exact forward.exhausted s.request more exhausted

/-- What follows a command only shortens what it has left. -/
theorem bind_suffix {α β : Type} {m : RequestM α} {next : α → RequestM β}
    (rest : ∀ value, ReadsForward (next value)) (s : Session) :
    (final (EStateM.bind m next s)).request.rest <:+ (final (m s)).request.rest := by
  unfold EStateM.bind
  cases m s with
  | error abort t => exact List.suffix_refl _
  | ok value t => exact (rest value).suffix t

theorem ReadsForward.bind {α β : Type} {m : RequestM α} {next : α → RequestM β}
    (first : ReadsForward m) (rest : ∀ value, ReadsForward (next value)) :
    ReadsForward (m >>= next) := by
  have later := bind_suffix (m := m) rest
  refine ⟨fun s => (later s).trans (first.suffix s), fun s more stopped => ?_,
    fun s more exhausted => ?_⟩
  · -- What is left in the end is left by the first part already.
    have left : (final (m s)).request.rest ≠ [] := by
      intro empty
      have suffix := later s
      rw [empty] at suffix
      exact stopped (List.suffix_nil.mp suffix)
    have longer := first.stopped s more left
    change (final (EStateM.bind m next s)).request.rest ≠ [] at stopped
    change EStateM.bind m next _ = appendResult (EStateM.bind m next s) more
    unfold EStateM.bind at stopped ⊢
    rw [longer]
    cases result : m s with
    | error abort t => rfl
    | ok value t =>
        rw [result] at stopped
        exact (rest value).stopped t more stopped
  · by_cases left : (final (m s)).request.rest = []
    · exact Nat.le_trans (later _).length_le (first.exhausted s more left)
    · have longer := first.stopped s more left
      change (final (EStateM.bind m next s)).request.rest = [] at exhausted
      change (final (EStateM.bind m next _)).request.rest.length ≤ more.length
      unfold EStateM.bind at exhausted ⊢
      rw [longer]
      cases result : m s with
      | error abort t =>
          rw [result] at exhausted left
          exact absurd exhausted left
      | ok value t =>
          rw [result] at exhausted
          exact (rest value).exhausted t more exhausted

/-- Every command reads forward, if the extraction of a time does. -/
theorem Built.readsForward {env : Env} {telegram : EmsMessage → Prop} {timer : Prop} {α : Type}
    {m : RequestM α} (forward : Forward env.readPtime) (built : Built env telegram timer m) :
    ReadsForward m := by
  induction built with
  | pure value => exact readsForward_of_kept (fun _ _ => rfl) (fun _ => rfl)
  | throw abort => exact readsForward_of_kept (fun _ _ => rfl) (fun _ => rfl)
  | bind _ _ first rest => exact first.bind rest
  | extract step start finish =>
      exact readsForward_extraction (IStream.extract_forward step start finish)
  | readPtime => exact readsForward_extraction forward
  | readTokens => exact readsForward_extraction tokens_forward
  | update acts => exact readsForward_of_kept (fun _ _ => rfl) (fun _ => rfl)

theorem parse_readsForward {env : Env} (forward : Forward env.readPtime) :
    ReadsForward (parse env) := by
  have command := (parseCommand_built env).readsForward forward
  refine ⟨fun s => ?_, fun s more => ?_, fun s more => ?_⟩
  · unfold parse
    split
    · exact List.suffix_refl _
    · exact command.suffix s
  · unfold parse
    dsimp only
    split
    · exact fun _ => rfl
    · exact command.stopped s more
  · unfold parse
    dsimp only
    split
    · intro empty
      show (s.request.rest ++ more).length ≤ more.length
      have nothing : s.request.rest = [] := empty
      rw [nothing]
      exact Nat.le_refl _
    · exact command.exhausted s more

end ApiCommandParser

end EmsCollector
