import EmsCollector.Collector.IStream

/-!
# Extractions read forward

An extraction takes characters from the front and looks at no character behind the one it stops
at. What stands behind that one does not matter to it; only an extraction that comes to the end of
the stream may do something else when the stream goes on.
-/

namespace EmsCollector.IStream

/-- The stream over a longer buffer. -/
def append (s : IStream) (more : List Char) : IStream := { s with rest := s.rest ++ more }

/-- An operation on a stream that reads forward: it leaves an end of the stream; more characters
    behind what it leaves do not change it; and if it leaves nothing, it takes at least as much of
    a longer stream. -/
structure Forward {β : Type} (extraction : IStream → β × IStream) : Prop where
  suffix (s : IStream) : (extraction s).2.rest <:+ s.rest
  stopped (s : IStream) (more : List Char) : (extraction s).2.rest ≠ [] →
    extraction (s.append more) = ((extraction s).1, (extraction s).2.append more)
  exhausted (s : IStream) (more : List Char) : (extraction s).2.rest = [] →
    (extraction (s.append more)).2.rest.length ≤ more.length

section Extract

variable {σ α : Type} (step : σ → Char → Option σ) (start : σ) (finish : σ → Option α)

theorem extract_bad {s : IStream} (bad : s.good = false) :
    s.extract step start finish = (none, { s with failbit := true }) := by
  unfold extract sentry
  rw [bad]
  rfl

theorem extract_end {s : IStream} (good : s.good = true)
    (blank : (Scan.run skipStep () s.rest).2 = []) :
    s.extract step start finish = (none, { rest := [], eofbit := true, failbit := true }) := by
  unfold extract sentry
  rw [good]
  simp [blank]

/-- The extraction proper, from the first character that is not white space. -/
def readFrom (chars : List Char) : Option α × IStream :=
  let (state, rest) := Scan.run step start chars
  (finish state, { rest, eofbit := rest = [], failbit := (finish state).isNone })

theorem extract_readFrom {s : IStream} (good : s.good = true)
    (more : (Scan.run skipStep () s.rest).2 ≠ []) :
    s.extract step start finish = readFrom step start finish (Scan.run skipStep () s.rest).2 := by
  unfold extract sentry
  rw [good]
  simp [more, readFrom]

theorem extract_suffix (s : IStream) : (s.extract step start finish).2.rest <:+ s.rest := by
  cases good : s.good with
  | false =>
      have failed := congrArg (fun result => result.2.rest) (extract_bad step start finish good)
      exact ⟨[], failed⟩
  | true =>
      by_cases blank : (Scan.run skipStep () s.rest).2 = []
      · rw [extract_end step start finish good blank]
        exact List.nil_suffix
      · rw [extract_readFrom step start finish good blank]
        exact (Scan.run_suffix step start _).trans (Scan.run_suffix skipStep () s.rest)

theorem extract_stopped (s : IStream) (more : List Char)
    (stopped : (s.extract step start finish).2.rest ≠ []) :
    (s.append more).extract step start finish =
      ((s.extract step start finish).1, (s.extract step start finish).2.append more) := by
  have goodMore : (s.append more).good = s.good := rfl
  cases good : s.good with
  | false =>
      rw [extract_bad step start finish good, extract_bad step start finish (goodMore.trans good)]
      rfl
  | true =>
      by_cases blank : (Scan.run skipStep () s.rest).2 = []
      · rw [extract_end step start finish good blank] at stopped
        exact absurd rfl stopped
      · rw [extract_readFrom step start finish good blank] at stopped ⊢
        have skipped := Scan.run_append_stopped blank more
        have skipped' : (Scan.run skipStep () (s.append more).rest).2 =
            (Scan.run skipStep () s.rest).2 ++ more := congrArg Prod.snd skipped
        have nonempty : (Scan.run skipStep () (s.append more).rest).2 ≠ [] := by
          rw [skipped']
          exact List.append_ne_nil_of_left_ne_nil blank more
        rw [extract_readFrom step start finish (goodMore.trans good) nonempty, skipped']
        have taken : Scan.run step start ((Scan.run skipStep () s.rest).2 ++ more) = _ :=
          Scan.run_append_stopped stopped more
        simp only [readFrom] at stopped ⊢
        rw [taken]
        simp [append, stopped]

theorem extract_exhausted (s : IStream) (more : List Char)
    (exhausted : (s.extract step start finish).2.rest = []) :
    ((s.append more).extract step start finish).2.rest.length ≤ more.length := by
  have goodMore : (s.append more).good = s.good := rfl
  cases good : s.good with
  | false =>
      rw [extract_bad step start finish good] at exhausted
      have empty : s.rest = [] := exhausted
      rw [extract_bad step start finish (goodMore.trans good)]
      simp [append, empty]
  | true =>
      by_cases blank : (Scan.run skipStep () s.rest).2 = []
      · have skipped : (Scan.run skipStep () (s.append more).rest).2 <:+ more := by
          show (Scan.run skipStep () (s.rest ++ more)).2 <:+ more
          rw [Scan.run_append_exhausted blank]
          exact Scan.run_suffix skipStep _ more
        by_cases blank' : (Scan.run skipStep () (s.append more).rest).2 = []
        · rw [extract_end step start finish (goodMore.trans good) blank']
          exact Nat.zero_le _
        · rw [extract_readFrom step start finish (goodMore.trans good) blank']
          exact ((Scan.run_suffix step start _).trans skipped).length_le
      · rw [extract_readFrom step start finish good blank] at exhausted
        have skipped : (Scan.run skipStep () (s.append more).rest).2 =
            (Scan.run skipStep () s.rest).2 ++ more :=
          congrArg Prod.snd (Scan.run_append_stopped blank more)
        have nonempty : (Scan.run skipStep () (s.append more).rest).2 ≠ [] := by
          rw [skipped]
          exact List.append_ne_nil_of_left_ne_nil blank more
        rw [extract_readFrom step start finish (goodMore.trans good) nonempty, skipped]
        have taken : Scan.run step start ((Scan.run skipStep () s.rest).2 ++ more) = _ :=
          Scan.run_append_exhausted exhausted more
        show (Scan.run step start _).2.length ≤ more.length
        rw [taken]
        exact (Scan.run_suffix step _ more).length_le

/-- Every extraction by an automaton reads forward. -/
theorem extract_forward : Forward (extract step start finish) :=
  ⟨extract_suffix step start finish, extract_stopped step start finish,
    extract_exhausted step start finish⟩

end Extract

end EmsCollector.IStream
