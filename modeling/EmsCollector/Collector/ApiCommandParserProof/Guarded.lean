import EmsCollector.Collector.ApiCommandParserProof.Domain
import EmsCollector.Collector.ApiCommandParserProof.Outcome
import EmsCollector.Collector.IStreamProof.Forward
import EmsCollector.Collector.IStreamProof.Integer

/-!
# What the parser takes

A command refuses the arguments that it is not documented for, those apart that slip through its
checks. A line that is refused changes nothing.
-/

namespace EmsCollector

namespace IStream

theorem digitValue_space {c : Char} (space : isSpace c = true) (base : Nat) :
    digitValue base c = none := by
  simp only [isSpace, decide_eq_true_eq] at space
  rcases space with rfl | rfl | rfl | rfl | rfl | rfl <;> simp [digitValue]

theorem intStep_space {c : Char} (space : isSpace c = true) (anyBase : Bool) (st : IntState) :
    intStep anyBase st c = none := by
  have digit := digitValue_space space st.base
  have others : c ≠ '-' ∧ c ≠ '+' ∧ c ≠ '0' ∧ c ≠ 'x' ∧ c ≠ 'X' := by
    simp only [isSpace, decide_eq_true_eq] at space
    rcases space with rfl | rfl | rfl | rfl | rfl | rfl <;> decide
  obtain ⟨minus, plus, zero, small, large⟩ := others
  unfold intStep IntState.zero IntState.digit
  rw [digit]
  cases st.phase <;> simp [minus, plus, zero, small, large]

theorem floatStep_space {c : Char} (space : isSpace c = true) (st : FloatState) :
    floatStep st c = none := by
  have digit := digitValue_space space 10
  have others : c ≠ '-' ∧ c ≠ '+' ∧ c ≠ '.' ∧ c ≠ 'e' ∧ c ≠ 'E' := by
    simp only [isSpace, decide_eq_true_eq] at space
    rcases space with rfl | rfl | rfl | rfl | rfl | rfl <;> decide
  obtain ⟨minus, plus, point, small, large⟩ := others
  unfold floatStep FloatState.mantissaChar FloatState.exponentChar
  rw [digit]
  cases st.phase <;> simp [minus, plus, point, small, large]

/-- A word ends at white space. -/
theorem wordStep_run (word chars : List Char) : Scan.run wordStep word chars =
    (word ++ chars.takeWhile (fun c => !isSpace c), chars.dropWhile (fun c => !isSpace c)) := by
  induction chars generalizing word with
  | nil => simp [Scan.run]
  | cons c rest ih =>
      unfold Scan.run
      by_cases space : isSpace c = true
      · have stops : wordStep word c = none := if_pos space
        rw [stops]
        simp [space]
      · have next : wordStep word c = some (word ++ [c]) := if_neg space
        rw [next]
        show Scan.run wordStep (word ++ [c]) rest = _
        rw [ih]
        simp [space]

end IStream

namespace ApiCommandParser

/-- An extraction that stops at white space reads from the next word. -/
theorem extract_word {σ α : Type} {step : σ → Char → Option σ} {start : σ} {finish : σ → Option α}
    (stops : ∀ c, isSpace c = true → ∀ st, step st c = none) (nothing : finish start = none)
    (s : IStream) : (s.extract step start finish).1 =
      finish (Scan.run step start (nextWord s).1.toList).1 := by
  unfold nextWord IStream.readString
  cases good : s.good with
  | false =>
      rw [IStream.extract_bad _ _ _ good, IStream.extract_bad _ _ _ good]
      exact nothing.symm
  | true =>
      by_cases blank : (Scan.run IStream.skipStep () s.rest).2 = []
      · rw [IStream.extract_end _ _ _ good blank, IStream.extract_end _ _ _ good blank]
        exact nothing.symm
      · rw [IStream.extract_readFrom _ _ _ good blank, IStream.extract_readFrom _ _ _ good blank]
        unfold IStream.readFrom
        rw [IStream.wordStep_run]
        generalize (Scan.run IStream.skipStep () s.rest).2 = chars
        have split := List.takeWhile_append_dropWhile (p := fun c => !isSpace c) (l := chars)
        have delimited : ∀ c ∈ (chars.dropWhile (fun c => !isSpace c)).head?,
            ∀ st, step st c = none := by
          intro c first
          have stopped := List.head?_dropWhile_not (fun c => !isSpace c) chars
          rw [Option.mem_def.mp first] at stopped
          exact stops c (by simpa using stopped)
        have word := Scan.run_word delimited start (chars.takeWhile (fun c => !isSpace c))
        rw [split] at word
        simp [word]

theorem readFloat_word (s : IStream) : s.readFloat.1 =
    IStream.finishFloat (Scan.run IStream.floatStep IStream.floatStart (nextWord s).1.toList).1 :=
  extract_word (fun _ space => IStream.floatStep_space space) rfl s

theorem readUnsigned_word (anyBase : Bool) (s : IStream) : (s.readUnsigned anyBase).1 =
    IStream.finishUnsigned
      (Scan.run (IStream.intStep anyBase) IStream.intStart (nextWord s).1.toList).1 :=
  extract_word (fun _ space => IStream.intStep_space space anyBase) rfl s

/-- The command ends with an error code and has done nothing. -/
def Refuses (m : RequestM CommandResult) (s : Session) : Prop :=
  ∃ result t, m s = .ok result t ∧ result ≠ .ok ∧ t.parser = s.parser

/-- The command refuses what is not in its domain, except for what slips through. -/
structure Domain.Governs (domain : Domain) (m : RequestM CommandResult) : Prop where
  refused (s : Session) : ¬ domain.Admits s.request → ¬ domain.Slips s.request → Refuses m s
  taken (s : Session) : domain.Slips s.request → ¬ domain.Admits s.request ∧ ¬ Refuses m s

section Refuses

variable {s : Session}

theorem pure_refuses {result : CommandResult} (failed : result ≠ .ok) :
    Refuses (pure result) s := ⟨result, s, rfl, failed, rfl⟩

theorem done_not_refuses (change : ApiCommandParser → ApiCommandParser) :
    ¬ Refuses (do update change; pure .ok) s := by
  rintro ⟨result, t, ⟨⟩, failed, -⟩
  exact failed rfl

theorem throw_not_refuses (abort : Abort) : ¬ Refuses (throw abort) s := by
  rintro ⟨result, t, ⟨⟩, -⟩

theorem read_refuses {α : Type} (extraction : IStream → Option α × IStream)
    (next : Option α → RequestM CommandResult) (s : Session) : Refuses (read extraction >>= next) s ↔
      Refuses (next (extraction s.request).1) ⟨s.parser, (extraction s.request).2⟩ := Iff.rfl

theorem readWord_refuses (next : String → RequestM CommandResult) (s : Session) :
    Refuses (readWord >>= next) s ↔
      Refuses (next (nextWord s.request).1) ⟨s.parser, (nextWord s.request).2⟩ := Iff.rfl

end Refuses

namespace Domain

theorem anything_governs (m : RequestM CommandResult) : anything.Governs m :=
  ⟨fun _ other => absurd trivial other, fun _ slips => nomatch slips⟩

/-- A command that takes everything. -/
theorem unchecked_governs {admits : IStream → Prop} {m : RequestM CommandResult}
    (takes : ∀ s, ¬ Refuses m s) : (unchecked admits).Governs m :=
  ⟨fun _ other noSlip => absurd other noSlip, fun s slips => ⟨slips, takes s⟩⟩

/-- A command without arguments that ends well whatever follows. -/
theorem done_governs (change : ApiCommandParser → ApiCommandParser) :
    nothing.Governs (do update change; pure .ok) := unchecked_governs (fun _ => done_not_refuses change)

/-- A command that goes by its next word. -/
theorem choice_governs {domains : List (String × Domain)} {next : String → RequestM CommandResult}
    (branches : ∀ cmd, domains.lookup cmd = none ∧ (∀ s, Refuses (next cmd) s) ∨
      ∃ domain, domains.lookup cmd = some domain ∧ domain.Governs (next cmd)) :
    (choice domains).Governs (readWord >>= next) := by
  refine ⟨fun s other noSlip => ?_, fun s slips => ?_⟩
  · rw [readWord_refuses]
    rcases branches (nextWord s.request).1 with ⟨-, refuses⟩ | ⟨domain, named, governs⟩
    · exact refuses _
    · exact governs.refused _ (fun admits => other ⟨domain, named, admits⟩)
        (fun slips => noSlip ⟨domain, named, slips⟩)
  · obtain ⟨domain, named, slips⟩ := slips
    rw [readWord_refuses]
    rcases branches (nextWord s.request).1 with ⟨unnamed, -⟩ | ⟨domain', named', governs⟩
    · cases unnamed.symm.trans named
    · cases named'.symm.trans named
      obtain ⟨other, taken⟩ := governs.taken ⟨s.parser, (nextWord s.request).2⟩ slips
      refine ⟨?_, taken⟩
      rintro ⟨domain', named'', admits⟩
      cases named'.symm.trans named''
      exact other admits

/-- The commands of a table with their domains. -/
theorem select_governs {domains : List (String × Domain)}
    {commands : List (String × RequestM CommandResult)}
    (entries : List.Forall₂ (fun domain command => domain.1 = command.1 ∧ domain.2.Governs command.2)
      domains commands) :
    (choice domains).Governs (do
      let cmd ← readWord
      ApiCommandParser.select cmd commands) := by
  refine choice_governs (fun cmd => ?_)
  unfold ApiCommandParser.select
  induction entries with
  | nil => exact .inl ⟨rfl, fun s => pure_refuses nofun⟩
  | @cons domain command domains commands entry _ ih =>
      obtain ⟨name, domain⟩ := domain
      obtain ⟨name', command⟩ := command
      obtain ⟨rfl, governs⟩ : name = name' ∧ domain.Governs command := entry
      rw [List.lookup_cons, List.lookup_cons]
      cases cmd == name with
      | true => exact .inr ⟨domain, rfl, governs⟩
      | false => exact ih

/-- A command with one argument, which it takes if the word passes. -/
theorem single_governs {m : RequestM CommandResult} {admits passes mistaken : String → Prop}
    (refuses : ∀ s, Refuses m s ↔ ¬ passes (nextWord s.request).1)
    (exact : ∀ word, passes word → (mistaken word ↔ ¬ admits word)) :
    (single admits passes mistaken).Governs m := by
  refine ⟨fun s other noSlip => (refuses s).mpr (fun taken => ?_), fun s slips => ?_⟩
  · by_cases wrong : mistaken (nextWord s.request).1
    · exact noSlip ⟨taken, .inl wrong⟩
    · have admitted : admits (nextWord s.request).1 := by
        by_contra excluded
        exact wrong ((exact _ taken).mpr excluded)
      exact noSlip ⟨taken, .inr (fun blank => other ⟨admitted, blank⟩)⟩
  · obtain ⟨taken, reason⟩ := slips
    refine ⟨fun admits => ?_, fun refused => (refuses s).mp refused taken⟩
    obtain ⟨admitted, blank⟩ := admits
    rcases reason with wrong | more
    · exact (exact _ taken).mp wrong admitted
    · exact more blank

/-- A command with one of several words. -/
theorem words_governs {m : RequestM CommandResult} {words : List String}
    (refuses : ∀ s, Refuses m s ↔ (nextWord s.request).1 ∉ words) : (keyword words).Governs m :=
  single_governs refuses (fun _ listed => iff_of_false id (fun other => other listed))

theorem keyword_governs (dest : UInt8) (type : UInt16) (offset : UInt8)
    {words : List (String × UInt8)} {names : List String} (named : words.map Prod.fst = names) :
    (keyword names).Governs (handleKeyword dest type offset words) := by
  refine words_governs (fun s => ?_)
  rw [← named]
  unfold handleKeyword
  rw [readWord_refuses]
  cases found : words.lookup (nextWord s.request).1 with
  | none =>
      refine iff_of_true (pure_refuses nofun) (fun listed => ?_)
      obtain ⟨entry, member, same⟩ := List.mem_map.mp listed
      have differs := List.lookup_eq_none_iff.mp found entry member
      rw [same] at differs
      exact absurd differs (by simp)
  | some data =>
      refine iff_of_false (done_not_refuses _) (fun unlisted => unlisted ?_)
      exact List.mem_map_of_mem (f := Prod.fst) (mem_of_lookup found)

/-- The byte of a value is the truncated product, if that lies between the bounds. -/
theorem singleByteOf_isSome {value : Rat} {multiplier min max : Int} :
    (singleByteOf value multiplier min max).isSome = true ↔
      ∃ product ∈ IStream.roundToFloat (multiplier * value),
        min * multiplier ≤ truncate product ∧ truncate product ≤ max * multiplier := by
  unfold singleByteOf
  cases IStream.roundToFloat (multiplier * value) with
  | none => exact iff_of_false nofun nofun
  | some product =>
      show (if truncate product < min * multiplier ∨ truncate product > max * multiplier then none
        else some (UInt8.ofNat (truncate product % 256).toNat)).isSome = true ↔ _
      by_cases outside : truncate product < min * multiplier ∨ truncate product > max * multiplier
      · rw [if_pos outside]
        refine iff_of_false nofun ?_
        rintro ⟨_, ⟨⟩, low, high⟩
        omega
      · rw [if_neg outside]
        exact iff_of_true rfl ⟨product, rfl, by omega, by omega⟩

theorem number_taken {st : IStream.FloatState} {multiplier min max : Int} :
    ((IStream.finishFloat st).bind (singleByteOf · multiplier min max)).isSome = true ↔
      st.wellFormed = true ∧ TruncatedIn multiplier min max st.value := by
  unfold IStream.finishFloat TruncatedIn
  by_cases formed : st.wellFormed = true
  · rw [if_pos formed, and_iff_right formed]
    cases IStream.roundToFloat st.value with
    | none => exact iff_of_false nofun nofun
    | some value =>
        show (singleByteOf value multiplier min max).isSome = true ↔ _
        rw [singleByteOf_isSome]
        simp
  · rw [if_neg formed]
    exact iff_of_false nofun (fun both => formed both.1)

/-- A number is refused if it does not pass. -/
theorem number_refuses {dest : UInt8} {type : UInt16} {offset : UInt8} {multiplier min max : Int}
    {s : Session} :
    Refuses (handleSingleByteValue dest type offset multiplier min max) s ↔
      ¬ PassesNumber multiplier min max (nextWord s.request).1 := by
  unfold handleSingleByteValue PassesNumber
  rw [read_refuses, readFloat_word, ← number_taken]
  cases Option.bind _ _ with
  | none => exact iff_of_true (pure_refuses nofun) nofun
  | some data => exact iff_of_false (done_not_refuses _) (fun none => none rfl)

/-- A number that passes is mistaken if it is none between the bounds. -/
theorem falseNumber_iff {multiplier min max : Int} {word : String}
    (passes : PassesNumber multiplier min max word) :
    FalseNumber min max word ↔ ¬ DecimalIn min max word := by
  unfold FalseNumber
  unfold PassesNumber at passes
  obtain ⟨st, others, read⟩ : ∃ st others, Scan.run IStream.floatStep IStream.floatStart
    word.toList = (st, others) := ⟨_, _, rfl⟩
  rw [read] at passes ⊢
  constructor
  · rintro reason ⟨v, ⟨st', read', -, rfl⟩, low, high⟩
    cases read.symm.trans read'
    rcases reason with others | below | above
    · exact others rfl
    · exact absurd low (not_le.mpr below)
    · exact absurd high (not_le.mpr above)
  · intro other
    by_contra within
    simp only [not_or, Decidable.not_not, not_lt] at within
    obtain ⟨rfl, low, high⟩ := within
    exact other ⟨st.value, ⟨st, read, passes.1, rfl⟩, low, high⟩

theorem number_governs (dest : UInt8) (type : UInt16) (offset : UInt8) (multiplier min max : Int) :
    (number multiplier min max).Governs (handleSingleByteValue dest type offset multiplier min max) :=
  single_governs (fun _ => number_refuses) (fun _ passes => falseNumber_iff passes)

/-- What a C integer stands for, unless it is negative. -/
theorem finishUnsigned_some {st : IStream.IntState} {n : UInt32}
    (read : IStream.finishUnsigned st = some n) :
    st.wellFormed = true ∧ (¬ (st.negative = true ∧ 0 < st.result) → n.toNat = st.result) := by
  unfold IStream.finishUnsigned at read
  split at read
  · rename_i fits
    refine ⟨fits.1, fun natural => ?_⟩
    cases negative : st.negative with
    | false =>
        rw [negative, if_neg Bool.false_ne_true] at read
        cases read
        exact UInt32.toNat_ofNat_of_lt' fits.2
    | true =>
        have zero : st.result = 0 :=
          Nat.eq_zero_of_not_pos (fun positive => natural ⟨negative, positive⟩)
        rw [negative, zero, if_pos rfl] at read
        cases read
        rw [zero]
        rfl
  · cases read

/-- The word is a number between the bounds, in one of the notations that the extraction knows. -/
def IntegerIn (anyBase : Bool) (min max : Nat) (word : String) : Prop :=
  DecimalIn min max word ∨ anyBase = true ∧ ∃ n : Int, Hexadecimal word n ∧ min ≤ n ∧ n ≤ max

theorem integerIn_anyBase {max : Nat} {word : String} :
    IntegerIn true 0 max word ↔ NumeralIn max word := by
  constructor
  · rintro (⟨v, decimal, low, high⟩ | ⟨-, n, hexadecimal, low, high⟩)
    · exact ⟨v, .inl decimal, by exact_mod_cast low, by exact_mod_cast high⟩
    · exact ⟨n, .inr ⟨n, hexadecimal, rfl⟩, by exact_mod_cast low, by exact_mod_cast high⟩
  · rintro ⟨v, decimal | ⟨n, hexadecimal, rfl⟩, low, high⟩
    · exact .inl ⟨v, decimal, by exact_mod_cast low, by exact_mod_cast high⟩
    · exact .inr ⟨rfl, n, hexadecimal, by exact_mod_cast low, by exact_mod_cast high⟩

theorem integerIn_decimal {min max : Nat} {word : String} :
    IntegerIn false min max word ↔ DecimalIn min max word :=
  or_iff_left (fun hexadecimal => Bool.false_ne_true hexadecimal.1)

/-- A word that is a natural number, and not an octal one, is a number between the bounds if it
    passes. -/
theorem integer_whole {anyBase : Bool} {min max : Nat} {word : String} {st : IStream.IntState}
    (read : Scan.run (IStream.intStep anyBase) IStream.intStart word.toList = (st, []))
    (passes : PassesInteger anyBase min max word) (natural : ¬ (st.negative = true ∧ 0 < st.result))
    (notOctal : st.base ≠ 8) : IntegerIn anyBase min max word := by
  obtain ⟨n, finished, low, high⟩ := passes
  rw [read] at finished
  obtain ⟨formed, value⟩ := finishUnsigned_some finished
  rw [value natural] at low high
  have unsigned {α : Type} (negation result : α) (same : st.result = 0 → negation = result) :
      (if st.negative then negation else result) = result := by
    split
    · rename_i negative
      exact same (Nat.eq_zero_of_not_pos (fun positive => natural ⟨negative, positive⟩))
    · rfl
  have known := IStream.run_knownBase anyBase word.toList
  rw [read] at known
  rcases known with decimal | ⟨any, octal | hexadecimal⟩
  · obtain ⟨number, same, formed', exact⟩ := IStream.decimal_value read decimal formed
    refine .inl ⟨number.value, ⟨number, same, formed', rfl⟩, ?_⟩
    rw [exact, unsigned _ _ (fun zero => by simp [zero])]
    exact ⟨by exact_mod_cast low, by exact_mod_cast high⟩
  · exact absurd octal notOctal
  · subst any
    refine .inr ⟨rfl, st.result, ⟨st, read, formed, hexadecimal, ?_⟩, by exact_mod_cast low,
      by exact_mod_cast high⟩
    rw [unsigned _ _ (fun zero => by simp [zero])]

/-- An integer that passes is mistaken if the word is no number between the bounds. -/
theorem falseInteger_iff {anyBase : Bool} {min max : Nat} {word : String}
    (passes : PassesInteger anyBase min max word) :
    FalseInteger anyBase min max word ↔ ¬ IntegerIn anyBase min max word := by
  obtain ⟨st, others, read⟩ : ∃ st others, Scan.run (IStream.intStep anyBase) IStream.intStart
    word.toList = (st, others) := ⟨_, _, rfl⟩
  unfold FalseInteger
  rw [read]
  constructor
  · rintro ⟨reason, noDecimal⟩ (decimal | ⟨rfl, n, ⟨st', read', -, hexadecimal, rfl⟩, low, -⟩)
    · exact noDecimal decimal
    · cases read.symm.trans read'
      rcases reason with others | ⟨negative, positive⟩ | octal
      · exact others rfl
      · rw [if_pos negative] at low
        omega
      · exact absurd (octal.symm.trans hexadecimal) (by decide)
  · intro other
    refine ⟨?_, fun decimal => other (.inl decimal)⟩
    by_contra whole
    simp only [not_or, Decidable.not_not] at whole
    obtain ⟨rfl, natural, notOctal⟩ := whole
    exact other (integer_whole read passes natural notOctal)

/-- A parameter that was read is passed on if it is not above its maximum. -/
theorem filter_within (read : Option UInt32) (max : UInt32) :
    (∃ n, read = some n ∧ n ≤ max ∧ read.filter (· ≤ max) = some n) ∨
      (¬ ∃ n, read = some n ∧ n ≤ max) ∧ read.filter (· ≤ max) = none := by
  cases read with
  | none => exact .inr ⟨nofun, rfl⟩
  | some n =>
      by_cases within : n ≤ max
      · exact .inl ⟨n, rfl, within, by simp [within]⟩
      · refine .inr ⟨?_, by simp [UInt32.not_le.mp within]⟩
        rintro ⟨_, ⟨⟩, bound⟩
        exact within bound

/-- A command that stores an integer from 0 on. -/
theorem integer_governs {max : UInt32} {next : Option UInt32 → RequestM CommandResult}
    (stores : ∀ n s, ¬ Refuses (next (some n)) s) (refuses : ∀ s, Refuses (next none) s) :
    (integer max.toNat).Governs (parseIntParameter max >>= next) := by
  refine single_governs (fun s => ?_) (fun word passes => ?_)
  · unfold PassesInteger
    rw [← readUnsigned_word]
    show Refuses (next ((s.request.readUnsigned true).1.filter (· ≤ max)))
      ⟨s.parser, (s.request.readUnsigned true).2⟩ ↔ _
    rcases filter_within (s.request.readUnsigned true).1 max with
      ⟨n, read, within, kept⟩ | ⟨outside, dropped⟩
    · rw [kept]
      exact iff_of_false (stores n _) (fun none => none ⟨n, read, Nat.zero_le _, within⟩)
    · rw [dropped]
      exact iff_of_true (refuses _) (fun ⟨n, read, _, bound⟩ => outside ⟨n, read, bound⟩)
  · rw [falseInteger_iff passes, integerIn_anyBase]

/-- The contact information is refused if the number of the line does not pass. -/
theorem contact_refuses {s : Session} : Refuses handleSetContactInfo s ↔
    ¬ PassesInteger false 1 3 (nextWord s.request).1 := by
  unfold handleSetContactInfo PassesInteger
  rw [read_refuses, ← readUnsigned_word]
  cases named : (s.request.readUnsigned false).1.filter (fun line => 1 ≤ line ∧ line ≤ 3) with
  | none =>
      rw [Option.filter_eq_none_iff] at named
      refine iff_of_true (pure_refuses nofun) ?_
      rintro ⟨n, member, bounds⟩
      exact named n member (decide_eq_true bounds)
  | some line =>
      obtain ⟨member, bounds⟩ := Option.filter_eq_some_iff.mp named
      refine iff_of_false ?_ (fun none => none ⟨line, member, of_decide_eq_true bounds⟩)
      rintro ⟨result, t, ran, failed, -⟩
      obtain ⟨tokens, u, -, rest⟩ := bind_ok ran
      revert rest
      cases fromBytes (contactText tokens) with
      | error abort => exact nofun
      | ok units =>
          rintro ⟨⟩
          exact failed rfl

theorem contact_governs : contact.Governs handleSetContactInfo := by
  refine ⟨fun s other noSlip => contact_refuses.mpr (fun passes => noSlip ⟨passes, ?_⟩), ?_⟩
  · rw [falseInteger_iff passes, integerIn_decimal]
    exact other
  · rintro s ⟨passes, wrong⟩
    refine ⟨?_, fun refused => contact_refuses.mp refused passes⟩
    rw [falseInteger_iff passes, integerIn_decimal] at wrong
    exact wrong

/-- The time is refused if none can be extracted; a special value ends in an exception. -/
theorem setTime_refuses {env : Env} {s : Session} :
    Refuses (handleSetTime env) s ↔ (env.readPtime s.request).1 = none := by
  unfold handleSetTime
  rw [read_refuses]
  cases (env.readPtime s.request).1 with
  | none => exact iff_of_true (pure_refuses nofun) rfl
  | some time =>
      cases time with
      | special => exact iff_of_false (throw_not_refuses _) nofun
      | time year month day hours minutes seconds => exact iff_of_false (done_not_refuses _) nofun

theorem time_governs (env : Env) : (time env).Governs (handleSetTime env) := by
  refine ⟨fun s other noSlip => setTime_refuses.mpr ?_, ?_⟩
  · cases read : (env.readPtime s.request).1 with
    | none => rfl
    | some time =>
        have blank : Blank (env.readPtime s.request).2 := by
          by_contra more
          exact noSlip (.inr ⟨by rw [read]; rfl, more⟩)
        cases time with
        | special => exact absurd (.inl read) noSlip
        | time year month day hours minutes seconds =>
            exact absurd ⟨⟨year, month, day, hours, minutes, seconds, read⟩, blank⟩ other
  · rintro s (special | ⟨extracted, more⟩)
    · rw [setTime_refuses, special]
      refine ⟨?_, nofun⟩
      rintro ⟨⟨year, month, day, hours, minutes, seconds, read⟩, -⟩
      cases special.symm.trans read
    · refine ⟨fun admits => more admits.2, fun refused => ?_⟩
      rw [setTime_refuses.mp refused] at extracted
      cases extracted

theorem temporaryTemp_governs : temporaryTemp.Governs handleTemporaryTemp := by
  refine unchecked_governs (fun s => ?_)
  rintro ⟨result, t, ran, failed, -⟩
  obtain ⟨first, u, -, rest⟩ := bind_ok ran
  split at rest
  · cases rest
    exact failed rfl
  · cases rest
    exact failed rfl

theorem testState_governs : testState.Governs handleTestState := by
  refine unchecked_governs (fun s => ?_)
  rintro ⟨result, t, ⟨⟩, failed, -⟩
  exact failed rfl

theorem testMode_governs (now : Time) : (keyword ["on", "off"]).Governs (handleTestMode now) := by
  refine words_governs (fun s => ?_)
  unfold handleTestMode
  rw [readWord_refuses]
  by_cases on : (nextWord s.request).1 = "on"
  · rw [if_pos on, on]
    exact iff_of_false (done_not_refuses _) (by decide)
  by_cases off : (nextWord s.request).1 = "off"
  · rw [if_neg on, if_pos off, off]
    exact iff_of_false (done_not_refuses _) (by decide)
  · rw [if_neg on, if_neg off]
    exact iff_of_true (pure_refuses nofun) (by simp [on, off])

/-- The digits of a number without a minus sign. -/
theorem lexicalCast_natural {chars : List Char} {n : UInt32} (unsigned : chars.head? ≠ some '-')
    (read : IStream.lexicalCast chars = some n) : Natural chars n.toNat := by
  have sign : ∃ digits, (chars = digits ∨ chars = '+' :: digits) ∧
      IStream.lexicalCast chars = if digits ≠ [] ∧ digits.all (fun c => '0' ≤ c ∧ c ≤ '9') then
        if digits.foldl (fun value c => value * 10 + (c.toNat - '0'.toNat)) 0 < 2 ^ 32 then
          some (UInt32.ofNat (digits.foldl (fun value c => value * 10 + (c.toNat - '0'.toNat)) 0))
        else none
      else none := by
    unfold IStream.lexicalCast
    split
    rename_i negative digits signed
    split at signed
    · exact absurd rfl unsigned
    · cases signed
      exact ⟨digits, .inr rfl, rfl⟩
    · cases signed
      exact ⟨_, .inl rfl, rfl⟩
  obtain ⟨digits, signed, value⟩ := sign
  rw [value] at read
  split at read
  · rename_i numeral
    split at read
    · rename_i fits
      cases read
      exact ⟨digits, signed, numeral.1, numeral.2, UInt32.toNat_ofNat_of_lt' fits⟩
    · cases read
  · cases read

theorem digit_sign {digits : List Char} (numeral : digits.all (fun c => '0' ≤ c ∧ c ≤ '9') = true) :
    digits.head? ≠ some '-' ∧ digits.head? ≠ some '+' := by
  cases digits with
  | nil => exact ⟨nofun, nofun⟩
  | cons c rest =>
      rw [List.all_cons, Bool.and_eq_true] at numeral
      refine ⟨?_, ?_⟩
      · rintro ⟨⟩
        exact absurd numeral.1 (by decide)
      · rintro ⟨⟩
        exact absurd numeral.1 (by decide)

theorem natural_unsigned {chars : List Char} {n : Nat} (natural : Natural chars n) :
    chars.head? ≠ some '-' := by
  obtain ⟨digits, rfl | rfl, -, numeral, -⟩ := natural
  · exact (digit_sign numeral).1
  · exact nofun

theorem natural_unique {chars : List Char} {m n : Nat} (first : Natural chars m)
    (second : Natural chars n) : m = n := by
  obtain ⟨digits, same, -, numeral, rfl⟩ := first
  obtain ⟨digits', same', -, numeral', rfl⟩ := second
  have plus := (digit_sign numeral).2
  have plus' := (digit_sign numeral').2
  rcases same with rfl | rfl
  · rcases same' with rfl | rfl
    · rfl
    · exact absurd rfl plus
  · rcases same' with rfl | same'
    · exact absurd rfl plus'
    · cases same'
      rfl

theorem span_unsigned (text : List Char) : (text.span (· ≠ '-')).1.head? ≠ some '-' := by
  rw [List.span_eq_takeWhile_dropWhile]
  intro first
  have member := List.mem_of_mem_head? first
  simpa using List.all_eq_true.mp List.all_takeWhile _ member

/-- The year and the month of a date have no minus sign. -/
theorem splitDate_unsigned {text year month day : List Char}
    (split : splitDate text = some (year, month, day)) :
    year.head? ≠ some '-' ∧ month.head? ≠ some '-' := by
  have first := span_unsigned text
  unfold splitDate at split
  split at split
  · rename_i year' _ rest spanned
    have second := span_unsigned rest
    rw [spanned] at first
    split at split
    · rename_i month' _ day' spanned'
      rw [spanned'] at second
      cases split
      exact ⟨first, second⟩
    · cases split
  · cases split

/-- What passes for a date: three numbers, each between its bounds. -/
theorem parseHolidayEntry_some {word : String} {date : DateRecord}
    (parsed : parseHolidayEntry word = some date) :
    ∃ year month day d, splitDate word.toList = some (year, month, day) ∧
      Natural year (2000 + date.year.toNat) ∧ Natural month date.month.toNat ∧
      IStream.lexicalCast day = some d ∧ d.toNat = date.day.toNat ∧
      1 ≤ date.month.toNat ∧ date.month.toNat ≤ 12 ∧ 1 ≤ date.day.toNat := by
  unfold parseHolidayEntry at parsed
  obtain ⟨⟨year, month, day⟩, split, parsed⟩ := Option.bind_eq_some_iff.mp parsed
  obtain ⟨y, readYear, parsed⟩ := Option.bind_eq_some_iff.mp parsed
  obtain ⟨m, readMonth, parsed⟩ := Option.bind_eq_some_iff.mp parsed
  obtain ⟨d, readDay, parsed⟩ := Option.bind_eq_some_iff.mp parsed
  obtain ⟨noMinus, noMinus'⟩ := splitDate_unsigned split
  split at parsed
  · cases parsed
  · rename_i within
    cases parsed
    simp only [not_or, UInt32.not_lt, gt_iff_lt, UInt32.le_iff_toNat_le] at within
    obtain ⟨y1, y2, m1, m2, d1, d2⟩ := within
    have low : 2000 ≤ y.toNat := y1
    have high : y.toNat ≤ 2100 := y2
    have m12 : m.toNat ≤ 12 := m2
    have d31 : d.toNat ≤ 31 := d2
    have yearByte : 2000 + (y - 2000).toUInt8.toNat = y.toNat := by
      rw [UInt32.toNat_toUInt8, UInt32.toNat_sub_of_le _ _ (UInt32.le_iff_toNat_le.mpr y1)]
      show 2000 + (y.toNat - 2000) % 2 ^ 8 = y.toNat
      omega
    have monthByte : m.toUInt8.toNat = m.toNat := by
      rw [UInt32.toNat_toUInt8]
      omega
    have dayByte : d.toUInt8.toNat = d.toNat := by
      rw [UInt32.toNat_toUInt8]
      omega
    dsimp only
    rw [yearByte, monthByte, dayByte]
    exact ⟨year, month, day, d, split, lexicalCast_natural noMinus readYear,
      lexicalCast_natural noMinus' readMonth, readDay, rfl, m1, m12, d1⟩

/-- A word that passes for a date is mistaken if it is no date of the calendar. -/
theorem falseDate_iff {word : String} (passes : (parseHolidayEntry word).isSome = true) :
    FalseDate word ↔ ¬ ExistingDate word := by
  constructor
  · rintro ⟨date, parsed, reason⟩
      ⟨year, month, day, y, m, d, split, naturalYear, naturalMonth, naturalDay, -, -, -, within⟩
    rcases reason with behind | ⟨year', month', day', split'⟩
    · obtain ⟨year', month', day', d', split', naturalYear', naturalMonth', readDay, value, -, -, -⟩ :=
        parseHolidayEntry_some parsed
      cases split.symm.trans split'
      have naturalDay' := lexicalCast_natural (natural_unsigned naturalDay) readDay
      rw [← natural_unique naturalYear' naturalYear, ← natural_unique naturalMonth' naturalMonth,
        ← natural_unique naturalDay' naturalDay, value] at within
      omega
    · cases split.symm.trans split'
      exact natural_unsigned naturalDay rfl
  · intro other
    obtain ⟨date, parsed⟩ := Option.isSome_iff_exists.mp passes
    refine ⟨date, parsed, ?_⟩
    obtain ⟨year, month, day, d, split, naturalYear, naturalMonth, readDay, value, m1, m12, d1⟩ :=
      parseHolidayEntry_some parsed
    by_cases minus : day.head? = some '-'
    · obtain ⟨digits, rfl⟩ := List.head?_eq_some_iff.mp minus
      exact .inr ⟨year, month, digits, split⟩
    · have naturalDay := lexicalCast_natural minus readDay
      rw [value] at naturalDay
      by_contra within
      rw [not_or, not_lt] at within
      exact other ⟨year, month, day, _, _, _, split, naturalYear, naturalMonth, naturalDay, m1, m12, d1,
        within.1⟩

theorem scheduleMaintenance_governs : scheduleMaintenance.Governs handleScheduleMaintenance := by
  refine choice_governs (fun cmd => ?_)
  by_cases bydate : cmd = "bydate"
  · refine .inr ⟨date, by simp [bydate], ?_⟩
    rw [if_pos bydate]
    refine single_governs (fun s => ?_) (fun _ passes => falseDate_iff passes)
    rw [read_refuses]
    unfold nextWord
    cases s.request.readString.1 with
    | none =>
        refine iff_of_true (pure_refuses nofun) ?_
        show ¬ (parseHolidayEntry "").isSome = true
        decide
    | some due =>
        rw [Option.bind_some, Option.getD_some]
        cases parseHolidayEntry due with
        | none => exact iff_of_true (pure_refuses nofun) nofun
        | some date => exact iff_of_false (done_not_refuses _) (fun none => none rfl)
  rw [if_neg bydate]
  by_cases byhours : cmd = "byhours"
  · refine .inr ⟨integer 60, by simp [byhours, List.lookup], ?_⟩
    rw [if_pos byhours]
    refine @integer_governs 60 _ ?_ ?_
    · exact fun n s => done_not_refuses _
    · exact fun s => pure_refuses nofun
  rw [if_neg byhours]
  by_cases bymonths : cmd = "bymonths"
  · refine .inr ⟨integer 12, by simp [bymonths, List.lookup], ?_⟩
    rw [if_pos bymonths]
    refine @integer_governs 12 _ ?_ ?_
    · exact fun n s => done_not_refuses _
    · exact fun s => pure_refuses nofun
  rw [if_neg bymonths]
  by_cases off : cmd = "off"
  · refine .inr ⟨nothing, by simp [off, List.lookup], ?_⟩
    rw [if_pos off]
    exact done_governs _
  · rw [if_neg off]
    refine .inl ⟨?_, fun s => pure_refuses nofun⟩
    simp [List.lookup_eq_none_iff, bydate, byhours, bymonths, off]

/-- A parameter of a raw command that is not well-formed ends it. -/
theorem parameter_refuses {max : UInt32} {maxima : List UInt32}
    {next : Option UInt32 → RequestM (Option (UInt8 × UInt16 × UInt8 × UInt8))}
    {finish : Option (UInt8 × UInt16 × UInt8 × UInt8) → RequestM CommandResult} {s : Session}
    (ends : ∀ s, Refuses (next none >>= finish) s)
    (goes : ∀ n s, Refuses (next (some n) >>= finish) s ↔ ¬ Extracted true maxima s.request) :
    Refuses (parseIntParameter max >>= next >>= finish) s ↔
      ¬ Extracted true (max :: maxima) s.request := by
  show Refuses (next ((s.request.readUnsigned true).1.filter (· ≤ max)) >>= finish)
    ⟨s.parser, (s.request.readUnsigned true).2⟩ ↔ _
  unfold Extracted
  rcases filter_within (s.request.readUnsigned true).1 max with
    ⟨n, read, within, kept⟩ | ⟨outside, dropped⟩
  · rw [kept, goes]
    exact not_congr (and_iff_right ⟨n, read, within⟩).symm
  · rw [dropped]
    exact iff_of_true (ends _) (fun extracted => outside extracted.1)

/-- The four numbers of a raw command are extracted, or it is refused. -/
theorem rawParameters_refuses
    {command : UInt8 → UInt16 → UInt8 → UInt8 → ApiCommandParser → ApiCommandParser} {s : Session} :
    Refuses (rawParameters command) s ↔ ¬ Extracted true [255, 65535, 255, 255] s.request := by
  refine parameter_refuses (fun s => pure_refuses nofun) (fun target s => ?_)
  refine parameter_refuses (fun s => pure_refuses nofun) (fun type s => ?_)
  refine parameter_refuses (fun s => pure_refuses nofun) (fun offset s => ?_)
  refine parameter_refuses (fun s => pure_refuses nofun) (fun last s => ?_)
  exact iff_of_false (done_not_refuses _) (fun none => none trivial)

theorem raw_governs (command : UInt8 → UInt16 → UInt8 → UInt8 → ApiCommandParser → ApiCommandParser) :
    (integers [255, 65535, 255, 255]).Governs (rawParameters command) := by
  refine ⟨fun s other noSlip => ?_, fun s slips => ⟨slips.2, fun refuses => ?_⟩⟩
  · rw [rawParameters_refuses]
    exact fun extracted => noSlip ⟨extracted, other⟩
  · exact rawParameters_refuses.mp refuses slips.1

section Entries

variable {name : String} {dest : UInt8} {type : UInt16} {offset : UInt8}

theorem done_entry (change : ApiCommandParser → ApiCommandParser) :
    name = name ∧ nothing.Governs (do update change; pure .ok) := ⟨rfl, done_governs change⟩

theorem number_entry {multiplier min max : Int} : name = name ∧
    (number multiplier min max).Governs (handleSingleByteValue dest type offset multiplier min max) :=
  ⟨rfl, number_governs dest type offset multiplier min max⟩

theorem keyword_entry {words : List (String × UInt8)} {names : List String}
    (named : words.map Prod.fst = names) :
    name = name ∧ (keyword names).Governs (handleKeyword dest type offset words) :=
  ⟨rfl, keyword_governs dest type offset named⟩

end Entries

theorem hk_governs (number : UInt16) : hk.Governs (handleHkCommand number) := by
  refine select_governs ?_
  unfold hkCommands
  repeat' apply List.Forall₂.cons
  · exact done_entry _
  · exact done_entry _
  · exact number_entry
  · exact number_entry
  · exact number_entry
  · exact keyword_entry rfl
  · exact keyword_entry rfl
  · exact number_entry
  · exact number_entry
  · exact number_entry
  · exact ⟨rfl, temporaryTemp_governs⟩
  · exact keyword_entry rfl
  · exact number_entry
  · exact number_entry
  · exact List.Forall₂.nil

theorem ww_governs : ww.Governs handleWwCommand := by
  refine select_governs ?_
  unfold wwCommands
  repeat' apply List.Forall₂.cons
  · exact done_entry _
  · exact keyword_entry rfl
  · exact keyword_entry rfl
  · exact done_entry _
  · exact number_entry
  · exact number_entry
  · exact number_entry
  · exact number_entry
  · exact number_entry
  · exact keyword_entry rfl
  · exact List.Forall₂.nil

theorem rc_governs (env : Env) : (rc env).Governs (handleRcCommand env) := by
  refine select_governs ?_
  unfold rcCommands
  repeat' apply List.Forall₂.cons
  · exact done_entry _
  · exact done_entry _
  · exact done_entry _
  · exact done_entry _
  · exact number_entry
  · exact keyword_entry rfl
  · exact keyword_entry rfl
  · exact ⟨rfl, time_governs env⟩
  · exact done_entry _
  · exact ⟨rfl, contact_governs⟩
  · exact List.Forall₂.nil

theorem uba_governs (env : Env) : uba.Governs (handleUbaCommand env) := by
  refine select_governs ?_
  unfold ubaCommands
  repeat' apply List.Forall₂.cons
  · exact done_entry _
  · exact done_entry _
  · exact done_entry _
  · exact ⟨rfl, scheduleMaintenance_governs⟩
  · exact done_entry _
  · exact done_entry _
  · exact done_entry _
  · exact ⟨rfl, testMode_governs env.now⟩
  · exact ⟨rfl, testState_governs⟩
  · exact List.Forall₂.nil

theorem rawCommand_governs : raw.Governs handleRawCommand := by
  refine select_governs ?_
  unfold rawCommands
  repeat' apply List.Forall₂.cons
  · exact done_entry _
  · exact ⟨rfl, raw_governs _⟩
  · exact ⟨rfl, raw_governs _⟩
  · exact List.Forall₂.nil

theorem cache_governs (env : Env) : (cache env).Governs (handleCacheCommand env) := by
  cases stored : env.cache with
  | none =>
      refine ⟨fun s _ _ => ?_, ?_⟩
      · unfold handleCacheCommand
        rw [readWord_refuses, stored]
        exact pure_refuses nofun
      · rintro s ⟨domain, named, -⟩
        rw [stored] at named
        cases named
  | some outputValues =>
      unfold cache handleCacheCommand
      rw [stored]
      refine select_governs ?_
      repeat' apply List.Forall₂.cons
      · exact done_entry _
      · exact ⟨rfl, anything_governs _⟩
      · exact List.Forall₂.nil

/-- Every command has its domain. -/
theorem documented_governs (env : Env) : (documented env).Governs (parseCommand env) := by
  refine select_governs ?_
  unfold commands
  repeat' apply List.Forall₂.cons
  · exact done_entry _
  · exact ⟨rfl, hk_governs 61⟩
  · exact ⟨rfl, hk_governs 71⟩
  · exact ⟨rfl, hk_governs 81⟩
  · exact ⟨rfl, hk_governs 91⟩
  · exact ⟨rfl, ww_governs⟩
  · exact ⟨rfl, rc_governs env⟩
  · exact ⟨rfl, uba_governs env⟩
  · exact ⟨rfl, rawCommand_governs⟩
  · exact ⟨rfl, cache_governs env⟩
  · exact done_entry _
  · exact List.Forall₂.nil

end Domain

/-- The line makes `parse` enqueue a telegram. -/
def Enqueues (env : Env) (s : Session) : Prop :=
  ∃ message, .send message ∈ (final (parse env s)).parser.effects.drop s.parser.effects.length

/-- Only a free parser enqueues anything, and only for a documented line; all other lines are
    refused. -/
structure WellGuarded (env : Env) (s : Session) : Prop where
  enqueues : Enqueues env s → s.parser.activeRequest = none ∧ (Domain.documented env).Admits s.request
  refuses : s.parser.activeRequest.isSome = true ∨ ¬ (Domain.documented env).Admits s.request →
    Refuses (parse env) s

/-- A line that is refused enqueues nothing. -/
theorem Refuses.quiet {env : Env} {s : Session} (refuses : Refuses (parse env) s) :
    ¬ Enqueues env s := by
  obtain ⟨result, t, ran, -, same⟩ := refuses
  rintro ⟨message, enqueued⟩
  rw [ran] at enqueued
  have new : Effect.send message ∈ t.parser.effects.drop s.parser.effects.length := enqueued
  rw [same, List.drop_length] at new
  cases new

/-- The commands are guarded, except for a free parser against the lines that slip through. -/
theorem wellGuarded_iff (env : Env) (s : Session) :
    WellGuarded env s ↔
      s.parser.activeRequest.isSome = true ∨ ¬ (Domain.documented env).Slips s.request := by
  by_cases busy : s.parser.activeRequest.isSome = true
  · have refused : Refuses (parse env) s := ⟨.busy, s, if_pos busy, nofun, rfl⟩
    exact iff_of_true ⟨fun enqueues => absurd enqueues refused.quiet, fun _ => refused⟩ (.inl busy)
  have free : s.parser.activeRequest = none := by
    rw [Bool.not_eq_true, Option.isSome_eq_false_iff, Option.isNone_iff_eq_none] at busy
    exact busy
  have parsed : parse env s = parseCommand env s := if_neg busy
  have governs := Domain.documented_governs env
  have refuses : Refuses (parse env) s ↔ Refuses (parseCommand env) s := by
    unfold Refuses
    rw [parsed]
  rw [or_iff_right busy]
  constructor
  · intro guarded slips
    obtain ⟨other, taken⟩ := governs.taken s slips
    exact taken (refuses.mp (guarded.refuses (.inr other)))
  · intro noSlip
    have refused (other : ¬ (Domain.documented env).Admits s.request) : Refuses (parse env) s :=
      refuses.mpr (governs.refused s other noSlip)
    refine ⟨fun enqueues => ⟨free, ?_⟩, fun other => refused (other.resolve_left busy)⟩
    by_contra other
    exact (refused other).quiet enqueues

/-- The maintenance can be scheduled for the 30th of February. -/
theorem false_date_taken :
    ¬ ∀ (env : Env) (p : { p : ApiCommandParser // p.Fresh }) (line : List Char),
      WellGuarded env ⟨p, .ofChars line⟩ := by
  intro guarded
  let env : Env := ⟨none, fun s => (none, s), 0⟩
  let s : Session := ⟨(default : { p : ApiCommandParser // p.Fresh }),
    .ofChars "uba schedulemaintenance bydate 2023-02-30\n".toList⟩
  have passes : (parseHolidayEntry "2023-02-30").isSome = true := rfl
  have falseDate : FalseDate "2023-02-30" := ⟨⟨30, 2, 23⟩, rfl, .inl (by decide)⟩
  have slips : (Domain.documented env).Slips s.request :=
    ⟨Domain.uba, rfl, _, rfl, Domain.date, rfl, passes, .inl falseDate⟩
  obtain ⟨other, taken⟩ := (Domain.documented_governs env).taken s slips
  exact taken ((guarded env default _).refuses (.inr other))

end ApiCommandParser

end EmsCollector
