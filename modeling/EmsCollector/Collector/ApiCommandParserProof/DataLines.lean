import EmsCollector.Collector.ApiCommandParserProof.Outcome

/-!
# Data lines

The lines that the parser prints between a command and the end of its reply are not terminal
lines, whatever bytes a device sends for an error record, a version or a raw read.
-/

namespace EmsCollector.ApiCommandParser

/-- A text without a line break. -/
def Plain (text : String) : Prop := '\n' ∉ text.toList

instance (text : String) : Decidable (Plain text) := inferInstanceAs (Decidable (_ ∉ _))

theorem Plain.append {text rest : String} (first : Plain text) (second : Plain rest) :
    Plain (text ++ rest) := by
  unfold Plain
  rw [String.toList_append, List.mem_append, not_or]
  exact ⟨first, second⟩

theorem toString_plain (n : Nat) : Plain (toString n) := by
  intro break_
  have digits : (toString n).toList = Nat.toDigits 10 n := String.toList_ofList
  rw [digits] at break_
  exact absurd (Nat.isDigit_of_mem_toDigits (by decide) (by decide) break_) (by decide)

theorem formatDec_plain (width n : Nat) : Plain (formatDec width n) := by
  refine Plain.append (fun break_ => ?_) (toString_plain n)
  rw [String.toList_ofList] at break_
  exact absurd (List.eq_of_mem_replicate break_) (by decide)

theorem digitChar_plain {n : Nat} (bound : n < 16) : Nat.digitChar n ≠ '\n' := by
  revert n
  decide

theorem formatHex_plain (b : UInt8) : Plain (formatHex b) := by
  have bound := b.toNat_lt
  intro break_
  unfold formatHex at break_
  rw [String.toList_ofList, List.mem_cons, List.mem_singleton] at break_
  rcases break_ with high | low
  · exact digitChar_plain (by omega) high.symm
  · exact digitChar_plain (by omega) low.symm

theorem formatDateTime_plain (time : DateTimeRecord) : Plain (formatDateTime time) := by
  have dash : Plain "-" := by decide
  have blank : Plain " " := by decide
  have colon : Plain ":" := by decide
  unfold formatDateTime
  split
  · exact ((((((((formatDec_plain _ _).append dash).append (formatDec_plain _ _)).append dash).append
      (formatDec_plain _ _)).append blank).append (formatDec_plain _ _)).append colon).append
      (formatDec_plain _ _)
  · decide

theorem terminalLines_eq_nil {text : String} {chars : List Char} (same : text.toList = chars) :
    terminalLines text = [] ↔ ∀ line ∈ chars.splitOn '\n', line ∉ terminalChars := by
  unfold terminalLines
  rw [terminalWords_toList, same, List.map_eq_nil_iff, List.filter_eq_nil_iff]
  simp

/-- No terminal word holds a blank. -/
theorem blank_not_terminal {line : List Char} (blank : ' ' ∈ line) : line ∉ terminalChars := by
  intro terminal
  have words : ∀ word ∈ terminalChars, ' ' ∉ word := by decide
  exact words line terminal blank

theorem short_not_terminal {line : List Char} (short : line.length ≤ 1) : line ∉ terminalChars := by
  intro terminal
  have words : ∀ word ∈ terminalChars, ¬ word.length ≤ 1 := by decide
  exact words line terminal short

/-- A line with a blank. -/
theorem plain_quiet {text : String} (plain : Plain text) (blank : ' ' ∈ text.toList) :
    terminalLines text = [] := by
  rw [terminalLines_eq_nil rfl, List.splitOn_eq_singleton plain]
  intro line member
  cases List.mem_singleton.mp member
  exact blank_not_terminal blank

theorem empty_quiet : terminalLines "" = [] := terminalLines_ofList rfl

/-- What stands before the first line break goes to the first line. -/
theorem splitOn_plain_append {before : List Char} (noBreak : '\n' ∉ before) (rest : List Char) :
    (before ++ rest).splitOn '\n' = (rest.splitOn '\n').modifyHead (before ++ ·) := by
  induction before with
  | nil =>
      show rest.splitOn '\n' = (rest.splitOn '\n').modifyHead id
      rw [List.modifyHead_id]
      rfl
  | cons c before ih =>
      rw [List.mem_cons, not_or] at noBreak
      rw [List.cons_append, List.splitOn_cons_eq_if_modifyHead, ih noBreak.2,
        if_neg (by simpa using fun same => noBreak.1 same.symm), List.modifyHead_modifyHead]
      rfl

/-- Three characters of any kind between blanks: a line has a blank or is very short. -/
theorem three_quiet {text : String} {before after : List Char} {c₁ c₂ c₃ : Char}
    (same : text.toList = before ++ ' ' :: c₁ :: c₂ :: c₃ :: ' ' :: after) (noBreak : '\n' ∉ before)
    (noBreak' : '\n' ∉ after) : terminalLines text = [] := by
  have behind : (' ' :: after).splitOn '\n' = [' ' :: after] :=
    List.splitOn_eq_singleton (by simpa using noBreak')
  have shape : ∀ line ∈ (before ++ ' ' :: c₁ :: c₂ :: c₃ :: ' ' :: after).splitOn '\n',
      ' ' ∈ line ∨ line.length ≤ 1 := by
    rw [splitOn_plain_append noBreak]
    simp only [List.splitOn_cons_eq_if_modifyHead _ (_ :: _), behind]
    by_cases first : c₁ = '\n' <;> by_cases second : c₂ = '\n' <;> by_cases third : c₃ = '\n' <;>
      simp [first, second, third]
  rw [terminalLines_eq_nil same]
  intro line member
  rcases shape line member with blank | short
  · exact blank_not_terminal blank
  · exact short_not_terminal short

theorem formatChar_toList (b : UInt8) : (formatChar b).toList = [Char.ofNat b.toNat] :=
  String.toList_ofList

/-- The line of a record with an error code of three characters. -/
theorem record_quiet {front back : String} (a₁ a₂ a₃ : UInt8) (plain : Plain front) (plain' : Plain back) :
    terminalLines (front ++ " " ++ formatChar a₁ ++ formatChar a₂ ++ formatChar a₃ ++ " " ++ back) = [] := by
  have blank : " ".toList = [' '] := by decide
  refine @three_quiet _ front.toList back.toList (Char.ofNat a₁.toNat) (Char.ofNat a₂.toNat)
    (Char.ofNat a₃.toNat) ?_ plain plain'
  simp [String.toList_append, formatChar_toList, blank]

/-- The lines of a listing are no terminal lines. -/
def QuietListing (kind : RecordKind) (mark : String) : Prop :=
  ∀ bytes n, terminalLines (mark ++ formatDec 2 n ++ " " ++ kind.buildRecordResponse bytes) = []

/-- The number of a record without a text. -/
theorem number_quiet {mark : String} (plain : Plain mark) (n : Nat) :
    terminalLines (mark ++ formatDec 2 n ++ " " ++ "") = [] := by
  have blank : Plain " " := by decide
  have nothing : Plain "" := by decide
  refine plain_quiet (((plain.append (formatDec_plain 2 n)).append blank).append nothing) ?_
  simp [String.toList_append]

theorem errorRecord2_quiet {mark : String} (plain : Plain mark) : QuietListing errorRecord2 mark := by
  intro bytes n
  have blank : Plain " " := by decide
  have dash : Plain " - " := by decide
  have none_quiet := number_quiet plain n
  show terminalLines (mark ++ formatDec 2 n ++ " " ++
    ((ErrorRecord2.read bytes).map ErrorRecord2.response).getD "") = []
  cases ErrorRecord2.read bytes with
  | none => exact none_quiet
  | some r =>
      rw [Option.map_some, Option.getD_some]
      unfold ErrorRecord2.response
      split
      · exact none_quiet
      · have front : Plain (mark ++ formatDec 2 n ++ " " ++ formatDateTime r.start ++ " - " ++
            formatDateTime r.stop ++ " " ++ formatHex r.source) :=
          ((((((plain.append (formatDec_plain 2 n)).append blank).append (formatDateTime_plain _)).append
            dash).append (formatDateTime_plain _)).append blank).append (formatHex_plain _)
        have back : Plain (toString r.code.toNat ++ " ") := (toString_plain _).append blank
        have quiet := record_quiet r.errorAscii.1 r.errorAscii.2.1 r.errorAscii.2.2 front back
        simp only [String.append_assoc] at quiet ⊢
        exact quiet

theorem errorRecordShort_quiet {mark : String} (plain : Plain mark) :
    QuietListing errorRecordShort mark := by
  intro bytes n
  have blank : Plain " " := by decide
  have none_quiet := number_quiet plain n
  show terminalLines (mark ++ formatDec 2 n ++ " " ++
    ((ErrorRecordShort.read bytes).map ErrorRecordShort.response).getD "") = []
  cases ErrorRecordShort.read bytes with
  | none => exact none_quiet
  | some r =>
      rw [Option.map_some, Option.getD_some]
      unfold ErrorRecordShort.response
      split
      · exact none_quiet
      · have back : Plain (toString r.code.toNat ++ " ") := (toString_plain _).append blank
        have quiet := record_quiet r.errorAscii.1 r.errorAscii.2.1 r.errorAscii.2.2
          (plain.append (formatDec_plain 2 n)) back
        simp only [String.append_assoc] at quiet ⊢
        exact quiet

theorem rawOutput_quiet (response : List UInt8) : terminalLines (rawOutput response) = [] := by
  cases response with
  | nil => exact empty_quiet
  | cons b rest =>
      have chars : (rawOutput (b :: rest)).toList =
          (b :: rest).flatMap (fun b => ("0x" ++ formatHex b ++ " ").toList) := by
        unfold rawOutput
        rw [String.toList_join, List.flatMap_map]
      have hex : Plain "0x" := by decide
      have blank : Plain " " := by decide
      refine plain_quiet ?_ ?_
      · unfold Plain
        rw [chars, List.mem_flatMap]
        rintro ⟨b, -, break_⟩
        exact (hex.append (formatHex_plain b)).append blank break_
      · rw [chars]
        simp [String.toList_append]

/-- The line with a version. -/
theorem version_quiet {source : UInt8} {name : String} (known : (source, name) ∈ versionSources)
    (major minor : UInt8) : terminalLines
      (name ++ " version: " ++ toString major.toNat ++ "." ++ formatDec 2 minor.toNat) = [] := by
  have point : Plain "." := by decide
  have version : Plain " version: " := by decide
  have named : Plain name := by
    simp only [versionSources, List.mem_cons, Prod.mk.injEq, List.not_mem_nil, or_false] at known
    rcases known with ⟨-, rfl⟩ | ⟨-, rfl⟩ | ⟨-, rfl⟩ <;> decide
  refine plain_quiet ((((named.append version).append (toString_plain _)).append point).append
    (formatDec_plain _ _)) ?_
  simp [String.toList_append]

end EmsCollector.ApiCommandParser
