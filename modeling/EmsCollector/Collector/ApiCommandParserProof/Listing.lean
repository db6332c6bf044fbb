import EmsCollector.Collector.ApiCommandParserProof.RawRead
import EmsCollector.Collector.CommandHandler
import EmsCollector.Misc.Records

/-!
# Listings of errors

A listing prints the records of a response while the response is still arriving. The parse position
and the number of the last record are kept from one part of the response to the next, but for the
active errors, whose position begins anew with every part: what was printed is printed again.
-/

namespace EmsCollector

/-- The commands that list records. -/
inductive Listing where
  | rcActiveErrors | rcErrors | ubaActiveErrors | ubaErrors
  deriving DecidableEq, Repr

namespace Listing

/-- The words of the command. -/
def words : Listing → String × String
  | rcActiveErrors => ("rc", "activeerrors")
  | rcErrors => ("rc", "geterrors")
  | ubaActiveErrors => ("uba", "activeerrors")
  | ubaErrors => ("uba", "geterrors")

def dest : Listing → UInt8
  | rcActiveErrors | rcErrors => EmsProto.addressUI800
  | ubaActiveErrors | ubaErrors => EmsProto.addressUBA2

def type : Listing → UInt16
  | rcActiveErrors | ubaActiveErrors => 0x00bf
  | rcErrors => 0x00c0
  | ubaErrors => 0x00c2

/-- The number of bytes asked for. -/
def length : Listing → Nat
  | rcActiveErrors | ubaActiveErrors => 20
  | rcErrors | ubaErrors => 10 * ApiCommandParser.errorRecord2.size

def kind : Listing → ApiCommandParser.RecordKind
  | rcActiveErrors | ubaActiveErrors => ApiCommandParser.errorRecordShort
  | rcErrors | ubaErrors => ApiCommandParser.errorRecord2

/-- What stands before the number of a record. -/
def mark : Listing → String
  | rcActiveErrors | ubaActiveErrors => " "
  | rcErrors => "R"
  | ubaErrors => "U"

/-- The bytes before the first record. -/
def skip : Listing → Nat
  | rcActiveErrors | ubaActiveErrors => 3
  | rcErrors | ubaErrors => 0

/-- The records that a response holds. -/
def held (l : Listing) (response : List UInt8) : List (List UInt8) :=
  records l.kind.size (response.drop l.skip)

/-- A record that stands for no error. -/
def Empty (l : Listing) (record : List UInt8) : Prop := l.kind.buildRecordResponse record = ""

instance (l : Listing) (record : List UInt8) : Decidable (l.Empty record) :=
  inferInstanceAs (Decidable (_ = _))

/-- The line for a record with its number. -/
def line (l : Listing) (number : UInt32) (record : List UInt8) : String :=
  l.mark ++ ApiCommandParser.formatDec 2 number.toNat ++ " " ++ l.kind.buildRecordResponse record

/-- Each record up to the first empty one, numbered on from `count`. -/
def lines (l : Listing) : UInt32 → List (List UInt8) → List String
  | _, [] => []
  | count, record :: rest =>
      if l.Empty record then [] else l.line (count + 1) record :: l.lines (count + 1) rest

/-- The device answers with the bytes that begin at an offset. -/
def answer (l : Listing) (offset : Nat) (chunk : List UInt8) : EmsMessage :=
  { valueHandler := true, data := chunk, source := l.dest, dest := 0x0b, type := l.type.toUInt8
    extType := 0, offset := UInt8.ofNat offset }

/-- The buffer begins with the command. -/
def Typed (l : Listing) (s : Session) : Prop :=
  ∃ first second, ApiCommandParser.nextWord s.request = (l.words.1, first) ∧
    ApiCommandParser.nextWord first = (l.words.2, second)

/-- The connection gets the response in parts, from an offset on. -/
def feed (l : Listing) (conn : CommandConnection) : Nat → List (List UInt8) → Option CommandConnection
  | _, [] => some conn
  | offset, chunk :: rest => do
      let (conn, _) ← conn.step (.incoming (l.answer offset chunk))
      l.feed conn (offset + chunk.length) rest

/-- The records that are looked at when a part arrives behind `got`: those that are complete now,
    and for the active errors also those that were complete before. -/
def looked (l : Listing) (got chunk : List UInt8) : List (List UInt8) :=
  if l.type = 0x00bf then l.held (got ++ chunk)
  else records l.kind.size ((got ++ chunk).drop (l.kind.size * (records l.kind.size got).length))

/-- What the parts of a response print when `got` has arrived and `count` records were printed. -/
def printed (l : Listing) : List UInt8 → UInt32 → List (List UInt8) → List String
  | _, _, [] => []
  | got, count, chunk :: rest =>
      l.lines count (l.looked got chunk) ++
        if ∃ record ∈ l.looked got chunk, l.Empty record then []
        else l.printed (got ++ chunk) (count + UInt32.ofNat (l.looked got chunk).length) rest

/-- Every part but the last one leaves no record that will be printed again: it completes none, or
    there is an empty one among those that are complete. -/
def Apart (l : Listing) (chunks : List (List UInt8)) : Prop :=
  l.type = 0x00bf → ∀ front back, chunks = front ++ back → back ≠ [] →
    l.held front.flatten = [] ∨ ∃ record ∈ l.held front.flatten, l.Empty record

variable {l : Listing} {got : List UInt8} {count : UInt32}

theorem size_pos (l : Listing) : 0 < l.kind.size := by cases l <;> decide

theorem held_prefix (l : Listing) (front back : List UInt8) :
    l.held front <+: l.held (front ++ back) := by
  unfold held
  by_cases enough : l.skip ≤ front.length
  · rw [List.drop_append_of_le_length enough]
    exact records_prefix l.size_pos _ _
  · have none_yet : front.drop l.skip = [] := List.drop_eq_nil_of_le (Nat.le_of_not_le enough)
    rw [none_yet, records_short l.size_pos]
    exact List.nil_prefix

theorem held_nil (l : Listing) : l.held [] = [] := by
  unfold held
  rw [List.drop_nil]
  exact records_short l.size_pos

/-- Behind an empty record nothing is printed. -/
theorem lines_append_empty {front : List (List UInt8)} (empty : ∃ record ∈ front, l.Empty record)
    (count : UInt32) (back : List (List UInt8)) :
    l.lines count (front ++ back) = l.lines count front := by
  induction front generalizing count with
  | nil =>
      obtain ⟨record, member, -⟩ := empty
      cases member
  | cons first rest ih =>
      rw [List.cons_append, lines, lines]
      by_cases now : l.Empty first
      · rw [if_pos now, if_pos now]
      · obtain ⟨record, member, later⟩ := empty
        rcases List.mem_cons.mp member with rfl | member
        · exact absurd later now
        · rw [if_neg now, if_neg now, ih ⟨record, member, later⟩]

/-- The numbers go on. -/
theorem lines_append {front : List (List UInt8)} (full : ∀ record ∈ front, ¬ l.Empty record)
    (count : UInt32) (back : List (List UInt8)) : l.lines count (front ++ back) =
      l.lines count front ++ l.lines (count + UInt32.ofNat front.length) back := by
  induction front generalizing count with
  | nil =>
      show l.lines count back = [] ++ l.lines (count + 0) back
      rw [UInt32.add_zero, List.nil_append]
  | cons first rest ih =>
      rw [List.forall_mem_cons] at full
      have number : count + UInt32.ofNat (rest.length + 1) = count + 1 + UInt32.ofNat rest.length := by
        rw [UInt32.ofNat_add, UInt32.add_assoc, UInt32.add_comm 1]
        rfl
      rw [List.cons_append, lines, lines, if_neg full.1, if_neg full.1, ih full.2, List.cons_append,
        List.length_cons, number]

/-- Without an empty record there is a line for each. -/
theorem length_lines {front : List (List UInt8)} (full : ∀ record ∈ front, ¬ l.Empty record)
    (count : UInt32) : (l.lines count front).length = front.length := by
  induction front generalizing count with
  | nil => rfl
  | cons first rest ih =>
      rw [List.forall_mem_cons] at full
      rw [lines, if_neg full.1, List.length_cons, List.length_cons, ih full.2]

/-- How many lines there are does not depend on the number of the first one. -/
theorem length_lines_eq (l : Listing) (count other : UInt32) (front : List (List UInt8)) :
    (l.lines count front).length = (l.lines other front).length := by
  induction front generalizing count other with
  | nil => rfl
  | cons first rest ih =>
      rw [lines, lines]
      by_cases empty : l.Empty first
      · rw [if_pos empty, if_pos empty]
      · rw [if_neg empty, if_neg empty, List.length_cons, List.length_cons, ih]

theorem empty_or_full (l : Listing) (front : List (List UInt8)) :
    (∃ record ∈ front, l.Empty record) ∨ ∀ record ∈ front, ¬ l.Empty record := by
  by_cases empty : ∃ record ∈ front, l.Empty record
  · exact .inl empty
  · exact .inr (fun record member now => empty ⟨record, member, now⟩)

theorem printed_empty {chunk : List UInt8} (empty : ∃ record ∈ l.looked got chunk, l.Empty record)
    (count : UInt32) (rest : List (List UInt8)) :
    l.printed got count (chunk :: rest) = l.lines count (l.looked got chunk) := by
  rw [printed, if_pos empty, List.append_nil]

theorem printed_full {chunk : List UInt8} (full : ∀ record ∈ l.looked got chunk, ¬ l.Empty record)
    (count : UInt32) (rest : List (List UInt8)) : l.printed got count (chunk :: rest) =
      l.lines count (l.looked got chunk) ++
        l.printed (got ++ chunk) (count + UInt32.ofNat (l.looked got chunk).length) rest := by
  rw [printed, if_neg]
  rintro ⟨record, member, empty⟩
  exact full record member empty

/-- Where the position is kept, the parts print what is new in them. -/
theorem lines_printed (kept : l.type ≠ 0x00bf) (full : ∀ record ∈ l.held got, ¬ l.Empty record)
    (count : UInt32) (chunks : List (List UInt8)) :
    l.lines count (l.held (got ++ chunks.flatten)) = l.lines count (l.held got) ++
      l.printed got (count + UInt32.ofNat (l.held got).length) chunks := by
  have start (bytes : List UInt8) : l.held bytes = records l.kind.size bytes := by
    have first : l.skip = 0 := by cases l <;> first | rfl | exact absurd rfl kept
    rw [held, first, List.drop_zero]
  induction chunks generalizing got with
  | nil => rw [List.flatten_nil, List.append_nil, printed, List.append_nil]
  | cons chunk rest ih =>
      have more : l.held (got ++ chunk) = l.held got ++ l.looked got chunk := by
        rw [start, start, looked, if_neg kept, records_append l.size_pos]
      rw [List.flatten_cons, ← List.append_assoc]
      rcases l.empty_or_full (l.looked got chunk) with empty | now
      · have ends : ∃ record ∈ l.held (got ++ chunk), l.Empty record := by
          obtain ⟨record, member, is_empty⟩ := empty
          exact ⟨record, more ▸ List.mem_append_right _ member, is_empty⟩
        obtain ⟨back, split⟩ := l.held_prefix (got ++ chunk) rest.flatten
        rw [printed_empty empty, ← split, lines_append_empty ends, more, lines_append full]
      · have all : ∀ record ∈ l.held (got ++ chunk), ¬ l.Empty record := by
          rw [more]
          intro record member
          rcases List.mem_append.mp member with old | new
          · exact full record old
          · exact now record new
        rw [printed_full now, ih all, more, lines_append full, List.append_assoc, List.length_append,
          UInt32.ofNat_add, UInt32.add_assoc]

/-- What holds of the parts of a listing that begins anew with each of them. -/
def ApartFrom (l : Listing) (got : List UInt8) (chunks : List (List UInt8)) : Prop :=
  ∀ front back, chunks = front ++ back → front ≠ [] → back ≠ [] →
    l.held (got ++ front.flatten) = [] ∨ ∃ record ∈ l.held (got ++ front.flatten), l.Empty record

theorem ApartFrom.tail {chunk : List UInt8} {rest : List (List UInt8)}
    (apart : l.ApartFrom got (chunk :: rest)) : l.ApartFrom (got ++ chunk) rest := by
  intro front back split _ more
  have whole := apart (chunk :: front) back (by rw [split]; rfl) (by simp) more
  rwa [List.flatten_cons, ← List.append_assoc] at whole

/-- Nothing is printed before the part that ends the listing. -/
theorem printed_apart (anew : l.type = 0x00bf) {chunks : List (List UInt8)} (some_chunks : chunks ≠ [])
    (apart : l.ApartFrom got chunks) :
    l.printed got count chunks = l.lines count (l.held (got ++ chunks.flatten)) := by
  induction chunks generalizing got with
  | nil => exact absurd rfl some_chunks
  | cons chunk rest ih =>
      have looked : l.looked got chunk = l.held (got ++ chunk) := if_pos anew
      rw [List.flatten_cons, ← List.append_assoc]
      rcases l.empty_or_full (l.looked got chunk) with empty | full
      · obtain ⟨back, split⟩ := l.held_prefix (got ++ chunk) rest.flatten
        rw [printed_empty empty, ← split, looked, lines_append_empty (looked ▸ empty)]
      · rw [printed_full full]
        by_cases last : rest = []
        · rw [last, printed, List.flatten_nil, List.append_nil, List.append_nil, looked]
        · have first := apart [chunk] rest rfl (by simp) last
          have none_yet : l.looked got chunk = [] := by
            rw [List.flatten_singleton, ← looked] at first
            rcases first with none_yet | ⟨record, member, empty⟩
            · exact none_yet
            · exact absurd empty (full record member)
          rw [none_yet]
          show [] ++ l.printed (got ++ chunk) (count + 0) rest = _
          rw [UInt32.add_zero, List.nil_append, ih last apart.tail]

/-- At least every record up to the first empty one is printed, and where there are no more lines
    than that, nothing is printed before the part that ends the listing. -/
theorem printed_length (anew : l.type = 0x00bf) {chunks : List (List UInt8)} (some_chunks : chunks ≠ []) :
    let all := l.lines 0 (l.held (got ++ chunks.flatten))
    all.length ≤ (l.printed got count chunks).length ∧
      ((l.printed got count chunks).length = all.length → l.ApartFrom got chunks) := by
  intro all
  induction chunks generalizing got count with
  | nil => exact absurd rfl some_chunks
  | cons chunk rest ih =>
      have looked : l.looked got chunk = l.held (got ++ chunk) := if_pos anew
      have whole : all = l.lines 0 (l.held (got ++ chunk ++ rest.flatten)) := by
        rw [List.append_assoc]
        rfl
      rcases l.empty_or_full (l.looked got chunk) with empty | full
      · obtain ⟨back, split⟩ := l.held_prefix (got ++ chunk) rest.flatten
        have same : (l.printed got count (chunk :: rest)).length = all.length := by
          rw [printed_empty empty, whole, ← split, lines_append_empty (looked ▸ empty), looked]
          exact l.length_lines_eq _ _ _
        refine ⟨Nat.le_of_eq same.symm, fun _ front back chunks some_front _ => .inr ?_⟩
        obtain ⟨first, later, rfl⟩ := List.exists_cons_of_ne_nil some_front
        obtain ⟨rfl, rfl⟩ := List.cons_eq_cons.mp chunks
        obtain ⟨record, member, is_empty⟩ := empty
        refine ⟨record, ?_, is_empty⟩
        rw [List.flatten_cons, ← List.append_assoc]
        exact (l.held_prefix (got ++ chunk) later.flatten).subset (looked ▸ member)
      · rw [printed_full full, List.length_append, length_lines full]
        by_cases last : rest = []
        · subst last
          have same : all.length = (l.looked got chunk).length := by
            rw [whole, List.flatten_nil, List.append_nil, ← looked, length_lines full]
          refine ⟨by omega, fun _ front back chunks some_front some_back => ?_⟩
          obtain ⟨first, later, rfl⟩ := List.exists_cons_of_ne_nil some_front
          have none_left := (List.cons_eq_cons.mp chunks).2
          exact absurd (List.append_eq_nil_iff.mp none_left.symm).2 some_back
        · obtain ⟨less, apart⟩ := @ih (got ++ chunk)
            (count + UInt32.ofNat (l.looked got chunk).length) last
          rw [← whole] at less apart
          refine ⟨by omega, fun same front back chunks some_front some_back => ?_⟩
          obtain ⟨first, later, rfl⟩ := List.exists_cons_of_ne_nil some_front
          obtain ⟨rfl, split⟩ := List.cons_eq_cons.mp chunks
          rw [List.flatten_cons, ← List.append_assoc]
          by_cases only : later = []
          · left
            rw [only, List.flatten_nil, List.append_nil, ← looked, ← List.length_eq_zero_iff]
            omega
          · exact apart (by omega) later back split only some_back

/-- The parts of a response print its records, each up to the first empty one once, just if no part
    but the last leaves a record behind that is printed again. -/
theorem printed_iff {chunks : List (List UInt8)} (some_chunks : chunks ≠ []) :
    l.printed [] 0 chunks = l.lines 0 (l.held chunks.flatten) ↔ l.Apart chunks := by
  by_cases anew : l.type = 0x00bf
  · constructor
    · intro same _ front back split more
      by_cases nothing : front = []
      · left
        rw [nothing]
        exact l.held_nil
      · have apart := (@printed_length l [] 0 anew chunks some_chunks).2
          (congrArg List.length same)
        exact apart front back split nothing more
    · intro apart
      exact printed_apart anew some_chunks (fun front back split _ more => apart anew front back split more)
  · refine iff_of_true ?_ (fun same => absurd same anew)
    have none_held : ∀ record ∈ l.held [], ¬ l.Empty record := by
      rw [held_nil]
      exact nofun
    have parts := lines_printed anew none_held 0 chunks
    rw [held_nil] at parts
    exact parts.symm

/-- The parser waits for the rest of a response; `got` has arrived, and `count` records were printed. -/
structure Asked (l : Listing) (got : List UInt8) (count : UInt32) (p : ApiCommandParser) :
    Prop where
  active : p.activeRequest.isSome = true
  response : p.requestResponse = got
  missing : got.length < l.length
  length : p.requestLength = l.length
  destination : p.requestDestination = l.dest
  type : p.requestType = l.type
  offset : p.requestOffset = 0
  raw : p.outputRawData = false
  counter : p.responseCounter = count
  position : l.type ≠ 0x00bf → p.parsePosition = l.kind.size * (records l.kind.size got).length

end Listing

namespace ApiCommandParser

open Listing (lines)

variable {l : Listing}

/-- The parse position moves over the records that are looked at. -/
def listed (p : ApiCommandParser) (l : Listing) (todo : List (List UInt8)) : ApiCommandParser :=
  { p with parsePosition := p.parsePosition + l.kind.size * todo.length
           responseCounter := p.responseCounter + UInt32.ofNat todo.length
           effects := p.effects ++ (l.lines p.responseCounter todo).map Effect.output }

theorem listed_nil (p : ApiCommandParser) (l : Listing) : p.listed l [] = p := by
  show { p with parsePosition := p.parsePosition + l.kind.size * 0
                responseCounter := p.responseCounter + 0, effects := p.effects ++ [] } = p
  simp

/-- The loop prints the records up to the first empty one. -/
theorem recordLoop_lines (l : Listing) (fuel : Nat) {p : ApiCommandParser} {todo : List (List UInt8)}
    (left : records l.kind.size (p.requestResponse.drop p.parsePosition) = todo)
    (enough : todo.length ≤ fuel) :
    (∀ record ∈ todo, ¬ l.Empty record) ∧
        recordLoop l.kind l.mark fuel p = (p.listed l todo).finishLoop ∨
      (∃ record ∈ todo, l.Empty record) ∧ ∃ q, recordLoop l.kind l.mark fuel p = (some true, q) ∧
        q.effects = p.effects ++ (l.lines p.responseCounter todo).map Effect.output := by
  induction fuel generalizing p todo with
  | zero =>
      have nothing := List.length_eq_zero_iff.mp (Nat.le_zero.mp enough)
      rw [nothing, listed_nil]
      exact .inl ⟨nofun, rfl⟩
  | succ fuel ih =>
      unfold recordLoop
      by_cases complete : p.parsePosition + l.kind.size ≤ p.requestResponse.length
      · have more : l.kind.size ≤ (p.requestResponse.drop p.parsePosition).length := by
          rw [List.length_drop]
          omega
        rw [records_cons l.size_pos more, List.drop_drop] at left
        subst left
        generalize first : (p.requestResponse.drop p.parsePosition).take l.kind.size = record at enough ⊢
        rw [if_pos complete]
        dsimp only
        by_cases empty : l.Empty record
        · right
          refine ⟨⟨record, List.mem_cons_self .., empty⟩, _, if_pos empty, ?_⟩
          rw [lines, if_pos empty, List.map_nil, List.append_nil]
        · rw [if_neg (show ¬ l.kind.buildRecordResponse record = "" from empty)]
          let q : ApiCommandParser := ApiCommandParser.output
            { p with parsePosition := p.parsePosition + l.kind.size, responseCounter := p.responseCounter + 1 }
            (l.line (p.responseCounter + 1) record)
          generalize rest : records l.kind.size (p.requestResponse.drop (p.parsePosition + l.kind.size)) =
            todo at enough ⊢
          have tail : todo.length ≤ fuel := Nat.le_of_succ_le_succ enough
          have line : l.lines p.responseCounter (record :: todo) =
              l.line (p.responseCounter + 1) record :: l.lines (p.responseCounter + 1) todo := by
            rw [lines, if_neg empty]
          have both : q.listed l todo = p.listed l (record :: todo) := by
            have position : p.parsePosition + l.kind.size + l.kind.size * todo.length =
                p.parsePosition + l.kind.size * (todo.length + 1) := by
              rw [Nat.mul_succ]
              omega
            have number : p.responseCounter + 1 + UInt32.ofNat todo.length =
                p.responseCounter + UInt32.ofNat (todo.length + 1) := by
              rw [UInt32.ofNat_add, UInt32.add_assoc, UInt32.add_comm 1]
              rfl
            simp only [listed, q, output, line, position, number, List.length_cons, List.map_cons,
              List.append_assoc, List.singleton_append]
          rcases ih (p := q) rest tail with ⟨full, looped⟩ | ⟨later, r, looped, effects⟩
          · left
            refine ⟨List.forall_mem_cons.mpr ⟨empty, full⟩, ?_⟩
            rw [← both]
            exact looped
          · right
            obtain ⟨other, member, is_empty⟩ := later
            refine ⟨⟨other, List.mem_cons_of_mem _ member, is_empty⟩, r, looped, ?_⟩
            rw [effects, line, List.map_cons]
            simp [q, output]
      · have nothing : todo = [] := by
          rw [← left]
          apply records_short
          rw [List.length_drop]
          have := l.size_pos
          omega
        rw [if_neg complete, nothing, listed_nil]
        exact .inl ⟨nofun, rfl⟩

/-- The parser as it goes through the records of a response. -/
def resumed (p : ApiCommandParser) (l : Listing) : ApiCommandParser :=
  { p with parsePosition := if l.type = 0x00bf then 3 else p.parsePosition }

theorem handleResponse_listing {p : ApiCommandParser} (type : p.requestType = l.type) :
    p.handleResponse = .ok ((p.resumed l).loopOverResponse l.kind l.mark) := by
  have number : p.requestType.toNat = l.type.toNat := congrArg UInt16.toNat type
  unfold handleResponse
  rw [number]
  cases l <;> rfl

/-- The records that the loop goes through. -/
theorem resumed_records {p : ApiCommandParser} {got chunk : List UInt8}
    (response : p.requestResponse = got ++ chunk)
    (position : l.type ≠ 0x00bf → p.parsePosition = l.kind.size * (records l.kind.size got).length) :
    records l.kind.size (p.requestResponse.drop (p.resumed l).parsePosition) = l.looked got chunk := by
  unfold resumed Listing.looked
  by_cases anew : l.type = 0x00bf
  · have first : l.skip = 3 := by cases l <;> first | rfl | exact absurd anew (by decide)
    rw [if_pos anew, Listing.held, first, ← response]
    simp only [if_pos anew]
  · rw [if_neg anew, response]
    simp only [if_neg anew, position anew]

theorem finishLoop_complete {p : ApiCommandParser}
    (complete : p.requestLength ≤ p.requestResponse.length) : p.finishLoop = (some true, p) := by
  unfold finishLoop
  rw [RawRead.continueRequest_complete complete]

theorem finishLoop_missing {p : ApiCommandParser}
    (missing : p.requestResponse.length < p.requestLength) :
    p.finishLoop = (none, p.sendCommand p.requestDestination p.requestType
      (UInt8.ofNat (p.requestOffset + p.requestResponse.length))
      [UInt8.ofNat (p.requestLength - p.requestResponse.length)] true) := by
  unfold finishLoop
  rw [RawRead.continueRequest_missing missing]

/-- The request is started. -/
theorem startRequest_asked (l : Listing) (p : ApiCommandParser) :
    let q := p.startRequest l.dest l.type 0 l.length
    Listing.Asked l [] 0 q ∧ ∃ message, q.effects = p.effects ++ [.send message] := by
  intro q
  let fresh : ApiCommandParser := { p with
    requestOffset := 0, requestLength := l.length, requestDestination := l.dest
    requestType := l.type, requestResponse := [], parsePosition := 0, outputRawData := false
    responseCounter := 0 }
  have missing : fresh.requestResponse.length < fresh.requestLength := by
    show 0 < l.length
    cases l <;> decide
  have started : q = fresh.continueRequest.2 := rfl
  rw [started, RawRead.continueRequest_missing missing]
  refine ⟨⟨rfl, rfl, missing, rfl, rfl, rfl, rfl, rfl, rfl, fun _ => ?_⟩, _, rfl⟩
  rw [records_short l.size_pos]
  rfl

/-- A part of the response prints the records that are looked at. It ends the listing if there is an
    empty one among them, or nothing is missing. -/
theorem incoming_asked {got chunk : List UInt8} {count : UInt32} {p : ApiCommandParser}
    (asked : Listing.Asked l got count p) (some_data : chunk ≠ [])
    (within : (got ++ chunk).length ≤ l.length) :
    ∃ result q, p.onIncomingMessage (l.answer got.length chunk) = .ok (result, q) ∧
      (((∃ record ∈ l.looked got chunk, l.Empty record) ∨ (got ++ chunk).length = l.length) ∧
          result = some true ∧ q.activeRequest = none ∧
          q.effects = p.effects ++ (l.lines count (l.looked got chunk)).map Effect.output ∨
        (∀ record ∈ l.looked got chunk, ¬ l.Empty record) ∧ result = none ∧
          Listing.Asked l (got ++ chunk) (count + UInt32.ofNat (l.looked got chunk).length) q ∧
          ∃ message, q.effects =
            p.effects ++ (l.lines count (l.looked got chunk)).map Effect.output ++ [.send message]) := by
  obtain ⟨active, response, missing, length, destination, type, offset, raw, counter, position⟩ := asked
  have short : l.length ≤ 200 := by cases l <;> decide
  have place : (l.answer got.length chunk).offset.toNat = got.length := by
    show (UInt8.ofNat got.length).toNat = got.length
    rw [UInt8.toNat_ofNat']
    omega
  have same_type : (l.answer got.length chunk).getType = l.type := by cases l <;> rfl
  have answer : (l.answer got.length chunk).getType ≠ 0xff := by
    rw [same_type]
    cases l <;> decide
  have continues : p.Continues (l.answer got.length chunk) := by
    refine ⟨destination.symm, same_type.trans type.symm, ?_⟩
    rw [place, response, offset, Nat.add_zero]
  let r : ApiCommandParser := { p with requestResponse := got ++ chunk }
  have taken : p.take (l.answer got.length chunk) = r := by
    rw [take_some (show (l.answer got.length chunk).data ≠ [] from some_data), response]
    rfl
  let t := r.resumed l
  have handled {result : Option Bool} {q : ApiCommandParser}
      (looped : recordLoop l.kind l.mark t.requestResponse.length t = (result, q)) :
      p.onIncomingMessage (l.answer got.length chunk) =
        .ok (result, if result = some true then { q with activeRequest := none } else q) := by
    apply onIncomingMessage_answered active answer continues
    rw [taken, respond, if_neg (raw ▸ Bool.false_ne_true), handleResponse_listing (p := r) type]
    exact congrArg Except.ok looped
  have todo := resumed_records (l := l) (p := r) rfl position
  have enough : (l.looked got chunk).length ≤ t.requestResponse.length := by
    rw [← todo, length_records, List.length_drop]
    exact (Nat.div_le_self _ _).trans (Nat.sub_le _ _)
  rcases recordLoop_lines l _ (p := t) todo enough with ⟨full, looped⟩ | ⟨empty, q, looped, effects⟩
  · by_cases complete : (got ++ chunk).length = l.length
    · have finished := finishLoop_complete (p := t.listed l (l.looked got chunk))
        (Nat.le_of_eq (length.trans complete.symm))
      refine ⟨_, _, handled (looped.trans finished), .inl ⟨.inr complete, rfl, rfl, ?_⟩⟩
      rw [← counter]
      rfl
    · have more : (got ++ chunk).length < l.length := Nat.lt_of_le_of_ne within complete
      have continued := finishLoop_missing (p := t.listed l (l.looked got chunk))
        (more.trans_eq length.symm)
      refine ⟨_, _, handled (looped.trans continued), .inr ⟨full, rfl, ?_, ?_⟩⟩
      · refine ⟨rfl, rfl, more, length, destination, type, offset, raw, ?_, ?_⟩
        · rw [← counter]
          rfl
        · intro kept
          have old : l.looked got chunk = records l.kind.size
              ((got ++ chunk).drop (l.kind.size * (records l.kind.size got).length)) := if_neg kept
          have resumed : t.parsePosition = p.parsePosition := if_neg kept
          rw [records_append l.size_pos, List.length_append, Nat.mul_add, ← old, ← position kept, ← resumed]
          rfl
      · rw [← counter]
        exact ⟨_, rfl⟩
  · refine ⟨_, _, handled looped, .inl ⟨.inl empty, rfl, rfl, ?_⟩⟩
    rw [← counter]
    exact effects

theorem nextWord_suffix (s : IStream) : (nextWord s).2.rest <:+ s.rest :=
  IStream.extract_suffix _ _ _ s

/-- An idle parser starts the request of the command. -/
theorem parse_listing {s : Session} (typed : l.Typed s) (idle : s.parser.activeRequest = none)
    (env : Env) : ∃ t, parse env s = .ok .ok t ∧
      t.parser = s.parser.startRequest l.dest l.type 0 l.length := by
  obtain ⟨first, second, category, cmd⟩ := typed
  refine ⟨⟨s.parser.startRequest l.dest l.type 0 l.length, second⟩, ?_, rfl⟩
  rw [parse_word idle category]
  cases l with
  | rcActiveErrors | rcErrors =>
      show handleRcCommand env ⟨s.parser, first⟩ = _
      unfold handleRcCommand
      rw [readWord_bind, cmd]
      rfl
  | ubaActiveErrors | ubaErrors =>
      show handleUbaCommand env ⟨s.parser, first⟩ = _
      unfold handleUbaCommand
      rw [readWord_bind, cmd]
      rfl

end ApiCommandParser

namespace CommandConnection

open ApiCommandParser (nextWord_suffix)

variable {l : Listing} {conn : CommandConnection}

theorem filterMap_output_line (lines : List String) :
    (lines.map Effect.output).filterMap Effect.line? = lines := by
  rw [List.filterMap_map]
  exact List.filterMap_some

/-- A connection gets an answer. -/
theorem step_answered {message : EmsMessage} {result : Option Bool} {q : ApiCommandParser}
    (answered : conn.parser.onIncomingMessage message = .ok (result, q)) :
    ∃ conn' sent, conn.step (.incoming message) = some (conn', sent) ∧
      conn'.parser = { q with effects := [] } ∧
      conn'.replies = conn.replies ++ q.effects.filterMap Effect.line? ++ incomingReply result :=
  ⟨_, _, step_incoming answered, rfl, rfl⟩

/-- A finished request prints nothing of what still arrives. -/
theorem feed_idle (idle : conn.parser.activeRequest = none) (offset : Nat) (chunks : List (List UInt8)) :
    ∃ conn', l.feed conn offset chunks = some conn' ∧ conn'.replies = conn.replies := by
  induction chunks generalizing conn offset with
  | nil => exact ⟨conn, rfl, rfl⟩
  | cons chunk rest ih =>
      obtain ⟨conn₁, sent, stepped, parser, replies⟩ := step_answered
        (ApiCommandParser.onIncomingMessage_idle idle (l.answer offset chunk))
      have idle₁ : conn₁.parser.activeRequest = none := by
        rw [parser]
        exact idle
      obtain ⟨conn', fed, same⟩ := ih idle₁ (offset + chunk.length)
      refine ⟨conn', ?_, ?_⟩
      · rw [Listing.feed, stepped]
        exact fed
      · rw [same, replies, conn.quiet]
        simp [incomingReply]

/-- The parts of a response are printed, and then one `OK`. -/
theorem feed_printed {got : List UInt8} {count : UInt32} {chunks : List (List UInt8)}
    (asked : l.Asked got count conn.parser) (nonempty : ∀ chunk ∈ chunks, chunk ≠ [])
    (whole : (got ++ chunks.flatten).length = l.length) :
    ∃ conn', l.feed conn got.length chunks = some conn' ∧
      conn'.replies = conn.replies ++ l.printed got count chunks ++ ["OK"] := by
  induction chunks generalizing conn got count with
  | nil =>
      have missing := asked.missing
      rw [List.flatten_nil, List.append_nil] at whole
      omega
  | cons chunk rest ih =>
      rw [List.forall_mem_cons] at nonempty
      rw [List.flatten_cons, ← List.append_assoc, List.length_append] at whole
      have within : (got ++ chunk).length ≤ l.length := by omega
      obtain ⟨result, q, answered, outcome⟩ := ApiCommandParser.incoming_asked asked nonempty.1 within
      obtain ⟨conn₁, sent, stepped, parser, replies⟩ := step_answered answered
      have quiet := conn.quiet
      have continued : l.feed conn got.length (chunk :: rest) =
          l.feed conn₁ (got.length + chunk.length) rest := by
        rw [Listing.feed, stepped]
        rfl
      rw [continued]
      rcases outcome with ⟨ends, rfl, idle, effects⟩ | ⟨full, rfl, asked₁, message, effects⟩
      · have printed : l.printed got count (chunk :: rest) = l.lines count (l.looked got chunk) := by
          rcases l.empty_or_full (l.looked got chunk) with empty | full
          · exact Listing.printed_empty empty count rest
          · have complete : (got ++ chunk).length = l.length := by
              refine ends.resolve_left ?_
              rintro ⟨record, member, empty⟩
              exact full record member empty
            have last : rest = [] := by
              cases rest with
              | nil => rfl
              | cons other more =>
                  have := List.length_pos_iff.mpr (nonempty.2 other (List.mem_cons_self ..))
                  rw [complete, List.flatten_cons, List.length_append] at whole
                  omega
            rw [Listing.printed_full full, last, Listing.printed, List.append_nil]
        have idle₁ : conn₁.parser.activeRequest = none := by
          rw [parser]
          exact idle
        obtain ⟨conn', fed, same⟩ := feed_idle (l := l) idle₁ (got.length + chunk.length) rest
        refine ⟨conn', fed, ?_⟩
        rw [same, replies, effects, quiet, List.nil_append, filterMap_output_line, printed]
        rfl
      · have asked' : l.Asked (got ++ chunk) (count + UInt32.ofNat (l.looked got chunk).length)
            conn₁.parser := by
          rw [parser]
          exact { asked₁ with }
        obtain ⟨conn', fed, same⟩ := ih asked' nonempty.2 (by rw [List.length_append]; exact whole)
        rw [List.length_append] at fed
        refine ⟨conn', fed, ?_⟩
        rw [same, replies, effects, quiet, List.nil_append, List.filterMap_append, filterMap_output_line,
          Listing.printed_full full]
        simp [Effect.line?, incomingReply]

/-- The command is accepted, and prints nothing yet. -/
theorem handleRequest_listing {begun : CommandConnection} {sent : List EmsMessage} {env : Env}
    (typed : l.Typed { parser := conn.parser, request := .ofChars conn.request })
    (idle : conn.parser.activeRequest = none)
    (begins : conn.step (.request env) = some (begun, sent)) :
    l.Asked [] 0 begun.parser ∧ begun.replies = conn.replies := by
  obtain ⟨t, parsed, started⟩ := ApiCommandParser.parse_listing typed idle env
  have long : conn.request.length > 2 := by
    obtain ⟨first, _, category, cmd⟩ := typed
    have bound := RawRead.nextWord_length cmd
    have behind : first.rest.length ≤ conn.request.length := by
      have suffix := (nextWord_suffix (.ofChars conn.request)).length_le
      rw [category] at suffix
      exact suffix
    have word : 2 < l.words.2.length := by cases l <;> decide
    omega
  have accepted : conn.parseRequest env = .ok .ok t := by
    unfold parseRequest
    dsimp only
    rw [if_pos long]
    exact parsed
  obtain ⟨asked, message, effects⟩ := ApiCommandParser.startRequest_asked l conn.parser
  rw [← started] at asked effects
  rw [conn.quiet, List.nil_append] at effects
  simp only [step, handleRequest, accepted] at begins
  split at begins
  · cases begins
    refine ⟨{ asked with }, ?_⟩
    show (conn.replies ++ t.parser.effects.filterMap Effect.line?) ++ [] = conn.replies
    rw [effects]
    simp [Effect.line?]
  · cases begins

/-- A listing is asked for, and the response arrives in parts that are not empty. All at once, each
    record up to the first empty one is printed once. In parts the same is printed if no part but the
    last leaves a record that will be printed again, and else something different. -/
theorem listing_chunks_iff (l : Listing) {begun : CommandConnection} {sent : List EmsMessage} {env : Env}
    (typed : l.Typed { parser := conn.parser, request := .ofChars conn.request })
    (idle : conn.parser.activeRequest = none)
    (begins : conn.step (.request env) = some (begun, sent))
    {chunks : List (List UInt8)} (nonempty : ∀ chunk ∈ chunks, chunk ≠ [])
    (whole : chunks.flatten.length = l.length) :
    ∃ once parts, l.feed begun 0 [chunks.flatten] = some once ∧ l.feed begun 0 chunks = some parts ∧
      once.replies = conn.replies ++ l.lines 0 (l.held chunks.flatten) ++ ["OK"] ∧
      (parts.replies = once.replies ↔ l.Apart chunks) := by
  obtain ⟨asked, replies⟩ := handleRequest_listing typed idle begins
  have some_bytes : chunks.flatten ≠ [] := by
    intro nothing
    rw [nothing] at whole
    cases l <;> cases whole
  have some_chunks : chunks ≠ [] := by
    rintro rfl
    exact some_bytes rfl
  obtain ⟨once, fed_once, printed_once⟩ := @feed_printed l begun [] 0 [chunks.flatten] asked
    (by simpa using some_bytes) (by rw [List.flatten_singleton]; exact whole)
  obtain ⟨parts, fed_parts, printed_parts⟩ := @feed_printed l begun [] 0 chunks asked nonempty whole
  have apart_once : l.Apart [chunks.flatten] := by
    intro _ front back split more
    have nothing : front = [] := by
      cases front with
      | nil => rfl
      | cons first rest =>
          have none_left := (List.cons_eq_cons.mp split).2
          exact absurd (List.append_eq_nil_iff.mp none_left.symm).2 more
    left
    rw [nothing]
    exact l.held_nil
  have all := (Listing.printed_iff (l := l) (List.cons_ne_nil _ _)).mpr apart_once
  rw [List.flatten_singleton] at all
  rw [replies] at printed_once printed_parts
  rw [all] at printed_once
  refine ⟨once, parts, fed_once, fed_parts, printed_once, ?_⟩
  rw [printed_once, printed_parts, List.append_left_inj, List.append_right_inj]
  exact Listing.printed_iff some_chunks

/-- A client has asked for the active errors. -/
def listingStart : CommandConnection :=
  { CommandConnection.new default with request := "rc activeerrors\n".toList }

/-- The first part ends before the first record. -/
theorem listing_chunks_iff_nine :
    ∃ begun sent once parts, listingStart.step (.request ⟨none, fun s => (none, s), 0⟩) =
        some (begun, sent) ∧
      Listing.feed .rcActiveErrors begun 0 [List.replicate 20 0x41] = some once ∧
      Listing.feed .rcActiveErrors begun 0 [List.replicate 9 0x41, List.replicate 11 0x41] = some parts ∧
      (parts.replies = once.replies ↔
        Listing.Apart .rcActiveErrors [List.replicate 9 0x41, List.replicate 11 0x41]) := by
  let begun := (listingStart.step (.request ⟨none, fun s => (none, s), 0⟩)).get (by decide +kernel)
  have begins : listingStart.step (.request ⟨none, fun s => (none, s), 0⟩) = some begun :=
    (Option.some_get _).symm
  obtain ⟨once, parts, fed_once, fed_parts, -, same⟩ := @listing_chunks_iff listingStart
    .rcActiveErrors begun.1 begun.2 _ ⟨_, _, rfl, rfl⟩ rfl begins
    [List.replicate 9 0x41, List.replicate 11 0x41] (by decide) (by decide)
  exact ⟨begun.1, begun.2, once, parts, begins, fed_once, fed_parts, same⟩

/-- The first part holds one record of an error: it is printed twice. -/
theorem active_error_listed_twice :
    ∃ begun sent once parts, listingStart.step (.request ⟨none, fun s => (none, s), 0⟩) =
        some (begun, sent) ∧
      Listing.feed .rcActiveErrors begun 0 [List.replicate 20 0x41] = some once ∧
      Listing.feed .rcActiveErrors begun 0 [List.replicate 10 0x41, List.replicate 10 0x41] = some parts ∧
      once.replies = [" 01 AAA 16705 ", " 02 AAA 16705 ", "OK"] ∧
      parts.replies = [" 01 AAA 16705 ", " 02 AAA 16705 ", " 03 AAA 16705 ", "OK"] := by
  let begun := (listingStart.step (.request ⟨none, fun s => (none, s), 0⟩)).get (by decide +kernel)
  let once := (Listing.feed .rcActiveErrors begun.1 0 [List.replicate 20 0x41]).get (by decide +kernel)
  let parts := (Listing.feed .rcActiveErrors begun.1 0
    [List.replicate 10 0x41, List.replicate 10 0x41]).get (by decide +kernel)
  have begins : listingStart.step (.request ⟨none, fun s => (none, s), 0⟩) = some begun :=
    (Option.some_get _).symm
  exact ⟨begun.1, begun.2, once, parts, begins, (Option.some_get _).symm, (Option.some_get _).symm,
    by decide +kernel, by decide +kernel⟩

end CommandConnection

end EmsCollector
