import Fleet.Duration.Written
import Mathlib.Data.List.TakeWhile

/-! The texts that write lengths of time: which they are, that a search for segments recognises them,
and that each is read as the exact sum of its amounts. -/

namespace Fleet

namespace Text

/-- No digit of any script is blank. -/
theorem isBlank_of_isDigit {c : Char} (digit : isDigit c = true) : isBlank c = false := by
  -- A digit is one of the ten from some script's zero on, and none of all these is blank.
  have solid : ∀ first ∈ digitZeros, ∀ further < 10, isBlank (Char.ofNat (first + further)) = false := by
    decide +kernel
  rw [isDigit, digitValue?, Option.isSome_map, List.find?_isSome] at digit
  obtain ⟨first, known, within⟩ := digit
  rw [Bool.and_eq_true, decide_eq_true_eq, decide_eq_true_eq] at within
  have here := solid first known (c.toNat - first) (by omega)
  rwa [Nat.add_sub_cancel' within.1, Char.ofNat_toNat] at here

end Text

/-- Segments write a text when there are some, each of them is well formed, and the text is nothing but
one after the other. -/
structure Writes (segments : List Segment) (text : List Char) : Prop where
  some : segments ≠ []
  formed : ∀ segment ∈ segments, segment.WellFormed
  joined : segments.flatMap Segment.text = text

/-- A text is in the grammar of lengths of time when some segments write it. -/
def InGrammar (text : List Char) : Prop :=
  ∃ segments, Writes segments text

/-- The letter of a unit is no digit. -/
theorem TimeUnit.isDigit_letter (unit : TimeUnit) : Text.isDigit unit.letter = false := by
  cases unit <;> rfl

/-- Digits are held back until their letter comes. -/
theorem readSegments_digits {digits : List Char} (all : ∀ c ∈ digits, Text.isDigit c = true)
    (held rest : List Char) :
    readSegments held (digits ++ rest) = readSegments (digits.reverse ++ held) rest := by
  -- Digits come before the letter that ends them, last first.
  induction digits generalizing held with
  | nil => rfl
  | cons first others ih =>
    rw [List.cons_append, readSegments, if_pos (all first (by simp)),
      ih (fun c member => all c (by simp [member]))]
    simp

/-- Segments that are well formed are read back as they are written. -/
theorem readSegments_text {segments : List Segment} (formed : ∀ segment ∈ segments, segment.WellFormed) :
    readSegments [] (segments.flatMap Segment.text) = some segments := by
  -- The letter of a segment is no digit, so it ends the digits before it.
  induction segments with
  | nil => rfl
  | cons segment rest ih =>
    obtain ⟨some, all⟩ := formed segment (by simp)
    have held : (segment.digits.reverse ++ []).isEmpty = false := by simpa using some
    rw [List.flatMap_cons, Segment.text, List.append_assoc, readSegments_digits all,
      List.singleton_append, readSegments, segment.unit.isDigit_letter, held,
      TimeUnit.ofLetter?_letter, ih fun other member => formed other (by simp [member])]
    simp

/-- A text that is read as segments consists of them, after the digits that were held back. -/
theorem flatMap_of_readSegments {held text : List Char} {segments : List Segment}
    (digits : ∀ c ∈ held, Text.isDigit c = true) (read : readSegments held text = some segments) :
    (∀ segment ∈ segments, segment.WellFormed) ∧
      segments.flatMap Segment.text = held.reverse ++ text := by
  -- The induction is on the text that is left, and the digits held back are a part of the next segment.
  induction text generalizing held segments with
  | nil =>
    -- At the end no digits may be held back.
    rw [readSegments] at read
    split at read
    · next empty =>
      cases read
      simp [List.isEmpty_iff.mp empty]
    · cases read
  | cons c rest ih =>
    rw [readSegments] at read
    split at read
    · -- One more digit is held back.
      next digit =>
      obtain ⟨formed, joined⟩ := ih (List.forall_mem_cons.mpr ⟨digit, digits⟩) read
      exact ⟨formed, by simpa using joined⟩
    · split at read
      · cases read
      · -- A letter after digits makes them a segment, and nothing is held back any more.
        next nonempty =>
        obtain ⟨unit, letter, onward⟩ := Option.bind_eq_some_iff.mp read
        obtain ⟨others, further, same⟩ := Option.bind_eq_some_iff.mp onward
        cases same
        have none : ∀ c ∈ ([] : List Char), Text.isDigit c = true := nofun
        obtain ⟨formed, joined⟩ := ih none further
        refine ⟨List.forall_mem_cons.mpr ⟨⟨?_, by simpa using digits⟩, formed⟩, ?_⟩
        · simpa using nonempty
        · simp [joined, Segment.text, TimeUnit.letter_of_ofLetter? letter]

/-- A text is read as segments exactly when it consists of them and they are well formed. -/
theorem readSegments_eq_some_iff {text : List Char} {segments : List Segment} :
    readSegments [] text = some segments ↔
      (∀ segment ∈ segments, segment.WellFormed) ∧ segments.flatMap Segment.text = text := by
  -- What is read is what was written, and what is written is read back.
  constructor
  · exact flatMap_of_readSegments (by simp)
  · rintro ⟨formed, rfl⟩
    exact readSegments_text formed

namespace Writes

variable {segments others : List Segment} {text more : List Char}

/-- Only one list of segments writes a text. -/
theorem unique (writes : Writes segments text) (other : Writes others text) : segments = others := by
  have read := readSegments_eq_some_iff.mpr ⟨writes.formed, writes.joined⟩
  rw [readSegments_eq_some_iff.mpr ⟨other.formed, other.joined⟩] at read
  exact (Option.some.inj read).symm

/-- Two texts that segments write are together written by the segments of both. -/
theorem append (writes : Writes segments text) (other : Writes others more) :
    Writes (segments ++ others) (text ++ more) where
  some := by simp [writes.some]
  formed := List.forall_mem_append.mpr ⟨writes.formed, other.formed⟩
  joined := by rw [List.flatMap_append, writes.joined, other.joined]

/-- Nothing that segments write is blank. -/
theorem solid (writes : Writes segments text) : ∀ c ∈ text, Text.isBlank c = false := by
  intro c member
  rw [← writes.joined] at member
  obtain ⟨segment, among, member⟩ := List.mem_flatMap.mp member
  -- A character of it is a digit or the letter of a unit.
  rcases List.mem_append.mp member with digit | letter
  · exact Text.isBlank_of_isDigit ((writes.formed segment among).2 c digit)
  · rw [List.mem_singleton.mp letter]
    cases segment.unit <;> rfl

/-- Nothing is trimmed from a text that segments write. -/
theorem trim_eq {written : String} (writes : Writes segments written.toList) :
    Text.trim written = written := by
  rw [Text.trim, Text.trimChars_eq_self _ writes.solid, String.ofList_toList]

end Writes

section Search

/-- The segment that a text begins with, and what follows it: all the digits there are, and the letter
of a unit. -/
def leading? (text : List Char) : Option (Segment × List Char) :=
  match text.takeWhile Text.isDigit, text.dropWhile Text.isDigit with
  | first :: more, letter :: rest =>
    (TimeUnit.ofLetter? letter).map fun unit => (⟨first :: more, unit⟩, rest)
  | _, _ => none

/-- The segment at the front of a text is well formed and a part of it. -/
theorem leading?_eq_some {text rest : List Char} {segment : Segment}
    (found : leading? text = some (segment, rest)) :
    segment.WellFormed ∧ segment.text ++ rest = text := by
  unfold leading? at found
  -- There are digits first, and a letter that names a unit after them.
  split at found
  · next first more letter after digits onward =>
    obtain ⟨unit, named, same⟩ := Option.map_eq_some_iff.mp found
    cases same
    refine ⟨⟨by simp, fun c member => ?_⟩, ?_⟩
    · rw [← digits] at member
      exact List.mem_takeWhile_imp member
    · rw [Segment.text, TimeUnit.letter_of_ofLetter? named, List.append_assoc, List.singleton_append,
        ← digits, ← onward, List.takeWhile_append_dropWhile]
  · cases found

/-- A segment that is well formed is found at the front, whatever follows it. -/
theorem leading?_text {segment : Segment} (formed : segment.WellFormed) (rest : List Char) :
    leading? (segment.text ++ rest) = some (segment, rest) := by
  -- The digits go as far as the letter, which is none.
  have before : (segment.text ++ rest).takeWhile Text.isDigit = segment.digits := by
    rw [Segment.text, List.append_assoc, List.takeWhile_append_of_pos formed.2]
    simp [segment.unit.isDigit_letter]
  have after : (segment.text ++ rest).dropWhile Text.isDigit = segment.unit.letter :: rest := by
    rw [Segment.text, List.append_assoc, List.dropWhile_append_of_pos formed.2]
    simp [segment.unit.isDigit_letter]
  obtain ⟨digits, unit⟩ := segment
  cases digits with
  | nil => exact absurd rfl formed.1
  | cons first more => simp only [leading?, before, after, TimeUnit.ofLetter?_letter, Option.map_some]

/-- The segments that a search through a text finds, from left to right. What is no part of a segment is
passed over. -/
def search (text : List Char) : List Segment :=
  match _found : leading? text with
  | some (segment, rest) => segment :: search rest
  | none =>
    match text with
    | [] => []
    | _ :: rest => search rest
termination_by text.length
decreasing_by
  · rw [← (leading?_eq_some _found).2, List.length_append, Segment.text, List.length_append,
      List.length_singleton]
    omega
  · simp

/-- A segment at the front is found first, and the search goes on after it. -/
theorem search_of_leading? {text rest : List Char} {segment : Segment}
    (found : leading? text = some (segment, rest)) : search text = segment :: search rest := by
  rw [search]
  -- What is found at the front is what the search looks for there.
  split
  · next other onward front =>
    rw [found] at front
    cases front
    rfl
  · next none =>
    rw [found] at none
    cases none

/-- All that a search finds is well formed. -/
theorem formed_search (text : List Char) : ∀ segment ∈ search text, segment.WellFormed := by
  -- Each step of the search finds a segment at the front, or passes over a character.
  fun_induction search text with
  | case1 text segment rest found ih =>
    exact List.forall_mem_cons.mpr ⟨(leading?_eq_some found).1, ih⟩
  | case2 => simp
  | case3 c rest found ih => exact ih

/-- A search finds the segments that a text consists of. -/
theorem search_flatMap {segments : List Segment} (formed : ∀ segment ∈ segments, segment.WellFormed) :
    search (segments.flatMap Segment.text) = segments := by
  induction segments with
  -- The search stops where no segment is at the front, which is the end here.
  | nil => rw [List.flatMap_nil, search]; rfl
  | cons segment rest ih =>
    rw [List.flatMap_cons, search_of_leading? (leading?_text (formed segment (by simp)) _),
      ih fun other member => formed other (by simp [member])]

/-- A text is in the grammar exactly when it is not empty, and what a search finds in it is, joined
together, the whole text. -/
theorem inGrammar_iff_search {text : List Char} :
    InGrammar text ↔ text ≠ [] ∧ (search text).flatMap Segment.text = text := by
  constructor
  · rintro ⟨segments, some, formed, rfl⟩
    refine ⟨?_, by rw [search_flatMap formed]⟩
    -- The first segment has a letter at least.
    obtain ⟨first, rest, rfl⟩ := List.exists_cons_of_ne_nil some
    simp [Segment.text]
  · rintro ⟨nonempty, joined⟩
    refine ⟨search text, ?_, formed_search text, joined⟩
    intro nothing
    -- A search that finds nothing joins to nothing, but the text is not empty.
    rw [nothing] at joined
    exact nonempty joined.symm

end Search

section Sums

/-- The sum of the amounts of one unit. -/
def amountIn (unit : TimeUnit) : List Segment → Nat
  | [] => 0
  | segment :: rest => (if segment.unit = unit then segment.amount else 0) + amountIn unit rest

/-- Segments add up to the hours, the minutes and the seconds in them. -/
theorem totalSeconds_eq (segments : List Segment) :
    totalSeconds segments =
      3600 * amountIn .hours segments + 60 * amountIn .minutes segments +
        amountIn .seconds segments := by
  -- Each segment adds to the amount of its own unit.
  induction segments with
  | nil => rfl
  | cons segment rest ih =>
    rw [totalSeconds, ih, Segment.inSeconds]
    cases unit : segment.unit <;> simp [amountIn, unit, TimeUnit.inSeconds] <;> omega

/-- Segments one after the other add up to the sum of both. -/
theorem totalSeconds_append (segments others : List Segment) :
    totalSeconds (segments ++ others) = totalSeconds segments + totalSeconds others := by
  -- The sum goes over the first segments and then over the others.
  induction segments with
  | nil => simp [totalSeconds]
  | cons segment rest ih =>
    simp only [List.cons_append, totalSeconds, ih]
    omega

/-- The order of segments does not matter to their sum. -/
theorem totalSeconds_perm {segments others : List Segment} (perm : segments.Perm others) :
    totalSeconds segments = totalSeconds others := by
  induction perm with
  | nil => rfl
  | cons segment _ ih => rw [totalSeconds, totalSeconds, ih]
  -- Neighbours may be exchanged, as numbers may be added in any order.
  | swap first second rest =>
    simp only [totalSeconds]
    omega
  | trans _ _ first second => exact first.trans second

end Sums

/-- No segment has more digits than are taken for a number. -/
def Short (segments : List Segment) : Prop :=
  ∀ segment ∈ segments, segment.digits.length ≤ Text.maxNumberDigits

/-- No segment is too long exactly when none that is can be found. -/
theorem short_iff {segments : List Segment} :
    Short segments ↔
      segments.find? (fun segment => Text.maxNumberDigits < segment.digits.length) = none := by
  simp [Short]

namespace Duration

/-- The most whole seconds that a length of time can have. -/
def maxSeconds : Nat := maxDays * secondsPerDay + 86399

/-- Seconds are out of range exactly when they make more days than there can be. -/
theorem ofSeconds?_eq_none_iff {seconds : Nat} :
    ofSeconds? seconds = none ↔ maxDays < seconds / secondsPerDay := by
  rw [← Option.not_isSome_iff_eq_none, ofSeconds?_isSome, decide_eq_true_iff, Nat.not_le]

/-- Seconds make more days than there can be exactly when they are more than the most there can be. -/
theorem maxDays_lt_iff {seconds : Nat} :
    maxDays < seconds / secondsPerDay ↔ maxSeconds < seconds := by
  have largest : maxSeconds = 86399999999999 := by decide
  rw [largest, maxDays, secondsPerDay]
  omega

/-- Segments make a length of time exactly when their numbers are short enough and their sum is in
range. -/
theorem ofSegments_eq_ok_iff {segments : List Segment} {d : Duration} :
    ofSegments segments = .ok d ↔ Short segments ∧ ofSeconds? (totalSeconds segments) = some d := by
  rw [short_iff]
  -- First the digits are counted, and then the sum is looked at.
  dsimp only [ofSegments]
  cases segments.find? (fun segment => Text.maxNumberDigits < segment.digits.length) <;>
    cases ofSeconds? (totalSeconds segments) <;> simp

/-- Segments have too many days exactly when their numbers are short enough and their sum is out of
range. -/
theorem ofSegments_eq_outOfRange_iff {segments : List Segment} {days : Nat} :
    ofSegments segments = .error (.outOfRange days) ↔
      Short segments ∧ maxDays < totalSeconds segments / secondsPerDay ∧
        days = totalSeconds segments / secondsPerDay := by
  rw [short_iff, ← ofSeconds?_eq_none_iff]
  dsimp only [ofSegments]
  -- A number that is too long is told before the days are counted.
  cases segments.find? (fun segment => Text.maxNumberDigits < segment.digits.length) <;>
    cases ofSeconds? (totalSeconds segments) <;> simp [eq_comm]

/-- Segments with a number that is too long are refused for the first such number. -/
theorem ofSegments_of_not_short {segments : List Segment} (long : ¬ Short segments) :
    ∃ segment ∈ segments, Text.maxNumberDigits < segment.digits.length ∧
      ofSegments segments = .error (.tooManyDigits segment.digits.length) := by
  -- The first number that is too long is the one that is told.
  rw [short_iff, ← ne_eq, Option.ne_none_iff_exists'] at long
  obtain ⟨segment, found⟩ := long
  refine ⟨segment, List.mem_of_find?_eq_some found, by simpa using List.find?_some found, ?_⟩
  simp only [ofSegments, found]

variable {written other : String} {segments others : List Segment} {d : Duration}

/-- What segments write is read as what they make. -/
theorem parse_of_writes (writes : Writes segments (Text.trim written).toList) :
    parse written = ofSegments segments := by
  have read := readSegments_eq_some_iff.mpr ⟨writes.formed, writes.joined⟩
  -- There is a segment, so the text is not refused for being empty.
  cases segments with
  | nil => exact absurd rfl writes.some
  | cons first others => simp only [parse, read]

/-- What no segments write is malformed. -/
theorem parse_of_not_inGrammar (outside : ¬ InGrammar (Text.trim written).toList) :
    parse written = .error (.malformed (Text.trim written)) := by
  dsimp only [parse]
  split
  · rfl
  · rfl
  · -- What could be read as segments would be written by them.
    next segments some read =>
    obtain ⟨formed, joined⟩ := readSegments_eq_some_iff.mp read
    exact absurd ⟨segments, some, formed, joined⟩ outside

/-- A text is read as a length of time exactly when short segments write it that add up to it. -/
theorem parse_eq_ok_iff :
    parse written = .ok d ↔ ∃ segments, Writes segments (Text.trim written).toList ∧
      Short segments ∧ ofSeconds? (totalSeconds segments) = some d := by
  constructor
  · intro read
    -- A text outside the grammar is refused, so this one is inside.
    by_cases inside : InGrammar (Text.trim written).toList
    · obtain ⟨segments, writes⟩ := inside
      rw [parse_of_writes writes, ofSegments_eq_ok_iff] at read
      exact ⟨segments, writes, read⟩
    · rw [parse_of_not_inGrammar inside] at read
      cases read
  · rintro ⟨segments, writes, both⟩
    rw [parse_of_writes writes, ofSegments_eq_ok_iff]
    exact both

/-- A length of time is whole when it is not negative and has no fraction of a second. -/
def IsWhole (d : Duration) : Prop :=
  0 ≤ d.micros ∧ (microsPerSecond : Int) ∣ d.micros

/-- The whole lengths of time are those of some seconds. -/
theorem isWhole_iff : d.IsWhole ↔ ∃ seconds, ofSeconds? seconds = some d := by
  constructor
  · rintro ⟨positive, seconds, same⟩
    -- A length of time that is not negative is that many seconds.
    have count : 0 ≤ seconds := by
      rw [same, microsPerSecond] at positive
      omega
    refine ⟨seconds.toNat, ?_⟩
    rw [ofSeconds?, Int.natCast_mul, Int.toNat_of_nonneg count, Int.mul_comm, ← same, ofMicros?_micros]
  · rintro ⟨seconds, given⟩
    rw [IsWhole, micros_of_ofMicros? given, Int.natCast_mul]
    exact ⟨Int.mul_nonneg (Int.natCast_nonneg _) (Int.natCast_nonneg _), Int.dvd_mul_left _ _⟩

/-- What is read as a length of time is whole. -/
theorem isWhole_of_parse (read : parse written = .ok d) : d.IsWhole := by
  obtain ⟨segments, _, _, given⟩ := parse_eq_ok_iff.mp read
  exact isWhole_iff.mpr ⟨totalSeconds segments, given⟩

/-- What the same segments write in another order is read as the same length of time, if as any. -/
theorem toOption_parse_perm (writes : Writes segments (Text.trim written).toList)
    (rewrites : Writes others (Text.trim other).toList) (perm : others.Perm segments) :
    (parse other).toOption = (parse written).toOption := by
  -- Neither the lengths of the numbers nor the sum depend on the order.
  have short : Short others ↔ Short segments := by simp only [Short, perm.mem_iff]
  have same (d : Duration) : parse other = .ok d ↔ parse written = .ok d := by
    rw [parse_of_writes writes, parse_of_writes rewrites, ofSegments_eq_ok_iff, ofSegments_eq_ok_iff,
      short, totalSeconds_perm perm]
  have answers (outcome : Except DurationError Duration) (d : Duration) :
      outcome.toOption = some d ↔ outcome = .ok d := by
    cases outcome <;> simp [Except.toOption]
  exact Option.ext fun d => by rw [answers, answers, same]

/-- Two texts without blanks around them that are read as lengths of time are together read as the sum of
both, if that is in range. -/
theorem parse_append {e sum : Duration} (trimmed : Text.trim written = written)
    (alsoTrimmed : Text.trim other = other) (read : parse written = .ok d)
    (alsoRead : parse other = .ok e) (adds : sum.micros = d.micros + e.micros) :
    parse (written ++ other) = .ok sum := by
  -- Each of the two is written by segments, and together they write both.
  obtain ⟨segments, writes, short, given⟩ := parse_eq_ok_iff.mp read
  obtain ⟨others, alsoWrites, alsoShort, alsoGiven⟩ := parse_eq_ok_iff.mp alsoRead
  rw [trimmed] at writes
  rw [alsoTrimmed] at alsoWrites
  -- Neither text has a blank anywhere, so nothing is trimmed from both together.
  have both := writes.append alsoWrites
  rw [← String.toList_append] at both
  refine parse_eq_ok_iff.mpr ⟨segments ++ others, both.trim_eq.symm ▸ both,
    List.forall_mem_append.mpr ⟨short, alsoShort⟩, ?_⟩
  rw [micros_of_ofMicros? given, micros_of_ofMicros? alsoGiven] at adds
  rw [ofSeconds?, totalSeconds_append, Nat.add_mul, Int.natCast_add, ← adds, ofMicros?_micros]

/-- How a text is read as a length of time: what stands between the blanks around it decides. -/
structure ReadsExactly (written : String) : Prop where
  /-- What is not in the grammar is malformed. -/
  malformed : ¬ InGrammar (Text.trim written).toList →
    parse written = .error (.malformed (Text.trim written))
  /-- To be in the grammar is not to be empty and to be the whole of what a search finds. -/
  recognised : InGrammar (Text.trim written).toList ↔ (Text.trim written).toList ≠ [] ∧
    (search (Text.trim written).toList).flatMap Segment.text = (Text.trim written).toList
  /-- Only one list of segments writes it. -/
  unambiguous : ∀ segments others, Writes segments (Text.trim written).toList →
    Writes others (Text.trim written).toList → segments = others
  /-- A number with too many digits is none, whatever the others are. -/
  tooLong : ∀ segments, Writes segments (Text.trim written).toList → ¬ Short segments →
    ∃ count, parse written = .error (.tooManyDigits count)
  /-- Otherwise the hours, the minutes and the seconds are summed exactly, -/
  summed : ∀ segments, Writes segments (Text.trim written).toList → Short segments →
    ∀ seconds, seconds = 3600 * amountIn .hours segments + 60 * amountIn .minutes segments +
      amountIn .seconds segments → seconds ≤ maxSeconds →
    ∃ d, parse written = .ok d ∧ d.micros = ((seconds * microsPerSecond : Nat) : Int)
  /-- and only a sum that is out of range is refused. -/
  outOfRange : ∀ segments, Writes segments (Text.trim written).toList → Short segments →
    ∀ seconds, seconds = 3600 * amountIn .hours segments + 60 * amountIn .minutes segments +
      amountIn .seconds segments → maxSeconds < seconds →
    parse written = .error (.outOfRange (seconds / secondsPerDay))
  whole : ∀ d, parse written = .ok d → d.IsWhole
  anyOrder : ∀ other segments others, Writes segments (Text.trim written).toList →
    Writes others (Text.trim other).toList → others.Perm segments →
    (parse other).toOption = (parse written).toOption
  additive : ∀ other d e sum, Text.trim written = written → Text.trim other = other →
    parse written = .ok d → parse other = .ok e → sum.micros = d.micros + e.micros →
    parse (written ++ other) = .ok sum

/-- Every text is read exactly. -/
theorem parse_exact (written : String) : ReadsExactly written where
  malformed := parse_of_not_inGrammar
  recognised := inGrammar_iff_search
  unambiguous _ _ := Writes.unique
  tooLong segments writes long := by
    obtain ⟨segment, _, _, refused⟩ := ofSegments_of_not_short long
    exact ⟨segment.digits.length, by rw [parse_of_writes writes, refused]⟩
  summed segments writes short seconds same few := by
    -- Seconds that are not too many are those of a length of time.
    obtain ⟨d, given⟩ : ∃ d, ofSeconds? seconds = some d := by
      rw [← Option.ne_none_iff_exists', ne_eq, ofSeconds?_eq_none_iff, maxDays_lt_iff]
      omega
    refine ⟨d, ?_, micros_of_ofMicros? given⟩
    rw [parse_of_writes writes, ofSegments_eq_ok_iff, totalSeconds_eq, ← same]
    exact ⟨short, given⟩
  outOfRange segments writes short seconds same many := by
    rw [parse_of_writes writes, ofSegments_eq_outOfRange_iff, totalSeconds_eq, ← same, maxDays_lt_iff]
    exact ⟨short, many, rfl⟩
  whole _ := isWhole_of_parse
  anyOrder _ _ _ := toOption_parse_perm
  additive _ _ _ _ := parse_append

/-- Blanks around a text do not count, digits may be those of any script, units may come in any order
and again, and a text may be put together from others. -/
theorem parse_exact_mixed :
    parse "\u2028\u0661h30m5s15m\n" = .ok ⟨6305000000, by decide, by decide⟩ ∧
      parse "30m5s" = .ok ⟨1805000000, by decide, by decide⟩ ∧
      parse "2h1s" = .ok ⟨7201000000, by decide, by decide⟩ ∧
      parse ("30m5s" ++ "2h1s") = .ok ⟨9006000000, by decide, by decide⟩ := by
  -- Each of the two texts is read by itself first.
  have minutes : parse "30m5s" = .ok ⟨1805000000, by decide, by decide⟩ := by decide +kernel
  have hours : parse "2h1s" = .ok ⟨7201000000, by decide, by decide⟩ := by decide +kernel
  refine ⟨?_, minutes, hours, (parse_exact "30m5s").additive "2h1s" _ _ _ (by decide +kernel)
    (by decide +kernel) minutes hours rfl⟩
  -- The segments are those that stand there, and their sum is small.
  have writes : Writes [⟨['\u0661'], .hours⟩, ⟨['3', '0'], .minutes⟩, ⟨['5'], .seconds⟩,
      ⟨['1', '5'], .minutes⟩] (Text.trim "\u2028\u0661h30m5s15m\n").toList := by
    refine ⟨by decide, fun segment member => ?_, by decide +kernel⟩
    simp only [List.mem_cons, List.not_mem_nil, or_false] at member
    rcases member with rfl | rfl | rfl | rfl <;>
      exact ⟨by decide, List.all_eq_true.mp (by decide +kernel)⟩
  obtain ⟨d, read, sum⟩ := (parse_exact _).summed _ writes (by unfold Short; decide +kernel) 6305
    (by decide +kernel) (by decide)
  rw [read]
  exact congrArg Except.ok (Duration.ext sum)

end Duration

end Fleet
