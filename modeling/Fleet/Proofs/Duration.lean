import Fleet.Proofs.Duration.Grammar

/-! Lengths of time are read back from how they are written, whatever text they were first read from. -/

namespace Fleet

namespace Text

/-- The digits of a number are digits zero to nine. -/
theorem mem_toDigits {n : Nat} {c : Char} (member : c ∈ Nat.toDigits 10 n) :
    ∃ digit < 10, c = digit.digitChar := by
  -- Taking off the last digit makes the number smaller.
  induction n using Nat.strongRecOn with
  | ind n ih =>
    rw [Nat.toDigits_eq_if (by decide)] at member
    split at member
    · -- A number below ten is its only digit.
      next small => exact ⟨n, small, List.mem_singleton.mp member⟩
    · -- Otherwise its last digit is the remainder, and a smaller number has the others.
      rcases List.mem_append.mp member with earlier | last
      · exact ih (n / 10) (by omega) earlier
      · exact ⟨n % 10, Nat.mod_lt _ (by decide), List.mem_singleton.mp last⟩

/-- A digit stands for its number. -/
theorem digitValue?_digitChar {digit : Nat} (small : digit < 10) :
    digitValue? digit.digitChar = some digit := by
  match digit, small with
  | 0, _ | 1, _ | 2, _ | 3, _ | 4, _ | 5, _ | 6, _ | 7, _ | 8, _ | 9, _ => rfl

/-- The digits of a number write the number. -/
@[simp]
theorem digitsValue_toDigits (n : Nat) : digitsValue (Nat.toDigits 10 n) = n := by
  -- A number is its last digit and ten times what the other digits write, and that is smaller.
  induction n using Nat.strongRecOn with
  | ind n ih =>
    rw [Nat.toDigits_eq_if (by decide)]
    split
    · next small => simp [digitsValue, digitValue?_digitChar small]
    · rw [digitsValue_append, ih (n / 10) (by omega),
        digitValue?_digitChar (Nat.mod_lt _ (by decide)), Option.getD_some]
      omega

end Text

namespace Duration

/-- The segments that whole seconds are written with. -/
def canonical (seconds : Nat) : List Segment :=
  [⟨Nat.toDigits 10 (seconds / 3600), .hours⟩, ⟨Nat.toDigits 10 (seconds % 3600 / 60), .minutes⟩,
    ⟨Nat.toDigits 10 (seconds % 60), .seconds⟩]

/-- The segments add up to the seconds. -/
theorem totalSeconds_canonical (seconds : Nat) : totalSeconds (canonical seconds) = seconds := by
  simp only [canonical, totalSeconds, Segment.inSeconds, Segment.amount, Text.digitsValue_toDigits,
    TimeUnit.inSeconds]
  omega

/-- A length of whole seconds counts as these. -/
theorem wholeSeconds_of_ofSeconds? {seconds : Nat} {d : Duration}
    (given : ofSeconds? seconds = some d) : d.wholeSeconds = seconds := by
  -- Counting microseconds loses nothing of whole seconds.
  have micros := micros_of_ofMicros? given
  -- A length that is read has no sign, so it is rounded as a natural number.
  have positive : ¬ d.micros < 0 := by omega
  rw [wholeSeconds, if_neg positive, micros, Int.natAbs_natCast,
    Number.nearestWholePart_mul _ (by decide)]

/-- A length of whole seconds is written as its hours, the minutes of the last hour and the seconds of the
last minute. -/
theorem text_of_ofSeconds? {seconds : Nat} {d : Duration} (given : ofSeconds? seconds = some d) :
    d.text = s!"{seconds / 3600}h{seconds % 3600 / 60}m{seconds % 60}s" := by
  -- Whole numbers that are not negative are written as natural ones.
  have hours : (seconds : Int) / 3600 = ((seconds / 3600 : Nat) : Int) := by omega
  have minutes : (seconds : Int) % 3600 / 60 = ((seconds % 3600 / 60 : Nat) : Int) := by omega
  have rest : (seconds : Int) % 60 = ((seconds % 60 : Nat) : Int) := by omega
  simp only [text, wholeSeconds_of_ofSeconds? given, hours, minutes, rest]
  rfl

/-- A length of whole seconds is written with its segments. -/
theorem text_toList {seconds : Nat} {d : Duration} (given : ofSeconds? seconds = some d) :
    d.text.toList = (canonical seconds).flatMap Segment.text := by
  -- Each of the three numbers is written in digits to base ten.
  have number (n : Nat) : (toString n).toList = Nat.toDigits 10 n := Nat.toList_repr
  simp only [text_of_ofSeconds? given, String.toList_append, number]
  simp only [canonical, List.flatMap_cons, List.flatMap_nil, Segment.text, List.append_nil,
    List.append_assoc]
  rfl

/-- The segments that whole seconds are written with are well formed. -/
theorem wellFormed_canonical {seconds : Nat} : ∀ segment ∈ canonical seconds, segment.WellFormed := by
  -- Every digit of a written number is a digit that the reader takes.
  have digits (n : Nat) : ∀ c ∈ Nat.toDigits 10 n, Text.isDigit c = true := by
    intro c member
    obtain ⟨digit, small, rfl⟩ := Text.mem_toDigits member
    rw [Text.isDigit, Text.digitValue?_digitChar small]
    rfl
  simp only [canonical, List.forall_mem_cons, Segment.WellFormed]
  exact ⟨⟨Nat.toDigits_ne_nil, digits _⟩, ⟨Nat.toDigits_ne_nil, digits _⟩,
    ⟨Nat.toDigits_ne_nil, digits _⟩, by simp⟩

/-- No segment of a length of whole seconds has too many digits for a number. -/
theorem short_canonical {seconds : Nat} {d : Duration} (given : ofSeconds? seconds = some d) :
    Short (canonical seconds) := by
  -- All the seconds of a length of time have fewer digits than that already.
  have bound : seconds < 10 ^ 20 := by
    have upper := d.upper
    rw [micros_of_ofMicros? given] at upper
    simp only [maxDays, microsPerDay, secondsPerDay, microsPerSecond] at upper
    omega
  -- Each number in the segments is at most that of all the seconds.
  have few {n : Nat} (less : n ≤ seconds) : (Nat.toDigits 10 n).length ≤ Text.maxNumberDigits := by
    have short := (Nat.length_toDigits_le_iff (b := 10) (n := n) (k := 20) (by decide) (by decide)).mpr
      (by omega)
    rw [Text.maxNumberDigits]
    omega
  simp [Short, canonical, few (Nat.div_le_self seconds 3600), few (Nat.mod_le seconds 60),
    few (show seconds % 3600 / 60 ≤ seconds by omega)]

/-- A whole length of time is read back from how it is written. -/
theorem parse_text_of_isWhole {d : Duration} (whole : d.IsWhole) : parse d.text = .ok d := by
  obtain ⟨seconds, given⟩ := isWhole_iff.mp whole
  -- What is written is written by its own segments, and they add up to the seconds.
  have writes : Writes (canonical seconds) d.text.toList :=
    ⟨by simp [canonical], wellFormed_canonical, (text_toList given).symm⟩
  exact parse_eq_ok_iff.mpr ⟨canonical seconds, writes.trim_eq.symm ▸ writes, short_canonical given,
    by rw [totalSeconds_canonical, given]⟩

/-- A length of time that was read from a text is read back from how it is written. -/
theorem parse_text {written : String} {d : Duration} (read : parse written = .ok d) :
    parse d.text = .ok d :=
  parse_text_of_isWhole (isWhole_of_parse read)

/-- Every whole length of time is written with fewer than sixty minutes and sixty seconds beside its hours
and read back from that, so no two of them are written alike. Whatever is read from a text stays
the same when it is written anew. -/
theorem text_inverts :
    (∀ d : Duration, d.IsWhole → (∃ hours minutes seconds : Nat,
        d.text = s!"{hours}h{minutes}m{seconds}s" ∧ minutes < 60 ∧ seconds < 60 ∧
        d.micros = ((3600 * hours + 60 * minutes + seconds) * microsPerSecond : Nat)) ∧
      parse d.text = .ok d) ∧
    (∀ d e : Duration, d.IsWhole → e.IsWhole → d.text = e.text → d = e) ∧
    ∀ written d, parse written = .ok d → parse d.text = parse written := by
  refine ⟨fun d whole => ⟨?_, parse_text_of_isWhole whole⟩, fun d e whole other same => ?_,
    fun written d read => by rw [parse_text read, read]⟩
  · -- A whole length is some number of seconds, which is parted into hours, minutes and seconds.
    obtain ⟨seconds, given⟩ := isWhole_iff.mp whole
    have sum : 3600 * (seconds / 3600) + 60 * (seconds % 3600 / 60) + seconds % 60 = seconds := by omega
    exact ⟨seconds / 3600, seconds % 3600 / 60, seconds % 60, text_of_ofSeconds? given, by omega,
      by omega, by rw [micros_of_ofMicros? given, sum]⟩
  · -- What is written alike is read alike.
    have read := parse_text_of_isWhole whole
    rw [same, parse_text_of_isWhole other] at read
    exact (Except.ok.inj read).symm

/-- The longest whole length of time there is. -/
def longest : Duration := ⟨86399999999999000000, by decide, by decide⟩

/-- The longest whole length of time is read back, and what other numbers wrote is the same when it is
written anew. -/
theorem text_inverts_longest :
    longest.IsWhole ∧ longest.text = "23999999999h59m59s" ∧ parse longest.text = .ok longest ∧
      parse "90m61s" = .ok ⟨5461000000, by decide, by decide⟩ ∧
      parse (⟨5461000000, by decide, by decide⟩ : Duration).text = parse "90m61s" := by
  have whole : longest.IsWhole := isWhole_iff.mpr ⟨86399999999999, by decide⟩
  have read : parse "90m61s" = .ok ⟨5461000000, by decide, by decide⟩ := by decide +kernel
  exact ⟨whole, by decide +kernel, (text_inverts.1 longest whole).2, read, text_inverts.2.2 _ _ read⟩

end Duration

end Fleet
