import Fleet.Proofs.Console

/-! The table of virtual machines: it has one row for each of them unless the end of a lifetime lies
outside the calendar, and the console shows it unless the markup of a cell is flawed. -/

namespace Fleet

namespace Legible

/-- A count of things is told legibly. -/
theorem counted {one many : String} (count : Nat) (single : Legible one.toList)
    (several : Legible many.toList) : Legible (Duration.counted count one many).toList := by
  have gap : Legible " ".toList := by decide
  rw [Duration.counted]
  -- One thing has words of its own, and any other count is put before the words for several.
  split
  · exact single
  · simp only [String.toList_append]
    exact ((number count).append gap).append several

/-- Grouping digits adds nothing but commas. -/
theorem group_subset (digits : List Char) : Duration.grouped.group digits ⊆ ',' :: digits := by
  fun_induction Duration.grouped.group digits with
  | case1 a b c d rest ih =>
    -- Three digits stay in front, and a comma parts them from the others.
    intro letter member
    simp only [List.mem_cons] at member ⊢
    have others := @ih letter
    simp only [List.mem_cons] at others
    tauto
  | case2 short => exact List.subset_cons_self _ _

/-- A number with commas is legible. -/
theorem grouped (n : Nat) : Legible (Duration.grouped n).toList := by
  -- The digits are turned around twice, and that changes nothing about what they are.
  have comma : isLegible ',' = true := by decide
  have digits := number n
  rw [Duration.grouped, String.toList_ofList]
  intro letter member
  rcases List.mem_cons.mp (group_subset _ (List.mem_reverse.mp member)) with rfl | digit
  · exact comma
  · exact digits letter (List.mem_reverse.mp digit)

/-- Less than a day is told legibly. -/
theorem spokenClock (seconds : Nat) : Legible (Duration.spokenClock seconds).toList := by
  -- Seconds, minutes and hours are counted, and one of each has words of its own.
  unfold Duration.spokenClock
  split
  · decide
  split
  · exact counted _ (by decide) (by decide)
  split
  · split
    · decide
    · exact counted _ (by decide) (by decide)
  · split
    · decide
    · exact counted _ (by decide) (by decide)

/-- Days are told legibly. -/
theorem spokenDays (days : Nat) : Legible (Duration.spokenDays days).toList := by
  unfold Duration.spokenDays
  -- No day, one day and several days are told in different words.
  split
  · exact counted _ (by decide) (by decide)
  · decide
  · exact counted _ (by decide) (by decide)

/-- A year and some days are told legibly. -/
theorem spokenYearAnd (days : Nat) : Legible (Duration.spokenYearAnd days).toList := by
  have year : Legible "1 year, ".toList := by decide
  -- What is left of the second year are months, or days if there is no whole month.
  unfold Duration.spokenYearAnd
  split
  · decide
  split
  · rw [String.toList_append]
    exact year.append (counted _ (by decide) (by decide))
  · decide
  · rw [String.toList_append]
    exact year.append (counted _ (by decide) (by decide))

/-- A length of time is told legibly. -/
theorem spoken (seconds : Nat) : Legible (Duration.spoken seconds).toList := by
  have years : Legible " years".toList := by decide
  unfold Duration.spoken
  dsimp only
  -- The number of years decides in what form the rest is told.
  split
  · -- Within the first year there are days, or there is less than one.
    split
    · exact spokenClock _
    · exact spokenDays _
  · exact spokenYearAnd _
  · -- From the second year on only whole years are told.
    rw [String.toList_append]
    exact (grouped _).append years

/-- The words for flaws are legible. -/
theorem flawTexts (flaws : List VmFlaw) : Legible (", ".intercalate (flaws.map VmFlaw.text)).toList := by
  have comma : Legible ", ".toList := by decide
  have word (flaw : VmFlaw) : Legible flaw.text.toList := by cases flaw <;> decide
  -- Only between two words there is a comma.
  induction flaws with
  | nil => decide
  | cons first rest ih =>
    cases rest with
    | nil => simpa using word first
    | cons next others =>
      rw [List.map_cons, List.map_cons, String.intercalate_cons_cons, String.toList_append,
        String.toList_append, ← List.map_cons]
      exact ((word first).append comma).append ih

end Legible

/-- A region is part of the name of its zone. -/
theorem Zone.region_subset {zone region : String} (found : Zone.region? zone = some region) :
    region.toList ⊆ zone.toList := by
  -- Backwards, a region is what is left of the name after a letter and perhaps a hyphen.
  have backwards {name left : List Char} (found : Zone.regionBackwards name = some left) :
      left ⊆ name := by
    unfold Zone.regionBackwards at found
    split at found
    · next letter rest =>
      dsimp only at found
      -- A region begins behind the letter, and there is a letter at least.
      split at found
      · split at found
        · cases found
          split
          · -- The hyphen is left out together with the letter.
            exact fun _ member => List.mem_cons_of_mem _ (List.mem_cons_of_mem _ member)
          · -- Only the letter is left out.
            exact List.subset_cons_self _ _
        · cases found
      · cases found
    · cases found
  rw [Zone.region?, Option.map_eq_some_iff] at found
  obtain ⟨left, found, rfl⟩ := found
  intro letter member
  rw [String.toList_ofList, List.mem_reverse] at member
  have among := List.mem_reverse.mp (backwards found member)
  -- The line break that is not looked at is none of the region.
  rw [Text.dropFinalBreak] at among
  split at among
  · exact List.dropLast_subset _ among
  · exact among

namespace Markup

/-- A text without a bracket that could open a tag. -/
def Tagless (text : List Char) : Prop := '[' ∉ text

instance (text : List Char) : Decidable (Tagless text) :=
  inferInstanceAs (Decidable ('[' ∉ text))

namespace Tagless

variable {text more : List Char}

/-- Two texts without tags make one. -/
theorem append (tagless : Tagless text) (further : Tagless more) : Tagless (text ++ more) :=
  fun member => (List.mem_append.mp member).elim tagless further

/-- A part of a text without tags has none. -/
theorem subset (tagless : Tagless text) (among : more ⊆ text) : Tagless more :=
  fun member => tagless (among member)

/-- A legible text has no tags. -/
theorem of_legible (legible : Legible text) : Tagless text :=
  fun member => ne_of_isLegible (legible '[' member) (by decide) rfl

end Tagless

/-- No tag begins in a text without tags. -/
theorem tagAt?_of_tagless {text : List Char} (tagless : Tagless text) : tagAt? text = none := by
  -- A tag would have its bracket after the backslashes before it.
  rw [tagAt?]
  dsimp only
  split
  · -- What is left after the backslashes is part of the text, so the bracket is in the text.
    next first rest found =>
    have member : '[' ∈ text.drop (text.takeWhile (· == '\\')).length := by simp [found]
    exact absurd (List.mem_of_mem_drop member) tagless
  · rfl

/-- A text without tags is one piece. -/
theorem piecesAfter_of_tagless {text : List Char} (tagless : Tagless text) (position : Nat)
    (begun : List Char) : piecesAfter position begun 0 text = textPiece (text.reverse ++ begun) := by
  -- Each character is held back, since no tag begins at it, and all of them are let go at the end.
  induction text generalizing position begun with
  | nil => rfl
  | cons c rest ih =>
    rw [piecesAfter, tagAt?_of_tagless tagless]
    simp only [ih (tagless.subset (List.subset_cons_self c rest)), List.reverse_cons, List.append_assoc,
      List.singleton_append]

/-- A text without tags is shown without styles. -/
theorem render_of_tagless {text : List Char} (tagless : Tagless text) :
    render text = .ok ⟨shownText text, []⟩ := by
  -- There is one piece at most, and it is written without a style.
  have written := foldlM_textPiece {} text.reverse
  rw [List.reverse_reverse] at written
  have parts := piecesAfter_of_tagless tagless 0 []
  rw [List.append_nil] at parts
  rw [render, pieces, parts, written]
  change Except.ok (Shown.toStyled ⟨shownText text, [], []⟩) = _
  simp [Shown.toStyled]

end Markup

/-- The markup of a line in a table can be shown, and nothing is wrong with its styles. -/
def Line.Sound (line : Line) : Prop :=
  ∃ styled, line.shown = .ok styled ∧ Markup.checkSpans styled = .ok ()

/-- A line without tags and without a colour of its own is sound. -/
theorem Line.sound_plain {text : String} (tagless : Markup.Tagless text.toList) :
    (Line.plain text).Sound :=
  ⟨_, Markup.render_of_tagless tagless, rfl⟩

/-- Outcomes that are all answers answer together. -/
theorem mapM_eq_ok_map {ε α β : Type} {outcome : α → Except ε β} {answer : α → β} {items : List α}
    (each : ∀ item ∈ items, outcome item = .ok (answer item)) :
    items.mapM outcome = .ok (items.map answer) :=
  mapM_eq_ok_iff.mpr (List.forall₂_map_right_iff.mpr (List.forall₂_same.mpr each))

namespace Table

/-- What a line in a table shows, which is nothing if its markup is flawed. -/
def styledOf (line : Line) : Markup.Styled := line.shown.toOption.getD {}

/-- Every row of the table has a cell for each column. -/
def Even (table : Table) : Prop := ∀ row ∈ table.rows, row.length = table.columns.length

/-- The cells of a row, column by column, are the row. -/
theorem map_getD_range {α β : Type} (change : α → β) (row : List α) (default : α) :
    ((List.range row.length).map fun place => change (row.getD place default)) = row.map change := by
  refine List.ext_getElem (by simp) fun place within _ => ?_
  simp only [List.length_map, List.length_range] at within
  simp [within]

/-- Cells that were read can be shown. -/
theorem shown_of_cells {table : Table} (even : table.Even) {cells : List (List Markup.Styled)}
    (read : table.cells = .ok cells) :
    ∀ row ∈ table.rows, ∀ cell ∈ row, cell.shown = .ok (styledOf cell) := by
  -- All columns were read, and each cell stands in one of them.
  intro row member cell within
  obtain ⟨place, bound, rfl⟩ := List.getElem_of_mem within
  -- All columns were read, or else there would be no cells.
  obtain ⟨columns, read⟩ : ∃ columns, (List.range table.columns.length).mapM (fun place =>
      table.rows.mapM fun row => (row.getD place (.plain "")).shown) = .ok columns := by
    rw [Table.cells] at read
    cases reached : (List.range table.columns.length).mapM fun place =>
        table.rows.mapM fun row => (row.getD place (.plain "")).shown with
    | ok columns => exact ⟨columns, rfl⟩
    | error flaw =>
      rw [reached] at read
      cases read
  -- The column of the place was read, and in it the cell of the row.
  obtain ⟨column, read⟩ := exists_mapM_eq_ok_iff.mp ⟨columns, read⟩ place
    (List.mem_range.mpr (even row member ▸ bound))
  obtain ⟨styled, shown⟩ := exists_mapM_eq_ok_iff.mp ⟨column, read⟩ row member
  -- A row has a cell in each place, so that none was made up for it.
  simp only [List.getD_eq_getElem?_getD, List.getElem?_eq_getElem bound, Option.getD_some] at shown
  rw [styledOf, shown]
  rfl

/-- Cells that can all be shown are read row by row. -/
theorem cells_of_shown {table : Table} (even : table.Even)
    (shown : ∀ row ∈ table.rows, ∀ cell ∈ row, cell.shown = .ok (styledOf cell)) :
    table.cells = .ok (table.rows.map fun row => row.map styledOf) := by
  -- Reading column by column meets the same cells.
  have columns : (List.range table.columns.length).mapM (fun place =>
      table.rows.mapM fun row => (row.getD place (.plain "")).shown) =
      .ok ((List.range table.columns.length).map fun place =>
        table.rows.map fun row => styledOf (row.getD place (.plain ""))) := by
    refine mapM_eq_ok_map fun place within => mapM_eq_ok_map fun row member => shown row member _ ?_
    rw [List.mem_range, ← even row member] at within
    simp [within]
  rw [Table.cells, columns]
  -- What was read in columns is put together in rows again.
  refine congrArg Except.ok (List.ext_getElem (by simp) fun place within _ => ?_)
  simp only [List.length_map, List.length_range] at within
  simp only [List.getElem_map, List.getElem_range, List.map_map,
    ← even table.rows[place] (List.getElem_mem within)]
  rw [← map_getD_range styledOf table.rows[place] (.plain "")]
  exact List.map_congr_left fun column _ => by simp [within]

/-- The texts of a table can be told exactly when each of its cells is sound, and then there is one
row of them for each of its rows, after the headings. -/
theorem texts_eq_ok_iff {table : Table} (even : table.Even) {texts : List (List String)} :
    table.texts = .ok texts ↔ (∀ row ∈ table.rows, ∀ cell ∈ row, cell.Sound) ∧
      texts = table.columns.map Column.heading ::
        table.rows.map fun row => row.map fun cell => String.ofList (styledOf cell).text := by
  rw [Table.texts]
  constructor
  · -- Where texts are told, the cells were read and their styles were checked.
    intro told
    cases read : table.cells with
    | error flaw =>
      rw [read] at told
      cases told
    | ok cells =>
      -- All cells were shown, so the checks were made of what they show.
      have shown := shown_of_cells even read
      obtain rfl := Except.ok.inj (read.symm.trans (cells_of_shown even shown))
      simp only [read, Bind.bind, Except.bind] at told
      -- A flaw of a style would have been told, and there are texts.
      split at told
      · cases told
      · next checked =>
        cases told
        refine ⟨fun row member cell within => ⟨_, shown row member cell within, ?_⟩, by simp⟩
        exact forM_eq_ok_iff.mp (forM_eq_ok_iff.mp checked _ (List.mem_map_of_mem member)) _
          (List.mem_map_of_mem within)
  · -- A sound cell can be shown, and what it shows passes the check.
    rintro ⟨sound, rfl⟩
    -- Each cell shows what is told of it, in styles that there are.
    have each : ∀ row ∈ table.rows, ∀ cell ∈ row,
        cell.shown = .ok (styledOf cell) ∧ Markup.checkSpans (styledOf cell) = .ok () := by
      intro row member cell within
      obtain ⟨styled, shown, checked⟩ := sound row member cell within
      have same : styledOf cell = styled := by rw [styledOf, shown]; rfl
      exact same ▸ ⟨shown, checked⟩
    -- Row by row and cell by cell nothing is found to be wrong.
    have checked : (table.rows.map fun row => row.map styledOf).forM
        (fun row => row.forM Markup.checkSpans) = .ok () := by
      refine forM_eq_ok_iff.mpr (List.forall_mem_map.mpr fun row member => ?_)
      exact forM_eq_ok_iff.mpr (List.forall_mem_map.mpr fun cell within => (each row member cell within).2)
    rw [cells_of_shown even fun row member cell within => (each row member cell within).1]
    simp only [Bind.bind, Except.bind, checked]
    simp
    rfl

/-- A table can be shown exactly when each of its cells is sound. -/
theorem exists_plainText_iff {table : Table} (even : table.Even) :
    (∃ shown, (Report.table table).plainText = .ok shown) ↔
      ∀ row ∈ table.rows, ∀ cell ∈ row, cell.Sound := by
  -- Once there are texts they can be laid out.
  rw [Report.plainText, Table.lines]
  cases told : table.texts with
  | ok texts => exact ⟨fun _ => ((texts_eq_ok_iff even).mp told).1, fun _ => ⟨_, rfl⟩⟩
  | error flaw =>
    constructor
    · -- Without texts nothing is shown.
      rintro ⟨_, shown⟩
      cases shown
    · -- Sound cells would have had texts.
      intro sound
      have all := (texts_eq_ok_iff even).mpr ⟨sound, rfl⟩
      rw [told] at all
      cases all

end Table

namespace Vm

/-- The microseconds on the clock where the virtual machine was created, at the end of its
lifetime. -/
def ending (vm : Vm) : Int := vm.createdAt.clock + (vm.lifetime.getD .zero).micros

/-- The calendar has the end of the lifetime. -/
def EndsInCalendar (vm : Vm) : Prop := 0 ≤ vm.ending ∧ vm.ending < calendarMicros

instance (vm : Vm) : Decidable vm.EndsInCalendar :=
  inferInstanceAs (Decidable (0 ≤ vm.ending ∧ vm.ending < calendarMicros))

/-- The microseconds from a moment to the end of the lifetime, both in universal time. -/
def remaining (vm : Vm) (now : Moment) : Int :=
  (vm.ending - vm.createdAt.offset.getD 0 * Moment.microsPerMinute) -
    (now.clock - now.offset.getD 0 * Moment.microsPerMinute)

/-- What a virtual machine is to tell of the rest of its lifetime at a moment. -/
def remainderAt (vm : Vm) (now : Moment) : Line :=
  if vm.neverExpires then ⟨some "dim", "N/A"⟩
  else if vm.remaining now ≤ 0 then ⟨some "red", "expired"⟩
  else .plain (Duration.spoken ((vm.remaining now).toNat / microsPerSecond))

/-- The cells that a virtual machine is to have at a moment. -/
def cells (vm : Vm) (now : Moment) : List Line :=
  [.plain vm.name, .plain vm.provider, .plain vm.shownLocality, .plain (orDash vm.privateIp),
    .plain (orDash vm.publicIp), vm.remainderAt now, .plain (", ".intercalate vm.flawTexts)]

/-- A virtual machine that never expires has its end where it was created. -/
theorem endsInCalendar_of_neverExpires {vm : Vm} (never : vm.neverExpires = true) :
    vm.EndsInCalendar := by
  -- Nothing is added to the moment of its creation, and the calendar has that one.
  have nothing : (vm.lifetime.getD .zero).micros = 0 := by
    rw [neverExpires, Option.all_eq_true] at never
    cases given : vm.lifetime with
    | none => rfl
    | some lifetime => simpa [Duration.isZero] using never lifetime given
  have inCalendar := vm.createdAt.inCalendar
  rw [EndsInCalendar, ending, nothing]
  omega

variable {vm : Vm} {now : Moment}

/-- The end of a lifetime within the calendar is a moment where the virtual machine was created. -/
theorem expiresAt_eq_ok (ends : vm.EndsInCalendar) :
    ∃ moment : Moment, vm.expiresAt = .ok moment ∧ moment.clock = vm.ending ∧
      moment.offset = vm.createdAt.offset := by
  have within : 0 ≤ (vm.createdAt.clock : Int) + (vm.lifetime.getD .zero).micros ∧
      (vm.createdAt.clock : Int) + (vm.lifetime.getD .zero).micros < calendarMicros := ends
  -- In the calendar means that the sum is one of its microseconds.
  rw [expiresAt, Moment.add, Moment.ofClock?, dif_pos within]
  exact ⟨_, rfl, Int.toNat_of_nonneg within.1, rfl⟩

/-- The end of a lifetime outside the calendar is none. -/
theorem expiresAt_eq_error (outside : ¬ vm.EndsInCalendar) : vm.expiresAt = .error .outOfCalendar := by
  have beyond : ¬ (0 ≤ (vm.createdAt.clock : Int) + (vm.lifetime.getD .zero).micros ∧
      (vm.createdAt.clock : Int) + (vm.lifetime.getD .zero).micros < calendarMicros) := outside
  rw [expiresAt, Moment.add, Moment.ofClock?, dif_neg beyond]

/-- A virtual machine whose end the calendar has gets its cells. -/
theorem row_eq_ok (aware : vm.createdAt.offset.isSome = true) (present : now.offset.isSome = true)
    (ends : vm.EndsInCalendar) : vm.row now = .ok (vm.cells now) := by
  -- Without a lifetime there is no end to be told, and no time that remains.
  by_cases never : vm.neverExpires = true
  · simp [row, cells, remainderAt, never, Bind.bind, Except.bind, Pure.pure, Except.pure]
  · -- Both moments know how far they are from universal time, so one can be taken from the other.
    obtain ⟨ahead, created⟩ := Option.isSome_iff_exists.mp aware
    obtain ⟨behind, current⟩ := Option.isSome_iff_exists.mp present
    obtain ⟨moment, expires, clock, offset⟩ := expiresAt_eq_ok ends
    have since : moment.since now = .ok (vm.remaining now) := by
      simp only [Moment.since, offset, created, current, remaining, clock, Option.getD_some]
    -- Whether the end has passed decides only on the words for what remains.
    by_cases late : vm.remaining now ≤ 0 <;>
      simp [row, cells, remainderAt, never, shownRemainder, expires, since, late, Bind.bind, Except.bind,
        Pure.pure, Except.pure]

/-- A virtual machine whose end lies outside the calendar gets no row. -/
theorem row_eq_error (outside : ¬ vm.EndsInCalendar) : vm.row now = .error .outOfCalendar := by
  -- What never expires has its end within the calendar.
  have mortal : ¬ vm.neverExpires = true := fun never => outside (endsInCalendar_of_neverExpires never)
  simp [row, mortal, shownRemainder, expiresAt_eq_error outside, Bind.bind, Except.bind]

/-- No text of the virtual machine that is put into a table has a bracket that could open a tag. -/
def Tagless (vm : Vm) : Prop :=
  ∀ text ∈ [vm.name, vm.provider, vm.zone, vm.privateIp, vm.publicIp], Markup.Tagless text.toList

/-- A text without tags has none when a dash stands for what is missing. -/
theorem tagless_orDash {text : String} (tagless : Markup.Tagless text.toList) :
    Markup.Tagless (orDash text).toList := by
  rw [orDash]
  -- A dash has no bracket, and any other text is told as it is.
  split
  · decide
  · exact tagless

/-- The locality of a zone without tags has none. -/
theorem tagless_shownLocality (zone : Markup.Tagless vm.zone.toList) :
    Markup.Tagless vm.shownLocality.toList := by
  have place {region : String} (part : Markup.Tagless region.toList) :
      Markup.Tagless (localityText region vm.zone).toList := by
    simp only [localityText, String.toList_append]
    exact ((Markup.Tagless.append (by decide) part).append (by decide)).append zone
  rw [shownLocality, Vm.locality]
  -- The local zone is told as its own region.
  by_cases own : vm.isLocal = true
  · simpa only [own, if_true] using place zone
  · simp only [own]
    cases found : Zone.region? vm.zone with
    | some region =>
      -- A region is part of the zone, so it has no tags, either.
      exact place (zone.subset (Zone.region_subset found))
    -- Without a region the zone is told alone.
    | none =>
      change Markup.Tagless ("zone=" ++ vm.zone).toList
      rw [String.toList_append]
      exact Markup.Tagless.append (by decide) zone

/-- The rest of a lifetime is told soundly. -/
theorem sound_remainderAt (vm : Vm) (now : Moment) : (vm.remainderAt now).Sound := by
  rw [remainderAt]
  -- Two of the three have a colour, which is closed where it is to be.
  split
  · exact ⟨⟨"N/A".toList, [⟨0, 3, "dim"⟩]⟩, by decide +kernel, by decide +kernel⟩
  · split
    · exact ⟨⟨"expired".toList, [⟨0, 7, "red"⟩]⟩, by decide +kernel, by decide +kernel⟩
    · exact Line.sound_plain (.of_legible (.spoken _))

/-- The cells of a virtual machine without tags are sound. -/
theorem sound_cells (tagless : vm.Tagless) (now : Moment) : ∀ cell ∈ vm.cells now, cell.Sound := by
  simp only [Tagless, List.forall_mem_cons, List.not_mem_nil, false_implies, implies_true, and_true]
    at tagless
  obtain ⟨name, provider, zone, inside, outside⟩ := tagless
  -- Cell by cell: only those that show a text of the virtual machine could have a tag.
  simp only [cells, List.forall_mem_cons, List.not_mem_nil, false_implies, implies_true, and_true]
  exact ⟨Line.sound_plain name, Line.sound_plain provider, Line.sound_plain (tagless_shownLocality zone),
    Line.sound_plain (tagless_orDash inside), Line.sound_plain (tagless_orDash outside),
    sound_remainderAt vm now, Line.sound_plain (.of_legible (.flawTexts _))⟩

end Vm

namespace Roster

/-- The line that there are no virtual machines. -/
def noneFound : Line := ⟨some "yellow", "No VMs found."⟩

/-- The table that the virtual machines are to have at a moment, with one row for each of them. -/
def tableAt (roster : Roster) (now : Moment) : Table :=
  ⟨s!"VMs ({roster.length})", columns, roster.map fun vm => vm.cells now⟩

/-- A row has a cell for each column. -/
theorem even_tableAt (roster : Roster) (now : Moment) : (roster.tableAt now).Even :=
  List.forall_mem_map.mpr fun _ _ => rfl

/-- The report of some virtual machines is a table of their rows. -/
theorem report_eq_of_ne_nil {roster : Roster} (some : roster ≠ []) (now : Moment) :
    roster.report false (.ok now) = (roster.mapM fun vm : Vm => vm.row now).map fun rows =>
      .table ⟨s!"VMs ({roster.length})", columns, rows⟩ := by
  cases roster with
  | nil => exact absurd rfl some
  | cons vm rest => rfl

/-- Without virtual machines, and only then, there is a line that says so. Otherwise there is a
table with one row for each of them, in their order, as long as the calendar has the end of every
lifetime, and none if it lacks one. The console shows the line, and a table exactly when all of its
cells are sound, with the headings and one row for each virtual machine. Nothing but a text with a
bracket can make a cell unsound. -/
theorem report_shows {roster : Roster} {now : Moment}
    (aware : ∀ vm ∈ roster, vm.createdAt.offset.isSome = true) (present : now.offset.isSome = true) :
    (roster.report false (.ok now) = .ok (.line noneFound) ↔ roster = []) ∧
      (∃ shown, (Report.line noneFound).plainText = .ok shown) ∧
      ((∃ vm ∈ roster, ¬ vm.EndsInCalendar) → roster.report false (.ok now) = .error .outOfCalendar) ∧
      (roster ≠ [] → (∀ vm ∈ roster, vm.EndsInCalendar) →
        roster.report false (.ok now) = .ok (.table (roster.tableAt now)) ∧
        ((∃ shown, (Report.table (roster.tableAt now)).plainText = .ok shown) ↔
          ∀ vm ∈ roster, ∀ cell ∈ vm.cells now, cell.Sound) ∧
        ∀ texts, (roster.tableAt now).texts = .ok texts → texts.length = 1 + roster.length) ∧
      ∀ vm ∈ roster, vm.Tagless → ∀ cell ∈ vm.cells now, cell.Sound := by
  refine ⟨⟨fun same => ?_, fun empty => by rw [empty]; rfl⟩, ⟨"No VMs found.\n", by decide +kernel⟩,
    fun ⟨vm, member, outside⟩ => ?_, fun some ends => ⟨?_, ?_, fun texts told => ?_⟩,
    fun vm _ tagless => vm.sound_cells tagless now⟩
  · -- Whatever the rows are, a table is no line.
    by_contra some
    rw [report_eq_of_ne_nil some] at same
    cases reached : roster.mapM fun vm => vm.row now <;> simp [reached, Except.map] at same
  · -- Only the calendar keeps a virtual machine from its row, so that is what is told.
    rw [report_eq_of_ne_nil (List.ne_nil_of_mem member)]
    cases reached : roster.mapM fun vm => vm.row now with
    | ok rows =>
      obtain ⟨row, made⟩ := exists_mapM_eq_ok_iff.mp ⟨rows, reached⟩ vm member
      cases made.symm.trans (Vm.row_eq_error outside)
    | error problem =>
      obtain ⟨before, first, later, rfl, _, failed⟩ := mapM_eq_error_iff.mp reached
      -- The first that has no row has no end in the calendar, and that is what is told.
      by_cases ends : first.EndsInCalendar
      · cases failed.symm.trans (Vm.row_eq_ok (aware first (by simp)) present ends)
      · cases failed.symm.trans (Vm.row_eq_error ends)
        rfl
  · -- Every virtual machine has its row, and the rows are those of the table.
    rw [report_eq_of_ne_nil some,
      mapM_eq_ok_map fun vm member => Vm.row_eq_ok (aware vm member) present (ends vm member)]
    rfl
  · -- The cells of the table are those of its virtual machines.
    rw [Table.exists_plainText_iff (even_tableAt roster now), tableAt, List.forall_mem_map]
  · -- There is one line of texts for the headings, and one for each row.
    obtain ⟨_, rfl⟩ := (Table.texts_eq_ok_iff (even_tableAt roster now)).mp told
    simp [tableAt, Nat.add_comm]

/-- Six in the morning of the first day of the calendar, in universal time. -/
def firstMorning : Moment := ⟨21600000000, some 0, by decide⟩

/-- A virtual machine of that moment, with a name and a lifetime. -/
def guest (name : String) (lifetime : Duration) : Vm where
  name := name
  provider := "lab"
  createdAt := firstMorning
  lifetime := some lifetime
  zone := "us-east1-b"

/-- Two virtual machines of which one does not expire are shown in a row each. -/
theorem report_shows_guests :
    ∃ roster : Roster, roster.length = 2 ∧ (∀ vm ∈ roster, vm.createdAt.offset.isSome = true) ∧
      (∀ vm ∈ roster, vm.EndsInCalendar) ∧
      roster.report false (.ok firstMorning) = .ok (.table (roster.tableAt firstMorning)) ∧
      ∃ shown, (Report.table (roster.tableAt firstMorning)).plainText = .ok shown := by
  have aware : ∀ vm ∈ [guest "web" .twelveHours, guest "db" .zero],
      vm.createdAt.offset.isSome = true := by decide
  have ends : ∀ vm ∈ [guest "web" .twelveHours, guest "db" .zero], vm.EndsInCalendar := by
    decide +kernel
  have tagless : ∀ vm ∈ [guest "web" .twelveHours, guest "db" .zero], vm.Tagless := by
    simp only [Vm.Tagless, List.forall_mem_cons, List.not_mem_nil, false_implies, implies_true, and_true]
    decide
  -- Neither zone nor name has a bracket, so every cell is sound.
  obtain ⟨_, _, _, shows, sound⟩ := report_shows aware (show firstMorning.offset.isSome = true from rfl)
  obtain ⟨made, shown, _⟩ := shows nofun ends
  exact ⟨_, rfl, aware, ends, made, shown.mpr fun vm member => sound vm member (tagless vm member)⟩

/-- A lifetime that is read and accepted can end outside the calendar, and then there is no table at
all. A name that closes what is not open is put into a table that the console does not show. -/
theorem not_shown_guests :
    (∃ lifetime, Duration.parse "100000000h" = .ok lifetime ∧
      report [guest "web" .twelveHours, guest "db" lifetime] false (.ok firstMorning) =
        .error .outOfCalendar) ∧
    report [guest "[/red]" .zero] false (.ok firstMorning) =
      .ok (.table (tableAt [guest "[/red]" .zero] firstMorning)) ∧
    (Report.table (tableAt [guest "[/red]" .zero] firstMorning)).plainText =
      .error (.notOpen ⟨"/red", none⟩ 0) :=
  ⟨⟨⟨360000000000000000, by decide, by decide⟩, by decide +kernel, by decide +kernel⟩,
    by decide +kernel, by decide +kernel⟩

end Roster

end Fleet
