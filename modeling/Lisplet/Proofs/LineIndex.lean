import Lisplet.Proofs.Places

/-!
The lines of a source. They partition its text, the index of their starts leads to them, and each
offset of the text stands in one of them, where a reader counts it.
-/

namespace Lisplet

/-! ### Code points that are kept -/

/-- The code point is no surrogate and not the replacement character. -/
def CodePoint.IsValid (point : CodePoint) : Prop :=
  point.val ≠ 0xFFFD ∧ ¬ (0xD800 ≤ point.val ∧ point.val ≤ 0xDFFF)

theorem Source.isKept_iff (point : CodePoint) : isKept point = true ↔ point.IsValid := by
  have same : point = CodePoint.replacement ↔ point.val = 0xFFFD :=
    ⟨fun same => same ▸ rfl, fun same => by cases point; cases same; rfl⟩
  simp [isKept, CodePoint.IsValid, CodePoint.isSurrogate, same, imp_iff_not_or]

/-- The text is what is left of the data without the code points that are not valid. -/
structure Text.Cleaned (data text : Text) : Prop where
  inOrder : text.Sublist data
  valid : ∀ point ∈ text, point.IsValid
  complete : ∀ point : CodePoint, point.IsValid → text.count point = data.count point

theorem Source.ofText_cleaned (name data : Text) : data.Cleaned (ofText name data).text where
  inOrder := List.filter_sublist
  valid point member := (isKept_iff point).1 (List.of_mem_filter member)
  complete point valid := List.count_filter ((isKept_iff point).2 valid)

theorem Source.ofText_again (name data : Text) :
    ofText name (ofText name data).text = ofText name data :=
  ofText_of_kept name fun _ member => List.of_mem_filter member

/-! ### Lines -/

/-- The lines of a text. Each of them has the newline that ends it, and the last one has none. -/
inductive Text.Lines : Text → List Text → Prop
  | last {shown} : Source.newline ∉ shown → Lines shown [shown]
  | line {shown rest lines} : Source.newline ∉ shown → Lines rest lines →
      Lines (shown ++ Source.newline :: rest) ((shown ++ [Source.newline]) :: lines)

namespace Text

theorem IsLine.behind_eq_nil {text before shown behind : Text}
    (isLine : text.IsLine before shown behind)
    (isLast : before.count Source.newline = text.count Source.newline) : behind = [] := by
  cases behind with
  | nil => rfl
  | cons point behind =>
      obtain rfl : point = Source.newline := isLine.ends point rfl
      rw [isLine.whole, List.count_append, List.count_append, List.count_cons_self] at isLast
      omega

theorem exists_lines (text : Text) : ∃ lines, text.Lines lines := by
  induction text with
  | nil => exact ⟨[[]], .last List.not_mem_nil⟩
  | cons point text ih =>
      obtain ⟨lines, isLines⟩ := ih
      by_cases breaks : point = Source.newline
      · subst breaks
        exact ⟨_, .line List.not_mem_nil isLines⟩
      · have other : Source.newline ≠ point := Ne.symm breaks
        cases isLines with
        | last oneLine => exact ⟨_, .last (List.not_mem_cons_of_ne_of_not_mem other oneLine)⟩
        | line oneLine isLines =>
            exact ⟨_, .line (List.not_mem_cons_of_ne_of_not_mem other oneLine) isLines⟩

namespace Lines

variable {text : Text} {lines : List Text}

theorem flatten (isLines : text.Lines lines) : lines.flatten = text := by
  induction isLines with
  | last _ => simp
  | line _ _ ih => simp [ih]

theorem length (isLines : text.Lines lines) : lines.length = text.count Source.newline + 1 := by
  induction isLines with
  | last oneLine => simp [List.count_eq_zero.2 oneLine]
  | line oneLine _ ih => simp [List.count_eq_zero.2 oneLine, ih]

theorem ne_nil (isLines : text.Lines lines) : lines ≠ [] := by
  cases isLines <;> exact List.cons_ne_nil _ _

theorem ended (isLines : text.Lines lines) :
    ∀ line ∈ lines.dropLast, ∃ shown, line = shown ++ [Source.newline] ∧ Source.newline ∉ shown := by
  induction isLines with
  | last _ => exact nofun
  | line oneLine behind ih =>
      rw [List.dropLast_cons_of_ne_nil behind.ne_nil]
      exact List.forall_mem_cons.2 ⟨⟨_, rfl, oneLine⟩, ih⟩

theorem last_oneLine (isLines : text.Lines lines) :
    ∀ line ∈ lines.getLast?, Source.newline ∉ line := by
  induction isLines with
  | last oneLine =>
      rintro line ⟨⟩
      exact oneLine
  | line _ behind ih => rwa [List.getLast?_cons_of_ne_nil behind.ne_nil]

/-- Each line stands behind as many newlines as there are lines in front of it. -/
theorem isLine (isLines : text.Lines lines) {index : Nat} {line : Text}
    (found : lines[index]? = some line) : ∃ before shown behind,
      text.IsLine before shown behind ∧ before.count Source.newline = index ∧
        line = shown ++ behind.take 1 := by
  induction isLines generalizing index with
  | @last shown oneLine =>
      obtain ⟨rfl, rfl⟩ : index = 0 ∧ shown = line := by simpa [List.getElem?_singleton] using found
      exact ⟨[], shown, [], ⟨by simp, nofun, oneLine, nofun⟩, rfl, by simp⟩
  | @line shown rest lines oneLine behind ih =>
      cases index with
      | zero =>
          obtain rfl : shown ++ [Source.newline] = line := by simpa using found
          refine ⟨[], shown, Source.newline :: rest, ⟨by simp, nofun, oneLine, ?_⟩, rfl, by simp⟩
          rintro point ⟨⟩
          rfl
      | succ index =>
          obtain ⟨front, inLine, tail, isLine, counted, same⟩ := ih found
          refine ⟨shown ++ Source.newline :: front, inLine, tail, ⟨?_, ?_, isLine.oneLine,
            isLine.ends⟩, ?_, same⟩
          · simp [isLine.whole]
          · intro point last
            cases front with
            | nil => simpa using last.symm
            | cons other front => exact isLine.starts point (by simpa using last)
          · simp [List.count_eq_zero.2 oneLine, counted]

end Lines

end Text

namespace Source

theorem length_lineStartsFrom (offset : Nat) (text : Text) :
    (lineStartsFrom offset text).length = text.count newline := by
  induction text generalizing offset with
  | nil => rfl
  | cons point text ih =>
      rw [lineStartsFrom]
      by_cases breaks : point = newline
      · rw [if_pos breaks, List.length_cons, ih, breaks, List.count_cons_self]
      · rw [if_neg breaks, ih, List.count_cons_of_ne breaks]

theorem length_lineStarts (source : Source) :
    source.lineStarts.length = source.text.count newline + 1 := by
  rw [lineStarts, List.length_cons, length_lineStartsFrom]

theorem behindLines_eq_none {count : Nat} {text : Text} (tooFew : text.count newline < count) :
    behindLines? count text = none := by
  induction text generalizing count with
  | nil =>
      obtain ⟨count, rfl⟩ : ∃ less, count = less + 1 := ⟨count - 1, by omega⟩
      rfl
  | cons point text ih =>
      obtain ⟨count, rfl⟩ : ∃ less, count = less + 1 := ⟨count - 1, by omega⟩
      rw [behindLines?]
      by_cases breaks : point = newline
      · rw [if_pos breaks]
        rw [breaks, List.count_cons_self] at tooFew
        exact ih (by omega)
      · rw [if_neg breaks]
        rw [List.count_cons_of_ne breaks] at tooFew
        exact ih tooFew

theorem line_eq_error {source : Source} {index : Int}
    (outside : index < 0 ∨ source.lineStarts.length ≤ index) :
    source.line index = .error ⟨index, source.lineStarts.length⟩ := by
  cases index with
  | negSucc number => rfl
  | ofNat number =>
      have tooFew : source.text.count newline < number := by
        rw [length_lineStarts, Int.ofNat_eq_natCast] at outside
        omega
      simp [line, behindLines_eq_none tooFew]

theorem line_of_lines {source : Source} {lines : List Text} (isLines : source.text.Lines lines)
    {index : Nat} {line : Text} (found : lines[index]? = some line) :
    source.line index = .ok line := by
  obtain ⟨before, shown, behind, isLine, rfl, rfl⟩ := isLines.isLine found
  exact line_of_isLine isLine

theorem isLine_of_line {source : Source} {index : Nat} {line : Text}
    (reads : source.line index = .ok line) : ∃ before shown behind,
      source.text.IsLine before shown behind ∧ before.count newline = index ∧
        line = shown ++ behind.take 1 := by
  obtain ⟨lines, isLines⟩ := source.text.exists_lines
  by_cases inside : index < lines.length
  · have found := List.getElem?_eq_getElem inside
    obtain rfl := Except.ok.inj (reads.symm.trans (line_of_lines isLines found))
    exact isLines.isLine found
  · have outside : (index : Int) < 0 ∨ (source.lineStarts.length : Int) ≤ index := by
      rw [length_lineStarts, ← isLines.length]
      omega
    rw [line_eq_error outside] at reads
    cases reads

/-! ### Starts of lines -/

theorem lineStartsFrom_increasing (offset : Nat) (text : Text) :
    (offset :: lineStartsFrom offset text).Pairwise (· < ·) := by
  -- The lines behind the first one start behind the code point that was passed.
  induction text generalizing offset with
  | nil => exact List.pairwise_singleton _ _
  | cons point text ih =>
      have behind := List.pairwise_cons.1 (ih (offset + 1))
      rw [lineStartsFrom]
      split
      · refine List.pairwise_cons.2 ⟨?_, ih (offset + 1)⟩
        exact List.forall_mem_cons.2 ⟨Nat.lt_succ_self _,
          fun start member => Nat.lt_of_succ_lt (behind.1 start member)⟩
      · exact List.pairwise_cons.2
          ⟨fun start member => Nat.lt_of_succ_lt (behind.1 start member), behind.2⟩

theorem lineStartsFrom_append (offset : Nat) (first second : Text) :
    lineStartsFrom offset (first ++ second) =
      lineStartsFrom offset first ++ lineStartsFrom (offset + first.length) second := by
  induction first generalizing offset with
  | nil => rfl
  | cons point first ih =>
      rw [List.cons_append, lineStartsFrom, lineStartsFrom, ih, List.length_cons,
        Nat.add_assoc offset 1, Nat.add_comm 1]
      split <;> rfl

theorem lineStarts_of_isLine {source : Source} {before shown behind : Text}
    (isLine : source.text.IsLine before shown behind) :
    source.lineStarts[before.count newline]? = some before.length := by
  rw [lineStarts, isLine.whole, List.append_assoc, lineStartsFrom_append, ← List.cons_append,
    List.getElem?_append_left (by simp [length_lineStartsFrom])]
  rcases List.eq_nil_or_concat before with rfl | ⟨lines, last, rfl⟩
  · rfl
  · obtain rfl : last = newline := isLine.starts last (by simp)
    rw [List.concat_eq_append, lineStartsFrom_append, List.count_append, ← List.cons_append,
      List.getElem?_append_right (by simp [length_lineStartsFrom])]
    simp [length_lineStartsFrom, lineStartsFrom]

end Source

/-! ### Offsets -/

/-- The position that the text ends at, by the newlines in it and by what stands behind the last of
them. -/
def Position.atEnd (front : Text) : Position :=
  ⟨front.count Source.newline, (front.reverse.takeWhile (· ≠ Source.newline)).length⟩

theorem Position.atEnd_of_line {before left : Text}
    (starts : ∀ point ∈ before.getLast?, point = Source.newline)
    (oneLine : Source.newline ∉ left) :
    atEnd (before ++ left) = ⟨before.count Source.newline, left.length⟩ := by
  have inLine : ∀ point ∈ left.reverse, decide (point ≠ Source.newline) = true := by
    intro point member
    exact decide_eq_true fun same => oneLine (same ▸ List.mem_reverse.1 member)
  have stops : before.reverse.takeWhile (· ≠ Source.newline) = [] := by
    rcases List.eq_nil_or_concat before with rfl | ⟨lines, last, rfl⟩
    · rfl
    · simp [starts last (by simp)]
  rw [atEnd, List.count_append, List.count_eq_zero.2 oneLine, List.reverse_append,
    List.takeWhile_append_of_pos inLine, stops, List.append_nil, List.length_reverse]
  rfl

theorem Position.advance_start (front : Text) : start.advance front = atEnd front := by
  obtain ⟨before, left, rfl, starts, oneLine⟩ := Text.cut_at_line front
  rw [advance_append, advance_lines starts, advance_oneLine _ oneLine,
    atEnd_of_line starts oneLine]
  simp

namespace Source

/-- The place is the offset, counted from the start of its line, and it is inside that line. The end
of the text is inside the last line. -/
structure StandsAt (source : Source) (offset : Nat) (place : Position) : Prop where
  counted : ∃ start, source.lineStarts[place.line]? = some start ∧ start + place.column = offset
  inside : ∃ line, source.line place.line = .ok line ∧
    (place.column < line.length ∨
      offset = source.text.length ∧ place.line + 1 = source.lineStarts.length)

theorem standsAt_of_isLine {source : Source} {before left tail behind : Text}
    (isLine : source.text.IsLine before (left ++ tail) behind) :
    source.StandsAt (before ++ left).length ⟨before.count newline, left.length⟩ where
  counted := ⟨before.length, lineStarts_of_isLine isLine, by simp⟩
  inside := by
    refine ⟨_, line_of_isLine isLine, ?_⟩
    -- The place is at the end of the line only if nothing of it is left there, not even a newline.
    by_cases atEnd : tail = [] ∧ behind = []
    · obtain ⟨rfl, rfl⟩ := atEnd
      refine .inr ⟨by simp [isLine.whole], ?_⟩
      rw [length_lineStarts, isLine.whole]
      have oneLine : left.count newline = 0 := List.count_eq_zero.2 (by simpa using isLine.oneLine)
      simp [oneLine]
    · left
      cases tail with
      | cons point tail => simp
      | nil =>
          cases behind with
          | cons point behind => simp
          | nil => exact absurd ⟨rfl, rfl⟩ atEnd

theorem StandsAt.eq_atEnd {source : Source} {offset : Nat} {place : Position}
    (stands : source.StandsAt offset place) :
    place = Position.atEnd (source.text.take offset) := by
  obtain ⟨line, column⟩ := place
  obtain ⟨⟨start, found, rfl⟩, text, reads, inside⟩ := stands
  obtain ⟨before, shown, behind, isLine, rfl, rfl⟩ := isLine_of_line reads
  obtain rfl := Option.some.inj (found.symm.trans (lineStarts_of_isLine isLine))
  have inLine : column ≤ shown.length := by
    rcases inside with inside | ⟨atEnd, isLast⟩
    · simp only [List.length_append, List.length_take] at inside
      omega
    · have nothing : behind = [] := isLine.behind_eq_nil (by simpa [length_lineStarts] using isLast)
      rw [isLine.whole, nothing] at atEnd
      simp only [List.length_append, List.length_nil] at atEnd
      omega
  have front : source.text.take (before.length + column) = before ++ shown.take column := by
    rw [isLine.whole, List.append_assoc, List.take_length_add_append,
      List.take_append_of_le_length inLine]
  rw [front, Position.atEnd_of_line isLine.starts fun member =>
    isLine.oneLine (List.mem_of_mem_take member), List.length_take, Nat.min_eq_left inLine]

theorem standsAt_iff {source : Source} {offset : Nat} (inText : offset ≤ source.text.length)
    (place : Position) :
    source.StandsAt offset place ↔ place = Position.atEnd (source.text.take offset) := by
  refine ⟨StandsAt.eq_atEnd, ?_⟩
  rintro rfl
  obtain ⟨before, left, tail, behind, front, isLine⟩ :=
    Text.exists_isLine (source.text.take offset) (source.text.drop offset)
  rw [List.take_append_drop] at isLine
  have stands := standsAt_of_isLine isLine
  have inLine : newline ∉ left := fun member => isLine.oneLine (List.mem_append_left tail member)
  rw [front, Position.atEnd_of_line isLine.starts inLine]
  rwa [← front, List.length_take, Nat.min_eq_left inText] at stands

/-! ### The index -/

/-- These are the lines of the source. They can be asked for by their numbers, and there are no
others. -/
structure HasLines (source : Source) (lines : List Text) : Prop where
  whole : lines.flatten = source.text
  ended : ∀ line ∈ lines.dropLast, ∃ shown, line = shown ++ [newline] ∧ newline ∉ shown
  last : ∀ line ∈ lines.getLast?, newline ∉ line
  found : ∀ (index : Nat) (inside : index < lines.length), source.line index = .ok lines[index]
  missing : ∀ index : Int, index < 0 ∨ lines.length ≤ index →
    source.line index = .error ⟨index, lines.length⟩

theorem hasLines_of_lines {source : Source} {lines : List Text} (isLines : source.text.Lines lines) :
    source.HasLines lines where
  whole := isLines.flatten
  ended := isLines.ended
  last := isLines.last_oneLine
  found _ inside := line_of_lines isLines (List.getElem?_eq_getElem inside)
  missing index outside := by
    have counted : lines.length = source.lineStarts.length := by
      rw [isLines.length, length_lineStarts]
    rw [counted] at outside ⊢
    exact line_eq_error outside

/-- A source keeps the valid code points of its data, and is made of its lines. The starts of the
lines are increasing, and with them each offset has one line and one column. These count the newlines
in front of it and the code points behind the last of those, and a reader counts the same. -/
theorem ofText_indexed (name data : Text) :
    let source := ofText name data
    (data.Cleaned source.text ∧ ofText name source.text = source) ∧
      (source.lineStarts.head? = some 0 ∧ source.lineStarts.Pairwise (· < ·) ∧
        source.lineStarts.length = source.text.count newline + 1) ∧
      (∃ lines, source.HasLines lines ∧ lines.length = source.lineStarts.length) ∧
      ∀ offset ≤ source.text.length,
        let front := source.text.take offset
        (∀ place : Position, source.StandsAt offset place ↔ place = Position.atEnd front) ∧
          Position.start.advance front = Position.atEnd front := by
  intro source
  obtain ⟨lines, isLines⟩ := source.text.exists_lines
  refine ⟨⟨ofText_cleaned name data, ofText_again name data⟩,
    ⟨rfl, lineStartsFrom_increasing 0 source.text, source.length_lineStarts⟩,
    ⟨lines, hasLines_of_lines isLines, ?_⟩, fun offset inText => ?_⟩
  · rw [isLines.length, length_lineStarts]
  · exact ⟨standsAt_iff inText, Position.advance_start _⟩

/-- Behind a code point that is dropped, offsets are those of what is left. -/
theorem ofText_indexed_dropped :
    let source := ofText "dropped" ("a\n" ++ CodePoint.replacement :: "\nb")
    source.text = "a\n\nb" ∧ source.lineStarts = [0, 2, 3] ∧
      (∀ place, source.StandsAt 2 place ↔ place = ⟨1, 0⟩) ∧
      ∀ place, source.StandsAt 4 place ↔ place = ⟨2, 1⟩ := by
  intro source
  obtain ⟨-, -, -, placed⟩ := ofText_indexed "dropped" ("a\n" ++ CodePoint.replacement :: "\nb")
  exact ⟨rfl, rfl, (placed 2 (by decide)).1, (placed 4 (by decide)).1⟩

end Source

end Lisplet
