import Lisplet.Proofs.BrokenOff
import Lisplet.Proofs.Joining

/-!
The places that reading gives to values and issues. Each of them leads into the text of its source,
and its context shows the whole line there with a caret below the column.
-/

namespace Lisplet

/-! ### Lines -/

/-- The text is cut in front of one of its lines and behind it, where a newline may follow. -/
structure Text.IsLine (text before shown behind : Text) : Prop where
  whole : text = before ++ shown ++ behind
  starts : ∀ point ∈ before.getLast?, point = Source.newline
  oneLine : Source.newline ∉ shown
  ends : ∀ point ∈ behind.head?, point = Source.newline

/-- The context of the reference is the whole line that it leads into, and below it a caret behind
as many dashes as there are columns in front of the place. -/
def Ref.ShowsLine (ref : Ref) : Prop :=
  ∃ (source : Source) (before shown behind : Text) (column : Nat),
    source.text.IsLine before shown behind ∧ column ≤ shown.length ∧
      ref = ⟨some source, before.count Source.newline, column⟩ ∧
        ∀ margin, ref.context margin = margin ++ shown ++ "\n" ++ margin
          ++ List.replicate column (CodePoint.ofChar '-') ++ "^\n"

theorem Text.cut_at_line (front : Text) : ∃ before left, front = before ++ left ∧
    (∀ point ∈ before.getLast?, point = Source.newline) ∧ Source.newline ∉ left := by
  induction front using List.reverseRecOn with
  | nil => exact ⟨[], [], rfl, nofun, List.not_mem_nil⟩
  | append_singleton front point ih =>
      by_cases breaks : point = Source.newline
      · exact ⟨front ++ [point], [], by simp, by simp [breaks], List.not_mem_nil⟩
      · obtain ⟨before, left, rfl, starts, oneLine⟩ := ih
        refine ⟨before, left ++ [point], by simp, starts, ?_⟩
        simpa [oneLine] using Ne.symm breaks

theorem Text.exists_isLine (front rest : Text) : ∃ before left tail behind,
    front = before ++ left ∧ Text.IsLine (front ++ rest) before (left ++ tail) behind := by
  obtain ⟨before, left, rfl, starts, oneLine⟩ := Text.cut_at_line front
  refine ⟨before, left, rest.takeWhile (· ≠ Source.newline), rest.dropWhile (· ≠ Source.newline),
    rfl, ?_, starts, ?_, ?_⟩
  · simp [List.takeWhile_append_dropWhile]
  · rw [List.mem_append, not_or]
    exact ⟨oneLine, fun member => by simpa using List.mem_takeWhile_imp member⟩
  · intro point first
    have stopped := List.head?_dropWhile_not (· ≠ Source.newline) rest
    rw [Option.mem_def.1 first] at stopped
    simpa using stopped

namespace Position

theorem advance_oneLine (position : Position) {text : Text} (oneLine : Source.newline ∉ text) :
    position.advance text = ⟨position.line, position.column + text.length⟩ := by
  induction text generalizing position with
  | nil => rfl
  | cons point text ih =>
      have other := List.ne_of_not_mem_cons oneLine
      rw [advance_cons, ih _ (List.not_mem_of_not_mem_cons oneLine), next, if_neg (Ne.symm other),
        List.length_cons]
      exact congrArg (Position.mk _) (by simp only; omega)

theorem advance_lines {before : Text}
    (starts : ∀ point ∈ before.getLast?, point = Source.newline) :
    start.advance before = ⟨before.count Source.newline, 0⟩ := by
  rcases List.eq_nil_or_concat before with rfl | ⟨lines, last, rfl⟩
  · rfl
  · obtain rfl : last = Source.newline := starts last (by simp)
    rw [List.concat_eq_append, advance_newline, List.count_append]
    simp [down, start]

end Position

namespace Source

theorem behindLines_of_starts {before : Text}
    (starts : ∀ point ∈ before.getLast?, point = newline) (rest : Text) :
    behindLines? (before.count newline) (before ++ rest) = some rest := by
  rcases List.eq_nil_or_concat before with rfl | ⟨lines, last, rfl⟩
  · rw [List.count_nil, List.nil_append, behindLines?]
  · obtain rfl : last = newline := starts last (by simp)
    rw [List.concat_eq_append, List.count_append, List.append_assoc]
    change behindLines? (lines.count newline + 1) (lines ++ newline :: rest) = some rest
    induction lines with
    | nil =>
        change behindLines? 1 (newline :: rest) = some rest
        rw [behindLines?, if_pos rfl, behindLines?]
    | cons point lines ih =>
        rw [List.cons_append, behindLines?]
        by_cases breaks : point = newline
        · rw [if_pos breaks, breaks, List.count_cons_self]
          exact ih (by simp)
        · rw [if_neg breaks, List.count_cons_of_ne breaks]
          exact ih (by simp)

theorem firstLine_of_oneLine {shown behind : Text} (oneLine : newline ∉ shown)
    (ends : ∀ point ∈ behind.head?, point = newline) :
    firstLine (shown ++ behind) = shown ++ behind.take 1 := by
  induction shown with
  | nil =>
      cases behind with
      | nil => rfl
      | cons point behind =>
          obtain rfl : point = newline := ends point rfl
          rw [List.nil_append, firstLine, if_pos rfl]
          rfl
  | cons point shown ih =>
      have other := List.ne_of_not_mem_cons oneLine
      rw [List.cons_append, firstLine, if_neg (Ne.symm other),
        ih (List.not_mem_of_not_mem_cons oneLine), List.cons_append]

theorem line_of_isLine {source : Source} {before shown behind : Text}
    (isLine : source.text.IsLine before shown behind) :
    source.line (before.count newline : Nat) = .ok (shown ++ behind.take 1) := by
  have remaining : behindLines? (before.count newline) source.text = some (shown ++ behind) := by
    rw [isLine.whole, List.append_assoc]
    exact behindLines_of_starts isLine.starts (shown ++ behind)
  change source.line (Int.ofNat (before.count newline)) = _
  unfold line
  simp only [remaining, Option.map_some, firstLine_of_oneLine isLine.oneLine isLine.ends]

theorem filter_line {text before shown behind : Text} (isLine : text.IsLine before shown behind) :
    (shown ++ behind.take 1).filter (· ≠ newline) = shown := by
  have kept : shown.filter (· ≠ newline) = shown := by
    refine List.filter_eq_self.2 fun point member => ?_
    have other : point ≠ newline := fun same => isLine.oneLine (same ▸ member)
    simpa using other
  have dropped : (behind.take 1).filter (· ≠ newline) = [] := by
    cases behind with
    | nil => rfl
    | cons point behind => simp [isLine.ends point rfl]
  rw [List.filter_append, kept, dropped, List.append_nil]

/-- The place behind the front of the text. -/
def placeBehind (source : Source) (front : Text) : Ref :=
  (Position.start.advance front).toRef source

theorem placeBehind_of_line {before left : Text} (source : Source)
    (starts : ∀ point ∈ before.getLast?, point = newline) (oneLine : newline ∉ left) :
    source.placeBehind (before ++ left) = ⟨some source, before.count newline, left.length⟩ := by
  rw [placeBehind, Position.advance_append, Position.advance_lines starts,
    Position.advance_oneLine _ oneLine, Position.toRef]
  simp

theorem placeBehind_showsLine {source : Source} {front rest : Text}
    (whole : source.text = front ++ rest) : (source.placeBehind front).ShowsLine := by
  obtain ⟨before, left, tail, behind, rfl, isLine⟩ := Text.exists_isLine front rest
  rw [← whole] at isLine
  have inLine : newline ∉ left := fun member => isLine.oneLine (List.mem_append_left tail member)
  have place := placeBehind_of_line source isLine.starts inLine
  refine ⟨source, before, left ++ tail, behind, left.length, isLine, by simp, place, fun margin => ?_⟩
  have inside : (0 : Int) ≤ left.length ∧
      (left.length : Int) ≤ (left ++ tail ++ behind.take 1).length := by
    simp only [List.length_append]
    omega
  rw [place, Ref.context]
  simp only [line_of_isLine isLine, filter_line isLine, if_pos inside, Int.toNat_natCast]

end Source

/-! ### Tokens and what the lexer fails at -/

namespace Lexer

variable {source : Source} {mode : Mode} {cursor : Cursor}

/-- The tokens of a walk are cut out of the text that it passes, each at its place. -/
theorem walk_tokens_stand (source : Source) (mode : Mode) (cursor : Cursor) :
    ∀ token ∈ (walk source mode cursor).tokens, ∃ front behind,
      cursor.rest = front ++ token.text ++ behind ∧
        token.ref = some ((cursor.position.advance front).toRef source) := by
  have here {mode : Mode} {cursor : Cursor} {result : Transition} {token : Token}
      (done : transition source mode cursor = .ok result) (handed : token ∈ result.token.toList) :
      ∃ front behind, cursor.rest = front ++ token.text ++ behind ∧
        token.ref = some ((cursor.position.advance front).toRef source) := by
    obtain ⟨consumed, consumes⟩ := transition_consumes done
    obtain ⟨text, -, ref, -⟩ := consumes.token token (Option.mem_toList.1 handed)
    exact ⟨[], result.cursor.rest, by rw [text, consumes.rest]; rfl, ref⟩
  fun_induction walk source mode cursor with
  | case1 => exact fun token member => absurd member List.not_mem_nil
  | case2 mode cursor result done _ =>
      intro token member
      exact here done (by simpa using member)
  | case3 mode cursor result done next _ remaining ih =>
      intro token member
      rw [Walk.tokens_cons, List.mem_append] at member
      rcases member with handed | later
      · exact here done handed
      · obtain ⟨consumed, consumes⟩ := transition_consumes done
        obtain ⟨front, behind, cut, ref⟩ := ih token later
        refine ⟨consumed ++ front, behind, ?_, ?_⟩
        · rw [consumes.rest, cut]
          simp
        · rw [ref, consumes.position, Position.advance_append]

theorem transition_fails {issue : Issue}
    (failed : transition source mode cursor = .error (.issue issue)) :
    issue.ref = some (cursor.position.toRef source) := by
  rcases transition_error failed with ⟨-, -, read⟩ | same
  · rcases NumberToken.read_fails read with ⟨same, -⟩ | ⟨_, _, -, -, same⟩
    · cases same
      rfl
    · cases same
  · cases same
    rfl

theorem walk_fails {issue : Issue}
    (ended : (walk source mode cursor).ending = .error (.issue issue)) :
    ∃ front rest, cursor.rest = front ++ rest ∧
      issue.ref = some ((cursor.position.advance front).toRef source) := by
  fun_induction walk source mode cursor with
  | case1 mode cursor failure failed =>
      cases ended
      exact ⟨[], cursor.rest, rfl, transition_fails failed⟩
  | case2 => cases ended
  | case3 mode cursor result done next _ remaining ih =>
      obtain ⟨consumed, consumes⟩ := transition_consumes done
      obtain ⟨front, rest, cut, ref⟩ := ih ended
      refine ⟨consumed ++ front, rest, ?_, ?_⟩
      · rw [consumes.rest, cut, List.append_assoc]
      · rw [ref, consumes.position, Position.advance_append]

end Lexer

namespace Source

/-- The token is one of the source, and the reference leads to where its text starts. -/
def Starts (source : Source) (token : Token) (ref : Ref) : Prop :=
  token ∈ source.tokens ∧ token.ref = some ref ∧ ∃ front behind,
    source.text = front ++ token.text ++ behind ∧ ref = source.placeBehind front

theorem starts_of_ref {source : Source} {token : Token} {ref : Ref} (member : token ∈ source.tokens)
    (place : token.ref = some ref) : source.Starts token ref := by
  obtain ⟨front, behind, cut, stands⟩ := Lexer.walk_tokens_stand source .word _ token member
  exact ⟨member, place, front, behind, cut, Option.some.inj (place.symm.trans stands)⟩

/-- Where issues about a source are: at the start of one of its tokens, at the first code point of
what the lexer fails at, at the end of input, or at the start of the text. -/
inductive IssuePlace (source : Source) (ref : Ref) : Prop
  | token {token : Token} (starts : source.Starts token ref)
  | failure {problem : Problem} {front rest : Text}
      (ended : source.ending = .error (.issue ⟨problem, some ref⟩))
      (whole : source.text = front ++ rest) (here : ref = source.placeBehind front)
      (fails : Lexer.FailsAt source front.length rest (.issue ⟨problem, some ref⟩))
  | ending (here : ref = source.placeBehind source.text)
  | start (here : ref = source.placeBehind [])

theorem IssuePlace.showsLine {source : Source} {ref : Ref} (place : source.IssuePlace ref) :
    ref.ShowsLine := by
  cases place with
  | token starts =>
      obtain ⟨-, -, front, behind, cut, rfl⟩ := starts
      exact placeBehind_showsLine (cut.trans (List.append_assoc _ _ _))
  | failure ended whole here fails => exact here ▸ placeBehind_showsLine whole
  | ending here => exact here ▸ placeBehind_showsLine (List.append_nil _).symm
  | start here => exact here ▸ placeBehind_showsLine (List.nil_append _).symm

/-- A failure of the lexer is at the place that it names. -/
theorem issuePlace_of_ending {source : Source} {issue : Issue} {ref : Ref}
    (ended : source.ending = .error (.issue issue)) (place : issue.ref = some ref) :
    source.IssuePlace ref := by
  obtain ⟨problem, other⟩ := issue
  obtain rfl : other = some ref := place
  obtain ⟨front, rest, whole, fails⟩ := ending_fails ended
  have walked : source.walk.ending = .error (.issue ⟨problem, some ref⟩) := by
    unfold ending at ended
    cases reached : source.walk.ending with
    | ok cursor => simp [reached, Except.map] at ended
    | error failure => simpa [reached, Except.map] using ended
  obtain ⟨passed, left, cut, here⟩ := Lexer.walk_fails walked
  -- Both cuts are at the offset that the place stands for.
  have located : source.Locates (some ref) passed.length := by
    rw [show some ref = _ from here]
    exact locates_advance cut
  have same : front = passed :=
    (List.append_inj (whole.symm.trans cut) (fails.1.unique located)).1
  subst same
  exact .failure ended whole (Option.some.inj here) fails

end Source

end Lisplet
