import Lisplet.Precedence
import Lisplet.Proofs.Spelling

/-!
Tokens tile their source: its text is the texts of the tokens, one behind the other, with separators
between them. The place of each token leads to the offset where its text stands, and where the lexer
fails, the place of the failure does.
-/

namespace Lisplet

/-! ### Places and offsets -/

/-- The offset in the text of its source that a place stands for, by the start of its line. -/
def Ref.offset? (ref : Ref) : Option Nat :=
  match ref.source, ref.line, ref.column with
  | some source, .ofNat line, .ofNat column => source.lineStarts[line]?.map (· + column)
  | _, _, _ => none

/-- The reference leads into the source, to the offset. -/
def Source.Locates (source : Source) (ref : Option Ref) (offset : Nat) : Prop :=
  ∃ place, ref = some place ∧ place.source = some source ∧ place.offset? = some offset

/-- The line that a position is in starts where the columns are counted from. -/
theorem Position.line_advance (front rest : Text) {position : Position} {offset start : Nat}
    (column : start + position.column = offset) :
    ∃ lines first, (position.advance front).line = position.line + lines ∧
      (start :: Source.lineStartsFrom offset (front ++ rest))[lines]? = some first ∧
      first + (position.advance front).column = offset + front.length := by
  -- `start` is the offset of the line that the position is in; a newline moves it behind itself.
  induction front generalizing position offset start with
  | nil => exact ⟨0, start, rfl, rfl, column⟩
  | cons point front ih =>
      by_cases breaks : point = Source.newline
      · obtain ⟨lines, first, line, found, reached⟩ :=
          @ih ⟨position.line + 1, 0⟩ (offset + 1) (offset + 1) rfl
        have next : position.next point = ⟨position.line + 1, 0⟩ := by simp [next, breaks]
        refine ⟨lines + 1, first, ?_, ?_, ?_⟩
        · rw [advance_cons, next, line]
          exact Nat.add_right_comm position.line 1 lines
        · rw [List.cons_append, Source.lineStartsFrom, if_pos breaks, List.getElem?_cons_succ,
            found]
        · rw [advance_cons, next, reached, List.length_cons]
          omega
      · obtain ⟨lines, first, line, found, reached⟩ :=
          @ih ⟨position.line, position.column + 1⟩ (offset + 1) start (by simp only; omega)
        have next : position.next point = ⟨position.line, position.column + 1⟩ := by
          simp [next, breaks]
        refine ⟨lines, first, ?_, ?_, ?_⟩
        · rw [advance_cons, next, line]
        · rw [List.cons_append, Source.lineStartsFrom, if_neg breaks, found]
        · rw [advance_cons, next, reached, List.length_cons]
          omega

theorem Source.locates_advance {source : Source} {front rest : Text}
    (whole : source.text = front ++ rest) :
    source.Locates (some ((Position.start.advance front).toRef source)) front.length := by
  refine ⟨_, rfl, rfl, ?_⟩
  obtain ⟨lines, first, line, found, reached⟩ :=
    Position.line_advance front rest (show 0 + Position.start.column = 0 from rfl)
  have index : (Position.start.advance front).line = lines := by simpa [Position.start] using line
  change source.lineStarts[(Position.start.advance front).line]?.map _ = _
  rw [index, lineStarts, whole, found, Option.map_some, reached, Nat.zero_add]

theorem Source.Locates.unique {source : Source} {ref : Option Ref} {offset other : Nat}
    (first : source.Locates ref offset) (second : source.Locates ref other) : offset = other := by
  obtain ⟨place, rfl, -, found⟩ := first
  obtain ⟨_, ⟨⟩, -, again⟩ := second
  exact Option.some.inj (found.symm.trans again)

namespace Lexer

/-! ### How a text goes on -/

/-- A text starts with a token or with what separates tokens, unless it is at its end. -/
inductive Begins : Text → Prop
  | nothing : Begins []
  | word {word rest} : IsWord word → EndsWord rest → Begins (word ++ rest)
  | opening {rest} : Begins (openParenthesis :: rest)
  | closing {rest} : Begins (closeParenthesis :: rest)
  | string {body} : Begins (Text.doubleQuote :: body)
  | separator {separator rest} : Separator separator → separator ≠ [] → Begins (separator ++ rest)
  | lastComment {body} : Source.newline ∉ body → Begins (semicolon :: body)

theorem begins_comment (text : Text) : Begins (semicolon :: text) := by
  by_cases ended : Source.newline ∈ text
  · obtain ⟨body, rest, rfl, oneLine⟩ := List.eq_append_cons_of_mem ended
    have separator : Separator (semicolon :: body ++ Source.newline :: []) := .comment oneLine .nil
    have split_ : semicolon :: (body ++ Source.newline :: rest) =
        (semicolon :: body ++ Source.newline :: []) ++ rest := by simp
    rw [split_]
    exact .separator separator (List.cons_ne_nil _ _)
  · exact .lastComment ended

theorem endsWord_dropWhile (text : Text) : EndsWord (text.dropWhile isWordPoint) := by
  cases shape : text.dropWhile isWordPoint with
  | nil => simp [EndsWord]
  | cons other rest =>
      have present : text.dropWhile isWordPoint ≠ [] := by simp [shape]
      have stopped := List.head_dropWhile_not isWordPoint present
      exact endsWord_cons (by simpa [shape] using stopped) rest

theorem begins (text : Text) : Begins text := by
  cases text with
  | nil => exact .nothing
  | cons point rest =>
      cases inWord : isWordPoint point with
      | true =>
          have isWord : IsWord ((point :: rest).takeWhile isWordPoint) := by
            refine ⟨by simp [inWord], fun other member => ?_⟩
            exact List.all_eq_true.1 List.all_takeWhile other member
          rw [← List.takeWhile_append_dropWhile (p := isWordPoint) (l := point :: rest)]
          exact .word isWord (endsWord_dropWhile _)
      | false =>
          by_cases opens : point = openParenthesis
          · exact opens ▸ .opening
          by_cases closes : point = closeParenthesis
          · exact closes ▸ .closing
          by_cases comments : point = semicolon
          · exact comments ▸ begins_comment rest
          by_cases quotes : point = Text.doubleQuote
          · exact quotes ▸ .string
          have blank : point.isBlank = true := by
            simpa [isWordPoint, opens, closes, comments, quotes] using inWord
          exact .separator (.blank blank .nil) (List.cons_ne_nil point [])

/-! ### Tilings -/

/-- The pieces stand one behind the other from the offset on. -/
structure Tiling (source : Source) (offset : Nat) (pieces : List SpacedToken) : Prop extends
    Laid pieces where
  placed : ∀ before piece behind, pieces = before ++ piece :: behind →
    source.Locates piece.token.ref (offset + (spelled before).length + piece.gap.length)

/-- The failure is about the text that stands at the offset. A number with too many digits has no
place. -/
def FailsAt (source : Source) (offset : Nat) (text : Text) : Fatal → Prop
  | .issue issue =>
    source.Locates issue.ref offset ∧
      ((∃ word behind, text = word ++ behind ∧ IsWord word ∧ EndsWord behind ∧
          NumberToken.looksNumeric word = true ∧ Decimal.Literal.read? word = none ∧
          issue.problem = .malformedNumber word) ∨
        ∃ body, text = Text.doubleQuote :: body ∧ issue.problem = .unterminatedString ∧
          ¬ ∃ inside value behind, Quotes inside value ∧
            body = inside ++ Text.doubleQuote :: behind)
  | .oversizedNumber count =>
    ∃ word behind negative digits, text = word ++ behind ∧ IsWord word ∧ EndsWord behind ∧
      Decimal.wholeLiteral? word = some (negative, digits) ∧ digits.length = count ∧
      NumberToken.mostDigits < count

/-- How the lexer comes to its end at the offset, behind the text `last` and in front of `rest`. -/
def Stops {Result : Type} (source : Source) (offset : Nat) (last rest : Text) :
    Except Fatal Result → Prop
  | .ok _ => rest = [] ∧ Trailer last
  | .error failure => Separator last ∧ FailsAt source offset rest failure

theorem FailsAt.kind {source : Source} {offset : Nat} {text : Text} {issue : Issue}
    (fails : FailsAt source offset text (.issue issue)) :
    issue.kind = .invalidNumber ∨ issue.kind = .unterminatedString := by
  obtain ⟨-, ⟨word, behind, -, -, -, -, -, problem⟩ | ⟨body, -, problem, -⟩⟩ := fails
  · exact .inl (by rw [Issue.kind, problem, Problem.kind])
  · exact .inr (by rw [Issue.kind, problem, Problem.kind])

theorem Stops.map {Result Other : Type} {source : Source} {offset : Nat} {last rest : Text}
    {ending : Except Fatal Result} (stops : Stops source offset last rest ending)
    (change : Result → Other) : Stops source offset last rest (ending.map change) := by
  cases ending with
  | ok result => exact stops
  | error failure => exact stops

/-- The walk tiles the text behind `front`, of which it has passed the gap already. -/
def Tiles (source : Source) (front gap text : Text) : Prop :=
  ∃ pieces last rest,
    let walked := walk source .word ⟨text, Position.start.advance (front ++ gap)⟩
    walked.tokens = pieces.map SpacedToken.token ∧ gap ++ text = spelled pieces ++ last ++ rest ∧
      Tiling source front.length pieces ∧
      Stops source (front.length + (spelled pieces ++ last).length) last rest walked.ending ∧
      (gap ≠ [] ∨ EndsWord text → ∀ piece ∈ pieces.head?,
        piece.token.lexeme.isWord = true → piece.gap ≠ [])

variable {source : Source} {front gap text : Text}

theorem Tiling.nil (source : Source) (offset : Nat) : Tiling source offset [] :=
  ⟨.nil, by simp⟩

theorem Tiling.cons {piece : SpacedToken} {pieces : List SpacedToken} {offset : Nat}
    (separated : Separator piece.gap) (written : Written piece.token.lexeme piece.token.text)
    (placed : source.Locates piece.token.ref (offset + piece.gap.length))
    (apart : ∀ next ∈ pieces.head?, SpacedToken.Apart piece next)
    (tiling : Tiling source (offset + piece.text.length) pieces) :
    Tiling source offset (piece :: pieces) := by
  refine ⟨.cons separated written apart tiling.toLaid, ?_⟩
  intro before other behind same
  cases before with
  | nil =>
      obtain ⟨rfl, rfl⟩ := List.cons.inj same
      exact placed
  | cons first before =>
      obtain ⟨rfl, rfl⟩ := List.cons.inj same
      have further := tiling.placed before other behind rfl
      simpa [SpacedToken.text, Nat.add_assoc] using further

/-! ### From one piece to the next -/

namespace Tiles

theorem token {lexeme : Lexeme} {rest : Text} (separated : Separator gap)
    (written : Written lexeme text) (ends : lexeme.isWord = true → EndsWord rest)
    (whole : source.text = front ++ gap ++ (text ++ rest))
    (behind : Tiles source (front ++ gap ++ text) [] rest) :
    Tiles source front gap (text ++ rest) := by
  obtain ⟨pieces, last, remaining, handed, cut, tiling, stops, spaced⟩ := behind
  have lexes := written.lexes source (Position.start.advance (front ++ gap)) ends
  rw [← Position.advance_append] at lexes
  rw [List.append_nil] at handed stops
  let piece : SpacedToken :=
    ⟨gap, lexeme, text, some ((Position.start.advance (front ++ gap)).toRef source)⟩
  have length : (front ++ gap ++ text).length = front.length + piece.text.length := by
    simp [piece, SpacedToken.text]
  rw [length] at tiling stops
  have placed : source.Locates piece.token.ref (front.length + gap.length) := by
    rw [← List.length_append]
    exact Source.locates_advance whole
  refine ⟨piece :: pieces, last, remaining, ?_, ?_, ?_, ?_, ?_⟩
  · rw [lexes.1, handed]
    rfl
  · rw [List.nil_append] at cut
    simp [piece, cut]
  · refine .cons separated written placed (fun next first isWord => ?_) tiling
    exact spaced (.inr (ends isWord)) next first
  · rw [lexes.2]
    simpa [piece, SpacedToken.text, Nat.add_assoc] using stops
  · rintro present next first isWord
    obtain rfl := Option.some.inj first
    rcases present with present | touching
    · exact present
    · exact absurd touching ((written.isWord isWord).not_endsWord rest)

theorem separator {separator rest : Text} (isSeparator : Separator separator)
    (present : separator ≠ []) (behind : Tiles source front (gap ++ separator) rest) :
    Tiles source front gap (separator ++ rest) := by
  obtain ⟨pieces, last, remaining, handed, cut, tiling, stops, spaced⟩ := behind
  have lexes := isSeparator.lexes source (Position.start.advance (front ++ gap)) rest
  rw [← Position.advance_append, List.append_assoc] at lexes
  refine ⟨pieces, last, remaining, lexes.1.trans handed, ?_, tiling, ?_, ?_⟩
  · rw [← cut, List.append_assoc]
  · rw [lexes.2]
    exact stops
  · exact fun _ => spaced (.inl (by simp [present]))

theorem trailer (separated : Separator gap) (trailer : Trailer text) :
    Tiles source front gap text := by
  have lexes := trailer.lexes source (Position.start.advance (front ++ gap))
  rw [Lexes, walk_nil] at lexes
  refine ⟨[], gap ++ text, [], by simpa using lexes.1, by simp, .nil source _, ?_, by simp⟩
  rw [lexes.2]
  exact ⟨rfl, separated.trailer trailer⟩

theorem failure {failure : Fatal} (separated : Separator gap)
    (stopped : (walk source .word ⟨text, Position.start.advance (front ++ gap)⟩).tokens = [] ∧
      (walk source .word ⟨text, Position.start.advance (front ++ gap)⟩).ending = .error failure)
    (fails : FailsAt source (front ++ gap).length text failure) : Tiles source front gap text := by
  refine ⟨[], gap, text, stopped.1, by simp, .nil source _, ?_, by simp⟩
  rw [stopped.2]
  exact ⟨separated, by simpa using fails⟩

end Tiles

/-! ### The whole text -/

theorem fails_word {word rest : Text} {failure : Fatal} (isWord : IsWord word)
    (ends : EndsWord rest) (numeric : NumberToken.looksNumeric word = true)
    (whole : source.text = front ++ (word ++ rest))
    (failed : NumberToken.read word (some ((Position.start.advance front).toRef source)) =
      .error failure) :
    let walked := walk source .word ⟨word ++ rest, Position.start.advance front⟩
    (walked.tokens = [] ∧ walked.ending = .error failure) ∧
      FailsAt source front.length (word ++ rest) failure := by
  have stopped : transition source .word ⟨word ++ rest, Position.start.advance front⟩ =
      .error failure := by
    simp [transition, wordTransition, takeWhile_word isWord.points ends, isWord.present, numeric,
      failed, Except.map]
  dsimp only
  rw [walk_of_error stopped]
  refine ⟨⟨rfl, rfl⟩, ?_⟩
  rcases NumberToken.read_fails failed with ⟨rfl, noLiteral⟩ |
    ⟨negative, digits, literal, tooLong, rfl⟩
  · exact ⟨Source.locates_advance whole,
      .inl ⟨word, rest, rfl, isWord, ends, numeric, noLiteral, rfl⟩⟩
  · exact ⟨word, rest, negative, digits, rfl, isWord, ends, literal, rfl, tooLong⟩

theorem fails_string {body : Text} (whole : source.text = front ++ Text.doubleQuote :: body)
    (open_ : stringBody? body = none) :
    let walked := walk source .word ⟨Text.doubleQuote :: body, Position.start.advance front⟩
    let failure : Fatal :=
      .issue ⟨.unterminatedString, some ((Position.start.advance front).toRef source)⟩
    (walked.tokens = [] ∧ walked.ending = .error failure) ∧
      FailsAt source front.length (Text.doubleQuote :: body) failure := by
  let position := Position.start.advance front
  have stopped : transition source .string ⟨Text.doubleQuote :: body, position⟩ =
      .error (.issue ⟨.unterminatedString, some (position.toRef source)⟩) := by
    simp [transition, stringTransition, open_]
  have entered : modeAfterWord (Text.doubleQuote :: body) = some .string := rfl
  dsimp only
  rw [walk_endsWord (endsWord_cons rfl body), entered]
  dsimp only
  rw [walk_of_error stopped]
  refine ⟨⟨rfl, rfl⟩, Source.locates_advance whole, .inr ⟨body, rfl, rfl, ?_⟩⟩
  rintro ⟨inside, value, behind, quotes, rfl⟩
  rw [quotes.stringBody] at open_
  cases open_

theorem tiles (separated : Separator gap) (whole : source.text = front ++ gap ++ text) :
    Tiles source front gap text := by
  -- The gap that was passed goes along, until a token or the end stands behind it.
  induction size : text.length using Nat.strongRecOn generalizing front gap text with
  | ind _ ih =>
      have token {lexeme : Lexeme} {word rest : Text} (written : Written lexeme word)
          (ends : lexeme.isWord = true → EndsWord rest) (same : text = word ++ rest) :
          Tiles source front gap text := by
        have shorter := List.length_pos_of_ne_nil written.present
        subst same
        refine .token separated written ends whole
          (ih rest.length ?_ .nil (by simpa using whole) rfl)
        rw [← size, List.length_append]
        omega
      cases begins text with
      | nothing => exact .trailer separated (.separator .nil)
      | lastComment oneLine => exact .trailer separated (.comment .nil oneLine)
      | opening => exact token .opening nofun rfl
      | closing => exact token .closing nofun rfl
      | @word word rest isWord ends =>
          cases numeric : NumberToken.looksNumeric word with
          | false => exact token (.identifier isWord numeric) (fun _ => ends) rfl
          | true =>
              cases read : NumberToken.read word
                  (some ((Position.start.advance (front ++ gap)).toRef source)) with
              | ok number =>
                  have reads := (NumberToken.read_lexeme read).2
                  exact token (.number isWord numeric reads) (fun _ => ends) rfl
              | error failure =>
                  obtain ⟨stopped, fails⟩ := fails_word isWord ends numeric whole read
                  exact .failure separated stopped fails
      | @string body =>
          cases read : stringBody? body with
          | none =>
              obtain ⟨stopped, fails⟩ := fails_string whole read
              exact .failure separated stopped fails
          | some found =>
              obtain ⟨raw, value, rest⟩ := found
              obtain ⟨inside, rfl, quotes⟩ := quotes_of_stringBody read
              have written : Text.doubleQuote :: body =
                  (Text.doubleQuote :: inside ++ [Text.doubleQuote]) ++ rest := by
                simp [stringBody_append read]
              exact token (.string quotes) nofun written
      | @separator separator rest isSeparator present =>
          have shorter := List.length_pos_of_ne_nil present
          refine .separator isSeparator present (ih rest.length ?_ (separated.append isSeparator)
            (by simpa using whole) rfl)
          rw [← size, List.length_append]
          omega

end Lexer

/-! ### Slices -/

namespace Lexer.Tiling

variable {source : Source} {offset : Nat} {pieces : List SpacedToken} {rest : Text}

theorem tail {piece : SpacedToken} (tiling : Tiling source offset (piece :: pieces)) :
    Tiling source (offset + piece.text.length) pieces := by
  refine ⟨tiling.toLaid.tail, fun before other behind same => ?_⟩
  have placed := tiling.placed (piece :: before) other behind (by rw [same, List.cons_append])
  simpa [SpacedToken.text, Nat.add_assoc] using placed

theorem slice {piece : SpacedToken} {before behind : List SpacedToken}
    (whole : source.text = spelled (before ++ piece :: behind) ++ rest) :
    (source.text.drop ((spelled before).length + piece.gap.length)).take piece.token.text.length =
      piece.token.text := by
  have cut : source.text =
      (spelled before ++ piece.gap) ++ (piece.token.text ++ (spelled behind ++ rest)) := by
    simp [whole]
  rw [cut, ← List.length_append, List.drop_left, List.take_left]

theorem slices (tiling : Tiling source 0 pieces) (whole : source.text = spelled pieces ++ rest) :
    ∀ token ∈ pieces.map SpacedToken.token, ∃ offset, source.Locates token.ref offset ∧
      (source.text.drop offset).take token.text.length = token.text := by
  intro token member
  obtain ⟨piece, belongs, rfl⟩ := List.mem_map.1 member
  obtain ⟨before, behind, rfl⟩ := List.append_of_mem belongs
  have placed := tiling.placed before piece behind rfl
  rw [Nat.zero_add] at placed
  exact ⟨_, placed, slice whole⟩

theorem increasing (tiling : Tiling source offset pieces) :
    (pieces.map SpacedToken.token).Pairwise fun first second => ∃ start later,
      source.Locates first.ref start ∧ source.Locates second.ref later ∧
        start + first.text.length ≤ later := by
  induction pieces generalizing offset with
  | nil => exact .nil
  | cons piece pieces ih =>
      refine List.pairwise_cons.2 ⟨fun token member => ?_, ih tiling.tail⟩
      obtain ⟨other, belongs, rfl⟩ := List.mem_map.1 member
      obtain ⟨before, behind, rfl⟩ := List.append_of_mem belongs
      refine ⟨_, _, tiling.placed [] piece _ rfl, tiling.tail.placed before other behind rfl, ?_⟩
      simp only [spelled_nil, List.length_nil, SpacedToken.text, List.length_append]
      omega

end Lexer.Tiling

namespace Precedence.TokenStream

variable {Tok Failure : Type}

/-- The next tokens of a stream. -/
def pullMany (stream : TokenStream Tok Failure) : Nat → Except Failure (List Tok)
  | 0 => .ok []
  | count + 1 => do
    let (token, later) ← stream.pull
    return token :: (← later.pullMany count)

theorem pullMany_succ {stream later : TokenStream Tok Failure} {token : Tok} {tokens : List Tok}
    {count : Nat} (pulled : stream.pull = .ok (token, later))
    (behind : later.pullMany count = .ok tokens) :
    stream.pullMany (count + 1) = .ok (token :: tokens) := by
  rw [pullMany, pulled]
  change (do return token :: (← later.pullMany count)) = _
  rw [behind]
  rfl

theorem pullMany_last (tokens : List Tok) (last : Tok) (count : Nat) :
    (⟨tokens, .ok last⟩ : TokenStream Tok Failure).pullMany (tokens.length + count) =
      .ok (tokens ++ List.replicate count last) := by
  induction tokens with
  | cons token tokens ih =>
      rw [List.length_cons, Nat.add_right_comm]
      exact pullMany_succ rfl ih
  | nil =>
      rw [List.length_nil, Nat.zero_add]
      induction count with
      | zero => rfl
      | succ count ih => exact pullMany_succ rfl ih

end Precedence.TokenStream

namespace Source

open Lexer

theorem tiles (source : Source) :
    ∃ pieces last rest, source.tokens = pieces.map SpacedToken.token ∧
      source.text = spelled pieces ++ last ++ rest ∧ Tiling source 0 pieces ∧
      Stops source (spelled pieces ++ last).length last rest source.ending := by
  have whole : Tiles source [] [] source.text := Lexer.tiles .nil rfl
  obtain ⟨pieces, last, rest, handed, cut, tiling, stops, -⟩ := whole
  rw [List.length_nil, Nat.zero_add] at stops
  exact ⟨pieces, last, rest, handed, cut, tiling, stops.map _⟩

/-- What the lexer fails at stands in the text behind the tokens. -/
theorem ending_fails {source : Source} {failure : Fatal} (ended : source.ending = .error failure) :
    ∃ front rest, source.text = front ++ rest ∧ FailsAt source front.length rest failure := by
  obtain ⟨pieces, last, rest, -, whole, -, stops⟩ := source.tiles
  rw [ended] at stops
  exact ⟨_, rest, whole, stops.2⟩

/-- The tokens of a source stand in its text, in order and apart, with nothing but separators around
them. Behind the last one is the end of the text or what the lexer fails at, and the end of input is
handed out there for ever. -/
theorem tokens_tile (source : Source) :
    ∃ pieces last rest,
      pieces.map SpacedToken.token = source.tokens ∧ source.text = spelled pieces ++ last ++ rest ∧
        Tiling source 0 pieces ∧
        (∀ token ∈ source.tokens, ∃ offset, source.Locates token.ref offset ∧
          (source.text.drop offset).take token.text.length = token.text) ∧
        (source.tokens.Pairwise fun first second => ∃ start later,
          source.Locates first.ref start ∧ source.Locates second.ref later ∧
            start + first.text.length ≤ later) ∧
        match source.ending with
        | .ok token =>
          rest = [] ∧ Trailer last ∧ token.kind = .endOfInput ∧ token.text = [] ∧
            source.Locates token.ref source.text.length ∧
            ∀ count, Precedence.TokenStream.pullMany ⟨source.tokens, source.ending⟩
              (source.tokens.length + count) = .ok (source.tokens ++ List.replicate count token)
        | .error failure =>
          Separator last ∧ FailsAt source (spelled pieces ++ last).length rest failure := by
  obtain ⟨pieces, last, rest, handed, cut, tiling, stops⟩ := source.tiles
  refine ⟨pieces, last, rest, handed.symm, cut, tiling, ?_, ?_, ?_⟩
  · rw [handed]
    exact tiling.slices (cut.trans (List.append_assoc _ _ _))
  · rw [handed]
    exact tiling.increasing
  · cases ended : source.ending with
    | error failure =>
        rw [ended] at stops
        exact stops
    | ok token =>
        rw [ended] at stops
        obtain ⟨nothing, trailer⟩ := stops
        have last := ending_eq ended
        refine ⟨nothing, trailer, ending_kind ended, by rw [last], ?_, ?_⟩
        · rw [ending_ref ended]
          exact locates_advance (List.append_nil _).symm
        · exact Precedence.TokenStream.pullMany_last source.tokens token

/-- Behind the tokens that it hands out, the lexer fails in a number with too many digits. -/
theorem ending_of_oversized {source : Source} {digits : Text} {tokens : List Token} (front : Text)
    (whole : source.text = front ++ digits) (allDigits : ∀ point ∈ digits, point.isDigit = true)
    (tooLong : NumberToken.mostDigits < digits.length)
    (lexes : Lexes source ⟨source.text, Position.start⟩ ⟨digits, Position.start.advance front⟩
      tokens) :
    source.tokens = tokens ∧ source.ending = .error (.oversizedNumber digits.length) := by
  have present : digits ≠ [] := List.ne_nil_of_length_pos (Nat.zero_lt_of_lt tooLong)
  have isWord : IsWord digits :=
    ⟨present, fun point member => (isWordPoint_of_number (.inl (allDigits point member))).1⟩
  have literal := (Decimal.wholeLiteral_of_digits present allDigits).1
  have numeric : NumberToken.looksNumeric digits = true := by
    obtain ⟨first, rest, rfl⟩ := List.exists_cons_of_ne_nil present
    exact (NumberToken.looksNumeric_of_digit (allDigits first (by simp)) rest).1
  have ends : EndsWord [] := by simp [EndsWord]
  have cut : source.text = front ++ (digits ++ []) := by rw [List.append_nil, whole]
  obtain ⟨none_, stopped⟩ :=
    (fails_word isWord ends numeric cut (NumberToken.read_oversized literal tooLong _)).1
  obtain ⟨handed, ended⟩ := lexes
  rw [List.append_nil] at none_ stopped
  rw [none_, List.append_nil] at handed
  rw [stopped] at ended
  exact ⟨handed, by simp [ending, walk, ended, Except.map]⟩

theorem ending_oversized (name : Text) {digits : Text}
    (allDigits : ∀ point ∈ digits, point.isDigit = true)
    (tooLong : NumberToken.mostDigits < digits.length) :
    (ofText name digits).ending = .error (.oversizedNumber digits.length) := by
  rw [ofText_of_kept name fun point member =>
    (isWordPoint_of_number (.inl (allDigits point member))).2]
  exact (ending_of_oversized [] rfl allDigits tooLong (.refl _ _)).2

/-- A number with too many digits has no place. -/
theorem ending_without_place : ¬ ∀ (source : Source) (failure : Fatal),
    source.ending = .error failure →
      ∃ issue offset, failure = .issue issue ∧ source.Locates issue.ref offset := by
  intro placed
  obtain ⟨allDigits, tooLong⟩ := NumberToken.ones_oversized
  obtain ⟨issue, offset, same, -⟩ := placed _ _ (ending_oversized "digits" allDigits tooLong)
  cases same

end Source

end Lisplet
