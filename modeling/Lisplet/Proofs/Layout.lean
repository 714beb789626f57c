import Lisplet.Proofs.Printing
import Lisplet.Proofs.Recovery
import Lisplet.Proofs.Tiling

/-!
The layout of a program does not matter. The texts of its tokens, with any separators between them
that keep words apart, are the same program again.
-/

namespace Lisplet

/-! ### What a source keeps -/

theorem Source.isKept_of_blank {point : CodePoint} (blank : point.isBlank = true) :
    isKept point = true := by
  have notReplacement : point ≠ CodePoint.replacement := by
    rintro rfl
    exact absurd blank (by decide)
  have notSurrogate : point.isSurrogate = false := by
    simp [CodePoint.isBlank, CodePoint.isWithin, CodePoint.blankRanges] at blank
    simp [CodePoint.isSurrogate]
    omega
  simp [isKept, notReplacement, notSurrogate]

/-- What a token says, wherever it stands. -/
def Token.content (token : Token) : Lexeme × Text :=
  (token.lexeme, token.text)

namespace Lexer

def kept (text : Text) : Text :=
  text.filter Source.isKept

@[simp] theorem kept_append (first second : Text) :
    kept (first ++ second) = kept first ++ kept second :=
  List.filter_append first second

theorem kept_cons_of_kept {point : CodePoint} (isKept : Source.isKept point = true) (text : Text) :
    kept (point :: text) = point :: kept text := by
  simp [kept, isKept]

theorem newline_not_mem_kept {body : Text} (oneLine : Source.newline ∉ body) :
    Source.newline ∉ kept body :=
  fun member => oneLine (List.mem_of_mem_filter member)

theorem Separator.kept {text : Text} (separator : Separator text) : Separator (kept text) := by
  induction separator with
  | nil => exact .nil
  | blank isBlank _ ih =>
      rw [kept_cons_of_kept (Source.isKept_of_blank isBlank)]
      exact .blank isBlank ih
  | comment oneLine _ ih =>
      rw [List.cons_append, kept_cons_of_kept (by decide), kept_append,
        kept_cons_of_kept (by decide)]
      exact .comment (newline_not_mem_kept oneLine) ih

theorem Separator.kept_ne_nil {text : Text} (separator : Separator text) (present : text ≠ []) :
    Lexer.kept text ≠ [] := by
  cases separator with
  | nil => exact absurd rfl present
  | blank isBlank _ =>
      rw [kept_cons_of_kept (Source.isKept_of_blank isBlank)]
      exact List.cons_ne_nil _ _
  | comment _ _ =>
      rw [List.cons_append, kept_cons_of_kept (by decide)]
      exact List.cons_ne_nil _ _

theorem Trailer.kept {text : Text} (trailer : Trailer text) : Trailer (kept text) := by
  cases trailer with
  | separator separator => exact .separator separator.kept
  | comment separator oneLine =>
      rw [kept_append, kept_cons_of_kept (by decide)]
      exact .comment separator.kept (newline_not_mem_kept oneLine)

theorem Written.comparable {lexeme : Lexeme} {text : Text} (written : Written lexeme text)
    {number : Float} (isFloat : lexeme = .float number) : (number == number) = true := by
  cases written with
  | opening | closing | identifier _ _ | string _ => cases isFloat
  | number _ _ reads => exact NumberToken.read_float_beq_self (reads none) isFloat

theorem Trailer.endsWord {text : Text} (trailer : Trailer text) : EndsWord text := by
  have ends {separator : Text} (isSeparator : Separator separator) (rest : Text)
      (behind : EndsWord rest) : EndsWord (separator ++ rest) := by
    by_cases present : separator = []
    · rwa [present, List.nil_append]
    · exact isSeparator.endsWord present rest
  cases trailer with
  | separator separator => simpa using ends separator [] (by simp [EndsWord])
  | comment separator _ => exact ends separator _ (endsWord_cons rfl _)

/-! ### Pieces in a new layout -/

def SpacedToken.keep (piece : SpacedToken) : SpacedToken :=
  { piece with gap := kept piece.gap }

theorem Laid.keep {pieces : List SpacedToken} (laid : Laid pieces) :
    Laid (pieces.map SpacedToken.keep) := by
  induction pieces with
  | nil => exact .nil
  | cons piece pieces ih =>
      have separated := (laid.separated piece List.mem_cons_self).kept
      refine .cons separated (laid.written piece List.mem_cons_self) ?_ (ih laid.tail)
      intro next first isWord nextIsWord
      cases pieces with
      | nil => cases first
      | cons other pieces =>
          obtain rfl := Option.some.inj first
          have gap : other.gap ≠ [] := (List.isChain_cons_cons.1 laid.apart).1 isWord nextIsWord
          exact (laid.separated other (by simp)).kept_ne_nil gap

theorem kept_spelled {pieces : List SpacedToken}
    (tokens : ∀ piece ∈ pieces, kept piece.token.text = piece.token.text) :
    kept (spelled pieces) = spelled (pieces.map SpacedToken.keep) := by
  induction pieces with
  | nil => rfl
  | cons piece pieces ih =>
      rw [spelled_cons, kept_append, kept_append, tokens piece List.mem_cons_self,
        ih fun other member => tokens other (List.mem_cons_of_mem _ member), List.map_cons,
        spelled_cons]
      rfl

theorem Laid.endsWord {piece : SpacedToken} {pieces : List SpacedToken} {rest : Text}
    (laid : Laid (piece :: pieces)) (ends : EndsWord rest)
    (isWord : piece.token.lexeme.isWord = true) : EndsWord (spelled pieces ++ rest) := by
  cases pieces with
  | nil => exact ends
  | cons next pieces =>
      rw [spelled_cons, List.append_assoc, List.append_assoc]
      by_cases gap : next.gap = []
      · have noWord : next.token.lexeme.isWord = false := by
          by_contra nextIsWord
          exact (List.isChain_cons_cons.1 laid.apart).1 isWord (Bool.of_not_eq_false nextIsWord) gap
        rw [gap]
        exact (laid.written next (by simp)).endsWord noWord _
      · exact (laid.separated next (by simp)).endsWord gap _

/-- The tokens of the pieces with the places that they have from a position on. -/
def placed (source : Source) (position : Position) : List SpacedToken → List Token
  | [] => []
  | piece :: pieces =>
    ⟨piece.token.lexeme, piece.token.text,
      some ((position.advance piece.gap).toRef source)⟩ ::
        placed source (position.advance piece.text) pieces

theorem placed_content (source : Source) (position : Position) (pieces : List SpacedToken) :
    (placed source position pieces).map Token.content =
      pieces.map fun piece => piece.token.content := by
  induction pieces generalizing position with
  | nil => rfl
  | cons piece pieces ih => simp [placed, Token.content, ih]

theorem Laid.lexes_placed {pieces : List SpacedToken} (laid : Laid pieces) {rest : Text}
    (ends : EndsWord rest) (source : Source) (position : Position) :
    Lexes source ⟨spelled pieces ++ rest, position⟩ ⟨rest, position.advance (spelled pieces)⟩
      (placed source position pieces) := by
  induction pieces generalizing position with
  | nil => exact .refl source _
  | cons piece pieces ih =>
      have passed := (laid.separated piece List.mem_cons_self).lexes source position
        (piece.token.text ++ (spelled pieces ++ rest))
      have handed := (laid.written piece List.mem_cons_self).lexes source
        (position.advance piece.gap) (laid.endsWord ends)
      have behind := ih laid.tail ((position.advance piece.gap).advance piece.token.text)
      have whole := (passed.trans handed).trans behind
      simpa [placed, SpacedToken.text, Position.advance_append] using whole

/-- Pieces are handed out as they are laid, wherever that is. -/
theorem Laid.lexes {pieces : List SpacedToken} (laid : Laid pieces) {tail : Text}
    (trailer : Trailer tail) (source : Source) (position : Position) :
    ∃ tokens last, Lexes source ⟨spelled pieces ++ tail, position⟩ ⟨[], last⟩ tokens ∧
      tokens.map Token.content = pieces.map fun piece => piece.token.content := by
  have handed := laid.lexes_placed trailer.endsWord source position
  have whole := handed.trans (trailer.lexes source (position.advance (spelled pieces)))
  rw [List.append_nil] at whole
  exact ⟨_, _, whole, placed_content source position pieces⟩

end Lexer

/-! ### What is read -/

/-- The tokens say the same. A number that they stand for is equal to itself. -/
structure Token.Alike (token other : Token) : Prop where
  lexeme : other.lexeme = token.lexeme
  comparable : ∀ number, token.lexeme = .float number → (number == number) = true

theorem Token.Alike.kind {token other : Token} (alike : Token.Alike token other) :
    other.kind = token.kind := by
  rw [Token.kind, alike.lexeme, Token.kind]

/-- The values are equal, and the same up to their places. -/
structure Value.SameReading (others values : List Value) : Prop where
  withoutRefs : Value.allWithoutRefs others = Value.allWithoutRefs values
  equal : Value.allEqual others values = true

namespace Value.SameReading

variable {other value : Value} {others values : List Value}

theorem nil : SameReading [] [] :=
  ⟨rfl, by rw [allEqual]⟩

theorem cons (withoutRefs : other.withoutRefs = value.withoutRefs)
    (equal : other.equals value = true) (rest : SameReading others values) :
    SameReading (other :: others) (value :: values) :=
  ⟨by rw [allWithoutRefs, allWithoutRefs, withoutRefs, rest.withoutRefs],
    by rw [allEqual, equal, rest.equal, Bool.and_true]⟩

theorem list (inner : SameReading others values) (otherRef ref : Option Ref) :
    (Value.list others otherRef).withoutRefs = (Value.list values ref).withoutRefs ∧
      (Value.list others otherRef).equals (.list values ref) = true :=
  ⟨by rw [Value.withoutRefs, Value.withoutRefs, inner.withoutRefs], by rw [equals, inner.equal]⟩

end Value.SameReading

namespace Reader

theorem atom_alike {token other : Token} {value : Value} (atom : atom? token = some value)
    (alike : Token.Alike token other) :
    ∃ read, atom? other = some read ∧ read.withoutRefs = value.withoutRefs ∧
      read.equals value = true := by
  obtain ⟨lexeme, text, ref⟩ := token
  obtain ⟨otherLexeme, otherText, otherRef⟩ := other
  obtain rfl : otherLexeme = lexeme := alike.lexeme
  cases otherLexeme with
  | endOfInput | opening | closing => cases atom
  | identifier _ | integer _ | string _ =>
      cases atom
      exact ⟨_, rfl, rfl, by simp [Value.equals]⟩
  | float number =>
      cases atom
      exact ⟨_, rfl, rfl, by rw [Value.equals]; exact alike.comparable number rfl⟩

/-- Tokens that say the same are read alike. -/
theorem Level.alike {inside tokens items rest strays unclosed}
    (level : Level inside tokens items rest strays unclosed) {others : List Token}
    (alike : List.Forall₂ Token.Alike tokens others) :
    ∃ read otherRest otherStrays, Level inside others read otherRest otherStrays unclosed ∧
      List.Forall₂ Token.Alike rest otherRest ∧ otherStrays.length = strays.length ∧
      Value.SameReading read items := by
  induction level generalizing others with
  | finish =>
      cases alike
      exact ⟨_, _, _, .finish, .nil, rfl, .nil⟩
  | close isClosing =>
      cases alike with
      | cons first behind =>
          exact ⟨_, _, _, .close (first.kind.trans isClosing), .cons first behind, rfl, .nil⟩
  | stray isClosing _ ih =>
      cases alike with
      | cons first behind =>
          obtain ⟨_, _, _, level, rest, strays, same⟩ := ih behind
          exact ⟨_, _, _, .stray (first.kind.trans isClosing) level, rest, by simp [strays], same⟩
  | atom atom _ ih =>
      cases alike with
      | cons first behind =>
          obtain ⟨read, otherAtom, withoutRefs, equal⟩ := atom_alike atom first
          obtain ⟨_, _, _, level, rest, strays, same⟩ := ih behind
          exact ⟨_, _, _, .atom otherAtom level, rest, strays, same.cons withoutRefs equal⟩
  | list isOpening isClosing _ _ ihInner ihBehind =>
      cases alike with
      | cons first inside =>
          obtain ⟨_, _, _, inner, closes, noStrays, sameInner⟩ := ihInner inside
          obtain rfl := List.eq_nil_of_length_eq_zero noStrays
          cases closes with
          | cons closing behind =>
              obtain ⟨_, _, _, level, rest, strays, same⟩ := ihBehind behind
              obtain ⟨withoutRefs, equal⟩ := sameInner.list _ _
              have list := Level.list (first.kind.trans isOpening) (closing.kind.trans isClosing)
                inner level
              exact ⟨_, _, _, list, rest, strays, same.cons withoutRefs equal⟩
  | cutOff isOpening _ ih =>
      cases alike with
      | cons first inside =>
          obtain ⟨_, _, _, inner, closes, noStrays, sameInner⟩ := ih inside
          obtain rfl := List.eq_nil_of_length_eq_zero noStrays
          cases closes
          obtain ⟨withoutRefs, equal⟩ := sameInner.list _ _
          exact ⟨_, _, _, .cutOff (first.kind.trans isOpening) inner, .nil, rfl,
            .cons withoutRefs equal .nil⟩

theorem levelIssues_kinds (last : Token) (strays : List Token) (unclosed : Nat) :
    (levelIssues last strays unclosed).map Issue.kind =
      List.replicate strays.length .invalidLedToken ++
        List.replicate unclosed .missingClosingParenthesis := by
  simp only [levelIssues, List.map_append, List.map_map, List.map_replicate]
  congr 1
  exact List.map_const'

/-- What is reported follows from how many strays and open lists there are. -/
theorem sourceIssues_alike {tokens others strays otherStrays : List Token}
    (starts : startsWithClosing others = startsWithClosing tokens)
    (length : otherStrays.length = strays.length) (last other : Token) (unclosed : Nat) :
    (sourceIssues others other unclosed otherStrays).map Issue.kind =
      (sourceIssues tokens last unclosed strays).map Issue.kind := by
  cases strays with
  | nil =>
      obtain rfl := List.eq_nil_of_length_eq_zero length
      simp [sourceIssues, levelIssues_kinds]
  | cons first strays =>
      obtain ⟨otherFirst, otherStrays, rfl⟩ :=
        List.exists_cons_of_length_eq_add_one length
      rw [sourceIssues, sourceIssues, starts]
      split
      · have behind : otherStrays.length = strays.length := by simpa using length
        simp only [List.map_cons, levelIssues_kinds, behind]
        rfl
      · rw [levelIssues_kinds, levelIssues_kinds, length]

theorem startsWithClosing_alike {tokens others : List Token}
    (alike : List.Forall₂ Token.Alike tokens others) :
    startsWithClosing others = startsWithClosing tokens := by
  cases alike with
  | nil => rfl
  | cons first _ => simp [startsWithClosing, first.kind]

end Reader

namespace Source

open Lexer Reader

/-- The other source is read into equal values, or refused for the same kinds of issues. -/
def ReadsAlike (source other : Source) : Prop :=
  match source.readAll with
  | .ok roots => ∃ others, other.readAll = .ok others ∧ Value.SameReading others roots
  | .error (.issues issues) => ∃ others, other.readAll = .error (.issues others) ∧
      others.map Issue.kind = issues.map Issue.kind
  | .error (.oversizedNumber _) => False

theorem readsAlike_of_tokens {source other : Source} {last otherLast : Token}
    (ended : source.ending = .ok last) (otherEnded : other.ending = .ok otherLast)
    (alike : List.Forall₂ Token.Alike source.tokens other.tokens) : source.ReadsAlike other := by
  obtain ⟨roots, strays, unclosed, level, reading⟩ := readAll_of_ending ended
  obtain ⟨others, otherStrays, otherUnclosed, otherLevel, otherReading⟩ :=
    readAll_of_ending otherEnded
  obtain ⟨_, _, _, moved, _, length, same⟩ := level.alike alike
  obtain ⟨rfl, rfl, rfl, rfl⟩ := moved.unique otherLevel
  have clean : otherStrays = [] ∧ otherUnclosed = 0 ↔ strays = [] ∧ otherUnclosed = 0 := by
    rw [← List.length_eq_zero_iff, ← List.length_eq_zero_iff, length]
  by_cases noIssue : strays = [] ∧ otherUnclosed = 0
  · rw [if_pos noIssue] at reading
    rw [if_pos (clean.2 noIssue)] at otherReading
    rw [ReadsAlike, reading]
    exact ⟨others, otherReading, same⟩
  · rw [if_neg noIssue] at reading
    rw [if_neg (mt clean.1 noIssue)] at otherReading
    rw [ReadsAlike, reading]
    exact ⟨_, otherReading,
      sourceIssues_alike (startsWithClosing_alike alike) length last otherLast _⟩

theorem alike_of_content {tokens others : List Token}
    (same : others.map Token.content = tokens.map Token.content)
    (written : ∀ token ∈ tokens, Written token.lexeme token.text) :
    List.Forall₂ Token.Alike tokens others := by
  induction tokens generalizing others with
  | nil =>
      obtain rfl := List.map_eq_nil_iff.1 same
      exact .nil
  | cons token tokens ih =>
      obtain ⟨other, others, rfl, first, behind⟩ := List.map_eq_cons_iff.1 same
      refine .cons ⟨congrArg Prod.fst first, fun number isFloat => ?_⟩
        (ih behind fun later member => written later (List.mem_cons_of_mem _ member))
      exact (written token List.mem_cons_self).comparable isFloat

theorem mem_spelled {pieces : List SpacedToken} {piece : SpacedToken} (member : piece ∈ pieces)
    {point : CodePoint} (inside : point ∈ piece.token.text) : point ∈ spelled pieces :=
  List.mem_flatMap.2 ⟨piece, member, List.mem_append_right _ inside⟩

theorem tokens_written (source : Source) :
    ∀ token ∈ source.tokens, Written token.lexeme token.text := by
  obtain ⟨pieces, -, -, handed, -, tiling, -⟩ := source.tiles
  rw [handed]
  exact List.forall_mem_map.2 tiling.written

theorem tokens_kept (name text : Text) :
    ∀ token ∈ (ofText name text).tokens, kept token.text = token.text := by
  obtain ⟨pieces, last, rest, handed, whole, -⟩ := (ofText name text).tiles
  rw [handed]
  refine List.forall_mem_map.2 fun piece member => List.filter_eq_self.2 fun point inside => ?_
  have belongs : point ∈ (ofText name text).text := by
    rw [whole, List.append_assoc]
    exact List.mem_append_left _ (mem_spelled member inside)
  exact (List.mem_filter.1 belongs).2

/-- The tokens of a source, laid out anew with any separators that keep words apart, are the tokens
of the new text, and what is read from it is the same. -/
theorem reading_relaid {name text : Text} {last : Token}
    (ended : (ofText name text).ending = .ok last) {pieces : List SpacedToken}
    (tokens : pieces.map SpacedToken.token = (ofText name text).tokens)
    (separated : ∀ piece ∈ pieces, Separator piece.gap) (apart : pieces.IsChain SpacedToken.Apart)
    {tail : Text} (trailer : Trailer tail) (other : Text) :
    let relaid := ofText other (spelled pieces ++ tail)
    (∃ behind, relaid.ending = .ok behind) ∧
      relaid.tokens.map Token.content = (ofText name text).tokens.map Token.content ∧
      (ofText name text).ReadsAlike relaid := by
  intro relaid
  have written := (ofText name text).tokens_written
  have keptTokens := tokens_kept name text
  have laid : Laid pieces := by
    refine ⟨separated, apart, fun piece member => written piece.token ?_⟩
    rw [← tokens]
    exact List.mem_map_of_mem member
  -- Comments may hold what no source keeps; the separators without it are separators still.
  have shown : relaid.text = spelled (pieces.map SpacedToken.keep) ++ kept tail := by
    rw [← tokens] at keptTokens
    rw [← kept_spelled (List.forall_mem_map.1 keptTokens), ← kept_append]
    rfl
  obtain ⟨others, behind, lexes, same⟩ := laid.keep.lexes trailer.kept relaid Position.start
  rw [← shown] at lexes
  obtain ⟨handed, otherEnded⟩ := tokens_of_lexes lexes
  have content : relaid.tokens.map Token.content =
      (ofText name text).tokens.map Token.content := by
    rw [handed, same, ← tokens, List.map_map, List.map_map]
    rfl
  exact ⟨⟨_, otherEnded⟩, content,
    readsAlike_of_tokens ended otherEnded (alike_of_content content written)⟩

theorem reading_relaid_commented :
    let source := ofText "short" "(a)"
    let token (lexeme : Lexeme) (text : Text) (column : Int) : Token :=
      ⟨lexeme, text, some ⟨source, 0, column⟩⟩
    let pieces : List SpacedToken :=
      [⟨" ", token .opening "(" 0⟩, ⟨";)\n", token (.identifier "a") "a" 1⟩,
        ⟨"\n", token .closing ")" 2⟩]
    let relaid := ofText "long" (spelled pieces ++ ";(")
    relaid.text = " (;)\na\n);(" ∧ (∃ behind, relaid.ending = .ok behind) ∧
      relaid.tokens.map Token.content = source.tokens.map Token.content ∧
      source.ReadsAlike relaid := by
  intro source token pieces relaid
  have word : Lexes source ⟨("a" : Text) ++ ")", ⟨0, 1⟩⟩ ⟨")", ⟨0, 2⟩⟩
      [⟨.identifier "a", "a", some ⟨source, 0, 1⟩⟩] :=
    lexes_word (by decide) (by decide) (by decide) (endsWord_cons rfl [])
  have lexes := ((lexes_opening source Position.start "a)").trans word).trans
    (lexes_closing source ⟨0, 2⟩ [])
  obtain ⟨tokens, ended⟩ := tokens_of_lexes lexes
  have handed : pieces.map SpacedToken.token = source.tokens := tokens.symm
  have comment : Separator (semicolon :: ")" ++ Source.newline :: []) := .comment (by decide) .nil
  have open_ : Trailer ([] ++ semicolon :: "(") := .comment .nil (by decide)
  have separated : ∀ piece ∈ pieces, Separator piece.gap := by
    intro piece member
    simp only [pieces, List.mem_cons, List.not_mem_nil, or_false] at member
    rcases member with rfl | rfl | rfl
    · exact .blank rfl .nil
    · exact comment
    · exact .blank rfl .nil
  have apart : pieces.IsChain SpacedToken.Apart := by
    simp [pieces, SpacedToken.Apart, token, Lexeme.isWord]
  exact ⟨by decide, reading_relaid ended handed separated apart open_ "long"⟩

end Source

end Lisplet
