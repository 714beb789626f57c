import Lisplet.Proofs.BrokenOff
import Lisplet.Proofs.Layout
import Lisplet.Proofs.Likeness.Values

/-!
Two sources with a newline between them. The lexer starts afresh behind the newline, whatever stood
in front of it, so both are read as they are alone. Only places change: those of the second source
are as many lines further down as the first one has.
-/

namespace Lisplet

/-! ### Places further down -/

/-- The place in another source, so many lines further down. -/
def Ref.moved (source : Source) (lines : Nat) (ref : Ref) : Ref :=
  ⟨some source, ref.line + lines, ref.column⟩

namespace Position

def down (lines : Nat) (position : Position) : Position :=
  ⟨position.line + lines, position.column⟩

theorem advance_down (lines : Nat) (position : Position) (text : Text) :
    (position.down lines).advance text = (position.advance text).down lines := by
  induction text generalizing position with
  | nil => rfl
  | cons point text ih =>
      have next_down : (position.down lines).next point = (position.next point).down lines := by
        unfold next
        split
        · exact congrArg (Position.mk · 0) (Nat.add_right_comm position.line lines 1)
        · rfl
      rw [advance_cons, advance_cons, next_down, ih]

theorem line_eq_count (position : Position) (text : Text) :
    (position.advance text).line = position.line + text.count Source.newline := by
  induction text generalizing position with
  | nil => rfl
  | cons point text ih =>
      rw [advance_cons, ih, List.count_cons, next]
      by_cases breaks : point = Source.newline
      · simp only [breaks, if_true, beq_self_eq_true]
        omega
      · simp [breaks]

/-- Behind a newline a line starts. -/
theorem advance_newline (text : Text) :
    start.advance (text ++ [Source.newline]) = start.down (text.count Source.newline + 1) := by
  rw [advance_append]
  change (⟨(start.advance text).line + 1, 0⟩ : Position) = _
  rw [line_eq_count]
  exact congrArg (Position.mk · 0) (Nat.add_assoc 0 _ 1)

theorem toRef_down (source other : Source) (lines : Nat) (position : Position) :
    (position.down lines).toRef other = (position.toRef source).moved other lines := by
  simp [toRef, down, Ref.moved]

end Position

/-! ### Tokens and values in other places -/

def Token.mapRef (change : Option Ref → Option Ref) (token : Token) : Token :=
  { token with ref := change token.ref }

namespace Lexer

/-- What ends a source is a separator once its last line is ended. -/
theorem Trailer.ended {tail : Text} (trailer : Trailer tail) :
    Separator (tail ++ [Source.newline]) := by
  have lineEnd : Separator [Source.newline] := .blank rfl .nil
  cases trailer with
  | separator separator => exact separator.append lineEnd
  | comment separator oneLine =>
      rw [List.append_assoc]
      exact separator.append (.comment oneLine .nil)

theorem placed_down (source other : Source) (lines : Nat) (position : Position)
    (pieces : List SpacedToken) :
    placed other (position.down lines) pieces =
      (placed source position pieces).map (Token.mapRef (Option.map (Ref.moved other lines))) := by
  induction pieces generalizing position with
  | nil => rfl
  | cons piece pieces ih =>
      rw [placed, placed, List.map_cons, Position.advance_down, Position.advance_down, ih,
        Position.toRef_down source]
      rfl

end Lexer

namespace Reader

theorem atom_mapRef (change : Option Ref → Option Ref) {token : Token} {value : Value}
    (atom : atom? token = some value) :
    atom? (token.mapRef change) = some (value.mapRefs change) := by
  obtain ⟨lexeme, text, ref⟩ := token
  cases lexeme <;> cases atom <;> rfl

theorem Level.mapRefs (change : Option Ref → Option Ref)
    {inside tokens items rest strays unclosed}
    (level : Level inside tokens items rest strays unclosed) :
    Level inside (tokens.map (Token.mapRef change)) (Value.allMapRefs change items)
      (rest.map (Token.mapRef change)) (strays.map (Token.mapRef change)) unclosed := by
  induction level with
  | finish => exact .finish
  | close isClosing => exact .close isClosing
  | stray isClosing _ ih => exact .stray isClosing ih
  | atom atom _ ih => exact .atom (atom_mapRef change atom) ih
  | @list _ _ closing _ _ _ _ _ _ _ isOpening isClosing _ _ ihInner ihBehind =>
      have closes : (closing.mapRef change).kind = .closing := isClosing
      exact .list isOpening closes ihInner ihBehind
  | cutOff isOpening _ ih => exact .cutOff isOpening ih

/-- A level that is closed well is a spelling of its items. -/
theorem Level.spell {inside tokens items rest strays unclosed}
    (level : Level inside tokens items rest strays unclosed) (noStrays : strays = [])
    (closed : unclosed = 0) : ∃ consumed, tokens = consumed ++ rest ∧ Spell consumed items := by
  induction level with
  | finish | close _ => exact ⟨[], rfl, Spell.nil⟩
  | stray _ _ _ => cases noStrays
  | atom atom _ ih =>
      obtain ⟨consumed, rfl, spell⟩ := ih noStrays closed
      exact ⟨_ :: consumed, rfl, Spell.append (Spell.atom atom) spell⟩
  | list isOpening isClosing _ _ ihInner ihBehind =>
      obtain ⟨inner, rfl, spellInner⟩ := ihInner rfl rfl
      obtain ⟨consumed, rfl, spell⟩ := ihBehind noStrays closed
      refine ⟨_, ?_, Spell.append (Spell.list isOpening isClosing spellInner) spell⟩
      simp
  | cutOff _ _ _ => cases closed

end Reader

namespace Source

open Lexer Reader

/-- The tokens of a source are its pieces, as they are placed from the start on. -/
theorem laid_of_ending {source : Source} {last : Token} (ended : source.ending = .ok last) :
    ∃ pieces tail, source.text = spelled pieces ++ tail ∧ Laid pieces ∧ Trailer tail ∧
      source.tokens = placed source Position.start pieces := by
  obtain ⟨pieces, tail, rest, -, whole, tiling, stops⟩ := source.tiles
  rw [ended] at stops
  obtain ⟨rfl, trailer⟩ := stops
  rw [List.append_nil] at whole
  have laid := tiling.toLaid
  have lexes := (laid.lexes_placed trailer.endsWord source Position.start).trans
    (trailer.lexes source _)
  rw [← whole, List.append_nil] at lexes
  exact ⟨pieces, tail, whole, laid, trailer, (tokens_of_lexes lexes).1⟩

/-- The tokens of both sources, those of the second one further down. -/
theorem tokens_joined {first second whole : Source} {last final : Token}
    (firstEnded : first.ending = .ok last) (secondEnded : second.ending = .ok final)
    (joined : whole.text = first.text ++ newline :: second.text) :
    (∃ behind, whole.ending = .ok behind) ∧
      whole.tokens = first.tokens.map (Token.mapRef (Option.map (Ref.moved whole 0))) ++
        second.tokens.map (Token.mapRef
          (Option.map (Ref.moved whole (first.text.count newline + 1)))) := by
  obtain ⟨pieces, tail, text, laid, trailer, handed⟩ := laid_of_ending firstEnded
  obtain ⟨others, otherTail, otherText, otherLaid, otherTrailer, otherHanded⟩ :=
    laid_of_ending secondEnded
  have separator := trailer.ended
  have cut : whole.text = spelled pieces ++ (tail ++ [newline] ++ (spelled others ++ otherTail)) := by
    simp [joined, text, otherText]
  have ends := separator.endsWord (by simp) (spelled others ++ otherTail)
  have front := laid.lexes_placed ends whole Position.start
  have between := separator.lexes whole (Position.start.advance (spelled pieces))
    (spelled others ++ otherTail)
  have position : (Position.start.advance (spelled pieces)).advance (tail ++ [newline]) =
      Position.start.down (first.text.count newline + 1) := by
    rw [← Position.advance_append, ← List.append_assoc, ← text, Position.advance_newline]
  rw [position] at between
  have behind := otherLaid.lexes_placed otherTrailer.endsWord whole
    (Position.start.down (first.text.count newline + 1))
  have lexes := ((front.trans between).trans behind).trans (otherTrailer.lexes whole _)
  rw [← cut, List.append_nil, List.append_nil] at lexes
  obtain ⟨tokens, ended⟩ := tokens_of_lexes lexes
  refine ⟨⟨_, ended⟩, ?_⟩
  rw [tokens, handed, otherHanded, ← placed_down, ← placed_down]
  rfl

/-- Two sources that are read are read together as well, with a newline between them. The places of
the second one are as many lines further down as the first one has. -/
theorem readAll_joined {first second front behind : Text} {roots others : List Value}
    (firstRead : (ofText first front).readAll = .ok roots)
    (secondRead : (ofText second behind).readAll = .ok others) (name : Text) :
    let whole := ofText name (front ++ newline :: behind)
    let lines := (ofText first front).text.count newline + 1
    whole.readAll = .ok
      (Value.allMapRefs (Option.map (Ref.moved whole 0)) roots ++
        Value.allMapRefs (Option.map (Ref.moved whole lines)) others) := by
  intro whole lines
  obtain ⟨last, firstEnded⟩ := ending_of_readAll firstRead
  obtain ⟨final, secondEnded⟩ := ending_of_readAll secondRead
  have joined : whole.text = (ofText first front).text ++ newline :: (ofText second behind).text := by
    change kept (front ++ newline :: behind) = kept front ++ newline :: kept behind
    rw [kept_append, kept_cons_of_kept (by decide)]
  obtain ⟨⟨_, ended⟩, tokens⟩ := tokens_joined firstEnded secondEnded joined
  have firstLevel := (level_of_readAll firstEnded firstRead).mapRefs
    (Option.map (Ref.moved whole 0))
  have secondLevel := (level_of_readAll secondEnded secondRead).mapRefs
    (Option.map (Ref.moved whole lines))
  obtain ⟨consumed, same, spell⟩ := firstLevel.spell rfl rfl
  refine readAll_of_level ended ?_
  rw [tokens, same]
  simpa using spell secondLevel

/-- The first source ends in a comment. -/
theorem readAll_joined_commented :
    let first := ofText "first" "a ;b"
    let second := ofText "second" "\n c"
    let whole := ofText "whole" ("a ;b" ++ newline :: "\n c")
    first.readAll = .ok [.identifier ⟨"a", some ⟨first, 0, 0⟩⟩] ∧
      second.readAll = .ok [.identifier ⟨"c", some ⟨second, 1, 1⟩⟩] ∧
        whole.readAll = .ok
          [.identifier ⟨"a", some ⟨whole, 0, 0⟩⟩, .identifier ⟨"c", some ⟨whole, 2, 1⟩⟩] := by
  intro first second whole
  have firstRead : first.readAll = .ok [.identifier ⟨"a", some ⟨first, 0, 0⟩⟩] := by
    have word : Lexes first ⟨("a" : Text) ++ " ;b", Position.start⟩ ⟨" ;b", ⟨0, 1⟩⟩
        [⟨.identifier "a", "a", some ⟨first, 0, 0⟩⟩] :=
      lexes_word (by decide) (by decide) (by decide) (endsWord_cons rfl _)
    have comment : Trailer ([CodePoint.ofChar ' '] ++ semicolon :: "b") :=
      .comment (.blank rfl .nil) (by decide)
    obtain ⟨tokens, ended⟩ := tokens_of_lexes (word.trans (comment.lexes first _))
    exact readAll_of_level ended (tokens ▸ .atom rfl .finish)
  have secondRead : second.readAll = .ok [.identifier ⟨"c", some ⟨second, 1, 1⟩⟩] := by
    have blanks : Separator [newline, CodePoint.ofChar ' '] := .blank rfl (.blank rfl .nil)
    have word : Lexes second ⟨("c" : Text) ++ [], ⟨1, 1⟩⟩ ⟨[], ⟨1, 2⟩⟩
        [⟨.identifier "c", "c", some ⟨second, 1, 1⟩⟩] :=
      lexes_word (by decide) (by decide) (by decide) (by simp [EndsWord])
    obtain ⟨tokens, ended⟩ :=
      tokens_of_lexes ((blanks.lexes second Position.start "c").trans word)
    exact readAll_of_level ended (tokens ▸ .atom rfl .finish)
  exact ⟨firstRead, secondRead, readAll_joined firstRead secondRead "whole"⟩

end Source

end Lisplet
