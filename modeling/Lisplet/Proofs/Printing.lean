import Lisplet.Proofs.FloatText
import Lisplet.Proofs.Lexing
import Lisplet.Proofs.Parsing
import Lisplet.Value.Equality
import Lisplet.Value.Printer

/-!
Printed data is source text that reads back as the same data. What is read from a printed value
depends only on what may follow it: the text goes on as no word does.
-/

namespace Lisplet

mutual

/-- Data as if it came from no source. -/
def Value.withoutRefs : Value → Value
  | .list items _ => .list (Value.allWithoutRefs items) none
  | value => value.withRef none

def Value.allWithoutRefs : List Value → List Value
  | [] => []
  | value :: rest => value.withoutRefs :: Value.allWithoutRefs rest

end

theorem Value.allWithoutRefs_append (first second : List Value) :
    Value.allWithoutRefs (first ++ second) =
      Value.allWithoutRefs first ++ Value.allWithoutRefs second := by
  induction first with
  | nil => rfl
  | cons value rest ih => simp [Value.allWithoutRefs, ih]

/-- Data that programs are made of. -/
inductive Printable : Value → Prop
  | identifier {name : Identifier} : name.name ≠ [] →
      (∀ point ∈ name.name, Lexer.isWordPoint point = true ∧ Source.isKept point = true) →
      NumberToken.looksNumeric name.name = false → Printable (.identifier name)
  | integer {number ref} : Printable (.integer number ref)
  | float {number ref} : Binary64.isFinite number = true → Printable (.float number ref)
  | string {text : Text} {ref} : (∀ point ∈ text, Source.isKept point = true) →
      Printable (.string text ref)
  | list {items ref} : (∀ item ∈ items, Printable item) → Printable (.list items ref)

namespace Reader

/-- The tokens are read into the values, whatever stands behind them. -/
def Spell (tokens : List Token) (values : List Value) : Prop :=
  ∀ {inside behind items rest}, Level inside behind items rest [] 0 →
    Level inside (tokens ++ behind) (values ++ items) rest [] 0

theorem Spell.nil : Spell [] [] :=
  fun level => level

theorem Spell.append {first second : List Token} {values others : List Value}
    (before : Spell first values) (behind : Spell second others) :
    Spell (first ++ second) (values ++ others) := by
  intro inside rest items last level
  rw [List.append_assoc, List.append_assoc]
  exact before (behind level)

theorem Spell.atom {token : Token} {value : Value} (atom : atom? token = some value) :
    Spell [token] [value] :=
  fun level => .atom atom level

theorem Spell.list {opening closing : Token} {tokens : List Token} {values : List Value}
    (isOpening : opening.kind = .opening) (isClosing : closing.kind = .closing)
    (spell : Spell tokens values) :
    Spell (opening :: tokens ++ [closing]) [.list values opening.ref] := by
  intro inside behind items rest level
  have closes : Level true (closing :: behind) [] (closing :: behind) [] 0 := .close isClosing
  have inner := spell closes
  simp only [List.append_nil] at inner
  simpa using Level.list isOpening isClosing inner level

end Reader

namespace Printing

open Lexer Reader

/-- Wherever the text stands, unless a word goes on behind it, it is read as the values. -/
def ReadsAs (text : Text) (values : List Value) : Prop :=
  ∀ source position rest, EndsWord rest → ∃ tokens read,
    Lexes source ⟨text ++ rest, position⟩ ⟨rest, position.advance text⟩ tokens ∧
      Spell tokens read ∧ Value.allWithoutRefs read = Value.allWithoutRefs values

theorem readsAs_nil : ReadsAs [] [] :=
  fun source _ _ _ => ⟨[], [], Lexes.refl source _, Spell.nil, rfl⟩

theorem ReadsAs.spaced {first second : Text} {values others : List Value}
    (before : ReadsAs first values) (behind : ReadsAs second others) :
    ReadsAs (first ++ " " ++ second) (values ++ others) := by
  intro source position rest ends
  let blank := CodePoint.ofChar ' '
  obtain ⟨tokens, read, lexes, spell, same⟩ := before source position (blank :: second ++ rest)
    (endsWord_cons rfl _)
  obtain ⟨tokens', read', lexes', spell', same'⟩ := behind source
    ((position.advance first).next blank) rest ends
  have skipped := lexes_blank source (position.advance first) (show blank.isBlank = true by rfl)
    (second ++ rest)
  refine ⟨tokens ++ tokens', read ++ read', ?_, spell.append spell', ?_⟩
  · have whole := (lexes.trans skipped).trans lexes'
    simpa [Text.ofString, Position.advance_append, blank] using whole
  · rw [Value.allWithoutRefs_append, Value.allWithoutRefs_append, same, same']

theorem ReadsAs.parenthesized {text : Text} {values : List Value} (inner : ReadsAs text values)
    (ref : Option Ref) : ReadsAs ("(" ++ text ++ ")") [.list values ref] := by
  intro source position rest ends
  let inside := position.next openParenthesis
  let first : Token := ⟨.opening, [openParenthesis], some (position.toRef source)⟩
  let last : Token := ⟨.closing, [closeParenthesis], some ((inside.advance text).toRef source)⟩
  obtain ⟨tokens, read, lexes, spell, same⟩ :=
    inner source inside (closeParenthesis :: rest) (endsWord_cons rfl _)
  have opening := lexes_opening source position (text ++ closeParenthesis :: rest)
  have closing := lexes_closing source (inside.advance text) rest
  refine ⟨first :: tokens ++ [last], [.list read first.ref], ?_, Spell.list rfl rfl spell, ?_⟩
  · have whole := (opening.trans lexes).trans closing
    simpa [Text.ofString, Position.advance_append, openParenthesis, closeParenthesis, inside,
      first, last] using whole
  · simp [Value.allWithoutRefs, Value.withoutRefs, same]

theorem readsAs_atom {text : Text} {value : Value}
    (lexes : ∀ source position rest, EndsWord rest → ∃ token,
      Lexes source ⟨text ++ rest, position⟩ ⟨rest, position.advance text⟩ [token] ∧
        ∃ read, atom? token = some read ∧ read.withoutRefs = value.withoutRefs) :
    ReadsAs text [value] := by
  intro source position rest ends
  obtain ⟨token, lexed, read, atom, same⟩ := lexes source position rest ends
  exact ⟨[token], [read], lexed, Spell.atom atom, by simp [Value.allWithoutRefs, same]⟩

theorem readsAs_word {name : Identifier} (present : name.name ≠ [])
    (isWord : ∀ point ∈ name.name, isWordPoint point = true)
    (notNumeric : NumberToken.looksNumeric name.name = false) :
    ReadsAs name.name [.identifier name] := by
  apply readsAs_atom
  intro source position rest ends
  exact ⟨_, lexes_word present isWord notNumeric ends, _, rfl, rfl⟩

theorem readsAs_number {word : Text} {value : Value}
    (isWord : ∀ point ∈ word, isWordPoint point = true)
    (numeric : NumberToken.looksNumeric word = true)
    (reads : ∀ ref, ∃ token, NumberToken.read word ref = .ok token ∧
      ∃ read, atom? token = some read ∧ read.withoutRefs = value.withoutRefs) :
    ReadsAs word [value] := by
  apply readsAs_atom
  intro source position rest ends
  obtain ⟨token, read, atom⟩ := reads (some (position.toRef source))
  exact ⟨token, lexes_number isWord numeric read ends, atom⟩

theorem readsAs_integer (number : Int64) (ref : Option Ref) :
    ReadsAs (Text.ofInt number.toInt) [.integer number ref] := by
  apply readsAs_number
  · intro point member
    exact (isWordPoint_of_number (Decimal.isPart_of_mem_ofInt member)).1
  · exact NumberToken.looksNumeric_ofInt _
  · intro ref
    exact ⟨_, NumberToken.read_ofInt number ref, _, rfl, rfl⟩

theorem readsAs_float {number : Float} (finite : Binary64.isFinite number = true)
    (ref : Option Ref) : ReadsAs (Decimal.floatText number) [.float number ref] := by
  obtain ⟨numeric, parts, -⟩ := NumberToken.read_floatText finite none
  apply readsAs_number
  · intro point member
    exact (isWordPoint_of_number (parts point member)).1
  · exact numeric
  · intro ref
    exact ⟨_, (NumberToken.read_floatText finite ref).2.2, _, rfl, rfl⟩

def escaped (text : Text) : Text :=
  text.flatMap fun point =>
    if point = Text.backslash ∨ point = Text.doubleQuote then [Text.backslash, point] else [point]

theorem stringBody_escaped (text rest : Text) :
    stringBody? (escaped text ++ Text.doubleQuote :: rest) =
      some (escaped text ++ [Text.doubleQuote], text, rest) := by
  induction text with
  | nil => exact stringBody_quote rest
  | cons point text ih =>
      by_cases special : point = Text.backslash ∨ point = Text.doubleQuote
      · have unfolded : escaped (point :: text) = Text.backslash :: point :: escaped text := by
          simp [escaped, special]
        rw [unfolded, List.cons_append, List.cons_append, stringBody_escape, ih]
        rfl
      · have unfolded : escaped (point :: text) = point :: escaped text := by
          simp [escaped, special]
        rw [unfolded, List.cons_append, stringBody_plain special, ih]
        rfl

theorem literal_eq (text : Text) :
    text.literal = Text.doubleQuote :: (escaped text ++ [Text.doubleQuote]) :=
  rfl

theorem readsAs_string (text : Text) (ref : Option Ref) :
    ReadsAs text.literal [.string text ref] := by
  apply readsAs_atom
  intro source position rest _
  have lexes := lexes_string source position (stringBody_escaped text rest)
  refine ⟨⟨.string text, text.literal, some (position.toRef source)⟩, ?_,
    .string text (some (position.toRef source)), rfl, rfl⟩
  simpa [literal_eq] using lexes

theorem readsAs_join {values : List Value}
    (readsAs : ∀ value ∈ values, ReadsAs value.render [value]) :
    ReadsAs (Text.join " " (Value.renderAll values)) values := by
  induction values with
  | nil => exact readsAs_nil
  | cons value rest ih =>
      have first := readsAs value (by simp)
      cases rest with
      | nil => exact first
      | cons next rest => exact first.spaced (ih fun other member => readsAs other (by simp [member]))

end Printing

namespace Printable

open Printing

theorem readsAs {value : Value} (printable : Printable value) : ReadsAs value.render [value] := by
  induction printable with
  | @identifier name present points notNumeric =>
      exact readsAs_word present (fun point member => (points point member).1) notNumeric
  | @integer number ref => exact readsAs_integer number ref
  | @float number ref finite => exact readsAs_float finite ref
  | @string text ref _ => exact readsAs_string text ref
  | @list items ref _ ih => exact (readsAs_join ih).parenthesized ref

theorem join_kept {texts : List Text}
    (kept : ∀ text ∈ texts, ∀ point ∈ text, Source.isKept point = true) :
    ∀ point ∈ Text.join " " texts, Source.isKept point = true := by
  induction texts with
  | nil => simp [Text.join]
  | cons text rest ih =>
      cases rest with
      | nil => exact kept text (by simp)
      | cons next rest =>
          intro point member
          have behind := ih fun other member => kept other (by simp [member])
          rcases List.mem_append.1 member with member | member
          · rcases List.mem_append.1 member with member | member
            · exact kept text (by simp) point member
            · obtain rfl : point = CodePoint.ofChar ' ' := by simpa [Text.ofString] using member
              decide
          · exact behind point member

theorem renderAll_eq_map (values : List Value) : Value.renderAll values = values.map Value.render := by
  induction values with
  | nil => rfl
  | cons value rest ih => simp [Value.renderAll, ih]

theorem kept {value : Value} (printable : Printable value) :
    ∀ point ∈ value.render, Source.isKept point = true := by
  induction printable with
  | identifier _ points _ => exact fun point member => (points point member).2
  | integer =>
      intro point member
      exact (Lexer.isWordPoint_of_number (Decimal.isPart_of_mem_ofInt member)).2
  | float finite =>
      intro point member
      exact (Lexer.isWordPoint_of_number ((NumberToken.read_floatText finite none).2.1 point member)).2
  | string points =>
      intro point member
      simp only [Value.render, Text.literal, List.mem_append, List.mem_cons, List.mem_flatMap,
        List.not_mem_nil, or_false] at member
      rcases member with (rfl | ⟨source, belongs, shown⟩) | rfl
      · decide
      · split at shown
        · rename_i special
          simp only [List.mem_cons, List.not_mem_nil, or_false] at shown
          rcases shown with rfl | rfl
          · decide
          · exact points _ belongs
        · obtain rfl := List.mem_singleton.1 shown
          exact points _ belongs
      · decide
  | list _ ih =>
      intro point member
      simp only [Value.render, Text.parenthesized, List.mem_append] at member
      rcases member with (opening | inside) | closing
      · obtain rfl : point = CodePoint.ofChar '(' := by simpa [Text.ofString] using opening
        decide
      · refine join_kept ?_ point inside
        rw [renderAll_eq_map]
        intro text rendered
        obtain ⟨item, belongs, rfl⟩ := List.mem_map.1 rendered
        exact ih item belongs
      · obtain rfl : point = CodePoint.ofChar ')' := by simpa [Text.ofString] using closing
        decide

theorem join_renderAll_kept {values : List Value} (printable : ∀ value ∈ values, Printable value) :
    ∀ point ∈ Text.join " " (Value.renderAll values), Source.isKept point = true := by
  apply join_kept
  rw [renderAll_eq_map]
  intro text rendered
  obtain ⟨value, belongs, rfl⟩ := List.mem_map.1 rendered
  exact (printable value belongs).kept

theorem allEqual_of_same {values : List Value}
    (equal : ∀ value ∈ values, ∀ other : Value, other.withoutRefs = value.withoutRefs →
      other.equals value = true) {others : List Value}
    (same : Value.allWithoutRefs others = Value.allWithoutRefs values) :
    Value.allEqual others values = true := by
  induction values generalizing others with
  | nil =>
      cases others with
      | nil => rw [Value.allEqual]
      | cons other rest => simp [Value.allWithoutRefs] at same
  | cons value values ih =>
      cases others with
      | nil => simp [Value.allWithoutRefs] at same
      | cons other rest =>
          simp only [Value.allWithoutRefs, List.cons.injEq] at same
          rw [Value.allEqual, equal value (by simp) other same.1,
            ih (fun value member => equal value (by simp [member])) same.2]
          rfl

/-- Data that is the same up to its places is equal in the language. -/
theorem equals {value : Value} (printable : Printable value) {other : Value}
    (same : other.withoutRefs = value.withoutRefs) : other.equals value = true := by
  induction printable generalizing other with
  | identifier | integer | string => cases other <;> simp_all [Value.withoutRefs, Value.withRef, Value.equals]
  | float finite =>
      have reflexive := Binary64.beq_self finite
      cases other <;> simp_all [Value.withoutRefs, Value.withRef, Value.equals]
  | list _ ih =>
      cases other with
      | list items ref =>
          simp only [Value.withoutRefs, Value.list.injEq, and_true] at same
          rw [Value.equals]
          exact allEqual_of_same (fun value member other same => ih value member same) same
      | _ => simp [Value.withoutRefs, Value.withRef] at same

theorem allEqual {values others : List Value} (printable : ∀ value ∈ values, Printable value)
    (same : Value.allWithoutRefs others = Value.allWithoutRefs values) :
    Value.allEqual others values = true :=
  allEqual_of_same (fun value member _ same => (printable value member).equals same) same

end Printable

namespace Source

open Reader Printing

/-- A text that reads as some values is read as them where it is a whole source. -/
theorem read_of_readsAs {text : Text} {values : List Value} (readsAs : ReadsAs text values)
    (name : Text) : ∃ roots, Reader.read ⟨name, text⟩ = ⟨.ok roots, []⟩ ∧
      Value.allWithoutRefs roots = Value.allWithoutRefs values := by
  let source : Source := ⟨name, text⟩
  obtain ⟨tokens, roots, lexes, spell, same⟩ :=
    readsAs source Position.start [] (by simp [Lexer.EndsWord])
  have whole : Lexer.Lexes source ⟨source.text, Position.start⟩ ⟨[], Position.start.advance text⟩
      tokens := by
    simpa using lexes
  obtain ⟨handed, ended⟩ := tokens_of_lexes whole
  have level : Level false source.tokens roots [] [] 0 := by
    have finished : Level false [] [] [] [] 0 := .finish
    simpa [handed] using spell finished
  obtain ⟨items, strays, unclosed, other, reading⟩ :=
    read_gives ended (ending_kind ended) (tokens_kind source)
  obtain ⟨rfl, -, rfl, rfl⟩ := level.unique other
  exact ⟨_, by simpa [sourceIssues, levelIssues] using reading, same⟩

/-- Printed data is read back, as a single value and as a list of values with blanks between them. -/
theorem read_render (name : Text) :
    (∀ value, Printable value → ∃ root, (ofText name value.render).readOne = .ok root ∧
      root.equals value = true ∧ root.withoutRefs = value.withoutRefs) ∧
      ∀ values, (∀ value ∈ values, Printable value) → ∃ roots,
        (ofText name (Text.join " " (Value.renderAll values))).readAll = .ok roots ∧
          Value.allEqual roots values = true ∧
            Value.allWithoutRefs roots = Value.allWithoutRefs values := by
  constructor
  · intro value printable
    obtain ⟨roots, reading, same⟩ := read_of_readsAs printable.readsAs name
    match roots with
    | [] => simp [Value.allWithoutRefs] at same
    | _ :: _ :: _ => simp [Value.allWithoutRefs] at same
    | [root] =>
        have rootSame : root.withoutRefs = value.withoutRefs := by
          simpa [Value.allWithoutRefs] using same
        refine ⟨root, ?_, printable.equals rootSame, rootSame⟩
        rw [ofText_of_kept name printable.kept]
        simp [readOne, reading, rootIssue?]
  · intro values printable
    obtain ⟨roots, reading, same⟩ :=
      read_of_readsAs (readsAs_join fun value member => (printable value member).readsAs) name
    refine ⟨roots, ?_, Printable.allEqual printable same, same⟩
    rw [ofText_of_kept name (Printable.join_renderAll_kept printable)]
    simp [readAll, reading]

def sampleData : Value :=
  .list [.identifier ⟨"a", none⟩, .integer (-7) none, .float (Float.ofBits 0x3FF8000000000000) none,
    .string "b\" (" none, .list [] none] none

theorem sampleData_printable : Printable sampleData := by
  refine .list fun item member => ?_
  simp only [List.mem_cons, List.not_mem_nil, or_false] at member
  rcases member with rfl | rfl | rfl | rfl | rfl
  · exact .identifier (by decide) (by decide) (by decide)
  · exact .integer
  · exact .float (by decide)
  · exact .string (by decide)
  · exact .list (by simp)

theorem read_render_sampleData :
    (∃ root, (ofText "data" sampleData.render).readOne = .ok root ∧
      root.equals sampleData = true ∧ root.withoutRefs = sampleData.withoutRefs) ∧
      ∃ roots, (ofText "data"
          (Text.join " " (Value.renderAll [sampleData, sampleData]))).readAll = .ok roots ∧
        Value.allEqual roots [sampleData, sampleData] = true ∧
          Value.allWithoutRefs roots = Value.allWithoutRefs [sampleData, sampleData] :=
  ⟨(read_render "data").1 sampleData sampleData_printable,
    (read_render "data").2 [sampleData, sampleData] (by simp [sampleData_printable])⟩

end Source

end Lisplet
