import Lisplet.Proofs.BrokenOff
import Lisplet.Proofs.Layout

/-!
Printing what was read. Whatever a source looks like, its printed form is source text again, and
printing that changes nothing any more. It is read as the same data, except that infinite floats are
printed as words and come back as those.
-/

namespace Lisplet

/-! ### Infinite floats -/

def Value.IsInfinite : Value → Prop
  | .float number _ => ∃ negative, Binary64.ofFloat number = .infinite negative
  | _ => False

mutual

/-- A value and all values in it, a list in front of its items. -/
def Value.nodes : Value → List Value
  | .list items ref => .list items ref :: Value.allNodes items
  | value => [value]

def Value.allNodes : List Value → List Value
  | [] => []
  | value :: rest => value.nodes ++ Value.allNodes rest

end

mutual

/-- What comes back when the printed form is read. -/
def Value.reread : Value → Value
  | .float number ref =>
    match Binary64.ofFloat number with
    | .infinite _ => .identifier ⟨Decimal.floatText number, ref⟩
    | .nan | .finite _ _ _ => .float number ref
  | .list items ref => .list (Value.allReread items) ref
  | value => value

def Value.allReread : List Value → List Value
  | [] => []
  | value :: rest => value.reread :: Value.allReread rest

end

mutual

theorem Value.render_reread (value : Value) : value.reread.render = value.render := by
  cases value with
  | float number ref =>
      rw [Value.reread]
      split <;> rfl
  | list items ref => rw [Value.reread, Value.render, Value.render, Value.renderAll_reread items]
  | _ => rfl

theorem Value.renderAll_reread (values : List Value) :
    Value.renderAll (Value.allReread values) = Value.renderAll values := by
  cases values with
  | nil => rfl
  | cons value rest =>
      rw [Value.allReread, Value.renderAll, Value.renderAll, Value.render_reread value,
        Value.renderAll_reread rest]

end

mutual

theorem Value.reread_of_finite (value : Value) (finite : ∀ node ∈ value.nodes, ¬ node.IsInfinite) :
    value.reread = value := by
  cases value with
  | float number ref =>
      have notInfinite := finite (.float number ref) (List.mem_singleton_self _)
      rw [Value.reread]
      split
      · rename_i negative infinite
        exact absurd ⟨negative, infinite⟩ notInfinite
      · rfl
      · rfl
  | list items ref =>
      have inside := Value.allReread_of_finite items fun node member =>
        finite node (List.mem_cons_of_mem _ member)
      rw [Value.reread, inside]
  | _ => rfl

theorem Value.allReread_of_finite (values : List Value)
    (finite : ∀ node ∈ Value.allNodes values, ¬ node.IsInfinite) :
    Value.allReread values = values := by
  cases values with
  | nil => rfl
  | cons value rest =>
      obtain ⟨first, behind⟩ := List.forall_mem_append.1 finite
      rw [Value.allReread, Value.reread_of_finite value first,
        Value.allReread_of_finite rest behind]

end

mutual

theorem Value.render_withoutRefs (value : Value) : value.withoutRefs.render = value.render := by
  cases value with
  | list items ref =>
      rw [Value.withoutRefs, Value.render, Value.render, Value.renderAll_withoutRefs items]
  | _ => rfl

theorem Value.renderAll_withoutRefs (values : List Value) :
    Value.renderAll (Value.allWithoutRefs values) = Value.renderAll values := by
  cases values with
  | nil => rfl
  | cons value rest =>
      rw [Value.allWithoutRefs, Value.renderAll, Value.renderAll, Value.render_withoutRefs value,
        Value.renderAll_withoutRefs rest]

end

/-! ### What is read can be printed -/

theorem NumberToken.read_number {text : Text} {ref : Option Ref} {token : Token}
    (done : read text ref = .ok token) :
    (∃ number, token.lexeme = .integer number) ∨ ∃ number, token.lexeme = .float number := by
  have ofFloat (found : readFloat text ref = .ok token) : ∃ number, token.lexeme = .float number := by
    unfold readFloat at found
    split at found
    · cases found
      exact ⟨_, rfl⟩
    · cases found
  unfold read at done
  split at done
  · dsimp only at done
    split at done
    · cases done
    · split at done
      · cases done
        exact .inl ⟨_, rfl⟩
      · exact .inr (ofFloat done)
  · exact .inr (ofFloat done)

namespace Lexer

theorem Written.word {name text : Text} (written : Written (.identifier name) text) :
    text = name ∧ IsWord name ∧ NumberToken.looksNumeric name = false := by
  cases written with
  | identifier isWord notNumeric => exact ⟨rfl, isWord, notNumeric⟩
  | number _ _ reads =>
      obtain ⟨_, other⟩ | ⟨_, other⟩ := NumberToken.read_number (reads none) <;> cases other

theorem Quotes.mem {body value : Text} (quotes : Quotes body value) {point : CodePoint}
    (member : point ∈ value) : point ∈ body := by
  induction quotes with
  | nil => exact member
  | plain _ _ _ ih =>
      rcases List.mem_cons.1 member with rfl | inside
      · exact List.mem_cons_self
      · exact List.mem_cons_of_mem _ (ih inside)
  | escaped _ ih =>
      rcases List.mem_cons.1 member with rfl | inside
      · exact List.mem_cons_of_mem _ List.mem_cons_self
      · exact List.mem_cons_of_mem _ (List.mem_cons_of_mem _ (ih inside))

theorem Written.string_mem {value text : Text} (written : Written (.string value) text)
    {point : CodePoint} (member : point ∈ value) : point ∈ text := by
  cases written with
  | string quotes => simp [quotes.mem member]
  | number _ _ reads =>
      obtain ⟨_, other⟩ | ⟨_, other⟩ := NumberToken.read_number (reads none) <;> cases other

end Lexer

/-- The words that infinite floats are printed as. -/
theorem printable_infinite (negative : Bool) (ref : Option Ref) :
    Printable (.identifier ⟨Decimal.signText negative ++ "inf", ref⟩) := by
  let word : Text := Decimal.signText negative ++ "inf"
  have isWord : word ≠ [] ∧
      (∀ point ∈ word, Lexer.isWordPoint point = true ∧ Source.isKept point = true) ∧
      NumberToken.looksNumeric word = false := by
    cases negative <;> decide
  exact .identifier isWord.1 isWord.2.1 isWord.2.2

namespace Reader

open Lexer

theorem printable_of_atom {token : Token} {value : Value} (atom : atom? token = some value)
    (written : Written token.lexeme token.text)
    (kept : ∀ point ∈ token.text, Source.isKept point = true) : Printable value.reread := by
  obtain ⟨lexeme, text, ref⟩ := token
  cases lexeme with
  | endOfInput | opening | closing => cases atom
  | identifier name =>
      cases atom
      obtain ⟨same, isWord, notNumeric⟩ := written.word
      change text = name at same
      subst same
      exact .identifier isWord.present
        (fun point member => ⟨isWord.points point member, kept point member⟩) notNumeric
  | integer number =>
      cases atom
      exact .integer
  | string content =>
      cases atom
      exact .string fun point member => kept point (written.string_mem member)
  | float number =>
      cases atom
      have notNan := Binary64.not_nan_of_beq_self (written.comparable rfl)
      rw [Value.reread]
      cases stands : Binary64.ofFloat number with
      | nan => exact absurd stands notNan
      | infinite negative =>
          have shown : Decimal.floatText number = Decimal.signText negative ++ "inf" := by
            rw [Decimal.floatText, stands]
          rw [shown]
          exact printable_infinite negative ref
      | finite negative mantissa exponent =>
          exact .float (by rw [Binary64.isFinite, stands])

/-- What tokens are read into is printed as text that comes back. -/
theorem Level.printable {inside tokens items rest strays unclosed}
    (level : Level inside tokens items rest strays unclosed)
    (tokensFine : ∀ token ∈ tokens, Written token.lexeme token.text ∧
      ∀ point ∈ token.text, Source.isKept point = true) :
    ∀ item ∈ Value.allReread items, Printable item := by
  induction level with
  | finish | close _ => exact List.forall_mem_nil _
  | stray _ _ ih => exact ih fun token member => tokensFine token (List.mem_cons_of_mem _ member)
  | atom atom _ ih =>
      obtain ⟨⟨written, kept⟩, behind⟩ := List.forall_mem_cons.1 tokensFine
      exact List.forall_mem_cons.2 ⟨printable_of_atom atom written kept, ih behind⟩
  | list _ _ inner _ ihInner ihBehind =>
      have inside := (List.forall_mem_cons.1 tokensFine).2
      have behind := fun token member =>
        inside token (inner.suffix.mem (List.mem_cons_of_mem _ member))
      exact List.forall_mem_cons.2 ⟨.list (ihInner inside), ihBehind behind⟩
  | cutOff _ _ ih =>
      have inside := (List.forall_mem_cons.1 tokensFine).2
      exact List.forall_mem_cons.2 ⟨.list (ih inside), List.forall_mem_nil _⟩

end Reader

namespace Source

open Lexer Reader Printing

/-- The printed form of what was read is read again, into what is printed the same. It is the same
data, unless there is an infinite float in it. -/
theorem readAll_printed {name text : Text} {roots : List Value}
    (done : (ofText name text).readAll = .ok roots) (other : Text) :
    let printed := Text.join " " (Value.renderAll roots)
    ∃ again, (ofText other printed).readAll = .ok again ∧
      Text.join " " (Value.renderAll again) = printed ∧
      ((∀ node ∈ Value.allNodes roots, ¬ node.IsInfinite) →
        Value.allEqual again roots = true ∧
          Value.allWithoutRefs again = Value.allWithoutRefs roots) := by
  intro printed
  obtain ⟨last, ended⟩ := ending_of_readAll done
  have printable : ∀ value ∈ Value.allReread roots, Printable value := by
    refine (level_of_readAll ended done).printable fun token member => ?_
    exact ⟨tokens_written _ token member,
      List.filter_eq_self.1 (tokens_kept name text token member)⟩
  obtain ⟨again, reading, same⟩ :=
    read_of_readsAs (readsAs_join fun value member => (printable value member).readsAs) other
  have kept := Printable.join_renderAll_kept printable
  rw [Value.renderAll_reread] at reading kept
  refine ⟨again, ?_, ?_, fun finite => ?_⟩
  · rw [ofText_of_kept other kept]
    simp [readAll, reading]
  · rw [← Value.renderAll_withoutRefs again, same, Value.renderAll_withoutRefs,
      Value.renderAll_reread]
  · rw [Value.allReread_of_finite roots finite] at printable same
    exact ⟨Printable.allEqual printable same, same⟩

theorem readAll_printed_commented :
    ∃ roots again, (ofText "text" "(a ;b\n)").readAll = .ok roots ∧
      Text.join " " (Value.renderAll roots) = "(a)" ∧
      (ofText "printed" "(a)").readAll = .ok again ∧
      Text.join " " (Value.renderAll again) = "(a)" ∧
      Value.allEqual again roots = true ∧
      Value.allWithoutRefs again = Value.allWithoutRefs roots := by
  let source := ofText "text" "(a ;b\n)"
  let roots : List Value :=
    [.list [.identifier ⟨"a", some ⟨source, 0, 1⟩⟩] (some ⟨source, 0, 0⟩)]
  have done : source.readAll = .ok roots := by
    have word : Lexes source ⟨("a" : Text) ++ " ;b\n)", ⟨0, 1⟩⟩ ⟨" ;b\n)", ⟨0, 2⟩⟩
        [⟨.identifier "a", "a", some ⟨source, 0, 1⟩⟩] :=
      lexes_word (by decide) (by decide) (by decide) (endsWord_cons rfl _)
    have comment : Separator (CodePoint.ofChar ' ' :: (semicolon :: "b" ++ newline :: [])) :=
      .blank rfl (.comment (by decide) .nil)
    have lexes := (((lexes_opening source Position.start "a ;b\n)").trans word).trans
      (comment.lexes source ⟨0, 2⟩ ")")).trans (lexes_closing source ⟨1, 0⟩ [])
    obtain ⟨tokens, ended⟩ := tokens_of_lexes lexes
    refine readAll_of_level ended ?_
    rw [tokens]
    exact .list rfl rfl (.atom rfl (.close rfl)) .finish
  obtain ⟨again, read, same, equal⟩ := readAll_printed done "printed"
  have finite : ∀ node ∈ Value.allNodes roots, ¬ node.IsInfinite := by
    simp [roots, Value.allNodes, Value.nodes, Value.IsInfinite]
  exact ⟨roots, again, done, rfl, read, same, (equal finite).1, (equal finite).2⟩

end Source

end Lisplet
