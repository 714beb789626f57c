import Lisplet.Proofs.Lexing

/-!
Runs of the lexer's machine, one transition after the other. A walk is what a run to the end hands
out, and a run cannot be longer than twice the text and one transition.
-/

namespace Lisplet

namespace Lexer

/-- Transitions that lead from a mode and a cursor to others. -/
inductive Leads (source : Source) : List Transition → Mode → Cursor → Mode → Cursor → Prop
  | here {mode cursor} : Leads source [] mode cursor mode cursor
  | step {made mode cursor result next later last} :
      transition source mode cursor = .ok result → result.next = some next →
      Leads source made next result.cursor later last →
      Leads source (result :: made) mode cursor later last

variable {source : Source} {mode next later : Mode} {cursor last : Cursor} {result : Transition}
  {made : List Transition}

namespace Leads

theorem walk (leads : Leads source made mode cursor later last) :
    Lexer.walk source mode cursor =
      ⟨made ++ (Lexer.walk source later last).transitions,
        (Lexer.walk source later last).ending⟩ := by
  induction leads with
  | here => rfl
  | step done continued _ ih => rw [walk_of_next done continued, ih, List.cons_append]

theorem snoc (leads : Leads source made mode cursor later last)
    (done : transition source later last = .ok result) (continued : result.next = some next) :
    Leads source (made ++ [result]) mode cursor next result.cursor := by
  induction leads with
  | here => exact .step done continued .here
  | step before onwards _ ih => exact .step before onwards (ih done)

theorem consumes (leads : Leads source made mode cursor later last) :
    ∃ consumed, cursor.rest = consumed ++ last.rest ∧
      last.position = cursor.position.advance consumed := by
  induction leads with
  | here => exact ⟨[], rfl, rfl⟩
  | step done _ _ ih =>
      obtain ⟨first, consumes⟩ := transition_consumes done
      obtain ⟨second, rest, position⟩ := ih
      refine ⟨first ++ second, ?_, ?_⟩
      · rw [consumes.rest, rest, List.append_assoc]
      · rw [position, consumes.position, Position.advance_append]

end Leads

/-- The machine stops, with the last transition or by a failure, and these are all transitions that
it has made. -/
def StopsAt (source : Source) (mode : Mode) (cursor : Cursor) (made : List Transition)
    (walked : Walk) : Prop :=
  (∃ failure, transition source mode cursor = .error failure ∧ walked = ⟨made, .error failure⟩) ∨
    ∃ result, transition source mode cursor = .ok result ∧ result.next = none ∧
      walked = ⟨made ++ [result], .ok result.cursor⟩

theorem exists_leads (source : Source) (mode : Mode) (cursor : Cursor) : ∃ made later last,
    Leads source made mode cursor later last ∧
      StopsAt source later last made (walk source mode cursor) := by
  fun_induction Lexer.walk source mode cursor with
  | case1 mode cursor failure failed => exact ⟨[], mode, cursor, .here, .inl ⟨_, failed, rfl⟩⟩
  | case2 mode cursor result done stopped =>
      exact ⟨[], mode, cursor, .here, .inr ⟨result, done, stopped, rfl⟩⟩
  | case3 mode cursor result done next continued remaining ih =>
      obtain ⟨made, later, last, leads, stops⟩ := ih
      refine ⟨result :: made, later, last, .step done continued leads, ?_⟩
      change StopsAt source later last (result :: made) ⟨result :: (walk source next _).transitions,
        (walk source next _).ending⟩
      rcases stops with ⟨failure, failed, same⟩ | ⟨final, finished, stopped, same⟩
      · exact .inl ⟨failure, failed, by rw [same]⟩
      · exact .inr ⟨final, finished, stopped, by rw [same]; rfl⟩

/-! ### How long a run is -/

theorem next_eq_word (apart : mode ≠ .word) (done : transition source mode cursor = .ok result)
    (continued : result.next = some next) : next = .word := by
  cases mode with
  | word => exact absurd rfl apart
  | opening | closing =>
      cases done
      unfold singleTransition at continued
      split at continued <;> cases continued
      rfl
  | comment | blank =>
      cases done
      unfold skipTransition at continued
      split at continued <;> cases continued
      rfl
  | string =>
      unfold transition stringTransition at done
      dsimp only at done
      split at done
      · cases done
        cases continued
      · split at done <;> cases done
        cases continued
        rfl

/-- The machine enters a mode only where a transition is left to it. -/
theorem measure_pos_of_next (done : transition source mode cursor = .ok result)
    (continued : result.next = some next) : 0 < measure next result.cursor := by
  by_cases inWord : mode = .word
  · subst inWord
    obtain ⟨reached, entered⟩ := wordTransition_reaches done
    rw [continued] at entered
    rw [reached]
    cases behind : cursor.rest.dropWhile isWordPoint with
    | nil =>
        rw [behind] at entered
        cases entered
    | cons point rest =>
        simp only [measure, Cursor.behind, List.length_cons]
        omega
  · simp [next_eq_word inWord done continued, measure]

theorem Leads.measure_le (leads : Leads source made mode cursor later last) :
    made.length + measure later last ≤ measure mode cursor := by
  induction leads with
  | here => simp
  | step done continued _ ih =>
      have falls := transition_measure source _ _ _ _ done continued
      rw [List.length_cons]
      omega

theorem Leads.measure_pos (leads : Leads source made mode cursor later last)
    (enters : 0 < measure mode cursor) : 0 < measure later last := by
  induction leads with
  | here => exact enters
  | step done continued _ ih => exact ih (measure_pos_of_next done continued)

end Lexer

namespace Source

open Lexer

/-- All transitions of a source's machine, with the one that it stops at. -/
theorem walk_stops (source : Source) : ∃ made mode cursor,
    Leads source made .word ⟨source.text, Position.start⟩ mode cursor ∧
      StopsAt source mode cursor made source.walk ∧
      made.length + 1 ≤ 2 * source.text.length + 1 := by
  obtain ⟨made, mode, cursor, leads, stops⟩ :=
    exists_leads source .word ⟨source.text, Position.start⟩
  have positive := leads.measure_pos (by simp [Lexer.measure])
  have bounded := leads.measure_le
  have whole : Lexer.measure .word ⟨source.text, Position.start⟩ = 2 * source.text.length + 1 := rfl
  exact ⟨made, mode, cursor, leads, stops, by omega⟩

end Source

end Lisplet
