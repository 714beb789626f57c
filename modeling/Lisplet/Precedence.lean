/-!
Top-down operator precedence parsing of any language. A grammar says how tokens start expressions,
how they continue them and how tightly they bind; the parser stays one token ahead of the grammar.
Reported issues never stop a parse; a failure of the token stream does.
-/

namespace Lisplet

namespace Precedence

/-- Tokens, and what follows them: one token for ever, or a failure of the stream. -/
structure TokenStream (Tok Failure : Type) where
  tokens : List Tok
  ending : Except Failure Tok

/-- Why a parse stopped. The fuel of `parse` lasts for grammars that pass a token with every
expression they ask for. -/
inductive Stop (Failure : Type)
  | stream (failure : Failure)
  | outOfFuel

structure State (Tok Failure Issue : Type) where
  current : Tok
  upcoming : TokenStream Tok Failure
  issues : Array Issue

abbrev Parser (Tok Failure Issue : Type) : Type → Type :=
  ExceptT (Stop Failure) (StateM (State Tok Failure Issue))

variable {Tok Failure Issue Tree : Type}

namespace TokenStream

def pull (stream : TokenStream Tok Failure) : Except Failure (Tok × TokenStream Tok Failure) :=
  match stream.tokens with
  | token :: rest => .ok (token, { stream with tokens := rest })
  | [] => stream.ending.map fun last => (last, stream)

end TokenStream

def State.start (stream : TokenStream Tok Failure) : Except Failure (State Tok Failure Issue) :=
  stream.pull.map fun (token, upcoming) => ⟨token, upcoming, #[]⟩

def peek : Parser Tok Failure Issue Tok := do
  return (← get).current

def advance : Parser Tok Failure Issue Tok := do
  let state ← get
  match state.upcoming.pull with
  | .ok (next, upcoming) =>
    set { state with current := next, upcoming }
    return state.current
  | .error failure => throw (.stream failure)

def report (issue : Issue) : Parser Tok Failure Issue Unit :=
  modify fun state => { state with issues := state.issues.push issue }

/-- How the tokens of a language build expressions. Both actions get the parser of subexpressions,
which takes the bound that the powers of the tokens behind the subexpression have to exceed. Below
zero no token is weak enough to end it. -/
structure Grammar (Tok Failure Issue Tree : Type) where
  power : Tok → Nat
  startWith : (Int → Parser Tok Failure Issue Tree) → Tok → Parser Tok Failure Issue Tree
  continueWith :
    (Int → Parser Tok Failure Issue Tree) → Tok → Tree → Parser Tok Failure Issue Tree

mutual

/-- An expression, continued as long as the tokens bind more tightly than `bound`. -/
def expression (grammar : Grammar Tok Failure Issue Tree) :
    Nat → Int → Parser Tok Failure Issue Tree
  | 0, _ => throw .outOfFuel
  | fuel + 1, bound => do
    let token ← advance
    let left ← grammar.startWith (expression grammar fuel) token
    continued grammar fuel bound left

def continued (grammar : Grammar Tok Failure Issue Tree) :
    Nat → Int → Tree → Parser Tok Failure Issue Tree
  | 0, _, _ => throw .outOfFuel
  | fuel + 1, bound, left => do
    if bound < grammar.power (← peek) then
      let token ← advance
      let extended ← grammar.continueWith (expression grammar fuel) token left
      continued grammar fuel bound extended
    else return left

end

/-- Two units for every token: one to start or continue an expression, one for its subexpression. -/
def State.fuel (state : State Tok Failure Issue) : Nat :=
  2 * state.upcoming.tokens.length + 4

def parse (grammar : Grammar Tok Failure Issue Tree) (bound : Int)
    (state : State Tok Failure Issue) : Except (Stop Failure) Tree × State Tok Failure Issue :=
  (expression grammar state.fuel bound).run.run state

end Precedence

end Lisplet
