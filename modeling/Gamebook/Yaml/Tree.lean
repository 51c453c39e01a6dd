import Gamebook.Yaml.Token

/-! What the tokens of a YAML text form: scalars, lists and tables, before scalars have values. -/

namespace Gamebook.Yaml

/-- A scalar as written, or a collection. -/
inductive Tree where
  | scalar (text : String) (plain : Bool)
  | list (items : List Tree)
  | table (entries : List (Tree × Tree))
  deriving Repr, Inhabited

namespace Tree

/-- What stands for a value that is left out. -/
def omitted : Tree := .scalar "" true

/-- The next token. Where the text could not be read further, nothing may depend on it. -/
def peek : List Token → Except Fault Token
  | [] => .error .malformed
  | .broken fault :: _ => .error fault
  | token :: _ => .ok token

/-- Where a value stands. -/
inductive Position where
  -- After a colon or a question mark outside brackets, where a list need not be indented.
  | argument
  | block
  | bracketed
  deriving DecidableEq

/-- The tokens that may follow a mark whose value is left out. -/
def blockFollowers : List Token := [.key, .value, .blockEnd]

/-- The tokens that may follow a mark inside brackets whose value is left out. -/
def bracketFollowers (closing : Token) : List Token := [.comma, closing]

mutual

/-- A value. -/
def value (position : Position) : Nat → List Token → Except Fault (Tree × List Token)
  | 0, _ => .error .malformed
  | fuel + 1, tokens => do
    match ← peek tokens, position with
    | .item, .argument =>
      let (items, tokens) ← alignedItems fuel tokens
      return (.list items, tokens)
    | .scalar text plain, _ => return (.scalar text plain, tokens.drop 1)
    | .openList, _ =>
      let (items, tokens) ← bracketedItems true fuel (tokens.drop 1)
      return (.list items, tokens)
    | .openTable, _ =>
      let (entries, tokens) ← bracketedEntries true fuel (tokens.drop 1)
      return (.table entries, tokens)
    | .listStart, .argument | .listStart, .block =>
      let (items, tokens) ← blockItems fuel (tokens.drop 1)
      return (.list items, tokens)
    | .tableStart, .argument | .tableStart, .block =>
      let (entries, tokens) ← blockEntries fuel (tokens.drop 1)
      return (.table entries, tokens)
    | _, _ => .error .malformed

/-- The value after a mark, unless it is left out before certain tokens. -/
def valueUnless (followers : List Token) (position : Position) :
    Nat → List Token → Except Fault (Tree × List Token)
  | 0, _ => .error .malformed
  | fuel + 1, tokens => do
    if followers.contains (← peek tokens) then return (omitted, tokens)
    else value position fuel tokens

/-- The value after a colon, which may be left out together with the colon. -/
def argument (followers : List Token) (position : Position) :
    Nat → List Token → Except Fault (Tree × List Token)
  | 0, _ => .error .malformed
  | fuel + 1, tokens => do
    match ← peek tokens with
    | .value => valueUnless followers position fuel (tokens.drop 1)
    | _ => return (omitted, tokens)

/-- An entry that starts with the mark of its key or, where the key is left out, of its value. -/
def entry (followers : List Token) (position : Position) :
    Nat → List Token → Except Fault ((Tree × Tree) × List Token)
  | 0, _ => .error .malformed
  | fuel + 1, tokens => do
    let (key, tokens) ← match ← peek tokens with
      | .key => valueUnless (.value :: followers) position fuel (tokens.drop 1)
      | _ => pure (omitted, tokens)
    let (value, tokens) ← argument followers position fuel tokens
    return ((key, value), tokens)

/-- The items of an indented list. -/
def blockItems : Nat → List Token → Except Fault (List Tree × List Token)
  | 0, _ => .error .malformed
  | fuel + 1, tokens => do
    match ← peek tokens with
    | .item =>
      let (first, tokens) ← valueUnless [.item, .blockEnd] .block fuel (tokens.drop 1)
      let (rest, tokens) ← blockItems fuel tokens
      return (first :: rest, tokens)
    | .blockEnd => return ([], tokens.drop 1)
    | _ => .error .malformed

/-- The items of a list in the column of the table that holds it. -/
def alignedItems : Nat → List Token → Except Fault (List Tree × List Token)
  | 0, _ => .error .malformed
  | fuel + 1, tokens => do
    match ← peek tokens with
    | .item =>
      let (first, tokens) ← valueUnless (.item :: blockFollowers) .block fuel (tokens.drop 1)
      let (rest, tokens) ← alignedItems fuel tokens
      return (first :: rest, tokens)
    | _ => return ([], tokens)

/-- The entries of an indented table. -/
def blockEntries : Nat → List Token → Except Fault (List (Tree × Tree) × List Token)
  | 0, _ => .error .malformed
  | fuel + 1, tokens => do
    match ← peek tokens with
    | .key | .value =>
      let (first, tokens) ← entry blockFollowers .argument fuel tokens
      let (rest, tokens) ← blockEntries fuel tokens
      return (first :: rest, tokens)
    | .blockEnd => return ([], tokens.drop 1)
    | _ => .error .malformed

/-- The items of a list in brackets. An item with a key is a table of one entry. -/
def bracketedItems (first : Bool) : Nat → List Token → Except Fault (List Tree × List Token)
  | 0, _ => .error .malformed
  | fuel + 1, tokens => do
    let next ← peek tokens
    if next = .closeList then return ([], tokens.drop 1)
    else if !first && next ≠ .comma then .error .malformed
    else
      let tokens := if first then tokens else tokens.drop 1
      match ← peek tokens with
      | .closeList => return ([], tokens.drop 1)
      | .key =>
        let (entry, tokens) ← entry (bracketFollowers .closeList) .bracketed fuel tokens
        let (rest, tokens) ← bracketedItems false fuel tokens
        return (.table [entry] :: rest, tokens)
      | _ =>
        let (item, tokens) ← value .bracketed fuel tokens
        let (rest, tokens) ← bracketedItems false fuel tokens
        return (item :: rest, tokens)

/-- The entries of a table in braces, where a key may stand alone. -/
def bracketedEntries (first : Bool) :
    Nat → List Token → Except Fault (List (Tree × Tree) × List Token)
  | 0, _ => .error .malformed
  | fuel + 1, tokens => do
    let next ← peek tokens
    if next = .closeTable then return ([], tokens.drop 1)
    else if !first && next ≠ .comma then .error .malformed
    else
      let tokens := if first then tokens else tokens.drop 1
      match ← peek tokens with
      | .closeTable => return ([], tokens.drop 1)
      | .key | .value =>
        let (entry, tokens) ← entry (bracketFollowers .closeTable) .bracketed fuel tokens
        let (rest, tokens) ← bracketedEntries false fuel tokens
        return (entry :: rest, tokens)
      | _ =>
        let (key, tokens) ← value .bracketed fuel tokens
        let (rest, tokens) ← bracketedEntries false fuel tokens
        return ((key, omitted) :: rest, tokens)

end

/-- The tree of a document that may start with a mark; none follows the end of the text. -/
def document (fuel : Nat) (tokens : List Token) : Except Fault (Option Tree × List Token) := do
  match ← peek tokens with
  | .textEnd => return (none, tokens)
  | .documentStart =>
    let (tree, tokens) ←
      valueUnless [.documentStart, .documentEnd, .textEnd] .block fuel (tokens.drop 1)
    return (some tree, tokens)
  | _ =>
    let (tree, tokens) ← value .block fuel tokens
    return (some tree, tokens)

/-- The tree of the only document of a text. -/
def ofTokens (tokens : List Token) : Except Fault (Option Tree) := do
  let (tree, rest) ← document (4 * tokens.length + 4) tokens
  let rest ← match ← peek rest with
    | .documentEnd => pure (rest.drop 1)
    | _ => pure rest
  match ← peek rest with
  | .textEnd => return tree
  | _ => .error .malformed

end Tree

end Gamebook.Yaml
